import Moqtail.Wire.Datagram
import Moqtail.Wire.PropertyForwarding

/-! Which datagrams there are on the wire, and which of them can be written. -/
namespace Moqtail

open Lib

/-! The lists of properties that are read. -/

/-- Properties that are read of pairs in order are canonical, and in order. -/
theorem canonicalFrom_of_forall₂ {kvps : List KeyValuePair} {props : List ObjectProperty}
    (h : List.Forall₂ (fun kvp p => ObjectProperty.deserialize kvp = .ok p) kvps props) :
    ∀ {prevType : UInt64}, KvpsFrom prevType kvps → ObjectProperty.CanonicalFrom prevType props := by
  induction h with
  | nil => exact fun _ => trivial
  | @cons kvp p kvps props hread _ ih =>
    rintro prevType ⟨hwf, hle, hrest⟩
    obtain ⟨kvp', hinto, -, hrewrites⟩ := ObjectProperty.deserialize_rewrites hwf hread
    have htype : p.typeValue = kvp.getType := by
      rw [← ObjectProperty.getType_of_tryIntoKeyValuePair hinto, hrewrites.getType]
    refine ⟨ObjectProperty.canonical_of_deserialize hwf hread, ?_, ?_⟩
    · rw [htype]
      exact hle
    · rw [htype]
      exact ih hrest

theorem canonicalFrom_of_deserialize {bytes : Bytes} {props : List ObjectProperty}
    (h : deserializeObjectProperties bytes = .ok props) : ObjectProperty.CanonicalFrom 0 props := by
  obtain ⟨kvps, hkvps, hprops⟩ := except_bind_eq_ok.mp h
  exact canonicalFrom_of_forall₂ (mapM_eq_ok_iff.mp hprops)
    (deserializeKvpsFrom_wellFormed _ _ _ _ hkvps).1

namespace Datagram

/-- A payload or a status, which neither ends the Group nor, unless Normal, has properties with it,
and properties in canonical form, if any. -/
structure WellFormed (d : Datagram) : Prop where
  body : d.payload.isSome = !d.objectStatus.isSome
  endOfGroup : ¬ (d.objectStatus.isSome ∧ d.endOfGroup = true)
  noProperties : nonNormal d.objectStatus = true → d.properties = none
  canonical : ∀ props ∈ d.properties, props ≠ [] ∧ ObjectProperty.CanonicalFrom 0 props

/-- The properties are written as a byte string, and the length of one fits a word. -/
def FitsMemory (d : Datagram) : Prop :=
  ∀ props ∈ d.properties, ∀ ext, serializeObjectProperties props = .ok ext → ext.length < 2 ^ 64

/-- What the type of a datagram says of it. -/
structure TypeOf (t : ObjectDatagramType) (d : Datagram) : Prop where
  hasProperties : t.hasProperties = d.properties.isSome
  isEndOfGroup : t.isEndOfGroup = d.endOfGroup
  isZeroObjectId : t.isZeroObjectId = true → d.objectId = 0
  hasDefaultPriority : t.hasDefaultPriority = d.publisherPriority.isNone
  isStatus : t.isStatus = d.objectStatus.isSome
  not_both : ¬ (t.isStatus = true ∧ t.isEndOfGroup = true)
  normal : t.isStatus = true → t.hasProperties = true → d.objectStatus = some .normal

theorem readable_of_wellFormed {d : Datagram} (h : d.WellFormed) (hfits : d.FitsMemory) :
    d.Readable where
  properties := by
    have hcanonical := h.canonical
    unfold FitsMemory at hfits
    cases hprops : d.properties with
    | none => trivial
    | some props =>
      rw [hprops] at hcanonical hfits
      obtain ⟨hne, hfrom⟩ := hcanonical props rfl
      obtain ⟨ext, hext, hback⟩ := deserializeObjectProperties_of_canonical hfrom
      exact ⟨hne, ext, hfits props rfl ext hext, hback⟩
  payload := by
    have hbody := h.body
    cases hpayload : d.payload <;> cases hstatus : d.objectStatus <;> simp_all
  endOfGroup := fun hstatus => by
    by_contra hend
    exact h.endOfGroup ⟨hstatus, by simpa using hend⟩
  noProperties := h.noProperties

theorem wellFormed_of_readable {d : Datagram} (h : d.Readable) : d.WellFormed where
  body := by
    have hpayload := h.payload
    cases hsome : d.payload <;> cases hstatus : d.objectStatus <;> simp_all
  endOfGroup := by
    rintro ⟨hstatus, hend⟩
    rw [h.endOfGroup hstatus] at hend
    cases hend
  noProperties := h.noProperties
  canonical := by
    intro props hprops
    have hreadable := h.properties
    rw [Option.mem_def.mp hprops] at hreadable
    obtain ⟨hne, bytes, -, hdec⟩ := hreadable
    exact ⟨hne, canonicalFrom_of_deserialize hdec⟩

/-! What is read of each field is what the type says. -/

theorem deserializeObjectId_zero {t : ObjectDatagramType} {bytes rest : Bytes} {objectId : UInt64}
    (h : deserializeObjectId t bytes = .ok (objectId, rest)) (hzero : t.isZeroObjectId = true) :
    objectId = 0 := by
  rw [deserializeObjectId, if_pos hzero] at h
  cases h
  rfl

theorem deserializePriority_isNone {t : ObjectDatagramType} {bytes rest : Bytes}
    {priority : Option UInt8} (h : deserializePriority t bytes = .ok (priority, rest)) :
    t.hasDefaultPriority = priority.isNone := by
  unfold deserializePriority at h
  split at h
  next hdefault =>
    cases h
    exact hdefault
  next hdefault =>
    split at h
    · cases h
    · cases h
      simpa using hdefault

theorem deserializeProperties_isSome {t : ObjectDatagramType} {bytes rest : Bytes}
    {properties : Option (List ObjectProperty)}
    (h : deserializeProperties t bytes = .ok (properties, rest)) :
    t.hasProperties = properties.isSome := by
  unfold deserializeProperties at h
  split at h
  next hhas =>
    obtain ⟨⟨extLen, left⟩, -, h⟩ := except_bind_eq_ok.mp h
    dsimp only at h
    split at h
    · cases h
    · obtain ⟨⟨ext, left'⟩, -, h⟩ := except_bind_eq_ok.mp h
      obtain ⟨headers, -, hret⟩ := except_bind_eq_ok.mp h
      cases hret
      exact hhas
  next hhas =>
    cases h
    simpa using hhas

theorem deserializeBody_isSome {t : ObjectDatagramType} {bytes rest : Bytes}
    {payload : Option Bytes} {status : Option ObjectStatus}
    (h : deserializeBody t bytes = .ok ((payload, status), rest)) :
    t.isStatus = status.isSome := by
  unfold deserializeBody at h
  split at h
  next hstatus =>
    obtain ⟨⟨raw, left⟩, -, h⟩ := except_bind_eq_ok.mp h
    obtain ⟨status', -, hret⟩ := except_bind_eq_ok.mp h
    cases hret
    exact hstatus
  next hstatus =>
    cases h
    simpa using hstatus

theorem deserialize_typeOf {bytes rest : Bytes} {d : Datagram}
    (h : deserialize bytes = .ok (d, rest)) :
    ∃ typeRaw left t, getVi bytes = .ok (typeRaw, left) ∧
      ObjectDatagramType.tryNew typeRaw = .ok t ∧ TypeOf t d := by
  have hreadable := deserialize_readable h
  unfold deserialize at h
  obtain ⟨⟨typeRaw, left⟩, htype, h⟩ := except_bind_eq_ok.mp h
  obtain ⟨t, ht, h⟩ := except_bind_eq_ok.mp h
  obtain ⟨⟨trackAlias, b2⟩, -, h⟩ := except_bind_eq_ok.mp h
  obtain ⟨⟨groupId, b3⟩, -, h⟩ := except_bind_eq_ok.mp h
  obtain ⟨⟨objectId, b4⟩, hid, h⟩ := except_bind_eq_ok.mp h
  obtain ⟨⟨priority, b5⟩, hpriority, h⟩ := except_bind_eq_ok.mp h
  obtain ⟨⟨properties, b6⟩, hproperties, h⟩ := except_bind_eq_ok.mp h
  obtain ⟨⟨⟨payload, status⟩, b7⟩, hbody, h⟩ := except_bind_eq_ok.mp h
  dsimp only at h
  split at h
  · cases h
  · cases h
    have hisSome := deserializeProperties_isSome hproperties
    have hisStatus := deserializeBody_isSome hbody
    refine ⟨typeRaw, left, t, htype, ht, hisSome, rfl, deserializeObjectId_zero hid,
      deserializePriority_isNone hpriority, hisStatus, t.not_status_and_endOfGroup, ?_⟩
    intro hstatus hhas
    rw [hisStatus] at hstatus
    rw [hisSome] at hhas
    obtain ⟨status', rfl⟩ := Option.isSome_iff_exists.mp hstatus
    have hnormal := hreadable.noProperties
    dsimp only at hnormal
    by_contra hne
    rw [hnormal (by simpa [nonNormal] using hne)] at hhas
    cases hhas

/-- A well-formed datagram can be written, and is read back the same. Every datagram that is read is
well-formed, as its type says, and can be written so that it is read back the same. -/
theorem datagram_codec :
    (∀ d : Datagram, d.WellFormed → d.FitsMemory →
      ∃ out, d.serialize = .ok out ∧ deserialize out = .ok (d, [])) ∧
    ∀ bytes d rest, deserialize bytes = .ok (d, rest) →
      (∃ out, d.serialize = .ok out ∧ deserialize out = .ok (d, [])) ∧ d.WellFormed ∧
      ∃ typeRaw left t, getVi bytes = .ok (typeRaw, left) ∧
        ObjectDatagramType.tryNew typeRaw = .ok t ∧ TypeOf t d := by
  constructor
  · intro d h hfits
    exact deserialize_serialize d (readable_of_wellFormed h hfits)
  · intro bytes d rest h
    have hreadable := deserialize_readable h
    exact ⟨deserialize_serialize d hreadable, wellFormed_of_readable hreadable,
      deserialize_typeOf h⟩

end Datagram

end Moqtail
