import Moqtail.Wire.PartialReads
import Moqtail.Wire.PlainArithmetic

/-! The objects of one subgroup, one after the other.

What is on the wire for an object depends on the header's flag, on the object before it and on
whether its payload is empty. A reader that follows the flag and the Object IDs gets the objects
back, and one that has a part of an object's bytes is told to wait. -/
namespace Moqtail

open Lib

namespace SubgroupObject

/-- The object a reader sees: properties under the flag only, then always a list, and either a
payload with bytes in it or a status. -/
def onWire (hasProperties : Bool) (o : SubgroupObject) : SubgroupObject where
  objectId := o.objectId
  properties := if hasProperties then some (o.properties.getD []) else none
  objectStatus := if (o.payload.getD []).isEmpty then some (o.objectStatus.getD .normal) else none
  payload := if (o.payload.getD []).isEmpty then none else o.payload

/-- Properties only where the header announces them, in canonical form and order, and lengths
that a list of bytes can have. -/
structure Sendable (hasProperties : Bool) (o : SubgroupObject) : Prop where
  announced : hasProperties = false → o.properties.getD [] = []
  canonical : ObjectProperty.CanonicalFrom 0 (o.properties.getD [])
  propertiesFit : ∀ ext, serializeObjectProperties (o.properties.getD []) = .ok ext →
    ext.length < 2 ^ 64
  payloadFits : (o.payload.getD []).length < 2 ^ 64

/-- `out` carries `o` after `previous`: both builds write it, both read `o` from it, and neither
makes more of a part of it than that bytes are missing. -/
structure CarriedBy (hasProperties : Bool) (previous : Option UInt64) (o : SubgroupObject)
    (out : Bytes) : Prop where
  written : o.serialize previous hasProperties = .ok out
  read : Reads (deserialize · previous hasProperties) out (o.onWire hasProperties)
  waits : ∀ front rear, out = front ++ rear → rear ≠ [] →
    ∃ e, deserialize front previous hasProperties = .error e ∧ e.isNotEnoughBytes = true
  writtenChecked : (o.serializeChecked previous hasProperties).run = some (.ok out)
  readChecked : ∀ bytes more tail, out ++ tail = bytes ++ more →
    (deserializeChecked bytes previous hasProperties).run =
      some (deserialize bytes previous hasProperties)

/-- The Object ID that the next object is written against. -/
def lastId (_ : Option UInt64) (o : SubgroupObject) : Option UInt64 := some o.objectId

/-- The objects as a sender writes them to a stream. -/
def serializeAll (hasProperties : Bool) (objects : List SubgroupObject) : Parse Bytes :=
  encodeAll lastId (fun previous o => o.serialize previous hasProperties) none objects

/-- The objects as a receiver reads them off a stream that has ended. -/
def deserializeAll (hasProperties : Bool) (bytes : Bytes) : Parse (List SubgroupObject × Bytes) :=
  decodeAll lastId (fun previous bytes => deserialize bytes previous hasProperties) bytes.length
    none bytes

@[simp] theorem onWire_objectId (hasProperties : Bool) (o : SubgroupObject) :
    (o.onWire hasProperties).objectId = o.objectId := rfl

theorem serializeProperties_onWire (o : SubgroupObject) {hasProperties : Bool}
    (h : hasProperties = false → o.properties.getD [] = []) :
    (o.onWire hasProperties).serializeProperties hasProperties =
      o.serializeProperties hasProperties := by
  cases hasProperties with
  | true => rfl
  | false => simp only [serializeProperties, onWire, h rfl]; rfl

theorem serializeBody_onWire (o : SubgroupObject) (hasProperties : Bool) :
    (o.onWire hasProperties).serializeBody = o.serializeBody := by
  unfold serializeBody onWire
  by_cases hempty : (o.payload.getD []).isEmpty
  · simp only [hempty, if_true, Option.getD_some, Option.getD_none, List.isEmpty_nil]
  · simp only [hempty, if_false, Bool.false_eq_true]

theorem serialize_onWire (o : SubgroupObject) (previous : Option UInt64) {hasProperties : Bool}
    (h : hasProperties = false → o.properties.getD [] = []) :
    (o.onWire hasProperties).serialize previous hasProperties =
      o.serialize previous hasProperties := by
  unfold serialize
  rw [serializeProperties_onWire o h, serializeBody_onWire, onWire_objectId]

theorem encodeAll_onWire {objects : List SubgroupObject} {hasProperties : Bool}
    (h : ∀ o ∈ objects, o.Sendable hasProperties) : ∀ previous,
      encodeAll lastId (fun previous o => o.serialize previous hasProperties) previous
          (objects.map (onWire hasProperties)) =
        encodeAll lastId (fun previous o => o.serialize previous hasProperties) previous objects :=
  encodeAll_map (fun previous o hmem => serialize_onWire o previous (h o hmem).announced)
    (fun _ _ => rfl)

/-- What a reader sees is an object that can be read. -/
theorem onWire_readable {o : SubgroupObject} {hasProperties : Bool}
    (h : o.Sendable hasProperties) : (o.onWire hasProperties).Readable hasProperties where
  properties := by
    cases hasProperties with
    | false => rfl
    | true =>
      obtain ⟨ext, hext, hback⟩ := deserializeObjectProperties_of_canonical h.canonical
      exact ⟨rfl, ext, h.propertiesFit ext hext, hback⟩
  body := by
    cases hpayload : o.payload with
    | none => simp [onWire, hpayload, BodyReadable]
    | some payload =>
      have hfits := h.payloadFits
      rw [hpayload] at hfits
      by_cases hempty : payload = []
      · simp [onWire, hpayload, hempty, BodyReadable]
      · simpa [onWire, hpayload, hempty, BodyReadable] using hfits

/-- The ID delta of an object after a smaller ID is in range wherever it has arrived. -/
theorem not_idExceeds {objectId : UInt64} {previous : Option UInt64}
    (hincreases : ∀ id, previous = some id → id < objectId) {bytes more body : Bytes}
    (h : putVi (objectIdDelta objectId previous) ++ body = bytes ++ more) :
    ¬ IdExceeds bytes previous := by
  rintro ⟨delta, rest, id, hvi, rfl, hexceeds⟩
  have hall := getVi_stable _ _ _ more hvi
  rw [← h, getVi_putVi] at hall
  cases hall
  have hlt := UInt64.lt_iff_toNat_lt.mp (hincreases id rfl)
  have hone : (1 : UInt64) ≤ objectId - id := by
    rw [UInt64.le_iff_toNat_le, UInt64.toNat_sub_of_le _ _ (UInt64.le_of_lt (hincreases id rfl))]
    show 1 ≤ objectId.toNat - id.toNat
    omega
  have hbound := objectId.toNat_lt
  rw [objectIdDelta, UInt64.toNat_sub_of_le _ _ hone,
    UInt64.toNat_sub_of_le _ _ (UInt64.le_of_lt (hincreases id rfl)), UInt64.toNat_one] at hexceeds
  omega

theorem ne_nil_of_reads {previous : Option UInt64} {hasProperties : Bool} {out : Bytes}
    {o : SubgroupObject} (h : Reads (deserialize · previous hasProperties) out o) : out ≠ [] := by
  rintro rfl
  cases h []

/-- After a smaller Object ID, an object that can be sent is carried by the bytes written. -/
theorem exists_carriedBy {o : SubgroupObject} {hasProperties : Bool}
    (h : o.Sendable hasProperties) {previous : Option UInt64}
    (hincreases : ∀ id, previous = some id → id < o.objectId) :
    ∃ out, CarriedBy hasProperties previous o out := by
  obtain ⟨out, hout, hreads⟩ :=
    deserialize_serialize (o.onWire hasProperties) hasProperties (onWire_readable h) previous
  rw [serialize_onWire o previous h.announced] at hout
  have hdelta : ∃ body, out = putVi (objectIdDelta o.objectId previous) ++ body := by
    obtain ⟨properties, -, hret⟩ := except_bind_eq_ok.mp hout
    cases hret
    exact ⟨_, List.append_assoc _ _ _⟩
  obtain ⟨body, hbody⟩ := hdelta
  refine ⟨out, hout, hreads, ?_, ?_, ?_⟩
  · rintro front rear rfl hrear
    have hall := hreads []
    rw [List.append_nil] at hall
    exact (deserialize_progressive previous hasProperties).short_of_append hall hrear
  · rw [((serialize_sound o previous hasProperties).mpr hincreases).agrees, hout]
  · intro bytes more tail hsplit
    rw [hbody, List.append_assoc] at hsplit
    exact ((deserialize_sound bytes previous hasProperties).mpr
      (not_idExceeds hincreases hsplit)).agrees

/-- With increasing Object IDs, each object is carried after the one before it. -/
theorem threaded_of_pairwise {hasProperties : Bool} (objects : List SubgroupObject) :
    ∀ previous : Option UInt64, (∀ o ∈ objects, o.Sendable hasProperties) →
      objects.Pairwise (fun o o' => o.objectId < o'.objectId) →
      (∀ id, previous = some id → ∀ o ∈ objects, id < o.objectId) →
      Threaded lastId (fun previous o => ∃ out, CarriedBy hasProperties previous o out) previous
        objects := by
  induction objects with
  | nil => exact fun _ _ _ _ => trivial
  | cons o rest ih =>
    intro previous hsendable hpairwise hlast
    rw [List.forall_mem_cons] at hsendable
    rw [List.pairwise_cons] at hpairwise
    refine ⟨exists_carriedBy hsendable.1 fun id hid => hlast id hid o List.mem_cons_self, ?_⟩
    apply ih (some o.objectId) hsendable.2 hpairwise.2
    rintro id ⟨⟩
    exact hpairwise.1

/-- A subgroup's objects read back, to the last byte, and each of them is carried after the one
before it. -/
theorem stream_carries (hasProperties : Bool) (objects : List SubgroupObject)
    (hsendable : ∀ o ∈ objects, o.Sendable hasProperties)
    (hincreasing : objects.Pairwise fun o o' => o.objectId < o'.objectId) :
    (∃ out, serializeAll hasProperties objects = .ok out ∧
      deserializeAll hasProperties out = .ok (objects.map (onWire hasProperties), [])) ∧
    Threaded lastId (fun previous o => ∃ out, CarriedBy hasProperties previous o out) none
      objects := by
  constructor
  · have hreadable : Threaded lastId (fun _ o => o.Readable hasProperties) none
        (objects.map (onWire hasProperties)) := by
      apply Threaded.of_forall
      rintro _ o hmem
      obtain ⟨o', hmem', rfl⟩ := List.mem_map.mp hmem
      exact onWire_readable (hsendable o' hmem')
    obtain ⟨out, hout, hback⟩ := decodeAll_encodeAll lastId
      (fun previous o h => by
        obtain ⟨out, hout, hreads⟩ := deserialize_serialize o hasProperties h previous
        exact ⟨out, hout, ne_nil_of_reads hreads, hreads⟩) _ none hreadable
    refine ⟨out, ?_, hback out.length le_rfl⟩
    rw [← hout]
    exact (encodeAll_onWire hsendable none).symm
  · exact threaded_of_pairwise objects none hsendable hincreasing nofun

/-- A payload without properties, properties with a status, and nothing at all. -/
def mixedObjects : List SubgroupObject :=
  [⟨0, none, none, some [1, 2]⟩,
    ⟨4, some [.priorGroupIdGap 2, .priorObjectIdGap 2], some .endOfGroup, none⟩,
    ⟨0xFFFFFFFFFFFFFFFF, some [], none, some []⟩]

theorem stream_carries_mixedObjects :
    (∃ out, serializeAll true mixedObjects = .ok out ∧
      deserializeAll true out = .ok (mixedObjects.map (onWire true), [])) ∧
    Threaded lastId (fun previous o => ∃ out, CarriedBy true previous o out) none mixedObjects := by
  apply stream_carries true mixedObjects
  · intro o hmem
    simp only [mixedObjects, List.mem_cons, List.not_mem_nil, or_false] at hmem
    obtain rfl | rfl | rfl := hmem
    · refine ⟨nofun, trivial, ?_, by decide⟩
      rintro ext ⟨⟩
      decide
    · refine ⟨nofun, ⟨trivial, by decide, trivial, by decide, trivial⟩, ?_, by decide⟩
      rintro ext ⟨⟩
      decide
    · refine ⟨nofun, trivial, ?_, by decide⟩
      rintro ext ⟨⟩
      decide
  · decide

end SubgroupObject

end Moqtail
