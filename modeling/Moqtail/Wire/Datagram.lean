import Moqtail.Wire.Subgroup

/-! Object datagrams, from `model/data/constant.rs` and `model/data/datagram.rs`. -/
namespace Moqtail

open Lib

structure ObjectDatagramType where
  value : UInt8
  valid : value &&& 0xD0 = 0 ∧ ¬ (value &&& 0x20 ≠ 0 ∧ value &&& 0x02 ≠ 0)
deriving DecidableEq

namespace ObjectDatagramType

def tryNew (value : UInt64) : Parse ObjectDatagramType :=
  if h1 : value.toNat > 255 ∨ value.toUInt8 &&& 0xD0 ≠ 0 then
    .error (.invalidType "ObjectDatagramType::try_new"
      ("Invalid datagram type " ++ hexLower value ++ ", must match form 0b00X0XXXX"))
  else if h2 : value.toUInt8 &&& 0x20 ≠ 0 ∧ value.toUInt8 &&& 0x02 ≠ 0 then
    .error (.protocolViolation "ObjectDatagramType::try_new"
      "STATUS and END_OF_GROUP cannot both be set")
  else
    .ok ⟨value.toUInt8, by simpa using (not_or.mp h1).2, h2⟩

def hasProperties (t : ObjectDatagramType) : Bool := t.value &&& 0x01 ≠ 0

def isEndOfGroup (t : ObjectDatagramType) : Bool := t.value &&& 0x02 ≠ 0

def isZeroObjectId (t : ObjectDatagramType) : Bool := t.value &&& 0x04 ≠ 0

def hasDefaultPriority (t : ObjectDatagramType) : Bool := t.value &&& 0x08 ≠ 0

def isStatus (t : ObjectDatagramType) : Bool := t.value &&& 0x20 ≠ 0

def propertyBits (hasProperties endOfGroup objectIdIsZero defaultPriority isStatus : Bool) :
    UInt8 :=
  bitIf hasProperties 0x01 ||| bitIf endOfGroup 0x02 ||| bitIf objectIdIsZero 0x04 |||
    bitIf defaultPriority 0x08 ||| bitIf isStatus 0x20

def fromProperties (hasProperties endOfGroup objectIdIsZero defaultPriority isStatus : Bool) :
    Parse ObjectDatagramType :=
  tryNew (propertyBits hasProperties endOfGroup objectIdIsZero defaultPriority isStatus).toUInt64

@[simp] theorem tryNew_value (t : ObjectDatagramType) : tryNew t.value.toUInt64 = .ok t := by
  obtain ⟨v, h1, h2⟩ := t
  have hlt : ¬ v.toUInt64.toNat > 255 := by
    have := v.toNat_lt
    rw [UInt8.toNat_toUInt64]
    omega
  have hv : v.toUInt64.toUInt8 = v := by simp
  unfold tryNew
  simp only [hv, hlt, h1, h2, ne_eq, not_true_eq_false, or_false, dif_neg, not_false_eq_true]

/-- Only STATUS together with END_OF_GROUP has no type; the flags read back from the
others. -/
theorem fromProperties_ok (p e z d s : Bool) (h : ¬ (s = true ∧ e = true)) :
    ∃ t, fromProperties p e z d s = .ok t ∧ t.hasProperties = p ∧ t.isEndOfGroup = e ∧
      t.isZeroObjectId = z ∧ t.hasDefaultPriority = d ∧ t.isStatus = s := by
  cases p <;> cases e <;> cases z <;> cases d <;> cases s <;>
    first
    | exact ⟨_, rfl, rfl, rfl, rfl, rfl, rfl⟩
    | simp at h

theorem not_status_and_endOfGroup (t : ObjectDatagramType) :
    ¬ (t.isStatus = true ∧ t.isEndOfGroup = true) := by
  simpa [isStatus, isEndOfGroup] using t.valid.2

end ObjectDatagramType

structure Datagram where
  trackAlias : UInt64
  groupId : UInt64
  objectId : UInt64
  publisherPriority : Option UInt8
  properties : Option (List ObjectProperty)
  payload : Option Bytes
  objectStatus : Option ObjectStatus
  endOfGroup : Bool
deriving Repr, DecidableEq

namespace Datagram

def newPayload (trackAlias groupId objectId : UInt64) (publisherPriority : Option UInt8)
    (properties : Option (List ObjectProperty)) (payload : Bytes) (endOfGroup : Bool) : Datagram :=
  ⟨trackAlias, groupId, objectId, publisherPriority, properties, some payload, none, endOfGroup⟩

def newStatus (trackAlias groupId objectId : UInt64) (publisherPriority : Option UInt8)
    (properties : Option (List ObjectProperty)) (objectStatus : ObjectStatus) : Datagram :=
  ⟨trackAlias, groupId, objectId, publisherPriority, properties, none, some objectStatus, false⟩

/-- An empty list is the same as carrying none. -/
def hasProperties (d : Datagram) : Bool := !(d.properties.getD []).isEmpty

def serializeProperties (d : Datagram) : Parse Bytes :=
  if d.hasProperties then do
    let ext ← serializeObjectProperties (d.properties.getD [])
    return putVi (UInt64.ofNat ext.length) ++ ext
  else .ok []

def serializeBody (d : Datagram) : Bytes :=
  match d.objectStatus with
  | some status => putVi status.toU64
  | none => d.payload.getD []

def serialize (d : Datagram) : Parse Bytes := do
  let dtype ← ObjectDatagramType.fromProperties d.hasProperties d.endOfGroup (d.objectId = 0)
    d.publisherPriority.isNone d.objectStatus.isSome
  let properties ← d.serializeProperties
  return putVi dtype.value.toUInt64 ++ putVi d.trackAlias ++ putVi d.groupId ++
    (if dtype.isZeroObjectId then [] else putVi d.objectId) ++
    (if dtype.hasDefaultPriority then [] else [d.publisherPriority.getD 0]) ++
    properties ++ d.serializeBody

def deserializeObjectId (t : ObjectDatagramType) (bytes : Bytes) : Parse (UInt64 × Bytes) :=
  if t.isZeroObjectId then .ok (0, bytes) else getVi bytes

def deserializePriority (t : ObjectDatagramType) (bytes : Bytes) : Parse (Option UInt8 × Bytes) :=
  if t.hasDefaultPriority then .ok (none, bytes)
  else
    match bytes with
    | [] => .error (.notEnoughBytes "Datagram::deserialize(publisher_priority)" 1 0)
    | priority :: rest => .ok (some priority, rest)

def deserializeProperties (t : ObjectDatagramType) (bytes : Bytes) :
    Parse (Option (List ObjectProperty) × Bytes) :=
  if t.hasProperties then do
    let (extLen, bytes) ← getVi bytes
    if extLen = 0 then
      throw (.protocolViolation "Datagram::deserialize(properties_length)"
        "Properties present but length is 0")
    let (ext, bytes) ← copyToBytes "Datagram::deserialize(properties)" extLen.toNat bytes
    let headers ← (deserializeObjectProperties ext).mapError fun e =>
      .protocolViolation "Datagram::deserialize, can't parse headers" e.toString
    return (some headers, bytes)
  else .ok (none, bytes)

def deserializeBody (t : ObjectDatagramType) (bytes : Bytes) :
    Parse ((Option Bytes × Option ObjectStatus) × Bytes) :=
  if t.isStatus then do
    let (raw, bytes) ← getVi bytes
    let status ← ObjectStatus.tryFrom raw
    return ((none, some status), bytes)
  else .ok ((some bytes, none), [])

/-- A status other than Normal, which only Objects without Properties may carry. -/
def nonNormal : Option ObjectStatus → Bool
  | some status => status ≠ .normal
  | none => false

def deserialize (bytes : Bytes) : Parse (Datagram × Bytes) := do
  let (typeRaw, bytes) ← getVi bytes
  let msgType ← ObjectDatagramType.tryNew typeRaw
  let (trackAlias, bytes) ← getVi bytes
  let (groupId, bytes) ← getVi bytes
  let (objectId, bytes) ← deserializeObjectId msgType bytes
  let (publisherPriority, bytes) ← deserializePriority msgType bytes
  let (properties, bytes) ← deserializeProperties msgType bytes
  let ((payload, objectStatus), bytes) ← deserializeBody msgType bytes
  if properties.isSome && nonNormal objectStatus then
    throw (.protocolViolation "Datagram::deserialize"
      "STATUS datagram with non-Normal status carries Properties")
  return (⟨trackAlias, groupId, objectId, publisherPriority, properties, payload, objectStatus,
    msgType.isEndOfGroup⟩, bytes)

/-- Properties as a datagram carries them: none, or a list that is not empty. -/
def PropertiesReadable : Option (List ObjectProperty) → Prop
  | none => True
  | some props => props ≠ [] ∧
      ∃ bytes, bytes.length < 2 ^ 64 ∧ deserializeObjectProperties bytes = .ok props

/-- A datagram as `deserialize` returns it: a payload, or a status that neither ends the
group nor, unless Normal, carries Properties. -/
structure Readable (d : Datagram) : Prop where
  properties : PropertiesReadable d.properties
  payload : d.payload.isNone = d.objectStatus.isSome
  endOfGroup : d.objectStatus.isSome → d.endOfGroup = false
  noProperties : nonNormal d.objectStatus = true → d.properties = none

theorem deserializeProperties_readable {t : ObjectDatagramType} {bytes rest : Bytes}
    {properties : Option (List ObjectProperty)}
    (h : deserializeProperties t bytes = .ok (properties, rest)) :
    PropertiesReadable properties := by
  unfold deserializeProperties at h
  split at h
  · obtain ⟨⟨extLen, b⟩, -, h⟩ := except_bind_eq_ok.mp h
    simp only at h
    split at h
    · simp at h
    · next hne =>
      simp only [except_pure] at h
      obtain ⟨⟨ext, b'⟩, hcopy, h⟩ := except_bind_eq_ok.mp h
      obtain ⟨headers, hheaders, hret⟩ := except_bind_eq_ok.mp h
      simp only [Except.ok.injEq, Prod.mk.injEq] at hret
      obtain ⟨rfl, -⟩ := hret
      obtain ⟨hlen, -⟩ := copyToBytes_eq_ok hcopy
      have hdec : deserializeObjectProperties ext = .ok headers :=
        except_mapError_eq_ok.mp hheaders
      refine ⟨?_, ext, hlen ▸ extLen.toNat_lt, hdec⟩
      rintro rfl
      rw [deserializeObjectProperties_eq_nil hdec, List.length_nil] at hlen
      exact hne (UInt64.toNat_inj.mp hlen.symm)
  · simp only [Except.ok.injEq, Prod.mk.injEq] at h
    obtain ⟨rfl, -⟩ := h
    trivial

theorem deserialize_readable {bytes rest : Bytes} {d : Datagram}
    (h : deserialize bytes = .ok (d, rest)) : d.Readable := by
  unfold deserialize at h
  obtain ⟨⟨typeRaw, b1⟩, -, h⟩ := except_bind_eq_ok.mp h
  obtain ⟨msgType, -, h⟩ := except_bind_eq_ok.mp h
  obtain ⟨⟨trackAlias, b2⟩, -, h⟩ := except_bind_eq_ok.mp h
  obtain ⟨⟨groupId, b3⟩, -, h⟩ := except_bind_eq_ok.mp h
  obtain ⟨⟨objectId, b4⟩, -, h⟩ := except_bind_eq_ok.mp h
  obtain ⟨⟨priority, b5⟩, -, h⟩ := except_bind_eq_ok.mp h
  obtain ⟨⟨properties, b6⟩, hprops, h⟩ := except_bind_eq_ok.mp h
  obtain ⟨⟨⟨payload, status⟩, b7⟩, hbody, h⟩ := except_bind_eq_ok.mp h
  simp only at h
  split at h
  · simp at h
  · next hcheck =>
    simp only [except_pure, Except.ok.injEq, Prod.mk.injEq] at h
    obtain ⟨rfl, -⟩ := h
    have hnone : nonNormal status = true → properties = none := by
      intro hstatus
      cases properties with
      | none => rfl
      | some props => simp [hstatus] at hcheck
    unfold deserializeBody at hbody
    split at hbody
    · next hstatus =>
      obtain ⟨⟨raw, b⟩, -, hbody⟩ := except_bind_eq_ok.mp hbody
      obtain ⟨s, -, hret⟩ := except_bind_eq_ok.mp hbody
      simp only [except_pure, Except.ok.injEq, Prod.mk.injEq] at hret
      obtain ⟨⟨rfl, rfl⟩, -⟩ := hret
      have hend : msgType.isEndOfGroup = false := by
        by_contra hend
        exact msgType.not_status_and_endOfGroup ⟨hstatus, by simpa using hend⟩
      exact ⟨deserializeProperties_readable hprops, rfl, fun _ => hend, hnone⟩
    · simp only [Except.ok.injEq, Prod.mk.injEq] at hbody
      obtain ⟨⟨rfl, rfl⟩, -⟩ := hbody
      exact ⟨deserializeProperties_readable hprops, rfl, fun hsome => by simp at hsome, hnone⟩

theorem deserializeProperties_serializeProperties (d : Datagram)
    (h : PropertiesReadable d.properties) (t : ObjectDatagramType)
    (ht : t.hasProperties = d.hasProperties) :
    ∃ out, d.serializeProperties = .ok out ∧ Reads (deserializeProperties t) out d.properties := by
  unfold serializeProperties
  cases hprops : d.properties with
  | none =>
    have hflag : d.hasProperties = false := by simp [hasProperties, hprops]
    exact ⟨[], by simp [hflag], fun tail => by simp [deserializeProperties, ht, hflag]⟩
  | some props =>
    rw [hprops] at h
    obtain ⟨hne, bytes, hbytes, hdec⟩ := h
    obtain ⟨ext, hext, hlen, hback⟩ := deserializeObjectProperties_reencodes hdec
    have hlength : (UInt64.ofNat ext.length).toNat = ext.length :=
      toNat_ofNat_length (by omega)
    have hflag : d.hasProperties = true := by simpa [hasProperties, hprops] using hne
    have hzero : UInt64.ofNat ext.length ≠ 0 := by
      intro heq
      rw [heq, UInt64.toNat_zero] at hlength
      rw [List.length_eq_zero_iff.mp hlength.symm] at hback
      have hempty : deserializeObjectProperties [] = .ok [] := rfl
      rw [hempty, Except.ok.injEq] at hback
      exact hne hback.symm
    refine ⟨putVi (UInt64.ofNat ext.length) ++ ext, by simp [hflag, hext], fun tail => ?_⟩
    simp only [deserializeProperties, ht, hflag, if_true, List.append_assoc, getVi_putVi,
      except_ok_bind, hzero, if_false, hlength, copyToBytes_append, hback]
    rfl

/-- A datagram that was read can be written again, and reads back the same. -/
theorem deserialize_serialize (d : Datagram) (h : d.Readable) :
    ∃ out, d.serialize = .ok out ∧ deserialize out = .ok (d, []) := by
  have hflags : ¬ (d.objectStatus.isSome = true ∧ d.endOfGroup = true) := by
    rintro ⟨hstatus, hend⟩
    simp [h.endOfGroup hstatus] at hend
  obtain ⟨t, ht, hp, he, hz, hd, hs⟩ := ObjectDatagramType.fromProperties_ok d.hasProperties
    d.endOfGroup (d.objectId = 0) d.publisherPriority.isNone d.objectStatus.isSome hflags
  obtain ⟨props, hprops, hreads⟩ := deserializeProperties_serializeProperties d h.properties t hp
  have hid : Reads (deserializeObjectId t) (if t.isZeroObjectId then [] else putVi d.objectId)
      d.objectId := by
    intro tail
    unfold deserializeObjectId
    by_cases hzero : d.objectId = 0
    · simp [hz, hzero]
    · simp [hz, hzero]
  have hpriority : Reads (deserializePriority t)
      (if t.hasDefaultPriority then [] else [d.publisherPriority.getD 0]) d.publisherPriority := by
    intro tail
    unfold deserializePriority
    cases hpp : d.publisherPriority with
    | none => simp [hd, hpp]
    | some priority => simp [hd, hpp]
  have hbody : deserializeBody t d.serializeBody = .ok ((d.payload, d.objectStatus), []) := by
    have hpayload := h.payload
    unfold deserializeBody serializeBody
    cases hstatus : d.objectStatus with
    | some status =>
      rw [hstatus, Option.isSome_some, Option.isNone_iff_eq_none] at hpayload
      have hget := getVi_putVi status.toU64 []
      rw [List.append_nil] at hget
      simp [hs, hstatus, hpayload, hget]
    | none =>
      cases hp : d.payload with
      | none => simp [hstatus, hp] at hpayload
      | some payload => simp [hs, hstatus]
  refine ⟨putVi t.value.toUInt64 ++ putVi d.trackAlias ++ putVi d.groupId ++
    (if t.isZeroObjectId then [] else putVi d.objectId) ++
    (if t.hasDefaultPriority then [] else [d.publisherPriority.getD 0]) ++
    props ++ d.serializeBody, ?_, ?_⟩
  · simp only [serialize, ht, hprops, except_ok_bind, except_pure]
  · have hcheck : (d.properties.isSome && nonNormal d.objectStatus) = false := by
      cases hstatus : nonNormal d.objectStatus with
      | false => simp
      | true => simp [h.noProperties hstatus]
    simp only [deserialize, List.append_assoc, getVi_putVi, except_ok_bind,
      ObjectDatagramType.tryNew_value, hid _, hpriority _, hreads _, hbody, hcheck,
      Bool.false_eq_true, if_false, except_pure, he]

end Datagram

end Moqtail
