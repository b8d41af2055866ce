import Moqtail.Wire.ObjectProperty

/-! Subgroup streams: the header and the objects after it, from
`model/data/constant.rs`, `model/data/subgroup_header.rs` and
`model/data/subgroup_object.rs`. -/
namespace Moqtail

open Lib

/-- `{:#x}`. -/
def hexLower (v : UInt64) : String := "0x" ++ String.ofList (Nat.toDigits 16 v.toNat)

/-- `if flag { v |= mask }`. -/
def bitIf (flag : Bool) (mask : UInt8) : UInt8 := if flag then mask else 0

inductive SubgroupIdMode where
  | zero
  | firstObjectId
  | explicit
deriving Repr, DecidableEq

def SubgroupIdMode.toU8 : SubgroupIdMode → UInt8
  | zero => 0
  | firstObjectId => 1
  | explicit => 2

/-- The type byte. Only `try_new` and `from_properties` build one, and both keep bit 7
clear, bit 4 set and the reserved SUBGROUP_ID_MODE out. -/
structure SubgroupHeaderType where
  value : UInt8
  valid : value &&& 0x80 = 0 ∧ value &&& 0x10 ≠ 0 ∧ value &&& 0x06 ≠ 0x06
deriving DecidableEq

namespace SubgroupHeaderType

def tryNew (value : UInt64) : Parse SubgroupHeaderType :=
  if h1 : value.toNat > 255 ∨ value.toUInt8 &&& 0x80 ≠ 0 then
    .error (.invalidType "SubgroupHeaderType::try_new"
      ("invalid bits set, got " ++ hexLower value))
  else if h2 : value.toUInt8 &&& 0x10 = 0 then
    .error (.invalidType "SubgroupHeaderType::try_new" ("bit 4 not set, got " ++ hexLower value))
  else if h3 : value.toUInt8 &&& 0x06 = 0x06 then
    .error (.invalidType "SubgroupHeaderType::try_new"
      ("reserved SUBGROUP_ID_MODE 0b11, got " ++ hexLower value))
  else
    .ok ⟨value.toUInt8, by simpa using (not_or.mp h1).2, h2, h3⟩

def hasProperties (t : SubgroupHeaderType) : Bool := t.value &&& 0x01 ≠ 0

def subgroupIdMode (t : SubgroupHeaderType) : SubgroupIdMode :=
  if (t.value &&& 0x06) >>> 1 = 0 then .zero
  else if (t.value &&& 0x06) >>> 1 = 1 then .firstObjectId
  else .explicit

def hasExplicitSubgroupId (t : SubgroupHeaderType) : Bool := t.subgroupIdMode = .explicit

def subgroupIdIsZero (t : SubgroupHeaderType) : Bool := t.subgroupIdMode = .zero

def subgroupIdIsFirstObjectId (t : SubgroupHeaderType) : Bool := t.subgroupIdMode = .firstObjectId

def containsEndOfGroup (t : SubgroupHeaderType) : Bool := t.value &&& 0x08 ≠ 0

def hasDefaultPriority (t : SubgroupHeaderType) : Bool := t.value &&& 0x20 ≠ 0

def isFirstObject (t : SubgroupHeaderType) : Bool := t.value &&& 0x40 ≠ 0

def propertyBits (hasProperties : Bool) (mode : SubgroupIdMode)
    (containsEndOfGroup hasDefaultPriority firstObject : Bool) : UInt8 :=
  (0x10 : UInt8) ||| bitIf hasProperties 0x01 ||| (mode.toU8 <<< 1) |||
    bitIf containsEndOfGroup 0x08 ||| bitIf hasDefaultPriority 0x20 ||| bitIf firstObject 0x40

def fromProperties (hasProperties : Bool) (mode : SubgroupIdMode)
    (containsEndOfGroup hasDefaultPriority firstObject : Bool) : SubgroupHeaderType where
  value := propertyBits hasProperties mode containsEndOfGroup hasDefaultPriority firstObject
  valid := by
    cases hasProperties <;> cases mode <;> cases containsEndOfGroup <;> cases hasDefaultPriority <;>
      cases firstObject <;> decide

@[simp] theorem tryNew_value (t : SubgroupHeaderType) : tryNew t.value.toUInt64 = .ok t := by
  obtain ⟨v, h1, h2, h3⟩ := t
  have hlt : ¬ v.toUInt64.toNat > 255 := by
    have := v.toNat_lt
    rw [UInt8.toNat_toUInt64]
    omega
  have hv : v.toUInt64.toUInt8 = v := by simp
  unfold tryNew
  simp only [hv, hlt, h1, h2, h3, ne_eq, not_true_eq_false, or_false, dif_neg, not_false_eq_true]

@[simp] theorem hasProperties_fromProperties (p : Bool) (m : SubgroupIdMode) (e d f : Bool) :
    (fromProperties p m e d f).hasProperties = p := by
  cases p <;> cases m <;> cases e <;> cases d <;> cases f <;> decide

@[simp] theorem subgroupIdMode_fromProperties (p : Bool) (m : SubgroupIdMode) (e d f : Bool) :
    (fromProperties p m e d f).subgroupIdMode = m := by
  cases p <;> cases m <;> cases e <;> cases d <;> cases f <;> decide

@[simp] theorem hasDefaultPriority_fromProperties (p : Bool) (m : SubgroupIdMode) (e d f : Bool) :
    (fromProperties p m e d f).hasDefaultPriority = d := by
  cases p <;> cases m <;> cases e <;> cases d <;> cases f <;> decide

end SubgroupHeaderType

structure SubgroupHeader where
  headerType : SubgroupHeaderType
  trackAlias : UInt64
  groupId : UInt64
  subgroupId : Option UInt64
  publisherPriority : Option UInt8
deriving DecidableEq

namespace SubgroupHeader

def forMidSubgroupStream (h : SubgroupHeader) : SubgroupHeader :=
  let mode :=
    match h.headerType.subgroupIdMode with
    | .firstObjectId => if h.subgroupId.isSome then .explicit else .firstObjectId
    | mode => mode
  { h with
    headerType := .fromProperties h.headerType.hasProperties mode
      h.headerType.containsEndOfGroup h.headerType.hasDefaultPriority false }

/-- The Subgroup ID field of the wire form. -/
def serializeSubgroupId (h : SubgroupHeader) : Parse Bytes :=
  if h.headerType.hasExplicitSubgroupId then
    match h.subgroupId with
    | some id => .ok (putVi id)
    | none => .error (.protocolViolation "SubgroupHeader::serialize(header_type)"
      "Subgroup_id field is required for this header type")
  else .ok []

/-- The Publisher Priority field of the wire form. -/
def serializePriority (h : SubgroupHeader) : Parse Bytes :=
  if h.headerType.hasDefaultPriority then .ok []
  else
    match h.publisherPriority with
    | some priority => .ok [priority]
    | none => .error (.protocolViolation "SubgroupHeader::serialize(publisher_priority)"
      "Publisher_priority field is required when DEFAULT_PRIORITY bit is not set")

def serialize (h : SubgroupHeader) (trackAlias : Option UInt64) : Parse Bytes := do
  let subgroupId ← h.serializeSubgroupId
  let priority ← h.serializePriority
  return putVi h.headerType.value.toUInt64 ++ putVi (trackAlias.getD h.trackAlias) ++
    putVi h.groupId ++ subgroupId ++ priority

def deserializeSubgroupId (t : SubgroupHeaderType) (bytes : Bytes) :
    Parse (Option UInt64 × Bytes) :=
  if t.hasExplicitSubgroupId then do
    let (id, bytes) ← getVi bytes
    return (some id, bytes)
  else if t.subgroupIdIsZero then .ok (some 0, bytes)
  else .ok (none, bytes)

def deserializePriority (t : SubgroupHeaderType) (bytes : Bytes) : Parse (Option UInt8 × Bytes) :=
  if t.hasDefaultPriority then .ok (none, bytes)
  else
    match bytes with
    | [] => .error (.notEnoughBytes "SubgroupHeader::deserialize(publisher_priority)" 1 0)
    | priority :: rest => .ok (some priority, rest)

def deserialize (bytes : Bytes) : Parse (SubgroupHeader × Bytes) := do
  let (typeValue, bytes) ← getVi bytes
  let headerType ← SubgroupHeaderType.tryNew typeValue
  let (trackAlias, bytes) ← getVi bytes
  let (groupId, bytes) ← getVi bytes
  let (subgroupId, bytes) ← deserializeSubgroupId headerType bytes
  let (publisherPriority, bytes) ← deserializePriority headerType bytes
  return (⟨headerType, trackAlias, groupId, subgroupId, publisherPriority⟩, bytes)

/-- The header a reader sees: a Subgroup ID that is not a field of the header is read as 0
or left to the first object. -/
def onWire (h : SubgroupHeader) (trackAlias : Option UInt64) : SubgroupHeader :=
  { h with
    trackAlias := trackAlias.getD h.trackAlias
    subgroupId :=
      match h.headerType.subgroupIdMode with
      | .zero => some 0
      | .firstObjectId => none
      | .explicit => h.subgroupId }

/-- What `deserialize` returns, and what resolving the Subgroup ID by the first object
keeps: the fields agree with the type byte. -/
structure WellFormed (h : SubgroupHeader) : Prop where
  zero : h.headerType.subgroupIdMode = .zero → h.subgroupId = some 0
  explicit : h.headerType.subgroupIdMode = .explicit → h.subgroupId.isSome
  priority : h.publisherPriority.isNone = h.headerType.hasDefaultPriority

theorem deserialize_serialize (h : SubgroupHeader) (hwf : h.WellFormed)
    (trackAlias : Option UInt64) :
    ∃ out, h.serialize trackAlias = .ok out ∧ Reads deserialize out (h.onWire trackAlias) := by
  have hid : ∃ out, h.serializeSubgroupId = .ok out ∧
      Reads (deserializeSubgroupId h.headerType) out (h.onWire trackAlias).subgroupId := by
    unfold serializeSubgroupId onWire
    cases hmode : h.headerType.subgroupIdMode with
    | zero =>
      refine ⟨[], by simp [SubgroupHeaderType.hasExplicitSubgroupId, hmode], fun tail => ?_⟩
      simp [deserializeSubgroupId, SubgroupHeaderType.hasExplicitSubgroupId,
        SubgroupHeaderType.subgroupIdIsZero, hmode]
    | firstObjectId =>
      refine ⟨[], by simp [SubgroupHeaderType.hasExplicitSubgroupId, hmode], fun tail => ?_⟩
      simp [deserializeSubgroupId, SubgroupHeaderType.hasExplicitSubgroupId,
        SubgroupHeaderType.subgroupIdIsZero, hmode]
    | explicit =>
      obtain ⟨id, hsome⟩ := Option.isSome_iff_exists.mp (hwf.explicit hmode)
      refine ⟨putVi id, by simp [SubgroupHeaderType.hasExplicitSubgroupId, hmode, hsome],
        fun tail => ?_⟩
      simp [deserializeSubgroupId, SubgroupHeaderType.hasExplicitSubgroupId, hmode, hsome]
  have hpriority : ∃ out, h.serializePriority = .ok out ∧
      Reads (deserializePriority h.headerType) out h.publisherPriority := by
    have hp := hwf.priority
    unfold serializePriority
    cases hdefault : h.headerType.hasDefaultPriority with
    | true =>
      rw [hdefault, Option.isNone_iff_eq_none] at hp
      exact ⟨[], by simp, fun tail => by simp [deserializePriority, hdefault, hp]⟩
    | false =>
      cases hpp : h.publisherPriority with
      | none => simp [hdefault, hpp] at hp
      | some priority =>
        exact ⟨[priority], by simp, fun tail => by simp [deserializePriority, hdefault]⟩
  obtain ⟨idBytes, hidOut, hidReads⟩ := hid
  obtain ⟨priorityBytes, hpOut, hpReads⟩ := hpriority
  refine ⟨putVi h.headerType.value.toUInt64 ++ putVi (trackAlias.getD h.trackAlias) ++
    putVi h.groupId ++ idBytes ++ priorityBytes, ?_, fun tail => ?_⟩
  · simp only [serialize, hidOut, hpOut, except_ok_bind, except_pure]
  simp only [deserialize, List.append_assoc, getVi_putVi, except_ok_bind,
    SubgroupHeaderType.tryNew_value, hidReads _, hpReads _]
  rfl

theorem deserialize_wellFormed {bytes rest : Bytes} {h : SubgroupHeader}
    (hdec : deserialize bytes = .ok (h, rest)) : h.WellFormed := by
  unfold deserialize at hdec
  obtain ⟨⟨typeValue, b1⟩, -, hdec⟩ := except_bind_eq_ok.mp hdec
  obtain ⟨headerType, -, hdec⟩ := except_bind_eq_ok.mp hdec
  obtain ⟨⟨trackAlias, b2⟩, -, hdec⟩ := except_bind_eq_ok.mp hdec
  obtain ⟨⟨groupId, b3⟩, -, hdec⟩ := except_bind_eq_ok.mp hdec
  obtain ⟨⟨subgroupId, b4⟩, hid, hdec⟩ := except_bind_eq_ok.mp hdec
  obtain ⟨⟨priority, b5⟩, hpriority, hdec⟩ := except_bind_eq_ok.mp hdec
  simp only [except_pure, Except.ok.injEq, Prod.mk.injEq] at hdec
  obtain ⟨rfl, -⟩ := hdec
  refine ⟨fun hmode => ?_, fun hmode => ?_, ?_⟩
  · simp only [deserializeSubgroupId, SubgroupHeaderType.hasExplicitSubgroupId,
      SubgroupHeaderType.subgroupIdIsZero, hmode] at hid
    simp_all
  · simp only [deserializeSubgroupId, SubgroupHeaderType.hasExplicitSubgroupId, hmode,
      decide_true, if_true] at hid
    obtain ⟨⟨id, left⟩, -, hret⟩ := except_bind_eq_ok.mp hid
    simp only [except_pure, Except.ok.injEq, Prod.mk.injEq] at hret
    simp [← hret.1]
  · unfold deserializePriority at hpriority
    split at hpriority
    · next hdefault =>
      simp only [Except.ok.injEq, Prod.mk.injEq] at hpriority
      simp [← hpriority.1, hdefault]
    · next hdefault =>
      split at hpriority
      · simp at hpriority
      · simp only [Except.ok.injEq, Prod.mk.injEq] at hpriority
        simp [← hpriority.1, hdefault]

/-- A header that leaves the Subgroup ID to the first object is read without one. -/
theorem deserialize_unresolved {bytes rest : Bytes} {h : SubgroupHeader}
    (hdec : deserialize bytes = .ok (h, rest))
    (hmode : h.headerType.subgroupIdMode = .firstObjectId) : h.subgroupId = none := by
  unfold deserialize at hdec
  obtain ⟨⟨typeValue, b1⟩, -, hdec⟩ := except_bind_eq_ok.mp hdec
  obtain ⟨headerType, -, hdec⟩ := except_bind_eq_ok.mp hdec
  obtain ⟨⟨trackAlias, b2⟩, -, hdec⟩ := except_bind_eq_ok.mp hdec
  obtain ⟨⟨groupId, b3⟩, -, hdec⟩ := except_bind_eq_ok.mp hdec
  obtain ⟨⟨subgroupId, b4⟩, hid, hdec⟩ := except_bind_eq_ok.mp hdec
  obtain ⟨⟨priority, b5⟩, -, hdec⟩ := except_bind_eq_ok.mp hdec
  simp only [except_pure, Except.ok.injEq, Prod.mk.injEq] at hdec
  obtain ⟨rfl, -⟩ := hdec
  simp only [deserializeSubgroupId, SubgroupHeaderType.hasExplicitSubgroupId,
    SubgroupHeaderType.subgroupIdIsZero, hmode] at hid
  simp_all

theorem forMidSubgroupStream_wellFormed {h : SubgroupHeader} (hwf : h.WellFormed)
    (hid : h.subgroupId.isSome) :
    h.forMidSubgroupStream.WellFormed ∧
      (h.forMidSubgroupStream.onWire none).subgroupId = h.subgroupId ∧
      h.forMidSubgroupStream.headerType.hasProperties = h.headerType.hasProperties := by
  have hpriority := hwf.priority
  cases hmode : h.headerType.subgroupIdMode with
  | zero =>
    have hzero := hwf.zero hmode
    refine ⟨⟨?_, ?_, ?_⟩, ?_, ?_⟩ <;>
      simp [forMidSubgroupStream, onWire, hmode, hzero, hpriority]
  | firstObjectId =>
    refine ⟨⟨?_, ?_, ?_⟩, ?_, ?_⟩ <;>
      simp [forMidSubgroupStream, onWire, hmode, hid, hpriority]
  | explicit =>
    refine ⟨⟨?_, ?_, ?_⟩, ?_, ?_⟩ <;>
      simp [forMidSubgroupStream, onWire, hmode, hid, hpriority]

/-- A stream that starts in the middle of a subgroup does not take the subgroup's ID from its first
object. -/
theorem forMidSubgroupStream_mode_ne {h : SubgroupHeader} (hid : h.subgroupId.isSome) :
    h.forMidSubgroupStream.headerType.subgroupIdMode ≠ .firstObjectId := by
  simp only [forMidSubgroupStream, SubgroupHeaderType.subgroupIdMode_fromProperties, hid, if_true]
  cases h.headerType.subgroupIdMode <;> simp

end SubgroupHeader

inductive ObjectStatus where
  | normal
  | endOfGroup
  | endOfTrack
deriving Repr, DecidableEq

namespace ObjectStatus

def toU64 : ObjectStatus → UInt64
  | normal => 0x0
  | endOfGroup => 0x3
  | endOfTrack => 0x4

def tryFrom (value : UInt64) : Parse ObjectStatus :=
  if value = 0x0 then .ok normal
  else if value = 0x3 then .ok endOfGroup
  else if value = 0x4 then .ok endOfTrack
  else .error (.invalidType "ObjectStatus::try_from(u8)" s!"Invalid status, got {value}")

@[simp] theorem tryFrom_toU64 (status : ObjectStatus) : tryFrom status.toU64 = .ok status := by
  cases status <;> rfl

end ObjectStatus

structure SubgroupObject where
  objectId : UInt64
  properties : Option (List ObjectProperty)
  objectStatus : Option ObjectStatus
  payload : Option Bytes
deriving Repr, DecidableEq

namespace SubgroupObject

/-- The Object ID field: the ID itself at the head of a stream, the distance to the
previous object's ID after it. -/
def objectIdDelta (objectId : UInt64) : Option UInt64 → UInt64
  | some previous => objectId - previous - 1
  | none => objectId

def objectIdFrom (delta : UInt64) : Option UInt64 → UInt64
  | some previous => previous + delta + 1
  | none => delta

def serializeProperties (o : SubgroupObject) (hasProperties : Bool) : Parse Bytes :=
  let properties := o.properties.getD []
  if !hasProperties && !properties.isEmpty then
    .error (.protocolViolation "SubgroupObject::serialize(properties)"
      "properties are present but header type has no properties")
  else if hasProperties then do
    let ext ← serializeObjectProperties properties
    return putVi (UInt64.ofNat ext.length) ++ ext
  else .ok []

def serializeBody (o : SubgroupObject) : Bytes :=
  let payload := o.payload.getD []
  if payload.isEmpty then
    putVi 0 ++ putVi (o.objectStatus.getD .normal).toU64
  else
    putVi (UInt64.ofNat payload.length) ++ payload

def serialize (o : SubgroupObject) (previousObjectId : Option UInt64) (hasProperties : Bool) :
    Parse Bytes := do
  let properties ← o.serializeProperties hasProperties
  return putVi (objectIdDelta o.objectId previousObjectId) ++ properties ++ o.serializeBody

def deserializeProperties (hasProperties : Bool) (bytes : Bytes) :
    Parse (Option (List ObjectProperty) × Bytes) :=
  if hasProperties then do
    let (extLen, bytes) ← getVi bytes
    if extLen.toNat > 0 then
      let (ext, bytes) ← copyToBytes "SubgroupObject::deserialize" extLen.toNat bytes
      let headers ← (deserializeObjectProperties ext).mapError fun _ =>
        .protocolViolation "SubgroupObject::deserialize" "Failed to parse property"
      return (some headers, bytes)
    else
      return (some [], bytes)
  else .ok (none, bytes)

def deserializeBody (bytes : Bytes) : Parse ((Option ObjectStatus × Option Bytes) × Bytes) := do
  let (payloadLen, bytes) ← getVi bytes
  if payloadLen = 0 then
    let (raw, bytes) ← getVi bytes
    let status ← ObjectStatus.tryFrom raw
    return ((some status, none), bytes)
  else
    let (payload, bytes) ← copyToBytes "SubgroupObject::deserialize" payloadLen.toNat bytes
    return ((none, some payload), bytes)

def deserialize (bytes : Bytes) (previousObjectId : Option UInt64) (hasProperties : Bool) :
    Parse (SubgroupObject × Bytes) := do
  let (delta, bytes) ← getVi bytes
  let (properties, bytes) ← deserializeProperties hasProperties bytes
  let ((objectStatus, payload), bytes) ← deserializeBody bytes
  return (⟨objectIdFrom delta previousObjectId, properties, objectStatus, payload⟩, bytes)

@[simp] theorem objectIdFrom_objectIdDelta (objectId : UInt64) (previous : Option UInt64) :
    objectIdFrom (objectIdDelta objectId previous) previous = objectId := by
  cases previous with
  | none => rfl
  | some id =>
    have hsub : id + (objectId - id - 1) + 1 = objectId := by
      rw [UInt64.add_assoc, UInt64.sub_add_cancel, UInt64.add_comm, UInt64.sub_add_cancel]
    exact hsub

/-- Properties as a stream with this header flag carries them. -/
def PropertiesReadable (hasProperties : Bool) : Option (List ObjectProperty) → Prop
  | none => hasProperties = false
  | some props => hasProperties = true ∧
      ∃ bytes, bytes.length < 2 ^ 64 ∧ deserializeObjectProperties bytes = .ok props

/-- Either a status without a payload, or a payload that is not empty and no status. -/
def BodyReadable : Option ObjectStatus → Option Bytes → Prop
  | some _, none => True
  | none, some payload => payload ≠ [] ∧ payload.length < 2 ^ 64
  | _, _ => False

/-- An object as `deserialize` returns it. -/
structure Readable (hasProperties : Bool) (o : SubgroupObject) : Prop where
  properties : PropertiesReadable hasProperties o.properties
  body : BodyReadable o.objectStatus o.payload

theorem deserialize_readable {bytes rest : Bytes} {previous : Option UInt64}
    {hasProperties : Bool} {o : SubgroupObject}
    (h : deserialize bytes previous hasProperties = .ok (o, rest)) : o.Readable hasProperties := by
  unfold deserialize at h
  obtain ⟨⟨delta, b1⟩, -, h⟩ := except_bind_eq_ok.mp h
  obtain ⟨⟨properties, b2⟩, hprops, h⟩ := except_bind_eq_ok.mp h
  obtain ⟨⟨⟨status, payload⟩, b3⟩, hbody, h⟩ := except_bind_eq_ok.mp h
  simp only [except_pure, Except.ok.injEq, Prod.mk.injEq] at h
  obtain ⟨rfl, -⟩ := h
  constructor
  · show PropertiesReadable hasProperties properties
    unfold deserializeProperties at hprops
    split at hprops
    · next htrue =>
      obtain ⟨⟨extLen, b⟩, -, hprops⟩ := except_bind_eq_ok.mp hprops
      simp only at hprops
      split at hprops
      · obtain ⟨⟨ext, b'⟩, hcopy, hprops⟩ := except_bind_eq_ok.mp hprops
        obtain ⟨headers, hheaders, hret⟩ := except_bind_eq_ok.mp hprops
        simp only [except_pure, Except.ok.injEq, Prod.mk.injEq] at hret
        obtain ⟨rfl, -⟩ := hret
        obtain ⟨hlen, -⟩ := copyToBytes_eq_ok hcopy
        exact ⟨htrue, ext, hlen ▸ extLen.toNat_lt, except_mapError_eq_ok.mp hheaders⟩
      · simp only [except_pure, Except.ok.injEq, Prod.mk.injEq] at hprops
        obtain ⟨rfl, -⟩ := hprops
        exact ⟨htrue, [], by simp, rfl⟩
    · next hfalse =>
      simp only [Except.ok.injEq, Prod.mk.injEq] at hprops
      obtain ⟨rfl, -⟩ := hprops
      exact Bool.eq_false_of_not_eq_true hfalse
  · show BodyReadable status payload
    unfold deserializeBody at hbody
    obtain ⟨⟨payloadLen, b⟩, -, hbody⟩ := except_bind_eq_ok.mp hbody
    simp only at hbody
    split at hbody
    · obtain ⟨⟨raw, b'⟩, -, hbody⟩ := except_bind_eq_ok.mp hbody
      obtain ⟨s, -, hret⟩ := except_bind_eq_ok.mp hbody
      simp only [except_pure, Except.ok.injEq, Prod.mk.injEq] at hret
      obtain ⟨⟨rfl, rfl⟩, -⟩ := hret
      trivial
    · next hne =>
      obtain ⟨⟨bytes, b'⟩, hcopy, hret⟩ := except_bind_eq_ok.mp hbody
      simp only [except_pure, Except.ok.injEq, Prod.mk.injEq] at hret
      obtain ⟨⟨rfl, rfl⟩, -⟩ := hret
      obtain ⟨hlen, -⟩ := copyToBytes_eq_ok hcopy
      have hpos : payloadLen.toNat ≠ 0 := by
        intro hzero
        exact hne (UInt64.toNat_inj.mp hzero)
      refine ⟨?_, hlen ▸ payloadLen.toNat_lt⟩
      intro hnil
      simp [hnil] at hlen
      omega

theorem deserializeProperties_serializeProperties (o : SubgroupObject) (hasProperties : Bool)
    (h : PropertiesReadable hasProperties o.properties) :
    ∃ out, o.serializeProperties hasProperties = .ok out ∧
      Reads (deserializeProperties hasProperties) out o.properties := by
  unfold serializeProperties
  cases hprops : o.properties with
  | none =>
    rw [hprops] at h
    have hflag : hasProperties = false := h
    subst hflag
    exact ⟨[], by simp, fun tail => by simp [deserializeProperties]⟩
  | some props =>
    rw [hprops] at h
    obtain ⟨rfl, bytes, hbytes, hdec⟩ := h
    obtain ⟨ext, hext, hlen, hback⟩ := deserializeObjectProperties_reencodes hdec
    have hlength : (UInt64.ofNat ext.length).toNat = ext.length :=
      toNat_ofNat_length (by omega)
    refine ⟨putVi (UInt64.ofNat ext.length) ++ ext, by simp [hext], fun tail => ?_⟩
    simp only [deserializeProperties, if_true, List.append_assoc, getVi_putVi, except_ok_bind,
      hlength]
    by_cases hpos : ext.length > 0
    · rw [if_pos hpos, copyToBytes_append]
      simp [hback, Except.mapError]
    · rw [if_neg hpos]
      have hnil : ext = [] := by
        rw [← List.length_eq_zero_iff]
        omega
      subst hnil
      have hempty : deserializeObjectProperties [] = .ok [] := rfl
      rw [hempty, Except.ok.injEq] at hback
      simp [← hback]

theorem deserializeBody_serializeBody (o : SubgroupObject)
    (h : BodyReadable o.objectStatus o.payload) :
    Reads deserializeBody o.serializeBody (o.objectStatus, o.payload) := by
  intro tail
  unfold serializeBody
  cases hpayload : o.payload with
  | none =>
    cases hstatus : o.objectStatus with
    | none => simp [hpayload, hstatus, BodyReadable] at h
    | some status => simp [deserializeBody]
  | some payload =>
    cases hstatus : o.objectStatus with
    | some status => simp [hpayload, hstatus, BodyReadable] at h
    | none =>
      rw [hpayload, hstatus] at h
      obtain ⟨hne, hlen⟩ := h
      have hlength := toNat_ofNat_length hlen
      have hzero : UInt64.ofNat payload.length ≠ 0 := by
        intro heq
        rw [heq, UInt64.toNat_zero] at hlength
        exact hne (List.length_eq_zero_iff.mp hlength.symm)
      have hempty : payload.isEmpty = false := by simpa using hne
      simp only [Option.getD_some, hempty, Bool.false_eq_true, if_false, deserializeBody,
        List.append_assoc, getVi_putVi, except_ok_bind, hzero, hlength, copyToBytes_append,
        except_pure]

theorem deserializeProperties_stable (hasProperties : Bool) :
    Stable (deserializeProperties hasProperties) := by
  intro bytes properties rest tail h
  unfold deserializeProperties at h ⊢
  cases hasProperties with
  | false =>
    simp only [Bool.false_eq_true, if_false, Except.ok.injEq, Prod.mk.injEq] at h ⊢
    exact ⟨h.1, by rw [h.2]⟩
  | true =>
    simp only [if_true] at h ⊢
    obtain ⟨⟨extLen, b⟩, hvi, h⟩ := except_bind_eq_ok.mp h
    rw [getVi_stable _ _ _ tail hvi, except_ok_bind]
    simp only at h ⊢
    split at h
    · next hpos =>
      obtain ⟨⟨ext, b'⟩, hcopy, h⟩ := except_bind_eq_ok.mp h
      obtain ⟨headers, hheaders, hret⟩ := except_bind_eq_ok.mp h
      simp only [except_pure, Except.ok.injEq, Prod.mk.injEq] at hret
      rw [if_pos hpos, copyToBytes_stable _ _ _ _ _ tail hcopy, except_ok_bind]
      simp only at hheaders hret ⊢
      rw [hheaders, except_ok_bind, hret.1, hret.2]
      rfl
    · next hpos =>
      simp only [except_pure, Except.ok.injEq, Prod.mk.injEq] at h
      rw [if_neg hpos, h.1, h.2]
      rfl

theorem deserializeBody_stable : Stable deserializeBody := by
  intro bytes body rest tail h
  unfold deserializeBody at h ⊢
  obtain ⟨⟨payloadLen, b⟩, hvi, h⟩ := except_bind_eq_ok.mp h
  rw [getVi_stable _ _ _ tail hvi, except_ok_bind]
  simp only at h ⊢
  split at h
  · next hzero =>
    obtain ⟨⟨raw, b'⟩, hraw, h⟩ := except_bind_eq_ok.mp h
    obtain ⟨status, hstatus, hret⟩ := except_bind_eq_ok.mp h
    simp only [except_pure, Except.ok.injEq, Prod.mk.injEq] at hret
    rw [if_pos hzero, getVi_stable _ _ _ tail hraw, except_ok_bind]
    simp only at hstatus hret ⊢
    rw [hstatus, except_ok_bind, hret.1, hret.2]
    rfl
  · next hzero =>
    obtain ⟨⟨payload, b'⟩, hcopy, hret⟩ := except_bind_eq_ok.mp h
    simp only [except_pure, Except.ok.injEq, Prod.mk.injEq] at hret
    rw [if_neg hzero, copyToBytes_stable _ _ _ _ _ tail hcopy, except_ok_bind]
    simp only
    rw [hret.1, hret.2]
    rfl

theorem deserialize_stable (previous : Option UInt64) (hasProperties : Bool) :
    Stable fun bytes => deserialize bytes previous hasProperties := by
  intro bytes o rest tail h
  simp only [deserialize] at h ⊢
  obtain ⟨⟨delta, b1⟩, hvi, h⟩ := except_bind_eq_ok.mp h
  obtain ⟨⟨properties, b2⟩, hprops, h⟩ := except_bind_eq_ok.mp h
  obtain ⟨⟨⟨status, payload⟩, b3⟩, hbody, hret⟩ := except_bind_eq_ok.mp h
  simp only [except_pure, Except.ok.injEq, Prod.mk.injEq] at hret
  rw [getVi_stable _ _ _ tail hvi, except_ok_bind]
  simp only at hprops ⊢
  rw [deserializeProperties_stable _ _ _ _ tail hprops, except_ok_bind]
  simp only at hbody ⊢
  rw [deserializeBody_stable _ _ _ tail hbody, except_ok_bind]
  simp only
  rw [hret.1, hret.2]
  rfl

/-- An object that was read can be written after any previous object ID, and reads back
the same there. -/
theorem deserialize_serialize (o : SubgroupObject) (hasProperties : Bool)
    (h : o.Readable hasProperties) (previous : Option UInt64) :
    ∃ out, o.serialize previous hasProperties = .ok out ∧
      Reads (fun bytes => deserialize bytes previous hasProperties) out o := by
  obtain ⟨properties, hout, hreads⟩ :=
    deserializeProperties_serializeProperties o hasProperties h.properties
  refine ⟨putVi (objectIdDelta o.objectId previous) ++ properties ++ o.serializeBody,
    ?_, fun tail => ?_⟩
  · simp only [serialize, hout, except_ok_bind, except_pure]
  simp only [deserialize, List.append_assoc, getVi_putVi, except_ok_bind, hreads _,
    deserializeBody_serializeBody o h.body _, objectIdFrom_objectIdDelta, except_pure]

end SubgroupObject

end Moqtail
