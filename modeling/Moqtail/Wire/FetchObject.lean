import Moqtail.Wire.Object

/-! The entries of a FETCH data stream, from `model/data/fetch_object.rs`.

Each entry is written as differences from the one before it. What a field inherits, the
presence flags decide; the writer picks the flags, and the reader has to draw the same
conclusions from them and from the same prior entry. -/
namespace Moqtail

open Lib

inductive GroupOrder where
  | original
  | ascending
  | descending
deriving Repr, DecidableEq

/-- `{group_order:?}`. -/
def GroupOrder.debug : GroupOrder → String
  | original => "Original"
  | ascending => "Ascending"
  | descending => "Descending"

inductive EndOfRangeKind where
  | nonExistent
  | unknown
  | timedOut
deriving Repr, DecidableEq

namespace EndOfRangeKind

def asFlagValue : EndOfRangeKind → UInt64
  | nonExistent => 0x8C
  | unknown => 0x10C
  | timedOut => 0x20C

def ofFlagValue (flagsRaw : UInt64) : Parse EndOfRangeKind :=
  if flagsRaw = 0x8C then .ok nonExistent
  else if flagsRaw = 0x10C then .ok unknown
  else if flagsRaw = 0x20C then .ok timedOut
  else .error (.protocolViolation "FetchObject::deserialize"
    ("invalid Serialization Flags value " ++ hexLower flagsRaw))

@[simp] theorem ofFlagValue_asFlagValue (kind : EndOfRangeKind) :
    ofFlagValue kind.asFlagValue = .ok kind := by
  cases kind <;> rfl

theorem le_asFlagValue (kind : EndOfRangeKind) : 128 ≤ kind.asFlagValue := by
  cases kind <;> decide

end EndOfRangeKind

/-- An Object on a FETCH stream. It has no status: an empty payload is that of a zero-length
Normal Object. -/
structure FetchObjectPayload where
  groupId : UInt64
  subgroupId : UInt64
  objectId : UInt64
  publisherPriority : UInt8
  forwardingPreference : ObjectForwardingPreference
  properties : Option (List ObjectProperty)
  payload : Bytes
deriving Repr, DecidableEq

def FetchObjectPayload.location (o : FetchObjectPayload) : Location := ⟨o.groupId, o.objectId⟩

inductive FetchObject where
  | object (o : FetchObjectPayload)
  | endOfRange (kind : EndOfRangeKind) (location : Location)
deriving Repr, DecidableEq

def FetchObject.location : FetchObject → Location
  | .object o => o.location
  | .endOfRange _ location => location

def FetchObject.payload? : FetchObject → Option FetchObjectPayload
  | .object o => some o
  | .endOfRange _ _ => none

/-- What an entry is encoded against. A marker has no Subgroup ID and no priority, so these
are missing until an Object has passed. -/
structure FetchObjectContext where
  groupId : UInt64
  subgroupId : Option UInt64
  objectId : UInt64
  publisherPriority : Option UInt8
deriving Repr, DecidableEq

def FetchObject.nextContext (e : FetchObject) (prev : Option FetchObjectContext) :
    FetchObjectContext :=
  match e with
  | .object o => ⟨o.groupId, some o.subgroupId, o.objectId, some o.publisherPriority⟩
  | .endOfRange _ location =>
    ⟨location.group, prev.bind (·.subgroupId), location.object, prev.bind (·.publisherPriority)⟩

/-! Serialization Flags. -/

inductive FetchSubgroupMode where
  | zero
  | prior
  | priorPlusOne
  | present
deriving Repr, DecidableEq

def FetchSubgroupMode.toU8 : FetchSubgroupMode → UInt8
  | zero => 0b00
  | prior => 0b01
  | priorPlusOne => 0b10
  | present => 0b11

structure FetchFlags where
  subgroupMode : FetchSubgroupMode
  hasObjectId : Bool
  hasGroupId : Bool
  hasPriority : Bool
  hasProperties : Bool
  isDatagram : Bool
deriving Repr, DecidableEq

namespace FetchFlags

def toU8 (f : FetchFlags) : UInt8 :=
  (f.subgroupMode.toU8 &&& 0x03) ||| bitIf f.hasObjectId 0x04 ||| bitIf f.hasGroupId 0x08 |||
    bitIf f.hasPriority 0x10 ||| bitIf f.hasProperties 0x20 ||| bitIf f.isDatagram 0x40

def modeOf (flags : UInt8) : FetchSubgroupMode :=
  if flags &&& 0x03 = 0b00 then .zero
  else if flags &&& 0x03 = 0b01 then .prior
  else if flags &&& 0x03 = 0b10 then .priorPlusOne
  else .present

def ofU8 (flags : UInt8) : FetchFlags where
  subgroupMode := modeOf flags
  hasObjectId := flags &&& 0x04 ≠ 0
  hasGroupId := flags &&& 0x08 ≠ 0
  hasPriority := flags &&& 0x10 ≠ 0
  hasProperties := flags &&& 0x20 ≠ 0
  isDatagram := flags &&& 0x40 ≠ 0

theorem ofU8_toU8 (f : FetchFlags) : ofU8 f.toU8 = f := by
  obtain ⟨mode, objectId, groupId, priority, properties, datagram⟩ := f
  cases mode <;> cases objectId <;> cases groupId <;> cases priority <;> cases properties <;>
    cases datagram <;> rfl

/-- Bit 7 is clear, which sets an Object apart from a marker. -/
theorem toU8_lt (f : FetchFlags) : f.toU8.toUInt64 < 128 := by
  obtain ⟨mode, objectId, groupId, priority, properties, datagram⟩ := f
  cases mode <;> cases objectId <;> cases groupId <;> cases priority <;> cases properties <;>
    cases datagram <;> decide

end FetchFlags

/-! Writing. -/

/-- `u64::checked_add`. -/
def checkedAdd (a b : UInt64) : Option UInt64 :=
  if a.toNat + b.toNat < 2 ^ 64 then some (a + b) else none

/-- `u64::checked_sub`. -/
def checkedSub (a b : UInt64) : Option UInt64 := if b ≤ a then some (a - b) else none

/-- `Option::ok_or`. -/
def okOr {α : Type} (o : Option α) (e : ParseError) : Parse α :=
  match o with
  | some a => .ok a
  | none => .error e

namespace FetchObjectPayload

def groupDelta (p : FetchObjectPayload) (prev : Option FetchObjectContext)
    (groupOrder : GroupOrder) : Parse (Option UInt64) :=
  match prev with
  | none => .ok (some p.groupId)
  | some pc =>
    if pc.groupId = p.groupId then .ok none
    else do
      let computed :=
        match groupOrder with
        | .descending => (checkedSub pc.groupId p.groupId).bind (checkedSub · 1)
        | .ascending | .original => (checkedSub p.groupId pc.groupId).bind (checkedSub · 1)
      let delta ← okOr computed (.protocolViolation "FetchObject::serialize"
        (s!"group id not monotonic for {groupOrder.debug}: prior={pc.groupId} " ++
          s!"current={p.groupId}"))
      return some delta

/-- The sum wraps past the largest ID, where no Object ID that could follow is equal to it. -/
def objectDelta (p : FetchObjectPayload) (prev : Option FetchObjectContext)
    (groupDelta : Option UInt64) : Parse (Option UInt64) :=
  match prev with
  | none => .ok (some p.objectId)
  | some pc =>
    if groupDelta.isSome then .ok (some p.objectId)
    else if pc.objectId + 1 = p.objectId then .ok none
    else do
      let delta ← okOr (checkedSub p.objectId pc.objectId)
        (.protocolViolation "FetchObject::serialize"
          s!"object id not monotonic: prior={pc.objectId} current={p.objectId}")
      return some delta

def hasPriority (p : FetchObjectPayload) (prev : Option FetchObjectContext) : Bool :=
  match prev with
  | some pc => pc.publisherPriority ≠ some p.publisherPriority
  | none => true

def hasProperties (p : FetchObjectPayload) : Bool :=
  match p.properties with
  | some v => !v.isEmpty
  | none => false

def isDatagram (p : FetchObjectPayload) : Bool := p.forwardingPreference = .datagram

def subgroupMode (p : FetchObjectPayload) (prev : Option FetchObjectContext) : FetchSubgroupMode :=
  if p.isDatagram ∨ p.subgroupId = 0 then .zero
  else
    match prev with
    | some pc =>
      if pc.subgroupId = some p.subgroupId then .prior
      else if pc.subgroupId.map (· + 1) = some p.subgroupId then .priorPlusOne
      else .present
    | none => .present

def serializeProperties (p : FetchObjectPayload) : Parse Bytes :=
  if p.hasProperties then do
    let ext ← serializeObjectProperties (p.properties.getD [])
    return putVi (UInt64.ofNat ext.length) ++ ext
  else .ok []

/-- A field that is written only when it is there. -/
def putOptional (field : Option UInt64) : Bytes :=
  match field with
  | some v => putVi v
  | none => []

/-- `serialize_payload`. -/
def serialize (p : FetchObjectPayload) (prev : Option FetchObjectContext)
    (groupOrder : GroupOrder) : Parse Bytes := do
  let groupDelta ← p.groupDelta prev groupOrder
  let objectDelta ← p.objectDelta prev groupDelta
  let subgroupMode := p.subgroupMode prev
  let flags : FetchFlags := ⟨subgroupMode, objectDelta.isSome, groupDelta.isSome,
    p.hasPriority prev, p.hasProperties, p.isDatagram⟩
  let properties ← p.serializeProperties
  return putVi flags.toU8.toUInt64 ++ putOptional groupDelta ++
    (if !p.isDatagram && subgroupMode = .present then putVi p.subgroupId else []) ++
    putOptional objectDelta ++ (if p.hasPriority prev then [p.publisherPriority] else []) ++
    properties ++ (putVi (UInt64.ofNat p.payload.length) ++ p.payload)

end FetchObjectPayload

def FetchObject.serialize (e : FetchObject) (prev : Option FetchObjectContext)
    (groupOrder : GroupOrder) : Parse Bytes :=
  match e with
  | .endOfRange kind location =>
    .ok (putVi kind.asFlagValue ++ putVi location.group ++ putVi location.object)
  | .object p => p.serialize prev groupOrder

/-! Reading. -/

namespace FetchObject

def violation (details : String) : ParseError :=
  .protocolViolation "FetchObject::deserialize" details

/-- The first Object of a stream has nothing to inherit from. -/
def checkFirst (flags : FetchFlags) (prev : Option FetchObjectContext) : Parse Unit :=
  if prev.isNone then
    if !flags.hasObjectId || !flags.hasGroupId || !flags.hasPriority then
      .error (violation "first object must carry explicit group/object/priority")
    else if !flags.isDatagram &&
        (flags.subgroupMode = .prior || flags.subgroupMode = .priorPlusOne) then
      .error (violation "first object cannot reference prior subgroup")
    else .ok ()
  else .ok ()

def deserializeGroupId (flags : FetchFlags) (prev : Option FetchObjectContext)
    (groupOrder : GroupOrder) (bytes : Bytes) : Parse (UInt64 × Bytes) :=
  if flags.hasGroupId then do
    let (delta, bytes) ← getVi bytes
    match prev with
    | none => return (delta, bytes)
    | some pc =>
      let computed :=
        match groupOrder with
        | .descending => (checkedAdd delta 1).bind fun step => checkedSub pc.groupId step
        | .ascending | .original => (checkedAdd pc.groupId delta).bind fun v => checkedAdd v 1
      let groupId ← okOr computed (violation
        s!"group id delta wraps: prior={pc.groupId} delta={delta} order={groupOrder.debug}")
      return (groupId, bytes)
  else do
    let pc ← okOr prev (violation "group_id inherited but no prior object")
    return (pc.groupId, bytes)

/-- The sum wraps as the source's does, which the writer never asks for. -/
def deserializeSubgroupId (flags : FetchFlags) (prev : Option FetchObjectContext)
    (bytes : Bytes) : Parse (UInt64 × Bytes) :=
  if flags.isDatagram then .ok (0, bytes)
  else
    match flags.subgroupMode with
    | .zero => .ok (0, bytes)
    | .prior => do
      let subgroupId ← okOr (prev.bind (·.subgroupId))
        (violation "subgroup_id inherited but no prior object")
      return (subgroupId, bytes)
    | .priorPlusOne => do
      let subgroupId ← okOr (prev.bind (·.subgroupId))
        (violation "subgroup_id inherited but no prior object")
      return (subgroupId + 1, bytes)
    | .present => getVi bytes

def deserializeObjectId (flags : FetchFlags) (prev : Option FetchObjectContext)
    (bytes : Bytes) : Parse (UInt64 × Bytes) :=
  if flags.hasObjectId then do
    let (delta, bytes) ← getVi bytes
    match prev with
    | none => return (delta, bytes)
    | some pc =>
      if flags.hasGroupId then return (delta, bytes)
      else
        let objectId ← okOr (checkedAdd pc.objectId delta)
          (violation s!"object id delta wraps: prior={pc.objectId} delta={delta}")
        return (objectId, bytes)
  else do
    let pc ← okOr prev (violation "object_id inherited but no prior object")
    let objectId ← okOr (checkedAdd pc.objectId 1)
      (violation s!"object id wraps: prior={pc.objectId} +1")
    return (objectId, bytes)

def deserializePriority (flags : FetchFlags) (prev : Option FetchObjectContext)
    (bytes : Bytes) : Parse (UInt8 × Bytes) :=
  if flags.hasPriority then
    match bytes with
    | [] => .error (.notEnoughBytes "FetchObject::deserialize(priority)" 1 0)
    | priority :: rest => .ok (priority, rest)
  else do
    let priority ← okOr (prev.bind (·.publisherPriority))
      (violation "priority inherited but no prior object")
    return (priority, bytes)

def deserializeProperties (flags : FetchFlags) (bytes : Bytes) :
    Parse (Option (List ObjectProperty) × Bytes) :=
  if flags.hasProperties then do
    let (extLen, bytes) ← getVi bytes
    let (ext, bytes) ← copyToBytes "FetchObject::deserialize(properties)" extLen.toNat bytes
    let headers ← (deserializeObjectProperties ext).mapError fun _ =>
      .protocolViolation "FetchObject::deserialize(properties)" "cannot parse object properties"
    return (some headers, bytes)
  else .ok (none, bytes)

def deserializePayload (bytes : Bytes) : Parse (Bytes × Bytes) := do
  let (payloadLen, bytes) ← getVi bytes
  copyToBytes "FetchObject::deserialize(payload)" payloadLen.toNat bytes

def deserialize (prev : Option FetchObjectContext) (groupOrder : GroupOrder) (bytes : Bytes) :
    Parse (FetchObject × Bytes) := do
  let (flagsRaw, bytes) ← getVi bytes
  if flagsRaw ≥ 128 then
    let kind ← EndOfRangeKind.ofFlagValue flagsRaw
    let (groupId, bytes) ← getVi bytes
    let (objectId, bytes) ← getVi bytes
    return (.endOfRange kind ⟨groupId, objectId⟩, bytes)
  else
    let flags := FetchFlags.ofU8 flagsRaw.toUInt8
    checkFirst flags prev
    let (groupId, bytes) ← deserializeGroupId flags prev groupOrder bytes
    let (subgroupId, bytes) ← deserializeSubgroupId flags prev bytes
    let (objectId, bytes) ← deserializeObjectId flags prev bytes
    let (publisherPriority, bytes) ← deserializePriority flags prev bytes
    let (properties, bytes) ← deserializeProperties flags bytes
    let (payload, bytes) ← deserializePayload bytes
    return (.object {
      groupId := groupId
      subgroupId := if flags.isDatagram then objectId else subgroupId
      objectId := objectId
      publisherPriority := publisherPriority
      forwardingPreference := if flags.isDatagram then .datagram else .subgroup
      properties := properties
      payload := payload }, bytes)

end FetchObject

/-! The fields of an Object, one by one. -/

theorem checkedAdd_eq {a b c : UInt64} (h : a.toNat + b.toNat = c.toNat) :
    checkedAdd a b = some c := by
  have hlt := c.toNat_lt
  unfold checkedAdd
  rw [if_pos (by omega)]
  congr 1
  apply UInt64.toNat_inj.mp
  rw [UInt64.toNat_add, h, Nat.mod_eq_of_lt hlt]

theorem checkedSub_eq {a b c : UInt64} (h : a.toNat = b.toNat + c.toNat) :
    checkedSub a b = some c := by
  have hle : b ≤ a := by
    rw [UInt64.le_iff_toNat_le]
    omega
  unfold checkedSub
  rw [if_pos hle]
  congr 1
  apply UInt64.toNat_inj.mp
  rw [UInt64.toNat_sub_of_le _ _ hle]
  omega

theorem sub_toNat_of_lt {a b : UInt64} (h : a < b) : (b - a - 1).toNat = b.toNat - a.toNat - 1 := by
  have hlt := UInt64.lt_iff_toNat_lt.mp h
  have hone : (1 : UInt64) ≤ b - a := by
    rw [UInt64.le_iff_toNat_le, UInt64.toNat_sub_of_le _ _ (UInt64.le_of_lt h)]
    show 1 ≤ b.toNat - a.toNat
    omega
  rw [UInt64.toNat_sub_of_le _ _ hone, UInt64.toNat_sub_of_le _ _ (UInt64.le_of_lt h)]
  rfl

/-- Group IDs go this way in a response delivered in the order; Original is delivered as
Ascending is. -/
def GroupOrder.Monotone (groupOrder : GroupOrder) (prior current : UInt64) : Prop :=
  match groupOrder with
  | .descending => current ≤ prior
  | .ascending | .original => prior ≤ current

instance (groupOrder : GroupOrder) (prior current : UInt64) :
    Decidable (groupOrder.Monotone prior current) := by
  unfold GroupOrder.Monotone
  cases groupOrder <;> infer_instance

namespace FetchObjectPayload

/-- The delta of a step down to a smaller Group ID or up to a larger one, and back. -/
theorem checkedSub_step {a b : UInt64} (h : a < b) :
    (checkedSub b a).bind (checkedSub · 1) = some (b - a - 1) ∧
      (checkedAdd a (b - a - 1)).bind (checkedAdd · 1) = some b ∧
      (checkedAdd (b - a - 1) 1).bind (checkedSub b ·) = some a := by
  have hlt := UInt64.lt_iff_toNat_lt.mp h
  have hle := UInt64.le_of_lt h
  have hsub := UInt64.toNat_sub_of_le _ _ hle
  have hstep := sub_toNat_of_lt h
  have hone : (1 : UInt64).toNat = 1 := rfl
  have hmid : (b - 1).toNat = b.toNat - 1 := by
    apply UInt64.toNat_sub_of_le
    rw [UInt64.le_iff_toNat_le, hone]
    omega
  refine ⟨?_, ?_, ?_⟩
  · rw [checkedSub_eq (c := b - a) (by omega)]
    exact checkedSub_eq (by omega)
  · rw [checkedAdd_eq (c := b - 1) (by omega)]
    exact checkedAdd_eq (by omega)
  · rw [checkedAdd_eq (c := b - a) (by omega)]
    exact checkedSub_eq (by omega)

theorem groupDelta_reads (p : FetchObjectPayload) (prev : Option FetchObjectContext)
    (groupOrder : GroupOrder)
    (h : ∀ pc, prev = some pc → groupOrder.Monotone pc.groupId p.groupId) :
    ∃ delta, p.groupDelta prev groupOrder = .ok delta ∧
      (delta = none → ∃ pc, prev = some pc ∧ pc.groupId = p.groupId) ∧
      ∀ flags : FetchFlags, flags.hasGroupId = delta.isSome →
        Reads (FetchObject.deserializeGroupId flags prev groupOrder) (putOptional delta)
          p.groupId := by
  cases prev with
  | none =>
    refine ⟨some p.groupId, rfl, nofun, fun flags hflags tail => ?_⟩
    rw [Option.isSome_some] at hflags
    simp [FetchObject.deserializeGroupId, putOptional, hflags]
  | some pc =>
    by_cases heq : pc.groupId = p.groupId
    · refine ⟨none, by simp [groupDelta, heq], fun _ => ⟨pc, rfl, heq⟩, fun flags hflags tail => ?_⟩
      rw [Option.isSome_none] at hflags
      simp [FetchObject.deserializeGroupId, putOptional, hflags, okOr, heq]
    · have hmono := h pc rfl
      cases groupOrder with
      | descending =>
        obtain ⟨hsub, -, hback⟩ := checkedSub_step (UInt64.lt_of_le_of_ne hmono (Ne.symm heq))
        refine ⟨some (pc.groupId - p.groupId - 1), by simp [groupDelta, heq, hsub, okOr], nofun,
          fun flags hflags tail => ?_⟩
        rw [Option.isSome_some] at hflags
        simp [FetchObject.deserializeGroupId, putOptional, hflags, hback, okOr]
      | ascending =>
        obtain ⟨hsub, hback, -⟩ := checkedSub_step (UInt64.lt_of_le_of_ne hmono heq)
        refine ⟨some (p.groupId - pc.groupId - 1), by simp [groupDelta, heq, hsub, okOr], nofun,
          fun flags hflags tail => ?_⟩
        rw [Option.isSome_some] at hflags
        simp [FetchObject.deserializeGroupId, putOptional, hflags, hback, okOr]
      | original =>
        obtain ⟨hsub, hback, -⟩ := checkedSub_step (UInt64.lt_of_le_of_ne hmono heq)
        refine ⟨some (p.groupId - pc.groupId - 1), by simp [groupDelta, heq, hsub, okOr], nofun,
          fun flags hflags tail => ?_⟩
        rw [Option.isSome_some] at hflags
        simp [FetchObject.deserializeGroupId, putOptional, hflags, hback, okOr]

theorem objectDelta_reads (p : FetchObjectPayload) (prev : Option FetchObjectContext)
    (groupDelta : Option UInt64)
    (h : ∀ pc, prev = some pc → groupDelta = none → pc.objectId ≤ p.objectId) :
    ∃ delta, p.objectDelta prev groupDelta = .ok delta ∧ (delta = none → prev.isSome) ∧
      ∀ flags : FetchFlags, flags.hasObjectId = delta.isSome →
        flags.hasGroupId = groupDelta.isSome →
        Reads (FetchObject.deserializeObjectId flags prev) (putOptional delta) p.objectId := by
  cases prev with
  | none =>
    refine ⟨some p.objectId, rfl, nofun, fun flags hflags _ tail => ?_⟩
    rw [Option.isSome_some] at hflags
    simp [FetchObject.deserializeObjectId, putOptional, hflags]
  | some pc =>
    cases groupDelta with
    | some delta =>
      refine ⟨some p.objectId, rfl, nofun, fun flags hflags hgroup tail => ?_⟩
      rw [Option.isSome_some] at hflags hgroup
      simp [FetchObject.deserializeObjectId, putOptional, hflags, hgroup]
    | none =>
      have hle := h pc rfl rfl
      have hnat := UInt64.le_iff_toNat_le.mp hle
      by_cases hnext : pc.objectId + 1 = p.objectId
      · -- the sum did not wrap, or the Object ID would be smaller than the prior one
        have hadd : checkedAdd pc.objectId 1 = some p.objectId := by
          apply checkedAdd_eq
          have hsum := congrArg UInt64.toNat hnext
          have hlt := pc.objectId.toNat_lt
          rw [UInt64.toNat_add] at hsum
          change (pc.objectId.toNat + 1) % 2 ^ 64 = p.objectId.toNat at hsum
          change pc.objectId.toNat + 1 = p.objectId.toNat
          omega
        refine ⟨none, by simp [objectDelta, hnext], fun _ => rfl, fun flags hflags _ tail => ?_⟩
        rw [Option.isSome_none] at hflags
        simp [FetchObject.deserializeObjectId, putOptional, hflags, okOr, hadd]
      · have hsub := UInt64.toNat_sub_of_le _ _ hle
        have hdelta : checkedSub p.objectId pc.objectId = some (p.objectId - pc.objectId) :=
          checkedSub_eq (by omega)
        have hadd : checkedAdd pc.objectId (p.objectId - pc.objectId) = some p.objectId :=
          checkedAdd_eq (by omega)
        refine ⟨some (p.objectId - pc.objectId), by simp [objectDelta, hnext, hdelta, okOr], nofun,
          fun flags hflags hgroup tail => ?_⟩
        rw [Option.isSome_some] at hflags
        rw [Option.isSome_none] at hgroup
        simp [FetchObject.deserializeObjectId, putOptional, hflags, hgroup, hadd, okOr]

theorem subgroupId_reads (p : FetchObjectPayload) (prev : Option FetchObjectContext)
    (flags : FetchFlags) (hdatagram : flags.isDatagram = p.isDatagram)
    (hmode : flags.subgroupMode = p.subgroupMode prev) :
    Reads (FetchObject.deserializeSubgroupId flags prev)
      (if !p.isDatagram && p.subgroupMode prev = .present then putVi p.subgroupId else [])
      (if p.isDatagram then 0 else p.subgroupId) := by
  intro tail
  unfold FetchObject.deserializeSubgroupId
  rw [hdatagram, hmode]
  cases hd : p.isDatagram with
  | true => simp
  | false =>
    by_cases hzero : p.subgroupId = 0
    · simp [subgroupMode, hd, hzero]
    · cases prev with
      | none => simp [subgroupMode, hd, hzero]
      | some pc =>
        by_cases hprior : pc.subgroupId = some p.subgroupId
        · simp [subgroupMode, hd, hzero, hprior, okOr]
        · by_cases hplus : pc.subgroupId.map (· + 1) = some p.subgroupId
          · obtain ⟨s, hs, hsum⟩ := Option.map_eq_some_iff.mp hplus
            have hne : s ≠ p.subgroupId := by
              rintro rfl
              exact hprior hs
            simp [subgroupMode, hd, hzero, hs, hne, hsum, okOr]
          · simp [subgroupMode, hd, hzero, hprior, hplus]

theorem priority_reads (p : FetchObjectPayload) (prev : Option FetchObjectContext)
    (flags : FetchFlags) (hflags : flags.hasPriority = p.hasPriority prev) :
    Reads (FetchObject.deserializePriority flags prev)
      (if p.hasPriority prev then [p.publisherPriority] else []) p.publisherPriority := by
  intro tail
  unfold FetchObject.deserializePriority
  rw [hflags]
  cases hp : p.hasPriority prev with
  | true => simp
  | false =>
    cases prev with
    | none => simp [hasPriority] at hp
    | some pc =>
      have hsame : pc.publisherPriority = some p.publisherPriority := by
        simpa [hasPriority] using hp
      simp [hsame, okOr]

/-- What a stream can carry of an Object: a length fits its field, an empty list of properties
is not told from none, and a datagram Object has no Subgroup ID of its own. -/
structure Writable (p : FetchObjectPayload) : Prop where
  payload : p.payload.length < 2 ^ 64
  datagram : p.forwardingPreference = .datagram → p.subgroupId = p.objectId
  properties : ∀ props, p.properties = some props → props ≠ [] ∧
    ObjectProperty.CanonicalFrom 0 props ∧
    ∀ ext, serializeObjectProperties props = .ok ext → ext.length < 2 ^ 64

theorem serializeProperties_reads (p : FetchObjectPayload) (h : p.Writable) :
    ∃ out, p.serializeProperties = .ok out ∧
      ∀ flags : FetchFlags, flags.hasProperties = p.hasProperties →
        Reads (FetchObject.deserializeProperties flags) out p.properties := by
  unfold serializeProperties
  cases hprops : p.properties with
  | none =>
    have hflag : p.hasProperties = false := by simp [hasProperties, hprops]
    exact ⟨[], by simp [hflag],
      fun flags hf tail => by simp [FetchObject.deserializeProperties, hf, hflag]⟩
  | some props =>
    obtain ⟨hne, hcanonical, hfits⟩ := h.properties props hprops
    obtain ⟨ext, hext, hback⟩ := deserializeObjectProperties_of_canonical hcanonical
    have hlength : (UInt64.ofNat ext.length).toNat = ext.length :=
      toNat_ofNat_length (hfits ext hext)
    have hflag : p.hasProperties = true := by simpa [hasProperties, hprops] using hne
    refine ⟨putVi (UInt64.ofNat ext.length) ++ ext, by simp [hflag, hext],
      fun flags hf tail => ?_⟩
    simp only [FetchObject.deserializeProperties, hf, hflag, if_true, List.append_assoc,
      getVi_putVi, except_ok_bind, hlength, copyToBytes_append, hback]
    rfl

theorem payload_reads (p : FetchObjectPayload) (h : p.Writable) :
    Reads FetchObject.deserializePayload (putVi (UInt64.ofNat p.payload.length) ++ p.payload)
      p.payload := by
  intro tail
  simp only [FetchObject.deserializePayload, List.append_assoc, getVi_putVi, except_ok_bind,
    toNat_ofNat_length h.payload, copyToBytes_append]

/-- The fields as they are read make up the Object that was written. -/
theorem eq_of_read (p : FetchObjectPayload) (h : p.Writable) :
    FetchObjectPayload.mk p.groupId
      (if p.isDatagram then p.objectId else if p.isDatagram then 0 else p.subgroupId) p.objectId
      p.publisherPriority (if p.isDatagram then .datagram else .subgroup) p.properties p.payload =
        p := by
  obtain ⟨groupId, subgroupId, objectId, priority, preference, props, payload⟩ := p
  cases preference with
  | subgroup => rfl
  | datagram =>
    have hid : subgroupId = objectId := h.datagram rfl
    rw [hid]
    rfl

/-- The writer refers to a prior entry only where there is one. -/
theorem checkFirst_ok (p : FetchObjectPayload) (prev : Option FetchObjectContext)
    (flags : FetchFlags) (hobject : prev = none → flags.hasObjectId = true)
    (hgroup : prev = none → flags.hasGroupId = true)
    (hpriority : flags.hasPriority = p.hasPriority prev)
    (hmode : flags.subgroupMode = p.subgroupMode prev) :
    FetchObject.checkFirst flags prev = .ok () := by
  cases prev with
  | some pc => rfl
  | none =>
    have hprior : flags.subgroupMode ≠ .prior ∧ flags.subgroupMode ≠ .priorPlusOne := by
      rw [hmode]
      unfold subgroupMode
      split <;> simp
    simp [FetchObject.checkFirst, hobject, hgroup, hpriority, hasPriority, hprior]

/-- What the prior entry asks of the next one: Group IDs go the way of the order, Object IDs
do not decrease within a group. -/
structure Follows (groupOrder : GroupOrder) (prev : Option FetchObjectContext)
    (location : Location) : Prop where
  group : ∀ pc, prev = some pc → groupOrder.Monotone pc.groupId location.group
  object : ∀ pc, prev = some pc → pc.groupId = location.group → pc.objectId ≤ location.object

theorem serialize_reads (p : FetchObjectPayload) (prev : Option FetchObjectContext)
    (groupOrder : GroupOrder) (hwritable : p.Writable)
    (hfollows : Follows groupOrder prev p.location) :
    ∃ out, p.serialize prev groupOrder = .ok out ∧ out ≠ [] ∧
      Reads (FetchObject.deserialize prev groupOrder) out (.object p) := by
  obtain ⟨groupDelta, hgd, hsame, hgroup⟩ := p.groupDelta_reads prev groupOrder hfollows.group
  have hobjectLe : ∀ pc, prev = some pc → groupDelta = none → pc.objectId ≤ p.objectId := by
    intro pc hpc hnone
    obtain ⟨pc', hpc', heq⟩ := hsame hnone
    cases hpc.symm.trans hpc'
    exact hfollows.object pc hpc heq
  obtain ⟨objectDelta, hod, hprev, hobject⟩ := p.objectDelta_reads prev groupDelta hobjectLe
  obtain ⟨properties, hprops, hproperties⟩ := p.serializeProperties_reads hwritable
  let flags : FetchFlags := ⟨p.subgroupMode prev, objectDelta.isSome, groupDelta.isSome,
    p.hasPriority prev, p.hasProperties, p.isDatagram⟩
  have hfirst : FetchObject.checkFirst flags prev = .ok () := by
    apply checkFirst_ok p prev flags
    · intro hnone
      cases hdelta : objectDelta with
      | some delta => simp [flags, hdelta]
      | none =>
        have hsome := hprev hdelta
        rw [hnone] at hsome
        cases hsome
    · intro hnone
      cases hdelta : groupDelta with
      | some delta => simp [flags, hdelta]
      | none =>
        obtain ⟨pc, hpc, -⟩ := hsame hdelta
        rw [hnone] at hpc
        cases hpc
    · rfl
    · rfl
  refine ⟨putVi flags.toU8.toUInt64 ++ putOptional groupDelta ++
    (if !p.isDatagram && p.subgroupMode prev = .present then putVi p.subgroupId else []) ++
    putOptional objectDelta ++ (if p.hasPriority prev then [p.publisherPriority] else []) ++
    properties ++ (putVi (UInt64.ofNat p.payload.length) ++ p.payload), ?_, ?_, fun tail => ?_⟩
  · simp only [serialize, hgd, hod, hprops, except_ok_bind, except_pure]
    rfl
  · intro hnil
    have hlen := congrArg List.length hnil
    have hpos := minimalViLength_pos flags.toU8.toUInt64
    simp only [List.length_append, length_putVi, List.length_nil] at hlen
    omega
  · have hflags : ¬ flags.toU8.toUInt64 ≥ 128 := UInt64.not_le.mpr flags.toU8_lt
    have hof : FetchFlags.ofU8 flags.toU8.toUInt64.toUInt8 = flags := by
      rw [UInt8.toUInt8_toUInt64, FetchFlags.ofU8_toU8]
    simp only [FetchObject.deserialize, List.append_assoc, getVi_putVi, except_ok_bind, hflags,
      if_false, hof, hfirst, hgroup flags rfl _, p.subgroupId_reads prev flags rfl rfl _,
      hobject flags rfl rfl _, p.priority_reads prev flags rfl _, hproperties flags rfl _]
    have hpayload := p.payload_reads hwritable tail
    rw [List.append_assoc] at hpayload
    rw [hpayload, except_ok_bind, except_pure]
    exact congrArg (fun o => Except.ok (FetchObject.object o, tail)) (p.eq_of_read hwritable)

end FetchObjectPayload

/-! A stream of entries. -/

namespace FetchObject

def Writable : FetchObject → Prop
  | .object p => p.Writable
  | .endOfRange _ _ => True

/-- `e'` may come right after `e` on a stream in this order. -/
def Precedes (groupOrder : GroupOrder) (e e' : FetchObject) : Prop :=
  groupOrder.Monotone e.location.group e'.location.group ∧
    (e.location.group = e'.location.group → e.location.object ≤ e'.location.object)

instance (groupOrder : GroupOrder) (e e' : FetchObject) : Decidable (Precedes groupOrder e e') :=
  inferInstanceAs (Decidable (_ ∧ _))

/-- The entries of a stream, each against the context the ones before it leave. -/
def serializeAll (groupOrder : GroupOrder) (entries : List FetchObject) : Parse Bytes :=
  encodeAll (fun prev e => some (nextContext e prev)) (fun prev e => e.serialize prev groupOrder)
    none entries

/-- Each turn takes at least one byte, so as many turns as bytes are enough. -/
def deserializeAll (groupOrder : GroupOrder) (bytes : Bytes) :
    Parse (List FetchObject × Bytes) :=
  decodeAll (fun prev e => some (nextContext e prev)) (fun prev => deserialize prev groupOrder)
    bytes.length none bytes

theorem serialize_reads (e : FetchObject) (prev : Option FetchObjectContext)
    (groupOrder : GroupOrder) (hwritable : e.Writable)
    (hfollows : FetchObjectPayload.Follows groupOrder prev e.location) :
    ∃ out, e.serialize prev groupOrder = .ok out ∧ out ≠ [] ∧
      Reads (deserialize prev groupOrder) out e := by
  cases e with
  | object p => exact p.serialize_reads prev groupOrder hwritable hfollows
  | endOfRange kind location =>
    refine ⟨_, rfl, ?_, fun tail => ?_⟩
    · intro hnil
      have hlen := congrArg List.length hnil
      have hpos := minimalViLength_pos kind.asFlagValue
      simp only [List.length_append, length_putVi, List.length_nil] at hlen
      omega
    · simp only [deserialize, List.append_assoc, getVi_putVi, except_ok_bind, ge_iff_le,
        kind.le_asFlagValue, if_true, EndOfRangeKind.ofFlagValue_asFlagValue, except_pure]

theorem location_nextContext (e : FetchObject) (prev : Option FetchObjectContext) :
    (e.nextContext prev).groupId = e.location.group ∧
      (e.nextContext prev).objectId = e.location.object := by
  cases e with
  | object p => exact ⟨rfl, rfl⟩
  | endOfRange kind location => exact ⟨rfl, rfl⟩

theorem follows_of_precedes {groupOrder : GroupOrder} {e e' : FetchObject}
    (h : Precedes groupOrder e e') (prev : Option FetchObjectContext) :
    FetchObjectPayload.Follows groupOrder (some (e.nextContext prev)) e'.location := by
  obtain ⟨hgroup, hobject⟩ := e.location_nextContext prev
  refine ⟨?_, ?_⟩
  · rintro pc ⟨⟩
    rw [hgroup]
    exact h.1
  · rintro pc ⟨⟩
    rw [hgroup, hobject]
    exact h.2

theorem threaded_of_chain {groupOrder : GroupOrder} (entries : List FetchObject) :
    ∀ (e : FetchObject) (prev : Option FetchObjectContext),
      (e :: entries).IsChain (Precedes groupOrder) → (∀ e' ∈ e :: entries, e'.Writable) →
      FetchObjectPayload.Follows groupOrder prev e.location →
      Threaded (fun prev e => some (nextContext e prev))
        (fun prev e => e.Writable ∧ FetchObjectPayload.Follows groupOrder prev e.location) prev
        (e :: entries) := by
  induction entries with
  | nil =>
    intro e prev _ hwritable hfollows
    exact ⟨⟨hwritable e (List.mem_singleton_self e), hfollows⟩, trivial⟩
  | cons e' rest ih =>
    intro e prev hchain hwritable hfollows
    obtain ⟨hprecedes, hrest⟩ := List.isChain_cons_cons.mp hchain
    refine ⟨⟨hwritable e List.mem_cons_self, hfollows⟩, ?_⟩
    exact ih e' _ hrest (fun e'' hmem => hwritable e'' (List.mem_cons_of_mem e hmem))
      (follows_of_precedes hprecedes prev)

/-- A stream in a group order reads back entry by entry, to its last byte. -/
theorem deserializeAll_serializeAll (groupOrder : GroupOrder) (entries : List FetchObject)
    (hchain : entries.IsChain (Precedes groupOrder)) (hwritable : ∀ e ∈ entries, e.Writable) :
    ∃ out, serializeAll groupOrder entries = .ok out ∧
      deserializeAll groupOrder out = .ok (entries, []) := by
  have hthreaded : Threaded (fun prev e => some (nextContext e prev))
      (fun prev e => e.Writable ∧ FetchObjectPayload.Follows groupOrder prev e.location) none
      entries := by
    cases entries with
    | nil => trivial
    | cons e rest => exact threaded_of_chain rest e none hchain hwritable ⟨nofun, nofun⟩
  obtain ⟨out, hout, hback⟩ := decodeAll_encodeAll
    (fun prev e => some (nextContext e prev))
    (fun prev e h => e.serialize_reads prev groupOrder h.1 h.2) entries none hthreaded
  exact ⟨out, hout, hback out.length le_rfl⟩

/-- Markers before, between and after the Objects, one of them a datagram with properties. -/
def mixedEntries : List FetchObject :=
  [.endOfRange .unknown ⟨9, 4⟩, .object ⟨9, 7, 4, 128, .subgroup, none, [1, 2]⟩,
    .object ⟨9, 8, 5, 128, .subgroup, none, []⟩, .endOfRange .timedOut ⟨6, 0⟩,
    .object ⟨6, 3, 3, 128, .datagram, some [.priorGroupIdGap 2, .priorObjectIdGap 2], [3]⟩,
    .endOfRange .nonExistent ⟨0, 0xFFFFFFFFFFFFFFFF⟩]

theorem deserializeAll_serializeAll_mixedEntries :
    ∃ out, serializeAll .descending mixedEntries = .ok out ∧
      deserializeAll .descending out = .ok (mixedEntries, []) := by
  apply deserializeAll_serializeAll .descending mixedEntries
  · decide
  · intro e hmem
    simp only [mixedEntries, List.mem_cons, List.not_mem_nil, or_false] at hmem
    obtain rfl | rfl | rfl | rfl | rfl | rfl := hmem
    · trivial
    · exact ⟨by decide, nofun, nofun⟩
    · exact ⟨by decide, nofun, nofun⟩
    · trivial
    · refine ⟨by decide, fun _ => rfl, ?_⟩
      rintro props ⟨⟩
      refine ⟨by simp, ⟨trivial, by decide, trivial, by decide, trivial⟩, ?_⟩
      rintro ext ⟨⟩
      decide
    · trivial

end FetchObject

end Moqtail
