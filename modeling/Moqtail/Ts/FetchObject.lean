import Moqtail.Ts.KeyValuePair
import Moqtail.Wire.FetchObject

/-! The entries of a FETCH data stream in the TypeScript library, from
`moqtail-ts/src/model/data/fetch_object.ts`.

The codec is written a second time, over `bigint`s that do not wrap and over properties that stay
pairs. What the two make of the same entries and of the same bytes is compared here. -/
namespace Moqtail.Ts

open Lib

def endOfRangeValue : EndOfRangeKind → Int
  | .nonExistent => 0x8c
  | .unknown => 0x10c
  | .timedOut => 0x20c

structure FetchObjectContext where
  groupId : Int
  subgroupId : Option Int
  objectId : Int
  publisherPriority : Option Int
deriving Repr, DecidableEq

structure FetchObjectPayload where
  groupId : Int
  subgroupId : Int
  objectId : Int
  publisherPriority : Int
  forwardingPreference : ObjectForwardingPreference
  properties : Option (List KeyValuePair)
  payload : Bytes
deriving Repr, DecidableEq

/-- The two kinds of entry. -/
inductive FetchObject where
  | object (o : FetchObjectPayload)
  | endOfRange (kind : EndOfRangeKind) (groupId objectId : Int)
deriving Repr, DecidableEq

def FetchObject.nextContext (e : FetchObject) (prev : Option FetchObjectContext) :
    FetchObjectContext :=
  match e with
  | .endOfRange _ groupId objectId =>
    ⟨groupId, prev.bind (·.subgroupId), objectId, prev.bind (·.publisherPriority)⟩
  | .object o => ⟨o.groupId, some o.subgroupId, o.objectId, some o.publisherPriority⟩

/-! Serialization Flags, in a `number`. -/

structure FetchFlags where
  subgroupMode : Nat
  hasObjectId : Bool
  hasGroupId : Bool
  hasPriority : Bool
  hasProperties : Bool
  isDatagram : Bool
deriving Repr, DecidableEq

namespace FetchFlags

def toNumber (f : FetchFlags) : Nat :=
  (f.subgroupMode &&& 0x03) ||| (if f.hasObjectId then 0x04 else 0) |||
    (if f.hasGroupId then 0x08 else 0) ||| (if f.hasPriority then 0x10 else 0) |||
    (if f.hasProperties then 0x20 else 0) ||| (if f.isDatagram then 0x40 else 0)

def ofNumber (flags : Nat) : FetchFlags where
  subgroupMode := flags &&& 0x03
  hasObjectId := flags &&& 0x04 ≠ 0
  hasGroupId := flags &&& 0x08 ≠ 0
  hasPriority := flags &&& 0x10 ≠ 0
  hasProperties := flags &&& 0x20 ≠ 0
  isDatagram := flags &&& 0x40 ≠ 0

end FetchFlags

/-! Writing. -/

namespace FetchObjectPayload

def groupDelta (p : FetchObjectPayload) (prev : Option FetchObjectContext)
    (groupOrder : GroupOrder) : Result (Option Int) :=
  match prev with
  | none => .ok (some p.groupId)
  | some pc =>
    if pc.groupId = p.groupId then .ok none
    else
      let delta :=
        if groupOrder = .descending then pc.groupId - p.groupId - 1
        else p.groupId - pc.groupId - 1
      if delta < 0 then
        .error (.protocolViolation "FetchObject.serialize"
          (s!"group id not monotonic for {groupOrder.debug}: prior={pc.groupId} " ++
            s!"current={p.groupId}"))
      else .ok (some delta)

def objectDelta (p : FetchObjectPayload) (prev : Option FetchObjectContext)
    (groupDelta : Option Int) : Result (Option Int) :=
  match prev with
  | none => .ok (some p.objectId)
  | some pc =>
    if groupDelta.isSome then .ok (some p.objectId)
    else if pc.objectId + 1 = p.objectId then .ok none
    else
      let delta := p.objectId - pc.objectId
      if delta < 0 then
        .error (.protocolViolation "FetchObject.serialize"
          s!"object id not monotonic: prior={pc.objectId} current={p.objectId}")
      else .ok (some delta)

def hasPriority (p : FetchObjectPayload) (prev : Option FetchObjectContext) : Bool :=
  match prev with
  | some pc => pc.publisherPriority ≠ some p.publisherPriority
  | none => true

def hasProperties (p : FetchObjectPayload) : Bool :=
  match p.properties with
  | some properties => !properties.isEmpty
  | none => false

def isDatagram (p : FetchObjectPayload) : Bool := p.forwardingPreference = .datagram

def subgroupMode (p : FetchObjectPayload) (prev : Option FetchObjectContext) : Nat :=
  if p.isDatagram ∨ p.subgroupId = 0 then 0b00
  else
    match prev with
    | some pc =>
      if pc.subgroupId = some p.subgroupId then 0b01
      else if pc.subgroupId.map (· + 1) = some p.subgroupId then 0b10
      else 0b11
    | none => 0b11

/-- A field that is written only when it is there. -/
def putOptional (field : Option Int) : Result Bytes :=
  match field with
  | some v => ByteBuffer.putVI v
  | none => .ok []

def serializePriority (p : FetchObjectPayload) (prev : Option FetchObjectContext) : Result Bytes :=
  if p.hasPriority prev then ByteBuffer.putU8 p.publisherPriority else .ok []

def serializeProperties (p : FetchObjectPayload) : Result Bytes :=
  if p.hasProperties then do
    let ext ← serializeKvpList (p.properties.getD [])
    ByteBuffer.putLengthPrefixedBytes ext
  else .ok []

def serialize (p : FetchObjectPayload) (prev : Option FetchObjectContext)
    (groupOrder : GroupOrder) : Result Bytes := do
  let groupDelta ← p.groupDelta prev groupOrder
  let objectDelta ← p.objectDelta prev groupDelta
  let subgroupMode := p.subgroupMode prev
  let flags : FetchFlags := ⟨subgroupMode, objectDelta.isSome, groupDelta.isSome,
    p.hasPriority prev, p.hasProperties, p.isDatagram⟩
  let flags ← ByteBuffer.putVI flags.toNumber
  let group ← putOptional groupDelta
  let subgroup ← putOptional
    (if !p.isDatagram && subgroupMode = 0b11 then some p.subgroupId else none)
  let object ← putOptional objectDelta
  let priority ← p.serializePriority prev
  let properties ← p.serializeProperties
  let payload ← ByteBuffer.putLengthPrefixedBytes p.payload
  return flags ++ group ++ subgroup ++ object ++ priority ++ properties ++ payload

end FetchObjectPayload

namespace FetchObject

def serialize (e : FetchObject) (prev : Option FetchObjectContext) (groupOrder : GroupOrder) :
    Result Bytes :=
  match e with
  | .endOfRange kind groupId objectId => do
    let flags ← ByteBuffer.putVI (endOfRangeValue kind)
    let group ← ByteBuffer.putVI groupId
    let object ← ByteBuffer.putVI objectId
    return flags ++ group ++ object
  | .object p => p.serialize prev groupOrder

/-- The entries of a stream from a context on, each against the context the ones before it
leave. -/
def serializeAll (groupOrder : GroupOrder) (prev : Option FetchObjectContext)
    (entries : List FetchObject) : Result Bytes :=
  encodeAll (fun prev e => some (nextContext e prev)) (fun prev e => e.serialize prev groupOrder)
    prev entries

/-! Reading. -/

def violation (details : String) : Error := .protocolViolation "FetchObject.deserialize" details

def deserializeKind (flagsRaw : Int) : Result EndOfRangeKind :=
  if flagsRaw = 0x8c then .ok .nonExistent
  else if flagsRaw = 0x10c then .ok .unknown
  else if flagsRaw = 0x20c then .ok .timedOut
  else .error (violation ("invalid Serialization Flags value 0x" ++
    String.ofList (Nat.toDigits 16 flagsRaw.toNat)))

/-- The first Object of a stream has nothing to inherit from. -/
def checkFirst (flags : FetchFlags) (prev : Option FetchObjectContext) : Result Unit :=
  if prev.isNone then
    if !flags.hasObjectId || !flags.hasGroupId || !flags.hasPriority then
      .error (violation "first object must carry explicit group/object/priority")
    else if !flags.isDatagram && (flags.subgroupMode = 0b01 || flags.subgroupMode = 0b10) then
      .error (violation "first object cannot reference prior subgroup")
    else .ok ()
  else .ok ()

def deserializeGroupId (flags : FetchFlags) (prev : Option FetchObjectContext)
    (groupOrder : GroupOrder) (buf : Bytes) : Result (Int × Bytes) :=
  if flags.hasGroupId then do
    let (delta, buf) ← ByteBuffer.getVI buf
    match prev with
    | none => return (delta, buf)
    | some pc =>
      let groupId :=
        if groupOrder = .descending then pc.groupId - (delta + 1) else pc.groupId + delta + 1
      if groupId < 0 ∨ groupId > maxU64 then
        .error (violation
          s!"group id delta wraps: prior={pc.groupId} delta={delta} order={groupOrder.debug}")
      else return (groupId, buf)
  else
    match prev with
    | none => .error (violation "group_id inherited but no prior object")
    | some pc => .ok (pc.groupId, buf)

def deserializeSubgroupId (flags : FetchFlags) (prev : Option FetchObjectContext) (buf : Bytes) :
    Result (Int × Bytes) :=
  if flags.isDatagram then .ok (0, buf)
  else if flags.subgroupMode = 0b00 then .ok (0, buf)
  else if flags.subgroupMode = 0b01 then
    match prev.bind (·.subgroupId) with
    | none => .error (violation "subgroup_id inherited but no prior object")
    | some subgroupId => .ok (subgroupId, buf)
  else if flags.subgroupMode = 0b10 then
    match prev.bind (·.subgroupId) with
    | none => .error (violation "subgroup_id inherited but no prior object")
    | some subgroupId => .ok (subgroupId + 1, buf)
  else if flags.subgroupMode = 0b11 then ByteBuffer.getVI buf
  else .error (violation s!"invalid subgroup mode {flags.subgroupMode}")

def deserializeObjectId (flags : FetchFlags) (prev : Option FetchObjectContext) (buf : Bytes) :
    Result (Int × Bytes) :=
  if flags.hasObjectId then do
    let (delta, buf) ← ByteBuffer.getVI buf
    match prev with
    | none => return (delta, buf)
    | some pc =>
      if flags.hasGroupId then return (delta, buf)
      else if pc.objectId + delta > maxU64 then
        .error (violation s!"object id delta wraps: prior={pc.objectId} delta={delta}")
      else return (pc.objectId + delta, buf)
  else
    match prev with
    | none => .error (violation "object_id inherited but no prior object")
    | some pc =>
      if pc.objectId + 1 > maxU64 then
        .error (violation s!"object id wraps: prior={pc.objectId} +1")
      else .ok (pc.objectId + 1, buf)

def deserializePriority (flags : FetchFlags) (prev : Option FetchObjectContext) (buf : Bytes) :
    Result (Int × Bytes) :=
  if flags.hasPriority then ByteBuffer.getU8 buf
  else
    match prev.bind (·.publisherPriority) with
    | none => .error (violation "priority inherited but no prior object")
    | some priority => .ok (priority, buf)

def deserializeProperties (flags : FetchFlags) (buf : Bytes) :
    Result (Option (List KeyValuePair) × Bytes) :=
  if flags.hasProperties then do
    let (extLen, buf) ← ByteBuffer.getNumberVI buf
    let (headerBytes, buf) ← ByteBuffer.getBytes extLen buf
    let properties ← deserializeKvpListUntilEmpty headerBytes
    return (some properties, buf)
  else .ok (none, buf)

def deserializePayload (buf : Bytes) : Result (Bytes × Bytes) := do
  let (payloadLen, buf) ← ByteBuffer.getNumberVI buf
  ByteBuffer.getBytes payloadLen buf

def deserialize (prev : Option FetchObjectContext) (groupOrder : GroupOrder) (buf : Bytes) :
    Result (FetchObject × Bytes) := do
  let (flagsRaw, buf) ← ByteBuffer.getVI buf
  if flagsRaw ≥ 128 then
    let kind ← deserializeKind flagsRaw
    let (groupId, buf) ← ByteBuffer.getVI buf
    let (objectId, buf) ← ByteBuffer.getVI buf
    return (.endOfRange kind groupId objectId, buf)
  else
    let flags := FetchFlags.ofNumber flagsRaw.toNat
    checkFirst flags prev
    let (groupId, buf) ← deserializeGroupId flags prev groupOrder buf
    let (subgroupId, buf) ← deserializeSubgroupId flags prev buf
    let (objectId, buf) ← deserializeObjectId flags prev buf
    let (publisherPriority, buf) ← deserializePriority flags prev buf
    let (properties, buf) ← deserializeProperties flags buf
    let (payload, buf) ← deserializePayload buf
    return (.object {
      groupId := groupId
      subgroupId := if flags.isDatagram then objectId else subgroupId
      objectId := objectId
      publisherPriority := publisherPriority
      forwardingPreference := if flags.isDatagram then .datagram else .subgroup
      properties := properties
      payload := payload }, buf)

end FetchObject

end Moqtail.Ts
