import Moqtail.Ts.KeyValuePair
import Moqtail.Wire.Object

/-! The subgroup streams that the TypeScript library sends, from `model/data/object.ts`,
`model/data/subgroup_object.ts`, `client/publication/subgroup.ts` and `client/data_stream.ts`. -/
namespace Moqtail.Ts

open Lib

/-- The `number` of a status. -/
def objectStatusValue : ObjectStatus → Int
  | .normal => 0x0
  | .endOfGroup => 0x3
  | .endOfTrack => 0x4

/-! The type of a header, in a `number`. -/

namespace SubgroupHeaderType

def hasProperties (t : Nat) : Bool := t &&& 0x01 ≠ 0

def hasExplicitSubgroupId (t : Nat) : Bool := t &&& 0x06 = 0x04

def isSubgroupIdZero (t : Nat) : Bool := t &&& 0x06 = 0x00

def isSubgroupIdFirstObjectId (t : Nat) : Bool := t &&& 0x06 = 0x02

def hasDefaultPriority (t : Nat) : Bool := t &&& 0x20 ≠ 0

def isFirstObject (t : Nat) : Bool := t &&& 0x40 ≠ 0

def fromProperties (hasProperties : Bool) (subgroupIdMode : SubgroupIdMode)
    (containsEndOfGroup hasDefaultPriority firstObject : Bool) : Nat :=
  0x10 ||| (if hasProperties then 0x01 else 0) ||| (subgroupIdMode.toU8.toNat <<< 1) |||
    (if containsEndOfGroup then 0x08 else 0) ||| (if hasDefaultPriority then 0x20 else 0) |||
    (if firstObject then 0x40 else 0)

end SubgroupHeaderType

structure SubgroupHeader where
  type : Nat
  trackAlias : Int
  groupId : Int
  subgroupId : Option Int
  publisherPriority : Option Int
deriving Repr, DecidableEq

/-! Objects. -/

/-- What `newBytes` checks of a value, and the decoder of one. -/
def KeyValuePair.Made (kvp : KeyValuePair) : Prop :=
  ∀ value, kvp.value = .uint8Array value → (value.length : Int) ≤ maxValueLength

instance (kvp : KeyValuePair) : Decidable kvp.Made :=
  match h : kvp.value with
  | .bigint _ => isTrue fun _ hvalue => by rw [h] at hvalue; cases hvalue
  | .uint8Array value =>
    decidable_of_iff ((value.length : Int) ≤ maxValueLength)
      ⟨fun hle _ hvalue => by rw [h] at hvalue; cases hvalue; exact hle, fun hmade => hmade value h⟩

/-- An Object as `newWithPayload` and `newWithStatus` make it, the only ways to one besides what is
read off a stream: a status other than Normal has no payload. The track name is left out. -/
structure MoqtObject where
  location : Int × Int
  publisherPriority : Int
  objectForwardingPreference : ObjectForwardingPreference
  subgroupId : Option Int
  objectStatus : ObjectStatus
  properties : Option (List KeyValuePair)
  payload : Option Uint8Array
  payload_none : objectStatus ≠ .normal → payload = none
  made : ∀ kvps, properties = some kvps → ∀ kvp ∈ kvps, kvp.Made

namespace MoqtObject

theorem made_none (kvps : List KeyValuePair) (h : none = some kvps) : ∀ kvp ∈ kvps, kvp.Made := by
  cases h

def groupId (o : MoqtObject) : Int := o.location.1

def objectId (o : MoqtObject) : Int := o.location.2

def isDatagram (o : MoqtObject) : Bool := o.objectForwardingPreference = .datagram

def hasProperties (o : MoqtObject) : Bool :=
  match o.properties with
  | some properties => !properties.isEmpty
  | none => false

def getSubgroupHeaderType (o : MoqtObject) (containsEnd useDefaultPriority firstObject : Bool) : Nat :=
  let subgroupIdMode : SubgroupIdMode :=
    match o.subgroupId with
    | none => .firstObjectId
    | some subgroupId => if subgroupId = 0 then .zero else .explicit
  SubgroupHeaderType.fromProperties o.hasProperties subgroupIdMode containsEnd useDefaultPriority
    firstObject

end MoqtObject

/-- `subgroupHeaderFor`. -/
def subgroupHeaderFor (obj : MoqtObject) (subgroupId trackAlias publisherPriority : Int)
    (firstObject : Bool) : SubgroupHeader :=
  let headerType :=
    if obj.subgroupId = none ∧ subgroupId ≠ obj.objectId then
      SubgroupHeaderType.fromProperties obj.hasProperties .explicit true false firstObject
    else obj.getSubgroupHeaderType true false firstObject
  let explicit :=
    if SubgroupHeaderType.hasExplicitSubgroupId headerType then some subgroupId else none
  ⟨headerType, trackAlias, obj.groupId, explicit, some publisherPriority⟩

structure SubgroupObject where
  objectId : Int
  properties : Option (List KeyValuePair)
  objectStatus : Option ObjectStatus
  payload : Option Bytes
deriving Repr, DecidableEq

def normalizeProperties (properties : Option (List KeyValuePair)) : Option (List KeyValuePair) :=
  match properties with
  | none => none
  | some properties => if properties.isEmpty then none else some properties

namespace SubgroupObject

def newWithStatus (objectId : Int) (properties : Option (List KeyValuePair))
    (objectStatus : ObjectStatus) : SubgroupObject :=
  ⟨objectId, normalizeProperties properties, some objectStatus, none⟩

def newWithPayload (objectId : Int) (properties : Option (List KeyValuePair)) (payload : Bytes) :
    SubgroupObject :=
  ⟨objectId, normalizeProperties properties, none, some payload⟩

def serializeProperties (o : SubgroupObject) : Result Bytes :=
  match o.properties with
  | some properties => do
    let ext ← serializeKvpList properties
    ByteBuffer.putLengthPrefixedBytes ext
  | none => .ok []

/-- An array is truthy, also when it is empty. -/
def serializeBody (o : SubgroupObject) : Result Bytes :=
  match o.payload with
  | some payload => ByteBuffer.putLengthPrefixedBytes payload
  | none => do
    let length ← ByteBuffer.putVI 0
    let status ← ByteBuffer.putVI ((o.objectStatus.map objectStatusValue).getD 0)
    return length ++ status

def serialize (o : SubgroupObject) (previousObjectId : Option Int) : Result Bytes := do
  let objectIdDelta :=
    match previousObjectId with
    | some previous => o.objectId - previous - 1
    | none => o.objectId
  let delta ← ByteBuffer.putVI objectIdDelta
  let properties ← o.serializeProperties
  let body ← o.serializeBody
  return delta ++ properties ++ body

end SubgroupObject

def MoqtObject.tryIntoSubgroupObject (o : MoqtObject) : Result SubgroupObject :=
  if o.objectForwardingPreference ≠ .subgroup then
    .error (.castingError "MoqtObject.tryIntoSubgroupObject" "MoqtObject" "SubgroupObject"
      "Object Forwarding Preference must be Subgroup")
  else
    match o.objectStatus, o.payload with
    | .normal, some payload => .ok (.newWithPayload o.objectId o.properties payload.bytes)
    | _, _ => .ok (.newWithStatus o.objectId o.properties o.objectStatus)

/-- `write` of a subgroup object, after the last one that was written. -/
def SendStream.write (lastObjectId : Option Int) (object : SubgroupObject) : Result Bytes :=
  match lastObjectId with
  | some last =>
    if object.objectId ≤ last then
      .error (.error ("SendStream.write: Out-of-order object detected. " ++
        s!"Attempted to write objectId={object.objectId}, but lastObjectId={last}."))
    else object.serialize (some last)
  | none => object.serialize none

/-- The Objects of a stream after those up to `lastObjectId`. -/
def SendStream.writeAll (lastObjectId : Option Int) (objects : List MoqtObject) : Result Bytes :=
  encodeAll (fun _ o => some o.objectId)
    (fun last o => do
      let object ← o.tryIntoSubgroupObject
      SendStream.write last object) lastObjectId objects

end Moqtail.Ts
