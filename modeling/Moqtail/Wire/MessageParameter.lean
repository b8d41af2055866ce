import Moqtail.Wire.Filters

/-! The parameters of control messages, from `model/parameter/message_parameter.rs`.

A parameter is written as a Key-Value-Pair whose Value is laid out as its Type says, in a list
that is sorted by Type first. A FILL_PARAMETERS carries such a list in its Value. -/
namespace Moqtail

open Lib

/-! The types of messages, from `control/constant.rs`. -/

inductive ControlMessageType where
  | setup
  | goAway
  | subscribe
  | subscribeOk
  | requestError
  | requestUpdate
  | fetch
  | fetchOk
  | trackStatus
  | publishNamespace
  | requestOk
  | «namespace»
  | namespaceDone
  | subscribeNamespace
  | subscribeTracks
  | publish
  | publishDone
  | publishOk
  | publishSkipped
deriving Repr, DecidableEq

namespace ControlMessageType

def toU64 : ControlMessageType → UInt64
  | setup => 0x2F00
  | goAway => 0x10
  | subscribe => 0x03
  | subscribeOk => 0x04
  | requestError => 0x05
  | requestUpdate => 0x02
  | fetch => 0x16
  | fetchOk => 0x18
  | trackStatus => 0x0D
  | publishNamespace => 0x06
  | requestOk => 0x07
  | «namespace» => 0x08
  | namespaceDone => 0x0E
  | subscribeNamespace => 0x50
  | subscribeTracks => 0x51
  | publish => 0x1D
  | publishDone => 0x0B
  | publishOk => 0x1E
  | publishSkipped => 0x0F

def all : List ControlMessageType :=
  [setup, goAway, subscribe, subscribeOk, requestError, requestUpdate, publishDone, fetch, fetchOk,
    trackStatus, publishNamespace, requestOk, «namespace», namespaceDone, subscribeNamespace,
    subscribeTracks, publish, publishOk, publishSkipped]

/-- The table above read the other way. -/
def tryFrom (value : UInt64) : Parse ControlMessageType :=
  match all.find? fun t => t.toU64 = value with
  | some t => .ok t
  | none => .error (.invalidType " ControlMessageType::try_from(u64)"
      s!"Invalid type, got {value}")

/-- `{msg_type:?}`. -/
def debug : ControlMessageType → String
  | setup => "Setup"
  | goAway => "GoAway"
  | subscribe => "Subscribe"
  | subscribeOk => "SubscribeOk"
  | requestError => "RequestError"
  | requestUpdate => "RequestUpdate"
  | fetch => "Fetch"
  | fetchOk => "FetchOk"
  | trackStatus => "TrackStatus"
  | publishNamespace => "PublishNamespace"
  | requestOk => "RequestOk"
  | «namespace» => "Namespace"
  | namespaceDone => "NamespaceDone"
  | subscribeNamespace => "SubscribeNamespace"
  | subscribeTracks => "SubscribeTracks"
  | publish => "Publish"
  | publishDone => "PublishDone"
  | publishOk => "PublishOk"
  | publishSkipped => "PublishSkipped"

@[simp] theorem tryFrom_toU64 (t : ControlMessageType) : tryFrom t.toU64 = .ok t := by
  cases t <;> rfl

theorem toU64_of_tryFrom {value : UInt64} {t : ControlMessageType} (h : tryFrom value = .ok t) :
    value = t.toU64 := by
  unfold tryFrom at h
  split at h
  next _ hfind =>
    cases h
    have hvalue := List.find?_some hfind
    exact (of_decide_eq_true hvalue).symm
  · cases h

end ControlMessageType

inductive MessageParameter where
  | objectDeliveryTimeout (timeout : UInt64)
  | subgroupDeliveryTimeout (timeout : UInt64)
  | rendezvousTimeout (timeout : UInt64)
  | fillTimeout (timeout : UInt64)
  | authorizationToken (token : AuthorizationToken)
  | expires (value : UInt64)
  | largestObject (location : Location)
  | forward (value : Bool)
  | subscriberPriority (priority : UInt8)
  | groupOrder (order : GroupOrder)
  | locationFilter (filter : LocationFilter)
  | switchFrom (requestId : UInt64) (mode : SwitchMode) (publishDone : Bool)
  | fillParameters (parameters : List MessageParameter)
  | rangeFilter (kind : RangeFilterKind) (filter : Option RangeFilter)
  | newGroupRequest (group : UInt64)
  | trackNamespacePrefix (tuple : Tuple)
  | includeProperties (included : Bool)
  | switchingSetAssignment (switchingSetId algorithmId throughputThresholdKbps setThroughputWeight
      activateSwitching : UInt64) (setRank : UInt8)
deriving Repr

namespace MessageParameter

def parameterType : MessageParameter → MessageParameterType
  | objectDeliveryTimeout _ => .objectDeliveryTimeout
  | subgroupDeliveryTimeout _ => .subgroupDeliveryTimeout
  | rendezvousTimeout _ => .rendezvousTimeout
  | fillTimeout _ => .fillTimeout
  | authorizationToken _ => .authorizationToken
  | expires _ => .expires
  | largestObject _ => .largestObject
  | forward _ => .forward
  | subscriberPriority _ => .subscriberPriority
  | groupOrder _ => .groupOrder
  | locationFilter _ => .locationFilter
  | switchFrom _ _ _ => .switchFrom
  | fillParameters _ => .fillParameters
  | rangeFilter kind _ => kind.parameterType
  | newGroupRequest _ => .newGroupRequest
  | trackNamespacePrefix _ => .trackNamespacePrefix
  | includeProperties _ => .includeProperties
  | switchingSetAssignment _ _ _ _ _ _ => .switchingSetAssignment

def typeValue (p : MessageParameter) : UInt64 := p.parameterType.toU64

/-- Which messages may carry the parameter. -/
def isValidFor (p : MessageParameter) (t : ControlMessageType) : Bool :=
  match p with
  | authorizationToken _ =>
    t ∈ [.publish, .subscribe, .requestUpdate, .subscribeNamespace, .subscribeTracks,
      .publishNamespace, .trackStatus, .fetch]
  | objectDeliveryTimeout _ => t ∈ [.subscribe, .publish, .requestUpdate]
  | subgroupDeliveryTimeout _ => t ∈ [.subscribe, .publish, .requestUpdate]
  | rendezvousTimeout _ => t ∈ [.subscribe]
  | fillTimeout _ => t ∈ [.fetch]
  | subscriberPriority _ => t ∈ [.subscribe, .publish, .fetch, .requestUpdate]
  | groupOrder _ => t ∈ [.subscribe, .subscribeTracks, .fetch, .publish]
  | locationFilter _ => t ∈ [.subscribe, .fetch, .publish, .subscribeTracks, .requestUpdate]
  | fillParameters _ => t ∈ [.subscribe, .subscribeTracks, .requestUpdate]
  | switchFrom _ _ _ => t ∈ [.subscribe, .requestUpdate]
  | expires _ => t ∈ [.subscribeOk, .publish, .publishOk, .requestOk]
  | largestObject _ => t ∈ [.subscribeOk, .publish, .fetchOk, .requestOk]
  | forward _ => t ∈ [.subscribe, .requestUpdate, .publish, .subscribeNamespace, .subscribeTracks]
  | newGroupRequest _ => t ∈ [.subscribe, .requestUpdate]
  | includeProperties _ => t ∈ [.subscribe, .trackStatus, .fetch, .subscribeTracks]
  | rangeFilter .trackProperty _ => t ∈ [.subscribeTracks, .requestUpdate]
  | rangeFilter _ _ => t ∈ [.subscribe, .fetch, .subscribeTracks, .requestUpdate]
  | trackNamespacePrefix _ => t ∈ [.requestUpdate]
  | switchingSetAssignment _ _ _ _ _ _ => t ∈ [.publishOk, .requestOk, .subscribe, .requestUpdate]

end MessageParameter

/-! How a Value is laid out. -/

inductive ValueShape where
  | varInt
  | uint8
  | bareLocation
  | locationFilter
  | lengthPrefixedBytes
deriving Repr, DecidableEq

def isObjectRangeFilter (typeValue : UInt64) : Bool :=
  typeValue = MessageParameterType.subgroupFilter.toU64 ||
  typeValue = MessageParameterType.objectIdFilter.toU64 ||
  typeValue = MessageParameterType.priorityFilter.toU64 ||
  typeValue = MessageParameterType.objectPropertyFilter.toU64

def isValidFillParameter (typeValue : UInt64) : Bool :=
  typeValue = MessageParameterType.fillTimeout.toU64 ||
  typeValue = MessageParameterType.subscriberPriority.toU64 ||
  typeValue = MessageParameterType.locationFilter.toU64 ||
  typeValue = MessageParameterType.groupOrder.toU64 ||
  isObjectRangeFilter typeValue

def valueShape (typeValue : UInt64) : ValueShape :=
  if typeValue = MessageParameterType.forward.toU64 ||
      typeValue = MessageParameterType.subscriberPriority.toU64 ||
      typeValue = MessageParameterType.groupOrder.toU64 ||
      typeValue = MessageParameterType.includeProperties.toU64 then .uint8
  else if typeValue = MessageParameterType.largestObject.toU64 then .bareLocation
  else if typeValue = MessageParameterType.locationFilter.toU64 then .locationFilter
  else if typeValue = MessageParameterType.trackNamespacePrefix.toU64 ||
      typeValue = MessageParameterType.switchFrom.toU64 || isObjectRangeFilter typeValue ||
      typeValue = MessageParameterType.trackPropertyFilter.toU64 then .lengthPrefixedBytes
  else if typeValue % 2 = 0 then .varInt
  else .lengthPrefixedBytes

/-- A Location is written again as it is read, and a Location Filter too: nothing else knows
where they end. -/
def readMessageParameterValue (bytes : Bytes) (typeValue : UInt64) : Parse (KeyValuePair × Bytes) :=
  match valueShape typeValue with
  | .uint8 =>
    match bytes with
    | [] => .error (.notEnoughBytes "read_message_parameter_value(uint8)" 1 0)
    | b :: bytes => .ok (.varInt typeValue b.toUInt64, bytes)
  | .bareLocation => do
    let (group, bytes) ← getVi bytes
    let (object, bytes) ← getVi bytes
    let kvp ← KeyValuePair.newBytes typeValue (putVi group ++ putVi object)
    return (kvp, bytes)
  | .locationFilter => do
    let (filter, bytes) ← LocationFilter.deserialize bytes
    let value ← filter.serialize
    let kvp ← KeyValuePair.newBytes typeValue value
    return (kvp, bytes)
  | .lengthPrefixedBytes => KeyValuePair.deserializeBytesValue bytes typeValue
  | .varInt => do
    let (value, bytes) ← getVi bytes
    return (.varInt typeValue value, bytes)

/-- The Value of a pair, as the writer lays it out. -/
def serializeParameterValue (kvp : KeyValuePair) : Parse Bytes :=
  match valueShape kvp.getType, kvp with
  | .uint8, .varInt typeValue value =>
    if value.toNat ≤ 255 then .ok [value.toUInt8]
    else .error (.protocolViolation "serialize_message_parameters"
      ("uint8 parameter 0x" ++ hexUpper typeValue ++ s!" value {value} exceeds 255"))
  | .bareLocation, .bytes _ value => .ok value
  | .locationFilter, .bytes _ value => .ok value
  | _, .varInt _ value => .ok (putVi value)
  | _, .bytes _ value => .ok (putLengthPrefixed value)

/-- The loop of `serialize_message_parameters` over the sorted pairs. -/
def serializeParametersFrom : UInt64 → List KeyValuePair → Parse Bytes
  | _, [] => .ok []
  | prevType, kvp :: rest => do
    if kvp.getType < prevType then
      throw (.protocolViolation "serialize_message_parameters"
        s!"type {kvp.getType} is less than previous type {prevType}")
    let value ← serializeParameterValue kvp
    let tail ← serializeParametersFrom kvp.getType rest
    return putVi (kvp.getType - prevType) ++ value ++ tail

/-- `sort_by_key` is stable, as insertion sort is. -/
def sortByType (kvps : List KeyValuePair) : List KeyValuePair :=
  kvps.insertionSort fun a b => a.getType ≤ b.getType

def serializeMessageParametersWith (toKeyValuePair : MessageParameter → Parse KeyValuePair)
    (params : List MessageParameter) : Parse Bytes := do
  let kvps ← params.mapM toKeyValuePair
  serializeParametersFrom 0 (sortByType kvps)

/-- The Type of the next parameter, `checked_add` of its delta. -/
def nextType (context : String) (prevType deltaType : UInt64) : Parse UInt64 :=
  if prevType.toNat + deltaType.toNat < 2 ^ 64 then .ok (prevType + deltaType)
  else .error (.protocolViolation context
    s!"previous type {prevType} plus delta type {deltaType} exceeds 2^64 - 1")

namespace MessageParameter

def switchFromPublishDone : UInt8 := 0b10000000

/-- `{flags:#04x}`. -/
def hexByteLower (b : UInt8) : String :=
  let digits := Nat.toDigits 16 b.toNat
  "0x" ++ String.ofList (List.replicate (2 - digits.length) '0' ++ digits)

def unknownParameterType (typeValue : UInt64) : ParseError :=
  .protocolViolation "MessageParameter::deserialize" s!"Unknown message parameter type: {typeValue}"

def deserializeVarInt (typeValue value : UInt64) : Parse MessageParameter :=
  match MessageParameterType.tryFrom typeValue with
  | .error _ => .error (unknownParameterType typeValue)
  | .ok .objectDeliveryTimeout => .ok (objectDeliveryTimeout value)
  | .ok .subgroupDeliveryTimeout => .ok (subgroupDeliveryTimeout value)
  | .ok .rendezvousTimeout => .ok (rendezvousTimeout value)
  | .ok .fillTimeout => .ok (fillTimeout value)
  | .ok .expires => .ok (expires value)
  | .ok .forward =>
    if value = 0 then .ok (forward false)
    else if value = 1 then .ok (forward true)
    else .error (.protocolViolation "MessageParameter::deserialize"
      s!"FORWARD must be 0 or 1, got {value}")
  | .ok .includeProperties =>
    if value = 0 then .ok (includeProperties false)
    else if value = 1 then .ok (includeProperties true)
    else .error (.protocolViolation "MessageParameter::deserialize"
      s!"INCLUDE_PROPERTIES must be 0 or 1, got {value}")
  | .ok .subscriberPriority =>
    if value > 255 then .error (.protocolViolation "MessageParameter::deserialize"
      s!"SUBSCRIBER_PRIORITY must be 0-255, got {value}")
    else .ok (subscriberPriority value.toUInt8)
  | .ok .groupOrder =>
    if value = 0 then .ok (groupOrder .original)
    else if value = 1 then .ok (groupOrder .ascending)
    else if value = 2 then .ok (groupOrder .descending)
    else .error (.protocolViolation "MessageParameter::deserialize"
      s!"GROUP_ORDER must be 0 (Original), 1 (Ascending), or 2 (Descending), got {value}")
  | .ok .newGroupRequest => .ok (newGroupRequest value)
  | .ok _ => .error (.protocolViolation "MessageParameter::deserialize"
      s!"Parameter type {typeValue} is bytes-typed but received as varint")

def deserializeSwitchFrom (value : Bytes) : Parse MessageParameter := do
  let (requestId, payload) ← getVi value
  let (rawMode, payload) ← getVi payload
  let mode ← SwitchMode.tryFrom rawMode
  match payload with
  | [] => .error (.notEnoughBytes "MessageParameter::deserialize(SwitchFrom flags)" 1 0)
  | flags :: payload =>
    if flags &&& ~~~switchFromPublishDone ≠ 0 then
      throw (.protocolViolation "MessageParameter::deserialize"
        ("SWITCH_FROM reserved bits must be 0, got " ++ hexByteLower flags))
    if ¬ payload.isEmpty then
      throw (.keyValueFormattingError "MessageParameter::deserialize(SwitchFrom)")
    return switchFrom requestId mode (flags &&& switchFromPublishDone ≠ 0)

/-- The rank can be left out, and is 0 then. -/
def deserializeSwitchingSetAssignment (value : Bytes) : Parse MessageParameter := do
  let (switchingSetId, payload) ← getVi value
  let (algorithmId, payload) ← getVi payload
  let (throughputThresholdKbps, payload) ← getVi payload
  let (setThroughputWeight, payload) ← getVi payload
  if ¬ (1 ≤ setThroughputWeight ∧ setThroughputWeight ≤ 10) then
    throw (.protocolViolation "MessageParameter::deserialize"
      s!"SET THROUGHPUT WEIGHT must be 1-10, got {setThroughputWeight}")
  let (activateSwitching, payload) ← getVi payload
  if ¬ payload.tail.isEmpty then
    throw (.protocolViolation "MessageParameter::deserialize"
      "Excess bytes in SWITCHING_SET_ASSIGNMENT parameter")
  return switchingSetAssignment switchingSetId algorithmId throughputThresholdKbps
    setThroughputWeight activateSwitching (payload.head?.getD 0)

def deserializeRangeFilter (kind : RangeFilterKind) (value : Bytes) : Parse MessageParameter :=
  if value.isEmpty then .ok (rangeFilter kind none)
  else do
    let filter ← RangeFilter.deserialize kind value
    return rangeFilter kind (some filter)

/-- `fill` reads the Value of a FILL_PARAMETERS. -/
def deserializeBytes (fill : Bytes → Parse MessageParameter) (typeValue : UInt64) (value : Bytes) :
    Parse MessageParameter :=
  match MessageParameterType.tryFrom typeValue with
  | .error _ => .error (unknownParameterType typeValue)
  | .ok .authorizationToken => do
    let token ← AuthorizationToken.deserialize value
    return authorizationToken token
  | .ok .largestObject => do
    let (location, _) ← Location.deserialize value
    return largestObject location
  | .ok .trackNamespacePrefix => do
    let (tuple, payload) ← Tuple.deserialize value
    if ¬ payload.isEmpty then
      throw (.keyValueFormattingError "MessageParameter::deserialize(TrackNamespacePrefix)")
    return trackNamespacePrefix tuple
  | .ok .fillParameters => fill value
  | .ok .switchFrom => deserializeSwitchFrom value
  | .ok .switchingSetAssignment => deserializeSwitchingSetAssignment value
  | .ok .subgroupFilter => deserializeRangeFilter .subgroup value
  | .ok .objectIdFilter => deserializeRangeFilter .objectId value
  | .ok .priorityFilter => deserializeRangeFilter .priority value
  | .ok .objectPropertyFilter => deserializeRangeFilter .objectProperty value
  | .ok .trackPropertyFilter => deserializeRangeFilter .trackProperty value
  | .ok .locationFilter => do
    let (filter, payload) ← LocationFilter.deserialize value
    if ¬ payload.isEmpty then
      throw (.keyValueFormattingError "MessageParameter::deserialize(LocationFilter)")
    return locationFilter filter
  | .ok _ => .error (.protocolViolation "MessageParameter::deserialize"
      s!"Parameter type {typeValue} is varint-typed but received as bytes")

def deserializeWith (fill : Bytes → Parse MessageParameter) : KeyValuePair → Parse MessageParameter
  | .varInt typeValue value => deserializeVarInt typeValue value
  | .bytes typeValue value => deserializeBytes fill typeValue value

/-- One turn of the loop over the parameters in a FILL_PARAMETERS. -/
def readFillParameter (deserialize : KeyValuePair → Parse MessageParameter) (prevType : UInt64)
    (bytes : Bytes) : Parse ((UInt64 × MessageParameter) × Bytes) := do
  let (deltaType, bytes) ← getVi bytes
  let typeValue ← nextType "MessageParameter::deserialize(FillParameters)" prevType deltaType
  if ¬ isValidFillParameter typeValue then
    throw (.protocolViolation "MessageParameter::deserialize(FillParameters)"
      ("parameter type 0x" ++ hexUpper typeValue ++ " is not allowed inside FILL_PARAMETERS"))
  let (kvp, bytes) ← readMessageParameterValue bytes typeValue
  let p ← deserialize kvp
  return ((typeValue, p), bytes)

def deserializeFillParameters (deserialize : KeyValuePair → Parse MessageParameter)
    (value : Bytes) : Parse MessageParameter := do
  let (count, payload) ← getVi value
  let (parameters, payload) ← decodeTimes (readFillParameter deserialize) count.toNat 0 payload
  if ¬ payload.isEmpty then
    throw (.protocolViolation "MessageParameter::deserialize(FillParameters)"
      s!"{payload.length} bytes left after {count} parameters")
  return fillParameters parameters

/-- What is allowed inside a FILL_PARAMETERS is no FILL_PARAMETERS, so its reader is not called
a second time. -/
def deserializeInFill : KeyValuePair → Parse MessageParameter :=
  deserializeWith fun _ => .error (unknownParameterType MessageParameterType.fillParameters.toU64)

def deserialize : KeyValuePair → Parse MessageParameter :=
  deserializeWith (deserializeFillParameters deserializeInFill)

/-- `TryInto<KeyValuePair>`, where `fill` writes the list in a FILL_PARAMETERS. -/
def toKeyValuePairWith (fill : List MessageParameter → Parse Bytes) :
    MessageParameter → Parse KeyValuePair
  | objectDeliveryTimeout timeout =>
    KeyValuePair.tryNewVarint MessageParameterType.objectDeliveryTimeout.toU64 timeout
  | subgroupDeliveryTimeout timeout =>
    KeyValuePair.tryNewVarint MessageParameterType.subgroupDeliveryTimeout.toU64 timeout
  | rendezvousTimeout timeout =>
    KeyValuePair.tryNewVarint MessageParameterType.rendezvousTimeout.toU64 timeout
  | fillTimeout timeout =>
    KeyValuePair.tryNewVarint MessageParameterType.fillTimeout.toU64 timeout
  | expires value => KeyValuePair.tryNewVarint MessageParameterType.expires.toU64 value
  | forward value =>
    KeyValuePair.tryNewVarint MessageParameterType.forward.toU64 (if value then 1 else 0)
  -- an odd Type, which `try_new_varint` would refuse
  | includeProperties included =>
    .ok (.varInt MessageParameterType.includeProperties.toU64 (if included then 1 else 0))
  | subscriberPriority priority =>
    KeyValuePair.tryNewVarint MessageParameterType.subscriberPriority.toU64 priority.toUInt64
  | groupOrder order =>
    KeyValuePair.tryNewVarint MessageParameterType.groupOrder.toU64
      (match order with | .original => 0 | .ascending => 1 | .descending => 2)
  | newGroupRequest group =>
    KeyValuePair.tryNewVarint MessageParameterType.newGroupRequest.toU64 group
  | authorizationToken token => do
    let payload ← token.serialize
    KeyValuePair.tryNewBytes MessageParameterType.authorizationToken.toU64 payload
  | largestObject location =>
    KeyValuePair.tryNewBytes MessageParameterType.largestObject.toU64 location.serialize
  | fillParameters parameters => do
    match parameters.find? fun p => ! isValidFillParameter p.typeValue with
    | some p => throw (.protocolViolation "MessageParameter::try_into(FillParameters)"
        ("parameter type 0x" ++ hexUpper p.typeValue ++ " is not allowed inside FILL_PARAMETERS"))
    | none =>
      let list ← fill parameters
      KeyValuePair.tryNewBytes MessageParameterType.fillParameters.toU64
        (putVi (UInt64.ofNat parameters.length) ++ list)
  | switchFrom requestId mode publishDone =>
    KeyValuePair.newBytes MessageParameterType.switchFrom.toU64
      (putVi requestId ++ putVi mode.toU64 ++ [if publishDone then switchFromPublishDone else 0])
  | switchingSetAssignment switchingSetId algorithmId throughputThresholdKbps setThroughputWeight
      activateSwitching setRank =>
    KeyValuePair.tryNewBytes MessageParameterType.switchingSetAssignment.toU64
      (putVi switchingSetId ++ putVi algorithmId ++ putVi throughputThresholdKbps ++
        putVi setThroughputWeight ++ putVi activateSwitching ++ [setRank])
  | locationFilter filter => do
    let value ← filter.serialize
    KeyValuePair.newBytes MessageParameterType.locationFilter.toU64 value
  | rangeFilter kind none => KeyValuePair.newBytes kind.parameterType.toU64 []
  | rangeFilter kind (some filter) => do
    if kind.hasPropertyType ≠ filter.propertyType.isSome then
      throw (.protocolViolation "MessageParameter::try_into(RangeFilter)"
        (kind.debug ++ " filter has the wrong Property Type presence"))
    let value ← filter.serialize
    KeyValuePair.newBytes kind.parameterType.toU64 value
  | trackNamespacePrefix tuple =>
    KeyValuePair.newBytes MessageParameterType.trackNamespacePrefix.toU64 tuple.serialize

def toKeyValuePairInFill : MessageParameter → Parse KeyValuePair :=
  toKeyValuePairWith fun _ => .error (unknownParameterType MessageParameterType.fillParameters.toU64)

def toKeyValuePair : MessageParameter → Parse KeyValuePair :=
  toKeyValuePairWith (serializeMessageParametersWith toKeyValuePairInFill)

end MessageParameter

def serializeMessageParameters (params : List MessageParameter) : Parse Bytes :=
  serializeMessageParametersWith MessageParameter.toKeyValuePair params

/-- One turn of the loop over the parameters of a message. -/
def readMessageParameter (msgType : ControlMessageType) (prevType : UInt64) (bytes : Bytes) :
    Parse ((UInt64 × MessageParameter) × Bytes) := do
  let (deltaType, bytes) ← getVi bytes
  let typeValue ← nextType "deserialize_message_parameters" prevType deltaType
  let (kvp, bytes) ← readMessageParameterValue bytes typeValue
  let p ← MessageParameter.deserialize kvp
  if ¬ p.isValidFor msgType then
    throw (.protocolViolation "deserialize_message_parameters"
      ("parameter type 0x" ++ hexUpper p.typeValue ++ " is not allowed in " ++ msgType.debug))
  return ((typeValue, p), bytes)

/-- An update replaces a Type it carries outright, and a Range Filter of no length with nothing. -/
def applyMessageParameterUpdate (current updates : List MessageParameter) : List MessageParameter :=
  (current.filter fun p => ! updates.any fun u => u.typeValue = p.typeValue) ++
    updates.filter fun u => match u with
      | .rangeFilter _ none => false
      | _ => true

end Moqtail
