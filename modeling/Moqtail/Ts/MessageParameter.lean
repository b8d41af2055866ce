import Moqtail.Ts.Filters

/-! The parameters of control messages in the TypeScript library, from
`model/parameter/message_parameter.ts`, `model/parameter/message/*.ts` and
`model/parameter/common/authorization_token.ts`. -/
namespace Moqtail.Ts

open Lib

/-! Authorization Tokens. -/

inductive AuthTokenVariant where
  | delete (tokenAlias : Int)
  | register (tokenAlias tokenType : Int) (tokenValue : Bytes)
  | useAlias (tokenAlias : Int)
  | useValue (tokenType : Int) (tokenValue : Bytes)
deriving Repr, DecidableEq

def tokenAliasTypeFromNumber (value : Int) : Result TokenAliasType :=
  if value = 0x0 then .ok .delete
  else if value = 0x1 then .ok .register
  else if value = 0x2 then .ok .useAlias
  else if value = 0x3 then .ok .useValue
  else .error (.invalidType "tokenAliasTypeFromNumber" s!"Invalid token alias type: {value}")

namespace AuthTokenVariant

def serialize : AuthTokenVariant → Result Bytes
  | delete tokenAlias => do
    let aliasType ← ByteBuffer.putVI 0x0
    let tokenAlias ← ByteBuffer.putVI tokenAlias
    return aliasType ++ tokenAlias
  | register tokenAlias tokenType tokenValue => do
    let aliasType ← ByteBuffer.putVI 0x1
    let tokenAlias ← ByteBuffer.putVI tokenAlias
    let tokenType ← ByteBuffer.putVI tokenType
    return aliasType ++ tokenAlias ++ tokenType ++ tokenValue
  | useAlias tokenAlias => do
    let aliasType ← ByteBuffer.putVI 0x2
    let tokenAlias ← ByteBuffer.putVI tokenAlias
    return aliasType ++ tokenAlias
  | useValue tokenType tokenValue => do
    let aliasType ← ByteBuffer.putVI 0x3
    let tokenType ← ByteBuffer.putVI tokenType
    return aliasType ++ tokenType ++ tokenValue

/-- `getBytes(remaining)` takes all that is left. -/
def deserialize (buf : Bytes) : Result AuthTokenVariant := do
  let (aliasTypeRaw, buf) ← ByteBuffer.getNumberVI buf
  match ← tokenAliasTypeFromNumber aliasTypeRaw with
  | .delete =>
    let (tokenAlias, _) ← ByteBuffer.getVI buf
    return delete tokenAlias
  | .register =>
    let (tokenAlias, buf) ← ByteBuffer.getVI buf
    let (tokenType, buf) ← ByteBuffer.getVI buf
    return register tokenAlias tokenType buf
  | .useAlias =>
    let (tokenAlias, _) ← ByteBuffer.getVI buf
    return useAlias tokenAlias
  | .useValue =>
    let (tokenType, buf) ← ByteBuffer.getVI buf
    return useValue tokenType buf

end AuthTokenVariant

/-! Parameters. -/

/-- The `number` of a Group Order. -/
def groupOrderValue : GroupOrder → Int
  | .original => 0x0
  | .ascending => 0x1
  | .descending => 0x2

/-- The `number` of a mode. -/
def switchModeValue : SwitchMode → Int
  | .hard => 0x0
  | .soft => 0x1

/-- A GROUP_ORDER is ascending or descending. -/
inductive MessageParameter where
  | objectDeliveryTimeout (timeout : Int)
  | subgroupDeliveryTimeout (timeout : Int)
  | rendezvousTimeout (timeout : Int)
  | fillTimeout (timeout : Int)
  | authorizationToken (variant : AuthTokenVariant)
  | expires (value : Int)
  | largestObject (location : Location)
  | forward (value : Bool)
  | subscriberPriority (priority : Int)
  | groupOrderParam (order : GroupOrder) (made : order ≠ .original)
  | locationFilter (filter : LocationFilter)
  | newGroupRequest (group : Int)
  | switchFrom (requestId : Int) (mode : SwitchMode) (publishDone : Bool)
  | fillParameters (parameters : List MessageParameter)
  | rangeFilter (filter : RangeFilter)
  | includeProperties (included : Bool)
  | switchingSetAssignment (switchingSetId algorithmId throughputThresholdKbps setThroughputWeight
      activateSwitching setRank : Int)

/-! How a Value is laid out. -/

def valueShapeOf (typeValue : Int) : ValueShape :=
  if typeValue = messageParameterTypeValue .forward ∨
      typeValue = messageParameterTypeValue .subscriberPriority ∨
      typeValue = messageParameterTypeValue .groupOrder ∨
      typeValue = messageParameterTypeValue .includeProperties then .uint8
  else if typeValue = messageParameterTypeValue .largestObject then .bareLocation
  else if typeValue = messageParameterTypeValue .locationFilter then .locationFilter
  else if typeValue = messageParameterTypeValue .switchFrom ∨
      typeValue = messageParameterTypeValue .trackNamespacePrefix ∨
      typeValue = messageParameterTypeValue .subgroupFilter ∨
      typeValue = messageParameterTypeValue .objectIdFilter ∨
      typeValue = messageParameterTypeValue .priorityFilter ∨
      typeValue = messageParameterTypeValue .objectPropertyFilter ∨
      typeValue = messageParameterTypeValue .trackPropertyFilter then .lengthPrefixedBytes
  else if typeValue % 2 = 0 then .varInt
  else .lengthPrefixedBytes

/-- A value in a message. -/
def PairValue.toString : PairValue → String
  | .bigint value => s!"{value}"
  | .uint8Array value => String.intercalate "," (value.map fun b => s!"{b.toNat}")

/-- The Value of a pair. One of the wrong kind is left out, but for that of a uint8. -/
def serializeParameterValue (kvp : KeyValuePair) : Result Bytes :=
  let exceeds : Error := .protocolViolation "serializeMessageParameterKvps"
    ("uint8 parameter 0x" ++ toString16 kvp.typeValue ++ " value " ++ kvp.value.toString ++
      " exceeds 255")
  match valueShapeOf kvp.typeValue, kvp.value with
  | .uint8, .bigint value =>
    if value < 0 ∨ value > 255 then .error exceeds else ByteBuffer.putU8 value
  | .uint8, .uint8Array _ => .error exceeds
  | .bareLocation, .uint8Array value => .ok value
  | .locationFilter, .uint8Array value => .ok value
  | .lengthPrefixedBytes, .uint8Array value => ByteBuffer.putLengthPrefixedBytes value
  | .varInt, .bigint value => ByteBuffer.putVI value
  | _, _ => .ok []

/-- The loop of `serializeMessageParameterKvps` over the sorted pairs. -/
def serializeParametersFrom : Int → List KeyValuePair → Result Bytes
  | _, [] => .ok []
  | prevType, kvp :: rest => do
    let delta ← ByteBuffer.putVI (kvp.typeValue - prevType)
    let value ← serializeParameterValue kvp
    let tail ← serializeParametersFrom kvp.typeValue rest
    return delta ++ value ++ tail

def serializeMessageParameterKvps (items : List KeyValuePair) : Result Bytes :=
  serializeParametersFrom 0 (items.insertionSort fun a b => a.typeValue ≤ b.typeValue)

def readParameterValue (buf : Bytes) (typeValue : Int) : Result (KeyValuePair × Bytes) :=
  match valueShapeOf typeValue with
  | .uint8 => do
    let (value, buf) ← ByteBuffer.getU8 buf
    return (.newVarInt typeValue value, buf)
  | .bareLocation => do
    let (group, buf) ← ByteBuffer.getVI buf
    let group ← ByteBuffer.putVI group
    let (object, buf) ← ByteBuffer.getVI buf
    let object ← ByteBuffer.putVI object
    let kvp ← KeyValuePair.newBytes typeValue (group ++ object)
    return (kvp, buf)
  | .locationFilter => do
    let (filter, buf) ← LocationFilter.deserializeValue buf
    let value ← filter.serializeValue
    let kvp ← KeyValuePair.newBytes typeValue value
    return (kvp, buf)
  | .lengthPrefixedBytes => KeyValuePair.deserializeBytesValue buf typeValue
  | .varInt => do
    let (value, buf) ← ByteBuffer.getVI buf
    let kvp ← KeyValuePair.tryNewVarInt typeValue value
    return (kvp, buf)

/-- One turn of the loop of `readMessageParameterKvps`. -/
def readParameterKvp (prevType : Int) (buf : Bytes) : Result ((Int × KeyValuePair) × Bytes) := do
  let (delta, buf) ← ByteBuffer.getVI buf
  let typeValue := prevType + delta
  let (kvp, buf) ← readParameterValue buf typeValue
  return ((typeValue, kvp), buf)

def deserializeMessageParameterKvps (buf : Bytes) (count : Nat) :
    Result (List KeyValuePair × Bytes) :=
  decodeTimes readParameterKvp count 0 buf

namespace FillParameters

/-- The only parameters that may override anything for the fill fetch stream. -/
def allowed : List MessageParameterType :=
  [.fillTimeout, .subscriberPriority, .locationFilter, .groupOrder, .subgroupFilter, .objectIdFilter,
    .priorityFilter, .objectPropertyFilter]

def isAllowed (pair : KeyValuePair) : Bool :=
  allowed.any fun t => messageParameterTypeValue t = pair.typeValue

def checkAllowed (context : String) (pairs : List KeyValuePair) : Result Unit :=
  match pairs.find? fun pair => ! isAllowed pair with
  | some pair => .error (.protocolViolation context
      ("parameter type 0x" ++ toString16 pair.typeValue ++ " is not allowed inside FILL_PARAMETERS"))
  | none => .ok ()

end FillParameters

namespace MessageParameter

def tryNewVarInt (t : MessageParameterType) (value : Int) : Result KeyValuePair :=
  KeyValuePair.tryNewVarInt (messageParameterTypeValue t) value

def tryNewBytes (t : MessageParameterType) (value : Bytes) : Result KeyValuePair :=
  KeyValuePair.tryNewBytes (messageParameterTypeValue t) value

def newBytes (t : MessageParameterType) (value : Bytes) : Result KeyValuePair :=
  KeyValuePair.newBytes (messageParameterTypeValue t) value

def serializeSwitchFrom (requestId : Int) (mode : SwitchMode) (publishDone : Bool) :
    Result Bytes := do
  let requestId ← ByteBuffer.putVI requestId
  let mode ← ByteBuffer.putVI (switchModeValue mode)
  let flags ← ByteBuffer.putU8 (if publishDone then 1 <<< 7 else 0)
  return requestId ++ mode ++ flags

def serializeSwitchingSetAssignment (switchingSetId algorithmId throughputThresholdKbps
    setThroughputWeight activateSwitching setRank : Int) : Result Bytes := do
  let switchingSetId ← ByteBuffer.putVI switchingSetId
  let algorithmId ← ByteBuffer.putVI algorithmId
  let throughputThresholdKbps ← ByteBuffer.putVI throughputThresholdKbps
  let setThroughputWeight ← ByteBuffer.putVI setThroughputWeight
  let activateSwitching ← ByteBuffer.putVI activateSwitching
  let setRank ← ByteBuffer.putU8 setRank
  return switchingSetId ++ algorithmId ++ throughputThresholdKbps ++ setThroughputWeight ++
    activateSwitching ++ setRank

mutual

def toKeyValuePair : MessageParameter → Result KeyValuePair
  | objectDeliveryTimeout timeout => tryNewVarInt .objectDeliveryTimeout timeout
  | subgroupDeliveryTimeout timeout => tryNewVarInt .subgroupDeliveryTimeout timeout
  | rendezvousTimeout timeout => tryNewVarInt .rendezvousTimeout timeout
  | fillTimeout timeout => tryNewVarInt .fillTimeout timeout
  | authorizationToken variant => do
    let payload ← variant.serialize
    tryNewBytes .authorizationToken payload
  | expires value => tryNewVarInt .expires value
  | largestObject location => do
    let value ← location.serialize
    tryNewBytes .largestObject value
  | forward value => tryNewVarInt .forward (if value then 1 else 0)
  | subscriberPriority priority => tryNewVarInt .subscriberPriority priority
  | groupOrderParam order _ => tryNewVarInt .groupOrder (groupOrderValue order)
  | locationFilter filter => do
    let value ← filter.serializeValue
    tryNewBytes .locationFilter value
  | newGroupRequest group => tryNewVarInt .newGroupRequest group
  | switchFrom requestId mode publishDone => do
    let value ← serializeSwitchFrom requestId mode publishDone
    newBytes .switchFrom value
  | fillParameters parameters => do
    let pairs ← toKeyValuePairs parameters
    FillParameters.checkAllowed "FillParameters.toKeyValuePair" pairs
    let count ← ByteBuffer.putVI pairs.length
    let list ← serializeMessageParameterKvps pairs
    tryNewBytes .fillParameters (count ++ list)
  | rangeFilter filter => do
    let value ← filter.serializeValue
    newBytes filter.kind.parameterType value
  -- a uint8 on an odd Type
  | includeProperties included =>
    .ok (.newVarInt (messageParameterTypeValue .includeProperties) (if included then 1 else 0))
  | switchingSetAssignment switchingSetId algorithmId throughputThresholdKbps setThroughputWeight
      activateSwitching setRank => do
    let value ← serializeSwitchingSetAssignment switchingSetId algorithmId throughputThresholdKbps
      setThroughputWeight activateSwitching setRank
    tryNewBytes .switchingSetAssignment value

def toKeyValuePairs : List MessageParameter → Result (List KeyValuePair)
  | [] => .ok []
  | p :: params => do
    let pair ← toKeyValuePair p
    let pairs ← toKeyValuePairs params
    return pair :: pairs

end

/-! Each class reads a pair of its Type and of the right kind, and leaves the others alone. -/

def ofVarInt (t : MessageParameterType) (make : Int → Result MessageParameter) (pair : KeyValuePair) :
    Result (Option MessageParameter) :=
  match pair.value with
  | .bigint value =>
    if pair.typeValue ≠ messageParameterTypeValue t then .ok none
    else do
      let p ← make value
      return some p
  | .uint8Array _ => .ok none

def ofBytes (t : MessageParameterType) (make : Bytes → Result MessageParameter) (pair : KeyValuePair) :
    Result (Option MessageParameter) :=
  match pair.value with
  | .bigint _ => .ok none
  | .uint8Array value =>
    if pair.typeValue ≠ messageParameterTypeValue t then .ok none
    else do
      let p ← make value
      return some p

def makeForward (value : Int) : Result MessageParameter :=
  if value ≠ 0 ∧ value ≠ 1 then .error (.protocolViolation "Forward.fromKeyValuePair"
    s!"FORWARD must be 0 or 1, got {value}")
  else .ok (forward (value = 1))

def makeIncludeProperties (value : Int) : Result MessageParameter :=
  if value ≠ 0 ∧ value ≠ 1 then .error (.protocolViolation "IncludeProperties.fromKeyValuePair"
    s!"INCLUDE_PROPERTIES must be 0 or 1, got {value}")
  else .ok (includeProperties (value = 1))

def makeSubscriberPriority (value : Int) : Result MessageParameter :=
  if value < 0 ∨ value > 255 then
    .error (.protocolViolation "SubscriberPriority.fromKeyValuePair"
      s!"SUBSCRIBER_PRIORITY must be 0-255, got {value}")
  else .ok (subscriberPriority value)

def makeGroupOrderParam (value : Int) : Result MessageParameter :=
  if value = 1 then .ok (groupOrderParam .ascending nofun)
  else if value = 2 then .ok (groupOrderParam .descending nofun)
  else .error (.protocolViolation "GroupOrderParam.fromKeyValuePair"
    s!"GROUP_ORDER must be 1 (Ascending) or 2 (Descending), got {value}")

def deserializeAuthorizationToken (value : Bytes) : Result MessageParameter := do
  let variant ← AuthTokenVariant.deserialize value
  return authorizationToken variant

def deserializeLargestObject (value : Bytes) : Result MessageParameter := do
  let (location, _) ← Location.deserialize value
  return largestObject location

def deserializeLocationFilter (value : Bytes) : Result MessageParameter := do
  let (filter, buf) ← LocationFilter.deserializeValue value
  if buf.length > 0 then
    throw (.protocolViolation "LocationFilter.fromKeyValuePair"
      "trailing bytes after the Location Filter")
  return locationFilter filter

def switchModeOf (value : Int) : Result SwitchMode :=
  if value = switchModeValue .hard then .ok .hard
  else if value = switchModeValue .soft then .ok .soft
  else .error (.protocolViolation "SwitchFrom.fromKeyValuePair" s!"invalid mode {value}")

def deserializeSwitchFrom (value : Bytes) : Result MessageParameter := do
  let (requestId, buf) ← ByteBuffer.getVI value
  let (modeValue, buf) ← ByteBuffer.getVI buf
  let mode ← switchModeOf modeValue
  let (flags, buf) ← ByteBuffer.getU8 buf
  if flags.toNat &&& 0x7f ≠ 0 then
    throw (.protocolViolation "SwitchFrom.fromKeyValuePair" s!"reserved bits must be zero, got {flags}")
  if buf.length ≠ 0 then
    throw (.protocolViolation "SwitchFrom.fromKeyValuePair" "unexpected trailing bytes")
  return switchFrom requestId mode (flags.toNat &&& 0x80 ≠ 0)

/-- The rank can be left out, and is 0 then. -/
def deserializeSwitchingSetAssignment (value : Bytes) : Result MessageParameter := do
  let (switchingSetId, buf) ← ByteBuffer.getVI value
  let (algorithmId, buf) ← ByteBuffer.getVI buf
  let (throughputThresholdKbps, buf) ← ByteBuffer.getVI buf
  let (setThroughputWeight, buf) ← ByteBuffer.getVI buf
  if setThroughputWeight < 1 ∨ setThroughputWeight > 10 then
    throw (.protocolViolation "SwitchingSetAssignment"
      s!"SET THROUGHPUT WEIGHT must be 1-10, got {setThroughputWeight}")
  let (activateSwitching, buf) ← ByteBuffer.getVI buf
  let (setRank, buf) ← if buf.length > 0 then ByteBuffer.getU8 buf else .ok (0, buf)
  if buf.length > 0 then
    throw (.protocolViolation "SwitchingSetAssignment"
      "excess bytes in SWITCHING_SET_ASSIGNMENT parameter")
  return switchingSetAssignment switchingSetId algorithmId throughputThresholdKbps
    setThroughputWeight activateSwitching setRank

/-- The kind whose Type is the number. -/
def rangeFilterKindOf (typeValue : Int) : Option RangeFilterKind :=
  [RangeFilterKind.subgroup, .objectId, .priority, .objectProperty, .trackProperty].find?
    fun kind => messageParameterTypeValue kind.parameterType = typeValue

def ofRangeFilter (pair : KeyValuePair) : Result (Option MessageParameter) :=
  match rangeFilterKindOf pair.typeValue, pair.value with
  | some kind, .uint8Array value => do
    let filter ← RangeFilter.deserializeValue kind value
    return some (rangeFilter filter)
  | _, _ => .ok none

/-- `fill` reads the Value of a FILL_PARAMETERS. -/
def readers (fill : Bytes → Result MessageParameter) :
    List (KeyValuePair → Result (Option MessageParameter)) :=
  [ofVarInt .objectDeliveryTimeout fun value => .ok (objectDeliveryTimeout value),
    ofVarInt .subgroupDeliveryTimeout fun value => .ok (subgroupDeliveryTimeout value),
    ofVarInt .rendezvousTimeout fun value => .ok (rendezvousTimeout value),
    ofVarInt .fillTimeout fun value => .ok (fillTimeout value),
    ofBytes .authorizationToken deserializeAuthorizationToken,
    ofVarInt .expires fun value => .ok (expires value),
    ofBytes .largestObject deserializeLargestObject,
    ofVarInt .forward makeForward,
    ofVarInt .subscriberPriority makeSubscriberPriority,
    ofVarInt .groupOrder makeGroupOrderParam,
    ofBytes .locationFilter deserializeLocationFilter,
    ofVarInt .newGroupRequest fun value => .ok (newGroupRequest value),
    ofBytes .switchFrom deserializeSwitchFrom,
    ofBytes .fillParameters fill,
    ofRangeFilter,
    ofVarInt .includeProperties makeIncludeProperties,
    ofBytes .switchingSetAssignment deserializeSwitchingSetAssignment]

/-- The first class that makes something of the pair. -/
def firstOf : List (KeyValuePair → Result (Option MessageParameter)) → KeyValuePair →
    Result (Option MessageParameter)
  | [], _ => .ok none
  | read :: others, pair => do
    match ← read pair with
    | some p => return some p
    | none => firstOf others pair

def fromKeyValuePairWith (fill : Bytes → Result MessageParameter) (pair : KeyValuePair) :
    Result (Option MessageParameter) :=
  firstOf (readers fill) pair

/-- A pair that no class knows is left out. -/
def fromKeyValuePairsWith (fill : Bytes → Result MessageParameter) :
    List KeyValuePair → Result (List MessageParameter)
  | [] => .ok []
  | pair :: pairs => do
    let parsed ← fromKeyValuePairWith fill pair
    let result ← fromKeyValuePairsWith fill pairs
    return parsed.toList ++ result

/-- What is allowed inside a FILL_PARAMETERS is no FILL_PARAMETERS, so its reader is not called a
second time. -/
def deserializeFillParameters (value : Bytes) : Result MessageParameter := do
  let (count, buf) ← ByteBuffer.getVI value
  let (pairs, buf) ← deserializeMessageParameterKvps buf count.toNat
  if buf.length > 0 then
    throw (.protocolViolation "FillParameters.fromKeyValuePair"
      s!"{buf.length} bytes left after {count} parameters")
  FillParameters.checkAllowed "FillParameters.fromKeyValuePair" pairs
  let parameters ← fromKeyValuePairsWith
    (fun _ => .error (.error "a FILL_PARAMETERS inside FILL_PARAMETERS")) pairs
  return fillParameters parameters

def fromKeyValuePair (pair : KeyValuePair) : Result (Option MessageParameter) :=
  fromKeyValuePairWith deserializeFillParameters pair

def fromKeyValuePairs (pairs : List KeyValuePair) : Result (List MessageParameter) :=
  fromKeyValuePairsWith deserializeFillParameters pairs

end MessageParameter

/-- The parameters of a message, as `serializeMessageParameterKvps` is called on them. -/
def serializeMessageParameters (params : List MessageParameter) : Result Bytes := do
  let pairs ← MessageParameter.toKeyValuePairs params
  serializeMessageParameterKvps pairs

/-- The parameters of a message, as they are made of what `deserializeMessageParameterKvps` reads. -/
def deserializeMessageParameters (buf : Bytes) (count : Nat) :
    Result (List MessageParameter × Bytes) := do
  let (pairs, buf) ← deserializeMessageParameterKvps buf count
  let params ← MessageParameter.fromKeyValuePairs pairs
  return (params, buf)

end Moqtail.Ts
