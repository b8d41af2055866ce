import Moqtail.Ts.MessageParameter
import Moqtail.Wire.ControlMessage

/-! Reading control messages in the TypeScript library, from `model/control/`,
`model/common/tuple.ts`, `model/common/reason_phrase.ts`, `model/common/redirect.ts`,
`model/data/full_track_name.ts` and `model/property/track_property.ts`.

The enumerations are those of the Rust library. -/
namespace Moqtail.Ts

open Lib Moqtail.Message

/-! Numbers and text. -/

/-- Whether `Number` has the value itself: it keeps 53 significant bits. -/
def isExactNumber (v : Int) : Bool := v.toNat % 2 ^ (v.toNat.log2 - 52) = 0

/-- `Number`, checked to be the value. -/
def castNumber (context details : String) (v : Int) : Result Int :=
  if isExactNumber v then .ok v else .error (.castingError context "bigint" "number" details)

def stripByteOrderMark (bytes : Bytes) : Bytes :=
  match bytes with
  | 0xEF :: 0xBB :: 0xBF :: rest => rest
  | _ => bytes

/-- Each malformed part of a text is one U+FFFD. -/
def replaceMalformed : Nat → Bytes → Bytes
  | 0, bytes => bytes
  | fuel + 1, bytes =>
    match utf8ErrorAt 0 bytes with
    | none => bytes
    | some (i, none) => bytes.take i ++ [0xEF, 0xBF, 0xBD]
    | some (i, some len) =>
      bytes.take i ++ [0xEF, 0xBF, 0xBD] ++ replaceMalformed fuel (bytes.drop (i + len))

/-- `new TextDecoder().decode`. -/
def decodeText (bytes : Bytes) : String :=
  let text := stripByteOrderMark bytes
  (String.fromUTF8? (replaceMalformed text.length text).toByteArray).getD ""

/-- `new TextDecoder('utf-8', { fatal: true }).decode`. -/
def decodeTextFatal (context : String) (bytes : Bytes) : Result String :=
  match String.fromUTF8? (stripByteOrderMark bytes).toByteArray with
  | some text => .ok text
  | none => .error (.invalidUtf8 context)

/-! Names. -/

structure Tuple where
  fields : List Bytes
deriving Repr, DecidableEq

def deserializeTupleField (buf : Bytes) : Result (Bytes × Bytes) := do
  let (lenBig, buf) ← ByteBuffer.getVI buf
  let len ← castNumber "TupleField.deserialize" s!"{lenBig}" lenBig
  ByteBuffer.getBytes len buf

def deserializeTupleFields : Nat → Bytes → Result (List Bytes × Bytes)
  | 0, buf => .ok ([], buf)
  | count + 1, buf => do
    let (field, buf) ← deserializeTupleField buf
    let (fields, buf) ← deserializeTupleFields count buf
    return (field :: fields, buf)

namespace Tuple

def serialize (t : Tuple) : Result Bytes := do
  let count ← ByteBuffer.putVI t.fields.length
  let fields ← t.fields.mapM ByteBuffer.putLengthPrefixedBytes
  return count ++ fields.flatten

def deserialize (buf : Bytes) : Result (Tuple × Bytes) := do
  let (countBig, buf) ← ByteBuffer.getVI buf
  let count ← castNumber "Tuple.deserialize" s!"{countBig}" countBig
  let (fields, buf) ← deserializeTupleFields count.toNat buf
  return (⟨fields⟩, buf)

end Tuple

structure FullTrackName where
  trackNamespace : Tuple
  name : Bytes
deriving Repr, DecidableEq

namespace FullTrackName

def maxNamespaceTupleCount : Nat := 32

def maxFullTrackNameLength : Nat := 4096

def deserialize (buf : Bytes) : Result (FullTrackName × Bytes) := do
  let (trackNamespace, buf) ← Tuple.deserialize buf
  if trackNamespace.fields.length > maxNamespaceTupleCount then
    throw (.trackNameError "FullTrackName::deserialize(nsCount)"
      s!"Namespace cannot exceed {maxNamespaceTupleCount} fields")
  let (name, buf) ← ByteBuffer.getLengthPrefixedBytes buf
  let written ← trackNamespace.serialize
  if written.length + name.length > maxFullTrackNameLength then
    throw (.trackNameError "FullTrackName::deserialize(totalLen)"
      s!"Total length cannot exceed {maxFullTrackNameLength}")
  return (⟨trackNamespace, name⟩, buf)

end FullTrackName

def maxReasonPhraseLen : Int := 1024

def deserializeReasonPhrase (buf : Bytes) : Result (String × Bytes) := do
  let (lenBig, buf) ← ByteBuffer.getVI buf
  let len ← castNumber "ReasonPhrase.deserialize length"
    s!"Value {lenBig} cannot be accurately represented as a number." lenBig
  if len > maxReasonPhraseLen then
    throw (.lengthExceedsMax "ReasonPhrase.deserialize" maxReasonPhraseLen len)
  if buf.length < len then
    throw (.notEnoughBytes "ReasonPhrase.deserialize value" len buf.length)
  let (phraseBytes, buf) ← ByteBuffer.getBytes len buf
  let phrase ← decodeTextFatal "ReasonPhrase.deserialize (decode)" phraseBytes
  return (phrase, buf)

structure Redirect where
  connectUri : Option String
  trackNamespace : Tuple
  trackName : Bytes
deriving Repr, DecidableEq

/-- An empty URI is none, also one that is empty once decoded. -/
def Redirect.deserialize (buf : Bytes) : Result (Redirect × Bytes) := do
  let (uriBytes, buf) ← ByteBuffer.getLengthPrefixedBytes buf
  let connectUri := decodeText uriBytes
  let (trackNamespace, buf) ← Tuple.deserialize buf
  let (trackName, buf) ← ByteBuffer.getLengthPrefixedBytes buf
  return (⟨if connectUri.isEmpty then none else some connectUri, trackNamespace, trackName⟩, buf)

/-! Track Properties. -/

inductive TrackProperty where
  | objectDeliveryTimeout (timeoutMs : Int)
  | subgroupDeliveryTimeout (timeoutMs : Int)
  | maxCacheDuration (durationMs : Int)
  | immutableProperties (properties : List KeyValuePair)
  | defaultPublisherPriority (priority : Int)
  | defaultPublisherGroupOrder (order : GroupOrder)
  | dynamicGroups (enabled : Bool)
  | unknown (kvp : KeyValuePair)
deriving Repr, DecidableEq

namespace TrackProperty

/-- The classes of which the pair has the Type of one with an integer Value, in turn. -/
def ofVarInt (typeValue value : Int) : Result (Option TrackProperty) :=
  if typeValue = 0x02 then .ok (some (objectDeliveryTimeout value))
  else if typeValue = 0x06 then .ok (some (subgroupDeliveryTimeout value))
  else if typeValue = 0x04 then .ok (some (maxCacheDuration value))
  else if typeValue = 0x0E then
    if value > 255 then
      .error (.protocolViolation "DefaultPublisherPriorityProperty.fromKeyValuePair"
        s!"Priority must be 0-255, got {value}")
    else .ok (some (defaultPublisherPriority value))
  else if typeValue = 0x22 then
    if value = 1 then .ok (some (defaultPublisherGroupOrder .ascending))
    else if value = 2 then .ok (some (defaultPublisherGroupOrder .descending))
    else
      .error (.protocolViolation "DefaultPublisherGroupOrderProperty.fromKeyValuePair"
        s!"GroupOrder must be Ascending(1) or Descending(2), got {value}")
  else if typeValue = 0x30 then
    if value > 1 then
      .error (.protocolViolation "DynamicGroupsProperty.fromKeyValuePair"
        s!"DynamicGroups must be 0 or 1, got {value}")
    else .ok (some (dynamicGroups (value = 1)))
  else .ok none

def fromKeyValuePair (pair : KeyValuePair) : Result TrackProperty := do
  match pair.value with
  | .bigint value =>
    let property ← ofVarInt pair.typeValue value
    return property.getD (unknown pair)
  | .uint8Array _ =>
    let properties ← immutablePropertiesIn "ImmutablePropertiesTrackProperty.fromKeyValuePair" pair
    return (properties.map immutableProperties).getD (unknown pair)

/-- What is left of the bytes, to the last. -/
def deserializeAll (buf : Bytes) : Result (List TrackProperty) := do
  let pairs ← deserializeKvpListUntilEmpty buf
  pairs.mapM fromKeyValuePair

end TrackProperty

/-! The enumerations of messages, of which an unknown number is never fatal. -/

def PublishDoneStatusCode.fromWire (v : Int) : PublishDoneStatusCode :=
  if v = 0x1 then .unauthorized
  else if v = 0x2 then .trackEnded
  else if v = 0x4 then .goingAway
  else if v = 0x5 then .tooFarBehind
  else if v = 0x6 then .expired
  else if v = 0x8 then .updateFailed
  else if v = 0x9 then .excessiveLoad
  else if v = 0x12 then .malformedTrack
  else .internalError

def RequestErrorCode.fromWire (v : Int) : RequestErrorCode :=
  if v = 0x1 then .unauthorized
  else if v = 0x2 then .timeout
  else if v = 0x3 then .notSupported
  else if v = 0x4 then .malformedAuthToken
  else if v = 0x5 then .expiredAuthToken
  else if v = 0x6 then .goingAway
  else if v = 0x9 then .excessiveLoad
  else if v = 0x10 then .doesNotExist
  else if v = 0x11 then .invalidRange
  else if v = 0x12 then .malformedTrack
  else if v = 0x20 then .uninterested
  else if v = 0x30 then .prefixOverlap
  else if v = 0x31 then .namespaceTooLarge
  else if v = 0x32 then .invalidSwitch
  else if v = 0x33 then .unsupportedExtension
  else if v = 0x34 then .redirect
  else if v = 0x35 then .conflictingFilters
  else if v = 0x36 then .invalidFilter
  else .internalError

def ControlMessageType.tryFrom (v : Int) : Result ControlMessageType :=
  if v = 0x2F00 then .ok .setup
  else if v = 0x10 then .ok .goAway
  else if v = 0x03 then .ok .subscribe
  else if v = 0x04 then .ok .subscribeOk
  else if v = 0x05 then .ok .requestError
  else if v = 0x02 then .ok .requestUpdate
  else if v = 0x0B then .ok .publishDone
  else if v = 0x16 then .ok .fetch
  else if v = 0x18 then .ok .fetchOk
  else if v = 0x0D then .ok .trackStatus
  else if v = 0x06 then .ok .publishNamespace
  else if v = 0x07 then .ok .requestOk
  else if v = 0x08 then .ok .namespace
  else if v = 0x0E then .ok .namespaceDone
  else if v = 0x50 then .ok .subscribeNamespace
  else if v = 0x51 then .ok .subscribeTracks
  else if v = 0x1D then .ok .publish
  else if v = 0x1E then .ok .publishOk
  else if v = 0x0F then .ok .publishSkipped
  else .error (.invalidEnumValue "ControlMessageType.tryFrom" v)

/-! The messages. -/

structure GoAway where
  newSessionUri : Option String
  timeout : Int
deriving Repr, DecidableEq

structure TrackStatus where
  requestId : Int
  trackAlias : Int
  fullTrackName : FullTrackName
  subscriberPriority : Int
  groupOrder : Int
  forward : Bool
  locationFilter : LocationFilter
  subscribeParameters : List MessageParameter

inductive ControlMessage where
  | setup (setupOptions : List KeyValuePair)
  | goAway (m : GoAway)
  | subscribe (requestId : Int) (fullTrackName : FullTrackName) (parameters : List MessageParameter)
  | subscribeOk (trackAlias : Int) (parameters : List MessageParameter)
      (trackProperties : List TrackProperty)
  | requestError (errorCode : RequestErrorCode) (retryInterval : Int) (reasonPhrase : String)
      (redirect : Option Redirect)
  | requestUpdate (requestId : Int) (parameters : List MessageParameter)
  | publishDone (statusCode : PublishDoneStatusCode) (streamCount : Int) (errorReason : String)
  | fetch (requestId : Int) (fullTrackName : FullTrackName) (parameters : List MessageParameter)
  | fetchOk (endOfTrack : Bool) (endLocation : Location) (parameters : List MessageParameter)
      (trackProperties : List TrackProperty)
  | trackStatus (m : TrackStatus)
  | publishNamespace (requestId : Int) (trackNamespace : Tuple) (parameters : List MessageParameter)
  | requestOk (parameters : List MessageParameter) (trackProperties : List TrackProperty)
  | namespace (trackNamespaceSuffix : Tuple)
  | namespaceDone (trackNamespaceSuffix : Tuple)
  | subscribeNamespace (requestId : Int) (trackNamespacePrefix : Tuple)
      (parameters : List MessageParameter)
  | subscribeTracks (requestId : Int) (trackNamespacePrefix : Tuple)
      (parameters : List MessageParameter)
  | publish (requestId : Int) (fullTrackName : FullTrackName) (trackAlias : Int)
      (parameters : List MessageParameter) (trackProperties : List TrackProperty)
  | publishSkipped (trackNamespaceSuffix : Tuple) (trackName : Bytes)

/-! Their payloads. What a message leaves of its payload is not looked at. -/

/-- The parameters with their count before them. -/
def getParameters (buf : Bytes) : Result (List MessageParameter × Bytes) := do
  let (paramCount, buf) ← ByteBuffer.getNumberVI buf
  deserializeMessageParameters buf paramCount.toNat

/-- The same with the conversion of the count checked to be exact. -/
def getParametersCast (context : String) (buf : Bytes) :
    Result (List MessageParameter × Bytes) := do
  let (paramCountBig, buf) ← ByteBuffer.getVI buf
  let paramCount ← castNumber context s!"{paramCountBig}" paramCountBig
  deserializeMessageParameters buf paramCount.toNat

/-- The same with no check on the count. A rounded one is still more than there are bytes. -/
def getParametersUnchecked (buf : Bytes) : Result (List MessageParameter × Bytes) := do
  let (paramCount, buf) ← ByteBuffer.getVI buf
  deserializeMessageParameters buf paramCount.toNat

def parseSetup (buf : Bytes) : Result ControlMessage := do
  let setupOptions ← deserializeKvpListUntilEmpty buf
  return .setup setupOptions

def maxNewSessionUriLength : Int := 8192

def parseGoAway (buf : Bytes) : Result ControlMessage := do
  let (uriLength, buf) ← ByteBuffer.getNumberVI buf
  if uriLength > maxNewSessionUriLength then
    throw (.protocolViolation "GoAway::parsePayload(uriLength)"
      s!"New Session URI length {uriLength} exceeds {maxNewSessionUriLength}")
  if uriLength > 0 then
    if buf.length < uriLength then
      throw (.notEnoughBytes "GoAway::parsePayload(uriLength)" uriLength buf.length)
    let (uriBytes, buf) ← ByteBuffer.getBytes uriLength buf
    let (timeout, _) ← ByteBuffer.getVI buf
    return .goAway ⟨some (decodeText uriBytes), timeout⟩
  else
    let (timeout, _) ← ByteBuffer.getVI buf
    return .goAway ⟨none, timeout⟩

def parseSubscribe (buf : Bytes) : Result ControlMessage := do
  let (requestId, buf) ← ByteBuffer.getVI buf
  let (fullTrackName, buf) ← FullTrackName.deserialize buf
  let (parameters, _) ← getParametersUnchecked buf
  return .subscribe requestId fullTrackName parameters

def parseSubscribeOk (buf : Bytes) : Result ControlMessage := do
  let (trackAlias, buf) ← ByteBuffer.getVI buf
  let (parameters, buf) ← getParameters buf
  let trackProperties ← TrackProperty.deserializeAll buf
  return .subscribeOk trackAlias parameters trackProperties

def parseRequestError (buf : Bytes) : Result ControlMessage := do
  let (code, buf) ← ByteBuffer.getVI buf
  let errorCode := RequestErrorCode.fromWire code
  let (retryInterval, buf) ← ByteBuffer.getVI buf
  let (reasonPhrase, buf) ← deserializeReasonPhrase buf
  if errorCode = .redirect then
    let (redirect, _) ← Redirect.deserialize buf
    return .requestError errorCode retryInterval reasonPhrase (some redirect)
  else return .requestError errorCode retryInterval reasonPhrase none

def parseRequestUpdate (buf : Bytes) : Result ControlMessage := do
  let (requestId, buf) ← ByteBuffer.getVI buf
  let (parameters, _) ← getParametersCast "RequestUpdate.deserialize paramCount" buf
  return .requestUpdate requestId parameters

def parsePublishDone (buf : Bytes) : Result ControlMessage := do
  let (statusCode, buf) ← ByteBuffer.getVI buf
  let (streamCount, buf) ← ByteBuffer.getVI buf
  let (errorReason, _) ← deserializeReasonPhrase buf
  return .publishDone (PublishDoneStatusCode.fromWire statusCode) streamCount errorReason

def parseFetch (buf : Bytes) : Result ControlMessage := do
  let (requestId, buf) ← ByteBuffer.getVI buf
  let (fullTrackName, buf) ← FullTrackName.deserialize buf
  let (parameters, _) ← getParameters buf
  return .fetch requestId fullTrackName parameters

def getEndOfTrack (buf : Bytes) : Result (Bool × Bytes) := do
  if buf.length < 1 then throw (.notEnoughBytes "FetchOk::parsePayload(endOfTrack)" 1 0)
  let (endOfTrackRaw, buf) ← ByteBuffer.getU8 buf
  if endOfTrackRaw = 0 then return (false, buf)
  else if endOfTrackRaw = 1 then return (true, buf)
  else
    throw (.protocolViolation "FetchOk::parsePayload(endOfTrack)"
      "End of track must be true(0x01) or false(0x00)")

def parseFetchOk (buf : Bytes) : Result ControlMessage := do
  let (endOfTrack, buf) ← getEndOfTrack buf
  let (endLocation, buf) ← Location.deserialize buf
  let (parameters, buf) ← getParameters buf
  let trackProperties ← TrackProperty.deserializeAll buf
  return .fetchOk endOfTrack endLocation parameters trackProperties

def parseTrackStatus (buf : Bytes) : Result ControlMessage := do
  let (requestId, buf) ← ByteBuffer.getVI buf
  let (trackAlias, buf) ← ByteBuffer.getVI buf
  let (fullTrackName, buf) ← FullTrackName.deserialize buf
  let (subscriberPriority, buf) ← ByteBuffer.getU8 buf
  let (groupOrder, buf) ← ByteBuffer.getU8 buf
  let (forward, buf) ← ByteBuffer.getU8 buf
  let (locationFilter, buf) ← LocationFilter.deserializeValue buf
  let (subscribeParameters, _) ← getParametersUnchecked buf
  return .trackStatus ⟨requestId, trackAlias, fullTrackName, subscriberPriority, groupOrder,
    forward = 1, locationFilter, subscribeParameters⟩

def parsePublishNamespace (buf : Bytes) : Result ControlMessage := do
  let (requestId, buf) ← ByteBuffer.getVI buf
  let (trackNamespace, buf) ← Tuple.deserialize buf
  let (parameters, _) ← getParameters buf
  return .publishNamespace requestId trackNamespace parameters

def parseRequestOk (buf : Bytes) : Result ControlMessage := do
  let (parameters, buf) ← getParametersCast "RequestOk.parsePayload numParams" buf
  let trackProperties ← TrackProperty.deserializeAll buf
  return .requestOk parameters trackProperties

def parseNamespace (buf : Bytes) : Result ControlMessage := do
  let (trackNamespaceSuffix, _) ← Tuple.deserialize buf
  return .namespace trackNamespaceSuffix

def parseNamespaceDone (buf : Bytes) : Result ControlMessage := do
  let (trackNamespaceSuffix, _) ← Tuple.deserialize buf
  return .namespaceDone trackNamespaceSuffix

def parseSubscribeNamespace (buf : Bytes) : Result ControlMessage := do
  let (requestId, buf) ← ByteBuffer.getVI buf
  let (trackNamespacePrefix, buf) ← Tuple.deserialize buf
  let (parameters, _) ← getParameters buf
  return .subscribeNamespace requestId trackNamespacePrefix parameters

def parseSubscribeTracks (buf : Bytes) : Result ControlMessage := do
  let (requestId, buf) ← ByteBuffer.getVI buf
  let (trackNamespacePrefix, buf) ← Tuple.deserialize buf
  let (parameters, _) ← getParameters buf
  return .subscribeTracks requestId trackNamespacePrefix parameters

def parsePublish (buf : Bytes) : Result ControlMessage := do
  let (requestId, buf) ← ByteBuffer.getVI buf
  let (fullTrackName, buf) ← FullTrackName.deserialize buf
  let (trackAlias, buf) ← ByteBuffer.getVI buf
  let (parameters, buf) ← getParameters buf
  let trackProperties ← TrackProperty.deserializeAll buf
  return .publish requestId fullTrackName trackAlias parameters trackProperties

def parsePublishSkipped (buf : Bytes) : Result ControlMessage := do
  let (trackNamespaceSuffix, buf) ← Tuple.deserialize buf
  let (trackName, _) ← ByteBuffer.getLengthPrefixedBytes buf
  return .publishSkipped trackNamespaceSuffix trackName

namespace ControlMessage

/-- PUBLISH_OK has no body of its own. -/
def parsePayload : ControlMessageType → Bytes → Result ControlMessage
  | .publish => parsePublish
  | .publishOk => parseRequestOk
  | .publishDone => parsePublishDone
  | .publishNamespace => parsePublishNamespace
  | .namespace => parseNamespace
  | .namespaceDone => parseNamespaceDone
  | .requestOk => parseRequestOk
  | .requestError => parseRequestError
  | .fetch => parseFetch
  | .fetchOk => parseFetchOk
  | .goAway => parseGoAway
  | .subscribe => parseSubscribe
  | .subscribeOk => parseSubscribeOk
  | .requestUpdate => parseRequestUpdate
  | .trackStatus => parseTrackStatus
  | .subscribeNamespace => parseSubscribeNamespace
  | .subscribeTracks => parseSubscribeTracks
  | .setup => parseSetup
  | .publishSkipped => parsePublishSkipped

def deserialize (buf : Bytes) : Result ControlMessage := do
  let (messageTypeRaw, buf) ← ByteBuffer.getVI buf
  let messageType ← ControlMessageType.tryFrom messageTypeRaw
  let (payloadLength, buf) ← ByteBuffer.getU16 buf
  if buf.length < payloadLength then
    throw (.notEnoughBytes "ControlMessage.deserialize(payload_bytes)" payloadLength buf.length)
  let (payload, _) ← ByteBuffer.getBytes payloadLength buf
  parsePayload messageType payload

end ControlMessage

/-- A NAMESPACE_DONE of one field, and one whose field is cut off. -/
example : (ControlMessage.deserialize [0x0E, 0, 3, 1, 1, 97]).toOption.isSome = true ∧
    (ControlMessage.deserialize [0x0E, 0, 2, 1, 1]).toOption.isSome = false := by
  decide

end Moqtail.Ts
