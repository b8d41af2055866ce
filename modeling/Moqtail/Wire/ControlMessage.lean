import Moqtail.Wire.ParameterRoundTrip
import Moqtail.Wire.Text
import Moqtail.Wire.TrackProperty

/-! Control messages, from `model/control`.

A message is its type, the length of its payload in two bytes and the payload. Messages of one
shape share a writer and a reader here; each keeps its own contexts and its own type. -/
namespace Moqtail.Message

open Lib

/-- Why a decoder gives no value: an error, or a panic of the thread. -/
inductive Failure where
  | parse (error : ParseError)
  | panic
deriving Repr, DecidableEq

instance : MonadLift Parse (Except Failure) := ⟨Except.mapError .parse⟩

/-- How many parameters `Vec::with_capacity` finds room for; it panics over more. The bound is
the host's, and the parameters that fit in a payload stay below it. -/
structure Allocator where
  reservable : Nat
  payload_le : 65535 ≤ reservable
deriving Repr

def deserializeMessageParameters (alloc : Allocator) (bytes : Bytes) (count : UInt64)
    (msgType : ControlMessageType) : Except Failure (List MessageParameter × Bytes) := do
  if count.toNat > alloc.reservable then
    throw .panic
  (decodeTimes (readMessageParameter msgType) count.toNat 0 bytes : Parse _)

/-! What messages are made of. -/

/-- The number of the parameters, then the parameters. -/
def putParameters (params : List MessageParameter) : Parse Bytes := do
  let list ← serializeMessageParameters params
  return putVi (UInt64.ofNat params.length) ++ list

def getParameters (alloc : Allocator) (msgType : ControlMessageType) (payload : Bytes) :
    Except Failure (List MessageParameter × Bytes) := do
  let (count, payload) ← getVi payload
  deserializeMessageParameters alloc payload count msgType

/-- Parameters, then Track Properties up to the end of the payload. -/
def putAnswer (params : List MessageParameter) (properties : List TrackProperty) : Parse Bytes := do
  let params ← putParameters params
  let properties ← serializeTrackProperties properties
  return params ++ properties

def getAnswer (alloc : Allocator) (msgType : ControlMessageType) (payload : Bytes) :
    Except Failure ((List MessageParameter × List TrackProperty) × Bytes) := do
  let (params, payload) ← getParameters alloc msgType payload
  let properties ← deserializeTrackProperties payload
  return ((params, properties), [])

/-- A Request ID, a namespace or a prefix of namespaces, and parameters. -/
def putNamespaceRequest (requestId : UInt64) (trackNamespace : Tuple)
    (params : List MessageParameter) : Parse Bytes := do
  let params ← putParameters params
  return putVi requestId ++ trackNamespace.serialize ++ params

def getNamespaceRequest (alloc : Allocator) (msgType : ControlMessageType) (payload : Bytes) :
    Except Failure ((UInt64 × Tuple × List MessageParameter) × Bytes) := do
  let (requestId, payload) ← getVi payload
  let (trackNamespace, payload) ← Tuple.deserialize payload
  let (params, payload) ← getParameters alloc msgType payload
  return ((requestId, trackNamespace, params), payload)

/-- A Request ID, the name of a track and parameters. -/
def putTrackRequest (requestId : UInt64) (trackNamespace : Tuple) (trackName : TupleField)
    (params : List MessageParameter) : Parse Bytes := do
  let params ← putParameters params
  return putVi requestId ++ trackNamespace.serialize ++ putLengthPrefixed trackName ++ params

def getTrackRequest (nameContext : String) (alloc : Allocator) (msgType : ControlMessageType)
    (payload : Bytes) :
    Except Failure ((UInt64 × Tuple × TupleField × List MessageParameter) × Bytes) := do
  let (requestId, payload) ← getVi payload
  let (trackNamespace, payload) ← Tuple.deserialize payload
  let (trackName, payload) ← getLengthPrefixed nameContext payload
  let (params, payload) ← getParameters alloc msgType payload
  return ((requestId, trackNamespace, trackName, params), payload)

/-- The type of a message, the length of its payload and the payload. -/
def frame (context : String) (t : ControlMessageType) (payload : Bytes) : Parse Bytes := do
  if payload.length > 65535 then
    throw (.castingError context "usize" "u16" "out of range integral type conversion attempted")
  return putVi t.toU64 ++ beBytes 2 (UInt64.ofNat payload.length) ++ payload

/-! `namespace.rs`, `namespace_done.rs` -/

structure Namespace where
  trackNamespaceSuffix : Tuple
deriving Repr, DecidableEq

def Namespace.payload (m : Namespace) : Parse Bytes := .ok m.trackNamespaceSuffix.serialize

def Namespace.serialize (m : Namespace) : Parse Bytes := do
  let payload ← m.payload
  frame "Namespace::serialize(payload_length)" .namespace payload

def Namespace.parsePayload (payload : Bytes) : Parse (Namespace × Bytes) := do
  let (trackNamespaceSuffix, payload) ← Tuple.deserialize payload
  return (⟨trackNamespaceSuffix⟩, payload)

structure NamespaceDone where
  trackNamespaceSuffix : Tuple
deriving Repr, DecidableEq

def NamespaceDone.payload (m : NamespaceDone) : Parse Bytes := .ok m.trackNamespaceSuffix.serialize

def NamespaceDone.serialize (m : NamespaceDone) : Parse Bytes := do
  let payload ← m.payload
  frame "NamespaceDone::serialize(payload_length)" .namespaceDone payload

def NamespaceDone.parsePayload (payload : Bytes) : Parse (NamespaceDone × Bytes) := do
  let (trackNamespaceSuffix, payload) ← Tuple.deserialize payload
  return (⟨trackNamespaceSuffix⟩, payload)

/-! `publish_namespace.rs`, `subscribe_namespace.rs`, `subscribe_tracks.rs` -/

structure PublishNamespace where
  requestId : UInt64
  trackNamespace : Tuple
  parameters : List MessageParameter
deriving Repr

def PublishNamespace.payload (m : PublishNamespace) : Parse Bytes :=
  putNamespaceRequest m.requestId m.trackNamespace m.parameters

def PublishNamespace.serialize (m : PublishNamespace) : Parse Bytes := do
  let payload ← m.payload
  frame "PublishNamespace::serialize(payload_length)" .publishNamespace payload

def PublishNamespace.parsePayload (alloc : Allocator) (payload : Bytes) :
    Except Failure (PublishNamespace × Bytes) := do
  let ((requestId, trackNamespace, parameters), payload) ←
    getNamespaceRequest alloc .publishNamespace payload
  return (⟨requestId, trackNamespace, parameters⟩, payload)

structure SubscribeNamespace where
  requestId : UInt64
  trackNamespacePrefix : Tuple
  parameters : List MessageParameter
deriving Repr

def SubscribeNamespace.payload (m : SubscribeNamespace) : Parse Bytes :=
  putNamespaceRequest m.requestId m.trackNamespacePrefix m.parameters

def SubscribeNamespace.serialize (m : SubscribeNamespace) : Parse Bytes := do
  let payload ← m.payload
  frame "Announce::serialize" .subscribeNamespace payload

def SubscribeNamespace.parsePayload (alloc : Allocator) (payload : Bytes) :
    Except Failure (SubscribeNamespace × Bytes) := do
  let ((requestId, trackNamespacePrefix, parameters), payload) ←
    getNamespaceRequest alloc .subscribeNamespace payload
  return (⟨requestId, trackNamespacePrefix, parameters⟩, payload)

structure SubscribeTracks where
  requestId : UInt64
  trackNamespacePrefix : Tuple
  parameters : List MessageParameter
deriving Repr

def SubscribeTracks.payload (m : SubscribeTracks) : Parse Bytes :=
  putNamespaceRequest m.requestId m.trackNamespacePrefix m.parameters

def SubscribeTracks.serialize (m : SubscribeTracks) : Parse Bytes := do
  let payload ← m.payload
  frame "SubscribeTracks::serialize" .subscribeTracks payload

def SubscribeTracks.parsePayload (alloc : Allocator) (payload : Bytes) :
    Except Failure (SubscribeTracks × Bytes) := do
  let ((requestId, trackNamespacePrefix, parameters), payload) ←
    getNamespaceRequest alloc .subscribeTracks payload
  return (⟨requestId, trackNamespacePrefix, parameters⟩, payload)

/-! `subscribe.rs`, `fetch.rs`, `track_status.rs` -/

structure Subscribe where
  requestId : UInt64
  trackNamespace : Tuple
  trackName : TupleField
  subscribeParameters : List MessageParameter
deriving Repr

def Subscribe.payload (m : Subscribe) : Parse Bytes :=
  putTrackRequest m.requestId m.trackNamespace m.trackName m.subscribeParameters

def Subscribe.serialize (m : Subscribe) : Parse Bytes := do
  let payload ← m.payload
  frame "Subscribe::serialize" .subscribe payload

def Subscribe.parsePayload (alloc : Allocator) (payload : Bytes) :
    Except Failure (Subscribe × Bytes) := do
  let ((requestId, trackNamespace, trackName, subscribeParameters), payload) ←
    getTrackRequest "Subscribe::parse_payload(track_name)" alloc .subscribe payload
  return (⟨requestId, trackNamespace, trackName, subscribeParameters⟩, payload)

structure Fetch where
  requestId : UInt64
  trackNamespace : Tuple
  trackName : TupleField
  parameters : List MessageParameter
deriving Repr

def Fetch.payload (m : Fetch) : Parse Bytes :=
  putTrackRequest m.requestId m.trackNamespace m.trackName m.parameters

def Fetch.serialize (m : Fetch) : Parse Bytes := do
  let payload ← m.payload
  frame "Fetch::serialize(payload_length)" .fetch payload

def Fetch.parsePayload (alloc : Allocator) (payload : Bytes) :
    Except Failure (Fetch × Bytes) := do
  let ((requestId, trackNamespace, trackName, parameters), payload) ←
    getTrackRequest "Fetch::parse_payload(track_name)" alloc .fetch payload
  return (⟨requestId, trackNamespace, trackName, parameters⟩, payload)

structure TrackStatus where
  requestId : UInt64
  trackNamespace : Tuple
  trackName : TupleField
  subscribeParameters : List MessageParameter
deriving Repr

def TrackStatus.payload (m : TrackStatus) : Parse Bytes :=
  putTrackRequest m.requestId m.trackNamespace m.trackName m.subscribeParameters

def TrackStatus.serialize (m : TrackStatus) : Parse Bytes := do
  let payload ← m.payload
  frame "TrackStatus::serialize" .trackStatus payload

def TrackStatus.parsePayload (alloc : Allocator) (payload : Bytes) :
    Except Failure (TrackStatus × Bytes) := do
  let ((requestId, trackNamespace, trackName, subscribeParameters), payload) ←
    getTrackRequest "TrackStatus::parse_payload(track_name)" alloc .trackStatus payload
  return (⟨requestId, trackNamespace, trackName, subscribeParameters⟩, payload)

/-! `request_update.rs` -/

structure RequestUpdate where
  requestId : UInt64
  parameters : List MessageParameter
deriving Repr

def RequestUpdate.payload (m : RequestUpdate) : Parse Bytes := do
  let params ← putParameters m.parameters
  return putVi m.requestId ++ params

def RequestUpdate.serialize (m : RequestUpdate) : Parse Bytes := do
  let payload ← m.payload
  frame "RequestUpdate::serialize(payload_length)" .requestUpdate payload

def RequestUpdate.parsePayload (alloc : Allocator) (payload : Bytes) :
    Except Failure (RequestUpdate × Bytes) := do
  let (requestId, payload) ← getVi payload
  let (parameters, payload) ← getParameters alloc .requestUpdate payload
  return (⟨requestId, parameters⟩, payload)

/-! `request_ok.rs`, `subscribe_ok.rs`, `fetch_ok.rs`, `publish.rs` -/

structure RequestOk where
  parameters : List MessageParameter
  trackProperties : List TrackProperty
deriving Repr

def RequestOk.payload (m : RequestOk) : Parse Bytes := putAnswer m.parameters m.trackProperties

def RequestOk.serialize (m : RequestOk) : Parse Bytes := do
  let payload ← m.payload
  frame "RequestOk::serialize(payload_length)" .requestOk payload

def RequestOk.parsePayload (alloc : Allocator) (payload : Bytes) :
    Except Failure (RequestOk × Bytes) := do
  let ((parameters, trackProperties), payload) ← getAnswer alloc .requestOk payload
  return (⟨parameters, trackProperties⟩, payload)

structure SubscribeOk where
  trackAlias : UInt64
  subscribeParameters : List MessageParameter
  trackProperties : List TrackProperty
deriving Repr

def SubscribeOk.payload (m : SubscribeOk) : Parse Bytes := do
  let answer ← putAnswer m.subscribeParameters m.trackProperties
  return putVi m.trackAlias ++ answer

def SubscribeOk.serialize (m : SubscribeOk) : Parse Bytes := do
  let payload ← m.payload
  frame "SubscribeOk::serialize(payload_length)" .subscribeOk payload

def SubscribeOk.parsePayload (alloc : Allocator) (payload : Bytes) :
    Except Failure (SubscribeOk × Bytes) := do
  let (trackAlias, payload) ← getVi payload
  let ((subscribeParameters, trackProperties), payload) ← getAnswer alloc .subscribeOk payload
  return (⟨trackAlias, subscribeParameters, trackProperties⟩, payload)

structure FetchOk where
  endOfTrack : Bool
  endLocation : Location
  subscribeParameters : List MessageParameter
  trackProperties : List TrackProperty
deriving Repr

def FetchOk.payload (m : FetchOk) : Parse Bytes := do
  let answer ← putAnswer m.subscribeParameters m.trackProperties
  return (if m.endOfTrack then 1 else 0) :: (m.endLocation.serialize ++ answer)

def FetchOk.serialize (m : FetchOk) : Parse Bytes := do
  let payload ← m.payload
  frame "FetchOk::serialize" .fetchOk payload

def getEndOfTrack (payload : Bytes) : Parse (Bool × Bytes) :=
  match payload with
  | [] => .error (.notEnoughBytes "FetchOk::parse_payload(end_of_track)" 1 0)
  | raw :: payload =>
    if raw = 0 then .ok (false, payload)
    else if raw = 1 then .ok (true, payload)
    else .error (.protocolViolation "FetchOk::parse_payload(end_of_track)"
      s!"Invalid value for end of track {raw}")

def FetchOk.parsePayload (alloc : Allocator) (payload : Bytes) :
    Except Failure (FetchOk × Bytes) := do
  let (endOfTrack, payload) ← getEndOfTrack payload
  let (endLocation, payload) ← Location.deserialize payload
  let ((subscribeParameters, trackProperties), payload) ← getAnswer alloc .fetchOk payload
  return (⟨endOfTrack, endLocation, subscribeParameters, trackProperties⟩, payload)

structure Publish where
  requestId : UInt64
  trackNamespace : Tuple
  trackName : TupleField
  trackAlias : UInt64
  parameters : List MessageParameter
  trackProperties : List TrackProperty
deriving Repr

def Publish.payload (m : Publish) : Parse Bytes := do
  let answer ← putAnswer m.parameters m.trackProperties
  return putVi m.requestId ++ m.trackNamespace.serialize ++ putLengthPrefixed m.trackName ++
    putVi m.trackAlias ++ answer

def Publish.serialize (m : Publish) : Parse Bytes := do
  let payload ← m.payload
  frame "Publish::serialize(payload_length)" .publish payload

def Publish.parsePayload (alloc : Allocator) (payload : Bytes) :
    Except Failure (Publish × Bytes) := do
  let (requestId, payload) ← getVi payload
  let (trackNamespace, payload) ← Tuple.deserialize payload
  let (trackName, payload) ← getLengthPrefixed "Publish::parse_payload(track_name)" payload
  let (trackAlias, payload) ← getVi payload
  let ((parameters, trackProperties), payload) ← getAnswer alloc .publish payload
  return (⟨requestId, trackNamespace, trackName, trackAlias, parameters, trackProperties⟩, payload)

/-! `publish_done.rs`, `publish_skipped.rs` -/

inductive PublishDoneStatusCode where
  | internalError
  | unauthorized
  | trackEnded
  | goingAway
  | tooFarBehind
  | expired
  | updateFailed
  | excessiveLoad
  | malformedTrack
deriving Repr, DecidableEq

namespace PublishDoneStatusCode

def toU64 : PublishDoneStatusCode → UInt64
  | internalError => 0x0
  | unauthorized => 0x1
  | trackEnded => 0x2
  | goingAway => 0x4
  | tooFarBehind => 0x5
  | expired => 0x6
  | updateFailed => 0x8
  | excessiveLoad => 0x9
  | malformedTrack => 0x12

def all : List PublishDoneStatusCode :=
  [internalError, unauthorized, trackEnded, goingAway, tooFarBehind, expired, updateFailed,
    excessiveLoad, malformedTrack]

/-- An unknown status code is never fatal. -/
def fromWire (value : UInt64) : PublishDoneStatusCode :=
  (all.find? fun code => code.toU64 = value).getD internalError

end PublishDoneStatusCode

structure PublishDone where
  statusCode : PublishDoneStatusCode
  streamCount : UInt64
  reasonPhrase : ReasonPhrase
deriving DecidableEq

def PublishDone.payload (m : PublishDone) : Parse Bytes :=
  .ok (putVi m.statusCode.toU64 ++ putVi m.streamCount ++ m.reasonPhrase.serialize)

def PublishDone.serialize (m : PublishDone) : Parse Bytes := do
  let payload ← m.payload
  frame "PublishDone::serialize(payload_length)" .publishDone payload

def PublishDone.parsePayload (payload : Bytes) : Parse (PublishDone × Bytes) := do
  let (statusCodeRaw, payload) ← getVi payload
  let (streamCount, payload) ← getVi payload
  let (reasonPhrase, payload) ← ReasonPhrase.deserialize payload
  return (⟨.fromWire statusCodeRaw, streamCount, reasonPhrase⟩, payload)

structure PublishSkipped where
  trackNamespaceSuffix : Tuple
  trackName : TupleField
deriving Repr, DecidableEq

def PublishSkipped.payload (m : PublishSkipped) : Parse Bytes :=
  .ok (m.trackNamespaceSuffix.serialize ++ putLengthPrefixed m.trackName)

def PublishSkipped.serialize (m : PublishSkipped) : Parse Bytes := do
  let payload ← m.payload
  frame "PublishSkipped::serialize(payload_length)" .publishSkipped payload

def PublishSkipped.parsePayload (payload : Bytes) : Parse (PublishSkipped × Bytes) := do
  let (trackNamespaceSuffix, payload) ← Tuple.deserialize payload
  let (trackName, payload) ← getLengthPrefixed "PublishSkipped::parse_payload(track_name)" payload
  return (⟨trackNamespaceSuffix, trackName⟩, payload)

/-! `goaway.rs` -/

def maxNewSessionUriLen : Nat := 8192

structure GoAway where
  newSessionUri : Option String
  timeout : UInt64
deriving Repr, DecidableEq

def GoAway.payload (m : GoAway) : Parse Bytes := .ok (putUri m.newSessionUri ++ putVi m.timeout)

def GoAway.serialize (m : GoAway) : Parse Bytes := do
  let payload ← m.payload
  frame "GoAway::serialize(payload_length)" .goAway payload

def GoAway.parsePayload (payload : Bytes) : Parse (GoAway × Bytes) := do
  let (uriLen, payload) ← getVi payload
  if uriLen.toNat > maxNewSessionUriLen then
    throw (.protocolViolation "GoAway::parse_payload(uri_length)"
      s!"New Session URI length {uriLen} exceeds {maxNewSessionUriLen}")
  let (newSessionUri, payload) ← getUri "GoAway::parse_payload(uri_length)"
    "GoAway::parse_payload(new_session_uri)" uriLen payload
  let (timeout, payload) ← getVi payload
  return (⟨newSessionUri, timeout⟩, payload)

/-! `setup.rs` -/

structure Setup where
  setupOptions : List KeyValuePair
deriving Repr, DecidableEq

def Setup.payload (m : Setup) : Parse Bytes := serializeKvpList m.setupOptions

def Setup.serialize (m : Setup) : Parse Bytes := do
  let payload ← m.payload
  frame "Setup::serialize(payload_length)" .setup payload

def Setup.parsePayload (payload : Bytes) : Parse (Setup × Bytes) := do
  let setupOptions ← deserializeKvpListUntilEmpty payload
  return (⟨setupOptions⟩, [])

/-! `request_error.rs` -/

inductive RequestErrorCode where
  | internalError
  | unauthorized
  | timeout
  | notSupported
  | malformedAuthToken
  | expiredAuthToken
  | goingAway
  | excessiveLoad
  | doesNotExist
  | invalidRange
  | malformedTrack
  | uninterested
  | prefixOverlap
  | namespaceTooLarge
  | invalidSwitch
  | unsupportedExtension
  | redirect
  | conflictingFilters
  | invalidFilter
deriving Repr, DecidableEq

namespace RequestErrorCode

def toU64 : RequestErrorCode → UInt64
  | internalError => 0x0
  | unauthorized => 0x1
  | timeout => 0x2
  | notSupported => 0x3
  | malformedAuthToken => 0x4
  | expiredAuthToken => 0x5
  | goingAway => 0x6
  | excessiveLoad => 0x9
  | doesNotExist => 0x10
  | invalidRange => 0x11
  | malformedTrack => 0x12
  | uninterested => 0x20
  | prefixOverlap => 0x30
  | namespaceTooLarge => 0x31
  | invalidSwitch => 0x32
  | unsupportedExtension => 0x33
  | redirect => 0x34
  | conflictingFilters => 0x35
  | invalidFilter => 0x36

def all : List RequestErrorCode :=
  [internalError, unauthorized, timeout, notSupported, malformedAuthToken, expiredAuthToken,
    goingAway, excessiveLoad, doesNotExist, invalidRange, malformedTrack, uninterested,
    prefixOverlap, namespaceTooLarge, invalidSwitch, unsupportedExtension, redirect,
    conflictingFilters, invalidFilter]

/-- An unknown error code is never fatal. -/
def fromWire (value : UInt64) : RequestErrorCode :=
  (all.find? fun code => code.toU64 = value).getD internalError

end RequestErrorCode

structure RequestError where
  errorCode : RequestErrorCode
  retryInterval : UInt64
  reasonPhrase : ReasonPhrase
  redirect : Option Redirect
deriving DecidableEq

def RequestError.payload (m : RequestError) : Parse Bytes :=
  .ok (putVi m.errorCode.toU64 ++ putVi m.retryInterval ++ m.reasonPhrase.serialize ++
    match m.redirect with
    | some redirect => redirect.serialize
    | none => [])

def RequestError.serialize (m : RequestError) : Parse Bytes := do
  let payload ← m.payload
  frame "RequestError::serialize(payload_length)" .requestError payload

/-- A Redirect follows only where the code announces one. -/
def getRedirect (code : RequestErrorCode) (payload : Bytes) : Parse (Option Redirect × Bytes) :=
  if code = .redirect then do
    let (redirect, payload) ← Redirect.deserialize payload
    return (some redirect, payload)
  else .ok (none, payload)

def RequestError.parsePayload (payload : Bytes) : Parse (RequestError × Bytes) := do
  let (errorCodeRaw, payload) ← getVi payload
  let (retryInterval, payload) ← getVi payload
  let (reasonPhrase, payload) ← ReasonPhrase.deserialize payload
  let (redirect, payload) ← getRedirect (.fromWire errorCodeRaw) payload
  return (⟨.fromWire errorCodeRaw, retryInterval, reasonPhrase, redirect⟩, payload)

/-! `control_message.rs` -/

inductive ControlMessage where
  | «namespace» (m : Namespace)
  | namespaceDone (m : NamespaceDone)
  | publishNamespace (m : PublishNamespace)
  | requestOk (m : RequestOk)
  | publish (m : Publish)
  | publishDone (m : PublishDone)
  | fetch (m : Fetch)
  | fetchOk (m : FetchOk)
  | goaway (m : GoAway)
  | setup (m : Setup)
  | subscribe (m : Subscribe)
  | subscribeOk (m : SubscribeOk)
  | requestUpdate (m : RequestUpdate)
  | trackStatus (m : TrackStatus)
  | subscribeNamespace (m : SubscribeNamespace)
  | subscribeTracks (m : SubscribeTracks)
  | requestError (m : RequestError)
  | publishSkipped (m : PublishSkipped)

namespace ControlMessage

def getType : ControlMessage → ControlMessageType
  | .namespace _ => .namespace
  | namespaceDone _ => .namespaceDone
  | publishNamespace _ => .publishNamespace
  | requestError _ => .requestError
  | requestOk _ => .requestOk
  | publish _ => .publish
  | publishDone _ => .publishDone
  | fetch _ => .fetch
  | fetchOk _ => .fetchOk
  | goaway _ => .goAway
  | setup _ => .setup
  | subscribe _ => .subscribe
  | subscribeOk _ => .subscribeOk
  | requestUpdate _ => .requestUpdate
  | trackStatus _ => .trackStatus
  | subscribeNamespace _ => .subscribeNamespace
  | subscribeTracks _ => .subscribeTracks
  | publishSkipped _ => .publishSkipped

/-- The match of `deserialize` on the type, PUBLISH_OK among the types with no body of its own. -/
def parsePayload (alloc : Allocator) (msgType : ControlMessageType) (payload : Bytes) :
    Except Failure (ControlMessage × Bytes) := do
  match msgType with
  | .namespace =>
    let (m, payload) ← Namespace.parsePayload payload
    return (.namespace m, payload)
  | .namespaceDone =>
    let (m, payload) ← NamespaceDone.parsePayload payload
    return (.namespaceDone m, payload)
  | .publishNamespace =>
    let (m, payload) ← PublishNamespace.parsePayload alloc payload
    return (.publishNamespace m, payload)
  | .requestError =>
    let (m, payload) ← RequestError.parsePayload payload
    return (.requestError m, payload)
  | .requestOk | .publishOk =>
    let (m, payload) ← RequestOk.parsePayload alloc payload
    return (.requestOk m, payload)
  | .publish =>
    let (m, payload) ← Publish.parsePayload alloc payload
    return (.publish m, payload)
  | .publishDone =>
    let (m, payload) ← PublishDone.parsePayload payload
    return (.publishDone m, payload)
  | .setup =>
    let (m, payload) ← Setup.parsePayload payload
    return (.setup m, payload)
  | .fetch =>
    let (m, payload) ← Fetch.parsePayload alloc payload
    return (.fetch m, payload)
  | .fetchOk =>
    let (m, payload) ← FetchOk.parsePayload alloc payload
    return (.fetchOk m, payload)
  | .goAway =>
    let (m, payload) ← GoAway.parsePayload payload
    return (.goaway m, payload)
  | .subscribe =>
    let (m, payload) ← Subscribe.parsePayload alloc payload
    return (.subscribe m, payload)
  | .subscribeOk =>
    let (m, payload) ← SubscribeOk.parsePayload alloc payload
    return (.subscribeOk m, payload)
  | .requestUpdate =>
    let (m, payload) ← RequestUpdate.parsePayload alloc payload
    return (.requestUpdate m, payload)
  | .trackStatus =>
    let (m, payload) ← TrackStatus.parsePayload alloc payload
    return (.trackStatus m, payload)
  | .subscribeNamespace =>
    let (m, payload) ← SubscribeNamespace.parsePayload alloc payload
    return (.subscribeNamespace m, payload)
  | .subscribeTracks =>
    let (m, payload) ← SubscribeTracks.parsePayload alloc payload
    return (.subscribeTracks m, payload)
  | .publishSkipped =>
    let (m, payload) ← PublishSkipped.parsePayload payload
    return (.publishSkipped m, payload)

/-- An error in a payload is a protocol violation, whichever error it is. -/
def violation : Failure → Failure
  | .parse e => .parse (.protocolViolation "ControlMessage::deserialize(payload)" e.toString)
  | .panic => .panic

/-- `get_u16` after its bounds check. -/
def getPayloadLength (bytes : Bytes) : Parse (Nat × Bytes) :=
  if bytes.length < 2 then
    .error (.notEnoughBytes "ControlMessage::deserialize(payload_length)" 2 0)
  else .ok (beNat (bytes.take 2), bytes.drop 2)

/-- The head of a frame: its type and its payload, still to be parsed. -/
def getFrame (bytes : Bytes) : Parse ((ControlMessageType × Bytes) × Bytes) := do
  let (messageType, bytes) ← getVi bytes
  let msgType ← ControlMessageType.tryFrom messageType
  let (payloadLength, bytes) ← getPayloadLength bytes
  let (payload, bytes) ← copyToBytes "ControlMessage::deserialize(payload_length)" payloadLength bytes
  return ((msgType, payload), bytes)

/-- The whole of a payload. -/
def parseWhole (alloc : Allocator) (msgType : ControlMessageType) (payload : Bytes) :
    Except Failure ControlMessage := do
  let (message, payload) ← (parsePayload alloc msgType payload).mapError violation
  if ¬ payload.isEmpty then
    throw (.parse (.protocolViolation "ControlMessage::deserialize(final_check)"
      s!"Extra {payload.length} bytes remaining in payload after parsing"))
  return message

def deserialize (alloc : Allocator) (bytes : Bytes) : Except Failure (ControlMessage × Bytes) := do
  let ((msgType, payload), bytes) ← getFrame bytes
  let message ← parseWhole alloc msgType payload
  return (message, bytes)

def serialize : ControlMessage → Parse Bytes
  | .namespace m => m.serialize
  | namespaceDone m => m.serialize
  | publishNamespace m => m.serialize
  | requestError m => m.serialize
  | requestOk m => m.serialize
  | publish m => m.serialize
  | publishDone m => m.serialize
  | fetch m => m.serialize
  | fetchOk m => m.serialize
  | goaway m => m.serialize
  | setup m => m.serialize
  | subscribe m => m.serialize
  | subscribeOk m => m.serialize
  | requestUpdate m => m.serialize
  | trackStatus m => m.serialize
  | subscribeNamespace m => m.serialize
  | subscribeTracks m => m.serialize
  | publishSkipped m => m.serialize

end ControlMessage

end Moqtail.Message
