import Moqtail.Ts.CombinedFilter

/-! What the TypeScript library sends of the Objects that a track produces, from
`client/track/content_source.ts`, `client/publication/subgroup.ts` and
`client/publication/subscribe.ts`.

The calls of a listener are chained, so that nothing but a request of the peer comes between two
awaits of one. A request changes nothing that a call still reads before the end of its write, and
with that a call is two steps: `handle`, to the end of the write, and `settle`, what is behind it,
which is over before the next call. A transport that fails ends a publication as `cancel` does and
is left out. -/
namespace Moqtail.Ts

open Lib

def MoqtObject.position (obj : MoqtObject) : Location := ⟨obj.groupId, obj.objectId⟩

/-! The source. -/

structure LiveTrackSource where
  largestLocation : Option Location
deriving Repr, DecidableEq

/-! Subgroup IDs. -/

structure SubgroupIds where
  firstObject : List (Int × Int)
deriving Repr, DecidableEq

namespace SubgroupIds

def groupsKept : Int := 4

def note (ids : SubgroupIds) (obj : MoqtObject) : SubgroupIds :=
  let group := obj.groupId
  if (entryOf group ids.firstObject).any (· ≤ obj.objectId) then ids
  else
    let noted := changeEntry group obj.objectId (fun _ => obj.objectId) ids.firstObject
    ⟨noted.filter fun old => ¬ old.1 + groupsKept < group⟩

def of (ids : SubgroupIds) (obj : MoqtObject) : Option Int :=
  if obj.isDatagram then none
  else some (obj.subgroupId.getD ((entryOf obj.groupId ids.firstObject).getD obj.objectId))

end SubgroupIds

/-! Headers. -/

def SubgroupHeaderType.tryFrom (value : Int) : Result Nat :=
  let v := value.toNat
  if value < 0 ∨ value > 0xff ∨ v &&& 0x80 ≠ 0 then
    .error (.invalidType "SubgroupHeaderType.tryFrom"
      ("invalid bits set, got 0x" ++ toString16 value))
  else if v &&& 0x10 = 0 then
    .error (.invalidType "SubgroupHeaderType.tryFrom" ("bit 4 not set, got 0x" ++ toString16 value))
  else if v &&& 0x06 = 0x06 then
    .error (.protocolViolation "SubgroupHeaderType.tryFrom"
      ("reserved SUBGROUP_ID_MODE 0b11, got 0x" ++ toString16 value))
  else .ok v

namespace SubgroupHeader

def serializeSubgroupId (header : SubgroupHeader) : Result Bytes :=
  if SubgroupHeaderType.hasExplicitSubgroupId header.type then
    match header.subgroupId with
    | none => .error (.protocolViolation "SubgroupHeader.serialize"
        "Subgroup_id field is required for this header type")
    | some subgroupId => ByteBuffer.putVI subgroupId
  else .ok []

def serializePriority (header : SubgroupHeader) : Result Bytes :=
  if SubgroupHeaderType.hasDefaultPriority header.type then .ok []
  else
    match header.publisherPriority with
    | none => .error (.protocolViolation "SubgroupHeader.serialize"
        "Publisher_priority field is required when DEFAULT_PRIORITY bit is not set")
    | some publisherPriority => ByteBuffer.putU8 publisherPriority

def serialize (header : SubgroupHeader) : Result Bytes := do
  let type ← ByteBuffer.putVI header.type
  let trackAlias ← ByteBuffer.putVI header.trackAlias
  let groupId ← ByteBuffer.putVI header.groupId
  let subgroupId ← header.serializeSubgroupId
  let publisherPriority ← header.serializePriority
  return type ++ (trackAlias ++ (groupId ++ (subgroupId ++ publisherPriority)))

def readSubgroupId (headerType : Nat) (buf : Bytes) : Result (Option Int × Bytes) :=
  if SubgroupHeaderType.hasExplicitSubgroupId headerType then do
    let (subgroupId, buf) ← ByteBuffer.getVI buf
    return (some subgroupId, buf)
  else if SubgroupHeaderType.isSubgroupIdZero headerType then .ok (some 0, buf)
  else .ok (none, buf)

def readPriority (headerType : Nat) (buf : Bytes) : Result (Option Int × Bytes) :=
  if SubgroupHeaderType.hasDefaultPriority headerType then .ok (none, buf)
  else do
    let (publisherPriority, buf) ← ByteBuffer.getU8 buf
    return (some publisherPriority, buf)

def deserialize (buf : Bytes) : Result (SubgroupHeader × Bytes) := do
  let (type, buf) ← ByteBuffer.getNumberVI buf
  let headerType ← SubgroupHeaderType.tryFrom type
  let (trackAlias, buf) ← ByteBuffer.getVI buf
  let (groupId, buf) ← ByteBuffer.getVI buf
  let (subgroupId, buf) ← readSubgroupId headerType buf
  let (publisherPriority, buf) ← readPriority headerType buf
  return (⟨headerType, trackAlias, groupId, subgroupId, publisherPriority⟩, buf)

def resolveSubgroupId (header : SubgroupHeader) (firstObjectId : Int) : SubgroupHeader :=
  if header.subgroupId = none ∧ SubgroupHeaderType.isSubgroupIdFirstObjectId header.type then
    { header with subgroupId := some firstObjectId }
  else header

end SubgroupHeader

/-! Streams. -/

/-- The header of a stream and the Objects written on it. -/
structure SentStream where
  header : SubgroupHeader
  objects : List MoqtObject

namespace SentStream

def lastObjectId (stream : SentStream) : Option Int := stream.objects.getLast?.map MoqtObject.objectId

/-- `SendStream.write`. -/
def write (stream : SentStream) (obj : MoqtObject) : Result SentStream := do
  let object ← obj.tryIntoSubgroupObject
  let _ ← SendStream.write stream.lastObjectId object
  return { stream with objects := stream.objects ++ [obj] }

end SentStream

/-- The fields that a publication sends with: of the streams, those open by their group and those that
are closed, and the Location of an Object that is written while its call is not over. -/
structure Sender where
  trackAlias : Int
  publisherPriority : Int
  latestLocation : Option Location
  subgroupIds : SubgroupIds
  highestGroupSeen : Option Int
  streams : List (Int × SentStream)
  closed : List SentStream
  isCompleted : Bool
  unsettled : Option Location

namespace Sender

/-- Attached to a source. -/
def new (trackAlias publisherPriority : Int) (live : LiveTrackSource) : Sender where
  trackAlias := trackAlias
  publisherPriority := publisherPriority
  latestLocation := none
  subgroupIds := ⟨[]⟩
  highestGroupSeen := live.largestLocation.map Location.group
  streams := []
  closed := []
  isCompleted := false
  unsettled := none

def note (s : Sender) (obj : MoqtObject) : Sender := { s with subgroupIds := s.subgroupIds.note obj }

/-- Whether a group is past those seen. -/
def isUnseen (s : Sender) (group : Int) : Bool := s.highestGroupSeen.all (· < group)

def markGroupSeen (s : Sender) (group : Int) : Sender :=
  if s.isUnseen group then { s with highestGroupSeen := some group } else s

def closeGroupStream (s : Sender) (group : Int) : Sender :=
  match entryOf group s.streams with
  | some stream => { s with
      streams := s.streams.filter (·.1 ≠ group)
      closed := s.closed ++ [stream] }
  | none => s

/-- Closes the stream of the group sent last, if it is another. -/
def closeLatestBut (s : Sender) (group : Int) : Sender :=
  match s.latestLocation with
  | some latest => if latest.group ≠ group then s.closeGroupStream latest.group else s
  | none => s

/-- The header of a stream that `obj` opens. -/
def headerFor (s : Sender) (obj : MoqtObject) (subgroupId : Option Int) : SubgroupHeader :=
  subgroupHeaderFor obj (subgroupId.getD obj.objectId) s.trackAlias s.publisherPriority
    (s.isUnseen obj.groupId)

def openStream (s : Sender) (obj : MoqtObject) (subgroupId : Option Int) : Result Sender := do
  let header := s.headerFor obj subgroupId
  let _ ← header.serialize
  let stream : SentStream := ⟨header, []⟩
  let s : Sender := { s with streams := s.streams ++ [(obj.groupId, stream)] }
  return s.markGroupSeen obj.groupId

def write (s : Sender) (obj : MoqtObject) : Result Sender :=
  match entryOf obj.groupId s.streams with
  | none => .error (.error "undefined")
  | some stream => do
    let stream ← stream.write obj
    return { s with
      streams := changeEntry obj.groupId stream (fun _ => stream) s.streams
      unsettled := some obj.position }

/-- What there is to write on once the stream of the group is there. -/
def ready (s : Sender) (obj : MoqtObject) (subgroupId : Option Int) : Result Sender :=
  if (entryOf obj.groupId s.streams).isSome then .ok s else s.openStream obj subgroupId

def tryWrite (s : Sender) (obj : MoqtObject) : Sender × Bool :=
  match s.write obj with
  | .error _ => (s, false)
  | .ok s => (s, true)

/-- The `try`, to the end of the write, and whether it gets there. -/
def send (s : Sender) (obj : MoqtObject) (subgroupId : Option Int) : Sender × Bool :=
  match s.ready obj subgroupId with
  | .error _ => (s, false)
  | .ok s => s.tryWrite obj

/-- What is behind the write, but for the streams. -/
def setLatest (s : Sender) (location : Location) : Sender :=
  { s with latestLocation := some location, unsettled := none }

end Sender

/-! Requests. -/

def MessageParameter.typeValue (p : MessageParameter) : Result Int := do
  let pair ← p.toKeyValuePair
  return pair.typeValue

def MessageParameter.isRemoval : MessageParameter → Bool
  | .rangeFilter filter => filter.isRemoval
  | _ => false

def applyMessageParameterUpdate (current updates : List MessageParameter) :
    Result (List MessageParameter) := do
  let updated ← updates.mapM MessageParameter.typeValue
  let types ← current.mapM MessageParameter.typeValue
  let kept := (current.zip types).filter fun p => p.2 ∉ updated
  return kept.map Prod.fst ++ updates.filter fun u => !u.isRemoval

def rangeFilters (params : List MessageParameter) : List RangeFilter :=
  params.filterMap fun
    | .rangeFilter filter => some filter
    | _ => none

/-- The filters of a request without those of its fills. -/
def assertOwnFilters (limit : Int) (context : String) (params : List MessageParameter) : Result Unit :=
  let filters := rangeFilters params
  if filters.isEmpty then .ok ()
  else if limit = 0 then
    .error (.invalidFilter context "no range filters are allowed (MAX_FILTER_RANGES is 0)")
  else
    let count : Int := (filters.map fun f => f.deltas.length).sum
    if count > limit then
      .error (.invalidFilter context s!"{count} filter ranges exceed MAX_FILTER_RANGES of {limit}")
    else .ok ()

mutual

def assertFill (limit : Int) (context : String) : MessageParameter → Result Unit
  | .fillParameters parameters => do
    let context := context ++ " (FILL_PARAMETERS)"
    assertOwnFilters limit context parameters
    assertFills limit context parameters
  | _ => .ok ()

def assertFills (limit : Int) (context : String) : List MessageParameter → Result Unit
  | [] => .ok ()
  | p :: params => do
    assertFill limit context p
    assertFills limit context params

end

def assertWithinFilterRangeLimit (limit : Int) (context : String) (params : List MessageParameter) :
    Result Unit := do
  assertOwnFilters limit context params
  assertFills limit context params

/-- The first Location Filter. -/
def findLocationFilter (params : List MessageParameter) : Option LocationFilter :=
  params.findSome? fun
    | .locationFilter filter => some filter
    | _ => none

/-- The first FORWARD. -/
def findForward (params : List MessageParameter) : Option Bool :=
  params.findSome? fun
    | .forward value => some value
    | _ => none

/-- The last FORWARD, which the loop over an update leaves. -/
def forwardAfter (forward : Bool) (params : List MessageParameter) : Bool :=
  params.foldl (fun forward p =>
    match p with
    | .forward value => value
    | _ => forward) forward

/-! The publication of a SUBSCRIBE. -/

structure SubscribePublication where
  sender : Sender
  startLocation : Location
  endLocation : Option Location
  forward : Bool
  parameters : List MessageParameter
  filter : CombinedFilter
  isStarted : Bool

namespace SubscribePublication

def new (trackAlias publisherPriority : Int) (live : LiveTrackSource)
    (parameters : List MessageParameter) : Result SubscribePublication := do
  let location := findLocationFilter parameters
  let filter ← CombinedFilter.new parameters
  return {
    sender := Sender.new trackAlias publisherPriority live
    startLocation := (location.bind fun f => f.startLocation live.largestLocation).getD ⟨0, 0⟩
    endLocation := location.bind LocationFilter.endLocation
    forward := (findForward parameters).getD true
    parameters := parameters
    filter := filter
    isStarted := false }

/-- What `done` and `cancel` leave. -/
def complete (s : SubscribePublication) : SubscribePublication :=
  { s with sender := { s.sender with isCompleted := true } }

def update (maxFilterRanges : Int) (s : SubscribePublication) (params : List MessageParameter) :
    Result SubscribePublication := do
  let parameters ← applyMessageParameterUpdate s.parameters params
  assertWithinFilterRangeLimit maxFilterRanges "REQUEST_UPDATE" parameters
  let filter ← CombinedFilter.new parameters
  let s : SubscribePublication :=
    match findLocationFilter params with
    | some location => { s with
        startLocation := (location.startLocation s.sender.latestLocation).getD ⟨0, 0⟩
        endLocation := location.endLocation }
    | none => s
  return { s with
    filter := filter
    forward := forwardAfter s.forward params
    parameters := parameters }

def markGroupSeen (s : SubscribePublication) (group : Int) : SubscribePublication :=
  { s with sender := s.sender.markGroupSeen group }

/-- Whether a Location is past the end of the filter. -/
def isPastEnd (s : SubscribePublication) (location : Location) : Bool :=
  s.endLocation.any fun last => location.compare last > 0

def settle (s : SubscribePublication) : SubscribePublication :=
  match s.sender.unsettled with
  | none => s
  | some location =>
    let sender :=
      if s.endLocation = some location then s.sender.closeGroupStream location.group
      else s.sender.closeLatestBut location.group
    { s with sender := sender.setLatest location }

/-- The call for an Object, and whether the Object is written. -/
def call (s : SubscribePublication) (obj : MoqtObject) : SubscribePublication × Bool :=
  if s.sender.isCompleted then (s, false)
  else
    let s := { s with sender := s.sender.note obj }
    if !s.forward then (s.markGroupSeen obj.groupId, false)
    else
      let s := { s with
        isStarted := s.isStarted || s.startLocation.compare obj.position ≤ 0 }
      if !s.isStarted then (s.markGroupSeen obj.groupId, false)
      else if s.isPastEnd obj.position then
        let s := s.markGroupSeen obj.groupId
        let sender :=
          match s.sender.latestLocation with
          | some latest => s.sender.closeGroupStream latest.group
          | none => s.sender
        ({ s with sender := sender }, false)
      else
        let subgroupId := s.sender.subgroupIds.of obj
        match s.filter.passes obj subgroupId with
        -- thrown outside the `try`
        | .error _ => (s, false)
        | .ok false =>
          let s := s.markGroupSeen obj.groupId
          ({ s with sender := s.sender.closeLatestBut obj.groupId }, false)
        | .ok true =>
          match s.sender.send obj subgroupId with
          | (sender, false) => (complete { s with sender := sender }, false)
          | (sender, true) => ({ s with sender := sender }, true)

def handle (s : SubscribePublication) (obj : MoqtObject) : SubscribePublication × Bool :=
  s.settle.call obj

end SubscribePublication

end Moqtail.Ts
