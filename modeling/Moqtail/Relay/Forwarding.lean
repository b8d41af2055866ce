import Moqtail.Wire.Object
import Moqtail.Lib.Run
import Moqtail.Relay.SeenObjects
import Moqtail.Wire.LocationFilter

/-! The forwarding path of one track to one of its subscriptions, as a transition system.

Upstream subgroup streams are read as `transport/data_stream_handler.rs` and
`server/session.rs` read them, `Track::new_subgroup_object` and `Track::stream_closed` of
`server/track.rs` turn what they carry into events, and `Subscription` of
`server/subscription.rs` takes the events off its queue and writes to the send streams
that `MOQTClient` of `server/client.rs` keeps.

Each upstream stream has a task that reads it. Three kinds of tasks work on a subscription: one
takes its events, one applies a REQUEST_UPDATE, and for each stream that is over there is one that
closes it. A step is what a task does from one place where it awaits a lock or the transport to the
next, and the steps of the tasks come in any order. The task that takes the events gives one up
wherever it is with it when five seconds have passed (`receive` against the timer in
`Subscription::new`). The updates of a subscription come one after another on the stream of its
request. What the transport answers and what the SSTS gate decides are part of the action.

Left out are the datagram path, a subscription's end (`finish`, `cancel`, lag shedding) and
SWITCH_FROM. -/
namespace Moqtail

open Lib

/-- A subgroup stream of the track. All streams here are of one track, so the relay's
track id is left out. -/
structure StreamId where
  groupId : UInt64
  subgroupId : Option UInt64
deriving Repr, DecidableEq

def buildStreamId (header : SubgroupHeader) : StreamId := ⟨header.groupId, header.subgroupId⟩

inductive TrackEvent where
  | subgroupObject (streamId : StreamId) (object : Object) (headerInfo : Option SubgroupHeader)
  | streamClosed (streamId : StreamId)
deriving DecidableEq

def TrackEvent.streamId : TrackEvent → StreamId
  | .subgroupObject streamId _ _ => streamId
  | .streamClosed streamId => streamId

/-! The publishers' side. -/

/-- How far the reader of an upstream stream has come: it waits for the next object, the track is
to keep the header that came with one, an event is to be sent, or the stream is over. -/
inductive UpstreamStage where
  | reading
  | keeping (streamId : StreamId) (object : Object) (header : SubgroupHeader)
  | sending (event : TrackEvent)
  | over
deriving DecidableEq

/-- A subgroup stream some publisher opened. `streamId` is set with the first object, which also
resolves a Subgroup ID that is the first Object ID. -/
structure UpstreamStream where
  header : SubgroupHeader
  previousObjectId : Option UInt64
  streamId : Option StreamId
  stage : UpstreamStage
deriving DecidableEq

def defaultPublisherPriority : UInt8 := 128

namespace UpstreamStream

/-- The header as `read_object` leaves it once `objectId` has been read. -/
def resolvedHeader (u : UpstreamStream) (objectId : UInt64) : SubgroupHeader :=
  if u.header.subgroupId.isNone && u.header.headerType.subgroupIdIsFirstObjectId then
    { u.header with subgroupId := some objectId }
  else u.header

/-- `read_object`: one object off the stream. -/
def readObject (u : UpstreamStream) (bytes : Bytes) : Parse (SubgroupHeader × Object) := do
  let (o, _) ← SubgroupObject.deserialize bytes u.previousObjectId u.header.headerType.hasProperties
  let header := u.resolvedHeader o.objectId
  let object ← Object.tryFromSubgroup o header.trackAlias header.groupId header.subgroupId
    header.publisherPriority defaultPublisherPriority
  return (header, object)

end UpstreamStream

structure Track where
  activeSubgroupHeaders : StreamId → Option SubgroupHeader
  seenObjects : SeenObjects

namespace Track

/-- The first step of `new_subgroup_object`: a duplicate is dropped with the header it may have. -/
def newSubgroupObject (track : Track) (streamId : StreamId) (object : Object)
    (headerInfo : Option SubgroupHeader) : Track × UpstreamStage :=
  let (duplicate, seen) := track.seenObjects.isDuplicate object.location
  let track := { track with seenObjects := seen }
  if duplicate then (track, .reading)
  else
    match headerInfo with
    | some header => (track, .keeping streamId object header)
    | none => (track, .sending (.subgroupObject streamId object none))

def keepHeader (track : Track) (streamId : StreamId) (header : SubgroupHeader) : Track :=
  { track with
    activeSubgroupHeaders := Function.update track.activeSubgroupHeaders streamId (some header) }

/-- The first step of `stream_closed`. -/
def streamClosed (track : Track) (streamId : StreamId) : Track × UpstreamStage :=
  ({ track with
      activeSubgroupHeaders := Function.update track.activeSubgroupHeaders streamId none },
    .sending (.streamClosed streamId))

end Track

/-! The subscriber's connection. -/

/-- A unidirectional stream the relay opened. `wire` is what the transport accepted of it,
`written` the objects whose write succeeded. A stream is `torn` once a write was given up with
a part of its bytes accepted, and the next write goes on behind that part. -/
structure SendStream where
  streamId : StreamId
  header : SubgroupHeader
  headerWritten : Bool
  wire : Bytes
  written : List Object
  torn : Bool
  failed : Bool
  finished : Bool

inductive WriteOutcome where
  | ok
  | closedOrStopped (accepted : Nat)
  | other (accepted : Nat)
deriving Repr, DecidableEq

def WriteOutcome.isStopped : WriteOutcome → Bool
  | .closedOrStopped _ => true
  | _ => false

/-- What the transport answers in one step, which opens a stream or writes to one. -/
structure Transport where
  openFails : Bool
  write : WriteOutcome
deriving Repr, DecidableEq

def Transport.fine : Transport := ⟨false, .ok⟩

/-- The bytes a failing or abandoned `write_all` may still have handed over: not all of them. -/
def accepted (n : Nat) (bytes : Bytes) : Bytes := bytes.take (min n (bytes.length - 1))

namespace SendStream

/-- A stream that was finished, or a write on which failed, takes nothing more. -/
def isOver (stream : SendStream) : Bool := stream.failed || stream.finished

def accepts (stream : SendStream) (outcome : WriteOutcome) : Bool :=
  !stream.isOver && outcome = .ok

def writeAll (stream : SendStream) (bytes : Bytes) (outcome : WriteOutcome) : SendStream :=
  if stream.isOver then stream
  else
    match outcome with
    | .ok => { stream with wire := stream.wire ++ bytes }
    | .closedOrStopped n => { stream with wire := stream.wire ++ accepted n bytes, failed := true }
    | .other n => { stream with wire := stream.wire ++ accepted n bytes, failed := true }

def writeHeader (stream : SendStream) (payload : Bytes) (outcome : WriteOutcome) : SendStream :=
  { stream.writeAll payload outcome with
    headerWritten := stream.headerWritten || stream.accepts outcome }

def writeObject (stream : SendStream) (object : Object) (bytes : Bytes) (outcome : WriteOutcome) :
    SendStream :=
  { stream.writeAll bytes outcome with
    written := if stream.accepts outcome then stream.written ++ [object] else stream.written }

/-- `write_all` is dropped with `n` bytes accepted; `fails` is that it had failed by then. -/
def giveUp (stream : SendStream) (bytes : Bytes) (n : Nat) (fails : Bool) : SendStream :=
  if stream.isOver then stream
  else
    { stream with
      wire := stream.wire ++ accepted n bytes
      torn := stream.torn || !(accepted n bytes).isEmpty
      failed := fails }

end SendStream

/-- The streams opened so far, and the ones that can be found by their key. A key is the
request's and the stream's id; all keys here are of one request. -/
structure Client where
  streams : List SendStream
  sendStreams : StreamId → Option Nat

namespace Client

def modifyStream (client : Client) (i : Nat) (change : SendStream → SendStream) : Client :=
  { client with streams := client.streams.modify i change }

def takeStream (client : Client) (streamId : StreamId) : Client :=
  { client with sendStreams := Function.update client.sendStreams streamId none }

/-- A stream is opened and kept under its key, before anything is written to it. -/
def addStream (client : Client) (streamId : StreamId) (header : SubgroupHeader) : Client where
  streams := client.streams ++ [⟨streamId, header, false, [], [], false, false, false⟩]
  sendStreams := Function.update client.sendStreams streamId (some client.streams.length)

def accepts (client : Client) (i : Nat) (outcome : WriteOutcome) : Bool :=
  client.streams[i]?.any fun stream => stream.accepts outcome

/-- The write always reports success. A stopped stream is released after it. -/
def writeStreamObject (client : Client) (i : Nat) (object : Object) (bytes : Bytes)
    (outcome : WriteOutcome) : Client :=
  client.modifyStream i fun stream => stream.writeObject object bytes outcome

end Client

/-! The subscription. -/

/-- `rangeFilter` is `CombinedFilter::matches_object`. -/
structure Subscription where
  trackAlias : UInt64
  forward : Bool
  locationFilter : LocationFilter
  startLocation : Option Location
  endGroup : Option UInt64
  endObject : Option UInt64
  rangeFilter : Object → Bool
  sendStreamLastObjectIds : StreamId → Option (Option UInt64)
  pendingHeader : Option (StreamId × SubgroupHeader)
  skippedStreamHeaders : StreamId → Option SubgroupHeader
  openedStreamCount : Nat

/-- The parameters of a REQUEST_UPDATE that a subscription acts on. The Range Filter is
recomputed from the parameters on every update. -/
structure Update where
  locationFilter : Option LocationFilter
  forward : Option Bool
  rangeFilter : Object → Bool

namespace Subscription

def setLocationFilter (sub : Subscription) (filter : LocationFilter)
    (largest : Option Location) : Subscription :=
  { sub with
    startLocation := filter.startLocation largest
    endGroup := filter.endLocation.map (·.group)
    endObject := (filter.endLocation.map (·.object)).filter (· ≠ 0xFFFFFFFFFFFFFFFF)
    locationFilter := filter }

/-- A subscription as SUBSCRIBE creates it. -/
def new (trackAlias : UInt64) (forward : Bool) (filter : LocationFilter)
    (rangeFilter : Object → Bool) : Subscription :=
  let sub : Subscription :=
    { trackAlias := trackAlias
      forward := forward
      locationFilter := .none
      startLocation := none
      endGroup := none
      endObject := none
      rangeFilter := rangeFilter
      sendStreamLastObjectIds := fun _ => none
      pendingHeader := none
      skippedStreamHeaders := fun _ => none
      openedStreamCount := 0 }
  let sub := sub.setLocationFilter filter none
  if (filter.liveStartLocation none).isSome then { sub with startLocation := none } else sub

def isPastEnd (sub : Subscription) (location : Location) : Bool :=
  match sub.endGroup with
  | none => false
  | some endGroup =>
    location.group > endGroup ||
      (location.group = endGroup &&
        match sub.endObject with
        | some object => location.object > object
        | none => false)

def beforeStart (sub : Subscription) (location : Location) : Bool :=
  match sub.startLocation with
  | some start => location < start
  | none => false

def saveSkippedHeader (sub : Subscription) (streamId : StreamId)
    (headerInfo : Option SubgroupHeader) : Subscription :=
  match headerInfo with
  | some header =>
    { sub with
      skippedStreamHeaders := Function.update sub.skippedStreamHeaders streamId (some header) }
  | none => sub

def resolveLiveStart (sub : Subscription) (largest : Option Location) : Subscription :=
  match sub.locationFilter.liveStartLocation largest with
  | none => sub
  | some start => { sub with startLocation := some start }

def setLastObjectId (sub : Subscription) (streamId : StreamId) (id : Option UInt64) :
    Subscription :=
  { sub with
    sendStreamLastObjectIds := Function.update sub.sendStreamLastObjectIds streamId (some id) }

end Subscription

/-- Why an object is not sent, in the order `handle_track_event` checks. -/
inductive Verdict where
  | gated
  | beforeStart
  | pastEnd
  | notForwarding
  | filteredOut
  | admitted
deriving Repr, DecidableEq

def Subscription.verdict (sub : Subscription) (gate : Bool) (object : Object) : Verdict :=
  if !gate then .gated
  else if sub.beforeStart object.location then .beforeStart
  else if sub.isPastEnd object.location then .pastEnd
  else if !sub.forward then .notForwarding
  else if !sub.rangeFilter object then .filteredOut
  else .admitted

/-- What an object that is not sent leaves of its header. -/
def Subscription.skip (sub : Subscription) (streamId : StreamId)
    (headerInfo : Option SubgroupHeader) : Verdict → Subscription
  | .beforeStart => sub.saveSkippedHeader streamId headerInfo
  | .filteredOut => sub.saveSkippedHeader streamId headerInfo
  | .notForwarding =>
    match headerInfo with
    | some header => { sub with pendingHeader := some (streamId, header) }
    | none => sub
  | _ => sub

/-! The tasks. -/

/-- How far `handle_header` has come: the stream is to be found or opened, its header to be written,
or its key to be removed when that has failed. -/
inductive HeaderStage where
  | opening
  | writing (i : Nat) (payload : Bytes)
  | removing
deriving DecidableEq

structure HeaderCall where
  header : SubgroupHeader
  stage : HeaderStage
deriving DecidableEq

inductive HeaderResult where
  | goesOn (stage : HeaderStage)
  | failed
  | stream (i : Nat)
deriving DecidableEq

/-- How far `handle_track_event` has come with an object that is admitted. -/
inductive EventStage where
  /-- The pending header is to be cleared, and the stream to be looked for. -/
  | clearing
  /-- No stream is open, and a header is to be looked for. -/
  | joining
  | header (call : HeaderCall)
  /-- It goes to stream `i`, and is to be coded. -/
  | coding (i : Nat)
  | writing (i : Nat) (bytes : Bytes)
  /-- The peer has stopped the stream, and its key is to be released. -/
  | releasing (i : Nat)
  | storing (i : Nat)
deriving DecidableEq

structure EventTask where
  streamId : StreamId
  object : Object
  headerInfo : Option SubgroupHeader
  stage : EventStage
deriving DecidableEq

/-- How far `update_subscription` has come once forwarding is turned on. -/
inductive UpdateTask where
  | taking
  | header (streamId : StreamId) (call : HeaderCall)
  | resetting (streamId : StreamId) (i : Nat)
deriving DecidableEq

/-- The stream that an object in hand is to be written to, once it is there. -/
def EventTask.stream (task : EventTask) : Option Nat :=
  match task.stage with
  | .header ⟨_, .writing i _⟩ => some i
  | .coding i => some i
  | .writing i _ => some i
  | _ => none

/-- The object is not written yet. -/
def EventTask.isUnwritten (task : EventTask) : Bool :=
  match task.stage with
  | .releasing _ => false
  | .storing _ => false
  | _ => true

/-- The bytes an object is written as, after one with the ID `previousObjectId`. -/
def Object.coded (object : Object) (previousObjectId : Option UInt64) : Option Bytes :=
  match object.tryIntoSubgroup with
  | .error _ => none
  | .ok o => (o.serialize previousObjectId o.properties.isSome).toOption

/-- A subscription with the connection it writes to. -/
structure Delivery where
  sub : Subscription
  client : Client

namespace Delivery

def countStream (d : Delivery) : Delivery :=
  { d with sub := { d.sub with openedStreamCount := d.sub.openedStreamCount + 1 } }

/-- A step of `handle_header`. A stream that is there already is taken as it is. -/
def handleHeader (d : Delivery) (call : HeaderCall) (io : Transport) : Delivery × HeaderResult :=
  match call.stage with
  | .opening =>
    match call.header.serialize (some d.sub.trackAlias) with
    | .error _ => (d, .failed)
    | .ok payload =>
      let streamId := buildStreamId call.header
      match d.client.sendStreams streamId with
      | some i => (d.countStream, .stream i)
      | none =>
        if io.openFails then (d, .failed)
        else
          ({ d with client := d.client.addStream streamId call.header },
            .goesOn (.writing d.client.streams.length payload))
  | .writing i payload =>
    let client := d.client.modifyStream i fun stream => stream.writeHeader payload io.write
    if d.client.accepts i io.write then ({ d with client := client }.countStream, .stream i)
    else ({ d with client := client }, .goesOn .removing)
  | .removing => ({ d with client := d.client.takeStream (buildStreamId call.header) }, .failed)

def clearPending (d : Delivery) : Delivery := { d with sub := { d.sub with pendingHeader := none } }

def dropSkipped (d : Delivery) (streamId : StreamId) : Delivery :=
  { d with
    sub := { d.sub with
      skippedStreamHeaders := Function.update d.sub.skippedStreamHeaders streamId none } }

def dropLastObjectId (d : Delivery) (streamId : StreamId) : Delivery :=
  { d with
    sub := { d.sub with
      sendStreamLastObjectIds := Function.update d.sub.sendStreamLastObjectIds streamId none } }

def resetLastObjectId (d : Delivery) (streamId : StreamId) : Delivery :=
  { d with sub := d.sub.setLastObjectId streamId none }

/-- A stream opened with its own header starts a new count. -/
def resetOwn (d : Delivery) : Option SubgroupHeader → Delivery
  | some header => d.resetLastObjectId (buildStreamId header)
  | none => d

/-- A step of `handle_track_event` with an object that is admitted, and what is left to do. -/
def handleObject (d : Delivery) (active : StreamId → Option SubgroupHeader) (task : EventTask)
    (io : Transport) : Delivery × Option EventStage :=
  match task.stage with
  | .clearing =>
    match task.headerInfo with
    | some header => (d.clearPending, some (.header ⟨header, .opening⟩))
    | none =>
      match d.client.sendStreams task.streamId with
      | some i => (d.clearPending, some (.coding i))
      | none => (d.clearPending, some .joining)
  | .joining =>
    match (d.sub.skippedStreamHeaders task.streamId).or (active task.streamId) with
    | none => (d.dropSkipped task.streamId, none)
    | some header =>
      (d.dropSkipped task.streamId, some (.header ⟨header.forMidSubgroupStream, .opening⟩))
  | .header call =>
    match d.handleHeader call io with
    | (d, .goesOn stage) => (d, some (.header { call with stage := stage }))
    | (d, .failed) => (d, none)
    | (d, .stream i) => (d, some (.coding i))
  | .coding i =>
    let d := d.resetOwn task.headerInfo
    match task.object.coded (d.sub.sendStreamLastObjectIds task.streamId).join with
    | none => (d, none)
    | some bytes => (d, some (.writing i bytes))
  | .writing i bytes =>
    ({ d with client := d.client.writeStreamObject i task.object bytes io.write },
      some (if io.write.isStopped then .releasing i else .storing i))
  | .releasing i => ({ d with client := d.client.takeStream task.streamId }, some (.storing i))
  | .storing _ =>
    ({ d with sub := d.sub.setLastObjectId task.streamId (some task.object.location.object) }, none)

/-- What is left of a write that is given up: `n` bytes of it. -/
def giveUp (d : Delivery) (task : EventTask) (n : Nat) (fails : Bool) : Delivery :=
  match task.stage with
  | .header ⟨_, .writing i payload⟩ =>
    { d with client := d.client.modifyStream i fun stream => stream.giveUp payload n fails }
  | .writing i bytes =>
    { d with client := d.client.modifyStream i fun stream => stream.giveUp bytes n fails }
  | _ => d

/-- The subscription forgets the stream at once; closing it is left to a task. -/
def handleStreamClosed (d : Delivery) (streamId : StreamId) : Delivery :=
  (d.dropLastObjectId streamId).dropSkipped streamId

/-- The state part of `update_subscription`. -/
def applyUpdate (sub : Subscription) (update : Update) : Subscription :=
  let sub :=
    match update.locationFilter with
    | some filter => sub.setLocationFilter filter none
    | none => sub
  { sub with
    forward := update.forward.getD sub.forward
    rangeFilter := update.rangeFilter }

/-- The first step of `update_subscription`. What is behind it is for an update that turns
forwarding on. -/
def updateSubscription (d : Delivery) (update : Update) : Delivery × Option UpdateTask :=
  ({ d with sub := applyUpdate d.sub update },
    if update.forward = some true && !d.sub.forward then some .taking else none)

/-- A later step: the stream of the pending header is opened. -/
def openPending (d : Delivery) (task : UpdateTask) (io : Transport) :
    Delivery × Option UpdateTask :=
  match task with
  | .taking =>
    match d.sub.pendingHeader with
    | none => (d.clearPending, none)
    | some (streamId, header) =>
      (d.clearPending, some (.header streamId ⟨header.forMidSubgroupStream, .opening⟩))
  | .header streamId call =>
    match d.handleHeader call io with
    | (d, .goesOn stage) => (d, some (.header streamId { call with stage := stage }))
    | (d, .failed) => (d, none)
    | (d, .stream i) => (d, some (.resetting streamId i))
  | .resetting streamId _ => (d.resetLastObjectId streamId, none)

end Delivery

/-! The whole path. -/

/-- What happened so far and is not recorded anywhere in the program. `admitted` are the objects
admitted when they were checked, and the ones given up before that which would have been, had the
gate let them pass. `headerLost` are the streams whose header this subscription was not shown yet,
or did not keep, or which have been taken from it since. `entryOf` is the stream that the previous
Object ID under a stream id is of: the last object written to it, or none when it was opened. -/
structure History where
  admitted : List Object
  headerLost : StreamId → Bool
  entryOf : StreamId → Option Nat

namespace History

def lose (h : History) (streamId : StreamId) : History :=
  { h with headerLost := Function.update h.headerLost streamId true }

def noteEntry (h : History) (streamId : StreamId) (i : Option Nat) : History :=
  { h with entryOf := Function.update h.entryOf streamId i }

end History

/-- `closing` are the streams that a task is to close, `finishing` the ones it has taken from the
map and has yet to finish. -/
structure Forwarding where
  upstream : List UpstreamStream
  track : Track
  subscribed : Bool
  queue : List TrackEvent
  delivery : Delivery
  task : Option EventTask
  updating : Option UpdateTask
  closing : List StreamId
  finishing : List Nat
  history : History

inductive Action where
  | openUpstream (bytes : Bytes)
  | receive (u : Nat) (bytes : Bytes)
  | closeUpstream (u : Nat)
  | proceedUpstream (u : Nat)
  | subscribe
  | handle (gate : Bool)
  | proceed (io : Transport)
  | giveUpEvent (entryDropped : Bool)
  | giveUp (n : Nat) (fails : Bool)
  | update (update : Update)
  | proceedUpdate (io : Transport)
  | resolveLiveStart (largest : Option Location)
  | closeStream (k : Nat)
  | finishStream (k : Nat)

namespace Forwarding

def init (retainedGroups : Nat) (sub : Subscription) : Forwarding where
  upstream := []
  track := ⟨fun _ => none, .new retainedGroups⟩
  subscribed := false
  queue := []
  delivery := ⟨sub, ⟨[], fun _ => none⟩⟩
  task := none
  updating := none
  closing := []
  finishing := []
  history := ⟨[], fun _ => true, fun _ => none⟩

/-- `send_event_to_subscribers`. -/
def sendEvent (f : Forwarding) (event : TrackEvent) : Forwarding :=
  if f.subscribed then { f with queue := f.queue ++ [event] } else f

def openUpstream (f : Forwarding) (bytes : Bytes) : Option Forwarding :=
  match SubgroupHeader.deserialize bytes with
  | .error _ => none
  | .ok (header, _) => some { f with upstream := f.upstream ++ [⟨header, none, none, .reading⟩] }

def setUpstream (f : Forwarding) (u : Nat) (stream : UpstreamStream) : Forwarding :=
  { f with upstream := f.upstream.set u stream }

/-- The reader has read an object and asked whether it is a duplicate. -/
def receive (f : Forwarding) (u : Nat) (bytes : Bytes) : Option Forwarding :=
  match f.upstream[u]? with
  | none => none
  | some stream =>
    match stream.stage with
    | .reading =>
      match stream.readObject bytes with
      | .error _ => none
      | .ok (header, object) =>
        let streamId := stream.streamId.getD (buildStreamId header)
        let headerInfo := if stream.streamId.isNone then some header else none
        let (track, stage) := f.track.newSubgroupObject streamId object headerInfo
        some ({ f with track := track }.setUpstream u
          { header := header
            previousObjectId := some object.location.object
            streamId := some streamId
            stage := stage })
    | _ => none

/-- The reader has come to the end of its stream. -/
def closeUpstream (f : Forwarding) (u : Nat) : Option Forwarding :=
  match f.upstream[u]? with
  | none => none
  | some stream =>
    match stream.stage with
    | .reading =>
      match stream.streamId with
      | none => some (f.setUpstream u { stream with stage := .over })
      | some streamId =>
        let (track, stage) := f.track.streamClosed streamId
        some ({ f with track := track }.setUpstream u { stream with stage := stage })
    | _ => none

/-- A later step of the reader, in `new_subgroup_object` or `stream_closed`. -/
def proceedUpstream (f : Forwarding) (u : Nat) : Option Forwarding :=
  match f.upstream[u]? with
  | none => none
  | some stream =>
    match stream.stage with
    | .keeping streamId object header =>
      some ({ f with track := f.track.keepHeader streamId header }.setUpstream u
        { stream with stage := .sending (.subgroupObject streamId object (some header)) })
    | .sending (.subgroupObject streamId object headerInfo) =>
      some ((f.setUpstream u { stream with stage := .reading }).sendEvent
        (.subgroupObject streamId object headerInfo))
    | .sending (.streamClosed streamId) =>
      some ((f.setUpstream u { stream with stage := .over }).sendEvent (.streamClosed streamId))
    | _ => none

/-- The subscription joins the track. -/
def subscribe (f : Forwarding) : Option Forwarding :=
  if f.subscribed then none else some { f with subscribed := true }

/-- The streams whose header is lost once an event with `headerInfo` has had `verdict`: this
one when the header is not kept, and the one whose place a kept header takes. -/
def headerLostAfter (f : Forwarding) (streamId : StreamId) (headerInfo : Option SubgroupHeader)
    (verdict : Verdict) : StreamId → Bool :=
  match headerInfo, verdict with
  | none, _ => f.history.headerLost
  | some _, .gated => Function.update f.history.headerLost streamId true
  | some _, .pastEnd => Function.update f.history.headerLost streamId true
  | some _, .notForwarding =>
    match f.delivery.sub.pendingHeader with
    | some (pending, _) =>
      Function.update (Function.update f.history.headerLost pending true) streamId false
    | none => Function.update f.history.headerLost streamId false
  | some _, _ => Function.update f.history.headerLost streamId false

/-- The event is taken off the queue and, for an object, checked. -/
def handleEvent (f : Forwarding) (event : TrackEvent) (gate : Bool) : Forwarding :=
  match event with
  | .subgroupObject streamId object headerInfo =>
    let seen := { object with trackAlias := f.delivery.sub.trackAlias }
    let verdict := f.delivery.sub.verdict gate seen
    { f with
      delivery := { f.delivery with sub := f.delivery.sub.skip streamId headerInfo verdict }
      task := if verdict = .admitted then some ⟨streamId, seen, headerInfo, .clearing⟩ else none
      history := { f.history with
        admitted :=
          if verdict = .admitted then f.history.admitted ++ [seen] else f.history.admitted
        headerLost := f.headerLostAfter streamId headerInfo verdict } }
  | .streamClosed streamId =>
    { f with
      delivery := f.delivery.handleStreamClosed streamId
      closing := f.closing ++ [streamId]
      history := (f.history.lose streamId).noteEntry streamId none }

/-- The event is taken off the queue and given up: an object before it is checked, or while its
header is to be kept; the end of a stream before or after its previous Object ID is dropped. -/
def giveUpEvent (f : Forwarding) (event : TrackEvent) (entryDropped : Bool) : Forwarding :=
  match event with
  | .subgroupObject streamId object headerInfo =>
    let seen := { object with trackAlias := f.delivery.sub.trackAlias }
    let history := if headerInfo.isSome then f.history.lose streamId else f.history
    { f with
      history := { history with
        admitted :=
          if f.delivery.sub.verdict true seen = .admitted then f.history.admitted ++ [seen]
          else f.history.admitted } }
  | .streamClosed streamId =>
    let f := { f with history := f.history.lose streamId }
    if entryDropped then
      { f with
        delivery := f.delivery.dropLastObjectId streamId
        history := f.history.noteEntry streamId none }
    else f

/-- The entry under `streamId` has been reset for stream `i`: it is that stream's if nothing has
been written to it. -/
def entryAfterReset (f : Forwarding) (i : Nat) : Option Nat :=
  if f.delivery.client.streams[i]?.any fun stream => stream.written.isEmpty then some i else none

def losePending (f : Forwarding) : History :=
  match f.delivery.sub.pendingHeader with
  | some (pending, _) => f.history.lose pending
  | none => f.history

/-- What a step with an object in hand takes away, and what it makes of the entries. -/
def historyAfter (f : Forwarding) (task : EventTask) (next : Option EventStage) : History :=
  match task.stage with
  | .clearing => f.losePending
  | .joining => f.history
  | .header call => if next.isNone then f.history.lose (buildStreamId call.header) else f.history
  | .coding i =>
    match task.headerInfo with
    | some header => f.history.noteEntry (buildStreamId header) (f.entryAfterReset i)
    | none => f.history
  | .writing _ _ =>
    -- the entry is that of the object before until it is stored
    f.history.noteEntry task.streamId none
  | .releasing _ => f.history.lose task.streamId
  | .storing i => f.history.noteEntry task.streamId (some i)

def handleObject (f : Forwarding) (task : EventTask) (io : Transport) : Forwarding :=
  let (delivery, next) := f.delivery.handleObject f.track.activeSubgroupHeaders task io
  { f with
    delivery := delivery
    task := next.map fun stage => { task with stage := stage }
    history := f.historyAfter task next }

/-- The same for a step of an update: the header it takes is no longer kept. -/
def historyAfterUpdate (f : Forwarding) (task : UpdateTask) (next : Option UpdateTask) : History :=
  match task with
  | .taking => f.losePending
  | .header _ call => if next.isNone then f.history.lose (buildStreamId call.header) else f.history
  | .resetting streamId i => f.history.noteEntry streamId (f.entryAfterReset i)

def openPending (f : Forwarding) (task : UpdateTask) (io : Transport) : Forwarding :=
  let (delivery, next) := f.delivery.openPending task io
  { f with
    delivery := delivery
    updating := next
    history := f.historyAfterUpdate task next }

/-- A closing task takes its stream from the map, and finishes it, or resets it for the discard
timeout of SSTS, once no write holds it. -/
def closeStream (f : Forwarding) (streamId : StreamId) : Forwarding :=
  match f.delivery.client.sendStreams streamId with
  | none => f
  | some i =>
    { f with
      delivery := { f.delivery with client := f.delivery.client.takeStream streamId }
      finishing := f.finishing ++ [i]
      history := f.history.lose streamId }

def finishStream (f : Forwarding) (i : Nat) : Forwarding :=
  { f with
    delivery := { f.delivery with
      client := f.delivery.client.modifyStream i fun stream => { stream with finished := true } } }

def step (f : Forwarding) : Action → Option Forwarding
  | .openUpstream bytes => f.openUpstream bytes
  | .receive u bytes => f.receive u bytes
  | .closeUpstream u => f.closeUpstream u
  | .proceedUpstream u => f.proceedUpstream u
  | .subscribe => f.subscribe
  | .handle gate =>
    match f.task, f.queue with
    | none, event :: queue => some ({ f with queue := queue }.handleEvent event gate)
    | _, _ => none
  | .proceed io => f.task.map fun task => f.handleObject task io
  | .giveUpEvent entryDropped =>
    match f.task, f.queue with
    | none, event :: queue => some ({ f with queue := queue }.giveUpEvent event entryDropped)
    | _, _ => none
  | .giveUp n fails =>
    f.task.map fun task =>
      { f with
        delivery := f.delivery.giveUp task n fails
        task := none
        history := f.history.lose task.streamId }
  | .update update =>
    match f.updating with
    | some _ => none
    | none =>
      let (delivery, updating) := f.delivery.updateSubscription update
      some { f with delivery := delivery, updating := updating }
  | .proceedUpdate io => f.updating.map fun task => f.openPending task io
  | .resolveLiveStart largest =>
    some { f with
      delivery := { f.delivery with sub := f.delivery.sub.resolveLiveStart largest } }
  | .closeStream k =>
    match f.closing[k]? with
    | none => none
    | some streamId => some ({ f with closing := f.closing.eraseIdx k }.closeStream streamId)
  | .finishStream k =>
    match f.finishing[k]? with
    | none => none
    | some i => some ({ f with finishing := f.finishing.eraseIdx k }.finishStream i)

end Forwarding

end Moqtail
