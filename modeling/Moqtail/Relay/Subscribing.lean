import Moqtail.Lib.Run
import Moqtail.Relay.Track

/-! The subscribe machinery of the relay for one track name, as a transition system: what
`handle_subscribe_message`, `cancel_subscription` and `fail_update` do for downstream
requests, and what the `upstream_subscribe_exchange` tasks they spawn do with the publishers'
answers (`server/message_handlers/subscribe_handler.rs`), over the `TrackManager` entry of
that name; and the subscriptions that `push_track_to_subscriber` puts on the track for a
SUBSCRIBE_TRACKS (`server/message_handlers/publish_handler.rs`).

Track objects are numbered by their `relay_track_id`: the manager's entry can be replaced
while tasks still hold the object it named before. A step is what one task does between two
points at which another can run, a section under the track's `handover` lock is one step, and
a lookup by name goes with the first thing done to the track it finds. Clean-up that follows
a track's removal or retirement is a job of its own. What the peers send, whether a SSTS
assignment is refused and whether an alias already names another track are part of the action.

Left out are what an upstream FETCH brings, the sweep of unused cache-only tracks and the
requests that are refused before a track is looked up. -/
namespace Moqtail.Control

open Lib

/-! Downstream requests. -/

/-- How far the relay has come with a downstream SUBSCRIBE, or with a PUBLISH of its own. -/
inductive RequestStage where
  | unseen
  /-- `get_or_create_track` has returned. -/
  | found (track : Nat) (created : Bool) (publishers : List Nat)
  /-- The track has been taken over, if it was cache-only, and joined. -/
  | joined (track : Nat) (creator : Bool) (publishers : List Nat)
  /-- The creator, with the publishers it has yet to forward the SUBSCRIBE to. -/
  | sending (track : Nat) (publishers : List Nat)
  /-- Pending has been read; the read lock of the track is held until the push. -/
  | willWait (track : Nat)
  /-- Handled, and stored in the client's `subscribe_requests`. -/
  | handled
  /-- `cancel_subscription` has found the track and the subscription on it. -/
  | cancelling (track : Nat)
  /-- The request is a PUBLISH the relay has sent for the track. -/
  | pushed (track : Nat)
  | over
deriving Repr, DecidableEq

structure Request where
  stage : RequestStage
  streamOpen : Bool
deriving Repr, DecidableEq

inductive Answer where
  | subscribeOk
  | requestError (error : RequestError)
deriving Repr, DecidableEq

/-! Upstream exchanges. -/

inductive ExchangeStage where
  | opening
  | waiting
  /-- A SUBSCRIBE_OK has registered its alias for the track found by name. -/
  | confirming (track trackAlias : Nat)
  /-- This SUBSCRIBE_OK took the track out of Pending. -/
  | answering (track : Nat)
  /-- On the way into `handle_subscribe_error_message`; `resumes` when it was reached from
  a SUBSCRIBE_OK, after which the exchange goes on. -/
  | rejecting (error : RequestError) (resumes : Bool)
  /-- The track found by name, if any, has been rejected. -/
  | rejected (track : Option Nat) (error : RequestError) (resumes : Bool)
  | ended
deriving Repr, DecidableEq

/-- One upstream SUBSCRIBE. `track` is the object it is registered with, and `pendingRequest`
its entry in `relay_pending_requests`. -/
structure Exchange where
  publisher : Nat
  creator : SubscriptionId
  track : Option Nat
  answered : Bool
  pendingRequest : Bool
  stage : ExchangeStage
deriving Repr, DecidableEq

/-- `forward_subscribe_upstream` drops the pending request whichever way the exchange ends. -/
@[simp, grind =]
def Exchange.atEnd (e : Exchange) : Exchange := { e with pendingRequest := false, stage := .ended }

/-- Work by name that a task has yet to do. The track it was decided for is recorded with it;
the code does not keep it. -/
inductive Job where
  | retire (decidedFor : Nat)
  | cleanUp (decidedFor : Nat) (cleanup : Cleanup)
deriving Repr, DecidableEq

/-- `registered` is the manager's entry for the name and `pushing` the connections with a
PUBLISH for it that is not over. `creators` records which request last took on a track as its creator, and `answers`
what was written to request streams; no step reads these three. -/
structure State where
  tracks : Nat → Track
  nextTrackId : Nat
  registered : Option Nat
  pushing : List Nat
  requests : SubscriptionId → Request
  arrived : List SubscriptionId
  exchanges : List Exchange
  jobs : List Job
  creators : Nat → Option SubscriptionId
  answers : List (SubscriptionId × Answer)

def Track.registerExchange (track : Track) (x publisher : Nat) (malformed : Bool) : Track :=
  let track := track.registerUpstreamRequest x publisher .subscribe
  if malformed ∨ track.subscriptions = [] then track.cancelUpstreamRequest x else track

/-- Registering touches only the requests, and leaves the new one there only when the track is
in order and something is subscribed to it. -/
theorem Track.registerExchange_spec (track : Track) (x publisher : Nat) (malformed : Bool) :
    ∃ requests, track.registerExchange x publisher malformed =
        { track with upstreamRequests := requests } ∧
      ∀ q, q ∈ requests ↔ (q ∈ track.upstreamRequests ∧ q.requestId ≠ x) ∨
        (q = ⟨x, publisher, .subscribe⟩ ∧ malformed = false ∧ track.subscriptions ≠ []) := by
  by_cases h : malformed = true ∨ track.subscriptions = []
  · refine ⟨_, if_pos h, fun q => ?_⟩
    simp only [cancelUpstreamRequest, cancelMatching, registerUpstreamRequest, List.mem_filter,
      List.mem_append, List.mem_singleton]
    grind
  · refine ⟨_, if_neg h, fun q => ?_⟩
    simp only [cancelUpstreamRequest, cancelMatching, List.mem_filter,
      List.mem_append, List.mem_singleton]
    grind

namespace State

/-- Nothing has happened yet. Numbers of tracks to come stand for empty cache-only ones. -/
def initial : State where
  tracks := fun _ => Track.new .pending .cacheOnly
  nextTrackId := 0
  registered := none
  pushing := []
  requests := fun _ => ⟨.unseen, false⟩
  arrived := []
  exchanges := []
  jobs := []
  creators := fun _ => none
  answers := []

def stage (s : State) (id : SubscriptionId) : RequestStage := (s.requests id).stage

def isOpen (s : State) (id : SubscriptionId) : Bool := (s.requests id).streamOpen

@[simp, grind =]
def setTrack (s : State) (r : Nat) (track : Track) : State :=
  { s with tracks := Function.update s.tracks r track }

@[simp, grind =]
def setStage (s : State) (id : SubscriptionId) (stage : RequestStage) : State :=
  { s with requests := Function.update s.requests id ⟨stage, s.isOpen id⟩ }

@[simp, grind =]
def setExchange (s : State) (x : Nat) (e : Exchange) : State :=
  { s with exchanges := s.exchanges.set x e }

@[simp, grind =]
def addExchange (s : State) (e : Exchange) : State := { s with exchanges := s.exchanges ++ [e] }

@[simp, grind =]
def addJobs (s : State) (jobs : List Job) : State := { s with jobs := s.jobs ++ jobs }

/-- A closed request stream takes no more answers. -/
@[simp, grind =]
def sendAll (s : State) (ids : List SubscriptionId) (answer : Answer) : State :=
  { s with answers := s.answers ++ (ids.filter s.isOpen).map fun id => (id, answer) }

@[simp, grind =]
def send (s : State) (id : SubscriptionId) (answer : Answer) : State := s.sendAll [id] answer

/-! `handle_subscribe_message`. -/

@[simp, grind =]
def createTrack (s : State) (track : Track) : State :=
  { s with
    tracks := Function.update s.tracks s.nextTrackId track
    nextTrackId := s.nextTrackId + 1
    registered := some s.nextTrackId }

def getOrCreateTrack (s : State) (track : Track) : State × Nat × Bool :=
  match s.registered with
  | some r => (s, r, false)
  | none => (s.createTrack track, s.nextTrackId, true)

@[simp, grind =]
def arrive (s : State) (id : SubscriptionId) (stage : RequestStage) : State :=
  { s with
    requests := Function.update s.requests id ⟨stage, true⟩
    arrived := s.arrived ++ [id] }

/-- Request ids are not used twice in a session, and a SUBSCRIBE that matches no publisher is
answered before any track is looked up. -/
def subscribe (s : State) (id : SubscriptionId) (publishers : List Nat) : Option State :=
  if s.stage id = .unseen ∧ publishers ≠ [] then
    let (s, r, created) := s.getOrCreateTrack (Track.new .pending .subscribe)
    some (s.arrive id (.found r created publishers))
  else none

def duplicateSubscription : RequestError := ⟨.internalError, "could not add the subscription"⟩

@[simp, grind =]
def setCreator (s : State) (r : Nat) (id : SubscriptionId) (creator : Bool) : State :=
  { s with creators := if creator then Function.update s.creators r (some id) else s.creators }

/-- Under the track's `handover` lock. -/
def join (s : State) (id : SubscriptionId) : Option State :=
  match s.stage id with
  | .found r created publishers =>
    let (track, takenOver) := (s.tracks r).takeOver .subscribe .pending
    match track.addSubscription id with
    | some track =>
      let creator := created || takenOver
      some (((s.setTrack r track).setStage id (.joined r creator publishers)).setCreator r id creator)
    | none =>
      some (((s.setTrack r track).send id (.requestError duplicateSubscription)).setStage id .over)
  | _ => none

/-- `reject_subscription`, when the switching set assignment a SUBSCRIBE carries is refused
with `reason`. -/
def refuse (s : State) (id : SubscriptionId) (reason : String) : Option State :=
  match s.stage id with
  | .joined r _ _ =>
    some (((s.setTrack r ((s.tracks r).removeSubscription id)).send id
      (.requestError ⟨.unsupportedExtension, reason⟩)).setStage id .over)
  | _ => none

/-- The creator counts the requests it is about to send; any other subscriber reads the
status. -/
def proceed (s : State) (id : SubscriptionId) : Option State :=
  match s.stage id with
  | .joined r true publishers =>
    some ((s.setTrack r
      { s.tracks r with pendingUpstreamSubscribeCount := publishers.length }).setStage id
        (.sending r publishers))
  | .joined r false _ =>
    match (s.tracks r).status with
    | .confirmed => some ((s.send id .subscribeOk).setStage id .handled)
    | .rejected error => some ((s.send id (.requestError error)).setStage id .handled)
    | .pending => some (s.setStage id (.willWait r))
  | _ => none

def push (s : State) (id : SubscriptionId) : Option State :=
  match s.stage id with
  | .willWait r =>
    some ((s.setTrack r
      { s.tracks r with pendingSubscribers := (s.tracks r).pendingSubscribers ++ [id] }).setStage id
        .handled)
  | _ => none

/-- Spawns the exchange with the next publisher. Its relay request id is its number. -/
def forward (s : State) (id : SubscriptionId) : Option State :=
  match s.stage id with
  | .sending r (publisher :: rest) =>
    some ((s.addExchange ⟨publisher, id, none, false, true, .opening⟩).setStage id
      (if rest = [] then .handled else .sending r rest))
  | _ => none

/-! `cancel_subscription`, `fail_update` and the subscriber's part of
`handle_connection_close`. -/

@[simp, grind =]
def close (s : State) (id : SubscriptionId) (stage : RequestStage) : State :=
  { s with requests := Function.update s.requests id ⟨stage, false⟩ }

/-- The request stream has been closed by the subscriber. -/
def cancel (s : State) (id : SubscriptionId) : Option State :=
  match s.stage id with
  | .handled =>
    match s.registered with
    | some r => some (s.close id (if (s.tracks r).hasSubscription id then .cancelling r else .over))
    | none => some (s.close id .over)
  | .over => some (s.close id .over)
  | _ => none

/-- `remove_subscriber`, under the track's `handover` lock. -/
def leave (s : State) (id : SubscriptionId) : Option State :=
  match s.stage id with
  | .cancelling r =>
    let (track, cleanup) := (s.tracks r).removeSubscriber id
    some (((s.setTrack r track).setStage id .over).addJobs
      (if cleanup = .nothing then [] else [.cleanUp r cleanup]))
  | _ => none

/-- PUBLISH_DONE has ended the subscription; the request stream is still open. -/
def failUpdate (s : State) (id : SubscriptionId) : Option State :=
  match s.stage id with
  | .handled =>
    match s.registered with
    | some r => some ((s.setTrack r ((s.tracks r).removeSubscription id)).setStage id .over)
    | none => some (s.setStage id .over)
  | _ => none

@[simp, grind =]
def closeAll (s : State) (connection : Nat) : State :=
  { s with requests := fun id => ⟨s.stage id, s.isOpen id && id.1 != connection⟩ }

def subscriberClosed (s : State) (connection : Nat) : State :=
  match s.registered with
  | some r => (s.closeAll connection).setTrack r ((s.tracks r).removeSubscriptions connection)
  | none => s.closeAll connection

/-! Subscribers the track is pushed to. -/

/-- `push_track_to_subscriber`. The track was looked up some time before; a request id of the relay's
own is new, so the track takes the subscription. -/
def pushTrack (s : State) (id : SubscriptionId) (r : Nat) : Option State :=
  if s.stage id = .unseen ∧ r < s.nextTrackId then
    let track := ((s.tracks r).addSubscription id).getD (s.tracks r)
    some ((s.setTrack r track).arrive id (.pushed r))
  else none

/-- `end_pushed_subscription`, on a REQUEST_ERROR or the end of the stream. The task has kept the
track itself. -/
def endPushed (s : State) (id : SubscriptionId) : Option State :=
  match s.stage id with
  | .pushed r => some ((s.setTrack r ((s.tracks r).removeSubscription id)).close id .over)
  | _ => none

/-! Publishers that push the track, and what else touches its entry. -/

/-- `remove_upstream_publisher`; the alias map is that of all tracks and not part of this. -/
@[simp, grind =]
def removeUpstreamPublisher (s : State) (r connection : Nat) : State :=
  s.setTrack r ((s.tracks r).takePublisher connection).1

/-- An alias that names another track by then closes the session before the publisher is
added. -/
@[simp, grind =]
def publishOn (s : State) (r connection trackAlias : Nat) (aliasTaken : Bool) : State :=
  let track := ((s.tracks r).takeOver .publish .confirmed).1
  { s.setTrack r (if aliasTaken then track else track.addPublisher connection trackAlias) with
    pushing := if aliasTaken then s.pushing else s.pushing ++ [connection] }

/-- A PUBLISH. -/
def publish (s : State) (connection trackAlias : Nat) (aliasTaken : Bool) : State :=
  let (s, r, _) := s.getOrCreateTrack (Track.new .confirmed .publish)
  s.publishOn r connection trackAlias aliasTaken

@[simp, grind =]
def stopPushing (s : State) (connection : Nat) : State :=
  { s with pushing := s.pushing.filter (· != connection) }

/-- `cleanup_published_track`, and the publisher's part of `handle_connection_close`. -/
def publisherLeft (s : State) (connection : Nat) : State :=
  match s.registered with
  | some r =>
    match ((s.tracks r).removePublisher connection).2 with
    | some removal =>
      ((s.removeUpstreamPublisher r connection).stopPushing connection).addJobs
        (if removal.stillServed then [] else [.retire r])
    | none => s
  | none => s

/-- `handle_malformed_upstream_fetch` up to the removal, which goes by the name. -/
def malformedFetch (s : State) (r connection : Nat) : Option State :=
  if r < s.nextTrackId then
    let (track, stillServed) :=
      (s.tracks r).cancelForMalformedPublisher.removePublisherQuietly connection
    some ((s.setTrack r track.detachAll).addJobs
      (if track.origin = .subscribe ∨ stillServed = false then [.cleanUp r .removeTrack] else []))
  else none

/-- A FETCH of a track the relay does not have. -/
def fetchTrack (s : State) : State := (s.getOrCreateTrack (Track.new .pending .cacheOnly)).1

def cacheChanges (s : State) (r : Nat) (isEmpty : Bool) : State :=
  s.setTrack r { s.tracks r with cacheIsEmpty := isEmpty }

@[simp, grind =]
def dropJob (s : State) (i : Nat) : State := { s with jobs := s.jobs.eraseIdx i }

@[simp, grind =]
def removeTrack (s : State) : State := { s with registered := none }

/-- `retire_track` and `clean_up`, which both go by the name. -/
def runJob (s : State) (i : Nat) : Option State :=
  match s.jobs[i]? with
  | some (.retire _) =>
    let s := s.dropJob i
    match s.registered with
    | some r =>
      let (track, cleanup) := (s.tracks r).retire
      some ((s.setTrack r track).addJobs [.cleanUp r cleanup])
    | none => some s
  | some (.cleanUp _ cleanup) =>
    let s := s.dropJob i
    some (if cleanup = .removeTrack then s.removeTrack else s)
  | none => none

/-! `upstream_subscribe_exchange`. -/

@[simp, grind =]
def endExchange (s : State) (x : Nat) (e : Exchange) : State := s.setExchange x e.atEnd

/-- The cancel channel of the exchange has not fired. -/
def uncancelled (s : State) (x : Nat) (e : Exchange) : Bool :=
  match e.track with
  | some r => (s.tracks r).upstreamRequests.any (·.requestId == x)
  | none => false

/-- The SUBSCRIBE has been sent: register with the track, under its `handover` lock, and give
up at once when the publisher's track is malformed or nothing is subscribed any more. -/
def register (s : State) (x : Nat) (malformed : Bool) : Option State :=
  match s.exchanges[x]? with
  | some e =>
    if e.stage = .opening then
      match s.registered with
      | some r =>
        some ((s.setTrack r ((s.tracks r).registerExchange x e.publisher malformed)).setExchange x
          { e with track := some r, stage := .waiting })
      | none => some (s.endExchange x e)
    else none
  | none => none

/-- `cleanup_cancelled_upstream_subscription`, once the cancel channel has fired. -/
def observeCancel (s : State) (x : Nat) : Option State :=
  match s.exchanges[x]? with
  | some e =>
    if e.stage = .waiting ∧ !s.uncancelled x e then
      match s.registered with
      | some r =>
        if e.answered then some ((s.removeUpstreamPublisher r e.publisher).endExchange x e)
        else some ((s.setTrack r (s.tracks r).upstreamSubscribeAnswered).endExchange x e)
      | none => some (s.endExchange x e)
    else none
  | none => none

/-- `end_upstream_subscription`. -/
def endUpstreamSubscription (s : State) (x : Nat) (e : Exchange) (error : RequestError) : State :=
  match s.registered with
  | some r =>
    let track := (s.tracks r).upstreamSubscribeAnswered
    let s := s.setTrack r track
    if track.status = .confirmed then (s.removeUpstreamPublisher r e.publisher).endExchange x e
    else if track.pendingUpstreamSubscribeCount > 0 then s.endExchange x e
    else s.setExchange x { e with stage := .rejecting error false }
  | none => s.setExchange x { e with stage := .rejecting error false }

end State

/-- What ends an exchange without a SUBSCRIBE_OK. -/
inductive UpstreamFailure where
  | notSent
  | timeout
  | declined (error : RequestError)
  | requestUpdate
  | unexpectedMessage
  | streamClosed
deriving Repr, DecidableEq

namespace UpstreamFailure

def upstreamSubscriptionFailed : RequestError := ⟨.internalError, "Upstream subscription failed"⟩

def toRequestError : UpstreamFailure → RequestError
  | .notSent | .requestUpdate | .streamClosed => upstreamSubscriptionFailed
  | .timeout => ⟨.timeout, "Publisher did not answer the subscribe"⟩
  | .declined error => error
  | .unexpectedMessage => ⟨.internalError, "Unexpected message on upstream subscription stream"⟩

end UpstreamFailure

namespace State

open UpstreamFailure

/-- The select loop looks at the cancel channel first, so nothing else is taken up once it
has fired. Only the first response has a deadline. -/
def fail (s : State) (x : Nat) (failure : UpstreamFailure) : Option State :=
  match s.exchanges[x]? with
  | some e =>
    if failure = .notSent then
      if e.stage = .opening then some (s.endUpstreamSubscription x e failure.toRequestError) else none
    else if e.stage = .waiting ∧ s.uncancelled x e ∧ (failure = .timeout → !e.answered) then
      some (s.endUpstreamSubscription x e failure.toRequestError)
    else none
  | none => none

def unsupportedMandatory : RequestError :=
  ⟨.unsupportedExtension, "Unsupported mandatory track property"⟩

/-- `handle_subscribe_ok_message` up to the registration of the alias. -/
def subscribeOk (s : State) (x trackAlias : Nat) (unsupported aliasTaken : Bool) : Option State :=
  match s.exchanges[x]? with
  | some e =>
    if e.stage = .waiting ∧ s.uncancelled x e then
      let e := { e with answered := true }
      if !e.pendingRequest then some (s.setExchange x e)
      else if unsupported then
        some (s.setExchange x { e with stage := .rejecting unsupportedMandatory true })
      else
        match s.registered with
        | some r =>
          if (s.tracks r).origin = .cacheOnly then some (s.setExchange x e)
          else if aliasTaken then some (s.endUpstreamSubscription x e upstreamSubscriptionFailed)
          else some (s.setExchange x { e with stage := .confirming r trackAlias })
        | none => some (s.setExchange x e)
    else none
  | none => none

/-- Takes the track's write lock, so no subscriber is between its read and its push. -/
def confirm (s : State) (x : Nat) : Option State :=
  match s.exchanges[x]? with
  | some e =>
    match e.stage with
    | .confirming r trackAlias =>
      if s.arrived.all fun id => s.stage id != .willWait r then
        let (track, confirmedNow) := (s.tracks r).confirm e.publisher trackAlias
        some ((s.setTrack r track.upstreamSubscribeAnswered).setExchange x
          { e with stage := if confirmedNow then .answering r else .waiting })
      else none
    | _ => none
  | none => none

/-- SUBSCRIBE_OK to the creator and to the pending subscribers that are still there. -/
def answer (s : State) (x : Nat) : Option State :=
  match s.exchanges[x]? with
  | some e =>
    match e.stage with
    | .answering r =>
      let track := s.tracks r
      let answered := (e.creator :: track.pendingSubscribers).filter track.hasSubscription
      some (((s.sendAll answered .subscribeOk).setTrack r
        { track with pendingSubscribers := [] }).setExchange x { e with stage := .waiting })
    | _ => none
  | none => none

/-- Where an exchange goes on after `handle_subscribe_error_message`. -/
@[simp, grind =]
def afterError (s : State) (x : Nat) (e : Exchange) (resumes : Bool) : State :=
  s.setExchange x (if resumes then { e with stage := .waiting } else e.atEnd)

/-- The first part of `handle_subscribe_error_message`, up to the track's rejection. -/
def reject (s : State) (x : Nat) : Option State :=
  match s.exchanges[x]? with
  | some e =>
    match e.stage with
    | .rejecting error resumes =>
      if !e.pendingRequest then some (s.afterError x e resumes)
      else
        let e := { e with pendingRequest := false }
        match s.registered with
        | some r =>
          if (s.tracks r).origin = .cacheOnly then some (s.afterError x e resumes)
          else
            some ((s.setTrack r ((s.tracks r).reject error)).setExchange x
              { e with stage := .rejected (some r) error resumes })
        | none => some (s.setExchange x { e with stage := .rejected none error resumes })
    | _ => none
  | none => none

/-- REQUEST_ERROR to the creator and to every pending subscriber. -/
def answerError (s : State) (x : Nat) : Option State :=
  match s.exchanges[x]? with
  | some e =>
    match e.stage with
    | .rejected (some r) error resumes =>
      let track := s.tracks r
      let s := s.sendAll (e.creator :: track.pendingSubscribers) (.requestError error)
      let s := (s.setTrack r { track with pendingSubscribers := [] }).addJobs [.retire r]
      some (s.afterError x e resumes)
    | .rejected none error resumes =>
      some ((s.send e.creator (.requestError error)).afterError x e resumes)
    | _ => none
  | none => none

/-- PUBLISH_DONE on the upstream request stream. The publisher leaves the track quietly; the
alias map and the status are left alone. -/
def publishDone (s : State) (x : Nat) : Option State :=
  match s.exchanges[x]? with
  | some e =>
    if e.stage = .waiting ∧ s.uncancelled x e then
      let e := { e with answered := true }
      match s.registered with
      | some r =>
        some ((s.setTrack r ((s.tracks r).removePublisherQuietly e.publisher).1).endExchange x e)
      | none => some (s.endExchange x e)
    else none
  | none => none

end State

inductive Action where
  | subscribe (id : SubscriptionId) (publishers : List Nat)
  | join (id : SubscriptionId)
  | refuse (id : SubscriptionId) (reason : String)
  | proceed (id : SubscriptionId)
  | push (id : SubscriptionId)
  | forward (id : SubscriptionId)
  | cancel (id : SubscriptionId)
  | leave (id : SubscriptionId)
  | failUpdate (id : SubscriptionId)
  | subscriberClosed (connection : Nat)
  | pushTrack (id : SubscriptionId) (track : Nat)
  | endPushed (id : SubscriptionId)
  | malformedFetch (track connection : Nat)
  | publish (connection trackAlias : Nat) (aliasTaken : Bool)
  | publisherLeft (connection : Nat)
  | fetchTrack
  | cacheChanges (track : Nat) (isEmpty : Bool)
  | runJob (i : Nat)
  | register (x : Nat) (malformed : Bool)
  | observeCancel (x : Nat)
  | fail (x : Nat) (failure : UpstreamFailure)
  | subscribeOk (x trackAlias : Nat) (unsupported aliasTaken : Bool)
  | confirm (x : Nat)
  | answer (x : Nat)
  | reject (x : Nat)
  | answerError (x : Nat)
  | publishDone (x : Nat)
deriving Repr, DecidableEq

def step (s : State) : Action → Option State
  | .subscribe id publishers => s.subscribe id publishers
  | .join id => s.join id
  | .refuse id reason => s.refuse id reason
  | .proceed id => s.proceed id
  | .push id => s.push id
  | .forward id => s.forward id
  | .cancel id => s.cancel id
  | .leave id => s.leave id
  | .failUpdate id => s.failUpdate id
  | .subscriberClosed connection => some (s.subscriberClosed connection)
  | .pushTrack id r => s.pushTrack id r
  | .endPushed id => s.endPushed id
  | .malformedFetch r connection => s.malformedFetch r connection
  | .publish connection trackAlias aliasTaken => some (s.publish connection trackAlias aliasTaken)
  | .publisherLeft connection => some (s.publisherLeft connection)
  | .fetchTrack => some s.fetchTrack
  | .cacheChanges r isEmpty => some (s.cacheChanges r isEmpty)
  | .runJob i => s.runJob i
  | .register x malformed => s.register x malformed
  | .observeCancel x => s.observeCancel x
  | .fail x failure => s.fail x failure
  | .subscribeOk x trackAlias unsupported aliasTaken =>
    s.subscribeOk x trackAlias unsupported aliasTaken
  | .confirm x => s.confirm x
  | .answer x => s.answer x
  | .reject x => s.reject x
  | .answerError x => s.answerError x
  | .publishDone x => s.publishDone x

end Moqtail.Control
