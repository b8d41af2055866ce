import Moqtail.Lib.Run

/-! The subscriptions of the TypeScript client and the data streams it reads for them, as a transition
system: `subscribe`, `switch`, `unsubscribe`, `completeSubscription` and `#handleRecvStreams` of
`client/client.ts`, `Subscription` of `client/request/subscribe.ts`, `client/handler/publish_done.ts`.

A request is named by its Request ID, and a `Subscription` by the request it was made for. A step is
what runs until the code awaits the peer, the application or a timer; what `subscribe` and `switch` do
with an answer runs in the turn that brings it, before any data stream's next. What `onDrainDecision`
says of an Object comes with the Object. Left out are the request streams, the subscriptions that a
PUBLISH brings, and the end of the session. -/
namespace Moqtail.Ts.Receiving

open Lib Function

structure SubscribeRequest where
  streamsAccepted : Nat
  expectedStreams : Option Nat
  manager : Nat
deriving Repr, DecidableEq

/-- What `completeSubscription` asks for without `force`: a count of 0 is falsy, as none is. -/
def SubscribeRequest.counted (request : SubscribeRequest) : Bool :=
  match request.expectedStreams with
  | none => false
  | some expectedStreams => expectedStreams ≠ 0 && request.streamsAccepted ≥ expectedStreams

/-! `Subscription`. -/

/-- `tracked` is the field `#requests`. -/
structure Subscription where
  tracked : List Nat
  draining : List Nat
  drainsSuperseded : List Nat
deriving Repr, DecidableEq

namespace Subscription

def new (initial : Nat) : Subscription := ⟨[initial], [], []⟩

def requests (m : Subscription) : List Nat := m.tracked ++ m.draining

def newest (m : Subscription) : Option Nat := m.tracked.getLast?

def addSwitchTarget (m : Subscription) (request : Nat) (drainSuperseded : Bool) : Subscription where
  tracked := m.tracked ++ [request]
  draining := m.draining
  drainsSuperseded := if drainSuperseded then m.drainsSuperseded ++ [request] else m.drainsSuperseded

def clearDrain (m : Subscription) (request : Nat) : Subscription :=
  { m with draining := m.draining.filter (· ≠ request) }

def keepDraining (m : Subscription) (request : Nat) : Subscription :=
  { m.clearDrain request with draining := (m.clearDrain request).draining ++ [request] }

def drop (m : Subscription) (request : Nat) : Subscription :=
  { m.clearDrain request with tracked := m.tracked.filter (· ≠ request) }

def clear (m : Subscription) : Subscription := { m with tracked := [], draining := [] }

/-- What the first Object of the newest request does, and what `onSuperseded` is called with. -/
def handover (m : Subscription) (request : Nat) : Subscription × List Nat :=
  if m.newest = some request ∧ m.tracked.length > 1 then
    let superseded := m.tracked.dropLast
    let m := { m with tracked := [request] }
    if request ∈ m.drainsSuperseded then (superseded.foldl keepDraining m, []) else (m, superseded)
  else (m, [])

end Subscription

/-! The client. -/

variable {α : Type}

/-- The controller of a request's stream, with what was enqueued and the data stream it came on. -/
structure Controller (α : Type) where
  enqueued : List (Nat × α)
  closed : Bool
deriving Repr, DecidableEq

/-- How far `#handleRecvStreams` is with a data stream. -/
inductive Phase where
  | waiting (trackAlias : Nat)
  | reading (request : Nat)
  /-- An Object was not consumed, and `stopSending` is awaited. -/
  | stopping (request : Nat)
  | over
deriving Repr, DecidableEq

/-- `requests` are the keys of the client's map, `request` and `subscription` the objects. `awaiting`
are the requests that `subscribe` has no answer to yet, with the `Subscription` that `switch` adds the
request to and whether it drains, and `answered` those it has resolved with. `unsubscribing` are the
calls that have yet to come to their end, with what they found to be unsubscribed from. -/
structure Client (α : Type) where
  nextRequestId : Nat
  requests : List Nat
  request : Nat → SubscribeRequest
  subscription : Nat → Subscription
  controller : Nat → Controller α
  subscriptions : Nat → Option Nat
  subscriptionAliasMap : Nat → Option Nat
  awaiting : List (Nat × Option (Nat × Bool))
  answered : List Nat
  unsubscribing : List (Nat × List Nat)
  streams : List Phase

inductive Action (α : Type) where
  | subscribe
  | switch (switchFromRequestId : Nat) (soft : Bool)
  | subscribeOk (requestId trackAlias : Nat)
  | requestError (requestId : Nat)
  | acceptSubgroup (trackAlias : Nat)
  | acceptFill (requestId : Nat)
  /-- The track alias was named, or `trackAliasResolutionTimeoutMs` has passed. -/
  | resume (stream : Nat)
  | object (stream : Nat) (object : α) (onDrainDecision : Bool)
  /-- The end of the stream, or `subgroupReceiveTimeout`. -/
  | done (stream : Nat)
  | failed (stream : Nat)
  | stopped (stream : Nat)
  | publishDone (requestId streamCount : Nat)
  | drainTimeout (subscription request : Nat)
  | unsubscribe (requestId : Nat)
  | unsubscribed (call : Nat)
  /-- The application cancels the stream that `subscribe` has given it. -/
  | cancel (subscription : Nat)
deriving Repr

namespace Client

def new : Client α where
  nextRequestId := 0
  requests := []
  request r := ⟨0, none, r⟩
  subscription _ := ⟨[], [], []⟩
  controller _ := ⟨[], false⟩
  subscriptions _ := none
  subscriptionAliasMap _ := none
  awaiting := []
  answered := []
  unsubscribing := []
  streams := []

def manager (s : Client α) (request : Nat) : Nat := (s.request request).manager

/-! The client's tables. -/

/-- The stream and the `Subscription` of a request are made with it. -/
def openRequest (s : Client α) (switchTo : Option (Nat × Bool)) : Client α :=
  { s with
    nextRequestId := s.nextRequestId + 2
    requests := s.requests ++ [s.nextRequestId]
    request := update s.request s.nextRequestId ⟨0, none, s.nextRequestId⟩
    subscription := update s.subscription s.nextRequestId (.new s.nextRequestId)
    controller := update s.controller s.nextRequestId ⟨[], false⟩
    awaiting := s.awaiting ++ [(s.nextRequestId, switchTo)] }

def claimTrackAlias (s : Client α) (trackAlias holder : Nat) : Client α :=
  { s with
    subscriptions := update s.subscriptions trackAlias (some holder)
    subscriptionAliasMap := update s.subscriptionAliasMap holder (some trackAlias) }

def releaseTrackAlias (s : Client α) (holder : Nat) : Client α :=
  match s.subscriptionAliasMap holder with
  | none => s
  | some trackAlias =>
    { s with
      subscriptionAliasMap := update s.subscriptionAliasMap holder none
      subscriptions :=
        if s.subscriptions trackAlias = some holder then update s.subscriptions trackAlias none
        else s.subscriptions }

/-- What `#retireSwitchedRequest`, `completeSubscription` and `unsubscribe` have in common. -/
def forget (s : Client α) (request : Nat) : Client α :=
  ({ s with requests := s.requests.filter (· ≠ request) }).releaseTrackAlias request

def setRequest (s : Client α) (request : Nat) (q : SubscribeRequest) : Client α :=
  { s with request := update s.request request q }

def setController (s : Client α) (m : Nat) (controller : Controller α) : Client α :=
  { s with controller := update s.controller m controller }

def setSubscription (s : Client α) (m : Nat) (subscription : Subscription) : Client α :=
  { s with subscription := update s.subscription m subscription }

def setStream (s : Client α) (stream : Nat) (phase : Phase) : Client α :=
  { s with streams := s.streams.set stream phase }

/-! What becomes of a request. -/

/-- `close` throws where the controller is closed. -/
def completeSubscription (s : Client α) (request : Nat) (force : Bool) : Client α :=
  if force || (s.request request).counted then
    let m := s.manager request
    let owner := (s.subscription m).drop request
    let s := s.setSubscription m owner
    if owner.requests.isEmpty then
      if (s.controller m).closed then s
      else
        (s.setController m { s.controller m with closed := true }).forget request
    else s.forget request
  else s

/-- SUBSCRIBE_OK: the request is on the `Subscription` it is to switch from here on. -/
def answer (s : Client α) (requestId trackAlias : Nat) (switchTo : Option (Nat × Bool)) : Client α :=
  let s := { s.claimTrackAlias trackAlias requestId with
    awaiting := s.awaiting.filter (·.1 ≠ requestId)
    answered := s.answered ++ [requestId] }
  match switchTo with
  | none => s
  | some (m, drains) =>
    (s.setSubscription m ((s.subscription m).addSwitchTarget requestId drains)).setRequest requestId
      { s.request requestId with manager := m }

/-! Data streams. -/

def accept (s : Client α) (request : Nat) : Client α :=
  s.setRequest request
    { s.request request with streamsAccepted := (s.request request).streamsAccepted + 1 }

/-- `enqueue` throws where the controller is closed, and then nothing more is read. -/
def enqueue (s : Client α) (request stream : Nat) (object : α) : Client α × Phase :=
  let m := s.manager request
  if (s.controller m).closed then (s, .over)
  else
    (s.setController m
        { s.controller m with enqueued := (s.controller m).enqueued ++ [(stream, object)] },
      .reading request)

/-- `deliver`, and how it goes on with the data stream. -/
def deliver (s : Client α) (request stream : Nat) (object : α) (onDrainDecision : Bool) :
    Client α × Phase :=
  let m := s.manager request
  let owner := s.subscription m
  if request ∈ owner.draining then
    if onDrainDecision then
      (s.setSubscription m (owner.keepDraining request)).enqueue request stream object
    else (s, .stopping request)
  else if request ∉ owner.tracked then (s, .stopping request)
  else
    let (owner, superseded) := owner.handover request
    (superseded.foldl forget (s.setSubscription m owner)).enqueue request stream object

/-! Steps. -/

def step (s : Client α) : Action α → Option (Client α)
  | .subscribe => some (s.openRequest none)
  | .switch switchFromRequestId soft =>
    if switchFromRequestId ∈ s.requests ∧ switchFromRequestId ∈ s.answered then
      some (s.openRequest (some (s.manager switchFromRequestId, soft)))
    else none
  | .subscribeOk requestId trackAlias => do
    let call ← s.awaiting.find? (·.1 = requestId)
    if requestId ∈ s.requests then some (s.answer requestId trackAlias call.2) else none
  | .requestError requestId => do
    let _ ← s.awaiting.find? (·.1 = requestId)
    if requestId ∈ s.requests then
      some { s with
        requests := s.requests.filter (· ≠ requestId)
        awaiting := s.awaiting.filter (·.1 ≠ requestId) }
    else none
  | .acceptSubgroup trackAlias =>
    match s.subscriptions trackAlias with
    | none => some { s with streams := s.streams ++ [.waiting trackAlias] }
    | some request =>
      some { s.accept request with streams := s.streams ++ [.reading request] }
  | .acceptFill requestId =>
    if requestId ∈ s.requests then
      some { s.accept requestId with streams := s.streams ++ [.reading requestId] }
    else some { s with streams := s.streams ++ [.over] }
  | .resume stream =>
    match s.streams[stream]? with
    | some (.waiting trackAlias) =>
      match s.subscriptions trackAlias with
      | none => some (s.setStream stream .over)
      | some request => some ((s.accept request).setStream stream (.reading request))
    | _ => none
  | .object stream object onDrainDecision =>
    match s.streams[stream]? with
    | some (.reading request) =>
      let (s, phase) := s.deliver request stream object onDrainDecision
      some (s.setStream stream phase)
    | _ => none
  | .done stream =>
    match s.streams[stream]? with
    | some (.reading request) => some ((s.completeSubscription request false).setStream stream .over)
    | _ => none
  | .failed stream => if stream < s.streams.length then some (s.setStream stream .over) else none
  | .stopped stream =>
    match s.streams[stream]? with
    | some (.stopping request) => some ((s.completeSubscription request true).setStream stream .over)
    | _ => none
  | .publishDone requestId streamCount =>
    if requestId ∈ s.requests then
      some ((s.setRequest requestId
        { s.request requestId with expectedStreams := some streamCount }).completeSubscription
          requestId false)
    else none
  | .drainTimeout m request =>
    if request ∈ (s.subscription m).draining then
      some ((s.setSubscription m ((s.subscription m).clearDrain request)).forget request)
    else none
  | .unsubscribe requestId =>
    if requestId ∈ s.requests ∧ requestId ∈ s.answered then
      some { s with unsubscribing := s.unsubscribing ++
        [(s.manager requestId, (s.subscription (s.manager requestId)).requests)] }
    else none
  | .unsubscribed call => do
    let (m, targets) ← s.unsubscribing[call]?
    let s := { targets.foldl forget s with unsubscribing := s.unsubscribing.eraseIdx call }
    some (s.setSubscription m (s.subscription m).clear)
  | .cancel m =>
    if m ∈ s.answered then some (s.setController m { s.controller m with closed := true }) else none

end Client

end Moqtail.Ts.Receiving
