import Moqtail.Lib.Run
import Moqtail.Wire.CombinedFilter

/-! SUBSCRIBE_NAMESPACE and SUBSCRIBE_TRACKS in the relay, as a transition system: the tasks that
serve their request streams (`server/request_stream.rs`, `server/prefix_subscription.rs` and the
two handlers), over the registry of the `TrackManager` and the `inbound_requests` of the clients.

A step is what one task does between two points at which another can run, so each section under a
lock is a step of its own. The registry is one list of its entries in the order they were pushed;
its map groups them by prefix. A channel is named by the request stream that drains it.

Left out are what is sent on the streams, the clean-up of a closed connection and the requests of
other kinds, which share `inbound_requests` under Request IDs of their own. -/
namespace Moqtail.Prefixes

open Lib

inductive SubscribeKind where
  | namespaces
  | tracks
deriving Repr, DecidableEq

/-- `namespacePrefix` is the key of the map the subscriber is stored under. -/
structure NamespaceSubscriber where
  namespacePrefix : Tuple
  connectionId : Nat
  kind : SubscribeKind
  parameters : List MessageParameter
  namespaceTx : Nat
deriving Repr

/-- The message of either kind, which is also what `inbound_requests` keeps of it. -/
structure PrefixRequest where
  kind : SubscribeKind
  requestId : UInt64
  trackNamespacePrefix : Tuple
  parameters : List MessageParameter
deriving Repr

/-! The registry of the `TrackManager`. -/

def namespacePrefixesOverlap (a b : Tuple) : Bool := a = b || a.startsWith b || b.startsWith a

namespace NamespaceSubscriber

def isOf (e : NamespaceSubscriber) (connectionId : Nat) (kind : SubscribeKind) : Bool :=
  e.connectionId = connectionId && e.kind = kind

/-- Whether the entry is the one of the connection and kind under the prefix. -/
def isAt (e : NamespaceSubscriber) (front : Tuple) (connectionId : Nat) (kind : SubscribeKind) :
    Bool :=
  e.namespacePrefix = front && e.isOf connectionId kind

end NamespaceSubscriber

/-- Changes the first element that meets `p`. -/
def modifyFirst {α : Type} (p : α → Bool) (f : α → α) : List α → List α
  | [] => []
  | a :: l => if p a then f a :: l else a :: modifyFirst p f l

namespace Registry

def addNamespaceSubscriber (subs : List NamespaceSubscriber) (front : Tuple) (connectionId : Nat)
    (kind : SubscribeKind) (parameters : List MessageParameter) (namespaceTx : Nat) :
    List NamespaceSubscriber :=
  if subs.any (·.isAt front connectionId kind) then subs
  else subs ++ [⟨front, connectionId, kind, parameters, namespaceTx⟩]

def removeNamespaceSubscriberByPrefix (subs : List NamespaceSubscriber) (front : Tuple)
    (connectionId : Nat) (kind : SubscribeKind) : List NamespaceSubscriber :=
  subs.filter fun e => ! e.isAt front connectionId kind

/-- The first entry of the connection under the prefix is updated, whatever its kind. -/
def updateNamespaceSubscriptionParameters (subs : List NamespaceSubscriber) (front : Tuple)
    (connectionId : Nat) (newParameters : List MessageParameter) : List NamespaceSubscriber :=
  modifyFirst (fun e => e.namespacePrefix = front && e.connectionId = connectionId)
    (fun e => { e with parameters := applyMessageParameterUpdate e.parameters newParameters }) subs

def findOverlappingNamespaceSubscription (subs : List NamespaceSubscriber) (connectionId : Nat)
    (newPrefix : Tuple) (kind : SubscribeKind) (exclude : Option Tuple) : Option Tuple :=
  (subs.find? fun e => exclude ≠ some e.namespacePrefix && e.isOf connectionId kind &&
    namespacePrefixesOverlap newPrefix e.namespacePrefix).map (·.namespacePrefix)

/-- The entry is taken out and pushed under the new prefix, without a look at what is there. -/
def rekeyNamespaceSubscriber (subs : List NamespaceSubscriber) (oldPrefix newPrefix : Tuple)
    (connectionId : Nat) (kind : SubscribeKind) : List NamespaceSubscriber :=
  match subs.find? (·.isAt oldPrefix connectionId kind) with
  | none => subs
  | some e => subs.eraseP (·.isAt oldPrefix connectionId kind) ++
      [{ e with namespacePrefix := newPrefix }]

end Registry

/-! The request streams. -/

/-- How far an update has come: what it targets has been read, the move and the filters have been
let through, the stored request has been changed, and then the registry's parameters. -/
inductive UpdateStage where
  | targeted
  | moveAllowed
  | filtersAllowed
  | stored
  | updated
deriving Repr, DecidableEq

inductive Stage where
  /-- The handler has found nothing to refuse the request for. -/
  | checked (request : PrefixRequest)
  | registered (request : PrefixRequest)
  /-- The request is in `inbound_requests`. -/
  | accepted
  /-- The handler has returned, and the task waits for what comes next. -/
  | serving
  | updating (stage : UpdateStage) (current : Tuple) (kind : SubscribeKind)
      (parameters : List MessageParameter)
  /-- `cancel` has taken the request out of `inbound_requests`. -/
  | cancelling (front : Tuple) (kind : SubscribeKind)
  | ended
deriving Repr

structure RequestStream where
  connectionId : Nat
  requestId : UInt64
  stage : Stage
deriving Repr

structure State where
  namespaceSubscribers : List NamespaceSubscriber
  inboundRequests : Nat → UInt64 → Option PrefixRequest
  streams : Nat → Option RequestStream

inductive Action where
  /-- A request opens a stream, and its handler checks it. -/
  | request (i connectionId : Nat) (request : PrefixRequest)
  /-- The task of the stream takes its next step. -/
  | proceed (i : Nat)
  /-- A message of the handler cannot be sent: the task ends, with nothing cancelled. -/
  | sendFails (i : Nat)
  | update (i : Nat) (parameters : List MessageParameter)
  /-- The peer closes the stream, or a message from the channel cannot be sent on it. -/
  | close (i : Nat)
  /-- Nothing in the registry holds the channel's sender any more. -/
  | channelDropped (i : Nat)
deriving Repr

namespace State

def initial : State := ⟨[], fun _ _ => none, fun _ => none⟩

def setStage (s : State) (i : Nat) (stream : RequestStream) (stage : Stage) : State :=
  { s with streams := Function.update s.streams i (some { stream with stage := stage }) }

/-- The record of a stream's request. -/
def record (s : State) (stream : RequestStream) : Option PrefixRequest :=
  s.inboundRequests stream.connectionId stream.requestId

def setRecord (s : State) (stream : RequestStream) (request : Option PrefixRequest) : State :=
  { s with
    inboundRequests := Function.update s.inboundRequests stream.connectionId
      (Function.update (s.inboundRequests stream.connectionId) stream.requestId request) }

def setSubscribers (s : State) (subs : List NamespaceSubscriber) : State :=
  { s with namespaceSubscribers := subs }

end State

def maxNamespacePrefixFields : Nat := 32

/-- Whether there is an `oversized_namespace_error`. -/
def oversizedNamespace (front : Tuple) : Bool := front.fields.length > maxNamespacePrefixFields

def requestedPrefix (parameters : List MessageParameter) : Option Tuple :=
  parameters.findSome? fun p => match p with
    | .trackNamespacePrefix front => some front
    | _ => none

section

variable (maxFilterRanges : Nat)

/-- Whether a handler refuses the request with a REQUEST_ERROR. -/
def refused (subs : List NamespaceSubscriber) (connectionId : Nat) (request : PrefixRequest) :
    Bool :=
  oversizedNamespace request.trackNamespacePrefix ||
    (request.kind = .tracks && ! (tracksFilter request.parameters maxFilterRanges).isOk) ||
    (Registry.findOverlappingNamespaceSubscription subs connectionId request.trackNamespacePrefix
      request.kind none).isSome

def prefixMoveRejected (subs : List NamespaceSubscriber) (connectionId : Nat)
    (currentPrefix : Tuple) (kind : SubscribeKind) (newPrefix : Tuple) : Bool :=
  oversizedNamespace newPrefix ||
    (Registry.findOverlappingNamespaceSubscription subs connectionId newPrefix kind
      (some currentPrefix)).isSome

def updateFiltersRejected (record : Option PrefixRequest) (kind : SubscribeKind)
    (parameters : List MessageParameter) : Bool :=
  match kind with
  | .tracks =>
    let current := match record with
      | some ⟨.tracks, _, _, current⟩ => current
      | _ => []
    ! (updatedTracksFilter current parameters maxFilterRanges).isOk
  | .namespaces => ! (checkFilterRangeLimit parameters 0).isOk

/-- The request that an update leaves stored. -/
def PrefixRequest.updated (request : PrefixRequest) (parameters : List MessageParameter) :
    PrefixRequest :=
  { request with
    parameters := applyMessageParameterUpdate request.parameters parameters
    trackNamespacePrefix := (requestedPrefix parameters).getD request.trackNamespacePrefix }

/-- The next step of a stream's task, from its stage. -/
def proceed (s : State) (i : Nat) (stream : RequestStream) : Option State :=
  match stream.stage with
  | .checked request =>
    some ((s.setStage i stream (.registered request)).setSubscribers
      (Registry.addNamespaceSubscriber s.namespaceSubscribers request.trackNamespacePrefix
        stream.connectionId request.kind request.parameters i))
  | .registered request =>
    some ((s.setStage i stream .accepted).setRecord stream (some request))
  | .accepted => some (s.setStage i stream .serving)
  | .updating .targeted current kind parameters =>
    some (s.setStage i stream
      (if (requestedPrefix parameters).any
          (prefixMoveRejected s.namespaceSubscribers stream.connectionId current kind) then .serving
        else .updating .moveAllowed current kind parameters))
  | .updating .moveAllowed current kind parameters =>
    some (s.setStage i stream
      (if updateFiltersRejected maxFilterRanges (s.record stream) kind parameters then .serving
        else .updating .filtersAllowed current kind parameters))
  | .updating .filtersAllowed current kind parameters =>
    some ((s.setStage i stream (.updating .stored current kind parameters)).setRecord stream
      ((s.record stream).map (·.updated parameters)))
  | .updating .stored current kind parameters =>
    some ((s.setStage i stream (.updating .updated current kind parameters)).setSubscribers
      (Registry.updateNamespaceSubscriptionParameters s.namespaceSubscribers current
        stream.connectionId parameters))
  | .updating .updated current kind parameters =>
    some ((s.setStage i stream .serving).setSubscribers
      (match requestedPrefix parameters with
      | none => s.namespaceSubscribers
      | some newPrefix => Registry.rekeyNamespaceSubscriber s.namespaceSubscribers current newPrefix
          stream.connectionId kind))
  | .cancelling front kind =>
    some ((s.setStage i stream .ended).setSubscribers
      (Registry.removeNamespaceSubscriberByPrefix s.namespaceSubscribers front stream.connectionId
        kind))
  | .serving | .ended => none

/-- What a `serving` stream's task does with an update. Without a record to apply it to, it is
refused, and the task waits on. -/
def receiveUpdate (s : State) (i : Nat) (stream : RequestStream)
    (parameters : List MessageParameter) : Option State :=
  match s.record stream with
  | some request =>
    some (s.setStage i stream
      (.updating .targeted request.trackNamespacePrefix request.kind parameters))
  | none => some s

def cancel (s : State) (i : Nat) (stream : RequestStream) : State :=
  match s.record stream with
  | some request =>
    (s.setStage i stream (.cancelling request.trackNamespacePrefix request.kind)).setRecord stream
      none
  | none => s.setStage i stream .ended

def step (s : State) : Action → Option State
  | .request i connectionId request =>
    match s.streams i with
    | some _ => none
    | none => some (s.setStage i ⟨connectionId, request.requestId, .ended⟩
        (if refused maxFilterRanges s.namespaceSubscribers connectionId request then .ended
          else .checked request))
  | .proceed i => (s.streams i).bind (proceed maxFilterRanges s i)
  | .sendFails i =>
    match s.streams i with
    | some ⟨connectionId, requestId, .accepted⟩ =>
      some (s.setStage i ⟨connectionId, requestId, .accepted⟩ .ended)
    | _ => none
  | .update i parameters =>
    match s.streams i with
    | some ⟨connectionId, requestId, .serving⟩ =>
      receiveUpdate s i ⟨connectionId, requestId, .serving⟩ parameters
    | _ => none
  | .close i =>
    match s.streams i with
    | some ⟨connectionId, requestId, .serving⟩ =>
      some (cancel s i ⟨connectionId, requestId, .serving⟩)
    | _ => none
  | .channelDropped i =>
    match s.streams i with
    | some ⟨connectionId, requestId, .serving⟩ =>
      if s.namespaceSubscribers.any (·.namespaceTx = i) then none
      else some (s.setStage i ⟨connectionId, requestId, .serving⟩ .ended)
    | _ => none

end

end Moqtail.Prefixes
