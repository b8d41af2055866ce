import Moqtail.Relay.PrefixSubscriptions
import Moqtail.Wire.ControlMessage

/-! PUBLISH_NAMESPACE in the relay, as a transition system: the tasks that serve its request streams
and the clean-up after a closed connection (`publish_namespace_handler.rs`, `request_stream.rs`,
`session.rs`), over the announcements of the `TrackManager`, which has one slot for a namespace.

A step is what one task does between two points at which another can run. A task is woken for a
response by the sender that its client has under its Request ID. One whose handler fails closes the
session, and leaves the rest to the clean-up. Of the requests of other kinds only
the streams, the senders and the records are here. Left out are updates of an announcement, which
change nothing but its parameters, the namespaces that a client is routed subscriptions for, and how
the subscribers come to be registered. -/
namespace Moqtail.Announcements

open Lib Message
open Prefixes (NamespaceSubscriber)

/-- An entry of the `TrackManager`'s map with its key. -/
structure Announcement where
  trackNamespace : Tuple
  connectionId : Nat
  message : PublishNamespace
deriving Repr

def addAnnouncement (announcements : List Announcement) (trackNamespace : Tuple)
    (connectionId : Nat) (message : PublishNamespace) : List Announcement :=
  announcements.filter (·.trackNamespace ≠ trackNamespace) ++
    [⟨trackNamespace, connectionId, message⟩]

/-- Whether there was an announcement of the connection's to remove, and what is left. -/
def removeAnnouncement (announcements : List Announcement) (trackNamespace : Tuple)
    (connectionId : Nat) : Bool × List Announcement :=
  match announcements.find? (·.trackNamespace = trackNamespace) with
  | some a =>
    if a.connectionId = connectionId then
      (true, announcements.filter (·.trackNamespace ≠ trackNamespace))
    else (false, announcements)
  | none => (false, announcements)

/-- The namespaces of the announcements removed, and what is left. -/
def removeAnnouncementsByConnection (announcements : List Announcement) (connectionId : Nat) :
    List Tuple × List Announcement :=
  ((announcements.filter (·.connectionId = connectionId)).map (·.trackNamespace),
    announcements.filter (·.connectionId ≠ connectionId))

/-! What discovery subscribers are told. -/

inductive Notice where
  | found (message : Namespace)
  | done (message : NamespaceDone)
deriving Repr

structure Delivery where
  subscriber : NamespaceSubscriber
  notice : Notice
deriving Repr

/-- The suffix of a namespace that does not start with the subscriber's prefix is none. -/
def announceToNamespaceSubscribers (subs : List NamespaceSubscriber) (trackNamespace : Tuple)
    (announcerConnectionId : Nat) (messageFor : Tuple → Notice) : List Delivery :=
  subs.filterMap fun sub => (trackNamespace.suffix sub.namespacePrefix).bind fun suffix =>
    if sub.kind ≠ .namespaces ∨ sub.connectionId = announcerConnectionId then none
    else some ⟨sub, messageFor suffix⟩

/-- The namespace that a subscriber is told is over: its prefix and the suffix in the message. -/
def Delivery.namespaceDone (d : Delivery) : Option Tuple :=
  match d.notice with
  | .found _ => none
  | .done message =>
    some ⟨d.subscriber.namespacePrefix.fields ++ message.trackNamespaceSuffix.fields⟩

theorem namespaceDone_of_mem {subs : List NamespaceSubscriber} {trackNamespace : Tuple}
    {announcer : Nat} {d : Delivery}
    (h : d ∈ announceToNamespaceSubscribers subs trackNamespace announcer fun suffix =>
      .done ⟨suffix⟩) : d.namespaceDone = some trackNamespace := by
  obtain ⟨sub, -, hsub⟩ := List.mem_filterMap.mp h
  obtain ⟨suffix, hsuffix, hd⟩ := Option.bind_eq_some_iff.mp hsub
  split at hd
  · cases hd
  · cases hd
    unfold Tuple.suffix at hsuffix
    split at hsuffix
    next hstarts =>
      cases hsuffix
      obtain ⟨rest, hrest⟩ := Tuple.startsWith_iff.mp hstarts
      have : trackNamespace = ⟨sub.namespacePrefix.fields ++ rest⟩ := by
        rw [hrest]
      rw [this]
      simp [Delivery.namespaceDone]
    · cases hsuffix

theorem namespaceDone_of_found {subs : List NamespaceSubscriber} {trackNamespace : Tuple}
    {announcer : Nat} {d : Delivery}
    (h : d ∈ announceToNamespaceSubscribers subs trackNamespace announcer fun suffix =>
      .found ⟨suffix⟩) : d.namespaceDone = none := by
  obtain ⟨sub, -, hsub⟩ := List.mem_filterMap.mp h
  obtain ⟨suffix, -, hd⟩ := Option.bind_eq_some_iff.mp hsub
  split at hd
  · cases hd
  · cases hd
    rfl

/-! The request streams. -/

/-- What a stream was opened for, which decides what closing it cancels. -/
inductive RequestStreamKind where
  | publishNamespace
  | other
deriving Repr, DecidableEq

inductive Stage where
  /-- The namespace is not a reserved one. -/
  | received (message : PublishNamespace)
  /-- The announcement is in the `TrackManager`. -/
  | stored (message : PublishNamespace)
  /-- The request is in `inbound_requests`. -/
  | recorded (message : PublishNamespace)
  /-- The handler has returned, and the task waits for what comes next. -/
  | serving
  /-- `cancel` has taken the request out of `inbound_requests`. -/
  | withdrawing (trackNamespace : Tuple)
  /-- The announcement has been removed, and the subscribers have yet to be told. -/
  | delisted (trackNamespace : Tuple)
  /-- A handler has failed, and the task has left with nothing withdrawn. -/
  | failed
  | ended
deriving Repr

structure RequestStream where
  connectionId : Nat
  requestId : UInt64
  kind : RequestStreamKind
  stage : Stage
deriving Repr

def Stage.isServing : Stage → Bool
  | serving => true
  | _ => false

/-- A closed connection, with the namespaces that its clean-up has removed and not told of yet. -/
structure ClosedConnection where
  connectionId : Nat
  withdrawn : List Tuple
deriving Repr

/-- `responseSenders` names the streams whose tasks the senders wake. -/
structure State where
  announcements : List Announcement
  inboundRequests : Nat → UInt64 → Option PublishNamespace
  responseSenders : Nat → UInt64 → Option Nat
  streams : List RequestStream
  closed : List ClosedConnection
  namespaceSubscribers : List NamespaceSubscriber
  sent : List Delivery

inductive Action where
  | request (connectionId : Nat) (message : PublishNamespace)
  /-- A request of another kind opens a stream. -/
  | requestOther (connectionId : Nat) (requestId : UInt64)
  /-- A PUBLISH_NAMESPACE follows the request that opened a stream. -/
  | followUp (i : Nat) (message : PublishNamespace)
  /-- The task of a stream takes its next step. -/
  | proceed (i : Nat)
  /-- The peer closes a stream. -/
  | close (i : Nat)
  /-- The sender that would wake the task of a stream is gone, and the task leaves. -/
  | senderGone (i : Nat)
  /-- A handler cannot send its answer, or refuses a message that follows the request. -/
  | fail (i : Nat)
  /-- `handle_connection_close` removes the announcements of a connection. -/
  | connectionClosed (connectionId : Nat)
  /-- The `k`th clean-up tells the subscribers of the next namespace it has removed. -/
  | tellWithdrawn (k : Nat)
  | subscribersChange (subs : List NamespaceSubscriber)
deriving Repr

namespace State

def initial : State := ⟨[], fun _ _ => none, fun _ _ => none, [], [], [], []⟩

def setStage (s : State) (i : Nat) (stream : RequestStream) (stage : Stage) : State :=
  { s with streams := s.streams.set i { stream with stage := stage } }

def record (s : State) (stream : RequestStream) : Option PublishNamespace :=
  s.inboundRequests stream.connectionId stream.requestId

def setRecord (s : State) (connectionId : Nat) (requestId : UInt64)
    (message : Option PublishNamespace) : State :=
  { s with
    inboundRequests := Function.update s.inboundRequests connectionId
      (Function.update (s.inboundRequests connectionId) requestId message) }

def sender (s : State) (stream : RequestStream) : Option Nat :=
  s.responseSenders stream.connectionId stream.requestId

def setSender (s : State) (stream : RequestStream) (i : Option Nat) : State :=
  { s with
    responseSenders := Function.update s.responseSenders stream.connectionId
      (Function.update (s.responseSenders stream.connectionId) stream.requestId i) }

/-- A stream opens, and the sender for its task takes the place of one under its Request ID. -/
def openStream (s : State) (stream : RequestStream) : State :=
  State.setSender { s with streams := s.streams ++ [stream] } stream (some s.streams.length)

/-- The task ends, and with it whatever sender is under its Request ID. -/
def leave (s : State) (i : Nat) (stream : RequestStream) : State :=
  (s.setStage i stream .ended).setSender stream none

def fail (s : State) (i : Nat) (stream : RequestStream) : State :=
  (s.setStage i stream .failed).setSender stream none

def isClosed (s : State) (connectionId : Nat) : Bool :=
  s.closed.any (·.connectionId = connectionId)

def setAnnouncements (s : State) (announcements : List Announcement) : State :=
  { s with announcements := announcements }

def announce (s : State) (trackNamespace : Tuple) (announcerConnectionId : Nat)
    (messageFor : Tuple → Notice) : State :=
  { s with
    sent := s.sent ++ announceToNamespaceSubscribers s.namespaceSubscribers trackNamespace
      announcerConnectionId messageFor }

end State

def reserved (message : PublishNamespace) : Bool :=
  message.trackNamespace.isReservedDot || message.trackNamespace.isSessionNamespace

def proceed (s : State) (i : Nat) (stream : RequestStream) : Option State :=
  match stream.stage with
  | .received message =>
    some ((s.setStage i stream (.stored message)).setAnnouncements
      (addAnnouncement s.announcements message.trackNamespace stream.connectionId message))
  | .stored message =>
    some ((s.setStage i stream (.recorded message)).setRecord stream.connectionId message.requestId
      (some message))
  | .recorded message =>
    some ((s.setStage i stream .serving).announce message.trackNamespace stream.connectionId
      fun suffix => .found ⟨suffix⟩)
  | .withdrawing trackNamespace =>
    match removeAnnouncement s.announcements trackNamespace stream.connectionId with
    | (true, announcements) =>
      some ((s.setStage i stream (.delisted trackNamespace)).setAnnouncements announcements)
    -- replaced by the announcement of another connection, or gone
    | (false, _) => some (s.leave i stream)
  | .delisted trackNamespace =>
    some ((s.leave i stream).announce trackNamespace stream.connectionId
      fun suffix => .done ⟨suffix⟩)
  | .serving | .failed | .ended => none

/-- `cancel`, up to where it knows the namespace. A request of another kind takes its own record, if
it has one, from under its Request ID. -/
def cancel (s : State) (i : Nat) (stream : RequestStream) : State :=
  match stream.kind, s.record stream with
  | .publishNamespace, some message =>
    (s.setStage i stream (.withdrawing message.trackNamespace)).setRecord stream.connectionId
      stream.requestId none
  | .publishNamespace, none => s.leave i stream
  | .other, _ => (s.leave i stream).setRecord stream.connectionId stream.requestId none

/-- The stage of a PUBLISH_NAMESPACE that its handler has looked at. -/
def accepted (message : PublishNamespace) : Stage :=
  if reserved message then .serving else .received message

def step (s : State) : Action → Option State
  | .request connectionId message =>
    some (s.openStream ⟨connectionId, message.requestId, .publishNamespace, accepted message⟩)
  -- its own record takes the place of one under its Request ID
  | .requestOther connectionId requestId =>
    some ((s.openStream ⟨connectionId, requestId, .other, .serving⟩).setRecord connectionId requestId
      none)
  | .followUp i message =>
    s.streams[i]?.bind fun stream =>
      if stream.stage.isServing then some (s.setStage i stream (accepted message)) else none
  | .proceed i => s.streams[i]?.bind (proceed s i)
  | .close i =>
    s.streams[i]?.bind fun stream =>
      if stream.stage.isServing then some (cancel s i stream) else none
  | .senderGone i =>
    s.streams[i]?.bind fun stream =>
      if stream.stage.isServing ∧ s.sender stream ≠ some i then some (s.leave i stream) else none
  | .fail i =>
    s.streams[i]?.bind fun stream =>
      if stream.stage.isServing then some (s.fail i stream) else none
  | .connectionClosed connectionId =>
    if s.isClosed connectionId then none
    else
      let (removed, announcements) := removeAnnouncementsByConnection s.announcements connectionId
      some { s with
        announcements := announcements
        closed := s.closed ++ [⟨connectionId, removed⟩] }
  | .tellWithdrawn k =>
    match s.closed[k]? with
    | some ⟨connectionId, trackNamespace :: rest⟩ =>
      some (State.announce { s with closed := s.closed.set k ⟨connectionId, rest⟩ } trackNamespace
        connectionId fun suffix => .done ⟨suffix⟩)
    | _ => none
  | .subscribersChange subs => some { s with namespaceSubscribers := subs }

/-! Who announces what. -/

/-- The namespace a PUBLISH_NAMESPACE's stream announces, from when its announcement is stored until
its task has seen to its removal. After a failure only the clean-up of the connection does. -/
def Stage.announced (record : Option PublishNamespace) : Stage → Option Tuple
  | received _ => none
  | stored message => some message.trackNamespace
  | recorded message => some message.trackNamespace
  | serving => record.map (·.trackNamespace)
  | withdrawing trackNamespace => some trackNamespace
  | delisted _ => none
  | failed => record.map (·.trackNamespace)
  | ended => none

namespace State

/-- What a connected client announces on a stream. -/
def announcedOn (s : State) (stream : RequestStream) : Option Tuple :=
  if s.isClosed stream.connectionId || stream.kind = .other then none
  else stream.stage.announced (s.record stream)

def Announces (s : State) (i connectionId : Nat) (trackNamespace : Tuple) : Prop :=
  ∃ stream, s.streams[i]? = some stream ∧ stream.connectionId = connectionId ∧
    s.announcedOn stream = some trackNamespace

/-- Removed, with the subscribers yet to be told. -/
def Pending (s : State) (trackNamespace : Tuple) : Prop :=
  (∃ stream ∈ s.streams, stream.stage = .delisted trackNamespace) ∨
    ∃ connection ∈ s.closed, trackNamespace ∈ connection.withdrawn

def Listed (s : State) (trackNamespace : Tuple) : Prop :=
  ∃ a ∈ s.announcements, a.trackNamespace = trackNamespace

def isPending (s : State) (trackNamespace : Tuple) : Bool :=
  (s.streams.any fun stream => match stream.stage with
    | .delisted t => t = trackNamespace
    | _ => false) ||
  s.closed.any fun connection => trackNamespace ∈ connection.withdrawn

/-- Whether the namespace is announced on one of the streams that `p` holds for. -/
def announcedWhere (s : State) (p : Nat → RequestStream → Bool) (trackNamespace : Tuple) : Bool :=
  s.streams.zipIdx.any fun (stream, i) =>
    p i stream && s.announcedOn stream = some trackNamespace

/-- Whether a request of the connection has had the Request ID. -/
def usedId (s : State) (connectionId : Nat) (requestId : UInt64) : Bool :=
  s.streams.any fun stream => stream.connectionId = connectionId && stream.requestId = requestId

/-- Whether the step is right for every client: a request has a Request ID of its own, a
PUBLISH_NAMESPACE that is not refused opens its stream, an announcement is stored while its client
is connected and no subscriber is yet to be told that the namespace is over, and the announcement in
the slot of a namespace is removed only when no other stream announces it. -/
def keepsAnnouncements (s : State) : Action → Bool
  | .request connectionId message => ! s.usedId connectionId message.requestId
  | .requestOther connectionId requestId => ! s.usedId connectionId requestId
  | .followUp _ message => reserved message
  | .proceed i =>
    match s.streams[i]? with
    | some stream =>
      match stream.stage with
      | .received message =>
        ! s.isClosed stream.connectionId && ! s.isPending message.trackNamespace
      | .withdrawing trackNamespace =>
        ! (removeAnnouncement s.announcements trackNamespace stream.connectionId).1 ||
          ! s.announcedWhere (fun j _ => j ≠ i) trackNamespace
      | _ => true
    | none => true
  | .connectionClosed connectionId =>
    (removeAnnouncementsByConnection s.announcements connectionId).1.all fun trackNamespace =>
      ! s.announcedWhere (fun _ stream => stream.connectionId ≠ connectionId) trackNamespace
  | _ => true

theorem isPending_iff {s : State} {trackNamespace : Tuple} :
    s.isPending trackNamespace = true ↔ s.Pending trackNamespace := by
  simp only [isPending, Pending, Bool.or_eq_true, List.any_eq_true, decide_eq_true_eq]
  apply or_congr _ Iff.rfl
  apply exists_congr
  intro stream
  apply and_congr_right
  intro _
  cases stream.stage <;> simp

theorem announcedWhere_iff {s : State} {p : Nat → RequestStream → Bool} {trackNamespace : Tuple} :
    s.announcedWhere p trackNamespace = true ↔ ∃ i stream, s.streams[i]? = some stream ∧
      p i stream = true ∧ s.announcedOn stream = some trackNamespace := by
  simp only [announcedWhere, List.any_eq_true, Bool.and_eq_true, decide_eq_true_eq, Prod.exists,
    List.mem_zipIdx_iff_getElem?]
  exact exists_comm

end State

end Moqtail.Announcements
