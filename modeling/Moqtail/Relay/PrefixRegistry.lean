import Moqtail.Relay.PrefixSubscriptions

/-! What the registry of prefix subscriptions holds, over every run: an entry for each request
stream that has one in force, with the parameters of its request, and no prefixes of one kind and
connection that overlap.

Neither holds of every run, since some steps act on what has changed since it was tested, or on the
wrong entry. `keepsRegistry` and `keepsApart` say of a step that it does not. -/
namespace Moqtail.Prefixes

open Lib

/-! Lists of which at most one element is meant. -/

section OnlyOne

variable {α β : Type} {p q : α → Bool} {f : α → α}

theorem map_modifyFirst {g : α → β} (h : ∀ a, g (f a) = g a) (l : List α) :
    (modifyFirst p f l).map g = l.map g := by
  induction l with
  | nil => rfl
  | cons a l ih =>
    rw [modifyFirst]
    split
    · simp [h]
    · simp [ih]

theorem eraseP_eq_filter {l : List α} (only : l.Pairwise fun a b => ¬ (p a = true ∧ p b = true)) :
    l.eraseP p = l.filter fun a => ! p a := by
  induction l with
  | nil => rfl
  | cons a l ih =>
    obtain ⟨ha, hl⟩ := List.pairwise_cons.mp only
    cases hp : p a with
    | true =>
      have hrest : ∀ b ∈ l, (! p b) = true := fun b hb => by
        have := ha b hb
        simp_all
      simp [hp, List.filter_eq_self.mpr hrest]
    | false => simp [hp, ih hl]

/-- When the first element that meets `p` is the only one that meets `q`. -/
theorem modifyFirst_eq_map {l : List α} (first : ∀ a, l.find? p = some a → q a = true)
    (hqp : ∀ a, q a = true → p a = true)
    (only : l.Pairwise fun a b => ¬ (q a = true ∧ q b = true)) :
    modifyFirst p f l = l.map fun a => if q a then f a else a := by
  induction l with
  | nil => rfl
  | cons a l ih =>
    obtain ⟨ha, hl⟩ := List.pairwise_cons.mp only
    cases hp : p a with
    | true =>
      have hq : q a = true := first a (by simp [hp])
      have hrest : l.map (fun b => if q b then f b else b) = l.map id :=
        List.map_congr_left fun b hb => by
          have := ha b hb
          simp_all
      simp [modifyFirst, hp, hq, hrest]
    | false =>
      have hq : q a = false := by
        apply Bool.eq_false_iff.mpr
        intro h
        simp [hqp a h] at hp
      have hfind : l.find? p = (a :: l).find? p := by simp [hp]
      simp [modifyFirst, hp, hq, ih (hfind ▸ first) hl]

end OnlyOne

/-! Prefixes that overlap. -/

theorem namespacePrefixesOverlap_self (a : Tuple) : namespacePrefixesOverlap a a = true := by
  simp [namespacePrefixesOverlap]

theorem namespacePrefixesOverlap_comm (a b : Tuple) :
    namespacePrefixesOverlap a b = namespacePrefixesOverlap b a := by
  have : decide (a = b) = decide (b = a) := by rw [decide_eq_decide]; exact eq_comm
  simp only [namespacePrefixesOverlap, this, Bool.or_assoc, Bool.or_comm (a.startsWith b)]

/-! Where an entry stands. -/

/-- All there is to an entry but its parameters. -/
structure Address where
  namespacePrefix : Tuple
  connectionId : Nat
  kind : SubscribeKind
  namespaceTx : Nat
deriving DecidableEq

def NamespaceSubscriber.address (e : NamespaceSubscriber) : Address :=
  ⟨e.namespacePrefix, e.connectionId, e.kind, e.namespaceTx⟩

def State.addresses (s : State) : List Address := s.namespaceSubscribers.map (·.address)

def Address.Apart (a b : Address) : Prop :=
  a.connectionId = b.connectionId → a.kind = b.kind →
    namespacePrefixesOverlap a.namespacePrefix b.namespacePrefix = false

def Address.SameKey (a b : Address) : Prop :=
  a.namespacePrefix = b.namespacePrefix ∧ a.connectionId = b.connectionId ∧ a.kind = b.kind

theorem Address.SameKey.symm {a b : Address} (h : a.SameKey b) : b.SameKey a :=
  ⟨h.1.symm, h.2.1.symm, h.2.2.symm⟩

theorem isAt_iff {e : NamespaceSubscriber} {front : Tuple} {connectionId : Nat}
    {kind : SubscribeKind} : e.isAt front connectionId kind = true ↔
      e.namespacePrefix = front ∧ e.connectionId = connectionId ∧ e.kind = kind := by
  simp [NamespaceSubscriber.isAt, NamespaceSubscriber.isOf]

/-! What a stage says of its stream's entry and record. -/

namespace Stage

/-- Whether the task counts on the request being in `inbound_requests`. -/
def recorded : Stage → Bool
  | accepted => true
  | serving => true
  | updating .. => true
  | _ => false

/-- The prefix and kind a request stream has in force: until the entry is moved, an update leaves
it at the prefix it had. -/
def place (record : Option PrefixRequest) : Stage → Option (Tuple × SubscribeKind)
  | checked _ => none
  | registered request => some (request.trackNamespacePrefix, request.kind)
  | accepted => record.map fun request => (request.trackNamespacePrefix, request.kind)
  | serving => record.map fun request => (request.trackNamespacePrefix, request.kind)
  | updating _ current kind _ => some (current, kind)
  | cancelling front kind => some (front, kind)
  | ended => none

/-- What an update that has been stored leaves of a prefix. -/
def storedPrefix (stage : UpdateStage) (current : Tuple) (parameters : List MessageParameter) :
    Tuple :=
  match stage with
  | .stored | .updated => (requestedPrefix parameters).getD current
  | _ => current

def Agrees (request : PrefixRequest) : Stage → Prop
  | updating stage current kind parameters => request.kind = kind ∧
      request.trackNamespacePrefix = storedPrefix stage current parameters
  | _ => True

/-- Whether the parameters of the stream's entry are right: between the two sections of an update
the entry has yet to take it over. -/
def ParametersAre (record : Option PrefixRequest) (parameters : List MessageParameter) :
    Stage → Prop
  | checked _ => False
  | registered request => parameters = request.parameters
  | updating .stored _ _ update =>
    ∃ request, record = some request ∧
      request.parameters = applyMessageParameterUpdate parameters update
  | accepted => ∃ request, record = some request ∧ parameters = request.parameters
  | serving => ∃ request, record = some request ∧ parameters = request.parameters
  | updating _ _ _ _ => ∃ request, record = some request ∧ parameters = request.parameters
  | cancelling _ _ => True
  | ended => False

/-- What a request has been tested for and has yet to put into the registry: the prefix, the kind,
and the prefix that an update vacates. -/
def tested : Stage → Option (Tuple × SubscribeKind × Option Tuple)
  | checked request => some (request.trackNamespacePrefix, request.kind, none)
  | updating .targeted _ _ _ => none
  | updating _ current kind parameters =>
    (requestedPrefix parameters).map fun newPrefix => (newPrefix, kind, some current)
  | _ => none

/-- The kind of the entry that the task's next step inserts or moves. -/
def inserts : Stage → Option SubscribeKind
  | checked request => some request.kind
  | updating .updated _ kind parameters => (requestedPrefix parameters).map fun _ => kind
  | _ => none

theorem place_of_not_recorded {stage : Stage} (h : stage.recorded = false)
    (record record' : Option PrefixRequest) : stage.place record = stage.place record' := by
  cases stage <;> first | rfl | cases h

theorem parametersAre_of_not_recorded {stage : Stage} (h : stage.recorded = false)
    {record : Option PrefixRequest} (record' : Option PrefixRequest)
    {parameters : List MessageParameter} (hare : stage.ParametersAre record parameters) :
    stage.ParametersAre record' parameters := by
  cases stage <;> first | exact hare | cases h

end Stage

/-! The invariants. -/

/-- Every stream that has a prefix in force has its entry there, no two entries share a key, and
no two streams share a record. -/
structure Placed (s : State) : Prop where
  entry : ∀ i stream front kind, s.streams i = some stream →
    stream.stage.place (s.record stream) = some (front, kind) →
    ⟨front, stream.connectionId, kind, i⟩ ∈ s.addresses
  keys : s.addresses.Pairwise fun a b => ¬ a.SameKey b
  record : ∀ i stream, s.streams i = some stream → stream.stage.recorded = true →
    ∃ request, s.record stream = some request ∧ stream.stage.Agrees request
  owner : ∀ i j stream other, s.streams i = some stream → s.streams j = some other →
    stream.stage.recorded = true → other.stage.recorded = true →
    stream.connectionId = other.connectionId → stream.requestId = other.requestId → i = j

/-- Every entry is that of a stream, with the parameters of its request. -/
def Exact (s : State) : Prop :=
  ∀ e ∈ s.namespaceSubscribers, ∃ stream, s.streams e.namespaceTx = some stream ∧
    stream.connectionId = e.connectionId ∧
    stream.stage.place (s.record stream) = some (e.namespacePrefix, e.kind) ∧
    stream.stage.ParametersAre (s.record stream) e.parameters

/-- No two entries of one kind and connection have prefixes that overlap. -/
def Apart (s : State) : Prop := s.addresses.Pairwise Address.Apart

/-- Whether nothing of the connection and kind overlaps a prefix, but for what it is to replace. -/
def State.ClearFor (s : State) (connectionId : Nat)
    (place : Tuple × SubscribeKind × Option Tuple) : Prop :=
  Registry.findOverlappingNamespaceSubscription s.namespaceSubscribers connectionId place.1
    place.2.1 place.2.2 = none

/-- What a request has been tested for is still so. -/
def Clear (s : State) : Prop :=
  ∀ i stream place, s.streams i = some stream → stream.stage.tested = some place →
    s.ClearFor stream.connectionId place

/-! The conditions. -/

namespace State

/-- The step puts nothing where something of the same key is: a request is registered and moved
only to a prefix where the connection has none of its kind, and recorded only under an unused
Request ID. -/
def takesFreePlaces (s : State) : Action → Bool
  | .proceed i =>
    match s.streams i with
    | some ⟨connectionId, requestId, stage⟩ =>
      match stage with
      | .checked request => ! s.namespaceSubscribers.any
          (·.isAt request.trackNamespacePrefix connectionId request.kind)
      | .registered _ => (s.inboundRequests connectionId requestId).isNone
      | .updating .updated current kind parameters => (requestedPrefix parameters).all
          fun newPrefix => newPrefix = current ||
            ! s.namespaceSubscribers.any (·.isAt newPrefix connectionId kind)
      | _ => true
    | none => true
  | _ => true

/-- Besides, no message of a handler is lost, and the entry that an update's parameters go to is
of the kind of the request they are for. -/
def keepsRegistry (s : State) (a : Action) : Bool :=
  s.takesFreePlaces a &&
    match a with
    | .sendFails _ => false
    | .proceed i =>
      match s.streams i with
      | some ⟨connectionId, _, .updating .stored current kind _⟩ =>
        (s.namespaceSubscribers.find? fun e =>
          e.namespacePrefix = current && e.connectionId = connectionId).all (·.kind = kind)
      | _ => true
    | _ => true

/-- Whether a stream other than `i` is between its own test and its insertion, for a request of the
connection and kind. -/
def othersTested (s : State) (i connectionId : Nat) (kind : SubscribeKind) : Prop :=
  ∃ j stream, j ≠ i ∧ s.streams j = some stream ∧ stream.connectionId = connectionId ∧
    stream.stage.tested.map (fun place => place.2.1) = some kind

/-- No request is registered or moved while another of its connection and kind is between its own
test and its insertion; and a request is recorded only under an unused Request ID. -/
def undisturbed (s : State) : Action → Prop
  | .proceed i =>
    match s.streams i with
    | none => True
    | some stream =>
      (∀ kind, stream.stage.inserts = some kind → ¬ s.othersTested i stream.connectionId kind) ∧
        ∀ request, stream.stage = .registered request → s.record stream = none
  | _ => True

/-- When a request is registered or moved, nothing overlaps its prefix; and it is recorded only
under an unused Request ID. -/
def keepsApart (s : State) : Action → Bool
  | .proceed i =>
    match s.streams i with
    | some ⟨connectionId, requestId, stage⟩ =>
      match stage with
      | .checked request => (Registry.findOverlappingNamespaceSubscription s.namespaceSubscribers
          connectionId request.trackNamespacePrefix request.kind none).isNone
      | .registered _ => (s.inboundRequests connectionId requestId).isNone
      | .updating .updated current kind parameters => (requestedPrefix parameters).all
          fun newPrefix => (Registry.findOverlappingNamespaceSubscription s.namespaceSubscribers
            connectionId newPrefix kind (some current)).isNone
      | _ => true
    | none => true
  | _ => true

end State

/-! What one step does. -/

namespace State

@[simp] theorem setStage_streams_self (s : State) (i : Nat) (stream : RequestStream)
    (stage : Stage) :
    (s.setStage i stream stage).streams i = some { stream with stage := stage } := by
  simp [setStage]

theorem setStage_streams_of_ne (s : State) {i j : Nat} (stream : RequestStream) (stage : Stage)
    (h : j ≠ i) : (s.setStage i stream stage).streams j = s.streams j := by
  simp [setStage, h]

@[simp] theorem setStage_record (s : State) (i : Nat) (stream other : RequestStream)
    (stage : Stage) : (s.setStage i stream stage).record other = s.record other := rfl

@[simp] theorem setRecord_streams (s : State) (stream : RequestStream)
    (request : Option PrefixRequest) : (s.setRecord stream request).streams = s.streams := rfl

@[simp] theorem setRecord_record_self (s : State) (stream : RequestStream)
    (request : Option PrefixRequest) : (s.setRecord stream request).record stream = request := by
  simp [setRecord, record]

theorem setRecord_record_of_ne (s : State) {stream other : RequestStream}
    (request : Option PrefixRequest)
    (h : ¬ (other.connectionId = stream.connectionId ∧ other.requestId = stream.requestId)) :
    (s.setRecord stream request).record other = s.record other := by
  by_cases hconnection : other.connectionId = stream.connectionId
  · have hid : other.requestId ≠ stream.requestId := fun hid => h ⟨hconnection, hid⟩
    simp [setRecord, record, hconnection, hid]
  · simp [setRecord, record, hconnection]

@[simp] theorem setSubscribers_streams (s : State) (subs : List NamespaceSubscriber) :
    (s.setSubscribers subs).streams = s.streams := rfl

@[simp] theorem setSubscribers_namespaceSubscribers (s : State)
    (subs : List NamespaceSubscriber) : (s.setSubscribers subs).namespaceSubscribers = subs := rfl

@[simp] theorem setSubscribers_record (s : State) (subs : List NamespaceSubscriber)
    (stream : RequestStream) : (s.setSubscribers subs).record stream = s.record stream := rfl

end State

/-- The steps, by what they do to the registry and the records. -/
inductive Transition (s : State) : Action → State → Prop
  | stays (i : Nat) (parameters : List MessageParameter) : Transition s (.update i parameters) s
  | opens (i connectionId : Nat) (request : PrefixRequest) (stream : RequestStream) (stage : Stage)
      (fresh : s.streams i = none) (hconnection : stream.connectionId = connectionId)
      (hstage : stage = .checked request ∧
        s.ClearFor connectionId (request.trackNamespacePrefix, request.kind, none) ∨
          stage = .ended) :
      Transition s (.request i connectionId request) (s.setStage i stream stage)
  | registers (i : Nat) (stream : RequestStream) (request : PrefixRequest)
      (there : s.streams i = some stream) (hstage : stream.stage = .checked request) :
      Transition s (.proceed i) ((s.setStage i stream (.registered request)).setSubscribers
        (Registry.addNamespaceSubscriber s.namespaceSubscribers request.trackNamespacePrefix
          stream.connectionId request.kind request.parameters i))
  | accepts (i : Nat) (stream : RequestStream) (request : PrefixRequest)
      (there : s.streams i = some stream) (hstage : stream.stage = .registered request) :
      Transition s (.proceed i) ((s.setStage i stream .accepted).setRecord stream (some request))
  /-- Neither the registry nor the records change, nor what the stage says of them. -/
  | goesOn (a : Action) (i : Nat) (stream : RequestStream) (stage : Stage)
      (there : s.streams i = some stream) (before : stream.stage.recorded = true)
      (after : stage.recorded = true)
      (same : ∀ request, s.record stream = some request → stream.stage.Agrees request →
        stage.Agrees request ∧
        stage.place (some request) = stream.stage.place (some request) ∧
        ∀ parameters, stream.stage.ParametersAre (some request) parameters →
          stage.ParametersAre (some request) parameters)
      (tests : ∀ place, stage.tested = some place →
        stream.stage.tested = some place ∨ s.ClearFor stream.connectionId place) :
      Transition s a (s.setStage i stream stage)
  | stores (i : Nat) (stream : RequestStream) (current : Tuple) (kind : SubscribeKind)
      (parameters : List MessageParameter) (there : s.streams i = some stream)
      (hstage : stream.stage = .updating .filtersAllowed current kind parameters) :
      Transition s (.proceed i) ((s.setStage i stream (.updating .stored current kind parameters)).setRecord
        stream ((s.record stream).map (·.updated parameters)))
  | updates (i : Nat) (stream : RequestStream) (current : Tuple) (kind : SubscribeKind)
      (parameters : List MessageParameter) (there : s.streams i = some stream)
      (hstage : stream.stage = .updating .stored current kind parameters) :
      Transition s (.proceed i) ((s.setStage i stream (.updating .updated current kind parameters)).setSubscribers
        (Registry.updateNamespaceSubscriptionParameters s.namespaceSubscribers current
          stream.connectionId parameters))
  | moves (i : Nat) (stream : RequestStream) (current newPrefix : Tuple) (kind : SubscribeKind)
      (parameters : List MessageParameter) (there : s.streams i = some stream)
      (hstage : stream.stage = .updating .updated current kind parameters)
      (hrequested : requestedPrefix parameters = some newPrefix) :
      Transition s (.proceed i) ((s.setStage i stream .serving).setSubscribers
        (Registry.rekeyNamespaceSubscriber s.namespaceSubscribers current newPrefix
          stream.connectionId kind))
  | cancels (i : Nat) (stream : RequestStream) (request : PrefixRequest)
      (there : s.streams i = some stream) (hstage : stream.stage = .serving)
      (hrecord : s.record stream = some request) :
      Transition s (.close i) ((s.setStage i stream
        (.cancelling request.trackNamespacePrefix request.kind)).setRecord stream none)
  | removes (i : Nat) (stream : RequestStream) (front : Tuple) (kind : SubscribeKind)
      (there : s.streams i = some stream) (hstage : stream.stage = .cancelling front kind) :
      Transition s (.proceed i) ((s.setStage i stream .ended).setSubscribers
        (Registry.removeNamespaceSubscriberByPrefix s.namespaceSubscribers front
          stream.connectionId kind))
  /-- The task ends with nothing cancelled. -/
  | ends (a : Action) (i : Nat) (stream : RequestStream) (there : s.streams i = some stream)
      (why : a = .sendFails i ∨ stream.stage = .serving ∧
        (s.record stream = none ∨ ∀ e ∈ s.namespaceSubscribers, e.namespaceTx ≠ i)) :
      Transition s a (s.setStage i stream .ended)

theorem proceed_transition {maxFilterRanges : Nat} {s s' : State} {i : Nat}
    {stream : RequestStream} (there : s.streams i = some stream)
    (h : proceed maxFilterRanges s i stream = some s') : Transition s (.proceed i) s' := by
  unfold proceed at h
  split at h
  next request hstage =>
    cases h
    exact .registers i stream request there hstage
  next request hstage =>
    cases h
    exact .accepts i stream request there hstage
  next hstage =>
    cases h
    apply Transition.goesOn _ i stream _ there (by simp [hstage, Stage.recorded]) rfl
    · intro request _ _
      simp [hstage, Stage.Agrees, Stage.place, Stage.ParametersAre]
    · nofun
  next current kind parameters hstage =>
    cases h
    split
    · apply Transition.goesOn _ i stream _ there (by simp [hstage, Stage.recorded]) rfl
      · intro request _ hagrees
        simp_all [Stage.Agrees, Stage.place, Stage.ParametersAre, Stage.storedPrefix]
      · nofun
    next hallowed =>
      apply Transition.goesOn _ i stream _ there (by simp [hstage, Stage.recorded]) rfl
      · intro request _ hagrees
        simp_all [Stage.Agrees, Stage.place, Stage.ParametersAre, Stage.storedPrefix]
      · -- this is the test of the move
        intro place hplace
        obtain ⟨newPrefix, hrequested, rfl⟩ := Option.map_eq_some_iff.mp hplace
        rw [hrequested, Option.any_some, prefixMoveRejected, Bool.not_eq_true,
          Bool.or_eq_false_iff, Option.isSome_eq_false_iff, Option.isNone_iff_eq_none] at hallowed
        exact .inr hallowed.2
  next current kind parameters hstage =>
    cases h
    split
    · apply Transition.goesOn _ i stream _ there (by simp [hstage, Stage.recorded]) rfl
      · intro request _ hagrees
        simp_all [Stage.Agrees, Stage.place, Stage.ParametersAre, Stage.storedPrefix]
      · nofun
    · apply Transition.goesOn _ i stream _ there (by simp [hstage, Stage.recorded]) rfl
      · intro request _ hagrees
        simp_all [Stage.Agrees, Stage.place, Stage.ParametersAre, Stage.storedPrefix]
      · intro place hplace
        rw [hstage]
        exact .inl hplace
  next current kind parameters hstage =>
    cases h
    exact .stores i stream current kind parameters there hstage
  next current kind parameters hstage =>
    cases h
    exact .updates i stream current kind parameters there hstage
  next current kind parameters hstage =>
    cases hrequested : requestedPrefix parameters with
    | none =>
      simp only [hrequested] at h
      cases h
      apply Transition.goesOn _ i stream _ there (by simp [hstage, Stage.recorded]) rfl
      · intro request _ hagrees
        simp_all [Stage.Agrees, Stage.place, Stage.ParametersAre, Stage.storedPrefix]
      · nofun
    | some newPrefix =>
      simp only [hrequested] at h
      cases h
      exact .moves i stream current newPrefix kind parameters there hstage hrequested
  next front kind hstage =>
    cases h
    exact .removes i stream front kind there hstage
  · cases h
  · cases h

theorem step_transition {maxFilterRanges : Nat} {s s' : State} {a : Action}
    (h : step maxFilterRanges s a = some s') : Transition s a s' := by
  cases a with
  | request i connectionId request =>
    simp only [step] at h
    split at h
    · cases h
    next fresh =>
      cases h
      apply Transition.opens i connectionId request _ _ fresh rfl
      split
      · exact .inr rfl
      next hallowed =>
        simp only [refused, Bool.not_eq_true, Bool.or_eq_false_iff, Option.isSome_eq_false_iff,
          Option.isNone_iff_eq_none] at hallowed
        exact .inl ⟨rfl, hallowed.2⟩
  | proceed i =>
    obtain ⟨stream, there, hproceed⟩ := Option.bind_eq_some_iff.mp h
    exact proceed_transition there hproceed
  | sendFails i =>
    simp only [step] at h
    split at h
    next there =>
      cases h
      exact .ends _ i _ there (.inl rfl)
    · cases h
  | update i parameters =>
    simp only [step, receiveUpdate] at h
    split at h
    next there =>
      split at h
      next request hrecord =>
        cases h
        apply Transition.goesOn _ i _ _ there rfl rfl
        · intro request' hrecord' _
          cases Option.some.inj (hrecord.symm.trans hrecord')
          simp [Stage.Agrees, Stage.place, Stage.ParametersAre, Stage.storedPrefix]
        · nofun
      · cases h
        exact .stays i parameters
    · cases h
  | close i =>
    simp only [step, cancel] at h
    split at h
    next there =>
      cases h
      split
      next request hrecord => exact .cancels i _ request there rfl hrecord
      next hrecord => exact .ends _ i _ there (.inr ⟨rfl, .inl hrecord⟩)
    · cases h
  | channelDropped i =>
    simp only [step] at h
    split at h
    next there =>
      split at h
      · cases h
      next hnone =>
        cases h
        apply Transition.ends _ i _ there
        right
        refine ⟨rfl, .inr ?_⟩
        intro e he htx
        apply hnone
        exact List.any_eq_true.mpr ⟨e, he, by simp [htx]⟩
    · cases h

/-! The invariants are kept. -/

namespace Placed

variable {s s' : State} {i : Nat} {stream : RequestStream} {stage : Stage}

variable (stage) in
/-- What has to be seen to when one stream moves on. -/
theorem move (hs : Placed s) (there : s'.streams = (s.setStage i stream stage).streams)
    (kept : ∀ a ∈ s.addresses, a.namespaceTx ≠ i → a ∈ s'.addresses)
    (keys : s'.addresses.Pairwise fun a b => ¬ a.SameKey b)
    (records : ∀ j other, j ≠ i → s.streams j = some other → other.stage.recorded = true →
      s'.record other = s.record other)
    (entry : ∀ front kind, stage.place (s'.record stream) = some (front, kind) →
      ⟨front, stream.connectionId, kind, i⟩ ∈ s'.addresses)
    (record : stage.recorded = true →
      (∃ request, s'.record stream = some request ∧ stage.Agrees request) ∧
      ∀ j other, j ≠ i → s.streams j = some other → other.stage.recorded = true →
        ¬ (other.connectionId = stream.connectionId ∧ other.requestId = stream.requestId)) :
    Placed s' := by
  have hself : ∀ moved, s'.streams i = some moved → moved = { stream with stage := stage } := by
    intro moved hmoved
    rw [there, State.setStage_streams_self] at hmoved
    exact (Option.some.inj hmoved).symm
  have hother : ∀ j other, j ≠ i → s'.streams j = some other → s.streams j = some other := by
    intro j other hne hj
    rwa [there, State.setStage_streams_of_ne s stream stage hne] at hj
  constructor
  · intro j other front kind hj hplace
    by_cases hji : j = i
    · subst hji
      rw [hself other hj] at hplace ⊢
      exact entry front kind hplace
    · have hold := hother j other hji hj
      have hplace' : other.stage.place (s.record other) = some (front, kind) := by
        cases hrecorded : other.stage.recorded with
        | true => rwa [records j other hji hold hrecorded] at hplace
        | false => rwa [Stage.place_of_not_recorded hrecorded _ (s'.record other)]
      exact kept _ (hs.entry j other front kind hold hplace') hji
  · exact keys
  · intro j other hj hrecorded
    by_cases hji : j = i
    · subst hji
      rw [hself other hj] at hrecorded ⊢
      exact (record hrecorded).1
    · have hold := hother j other hji hj
      rw [records j other hji hold hrecorded]
      exact hs.record j other hold hrecorded
  · intro j k one other hj hk hone hother' hconnection hid
    by_cases hji : j = i
    · by_cases hki : k = i
      · rw [hji, hki]
      · subst hji
        rw [hself one hj] at hone hconnection hid
        exact absurd ⟨hconnection.symm, hid.symm⟩
          ((record hone).2 k other hki (hother k other hki hk) hother')
    · by_cases hki : k = i
      · subst hki
        rw [hself other hk] at hother' hconnection hid
        exact absurd ⟨hconnection, hid⟩
          ((record hother').2 j one hji (hother j one hji hj) hone)
      · exact hs.owner j k one other (hother j one hji hj) (hother k other hki hk) hone hother'
          hconnection hid

/-- A recorded stream shares its record with no other. -/
theorem alone (hs : Placed s) (there : s.streams i = some stream)
    (recorded : stream.stage.recorded = true) (j : Nat) (other : RequestStream) (hne : j ≠ i)
    (hj : s.streams j = some other) (hother : other.stage.recorded = true) :
    ¬ (other.connectionId = stream.connectionId ∧ other.requestId = stream.requestId) := by
  rintro ⟨hconnection, hid⟩
  exact hne (hs.owner j i other stream hj there hother recorded hconnection hid)

theorem not_recorded_of_unused (hs : Placed s) (unused : s.record stream = none) (j : Nat)
    (other : RequestStream) (hj : s.streams j = some other)
    (recorded : other.stage.recorded = true) :
    ¬ (other.connectionId = stream.connectionId ∧ other.requestId = stream.requestId) := by
  rintro ⟨hconnection, hid⟩
  obtain ⟨request, hrecord, -⟩ := hs.record j other hj recorded
  rw [State.record, hconnection, hid] at hrecord
  cases unused.symm.trans hrecord

theorem sameKey_iff (hs : Placed s) {a b : Address} (ha : a ∈ s.addresses)
    (hb : b ∈ s.addresses) : a.SameKey b ↔ a = b := by
  constructor
  · intro hkey
    have : Std.Symm fun a b : Address => ¬ a.SameKey b := ⟨fun a b hab hba => hab (Address.SameKey.symm hba)⟩
    by_contra hne
    exact hs.keys.forall ha hb hne hkey
  · rintro rfl
    exact ⟨rfl, rfl, rfl⟩

/-- The entry under a key is the one of the stream that has the prefix in force. -/
theorem isAt_iff_tx (hs : Placed s) (there : s.streams i = some stream) {front : Tuple}
    {kind : SubscribeKind} (hplace : stream.stage.place (s.record stream) = some (front, kind))
    {e : NamespaceSubscriber} (he : e ∈ s.namespaceSubscribers) :
    e.isAt front stream.connectionId kind = true ↔
      e.address = ⟨front, stream.connectionId, kind, i⟩ := by
  rw [← hs.sameKey_iff (List.mem_map_of_mem he) (hs.entry i stream front kind there hplace)]
  exact isAt_iff

theorem only_one (hs : Placed s) (front : Tuple) (connectionId : Nat) (kind : SubscribeKind) :
    s.namespaceSubscribers.Pairwise fun e e' =>
      ¬ (e.isAt front connectionId kind = true ∧ e'.isAt front connectionId kind = true) := by
  have hkeys : s.namespaceSubscribers.Pairwise fun e e' => ¬ e.address.SameKey e'.address :=
    List.pairwise_map.mp hs.keys
  apply hkeys.imp
  rintro e e' hne ⟨he, he'⟩
  obtain ⟨hfront, hconnection, hkind⟩ := isAt_iff.mp he
  obtain ⟨hfront', hconnection', hkind'⟩ := isAt_iff.mp he'
  exact hne ⟨hfront.trans hfront'.symm, hconnection.trans hconnection'.symm,
    hkind.trans hkind'.symm⟩

/-- Moving an entry, as what is left and the entry under its new prefix. -/
theorem rekey_eq (hs : Placed s) (there : s.streams i = some stream) {current : Tuple}
    {kind : SubscribeKind} (hplace : stream.stage.place (s.record stream) = some (current, kind))
    (newPrefix : Tuple) :
    ∃ e ∈ s.namespaceSubscribers, e.address = ⟨current, stream.connectionId, kind, i⟩ ∧
      Registry.rekeyNamespaceSubscriber s.namespaceSubscribers current newPrefix
          stream.connectionId kind =
        (s.namespaceSubscribers.filter fun e' => ! e'.isAt current stream.connectionId kind) ++
          [{ e with namespacePrefix := newPrefix }] := by
  obtain ⟨e, he, haddress⟩ := List.mem_map.mp (hs.entry i stream current kind there hplace)
  have hat := (hs.isAt_iff_tx there hplace he).mpr haddress
  cases hfind : s.namespaceSubscribers.find? (·.isAt current stream.connectionId kind) with
  | none => exact absurd hat (by simpa using List.find?_eq_none.mp hfind e he)
  | some found =>
    have hfound := List.mem_of_find?_eq_some hfind
    have hfoundAt : found.isAt current stream.connectionId kind = true :=
      List.find?_some (p := fun e : NamespaceSubscriber => e.isAt current stream.connectionId kind)
        hfind
    refine ⟨found, hfound, (hs.isAt_iff_tx there hplace hfound).mp hfoundAt, ?_⟩
    rw [Registry.rekeyNamespaceSubscriber, hfind,
      eraseP_eq_filter (hs.only_one current stream.connectionId kind)]

/-- An update that finds an entry of its own kind first changes the entry of its stream alone. -/
theorem updateParameters_eq (hs : Placed s) {current : Tuple} {kind : SubscribeKind}
    {connectionId : Nat} (parameters : List MessageParameter)
    (first : ∀ e, s.namespaceSubscribers.find? (fun e =>
      e.namespacePrefix = current && e.connectionId = connectionId) = some e → e.kind = kind) :
    Registry.updateNamespaceSubscriptionParameters s.namespaceSubscribers current connectionId
        parameters =
      s.namespaceSubscribers.map fun e => if e.isAt current connectionId kind then
        { e with parameters := applyMessageParameterUpdate e.parameters parameters } else e := by
  apply modifyFirst_eq_map
  · intro e hfind
    have hmatch := List.find?_some hfind
    simp only [Bool.and_eq_true, decide_eq_true_eq] at hmatch
    exact isAt_iff.mpr ⟨hmatch.1, hmatch.2, first e hfind⟩
  · intro e hat
    obtain ⟨hrequested, hconnection, -⟩ := isAt_iff.mp hat
    simp [hrequested, hconnection]
  · exact hs.only_one current connectionId kind

theorem registers (hs : Placed s) {request : PrefixRequest}
    (free : ∀ e ∈ s.namespaceSubscribers,
      e.isAt request.trackNamespacePrefix stream.connectionId request.kind = false) :
    Placed ((s.setStage i stream (.registered request)).setSubscribers
      (Registry.addNamespaceSubscriber s.namespaceSubscribers request.trackNamespacePrefix
        stream.connectionId request.kind request.parameters i)) := by
  have hnone : s.namespaceSubscribers.any
      (·.isAt request.trackNamespacePrefix stream.connectionId request.kind) = false :=
    List.any_eq_false.mpr fun e he => by simp [free e he]
  rw [Registry.addNamespaceSubscriber, hnone, if_neg Bool.false_ne_true]
  refine hs.move (.registered request) rfl ?_ ?_ (fun _ _ _ _ _ => rfl) ?_ nofun
  · intro a ha _
    simp only [State.addresses, State.setSubscribers_namespaceSubscribers, List.map_append]
    exact List.mem_append_left _ ha
  · simp only [State.addresses, State.setSubscribers_namespaceSubscribers, List.map_append,
      List.map_singleton]
    refine List.pairwise_append.mpr ⟨hs.keys, List.pairwise_singleton _ _, ?_⟩
    rintro a ha b hb hkey
    obtain ⟨e, he, rfl⟩ := List.mem_map.mp ha
    cases List.mem_singleton.mp hb
    have hat : e.isAt request.trackNamespacePrefix stream.connectionId request.kind = true :=
      isAt_iff.mpr hkey
    rw [free e he] at hat
    cases hat
  · intro front kind hplace
    cases hplace
    simp [State.addresses, NamespaceSubscriber.address]

theorem accepts (hs : Placed s) {request : PrefixRequest} (there : s.streams i = some stream)
    (hstage : stream.stage = .registered request) (unused : s.record stream = none) :
    Placed ((s.setStage i stream .accepted).setRecord stream (some request)) := by
  refine hs.move .accepted rfl (fun a ha _ => ha) hs.keys ?_ ?_ ?_
  · intro j other _ hj hrecorded
    exact State.setRecord_record_of_ne _ _ (hs.not_recorded_of_unused unused j other hj hrecorded)
  · intro front kind hplace
    rw [State.setRecord_record_self] at hplace
    exact hs.entry i stream front kind there (by rw [hstage]; exact hplace)
  · intro _
    exact ⟨⟨request, State.setRecord_record_self .., trivial⟩,
      fun j other _ => hs.not_recorded_of_unused unused j other⟩

theorem goesOn (hs : Placed s) (there : s.streams i = some stream)
    (before : stream.stage.recorded = true)
    (same : ∀ request, s.record stream = some request → stream.stage.Agrees request →
      stage.Agrees request ∧ stage.place (some request) = stream.stage.place (some request)) :
    Placed (s.setStage i stream stage) := by
  obtain ⟨request, hrecord, hagrees⟩ := hs.record i stream there before
  obtain ⟨hagrees', hplace'⟩ := same request hrecord hagrees
  refine hs.move _ rfl (fun a ha _ => ha) hs.keys (fun _ _ _ _ _ => rfl) ?_ ?_
  · intro front kind hplace
    rw [State.setStage_record, hrecord, hplace', ← hrecord] at hplace
    exact hs.entry i stream front kind there hplace
  · intro _
    exact ⟨⟨request, hrecord, hagrees'⟩, hs.alone there before⟩

theorem stores (hs : Placed s) {current : Tuple} {kind : SubscribeKind}
    {parameters : List MessageParameter} (there : s.streams i = some stream)
    (hstage : stream.stage = .updating .filtersAllowed current kind parameters) :
    Placed ((s.setStage i stream (.updating .stored current kind parameters)).setRecord stream
      ((s.record stream).map (·.updated parameters))) := by
  have before : stream.stage.recorded = true := by rw [hstage]; rfl
  obtain ⟨request, hrecord, hagrees⟩ := hs.record i stream there before
  rw [hstage] at hagrees
  refine hs.move (.updating .stored current kind parameters) rfl (fun a ha _ => ha) hs.keys
    ?_ ?_ ?_
  · intro j other hne hj hrecorded
    exact State.setRecord_record_of_ne _ _ (hs.alone there before j other hne hj hrecorded)
  · intro front kind' hplace
    exact hs.entry i stream front kind' there (by rw [hstage]; exact hplace)
  · intro _
    refine ⟨⟨request.updated parameters, ?_, hagrees.1, ?_⟩, hs.alone there before⟩
    · rw [State.setRecord_record_self, hrecord, Option.map_some]
    · rw [PrefixRequest.updated, hagrees.2]
      rfl

theorem updates (hs : Placed s) {current : Tuple} {kind : SubscribeKind}
    {parameters : List MessageParameter} (there : s.streams i = some stream)
    (hstage : stream.stage = .updating .stored current kind parameters) :
    Placed ((s.setStage i stream (.updating .updated current kind parameters)).setSubscribers
      (Registry.updateNamespaceSubscriptionParameters s.namespaceSubscribers current
        stream.connectionId parameters)) := by
  have before : stream.stage.recorded = true := by rw [hstage]; rfl
  have haddresses : ((s.setStage i stream
      (.updating .updated current kind parameters)).setSubscribers
      (Registry.updateNamespaceSubscriptionParameters s.namespaceSubscribers current
        stream.connectionId parameters)).addresses = s.addresses := by
    simp only [State.addresses, State.setSubscribers_namespaceSubscribers,
      Registry.updateNamespaceSubscriptionParameters]
    apply map_modifyFirst
    intro e
    rfl
  obtain ⟨request, hrecord, hagrees⟩ := hs.record i stream there before
  rw [hstage] at hagrees
  refine hs.move (.updating .updated current kind parameters) rfl ?_ ?_
    (fun _ _ _ _ _ => rfl) ?_ ?_
  · intro a ha _
    rwa [haddresses]
  · rw [haddresses]
    exact hs.keys
  · intro front kind' hplace
    rw [haddresses]
    exact hs.entry i stream front kind' there (by rw [hstage]; exact hplace)
  · intro _
    exact ⟨⟨request, hrecord, hagrees⟩, hs.alone there before⟩

/-- Of the other streams' entries, none is at the key of a stream's own. -/
theorem mem_addresses_filter (hs : Placed s) (there : s.streams i = some stream) {front : Tuple}
    {kind : SubscribeKind} (hplace : stream.stage.place (s.record stream) = some (front, kind))
    {a : Address} (ha : a ∈ s.addresses) (hne : a.namespaceTx ≠ i) :
    a ∈ (s.namespaceSubscribers.filter fun e => ! e.isAt front stream.connectionId kind).map
      (·.address) := by
  obtain ⟨e, he, rfl⟩ := List.mem_map.mp ha
  refine List.mem_map.mpr ⟨e, List.mem_filter.mpr ⟨he, ?_⟩, rfl⟩
  simp only [Bool.not_eq_true', Bool.eq_false_iff]
  intro hat
  exact hne (congrArg Address.namespaceTx ((hs.isAt_iff_tx there hplace he).mp hat))

theorem keys_filter (hs : Placed s) (p : NamespaceSubscriber → Bool) :
    ((s.namespaceSubscribers.filter p).map (·.address)).Pairwise fun a b => ¬ a.SameKey b :=
  hs.keys.sublist ((List.filter_sublist).map _)

theorem moves (hs : Placed s) {current newPrefix : Tuple} {kind : SubscribeKind}
    {parameters : List MessageParameter} (there : s.streams i = some stream)
    (hstage : stream.stage = .updating .updated current kind parameters)
    (hrequested : requestedPrefix parameters = some newPrefix)
    (free : newPrefix = current ∨ ∀ e ∈ s.namespaceSubscribers,
      e.isAt newPrefix stream.connectionId kind = false) :
    Placed ((s.setStage i stream .serving).setSubscribers
      (Registry.rekeyNamespaceSubscriber s.namespaceSubscribers current newPrefix
        stream.connectionId kind)) := by
  have before : stream.stage.recorded = true := by rw [hstage]; rfl
  have hplace : stream.stage.place (s.record stream) = some (current, kind) := by rw [hstage]; rfl
  obtain ⟨request, hrecord, hkind, hnew⟩ : ∃ request, s.record stream = some request ∧
      request.kind = kind ∧ request.trackNamespacePrefix = newPrefix := by
    obtain ⟨request, hrecord, hagrees⟩ := hs.record i stream there before
    rw [hstage] at hagrees
    refine ⟨request, hrecord, hagrees.1, hagrees.2.trans ?_⟩
    rw [Stage.storedPrefix, hrequested, Option.getD_some]
  obtain ⟨e, he, haddress, hrekey⟩ := hs.rekey_eq there hplace newPrefix
  have hmoved : ({ e with namespacePrefix := newPrefix } : NamespaceSubscriber).address =
      ⟨newPrefix, stream.connectionId, kind, i⟩ :=
    congrArg (fun a : Address => { a with namespacePrefix := newPrefix }) haddress
  rw [hrekey]
  refine hs.move .serving rfl ?_ ?_ (fun _ _ _ _ _ => rfl) ?_ ?_
  · intro a ha hne
    simp only [State.addresses, State.setSubscribers_namespaceSubscribers, List.map_append]
    exact List.mem_append_left _ (hs.mem_addresses_filter there hplace ha hne)
  · simp only [State.addresses, State.setSubscribers_namespaceSubscribers, List.map_append,
      List.map_singleton, hmoved]
    refine List.pairwise_append.mpr ⟨hs.keys_filter _, List.pairwise_singleton _ _, ?_⟩
    rintro a ha b hb hkey
    obtain ⟨e', he', rfl⟩ := List.mem_map.mp ha
    obtain ⟨hmem, hnot⟩ := List.mem_filter.mp he'
    cases List.mem_singleton.mp hb
    have hat : e'.isAt newPrefix stream.connectionId kind = true := isAt_iff.mpr hkey
    rcases free with rfl | free
    · simp [hat] at hnot
    · rw [free e' hmem] at hat
      cases hat
  · intro front kind' hplace'
    rw [State.setSubscribers_record, State.setStage_record, hrecord] at hplace'
    cases hplace'
    rw [hkind, hnew]
    simp [State.addresses, hmoved]
  · intro _
    exact ⟨⟨request, hrecord, trivial⟩, hs.alone there before⟩

theorem cancels (hs : Placed s) {request : PrefixRequest} (there : s.streams i = some stream)
    (hstage : stream.stage = .serving) (hrecord : s.record stream = some request) :
    Placed ((s.setStage i stream
      (.cancelling request.trackNamespacePrefix request.kind)).setRecord stream none) := by
  have before : stream.stage.recorded = true := by rw [hstage]; rfl
  refine hs.move (.cancelling request.trackNamespacePrefix request.kind) rfl
    (fun a ha _ => ha) hs.keys ?_ ?_ nofun
  · intro j other hne hj hrecorded
    exact State.setRecord_record_of_ne _ _ (hs.alone there before j other hne hj hrecorded)
  · intro front kind hplace
    exact hs.entry i stream front kind there (by rw [hstage, hrecord]; exact hplace)

theorem removes (hs : Placed s) {front : Tuple} {kind : SubscribeKind}
    (there : s.streams i = some stream) (hstage : stream.stage = .cancelling front kind) :
    Placed ((s.setStage i stream .ended).setSubscribers
      (Registry.removeNamespaceSubscriberByPrefix s.namespaceSubscribers front
        stream.connectionId kind)) := by
  have hplace : stream.stage.place (s.record stream) = some (front, kind) := by rw [hstage]; rfl
  refine hs.move .ended rfl ?_ (hs.keys_filter _) (fun _ _ _ _ _ => rfl) nofun nofun
  intro a ha hne
  exact hs.mem_addresses_filter there hplace ha hne

/-- A stream with nothing in force. -/
theorem idle (hs : Placed s) (unrecorded : stage.recorded = false)
    (nowhere : stage.place none = none) : Placed (s.setStage i stream stage) := by
  refine hs.move _ rfl (fun a ha _ => ha) hs.keys (fun _ _ _ _ _ => rfl) ?_ ?_
  · intro front kind hplace
    rw [Stage.place_of_not_recorded unrecorded _ none, nowhere] at hplace
    cases hplace
  · intro recorded
    rw [unrecorded] at recorded
    cases recorded

theorem transition {a : Action} (hs : Placed s) (free : s.takesFreePlaces a = true)
    (h : Transition s a s') : Placed s' := by
  cases h with
  | stays => exact hs
  | opens i connectionId request stream stage fresh _ hstage =>
    rcases hstage with ⟨rfl, -⟩ | rfl
    · exact hs.idle rfl rfl
    · exact hs.idle rfl rfl
  | registers i stream request there hstage =>
    obtain ⟨connectionId, requestId, stage⟩ := stream
    cases hstage
    refine hs.registers fun e he => ?_
    simp only [State.takesFreePlaces, there, Bool.not_eq_true', List.any_eq_false] at free
    simpa using free e he
  | accepts i stream request there hstage =>
    obtain ⟨connectionId, requestId, stage⟩ := stream
    cases hstage
    simp only [State.takesFreePlaces, there, Option.isNone_iff_eq_none] at free
    exact hs.accepts there rfl free
  | goesOn _ i stream stage there before after same =>
    refine hs.goesOn there before fun request hrecord hagrees => ?_
    have := same request hrecord hagrees
    exact ⟨this.1, this.2.1⟩
  | stores i stream current kind parameters there hstage => exact hs.stores there hstage
  | updates i stream current kind parameters there hstage => exact hs.updates there hstage
  | moves i stream current newPrefix kind parameters there hstage hrequested =>
    obtain ⟨connectionId, requestId, stage⟩ := stream
    cases hstage
    refine hs.moves there rfl hrequested ?_
    simp only [State.takesFreePlaces, there, hrequested, Option.all_some, Bool.or_eq_true,
      decide_eq_true_eq, Bool.not_eq_true', List.any_eq_false] at free
    exact free.imp id fun h e he => by simpa using h e he
  | cancels i stream request there hstage hrecord => exact hs.cancels there hstage hrecord
  | removes i stream front kind there hstage => exact hs.removes there hstage
  | ends => exact hs.idle rfl rfl

end Placed

namespace Exact

variable {s s' : State} {i : Nat} {stream : RequestStream} {stage : Stage}

variable (stage) in
theorem move (hs : Exact s) (there : s'.streams = (s.setStage i stream stage).streams)
    (others : ∀ e ∈ s'.namespaceSubscribers, e.namespaceTx ≠ i → e ∈ s.namespaceSubscribers)
    (records : ∀ j other, j ≠ i → s.streams j = some other → other.stage.recorded = true →
      s'.record other = s.record other)
    (own : ∀ e ∈ s'.namespaceSubscribers, e.namespaceTx = i →
      stream.connectionId = e.connectionId ∧
      stage.place (s'.record stream) = some (e.namespacePrefix, e.kind) ∧
      stage.ParametersAre (s'.record stream) e.parameters) : Exact s' := by
  intro e he
  by_cases htx : e.namespaceTx = i
  · refine ⟨{ stream with stage := stage }, ?_, own e he htx⟩
    rw [there, htx, State.setStage_streams_self]
  · obtain ⟨other, hother, hconnection, hplace, hparameters⟩ := hs e (others e he htx)
    refine ⟨other, ?_, hconnection, ?_⟩
    · rwa [there, State.setStage_streams_of_ne s stream stage htx]
    · cases hrecorded : other.stage.recorded with
      | true =>
        rw [records e.namespaceTx other htx hother hrecorded]
        exact ⟨hplace, hparameters⟩
      | false =>
        rw [Stage.place_of_not_recorded hrecorded _ (s.record other)]
        exact ⟨hplace, Stage.parametersAre_of_not_recorded hrecorded _ hparameters⟩

/-- What there is to know of a stream's own entry. -/
theorem own (hs : Exact s) (there : s.streams i = some stream) {e : NamespaceSubscriber}
    (he : e ∈ s.namespaceSubscribers) (htx : e.namespaceTx = i) :
    stream.connectionId = e.connectionId ∧
      stream.stage.place (s.record stream) = some (e.namespacePrefix, e.kind) ∧
      stream.stage.ParametersAre (s.record stream) e.parameters := by
  obtain ⟨stream', hstream', hown⟩ := hs e he
  rw [htx, there] at hstream'
  cases hstream'
  exact hown

theorem not_mem_of_idle (hs : Exact s) (there : ∀ stream, s.streams i = some stream →
    stream.stage.place (s.record stream) = none) {e : NamespaceSubscriber}
    (he : e ∈ s.namespaceSubscribers) : e.namespaceTx ≠ i := by
  rintro rfl
  obtain ⟨stream, hstream, -, hplace, -⟩ := hs e he
  rw [there stream hstream] at hplace
  cases hplace

theorem registers (hs : Exact s) {request : PrefixRequest} (there : s.streams i = some stream)
    (hstage : stream.stage = .checked request) :
    Exact ((s.setStage i stream (.registered request)).setSubscribers
      (Registry.addNamespaceSubscriber s.namespaceSubscribers request.trackNamespacePrefix
        stream.connectionId request.kind request.parameters i)) := by
  have habsent : ∀ e ∈ s.namespaceSubscribers, e.namespaceTx ≠ i := by
    intro e he
    refine hs.not_mem_of_idle (fun stream' hstream' => ?_) he
    rw [there] at hstream'
    cases hstream'
    rw [hstage]
    rfl
  have hmem : ∀ e, e ∈ Registry.addNamespaceSubscriber s.namespaceSubscribers
      request.trackNamespacePrefix stream.connectionId request.kind request.parameters i →
      e ∈ s.namespaceSubscribers ∨ e = ⟨request.trackNamespacePrefix, stream.connectionId,
        request.kind, request.parameters, i⟩ := by
    intro e he
    unfold Registry.addNamespaceSubscriber at he
    split at he
    · exact .inl he
    · simpa using he
  refine hs.move (.registered request) rfl ?_ (fun _ _ _ _ _ => rfl) ?_
  · intro e he htx
    rcases hmem e he with hold | rfl
    · exact hold
    · exact absurd rfl htx
  · intro e he htx
    rcases hmem e he with hold | rfl
    · exact absurd htx (habsent e hold)
    · exact ⟨rfl, rfl, rfl⟩

theorem accepts (hp : Placed s) (hs : Exact s) {request : PrefixRequest}
    (there : s.streams i = some stream) (hstage : stream.stage = .registered request)
    (unused : s.record stream = none) :
    Exact ((s.setStage i stream .accepted).setRecord stream (some request)) := by
  refine hs.move .accepted rfl (fun e he _ => he) ?_ ?_
  · intro j other _ hj hrecorded
    exact State.setRecord_record_of_ne _ _ (hp.not_recorded_of_unused unused j other hj hrecorded)
  · intro e he htx
    obtain ⟨hconnection, hplace, hparameters⟩ := hs.own there he htx
    rw [hstage] at hplace hparameters
    rw [State.setRecord_record_self]
    exact ⟨hconnection, hplace, request, rfl, hparameters⟩

theorem goesOn (hp : Placed s) (hs : Exact s) (there : s.streams i = some stream)
    (before : stream.stage.recorded = true)
    (same : ∀ request, s.record stream = some request → stream.stage.Agrees request →
      stage.place (some request) = stream.stage.place (some request) ∧
      ∀ parameters, stream.stage.ParametersAre (some request) parameters →
        stage.ParametersAre (some request) parameters) :
    Exact (s.setStage i stream stage) := by
  refine hs.move _ rfl (fun e he _ => he) (fun _ _ _ _ _ => rfl) fun e he htx => ?_
  obtain ⟨request, hrecord, hagrees⟩ := hp.record i stream there before
  obtain ⟨hplace', hparameters'⟩ := same request hrecord hagrees
  obtain ⟨hconnection, hplace, hparameters⟩ := hs.own there he htx
  rw [hrecord] at hplace hparameters
  rw [State.setStage_record, hrecord]
  exact ⟨hconnection, hplace'.trans hplace, hparameters' e.parameters hparameters⟩

theorem stores (hp : Placed s) (hs : Exact s) {current : Tuple} {kind : SubscribeKind}
    {parameters : List MessageParameter} (there : s.streams i = some stream)
    (hstage : stream.stage = .updating .filtersAllowed current kind parameters) :
    Exact ((s.setStage i stream (.updating .stored current kind parameters)).setRecord stream
      ((s.record stream).map (·.updated parameters))) := by
  have before : stream.stage.recorded = true := by rw [hstage]; rfl
  refine hs.move (.updating .stored current kind parameters) rfl (fun e he _ => he) ?_ ?_
  · intro j other hne hj hrecorded
    exact State.setRecord_record_of_ne _ _ (hp.alone there before j other hne hj hrecorded)
  · intro e he htx
    obtain ⟨hconnection, hplace, hparameters⟩ := hs.own there he htx
    rw [hstage] at hplace hparameters
    obtain ⟨request, hrecord, hparameters⟩ := hparameters
    rw [State.setRecord_record_self, hrecord]
    exact ⟨hconnection, hplace, request.updated parameters, rfl, by
      rw [hparameters, PrefixRequest.updated]⟩

theorem updates (hp : Placed s) (hs : Exact s) {current : Tuple} {kind : SubscribeKind}
    {parameters : List MessageParameter} (there : s.streams i = some stream)
    (hstage : stream.stage = .updating .stored current kind parameters)
    (first : ∀ e, s.namespaceSubscribers.find? (fun e =>
      e.namespacePrefix = current && e.connectionId = stream.connectionId) = some e →
        e.kind = kind) :
    Exact ((s.setStage i stream (.updating .updated current kind parameters)).setSubscribers
      (Registry.updateNamespaceSubscriptionParameters s.namespaceSubscribers current
        stream.connectionId parameters)) := by
  have hplace : stream.stage.place (s.record stream) = some (current, kind) := by rw [hstage]; rfl
  rw [hp.updateParameters_eq parameters first]
  refine hs.move (.updating .updated current kind parameters) rfl ?_
    (fun _ _ _ _ _ => rfl) ?_
  · intro e he htx
    obtain ⟨old, hold, rfl⟩ := List.mem_map.mp he
    by_cases hat : old.isAt current stream.connectionId kind = true
    · rw [if_pos hat] at htx
      exact absurd (congrArg Address.namespaceTx ((hp.isAt_iff_tx there hplace hold).mp hat)) htx
    · rwa [if_neg hat]
  · intro e he htx
    obtain ⟨old, hold, rfl⟩ := List.mem_map.mp he
    by_cases hat : old.isAt current stream.connectionId kind = true
    · rw [if_pos hat] at htx ⊢
      obtain ⟨hconnection, hplace', hparameters⟩ := hs.own there hold htx
      rw [hstage] at hplace' hparameters
      obtain ⟨request, hrecord, hparameters⟩ := hparameters
      exact ⟨hconnection, hplace', request, hrecord, hparameters.symm⟩
    · rw [if_neg hat] at htx
      obtain ⟨hconnection, hplace', -⟩ := hs.own there hold htx
      cases hplace.symm.trans hplace'
      exact absurd (isAt_iff.mpr ⟨rfl, hconnection.symm, rfl⟩) hat

theorem moves (hp : Placed s) (hs : Exact s) {current newPrefix : Tuple} {kind : SubscribeKind}
    {parameters : List MessageParameter} (there : s.streams i = some stream)
    (hstage : stream.stage = .updating .updated current kind parameters)
    (hrequested : requestedPrefix parameters = some newPrefix) :
    Exact ((s.setStage i stream .serving).setSubscribers
      (Registry.rekeyNamespaceSubscriber s.namespaceSubscribers current newPrefix
        stream.connectionId kind)) := by
  have hplace : stream.stage.place (s.record stream) = some (current, kind) := by rw [hstage]; rfl
  obtain ⟨request, hrecord, hagrees⟩ := hp.record i stream there (by rw [hstage]; rfl)
  rw [hstage] at hagrees
  obtain ⟨moved, hmoved, haddress, hrekey⟩ := hp.rekey_eq there hplace newPrefix
  have htx : moved.namespaceTx = i := congrArg Address.namespaceTx haddress
  rw [hrekey]
  refine hs.move .serving rfl ?_ (fun _ _ _ _ _ => rfl) ?_
  · intro e he hne
    rcases List.mem_append.mp he with hrest | hlast
    · exact (List.mem_filter.mp hrest).1
    · cases List.mem_singleton.mp hlast
      exact absurd htx hne
  · intro e he htx'
    rcases List.mem_append.mp he with hrest | hlast
    · obtain ⟨hmem, hnot⟩ := List.mem_filter.mp hrest
      obtain ⟨hconnection, hplace', -⟩ := hs.own there hmem htx'
      cases hplace.symm.trans hplace'
      have hat : e.isAt e.namespacePrefix stream.connectionId e.kind = true :=
        isAt_iff.mpr ⟨rfl, hconnection.symm, rfl⟩
      simp [hat] at hnot
    · cases List.mem_singleton.mp hlast
      obtain ⟨hconnection, -, hparameters⟩ := hs.own there hmoved htx
      have hkind : moved.kind = kind := congrArg Address.kind haddress
      rw [hstage, hrecord] at hparameters
      rw [State.setSubscribers_record, State.setStage_record, hrecord]
      refine ⟨hconnection, ?_, hparameters⟩
      rw [Stage.place, Option.map_some, hagrees.1, hagrees.2, hkind, Stage.storedPrefix, hrequested,
        Option.getD_some]

theorem cancels (hp : Placed s) (hs : Exact s) {request : PrefixRequest}
    (there : s.streams i = some stream) (hstage : stream.stage = .serving)
    (hrecord : s.record stream = some request) :
    Exact ((s.setStage i stream
      (.cancelling request.trackNamespacePrefix request.kind)).setRecord stream none) := by
  have before : stream.stage.recorded = true := by rw [hstage]; rfl
  refine hs.move (.cancelling request.trackNamespacePrefix request.kind) rfl
    (fun e he _ => he) ?_ ?_
  · intro j other hne hj hrecorded
    exact State.setRecord_record_of_ne _ _ (hp.alone there before j other hne hj hrecorded)
  · intro e he htx
    obtain ⟨hconnection, hplace, -⟩ := hs.own there he htx
    rw [hstage, hrecord] at hplace
    exact ⟨hconnection, hplace, trivial⟩

theorem removes (hs : Exact s) {front : Tuple} {kind : SubscribeKind}
    (there : s.streams i = some stream) (hstage : stream.stage = .cancelling front kind) :
    Exact ((s.setStage i stream .ended).setSubscribers
      (Registry.removeNamespaceSubscriberByPrefix s.namespaceSubscribers front
        stream.connectionId kind)) := by
  have hplace : stream.stage.place (s.record stream) = some (front, kind) := by rw [hstage]; rfl
  refine hs.move .ended rfl (fun e he _ => (List.mem_filter.mp he).1)
    (fun _ _ _ _ _ => rfl) fun e he htx => ?_
  obtain ⟨hmem, hnot⟩ := List.mem_filter.mp he
  obtain ⟨hconnection, hplace', -⟩ := hs.own there hmem htx
  cases hplace.symm.trans hplace'
  have hat : e.isAt e.namespacePrefix stream.connectionId e.kind = true :=
    isAt_iff.mpr ⟨rfl, hconnection.symm, rfl⟩
  simp [hat] at hnot

/-- A step on a stream that has no entry. -/
theorem absent (hs : Exact s) (habsent : ∀ e ∈ s.namespaceSubscribers, e.namespaceTx ≠ i) :
    Exact (s.setStage i stream stage) := by
  refine hs.move _ rfl (fun e he _ => he) (fun _ _ _ _ _ => rfl) fun e he htx => ?_
  exact absurd htx (habsent e he)

theorem transition {a : Action} (hp : Placed s) (hs : Exact s) (keeps : s.keepsRegistry a = true)
    (h : Transition s a s') : Exact s' := by
  obtain ⟨free, keeps⟩ := Bool.and_eq_true_iff.mp keeps
  cases h with
  | stays => exact hs
  | opens i connectionId request stream stage fresh hstage =>
    exact hs.absent fun e he => hs.not_mem_of_idle (by simp [fresh]) he
  | registers i stream request there hstage => exact hs.registers there hstage
  | accepts i stream request there hstage =>
    obtain ⟨connectionId, requestId, stage⟩ := stream
    cases hstage
    simp only [State.takesFreePlaces, there, Option.isNone_iff_eq_none] at free
    exact hs.accepts hp there rfl free
  | goesOn _ i stream stage there before after same =>
    refine hs.goesOn hp there before fun request hrecord hagrees => ?_
    exact (same request hrecord hagrees).2
  | stores i stream current kind parameters there hstage => exact hs.stores hp there hstage
  | updates i stream current kind parameters there hstage =>
    obtain ⟨connectionId, requestId, stage⟩ := stream
    cases hstage
    refine hs.updates hp there rfl fun e hfind => ?_
    simp only [there] at keeps
    rw [hfind] at keeps
    simpa using keeps
  | moves i stream current newPrefix kind parameters there hstage hrequested =>
    exact hs.moves hp there hstage hrequested
  | cancels i stream request there hstage hrecord => exact hs.cancels hp there hstage hrecord
  | removes i stream front kind there hstage => exact hs.removes there hstage
  | ends a i stream there why =>
    rcases why with rfl | ⟨hstage, hnone | habsent⟩
    · cases keeps
    · obtain ⟨request, hrecord, -⟩ := hp.record i stream there (by rw [hstage]; rfl)
      cases hnone.symm.trans hrecord
    · exact hs.absent habsent

end Exact

/-! The other kind and the other connections. -/

/-- The request stream an action is about. -/
def Action.stream : Action → Nat
  | request i _ _ => i
  | proceed i => i
  | sendFails i => i
  | update i _ => i
  | close i => i
  | channelDropped i => i

theorem not_isAt_of_other {e : NamespaceSubscriber} {front : Tuple} {connectionId : Nat}
    {kind : SubscribeKind} (other : e.connectionId ≠ connectionId ∨ e.kind ≠ kind) :
    e.isAt front connectionId kind = false := by
  apply Bool.eq_false_iff.mpr
  intro hat
  obtain ⟨-, hconnection, hkind⟩ := isAt_iff.mp hat
  rcases other with h | h
  · exact h hconnection
  · exact h hkind

/-- No step of a request in force touches an entry of another connection or of the other kind. -/
theorem Transition.others_untouched {s s' : State} {a : Action} (hp : Placed s)
    (keeps : s.keepsRegistry a = true) (h : Transition s a s') {stream : RequestStream}
    {front : Tuple} {kind : SubscribeKind} (there : s.streams a.stream = some stream)
    (hplace : stream.stage.place (s.record stream) = some (front, kind))
    {e : NamespaceSubscriber} (other : e.connectionId ≠ stream.connectionId ∨ e.kind ≠ kind) :
    e ∈ s'.namespaceSubscribers ↔ e ∈ s.namespaceSubscribers := by
  have same : ∀ {i : Nat} {stream' : RequestStream}, a.stream = i →
      s.streams i = some stream' → stream' = stream := by
    intro i stream' hi hstream'
    rw [← hi, there] at hstream'
    exact (Option.some.inj hstream').symm
  cases h with
  | stays => exact Iff.rfl
  | opens => exact Iff.rfl
  | accepts => exact Iff.rfl
  | goesOn => exact Iff.rfl
  | stores => exact Iff.rfl
  | cancels => exact Iff.rfl
  | ends => exact Iff.rfl
  | registers i stream' request there' hstage =>
    cases same rfl there'
    rw [hstage] at hplace
    cases hplace
  | updates i stream' current kind' parameters there' hstage =>
    cases same rfl there'
    have hplace' := hplace
    rw [hstage] at hplace'
    cases hplace'
    obtain ⟨connectionId, requestId, stage⟩ := stream
    cases hstage
    have first : ∀ e, s.namespaceSubscribers.find? (fun e =>
        e.namespacePrefix = front && e.connectionId = connectionId) = some e → e.kind = kind := by
      intro found hfind
      simp only [State.keepsRegistry, there', hfind, Bool.and_eq_true] at keeps
      simpa using keeps.2
    rw [State.setSubscribers_namespaceSubscribers, hp.updateParameters_eq parameters first,
      List.mem_map]
    constructor
    · rintro ⟨old, hold, rfl⟩
      by_cases hat : old.isAt front connectionId kind = true
      · rw [if_pos hat] at other
        have : old.isAt front connectionId kind = false := not_isAt_of_other other
        rw [hat] at this
        cases this
      · rwa [if_neg hat]
    · intro he
      exact ⟨e, he, by rw [not_isAt_of_other other, if_neg Bool.false_ne_true]⟩
  | moves i stream' current newPrefix kind' parameters there' hstage hrequested =>
    cases same rfl there'
    have hplace' := hplace
    rw [hstage] at hplace'
    cases hplace'
    obtain ⟨moved, -, haddress, hrekey⟩ := hp.rekey_eq there' hplace newPrefix
    rw [State.setSubscribers_namespaceSubscribers, hrekey, List.mem_append, List.mem_filter,
      List.mem_singleton, not_isAt_of_other other]
    constructor
    · rintro (⟨he, -⟩ | rfl)
      · exact he
      · rcases other with h | h
        · exact absurd (congrArg Address.connectionId haddress) h
        · exact absurd (congrArg Address.kind haddress) h
    · intro he
      exact .inl ⟨he, rfl⟩
  | removes i stream' front' kind' there' hstage =>
    cases same rfl there'
    rw [hstage] at hplace
    cases hplace
    rw [State.setSubscribers_namespaceSubscribers,
      Registry.removeNamespaceSubscriberByPrefix, List.mem_filter, not_isAt_of_other other]
    exact and_iff_left rfl

/-! Runs. -/

theorem placed_initial : Placed .initial := by
  constructor
  · nofun
  · exact List.Pairwise.nil
  · nofun
  · nofun

/-- Whether a request stream of the connection has the prefix in force. -/
def State.InForce (s : State) (front : Tuple) (connectionId : Nat) (kind : SubscribeKind) : Prop :=
  ∃ i stream, s.streams i = some stream ∧ stream.connectionId = connectionId ∧
    stream.stage.place (s.record stream) = some (front, kind)

theorem exists_isAt_iff {s : State} (hp : Placed s) (hs : Exact s) (front : Tuple)
    (connectionId : Nat) (kind : SubscribeKind) :
    (∃ e ∈ s.namespaceSubscribers, e.isAt front connectionId kind = true) ↔
      s.InForce front connectionId kind := by
  constructor
  · rintro ⟨e, he, hat⟩
    obtain ⟨rfl, rfl, rfl⟩ := isAt_iff.mp hat
    obtain ⟨stream, hstream, hconnection, hplace, -⟩ := hs e he
    exact ⟨e.namespaceTx, stream, hstream, hconnection, hplace⟩
  · rintro ⟨i, stream, hstream, rfl, hplace⟩
    obtain ⟨e, he, haddress⟩ := List.mem_map.mp (hp.entry i stream front kind hstream hplace)
    exact ⟨e, he, (hp.isAt_iff_tx hstream hplace he).mpr haddress⟩

theorem Placed.eq_of_isAt {s : State} (hp : Placed s) {e e' : NamespaceSubscriber}
    (he : e ∈ s.namespaceSubscribers) (he' : e' ∈ s.namespaceSubscribers)
    (hat : e.isAt e'.namespacePrefix e'.connectionId e'.kind = true) : e = e' := by
  have : Std.Symm fun e e' : NamespaceSubscriber => ¬ e.address.SameKey e'.address :=
    ⟨fun _ _ h h' => h (Address.SameKey.symm h')⟩
  by_contra hne
  exact (List.pairwise_map.mp hp.keys).forall he he' hne (isAt_iff.mp hat)

/-- In every run of which each step is as it should be, the registry holds an entry for the prefix
of every live request and for nothing else, one at each key, with the request's parameters; and what
is done for a request of one kind leaves the entries of the other kind alone. -/
theorem registry_holds_live_requests {maxFilterRanges : Nat} {actions : List Action} {s : State}
    (keeps : Along (step maxFilterRanges) (fun s a => s.keepsRegistry a = true) .initial actions)
    (hrun : run (step maxFilterRanges) .initial actions = some s) :
    (∀ front connectionId kind,
      (∃ e ∈ s.namespaceSubscribers, e.isAt front connectionId kind = true) ↔
        s.InForce front connectionId kind) ∧
    Exact s ∧
    (∀ e ∈ s.namespaceSubscribers, ∀ e' ∈ s.namespaceSubscribers,
      e.isAt e'.namespacePrefix e'.connectionId e'.kind = true → e = e') ∧
    ∀ a s', s.keepsRegistry a = true → step maxFilterRanges s a = some s' →
      ∀ stream front kind, s.streams a.stream = some stream →
        stream.stage.place (s.record stream) = some (front, kind) →
        ∀ e : NamespaceSubscriber, e.connectionId ≠ stream.connectionId ∨ e.kind ≠ kind →
          (e ∈ s'.namespaceSubscribers ↔ e ∈ s.namespaceSubscribers) := by
  obtain ⟨hp, hs⟩ : Placed s ∧ Exact s := by
    refine run_invariant (I := fun s => Placed s ∧ Exact s) ?_ actions _ _ ?_ keeps hrun
    · rintro s a s' ⟨hp, hs⟩ hkeeps hstep
      have htransition := step_transition hstep
      exact ⟨hp.transition (Bool.and_eq_true_iff.mp hkeeps).1 htransition,
        hs.transition hp hkeeps htransition⟩
    · exact ⟨placed_initial, nofun⟩
  refine ⟨exists_isAt_iff hp hs, hs, fun e he e' he' hat => hp.eq_of_isAt he he' hat, ?_⟩
  intro a s' hkeeps hstep stream front kind there hplace e other
  exact (step_transition hstep).others_untouched hp hkeeps there hplace other

/-- A SUBSCRIBE_NAMESPACE for a prefix, and a SUBSCRIBE_TRACKS that an update with another
parameter moves there. -/
def movedThere : List Action :=
  let front : Tuple := ⟨[[1]]⟩
  [.request 0 7 ⟨.namespaces, 0, front, []⟩, .proceed 0, .proceed 0, .proceed 0,
    .request 1 7 ⟨.tracks, 2, ⟨[[2]]⟩, []⟩, .proceed 1, .proceed 1, .proceed 1,
    .update 1 [.forward false, .trackNamespacePrefix front],
    .proceed 1, .proceed 1, .proceed 1, .proceed 1, .proceed 1]

theorem registry_holds_live_requests_moved : ∃ s, run (step 10) .initial movedThere = some s ∧
    Exact s ∧ (s.namespaceSubscribers.map fun e => (e.namespacePrefix, e.kind, e.parameters.length)) =
      [(⟨[[1]]⟩, .namespaces, 0), (⟨[[1]]⟩, .tracks, 2)] := by
  obtain ⟨s, hrun⟩ : ∃ s, run (step 10) .initial movedThere = some s := ⟨_, rfl⟩
  refine ⟨s, hrun, (registry_holds_live_requests (by decide) hrun).2.1, ?_⟩
  cases hrun
  rfl

/-- A SUBSCRIBE_NAMESPACE and a SUBSCRIBE_TRACKS for one prefix, of which the second is updated. -/
def sharedPrefix : List Action :=
  let front : Tuple := ⟨[[1]]⟩
  [.request 0 7 ⟨.namespaces, 0, front, []⟩, .proceed 0, .proceed 0, .proceed 0,
    .request 1 7 ⟨.tracks, 2, front, []⟩, .proceed 1, .proceed 1, .proceed 1,
    .update 1 [.forward false], .proceed 1, .proceed 1, .proceed 1, .proceed 1, .proceed 1]

/-- The update changes the parameters of the SUBSCRIBE_NAMESPACE's entry. -/
theorem not_registry_holds_live_requests : ¬ ∀ (maxFilterRanges : Nat) (actions : List Action)
    (s : State), run (step maxFilterRanges) .initial actions = some s →
      ∀ i stream request, s.streams i = some stream → stream.stage = .serving →
        s.record stream = some request →
        ∀ e ∈ s.namespaceSubscribers,
          e.isAt request.trackNamespacePrefix stream.connectionId request.kind = true →
          e.parameters = request.parameters := by
  intro h
  have hrun : run (step 10) .initial sharedPrefix = some _ := rfl
  have hsame := h 10 sharedPrefix _ hrun 0 _ _ rfl rfl rfl
    ⟨⟨[[1]]⟩, 7, .namespaces, [.forward false], 0⟩ (List.mem_cons_self ..) (by decide)
  cases hsame

/-! Prefixes stay apart. -/

theorem findOverlapping_eq_none_iff {subs : List NamespaceSubscriber} {connectionId : Nat}
    {newPrefix : Tuple} {kind : SubscribeKind} {exclude : Option Tuple} :
    Registry.findOverlappingNamespaceSubscription subs connectionId newPrefix kind exclude = none ↔
      ∀ e ∈ subs, exclude ≠ some e.namespacePrefix → e.connectionId = connectionId →
        e.kind = kind → namespacePrefixesOverlap newPrefix e.namespacePrefix = false := by
  simp only [Registry.findOverlappingNamespaceSubscription, Option.map_eq_none_iff,
    List.find?_eq_none, NamespaceSubscriber.isOf, Bool.and_eq_true, decide_eq_true_eq, not_and,
    Bool.not_eq_true, ne_eq, and_imp]

namespace Clear

variable {s s' : State} {i : Nat} {stream : RequestStream} {stage : Stage}

/-- What a prefix is clear of, it stays clear of as long as no entry of its connection and kind
comes in. -/
theorem clearFor_of_addresses {connectionId : Nat} {place : Tuple × SubscribeKind × Option Tuple}
    (h : s.ClearFor connectionId place)
    (hold : ∀ a ∈ s'.addresses, a ∈ s.addresses ∨ a.connectionId ≠ connectionId ∨ a.kind ≠ place.2.1) :
    s'.ClearFor connectionId place := by
  rw [State.ClearFor, findOverlapping_eq_none_iff] at h ⊢
  intro e he hexclude hconnection hkind
  rcases hold e.address (List.mem_map_of_mem he) with hmem | hne | hne
  · obtain ⟨e', he', haddress⟩ := List.mem_map.mp hmem
    have hfront : e'.namespacePrefix = e.namespacePrefix :=
      congrArg Address.namespacePrefix haddress
    rw [← hfront] at hexclude ⊢
    exact h e' he' hexclude ((congrArg Address.connectionId haddress).trans hconnection)
      ((congrArg Address.kind haddress).trans hkind)
  · exact absurd hconnection hne
  · exact absurd hkind hne

/-- A step of one stream, for which its own new stage is accounted for. -/
theorem move (hs : Clear s) (there : s'.streams = (s.setStage i stream stage).streams)
    (own : ∀ place, stage.tested = some place → s'.ClearFor stream.connectionId place)
    (others : ∀ j other place, j ≠ i → s.streams j = some other → other.stage.tested = some place →
      ∀ a ∈ s'.addresses, a ∈ s.addresses ∨ a.connectionId ≠ other.connectionId ∨
        a.kind ≠ place.2.1) : Clear s' := by
  intro j other place hother hplace
  rw [there] at hother
  by_cases hji : j = i
  · subst hji
    rw [State.setStage_streams_self, Option.some.injEq] at hother
    subst hother
    exact own place hplace
  · rw [State.setStage_streams_of_ne s stream stage hji] at hother
    exact clearFor_of_addresses (hs j other place hother hplace)
      (others j other place hji hother hplace)

/-- Nothing comes in. -/
theorem stay (hs : Clear s) (there : s'.streams = (s.setStage i stream stage).streams)
    (own : ∀ place, stage.tested = some place → s.ClearFor stream.connectionId place)
    (hold : ∀ a ∈ s'.addresses, a ∈ s.addresses) : Clear s' :=
  hs.move there
    (fun place hplace => clearFor_of_addresses (own place hplace) fun a ha => .inl (hold a ha))
    fun _ _ _ _ _ _ a ha => .inl (hold a ha)

/-- What comes in is of a connection and kind that no other stream has been tested for. -/
theorem others_of_undisturbed {kind : SubscribeKind} (there : s.streams i = some stream)
    (hinserts : stream.stage.inserts = some kind) (free : s.undisturbed (.proceed i)) {a : Address}
    (hconnection : a.connectionId = stream.connectionId) (hkind : a.kind = kind) {j : Nat}
    {other : RequestStream} {place : Tuple × SubscribeKind × Option Tuple} (hji : j ≠ i)
    (hother : s.streams j = some other) (hplace : other.stage.tested = some place) :
    a.connectionId ≠ other.connectionId ∨ a.kind ≠ place.2.1 := by
  simp only [State.undisturbed, there] at free
  by_contra hboth
  push Not at hboth
  refine free.1 kind hinserts ⟨j, other, hji, hother, hboth.1.symm.trans hconnection, ?_⟩
  rw [hplace, Option.map_some, ← hboth.2, hkind]

theorem addresses_addNamespaceSubscriber {front : Tuple} {connectionId : Nat} {kind : SubscribeKind}
    {parameters : List MessageParameter} {a : Address}
    (ha : a ∈ (Registry.addNamespaceSubscriber s.namespaceSubscribers front connectionId kind
      parameters i).map (·.address)) :
    a ∈ s.addresses ∨ a.connectionId = connectionId ∧ a.kind = kind := by
  unfold Registry.addNamespaceSubscriber at ha
  split at ha
  · exact .inl ha
  · rw [List.map_append] at ha
    rcases List.mem_append.mp ha with ha | ha
    · exact .inl ha
    · cases List.mem_singleton.mp ha
      exact .inr ⟨rfl, rfl⟩

theorem addresses_rekeyNamespaceSubscriber {current newPrefix : Tuple} {connectionId : Nat}
    {kind : SubscribeKind} {a : Address}
    (ha : a ∈ (Registry.rekeyNamespaceSubscriber s.namespaceSubscribers current newPrefix
      connectionId kind).map (·.address)) :
    a ∈ s.addresses ∨ a.connectionId = connectionId ∧ a.kind = kind := by
  unfold Registry.rekeyNamespaceSubscriber at ha
  split at ha
  · exact .inl ha
  next e hfind =>
    have hat : e.isAt current connectionId kind = true :=
      List.find?_some (p := fun e : NamespaceSubscriber => e.isAt current connectionId kind) hfind
    obtain ⟨-, hconnection, hkind⟩ := isAt_iff.mp hat
    rw [List.map_append] at ha
    rcases List.mem_append.mp ha with ha | ha
    · exact .inl ((List.eraseP_sublist.map _).subset ha)
    · cases List.mem_singleton.mp ha
      exact .inr ⟨hconnection, hkind⟩

theorem transition {a : Action} (hs : Clear s) (free : s.undisturbed a) (h : Transition s a s') :
    Clear s' := by
  cases h with
  | stays => exact hs
  | opens i connectionId request stream stage fresh hconnection hstage =>
    refine hs.stay rfl (fun place hplace => ?_) fun _ ha => ha
    rcases hstage with ⟨rfl, hclear⟩ | rfl
    · cases hplace
      exact hconnection ▸ hclear
    · cases hplace
  | registers i stream request there hstage =>
    refine hs.move rfl nofun fun j other place hji hother hplace a ha => ?_
    refine (addresses_addNamespaceSubscriber ha).imp_right fun ⟨hconnection, hkind⟩ => ?_
    exact others_of_undisturbed there (by rw [hstage]; rfl) free hconnection hkind hji hother hplace
  | accepts i stream request there hstage => exact hs.stay rfl nofun fun _ ha => ha
  | goesOn a i stream stage there before after same tests =>
    refine hs.stay rfl (fun place hplace => ?_) fun _ ha => ha
    rcases tests place hplace with hbefore | hclear
    · exact hs i stream place there hbefore
    · exact hclear
  | stores i stream current kind parameters there hstage =>
    refine hs.stay rfl (fun place hplace => ?_) fun _ ha => ha
    exact hs i stream place there (by rw [hstage]; exact hplace)
  | updates i stream current kind parameters there hstage =>
    have hsame : (Registry.updateNamespaceSubscriptionParameters s.namespaceSubscribers current
        stream.connectionId parameters).map (·.address) = s.addresses := by
      apply map_modifyFirst
      intro e
      rfl
    refine hs.stay rfl (fun place hplace => ?_) fun a ha => hsame ▸ ha
    exact hs i stream place there (by rw [hstage]; exact hplace)
  | moves i stream current newPrefix kind parameters there hstage hrequested =>
    refine hs.move rfl nofun fun j other place hji hother hplace a ha => ?_
    refine (addresses_rekeyNamespaceSubscriber ha).imp_right fun ⟨hconnection, hkind⟩ => ?_
    have hinserts : stream.stage.inserts = some kind := by
      rw [hstage, Stage.inserts, hrequested]
      rfl
    exact others_of_undisturbed there hinserts free hconnection hkind hji hother hplace
  | cancels => exact hs.stay rfl nofun fun _ ha => ha
  | removes i stream front kind there hstage =>
    exact hs.stay rfl nofun fun a ha => (List.filter_sublist.map _).subset ha
  | ends => exact hs.stay rfl nofun fun _ ha => ha

/-- What was clear when it was tested is clear when it is put into the registry. -/
theorem keepsApart (hs : Clear s) {a : Action} (free : s.undisturbed a) :
    s.keepsApart a = true := by
  cases a with
  | proceed i =>
    simp only [State.keepsApart]
    split
    next connectionId requestId stage there =>
      simp only [State.undisturbed, there] at free
      split
      next request => exact Option.isNone_iff_eq_none.mpr (hs i _ _ there rfl)
      next request => exact Option.isNone_iff_eq_none.mpr (free.2 request rfl)
      next current kind parameters =>
        cases hrequested : requestedPrefix parameters with
        | none => rfl
        | some newPrefix =>
          have hplace : (Stage.updating .updated current kind parameters).tested =
              some (newPrefix, kind, some current) := by
            rw [Stage.tested, hrequested]
            · rfl
            · nofun
          exact Option.isNone_iff_eq_none.mpr (hs i _ _ there hplace)
      · rfl
    · rfl
  | _ => rfl

end Clear

theorem takesFreePlaces_of_keepsApart {s : State} {a : Action} (h : s.keepsApart a = true) :
    s.takesFreePlaces a = true := by
  cases a with
  | proceed i =>
    simp only [State.keepsApart, State.takesFreePlaces] at h ⊢
    split at h
    next connectionId requestId stage there =>
      split at h
      next request =>
        rw [Option.isNone_iff_eq_none, findOverlapping_eq_none_iff] at h
        rw [Bool.not_eq_true', List.any_eq_false]
        intro e he hat
        obtain ⟨hrequested, hconnection, hkind⟩ := isAt_iff.mp hat
        have := h e he nofun hconnection hkind
        rw [hrequested, namespacePrefixesOverlap_self] at this
        cases this
      · exact h
      next current kind parameters =>
        cases hrequested : requestedPrefix parameters with
        | none => rfl
        | some newPrefix =>
          rw [hrequested, Option.all_some, Option.isNone_iff_eq_none, findOverlapping_eq_none_iff] at h
          rw [Option.all_some, Bool.or_eq_true, decide_eq_true_eq, Bool.not_eq_true',
            List.any_eq_false]
          by_cases hsame : newPrefix = current
          · exact .inl hsame
          · right
            intro e he hat
            obtain ⟨hfront, hconnection, hkind⟩ := isAt_iff.mp hat
            have := h e he (fun hc => hsame (hfront.symm.trans (Option.some.inj hc).symm))
              hconnection hkind
            rw [hfront, namespacePrefixesOverlap_self] at this
            cases this
      · rfl
    · rfl
  | _ => rfl

namespace Apart

variable {s s' : State}

theorem registers (hs : Apart s) {i : Nat} {stream : RequestStream} {request : PrefixRequest}
    (clear : Registry.findOverlappingNamespaceSubscription s.namespaceSubscribers
      stream.connectionId request.trackNamespacePrefix request.kind none = none) :
    Apart ((s.setStage i stream (.registered request)).setSubscribers
      (Registry.addNamespaceSubscriber s.namespaceSubscribers request.trackNamespacePrefix
        stream.connectionId request.kind request.parameters i)) := by
  rw [findOverlapping_eq_none_iff] at clear
  unfold Registry.addNamespaceSubscriber
  split
  · exact hs
  · simp only [Apart, State.addresses, State.setSubscribers_namespaceSubscribers, List.map_append,
      List.map_singleton]
    refine List.pairwise_append.mpr ⟨hs, List.pairwise_singleton _ _, ?_⟩
    intro a ha b hb hconnection hkind
    obtain ⟨e, he, rfl⟩ := List.mem_map.mp ha
    cases List.mem_singleton.mp hb
    rw [namespacePrefixesOverlap_comm]
    exact clear e he nofun hconnection hkind

theorem moves (hp : Placed s) (hs : Apart s) {i : Nat} {stream : RequestStream}
    {current newPrefix : Tuple} {kind : SubscribeKind} (there : s.streams i = some stream)
    (hplace : stream.stage.place (s.record stream) = some (current, kind))
    (clear : Registry.findOverlappingNamespaceSubscription s.namespaceSubscribers
      stream.connectionId newPrefix kind (some current) = none) :
    Apart ((s.setStage i stream .serving).setSubscribers
      (Registry.rekeyNamespaceSubscriber s.namespaceSubscribers current newPrefix
        stream.connectionId kind)) := by
  rw [findOverlapping_eq_none_iff] at clear
  obtain ⟨moved, -, haddress, hrekey⟩ := hp.rekey_eq there hplace newPrefix
  have hconnection : moved.connectionId = stream.connectionId :=
    congrArg Address.connectionId haddress
  have hkind : moved.kind = kind := congrArg Address.kind haddress
  simp only [Apart, State.addresses, State.setSubscribers_namespaceSubscribers, hrekey,
    List.map_append, List.map_singleton]
  refine List.pairwise_append.mpr ⟨hs.sublist (List.filter_sublist.map _),
    List.pairwise_singleton _ _, ?_⟩
  intro a ha b hb hconnection' hkind'
  obtain ⟨e, he, rfl⟩ := List.mem_map.mp ha
  obtain ⟨hmem, hnot⟩ := List.mem_filter.mp he
  cases List.mem_singleton.mp hb
  have heconnection : e.connectionId = stream.connectionId := hconnection'.trans hconnection
  have hekind : e.kind = kind := hkind'.trans hkind
  rw [namespacePrefixesOverlap_comm]
  refine clear e hmem ?_ heconnection hekind
  intro hcurrent
  have hat : e.isAt current stream.connectionId kind = true :=
    isAt_iff.mpr ⟨(Option.some.inj hcurrent).symm, heconnection, hekind⟩
  simp [hat] at hnot

theorem transition {a : Action} (hp : Placed s) (hs : Apart s) (keeps : s.keepsApart a = true)
    (h : Transition s a s') : Apart s' := by
  cases h with
  | stays => exact hs
  | opens => exact hs
  | accepts => exact hs
  | goesOn => exact hs
  | stores => exact hs
  | cancels => exact hs
  | ends => exact hs
  | registers i stream request there hstage =>
    obtain ⟨connectionId, requestId, stage⟩ := stream
    cases hstage
    simp only [State.keepsApart, there, Option.isNone_iff_eq_none] at keeps
    exact hs.registers keeps
  | updates i stream current kind parameters there hstage =>
    have : (Registry.updateNamespaceSubscriptionParameters s.namespaceSubscribers current
        stream.connectionId parameters).map (·.address) = s.addresses := by
      apply map_modifyFirst
      intro e
      rfl
    rw [Apart, State.addresses, State.setSubscribers_namespaceSubscribers, this]
    exact hs
  | moves i stream current newPrefix kind parameters there hstage hrequested =>
    obtain ⟨connectionId, requestId, stage⟩ := stream
    cases hstage
    simp only [State.keepsApart, there, hrequested, Option.all_some, Option.isNone_iff_eq_none] at keeps
    exact hs.moves hp there rfl keeps
  | removes i stream front kind there hstage => exact hs.sublist (List.filter_sublist.map _)

end Apart

/-- In every run in which no request is registered or moved between the test and the insertion of
another of its connection and kind, the prefixes that two request streams of a connection have in
force for one kind do not overlap. -/
theorem live_prefixes_apart {maxFilterRanges : Nat} {actions : List Action} {s : State}
    (keeps : Along (step maxFilterRanges) State.undisturbed .initial actions)
    (hrun : run (step maxFilterRanges) .initial actions = some s) {i j : Nat}
    {one other : RequestStream} {front back : Tuple} {kind : SubscribeKind} (hij : i ≠ j)
    (hone : s.streams i = some one) (hother : s.streams j = some other)
    (hconnection : one.connectionId = other.connectionId)
    (hfront : one.stage.place (s.record one) = some (front, kind))
    (hback : other.stage.place (s.record other) = some (back, kind)) :
    ¬ front.fields <+: back.fields ∧ ¬ back.fields <+: front.fields := by
  obtain ⟨hp, hs, -⟩ : Placed s ∧ Apart s ∧ Clear s := by
    refine run_invariant (I := fun s => Placed s ∧ Apart s ∧ Clear s) ?_ actions _ _ ?_ keeps hrun
    · rintro s a s' ⟨hp, hs, hclear⟩ hfree hstep
      have htransition := step_transition hstep
      have hkeeps := hclear.keepsApart hfree
      exact ⟨hp.transition (takesFreePlaces_of_keepsApart hkeeps) htransition,
        hs.transition hp hkeeps htransition, hclear.transition hfree htransition⟩
    · exact ⟨placed_initial, List.Pairwise.nil, nofun⟩
  have : Std.Symm Address.Apart := ⟨fun a b h hconnection hkind => by
    rw [namespacePrefixesOverlap_comm]
    exact h hconnection.symm hkind.symm⟩
  have hapart : namespacePrefixesOverlap front back = false :=
    hs.forall (hp.entry i one front kind hone hfront) (hp.entry j other back kind hother hback)
      (fun h => hij (congrArg Address.namespaceTx h)) hconnection rfl
  simp only [namespacePrefixesOverlap, Bool.or_eq_false_iff] at hapart
  constructor
  · intro h
    have := Tuple.startsWith_iff.mpr h
    rw [hapart.2] at this
    cases this
  · intro h
    have := Tuple.startsWith_iff.mpr h
    rw [hapart.1.2] at this
    cases this

/-- A SUBSCRIBE_TRACKS that an update moves next to another. -/
def movedNextTo : List Action :=
  [.request 0 7 ⟨.tracks, 0, ⟨[[1], [2]]⟩, []⟩, .proceed 0, .proceed 0, .proceed 0,
    .request 1 7 ⟨.tracks, 2, ⟨[[2]]⟩, []⟩, .proceed 1, .proceed 1, .proceed 1,
    .update 1 [.trackNamespacePrefix ⟨[[1], [3]]⟩],
    .proceed 1, .proceed 1, .proceed 1, .proceed 1, .proceed 1]

/-- No stream but `i` is past a test of its own. -/
theorem not_othersTested {s : State} {i : Nat} {connectionId : Nat} {kind : SubscribeKind}
    (h : ∀ j stream, j ≠ i → s.streams j = some stream → stream.stage.tested = none) :
    ¬ s.othersTested i connectionId kind := by
  rintro ⟨j, stream, hji, hstream, -, htested⟩
  rw [h j stream hji hstream] at htested
  cases htested

theorem movedNextTo_undisturbed : Along (step 10) State.undisturbed .initial movedNextTo := by
  have two {s : State} {i : Nat} (hmore : ∀ j, s.streams (j + 2) = none)
      (h : ∀ j < 2, j ≠ i → ∀ stream ∈ s.streams j, stream.stage.tested = none)
      {connectionId : Nat} {kind : SubscribeKind} : ¬ s.othersTested i connectionId kind := by
    refine not_othersTested fun j stream hji hstream => ?_
    by_cases hj : j < 2
    · exact h j hj hji stream hstream
    · obtain ⟨k, rfl⟩ : ∃ k, j = k + 2 := ⟨j - 2, by omega⟩
      rw [hmore k] at hstream
      cases hstream
  refine ⟨trivial, fun s hs => ?_⟩
  cases hs
  refine ⟨⟨fun _ _ => two (fun _ => rfl) (by decide), nofun⟩, fun s hs => ?_⟩
  cases hs
  refine ⟨⟨nofun, fun _ _ => rfl⟩, fun s hs => ?_⟩
  cases hs
  refine ⟨⟨nofun, nofun⟩, fun s hs => ?_⟩
  cases hs
  refine ⟨trivial, fun s hs => ?_⟩
  cases hs
  refine ⟨⟨fun _ _ => two (fun _ => rfl) (by decide), nofun⟩, fun s hs => ?_⟩
  cases hs
  refine ⟨⟨nofun, fun _ _ => rfl⟩, fun s hs => ?_⟩
  cases hs
  refine ⟨⟨nofun, nofun⟩, fun s hs => ?_⟩
  cases hs
  refine ⟨trivial, fun s hs => ?_⟩
  cases hs
  refine ⟨⟨nofun, nofun⟩, fun s hs => ?_⟩
  cases hs
  refine ⟨⟨nofun, nofun⟩, fun s hs => ?_⟩
  cases hs
  refine ⟨⟨nofun, nofun⟩, fun s hs => ?_⟩
  cases hs
  refine ⟨⟨nofun, nofun⟩, fun s hs => ?_⟩
  cases hs
  refine ⟨⟨fun _ _ => two (fun _ => rfl) (by decide), nofun⟩, fun s hs => ?_⟩
  cases hs
  trivial

theorem live_prefixes_apart_moved : ∃ s, run (step 10) .initial movedNextTo = some s ∧
    ¬ ([[1], [2]] : List TupleField) <+: [[1], [3]] ∧
    ¬ ([[1], [3]] : List TupleField) <+: [[1], [2]] := by
  have hrun : run (step 10) .initial movedNextTo = some _ := rfl
  exact ⟨_, hrun, live_prefixes_apart (i := 0) (j := 1) movedNextTo_undisturbed hrun (by decide) rfl
    rfl rfl rfl rfl⟩

/-- Two requests that both pass the test before either is registered. -/
def racing : List Action :=
  [.request 0 7 ⟨.namespaces, 0, ⟨[[1]]⟩, []⟩, .request 1 7 ⟨.namespaces, 2, ⟨[[1], [2]]⟩, []⟩,
    .proceed 0, .proceed 1, .proceed 0, .proceed 1, .proceed 0, .proceed 1]

theorem not_live_prefixes_apart : ¬ ∀ (maxFilterRanges : Nat) (actions : List Action) (s : State),
    run (step maxFilterRanges) .initial actions = some s →
      ∀ i j one other request request', i ≠ j → s.streams i = some one → s.streams j = some other →
        one.connectionId = other.connectionId → one.stage = .serving → other.stage = .serving →
        s.record one = some request → s.record other = some request' →
        request.kind = request'.kind →
        ¬ request.trackNamespacePrefix.fields <+: request'.trackNamespacePrefix.fields := by
  intro h
  have hrun : run (step 10) .initial racing = some _ := rfl
  exact h 10 racing _ hrun 0 1 _ _ _ _ (by decide) rfl rfl rfl rfl rfl rfl rfl rfl (by decide)

end Moqtail.Prefixes
