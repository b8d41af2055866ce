import Moqtail.Relay.FetchEnd
import Moqtail.Relay.Track
import Moqtail.Wire.CombinedFilter
import Moqtail.Wire.FullTrackName

/-! The Full Track Names a relay takes in, from `server/message_handlers`.

SUBSCRIBE, FETCH, PUBLISH and TRACK_STATUS name a track. A handler turns the request away, or
goes on with the name: it makes entries under it in the relay's tables, and sends requests of its
own with it. What a handler looks at on the way is in `RelayView`; the answers to a request it
goes on with are left out. -/
namespace Moqtail

open Lib Message
open Control (TrackOrigin)

/-! Names in messages. -/

def Message.Subscribe.getFullTrackName (m : Subscribe) : FullTrackName :=
  ⟨m.trackNamespace, m.trackName⟩

def Message.Fetch.getFullTrackName (m : Fetch) : FullTrackName := ⟨m.trackNamespace, m.trackName⟩

def Message.TrackStatus.getFullTrackName (m : TrackStatus) : FullTrackName :=
  ⟨m.trackNamespace, m.trackName⟩

/-- The name `handle_publish_message` puts together. -/
def Message.Publish.fullTrackName (m : Publish) : FullTrackName := ⟨m.trackNamespace, m.trackName⟩

def Message.Fetch.getLocationFilter (m : Fetch) : LocationFilter :=
  (m.parameters.findSome? fun
    | .locationFilter filter => some filter
    | _ => none).getD .none

def Message.ControlMessage.fullTrackName? : ControlMessage → Option FullTrackName
  | .subscribe m => some m.getFullTrackName
  | .fetch m => some m.getFullTrackName
  | .publish m => some m.fullTrackName
  | .trackStatus m => some m.getFullTrackName
  | _ => none

/-! Why a request is turned away. -/

inductive Refusal where
  | invalidFilter (error : RangeFilterError)
  | requestError (errorCode : RequestErrorCode) (reason : String)
  | protocolViolation
  | duplicateTrackAlias
deriving Repr, DecidableEq

def objectFilter (params : List MessageParameter) (limit : Nat) :
    Except RangeFilterError CombinedFilter := do
  checkFilterRangeLimit params limit
  checkFills params
  CombinedFilter.forObjects params

def reservedNamespaceRejection (trackNamespace : Tuple) (trackName : TupleField) : Option String :=
  if trackNamespace.isReservedDot then some "the '.' namespace is reserved and does not exist"
  else if trackNamespace.isSessionNamespace then
    if trackName = [] then some ".session with an empty track name does not exist"
    else some "unrecognized session-level track"
  else none

def hasUnsupportedMandatory (properties : List TrackProperty) : Bool :=
  properties.any fun
    | .unknownMandatory _ => true
    | _ => false

/-- Everyone may publish. -/
def validatePublishAuthorization (_ : Tuple) : Bool := true

/-- In milliseconds. -/
def rendezvousTimeout (parameters : List MessageParameter) (max : Nat) : Nat :=
  ((parameters.findSome? fun
    | .rendezvousTimeout timeout => some timeout.toNat
    | _ => none).map (min · max)).getD 0

/-! What the relay knows. -/

/-- A session, as far as `get_publishers_for_track` looks at it. -/
structure RegisteredClient where
  connectionId : Nat
  publishedTracks : List FullTrackName
  announcedTrackNamespaces : List Tuple
  malformedTracks : List FullTrackName
deriving Repr

/-- `clients` are those of the moment a publisher is found or the wait for one is over.
`subscriptions` and `trackAliases` are of the session the request comes from. `joined` says that
the subscription was added and its switching set assignment accepted, and `pushedTo` are the
subscribers a new track is pushed to. -/
structure RelayView where
  maxFilterRanges : Nat
  maxRendezvousTimeout : Nat
  clients : List RegisteredClient
  tracks : FullTrackName → Option TrackOrigin
  subscriptions : UInt64 → Option FullTrackName
  trackAliases : UInt64 → Option FullTrackName
  joined : Bool
  range : RangeSources
  pushedTo : FullTrackName → List Nat

namespace RelayView

def getPublishersForTrack (v : RelayView) (name : FullTrackName) : List RegisteredClient :=
  v.clients.filter fun client =>
    name ∉ client.malformedTracks &&
      (name ∈ client.publishedTracks ||
        client.announcedTrackNamespaces.any (name.trackNamespace.startsWith ·))

/-- The errors of `plan_switch`. -/
def switchRefusal (v : RelayView) (activatingRequestId : UInt64) (activating : FullTrackName)
    (parameters : List MessageParameter) : Option String :=
  match parameters.findSome? (fun | .switchFrom requestId _ _ => some requestId | _ => none) with
  | none => none
  | some requestId =>
    if parameters.any (fun | .forward _ => true | _ => false) then
      some "SWITCH_FROM cannot be combined with FORWARD"
    else if requestId = activatingRequestId then
      some "a subscription cannot switch away from itself"
    else
      match v.subscriptions requestId with
      | none => some "no such subscription to switch away from"
      | some suspending =>
        if suspending = activating then some "a subscription cannot switch away from its own track"
        else none

/-- Whether nothing live feeds the track: the relay does not have it, or only its cache. A request
then creates it or takes it over. -/
def isUnfed (v : RelayView) (name : FullTrackName) : Bool :=
  v.tracks name = none || v.tracks name = some .cacheOnly

/-- An alias the session has given a track of another name, or one that is gone. -/
def aliasTaken (v : RelayView) (trackAlias : UInt64) (name : FullTrackName) : Bool :=
  match v.trackAliases trackAlias with
  | none => false
  | some existing => !(existing = name && (v.tracks existing).isSome)

end RelayView

/-! The handlers. -/

/-- The names a handler makes entries under, and those of the requests it sends. -/
structure NameUse where
  registered : List FullTrackName
  forwarded : List FullTrackName
deriving Repr, DecidableEq

namespace NameUse

def names (use : NameUse) : List FullTrackName := use.registered ++ use.forwarded

/-- A handler that goes on takes the name of its request and no other. -/
def Only (use : NameUse) (n : FullTrackName) : Prop := ∀ name ∈ use.names, name = n

theorem only_forwarded {α : Type} (n : FullTrackName) (peers : List α) :
    Only ⟨[], peers.map fun _ => n⟩ n := by
  intro name hname
  simp_all [names]

theorem only_registered {α : Type} (n : FullTrackName) (sends : Bool) (peers : List α) :
    Only ⟨[n], if sends then peers.map fun _ => n else []⟩ n := by
  intro name hname
  cases List.mem_append.mp hname with
  | inl hregistered => exact List.mem_singleton.mp hregistered
  | inr hforwarded =>
    cases sends with
    | true => exact only_forwarded n peers name hforwarded
    | false => exact absurd hforwarded List.not_mem_nil

end NameUse

namespace RelayView

def handleSubscribe (v : RelayView) (m : Subscribe) : Except Refusal NameUse :=
  match objectFilter m.subscribeParameters v.maxFilterRanges with
  | .error error => .error (.invalidFilter error)
  | .ok _ =>
    match v.switchRefusal m.requestId m.getFullTrackName m.subscribeParameters with
    | some reason => .error (.requestError .invalidSwitch reason)
    | none =>
      match reservedNamespaceRejection m.trackNamespace m.trackName with
      | some reason => .error (.requestError .doesNotExist reason)
      | none =>
        let publishers := v.getPublishersForTrack m.getFullTrackName
        if publishers.isEmpty then
          if rendezvousTimeout m.subscribeParameters v.maxRendezvousTimeout = 0 then
            .error (.requestError .doesNotExist "Unknown track namespace")
          else .error (.requestError .timeout "No publisher appeared in time")
        else
          .ok
            { registered := [m.getFullTrackName]
              forwarded :=
                if v.joined && v.isUnfed m.getFullTrackName then
                  publishers.map fun _ => m.getFullTrackName
                else [] }

/-- The delivery's own requests upstream carry the name of the track too. -/
def handleFetch (v : RelayView) (m : Fetch) : Except Refusal NameUse :=
  match reservedNamespaceRejection m.trackNamespace m.trackName with
  | some reason => .error (.requestError .doesNotExist reason)
  | none =>
    match objectFilter m.parameters v.maxFilterRanges with
    | .error error => .error (.invalidFilter error)
    | .ok _ =>
      if m.getLocationFilter.endsBeforeStart then .error .protocolViolation
      else
        let publishers := v.getPublishersForTrack m.getFullTrackName
        if (v.tracks m.getFullTrackName).isNone && publishers.isEmpty then
          .error (.requestError .doesNotExist "Track does not exist")
        else
          .ok
            { registered := [m.getFullTrackName]
              forwarded :=
                if (v.range.learned m.getLocationFilter).1.isSome then
                  (publishers.take 1).map fun _ => m.getFullTrackName
                else [] }

/-- An alias that is given to another track while this one is made closes the session as well, with
the track made. -/
def handlePublish (v : RelayView) (m : Publish) : Except Refusal NameUse :=
  if hasUnsupportedMandatory m.trackProperties then
    .error (.requestError .unsupportedExtension "Unsupported mandatory track property")
  else if !validatePublishAuthorization m.trackNamespace then
    .error (.requestError .unauthorized "Not authorized to publish this track")
  else
    match reservedNamespaceRejection m.trackNamespace m.trackName with
    | some reason => .error (.requestError .doesNotExist reason)
    | none =>
      if v.aliasTaken m.trackAlias m.fullTrackName then .error .duplicateTrackAlias
      else
        .ok
          { registered := [m.fullTrackName]
            forwarded :=
              if v.isUnfed m.fullTrackName then
                (v.pushedTo m.fullTrackName).map fun _ => m.fullTrackName
              else [] }

/-- Of a track that is fed by a publisher the relay answers itself. -/
def handleTrackStatus (v : RelayView) (m : TrackStatus) : Except Refusal NameUse :=
  if v.isUnfed m.getFullTrackName then
    let publishers := v.getPublishersForTrack m.getFullTrackName
    if publishers.isEmpty then .error (.requestError .doesNotExist "No publisher found")
    else .ok ⟨[], (publishers.take 1).map fun _ => m.getFullTrackName⟩
  else .ok ⟨[], []⟩

/-- Other messages name no track. -/
def handle (v : RelayView) : ControlMessage → Except Refusal NameUse
  | .subscribe m => v.handleSubscribe m
  | .fetch m => v.handleFetch m
  | .publish m => v.handlePublish m
  | .trackStatus m => v.handleTrackStatus m
  | _ => .ok ⟨[], []⟩

/-- The names a message brings into the relay, or through it. -/
def taken (v : RelayView) (m : ControlMessage) : List FullTrackName :=
  match v.handle m with
  | .ok use => use.names
  | .error _ => []

/-- When a message is turned away or answered with no name taken. -/
def TakesNone (v : RelayView) : ControlMessage → Prop
  | .subscribe m =>
    (objectFilter m.subscribeParameters v.maxFilterRanges).isOk = false ∨
      (v.switchRefusal m.requestId m.getFullTrackName m.subscribeParameters).isSome ∨
      (reservedNamespaceRejection m.trackNamespace m.trackName).isSome ∨
      v.getPublishersForTrack m.getFullTrackName = []
  | .fetch m =>
    (reservedNamespaceRejection m.trackNamespace m.trackName).isSome ∨
      (objectFilter m.parameters v.maxFilterRanges).isOk = false ∨
      m.getLocationFilter.endsBeforeStart ∨
      v.tracks m.getFullTrackName = none ∧ v.getPublishersForTrack m.getFullTrackName = []
  | .publish m =>
    hasUnsupportedMandatory m.trackProperties ∨
      (reservedNamespaceRejection m.trackNamespace m.trackName).isSome ∨
      v.aliasTaken m.trackAlias m.fullTrackName
  | .trackStatus m =>
    v.isUnfed m.getFullTrackName = false ∨ v.getPublishersForTrack m.getFullTrackName = []
  | _ => True

variable {v : RelayView} {name : FullTrackName}

theorem handleSubscribe_only {m : Subscribe} {use : NameUse} (h : v.handleSubscribe m = .ok use) :
    use.Only m.getFullTrackName := by
  unfold handleSubscribe at h
  split at h
  · contradiction
  · split at h
    · contradiction
    · split at h
      · contradiction
      · dsimp only at h
        split at h
        · split at h <;> contradiction
        · cases h
          apply NameUse.only_registered

theorem handleFetch_only {m : Fetch} {use : NameUse} (h : v.handleFetch m = .ok use) :
    use.Only m.getFullTrackName := by
  unfold handleFetch at h
  split at h
  · contradiction
  · split at h
    · contradiction
    · split at h
      · contradiction
      · dsimp only at h
        split at h
        · contradiction
        · cases h
          apply NameUse.only_registered

theorem handlePublish_only {m : Publish} {use : NameUse} (h : v.handlePublish m = .ok use) :
    use.Only m.fullTrackName := by
  unfold handlePublish at h
  split at h
  · contradiction
  · split at h
    · contradiction
    · split at h
      · contradiction
      · split at h
        · contradiction
        · cases h
          apply NameUse.only_registered

theorem handleTrackStatus_only {m : TrackStatus} {use : NameUse}
    (h : v.handleTrackStatus m = .ok use) : use.Only m.getFullTrackName := by
  unfold handleTrackStatus at h
  split at h
  · dsimp only at h
    split at h
    · contradiction
    · cases h
      apply NameUse.only_forwarded
  · cases h
    intro name hname
    exact absurd hname List.not_mem_nil

theorem mem_taken {m : ControlMessage} (h : name ∈ v.taken m) : m.fullTrackName? = some name := by
  unfold taken at h
  split at h
  · next use huse =>
    cases m with
    | subscribe m => rw [handleSubscribe_only huse name h]; rfl
    | fetch m => rw [handleFetch_only huse name h]; rfl
    | publish m => rw [handlePublish_only huse name h]; rfl
    | trackStatus m => rw [handleTrackStatus_only huse name h]; rfl
    | _ =>
      cases huse
      exact absurd h List.not_mem_nil
  · exact absurd h List.not_mem_nil

/-! When there is a name to take. -/

theorem isOk_eq_false {ε α : Type} (error : ε) :
    (Except.error error : Except ε α).isOk = false := rfl

theorem isOk_eq_true {ε α : Type} (a : α) : (Except.ok a : Except ε α).isOk = true := rfl

theorem taken_subscribe (v : RelayView) (m : Subscribe) :
    v.taken (.subscribe m) = [] ↔ v.TakesNone (.subscribe m) := by
  simp only [TakesNone, taken, handle, handleSubscribe]
  cases objectFilter m.subscribeParameters v.maxFilterRanges with
  | error error => simp [isOk_eq_false]
  | ok filter =>
    cases v.switchRefusal m.requestId m.getFullTrackName m.subscribeParameters with
    | some reason => simp
    | none =>
      cases reservedNamespaceRejection m.trackNamespace m.trackName with
      | some reason => simp
      | none =>
        cases v.getPublishersForTrack m.getFullTrackName with
        | nil =>
          by_cases hwait : rendezvousTimeout m.subscribeParameters v.maxRendezvousTimeout = 0
          · simp [hwait]
          · simp [hwait]
        | cons publisher publishers => simp [isOk_eq_true, NameUse.names]

theorem taken_fetch (v : RelayView) (m : Fetch) :
    v.taken (.fetch m) = [] ↔ v.TakesNone (.fetch m) := by
  simp only [TakesNone, taken, handle, handleFetch]
  cases reservedNamespaceRejection m.trackNamespace m.trackName with
  | some reason => simp
  | none =>
    cases objectFilter m.parameters v.maxFilterRanges with
    | error error => simp [isOk_eq_false]
    | ok filter =>
      cases m.getLocationFilter.endsBeforeStart with
      | true => simp
      | false =>
        by_cases habsent : v.tracks m.getFullTrackName = none ∧
            v.getPublishersForTrack m.getFullTrackName = []
        · simp [habsent.1, habsent.2]
        · have hserved : ((v.tracks m.getFullTrackName).isNone &&
              (v.getPublishersForTrack m.getFullTrackName).isEmpty) = false := by
            simpa [Option.isNone_iff_eq_none] using habsent
          simp [hserved, habsent, isOk_eq_true, NameUse.names]

theorem taken_publish (v : RelayView) (m : Publish) :
    v.taken (.publish m) = [] ↔ v.TakesNone (.publish m) := by
  simp only [TakesNone, taken, handle, handlePublish, validatePublishAuthorization]
  cases hasUnsupportedMandatory m.trackProperties with
  | true => simp
  | false =>
    cases reservedNamespaceRejection m.trackNamespace m.trackName with
    | some reason => simp
    | none =>
      cases v.aliasTaken m.trackAlias m.fullTrackName with
      | true => simp
      | false => simp [NameUse.names]

theorem taken_trackStatus (v : RelayView) (m : TrackStatus) :
    v.taken (.trackStatus m) = [] ↔ v.TakesNone (.trackStatus m) := by
  simp only [TakesNone, taken, handle, handleTrackStatus]
  cases v.isUnfed m.getFullTrackName with
  | false => simp [NameUse.names]
  | true =>
    cases v.getPublishersForTrack m.getFullTrackName with
    | nil => simp
    | cons publisher publishers => simp [NameUse.names]

theorem taken_eq_nil_iff (v : RelayView) (m : ControlMessage) :
    v.taken m = [] ↔ v.TakesNone m := by
  cases m with
  | subscribe m => exact taken_subscribe v m
  | fetch m => exact taken_fetch v m
  | publish m => exact taken_publish v m
  | trackStatus m => exact taken_trackStatus v m
  | _ => exact iff_of_true rfl trivial

theorem taken_constructible_iff (v : RelayView) (m : ControlMessage) :
    (∀ name ∈ v.taken m, name.Constructible) ↔
      v.TakesNone m ∨ ∀ name, m.fullTrackName? = some name →
        FullTrackName.WithinLimits name.trackNamespace name.name := by
  constructor
  · intro hall
    by_cases hnone : v.TakesNone m
    · exact Or.inl hnone
    · apply Or.inr
      intro name hname
      have htaken : v.taken m ≠ [] := fun hnil => hnone ((taken_eq_nil_iff v m).mp hnil)
      have hmem := List.head_mem htaken
      have hhead := mem_taken hmem
      rw [hname] at hhead
      rw [Option.some.inj hhead]
      exact (FullTrackName.constructible_iff _).mp (hall _ hmem)
  · intro hlimits name hmem
    cases hlimits with
    | inl hnone =>
      rw [(taken_eq_nil_iff v m).mpr hnone] at hmem
      exact absurd hmem List.not_mem_nil
    | inr hlimits =>
      exact (FullTrackName.constructible_iff name).mpr (hlimits name (mem_taken hmem))

/-- A SUBSCRIBE to a track `t` in a namespace of 33 fields `a`. -/
def thirtyThreeFields : Subscribe where
  requestId := 0
  trackNamespace := ⟨List.replicate 33 [0x61]⟩
  trackName := [0x74]
  subscribeParameters := []

/-- A relay that knows one publisher, of every namespace that starts with `a`. -/
def onePublisher : RelayView where
  maxFilterRanges := 0
  maxRendezvousTimeout := 0
  clients := [⟨1, [], [⟨[[0x61]]⟩], []⟩]
  tracks := fun _ => none
  subscriptions := fun _ => none
  trackAliases := fun _ => none
  joined := true
  range := ⟨none, fun _ => none, none, .empty, true, .running⟩
  pushedTo := fun _ => []

theorem thirtyThreeFields_not_constructible :
    ¬ ∀ (alloc : Allocator) (bytes rest : Bytes) (m : ControlMessage) (v : RelayView),
      ControlMessage.deserialize alloc bytes = .ok (m, rest) →
        ∀ name ∈ v.taken m, name.Constructible := by
  intro h
  have hread : ControlMessage.deserialize ⟨65535, by decide⟩
      ([3, 0, 71, 0, 33] ++ (List.replicate 33 [1, 0x61]).flatten ++ [1, 0x74, 0]) =
        .ok (.subscribe thirtyThreeFields, []) := by rfl
  have htaken : thirtyThreeFields.getFullTrackName ∈
      onePublisher.taken (.subscribe thirtyThreeFields) := by decide
  have hname := h _ _ _ _ onePublisher hread thirtyThreeFields.getFullTrackName htaken
  rw [FullTrackName.constructible_iff] at hname
  exact absurd hname.1 (by decide)

end RelayView

end Moqtail
