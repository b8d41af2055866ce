import Moqtail.Ssts.Representation

/-! How a track of a switching set is named where it is assigned and where it is forwarded.

A SWITCHING_SET_ASSIGNMENT comes with a SUBSCRIBE (`subscribe_handler.rs`) or with the PUBLISH_OK
of a track the relay pushed (`publish_handler.rs`). The subscription it is for compares the set's
decision with the relay id of its track, and its streams are counted under that id. -/
namespace Moqtail.Ssts

/-- `--track-alias-mode`. -/
inductive TrackAliasMode where
  | perTrack
  | perSubscription
deriving Repr, DecidableEq

/-- The alias, and the counter that fresh ones come from. -/
def pickTrackAlias (mode : TrackAliasMode) (relayTrackId next : Nat) : Nat × Nat :=
  match mode with
  | .perTrack => (relayTrackId, next)
  | .perSubscription => (next, next + 1)

inductive StreamType where
  | fetch
  | subgroup
deriving Repr, DecidableEq

structure StreamId where
  streamType : StreamType
  relayTrackId : Nat
  groupId : Option Nat
  subgroupId : Option Nat
  fetchRequestId : Option Nat
deriving Repr, DecidableEq

/-- The PUBLISH a subscriber is pushed, as far as its subscription and its assignment use it. -/
structure Publish where
  requestId : Nat
  fullTrackName : FullTrackName
  trackAlias : Nat
deriving Repr, DecidableEq

inductive SubscriptionOrigin where
  | subscribe (requestId : Nat)
  | publish (publish : Publish)
deriving Repr, DecidableEq

structure Subscription where
  requestId : Nat
  relayTrackId : Nat
  trackAlias : Nat
  fullTrackName : FullTrackName
deriving Repr, DecidableEq

/-- A track of the relay. -/
structure RelayTrack where
  relayTrackId : Nat
  fullTrackName : FullTrackName
deriving Repr, DecidableEq

/-- `SubscriptionManager::add_subscription`: a pushed track keeps the alias of its PUBLISH. -/
def RelayTrack.addSubscription (track : RelayTrack) (mode : TrackAliasMode) (next : Nat) :
    SubscriptionOrigin → Subscription × Nat
  | .subscribe requestId =>
    let (trackAlias, next) := pickTrackAlias mode track.relayTrackId next
    (⟨requestId, track.relayTrackId, trackAlias, track.fullTrackName⟩, next)
  | .publish publish =>
    (⟨publish.requestId, track.relayTrackId, publish.trackAlias, track.fullTrackName⟩, next)

/-- The PUBLISH pushed for the track. -/
def RelayTrack.downstreamPublish (track : RelayTrack) (mode : TrackAliasMode) (next requestId : Nat) :
    Publish × Nat :=
  let (trackAlias, next) := pickTrackAlias mode track.relayTrackId next
  (⟨requestId, track.fullTrackName, trackAlias⟩, next)

/-- The gate on a group the set has decided: `none` selects no track. -/
def Subscription.forwards (subscription : Subscription) (chosen : Option Nat) : Bool :=
  decide (chosen = some subscription.relayTrackId)

def Subscription.getStreamId (subscription : Subscription) (groupId : Nat)
    (subgroupId : Option Nat) : StreamId :=
  ⟨.subgroup, subscription.relayTrackId, some groupId, subgroupId, none⟩

/-- The SWITCHING_SET_ASSIGNMENT parameter. -/
structure SwitchingSetAssignment where
  switchingSetId : Nat
  algorithmId : Nat
  throughputThresholdKbps : Nat
  setThroughputWeight : Nat
  activateSwitching : Nat
  setRank : Nat
deriving Repr, DecidableEq

/-- `validate_assignment`. -/
def validateAssignment (negotiatedAlgorithms : List Nat) (algorithmId : Nat) :
    Except String Unit :=
  if negotiatedAlgorithms = [] then .error "SSTS was not negotiated in SETUP"
  else if !negotiatedAlgorithms.contains algorithmId then
    .error ("SSTS algorithm " ++ toString algorithmId ++
      " was not negotiated for this connection")
  else .ok ()

namespace SwitchingSetAssignment

def assignment (p : SwitchingSetAssignment) (fullTrackName : FullTrackName)
    (relayTrackId requestId : Nat) : Assignment where
  fullTrackName := fullTrackName
  relayTrackId := relayTrackId
  requestId := requestId
  switchingSetId := p.switchingSetId
  algorithmId := p.algorithmId
  throughputThresholdKbps := p.throughputThresholdKbps
  weight := p.setThroughputWeight
  activate := p.activateSwitching
  rank := p.setRank

/-- What `handle_subscribe_message` assigns. -/
def fromSubscribe (p : SwitchingSetAssignment) (track : RelayTrack) (requestId : Nat) :
    Assignment :=
  p.assignment track.fullTrackName track.relayTrackId requestId

/-- What `register_ssts_assignment_from_publish_ok` assigns: it takes the alias of the PUBLISH
for the relay id of the track. -/
def fromPublishOk (p : SwitchingSetAssignment) (publish : Publish) : Assignment :=
  p.assignment publish.fullTrackName publish.trackAlias publish.requestId

end SwitchingSetAssignment

/-- An assignment that is not valid, or refused by the set manager, changes no set. -/
def register (m : SwitchingSetManager) (negotiatedAlgorithms : List Nat) (a : Assignment) :
    Bool × SwitchingSetManager :=
  match validateAssignment negotiatedAlgorithms a.algorithmId with
  | .error _ => (false, m)
  | .ok () =>
    match m.assign a with
    | (.error _, m) => (false, m)
    | (.ok (), m) => (true, m)

inductive EntryPoint where
  | subscribe
  | publishOk
deriving Repr, DecidableEq

/-- A subscription made and assigned to a switching set, by either entry point. The flag says
whether the assignment was taken. -/
def enter (m : SwitchingSetManager) (negotiatedAlgorithms : List Nat) (mode : TrackAliasMode)
    (next : Nat) (track : RelayTrack) (requestId : Nat) (p : SwitchingSetAssignment) :
    EntryPoint → Subscription × Bool × SwitchingSetManager
  | .subscribe =>
    let (subscription, _) := track.addSubscription mode next (.subscribe requestId)
    (subscription, register m negotiatedAlgorithms (p.fromSubscribe track requestId))
  | .publishOk =>
    let (publish, next) := track.downstreamPublish mode next requestId
    let (subscription, _) := track.addSubscription mode next (.publish publish)
    (subscription, register m negotiatedAlgorithms (p.fromPublishOk publish))

/-- The member is stored under the id the subscription goes by: the one it compares a decision
with, and the one its streams carry. A decision for the member then lets its Objects through. -/
def NamedAlike (subscription : Subscription) (x : SwitchingSetMember) : Prop :=
  x.relayTrackId = subscription.relayTrackId ∧
    (∀ groupId subgroupId, x.relayTrackId = (subscription.getStreamId groupId subgroupId).relayTrackId) ∧
    subscription.forwards (some x.relayTrackId) = true

theorem namedAlike_iff {subscription : Subscription} {x : SwitchingSetMember} :
    NamedAlike subscription x ↔ x.relayTrackId = subscription.relayTrackId := by
  simp [NamedAlike, Subscription.getStreamId, Subscription.forwards]

/-- An assignment that is taken leaves its track stored under the id it carries. -/
theorem register_memberNamed {m : SwitchingSetManager} (hm : m.Tracked)
    {negotiatedAlgorithms : List Nat} {a : Assignment}
    (htaken : (register m negotiatedAlgorithms a).1 = true) :
    ∃ x, (register m negotiatedAlgorithms a).2.memberNamed a.fullTrackName = some x ∧
      x.relayTrackId = a.relayTrackId := by
  have haccepts : m.accepts a := by
    by_contra hrefused
    simp only [register, SwitchingSetManager.assign_of_refused hrefused] at htaken
    split at htaken <;> cases htaken
  obtain ⟨hok, hmember, -⟩ := hm.assign_spec haccepts
  have hregister : (register m negotiatedAlgorithms a).2 = (m.assign a).2 := by
    revert htaken
    unfold register
    split
    · intro h
      cases h
    · split
      next heq => simp [heq] at hok
      next heq => simp [heq]
  rw [hregister]
  refine ⟨SwitchingSetManager.assigned a (m.memberNamed a.fullTrackName), ?_, rfl⟩
  apply (hm.assign a).memberNamed_eq_some.mpr
  exact ⟨⟨a.switchingSetId, (hmember _ _).mpr (.inr ⟨rfl, rfl⟩)⟩, rfl⟩

theorem exists_namedAlike_iff {m : SwitchingSetManager} {name : FullTrackName}
    {subscription : Subscription} {x : SwitchingSetMember} (hx : m.memberNamed name = some x) :
    (∃ y, m.memberNamed name = some y ∧ NamedAlike subscription y) ↔
      x.relayTrackId = subscription.relayTrackId := by
  simp [hx, namedAlike_iff]

/-- An assignment that is taken stores the track under the subscription's own id exactly when it
came with a SUBSCRIBE, or the alias of the pushed PUBLISH is that id. -/
theorem enter_namedAlike_iff (calls : List Call) (negotiatedAlgorithms : List Nat)
    (mode : TrackAliasMode) (next : Nat) (track : RelayTrack) (requestId : Nat)
    (p : SwitchingSetAssignment) (entry : EntryPoint)
    (htaken : (enter (SwitchingSetManager.afterCalls calls) negotiatedAlgorithms mode next track
      requestId p entry).2.1 = true) :
    (∃ x, (enter (SwitchingSetManager.afterCalls calls) negotiatedAlgorithms mode next track
        requestId p entry).2.2.memberNamed track.fullTrackName = some x ∧
      NamedAlike (enter (SwitchingSetManager.afterCalls calls) negotiatedAlgorithms mode next track
        requestId p entry).1 x) ↔
      entry = .subscribe ∨ mode = .perTrack ∨ next = track.relayTrackId := by
  have hm := SwitchingSetManager.tracked_afterCalls calls
  cases entry with
  | subscribe =>
    obtain ⟨x, hx, hid⟩ := register_memberNamed hm htaken
    refine (exists_namedAlike_iff hx).trans ?_
    exact ⟨fun _ => .inl rfl, fun _ => hid⟩
  | publishOk =>
    obtain ⟨x, hx, hid⟩ := register_memberNamed hm htaken
    refine (exists_namedAlike_iff hx).trans ?_
    rw [hid]
    cases mode with
    | perTrack => exact ⟨fun _ => .inr (.inl rfl), fun _ => rfl⟩
    | perSubscription =>
      show next = track.relayTrackId ↔ _
      simp

/-- Relay track 7, pushed under its own id and assigned in the PUBLISH_OK. -/
theorem enter_namedAlike_perTrack :
    ∃ x, (enter (SwitchingSetManager.afterCalls []) [0] .perTrack 0 ⟨7, ⟨[], [1]⟩⟩ 3
        ⟨5, 0, 300, 1, 1, 0⟩ .publishOk).2.2.memberNamed ⟨[], [1]⟩ = some x ∧
      NamedAlike (enter (SwitchingSetManager.afterCalls []) [0] .perTrack 0 ⟨7, ⟨[], [1]⟩⟩ 3
        ⟨5, 0, 300, 1, 1, 0⟩ .publishOk).1 x :=
  (enter_namedAlike_iff [] [0] .perTrack 0 ⟨7, ⟨[], [1]⟩⟩ 3 ⟨5, 0, 300, 1, 1, 0⟩ .publishOk
    (by decide)).mpr (.inr (.inl rfl))

/-- With an alias for every subscription, a decision for the pushed track is taken for another:
relay track 7 is stored as 0, the first fresh alias. -/
theorem publishOk_perSubscription_not_namedAlike :
    ¬ ∀ calls negotiatedAlgorithms mode next track requestId p entry,
      (enter (SwitchingSetManager.afterCalls calls) negotiatedAlgorithms mode next track requestId p
        entry).2.1 = true →
      ∃ x, (enter (SwitchingSetManager.afterCalls calls) negotiatedAlgorithms mode next track
          requestId p entry).2.2.memberNamed track.fullTrackName = some x ∧
        NamedAlike (enter (SwitchingSetManager.afterCalls calls) negotiatedAlgorithms mode next track
          requestId p entry).1 x := by
  intro h
  obtain ⟨x, hx, halike⟩ := h [] [0] .perSubscription 0 ⟨7, ⟨[], [1]⟩⟩ 3 ⟨5, 0, 300, 1, 1, 0⟩
    .publishOk (by decide)
  rw [namedAlike_iff] at halike
  have hstored : ((enter (SwitchingSetManager.afterCalls []) [0] .perSubscription 0 ⟨7, ⟨[], [1]⟩⟩ 3
      ⟨5, 0, 300, 1, 1, 0⟩ .publishOk).2.2.memberNamed ⟨[], [1]⟩).map (·.relayTrackId) = some 0 := by
    decide
  rw [hx, Option.map_some, halike] at hstored
  exact absurd hstored (by decide)

end Moqtail.Ssts
