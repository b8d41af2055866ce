import Moqtail.Relay.Transitions

/-! When the last subscriber is gone, no upstream SUBSCRIBE may go on.

`remove_subscriber` sees to it, and so does an exchange that registers with a track nothing is
subscribed to. `reject_subscription`, `fail_update`, `end_pushed_subscription` and the close of a
connection take subscriptions off a track without looking whether any is left. A track that has been
removed from the manager keeps its subscriptions and exchanges, and no `cancel_subscription` finds it
any more. -/
namespace Moqtail.Control

open Lib State

namespace State

/-- Exchange `x` is registered with the track, still running and not cancelled. -/
def serves (s : State) (x r : Nat) : Bool :=
  match s.exchanges[x]? with
  | some e => e.stage != .ended && e.track == some r && s.uncancelled x e
  | none => false

/-- A live subscriber of the track: its subscription is there and its request is not over, or a
`remove_subscriber` is about to take it off. -/
def attends (s : State) (r : Nat) (id : SubscriptionId) : Bool :=
  match s.stage id with
  | .unseen | .found _ _ _ | .over => false
  | .cancelling r' => r' == r
  | _ => (s.tracks r).hasSubscription id

/-- No exchange outlives the last live subscriber of a track that a SUBSCRIBE feeds: none goes on
for it, and one that has yet to register with it is cancelled as it does. -/
def UpstreamReleased (s : State) : Prop :=
  ∀ r, (s.tracks r).origin = .subscribe → (∀ id, s.attends r id = false) →
    (∀ x, s.serves x r = false) ∧
      ∀ x malformed s', s.register x malformed = some s' → s'.serves x r = false

/-- A live subscriber of the track that the step takes off without a `remove_subscriber`, or with one
that finds other subscriptions left. A request that is cancelled leaves the tracks it is on, but for
the manager's, unnoticed. -/
def departs (s : State) (r : Nat) (a : Action) (id : SubscriptionId) : Bool :=
  s.attends r id &&
    match a with
    | .refuse id' _ | .failUpdate id' | .endPushed id' => id == id'
    | .cancel id' => id == id' && s.registered != some r
    | .leave id' => id == id' && !((s.tracks r).removeSubscription id').subscriptions.isEmpty
    | .subscriberClosed connection =>
      id.1 == connection && s.registered == some r && s.stage id != .cancelling r
    | _ => false

/-- Another live subscriber stays with the track, or no exchange would go on for it. -/
def LeavesNoneBehind (s : State) (r : Nat) (a : Action) : Prop :=
  (s.tracks r).origin = .publish ∨
    (∃ id ∈ s.arrived, s.attends r id = true ∧ s.departs r a id = false) ∨
    ∀ x < s.exchanges.length, s.serves x r = false

instance (s : State) (r : Nat) (a : Action) : Decidable (s.LeavesNoneBehind r a) := by
  unfold LeavesNoneBehind
  infer_instance

/-- The condition on the steps by which a live subscriber goes unnoticed. -/
def Releases (s : State) (a : Action) : Prop :=
  ∀ r < s.nextTrackId, (∃ id ∈ s.arrived, s.departs r a id = true) → s.LeavesNoneBehind r a

instance (s : State) (a : Action) : Decidable (s.Releases a) := by
  unfold Releases
  infer_instance

theorem serves_eq_true {s : State} {x r : Nat} :
    s.serves x r = true ↔ ∃ e, s.exchanges[x]? = some e ∧ e.stage ≠ .ended ∧ e.track = some r ∧
      ∃ q ∈ (s.tracks r).upstreamRequests, q.requestId = x := by
  unfold serves
  cases s.exchanges[x]? with
  | none => simp
  | some e =>
    simp only [Bool.and_eq_true, bne_iff_ne, beq_iff_eq, Option.some.injEq, exists_eq_left']
    constructor
    · rintro ⟨⟨he, ht⟩, hq⟩
      simp only [uncancelled, ht, List.any_eq_true, beq_iff_eq] at hq
      exact ⟨he, ht, hq⟩
    · rintro ⟨he, ht, hq⟩
      simp only [uncancelled, ht, List.any_eq_true, beq_iff_eq]
      exact ⟨⟨he, trivial⟩, hq⟩

end State

/-! What the operations of a track do to its requests. -/

/-- The subscriptions a step can take off a track that goes on. -/
def Action.takesOff : Action → SubscriptionId → Bool
  | .refuse id _ | .failUpdate id | .endPushed id | .leave id => (· == id)
  | .subscriberClosed connection => (·.1 == connection)
  | _ => fun _ => false

namespace Track

variable {gone : SubscriptionId → Bool}

def OnlySubscribes (t : Track) : Prop := ∀ q ∈ t.upstreamRequests, q.kind = .subscribe

/-- `t'` has no request that `t` did not have, and as long as it has any it has the publisher and
the subscriptions of `t`, but for those that are `gone`. -/
structure Releases (gone : SubscriptionId → Bool) (t t' : Track) : Prop where
  subset : ∀ q ∈ t'.upstreamRequests, q ∈ t.upstreamRequests
  published : t.origin = .publish → t'.origin = .publish ∨ t'.upstreamRequests = []
  kept : ∀ id ∈ t.subscriptions, gone id = false →
    id ∈ t'.subscriptions ∨ t'.upstreamRequests = []

theorem Releases.refl (t : Track) : Releases gone t t :=
  ⟨fun _ hq => hq, Or.inl, fun _ hid _ => Or.inl hid⟩

theorem Releases.trans {t t' t'' : Track} (h : Releases gone t t') (h' : Releases gone t' t'') :
    Releases gone t t'' := by
  have hnil : t'.upstreamRequests = [] → t''.upstreamRequests = [] := by
    intro hnil
    refine List.eq_nil_iff_forall_not_mem.mpr fun q hq => ?_
    have := h'.subset q hq
    rw [hnil] at this
    exact nomatch this
  refine ⟨fun q hq => h.subset q (h'.subset q hq), ?_, ?_⟩
  · intro hpublish
    obtain hpublish | hnone := h.published hpublish
    · exact h'.published hpublish
    · exact Or.inr (hnil hnone)
  · intro id hid hstays
    obtain hid | hnone := h.kept id hid hstays
    · exact h'.kept id hid hstays
    · exact Or.inr (hnil hnone)

/-- No request is left. -/
theorem Releases.of_nil {t t' : Track} (h : t'.upstreamRequests = []) : Releases gone t t' :=
  ⟨fun q hq => by simp [h] at hq, fun _ => Or.inr h, fun _ _ _ => Or.inr h⟩

theorem OnlySubscribes.filter_eq_nil {t : Track} (ht : t.OnlySubscribes) :
    (t.upstreamRequests.filter fun q => !(q.kind == .subscribe)) = [] := by
  rw [List.filter_eq_nil_iff]
  intro q hq
  simp [ht q hq]

theorem LetsGo.releases {t t' : Track} {cleanup : Cleanup} (h : t.LetsGo t' cleanup)
    (ht : t.OnlySubscribes) : Releases gone t t' := by
  cases h with
  | removed => exact Releases.refl t
  | kept => exact Releases.of_nil ht.filter_eq_nil

theorem retire_releases {t t' : Track} {cleanup : Cleanup} (ht : t.OnlySubscribes)
    (h : t.retire = (t', cleanup)) : Releases gone t t' :=
  (letsGo_of_retire h).releases ht

theorem LetsGo.upstreamRequests_eq_nil {t t' : Track} {cleanup : Cleanup} (h : t.LetsGo t' cleanup)
    (ht : t.upstreamRequests = []) : t'.upstreamRequests = [] := by
  cases h with
  | removed => exact ht
  | kept => simp [ht]

/-- A track that no subscription is left on has no request left either. -/
theorem removeSubscriber_eq_nil {t t' : Track} {id : SubscriptionId} {cleanup : Cleanup}
    (ht : t.OnlySubscribes) (h : t.removeSubscriber id = (t', cleanup))
    (hlast : (t.removeSubscription id).subscriptions = []) : t'.upstreamRequests = [] := by
  obtain ⟨hleft, -, -⟩ | ⟨-, ⟨-, rfl, -⟩ | ⟨-, hgoes⟩⟩ := removeSubscriber_letsGo h
  · exact absurd hlast hleft
  · exact ht.filter_eq_nil
  · exact hgoes.upstreamRequests_eq_nil ht.filter_eq_nil

theorem removeSubscription_releases (t : Track) (id : SubscriptionId) :
    Releases (· == id) t (t.removeSubscription id) := by
  refine ⟨fun _ hq => hq, Or.inl, fun other hother hstays => Or.inl ?_⟩
  exact List.mem_filter.mpr ⟨hother, by simpa using hstays⟩

theorem removeSubscriptions_releases (t : Track) (connection : Nat) :
    Releases (·.1 == connection) t (t.removeSubscriptions connection) := by
  refine ⟨fun _ hq => hq, Or.inl, fun other hother hstays => Or.inl ?_⟩
  exact List.mem_filter.mpr ⟨hother, by simpa using hstays⟩

theorem removeSubscriber_releases {t t' : Track} {id : SubscriptionId} {cleanup : Cleanup}
    (ht : t.OnlySubscribes) (h : t.removeSubscriber id = (t', cleanup)) :
    Releases (· == id) t t' := by
  by_cases hlast : (t.removeSubscription id).subscriptions = []
  · exact Releases.of_nil (removeSubscriber_eq_nil ht h hlast)
  · obtain ⟨-, rfl, -⟩ | ⟨hnone, -⟩ := removeSubscriber_letsGo h
    · exact t.removeSubscription_releases id
    · exact absurd hnone hlast

/-- The count, the status, the publishers and the waiting subscribers do not matter. -/
theorem Releases.of_eq {t t' : Track} (hq : t'.upstreamRequests = t.upstreamRequests)
    (ho : t'.origin = t.origin) (hs : t'.subscriptions = t.subscriptions) : Releases gone t t' :=
  ⟨fun _ h => hq ▸ h, fun h => Or.inl (ho.trans h), fun _ h _ => Or.inl (hs ▸ h)⟩

theorem takeOver_releases {t t' : Track} {o : TrackOrigin} {status : TrackStatus} {taken : Bool}
    (h : t.takeOver o status = (t', taken)) : Releases gone t t' := by
  unfold takeOver at h
  split at h
  next hcache =>
    cases h
    exact ⟨fun _ hq => hq, fun hp => by simp [hcache] at hp, fun _ hid _ => Or.inl hid⟩
  · cases h
    exact Releases.refl t

theorem addSubscription_releases {t t' : Track} {id : SubscriptionId}
    (h : t.addSubscription id = some t') : Releases gone t t' := by
  unfold addSubscription at h
  split at h
  · cases h
  · cases h
    exact ⟨fun _ hq => hq, Or.inl, fun _ hid _ => Or.inl (List.mem_append_left _ hid)⟩

theorem confirm_releases {t t' : Track} {c a : Nat} {now : Bool} (h : t.confirm c a = (t', now)) :
    Releases gone t t' := by
  unfold confirm at h
  dsimp only at h
  split at h <;> cases h <;> exact Releases.of_eq rfl rfl rfl

theorem new_releases (t : Track) (status : TrackStatus) (o : TrackOrigin) :
    Releases gone t (new status o) := Releases.of_nil rfl

end Track

variable {s s' : State} {a : Action} {gone : SubscriptionId → Bool}

theorem releases_update {r : Nat} {t : Track} (h : (s.tracks r).Releases gone t) (r' : Nat) :
    (s.tracks r').Releases gone (Function.update s.tracks r t r') := by
  obtain rfl | hne := eq_or_ne r' r
  · simpa using h
  · simpa [hne] using Track.Releases.refl _

theorem removeUpstreamPublisher_releases (r c r' : Nat) :
    (s.tracks r').Releases gone ((s.removeUpstreamPublisher r c).tracks r') := by
  refine releases_update ?_ r'
  exact Track.Releases.of_eq rfl rfl rfl

theorem answered_releases (r r' : Nat) :
    (s.tracks r').Releases gone
      ((s.setTrack r (s.tracks r).upstreamSubscribeAnswered).tracks r') := by
  refine releases_update ?_ r'
  exact Track.Releases.of_eq rfl rfl rfl

theorem publishOn_releases (r c trackAlias : Nat) (aliasTaken : Bool) (r' : Nat) :
    (s.tracks r').Releases gone ((s.publishOn r c trackAlias aliasTaken).tracks r') := by
  have h : (s.tracks r).Releases gone ((s.tracks r).takeOver .publish .confirmed).1 :=
    Track.takeOver_releases rfl
  refine releases_update (h.trans ?_) r'
  cases aliasTaken with
  | true => exact Track.Releases.refl _
  | false => exact Track.Releases.of_eq rfl rfl rfl

theorem tracks_release (h : Moves s a s') (hk : ∀ r, (s.tracks r).OnlySubscribes)
    (hregister : ∀ x malformed, a ≠ .register x malformed) (r : Nat) :
    (s.tracks r).Releases a.takesOff (s'.tracks r) := by
  cases h with
  | created | fetched => exact releases_update (Track.new_releases _ _ _) r
  | joined _ takeOver added =>
    refine releases_update (Track.Releases.trans ?_ (Track.addSubscription_releases added)) r
    exact Track.takeOver_releases takeOver
  | duplicate _ takeOver => exact releases_update (Track.takeOver_releases takeOver) r
  | refused | updateFailed | endedPushed =>
    exact releases_update (Track.removeSubscription_releases _ _) r
  | subscriberClosed => exact releases_update (Track.removeSubscriptions_releases _ _) r
  | pushedTrack =>
    refine releases_update ?_ r
    rename_i id r' _ _
    cases hadd : (s.tracks r').addSubscription id with
    | none => exact Track.Releases.refl _
    | some track => exact Track.addSubscription_releases hadd
  | malformed _ taken =>
    refine releases_update (Track.Releases.of_nil ?_) r
    cases taken
    simp [Track.detachAll, Track.cancelForMalformedPublisher, Track.cancelMatching]
  | registered | notRegistered => exact absurd rfl (hregister _ _)
  | left _ removed => exact releases_update (Track.removeSubscriber_releases (hk _) removed) r
  | retired _ _ retire => exact releases_update (Track.retire_releases (hk _) retire) r
  | published => exact publishOn_releases _ _ _ _ r
  | publishedNew =>
    refine Track.Releases.trans ?_ (publishOn_releases _ _ _ _ r)
    exact releases_update (Track.new_releases _ _ _) r
  | publisherLeft | cancelledAnswered => exact removeUpstreamPublisher_releases _ _ r
  | failConfirmed =>
    exact (answered_releases _ r).trans (removeUpstreamPublisher_releases _ _ r)
  | failOthers | failLast | cancelledUnanswered => exact answered_releases _ r
  | confirmed _ _ _ confirm =>
    refine releases_update ((Track.confirm_releases confirm).trans ?_) r
    exact Track.Releases.of_eq rfl rfl rfl
  | counted | pushed | cacheChanged | answered | rejected | answeredError | done =>
    refine releases_update ?_ r
    exact Track.Releases.of_eq rfl rfl rfl
  | _ => exact Track.Releases.refl _

/-- An exchange that is still running after a step was running before it, with the same
track, unless it has just registered. -/
theorem running_of_moves (h : Moves s a s') {x : Nat} {e' : Exchange}
    (hx : s'.exchanges[x]? = some e') (hrun : e'.stage ≠ .ended) (ht : e'.track ≠ none) :
    (∃ e, s.exchanges[x]? = some e ∧ e.stage ≠ .ended ∧ e.track = e'.track) ∨
      ∃ malformed, a = .register x malformed := by
  cases h with
  | registered =>
    rename_i y malformed _ _ _ _ _
    obtain rfl | hne := eq_or_ne x y
    · exact Or.inr ⟨malformed, rfl⟩
    · grind
  | failUnregistered fails | failConfirmed fails | failOthers fails | failLast fails =>
    obtain ⟨before, hbefore, -, -, htrack, -, hstage, hkind⟩ := fails.exchange
    grind
  | _ => grind

/-! Where the subscriptions are. -/

/-- A request at this stage may have its subscription on the track. -/
def RequestStage.mayBeOn (stage : RequestStage) (r : Nat) : Prop :=
  match stage with
  | .unseen | .found _ _ _ => False
  | .joined r' _ _ | .sending r' _ | .willWait r' | .cancelling r' | .pushed r' => r' = r
  | .handled | .over => True

/-- The track a request at this stage is about. -/
def RequestStage.track : RequestStage → Option Nat
  | .found r _ _ | .joined r _ _ | .sending r _ | .willWait r | .cancelling r | .pushed r => some r
  | .unseen | .handled | .over => none

/-- Where the requests and subscriptions are: on the manager's track nothing is left behind. -/
structure Placed (s : State) : Prop where
  arrived : ∀ id, s.stage id ≠ .unseen → id ∈ s.arrived
  registered : ∀ r, s.registered = some r → r < s.nextTrackId
  named : ∀ id r, (s.stage id).track = some r → r < s.nextTrackId
  subscribed : ∀ r, ∀ id ∈ (s.tracks r).subscriptions, r < s.nextTrackId ∧ (s.stage id).mayBeOn r
  apart : ∀ r r', ∀ id ∈ (s.tracks r).subscriptions, id ∈ (s.tracks r').subscriptions → r = r'
  current : ∀ r, s.registered = some r → ∀ id ∈ (s.tracks r).subscriptions, s.stage id ≠ .over

theorem Placed.initial : Placed State.initial := by
  constructor <;> simp [State.initial, stage, Track.new, RequestStage.track]

namespace Track

variable {t t' : Track} {id : SubscriptionId}

@[simp, grind =]
theorem mem_removeSubscription {other : SubscriptionId} :
    other ∈ (t.removeSubscription id).subscriptions ↔ other ∈ t.subscriptions ∧ other ≠ id := by
  simp [removeSubscription]

@[simp, grind =]
theorem mem_removeSubscriptions {connection : Nat} {other : SubscriptionId} :
    other ∈ (t.removeSubscriptions connection).subscriptions ↔
      other ∈ t.subscriptions ∧ other.1 ≠ connection := by
  simp [removeSubscriptions]

theorem LetsGo.subscriptions_subset {cleanup : Cleanup} (h : t.LetsGo t' cleanup) :
    ∀ other ∈ t'.subscriptions, other ∈ t.subscriptions := by
  cases h with
  | removed => exact fun _ h => h
  | kept => simp

@[grind →]
theorem retire_subscriptions {cleanup : Cleanup} (h : t.retire = (t', cleanup)) :
    ∀ other ∈ t'.subscriptions, other ∈ t.subscriptions :=
  (letsGo_of_retire h).subscriptions_subset

@[grind →]
theorem removeSubscriber_subscriptions {cleanup : Cleanup}
    (h : t.removeSubscriber id = (t', cleanup)) :
    ∀ other ∈ t'.subscriptions, other ∈ t.subscriptions ∧ other ≠ id := by
  intro other hother
  obtain ⟨-, rfl, -⟩ | ⟨-, ⟨-, rfl, -⟩ | ⟨-, hgoes⟩⟩ := removeSubscriber_letsGo h
  · simpa using hother
  · simp [deserted] at hother
  · have := hgoes.subscriptions_subset other hother
    simp [deserted] at this

@[grind →]
theorem takeOver_subscriptions {o : TrackOrigin} {status : TrackStatus} {taken : Bool}
    (h : t.takeOver o status = (t', taken)) : t'.subscriptions = t.subscriptions := by
  unfold takeOver at h
  split at h <;> cases h <;> rfl

@[grind →]
theorem addSubscription_subscriptions (h : t.addSubscription id = some t') :
    t'.subscriptions = t.subscriptions ++ [id] := by
  unfold addSubscription at h
  split at h
  · cases h
  · cases h
    rfl

@[grind →]
theorem confirm_subscriptions {c a : Nat} {now : Bool} (h : t.confirm c a = (t', now)) :
    t'.subscriptions = t.subscriptions := by
  unfold confirm at h
  dsimp only at h
  split at h <;> cases h <;> rfl

end Track

/-! What becomes of the stages. -/

section Stage

variable {tracks : Nat → Track} {nextTrackId : Nat} {registered : Option Nat} {pushing : List Nat}
  {requests : SubscriptionId → Request} {arrived : List SubscriptionId} {exchanges : List Exchange}
  {jobs : List Job} {creators : Nat → Option SubscriptionId} {answers : List (SubscriptionId × Answer)}

@[simp]
theorem stage_mk (id : SubscriptionId) :
    stage ⟨tracks, nextTrackId, registered, pushing, requests, arrived, exchanges, jobs, creators,
      answers⟩ id = (requests id).stage := rfl

@[simp]
theorem requests_stage (s : State) (id : SubscriptionId) : (s.requests id).stage = s.stage id := rfl

@[simp]
theorem update_stage (id : SubscriptionId) (request : Request) (other : SubscriptionId) :
    (Function.update requests id request other).stage =
      if other = id then request.stage else (requests other).stage := by
  rw [Function.update_apply]
  split <;> rfl

end Stage

theorem Placed.arrived_step (inv : Placed s) (h : Moves s a s') (id : SubscriptionId) :
    s'.stage id ≠ .unseen → id ∈ s'.arrived := by
  have hold := inv.arrived id
  cases h with
  | subscriberClosed => simpa using hold
  | subscriberClosedUnregistered => simpa using hold
  | _ =>
    simp at hold ⊢
    grind

theorem publishOn_subscriptions (s : State) (r c trackAlias : Nat) (aliasTaken : Bool) (r' : Nat) :
    ((s.publishOn r c trackAlias aliasTaken).tracks r').subscriptions =
      (s.tracks r').subscriptions := by
  have h : ((s.tracks r).takeOver .publish .confirmed).1.subscriptions = (s.tracks r).subscriptions :=
    Track.takeOver_subscriptions rfl
  simp only [publishOn, setTrack, Function.update_apply]
  split
  next heq =>
    subst heq
    cases aliasTaken with
    | true => exact h
    | false => exact h
  next => rfl

/-- Only a request that joins a track, or is pushed it, comes to be on it. -/
theorem subscriptions_of_moves (h : Moves s a s') (r : Nat) :
    ∀ id ∈ (s'.tracks r).subscriptions, id ∈ (s.tracks r).subscriptions ∨
      (s'.stage id).track = some r ∧ (s'.stage id).mayBeOn r ∧ ∀ r', ¬ (s.stage id).mayBeOn r' := by
  intro id hid
  cases h with
  | joined stage takeOver added =>
    simp [Function.update_apply] at hid ⊢
    grind [RequestStage.mayBeOn, RequestStage.track]
  | pushedTrack unseen there =>
    rename_i id' r'
    cases hadd : (s.tracks r').addSubscription id' <;>
    · simp [Function.update_apply, hadd] at hid ⊢
      grind [RequestStage.mayBeOn, RequestStage.track]
  | malformed there taken =>
    left
    cases taken
    simp [Function.update_apply, Track.detachAll] at hid
    grind
  | published =>
    left
    exact publishOn_subscriptions s _ _ _ _ r ▸ hid
  | publishedNew =>
    left
    rw [publishOn_subscriptions] at hid
    simp [Function.update_apply] at hid
    grind [Track.new]
  | noPublisher | fetchFound => exact Or.inl hid
  | registered =>
    left
    rename_i x malformed e r' _ _ _
    obtain ⟨requests, hregister, -⟩ := (s.tracks r').registerExchange_spec x e.publisher malformed
    simp [Function.update_apply, hregister] at hid
    grind
  | _ =>
    left
    simp [Function.update_apply] at hid
    grind [Track.new, Track.upstreamSubscribeAnswered, Track.takePublisher, Track.reject,
      Track.removePublisherQuietly]

/-- A request that is on a track stays there, or is removed. -/
theorem mayBeOn_of_moves (inv : Placed s) (h : Moves s a s') {r : Nat} {id : SubscriptionId}
    (hid : id ∈ (s.tracks r).subscriptions) : (s'.stage id).mayBeOn r := by
  obtain ⟨-, hold⟩ := inv.subscribed r id hid
  have happart := inv.apart r
  cases h with
  | noPublisher | fetchFound => exact hold
  | subscriberClosed | subscriberClosedUnregistered => simpa using hold
  | _ =>
    simp
    grind [RequestStage.mayBeOn]

theorem named_of_moves (inv : Placed s) (h : Moves s a s') {r : Nat} {id : SubscriptionId}
    (hid : (s'.stage id).track = some r) : r < s'.nextTrackId := by
  have hnamed := inv.named
  have hregistered := inv.registered
  cases h with
  | subscriberClosed => exact hnamed id r hid
  | subscriberClosedUnregistered => exact hnamed id r hid
  | _ =>
    simp at hid ⊢
    grind [RequestStage.track]

theorem registered_of_moves (inv : Placed s) (h : Moves s a s') {r : Nat}
    (hr : s'.registered = some r) : r < s'.nextTrackId := by
  have hregistered := inv.registered
  cases h <;> grind

theorem nextTrackId_of_moves (h : Moves s a s') : s.nextTrackId ≤ s'.nextTrackId := by
  cases h <;> grind

theorem registered_or_new (h : Moves s a s') {r : Nat} (hr : s'.registered = some r) :
    s.registered = some r ∨ r = s.nextTrackId := by
  cases h <;> grind

/-- A request that ends leaves the manager's track. -/
theorem over_of_moves (inv : Placed s) (h : Moves s a s') {r : Nat} {id : SubscriptionId}
    (hr : s.registered = some r) (hid : id ∈ (s.tracks r).subscriptions)
    (hover : s'.stage id = .over) : id ∉ (s'.tracks r).subscriptions := by
  obtain ⟨-, hold⟩ := inv.subscribed r id hid
  have hcurrent := inv.current r hr id hid
  cases h with
  | noPublisher | fetchFound => exact absurd hover hcurrent
  | subscriberClosed | subscriberClosedUnregistered => exact absurd (by simpa using hover) hcurrent
  | _ =>
    simp [Function.update_apply, apply_ite Request.stage] at hover ⊢
    grind [RequestStage.mayBeOn]

theorem Placed.step (inv : Placed s) (h : Moves s a s') : Placed s' := by
  have hnew := subscriptions_of_moves h
  refine ⟨inv.arrived_step h, fun _ => registered_of_moves inv h, fun _ _ => named_of_moves inv h,
    ?_, ?_, ?_⟩
  · intro r id hid
    obtain hold | ⟨htrack, hon, -⟩ := hnew r id hid
    · exact ⟨(inv.subscribed r id hold).1.trans_le (nextTrackId_of_moves h),
        mayBeOn_of_moves inv h hold⟩
    · exact ⟨named_of_moves inv h htrack, hon⟩
  · intro r r' id hid hid'
    obtain hold | ⟨htrack, -, hfresh⟩ := hnew r id hid
    · obtain hold' | ⟨-, -, hfresh⟩ := hnew r' id hid'
      · exact inv.apart r r' id hold hold'
      · exact absurd (inv.subscribed r id hold).2 (hfresh r)
    · obtain hold' | ⟨htrack', -, -⟩ := hnew r' id hid'
      · exact absurd (inv.subscribed r' id hold').2 (hfresh r')
      · exact Option.some.inj (htrack.symm.trans htrack')
  · intro r hr id hid hover
    obtain hold | ⟨htrack, -, -⟩ := hnew r id hid
    · have hregistered : s.registered = some r := by
        obtain hsame | hfresh := registered_or_new h hr
        · exact hsame
        · exact absurd (inv.subscribed r id hold).1 (by omega)
      exact over_of_moves inv h hregistered hold hover hid
    · rw [hover] at htrack
      cases htrack

theorem run_placed {actions : List Action} (hrun : run step State.initial actions = some s) :
    Placed s := by
  have hall : Along step (fun _ _ => True) State.initial actions :=
    Along.of_forall actions _ fun _ _ => trivial
  exact run_invariant (fun _ _ _ inv _ h => inv.step (moves_of_step h)) actions _ _ .initial hall hrun

/-! The live subscribers. -/

theorem Placed.attends_iff (inv : Placed s) {r : Nat} {id : SubscriptionId} :
    s.attends r id = true ↔
      s.stage id = .cancelling r ∨ id ∈ (s.tracks r).subscriptions ∧ s.stage id ≠ .over := by
  have hplaced := inv.subscribed r id
  unfold attends
  cases hstage : s.stage id <;> simp_all [RequestStage.mayBeOn, Track.hasSubscription]

/-- A `remove_subscriber` that is about to run stays so, unless it runs. -/
theorem cancelling_of_moves (h : Moves s a s') {r : Nat} {id : SubscriptionId}
    (hid : s.stage id = .cancelling r) : s'.stage id = .cancelling r ∨ a = .leave id := by
  cases h with
  | noPublisher | fetchFound => exact Or.inl hid
  | subscriberClosed | subscriberClosedUnregistered => exact Or.inl hid
  | _ =>
    simp
    grind

/-- A request that ends is one the step takes off, or one that is cancelled elsewhere than on the
manager's track. -/
theorem takesOff_of_over (inv : Placed s) (h : Moves s a s') {r : Nat} {id : SubscriptionId}
    (hid : id ∈ (s.tracks r).subscriptions) (hlive : s.stage id ≠ .over)
    (hover : s'.stage id = .over) :
    a.takesOff id = true ∨ a = .cancel id ∧ s.registered ≠ some r := by
  have hplaced := inv.subscribed r id hid
  cases h with
  | noPublisher | fetchFound => exact absurd hover hlive
  | subscriberClosed | subscriberClosedUnregistered => exact absurd hover hlive
  | _ =>
    simp at hover
    grind [RequestStage.mayBeOn, Action.takesOff]

theorem attends_of_takesOff (inv : Placed s) (h : Moves s a s') {r : Nat} {id : SubscriptionId}
    (hid : s.attends r id = true) (hcancelling : s.stage id ≠ .cancelling r)
    (htaken : a.takesOff id = true) :
    s.departs r a id = true ∨ s'.attends r id = true ∨ (s'.tracks r).upstreamRequests = [] := by
  have hplaced := inv.subscribed r id
  have hon := (inv.attends_iff.mp hid).resolve_left hcancelling
  cases h with
  | failUnregistered fails | failConfirmed fails | failOthers fails | failLast fails =>
    cases fails <;> cases htaken
  | refused | updateFailed | updateFailedUnregistered | endedPushed =>
    exact Or.inl (by simpa [departs, hid, Action.takesOff] using htaken)
  | left stage =>
    have heq := eq_of_beq htaken
    subst heq
    have := (hplaced hon.1).2
    rw [stage] at this hcancelling
    exact absurd (congrArg _ this) hcancelling
  | subscriberClosed registered =>
    rename_i connection r'
    obtain rfl | hne := eq_or_ne r r'
    · exact Or.inl (by simpa [departs, hid, registered, hcancelling, Action.takesOff] using htaken)
    · exact Or.inr (Or.inl (by simpa [attends, hne] using hid))
  | subscriberClosedUnregistered => exact Or.inr (Or.inl hid)
  | _ => cases htaken

/-- A live subscriber stays, departs, or leaves a track without requests. -/
theorem attends_of_moves (inv : Placed s) (hk : ∀ r, (s.tracks r).OnlySubscribes)
    (h : Moves s a s') (hregister : ∀ x malformed, a ≠ .register x malformed) {r : Nat}
    {id : SubscriptionId} (hid : s.attends r id = true) :
    s.departs r a id = true ∨ s'.attends r id = true ∨ (s'.tracks r).upstreamRequests = [] := by
  have inv' := inv.step h
  by_cases hcancelling : s.stage id = .cancelling r
  · obtain hstays | rfl := cancelling_of_moves h hcancelling
    · exact Or.inr (Or.inl (inv'.attends_iff.mpr (Or.inl hstays)))
    · -- it runs, and finds others or takes the requests along
      cases h with
      | failUnregistered fails | failConfirmed fails | failOthers fails | failLast fails => cases fails
      | left stage removed =>
        cases hcancelling.symm.trans stage
        by_cases hlast : ((s.tracks r).removeSubscription id).subscriptions = []
        · have := Track.removeSubscriber_eq_nil (hk r) removed hlast
          exact Or.inr (Or.inr (by simpa using this))
        · exact Or.inl (by simp [departs, hid, hlast])
  · obtain hsame | ⟨hon, hlive⟩ := inv.attends_iff.mp hid
    · exact absurd hsame hcancelling
    cases htaken : a.takesOff id with
    | true => exact attends_of_takesOff inv h hid hcancelling htaken
    | false =>
      obtain hon' | hnil := (tracks_release h hk hregister r).kept id hon htaken
      · by_cases hover : s'.stage id = .over
        · obtain htaken' | ⟨rfl, hother⟩ := takesOff_of_over inv h hon hlive hover
          · rw [htaken] at htaken'
            cases htaken'
          · exact Or.inl (by simp [departs, hid, hother])
        · exact Or.inr (Or.inl (inv'.attends_iff.mpr (Or.inr ⟨hon', hover⟩)))
      · exact Or.inr (Or.inr hnil)

/-- Where the subscriptions are, and that no exchange goes on for a track that nobody attends: what a
run keeps. Only SUBSCRIBEs are registered. -/
structure Released (s : State) : Prop where
  placed : Placed s
  onlySubscribes : ∀ r, (s.tracks r).OnlySubscribes
  attended : ∀ x r, s.serves x r = true →
    (s.tracks r).origin = .publish ∨ ∃ id, s.attends r id = true

theorem Released.initial : Released State.initial where
  placed := .initial
  onlySubscribes r q hq := by simp [State.initial, Track.new] at hq
  attended x r h := by simp [serves, State.initial] at h

/-- A live subscriber of a track is one the relay has seen, and the track one it has made. -/
theorem Placed.known (inv : Placed s) {r : Nat} {id : SubscriptionId}
    (h : s.attends r id = true) : id ∈ s.arrived ∧ r < s.nextTrackId := by
  obtain hcancelling | ⟨hon, -⟩ := inv.attends_iff.mp h
  · exact ⟨inv.arrived id (by simp [hcancelling]), inv.named id r (by simp [hcancelling, RequestStage.track])⟩
  · obtain ⟨hlt, hplaced⟩ := inv.subscribed r id hon
    refine ⟨inv.arrived id ?_, hlt⟩
    intro hunseen
    simp [hunseen, RequestStage.mayBeOn] at hplaced

theorem Released.plain (inv : Released s) (ha : s.Releases a) (h : Moves s a s')
    (hregister : ∀ x malformed, a ≠ .register x malformed) : Released s' := by
  have hrel := tracks_release h inv.onlySubscribes hregister
  refine ⟨inv.placed.step h, ?_, ?_⟩
  · intro r q hq
    exact inv.onlySubscribes r q ((hrel r).subset q hq)
  · intro x r hserves
    obtain ⟨e', hx, hrun, ht, q, hq, hid⟩ := serves_eq_true.mp hserves
    have hnonempty : (s'.tracks r).upstreamRequests ≠ [] := List.ne_nil_of_mem hq
    obtain ⟨e, he, hrune, hte⟩ | ⟨malformed, rfl⟩ := running_of_moves h hx hrun (by simp [ht])
    · have hbefore : s.serves x r = true :=
        serves_eq_true.mpr ⟨e, he, hrune, hte.trans ht, q, (hrel r).subset q hq, hid⟩
      have hstays : ∀ id, s.attends r id = true → s.departs r a id = false →
          ∃ id, s'.attends r id = true := by
        intro id hattends hdeparts
        obtain hgone | hstays | hnil :=
          attends_of_moves inv.placed inv.onlySubscribes h hregister hattends
        · rw [hdeparts] at hgone
          cases hgone
        · exact ⟨id, hstays⟩
        · exact absurd hnil hnonempty
      obtain hpublish | ⟨id, hattends⟩ := inv.attended x r hbefore
      · exact Or.inl (((hrel r).published hpublish).resolve_right hnonempty)
      · cases hdeparts : s.departs r a id with
        | false => exact Or.inr (hstays id hattends hdeparts)
        | true =>
          obtain ⟨harrived, hlt⟩ := inv.placed.known hattends
          obtain hpublish | ⟨other, -, hother, hdeparts⟩ | hnone := ha r hlt ⟨id, harrived, hdeparts⟩
          · exact Or.inl (((hrel r).published hpublish).resolve_right hnonempty)
          · exact Or.inr (hstays other hother hdeparts)
          · obtain ⟨hlength, -⟩ := List.getElem?_eq_some_iff.mp he
            rw [hnone x hlength] at hbefore
            cases hbefore
    · exact absurd rfl (hregister x malformed)

/-- An exchange registers with a track that something is subscribed to, or is cancelled by the
same step. -/
theorem Released.register (inv : Released s) {x : Nat} {malformed : Bool}
    (h : Moves s (.register x malformed) s') : Released s' := by
  have hplaced := inv.placed.step h
  cases h with
  | failUnregistered fails | failConfirmed fails | failOthers fails | failLast fails => cases fails
  | notRegistered exchange opening =>
    refine ⟨hplaced, inv.onlySubscribes, fun y r hserves => ?_⟩
    refine inv.attended y r ?_
    obtain rfl | hne := eq_or_ne y x
    · simp only [serves, endExchange, setExchange] at hserves
      grind
    · simpa [serves, uncancelled, List.getElem?_set_ne hne.symm] using hserves
  | registered exchange opening registered =>
    rename_i e r
    obtain ⟨requests, hreg, hmem⟩ :=
      (s.tracks r).registerExchange_spec x e.publisher malformed
    rw [hreg] at hplaced ⊢
    refine ⟨hplaced, ?_, ?_⟩
    · intro r' q hq
      simp only [setExchange, setTrack, Function.update_apply] at hq
      split at hq
      · obtain ⟨hq, -⟩ | ⟨rfl, -⟩ := (hmem q).mp hq
        · exact inv.onlySubscribes r q hq
        · rfl
      · exact inv.onlySubscribes r' q hq
    · intro y r' hserves
      obtain ⟨e', hy, hrun, ht, q, hq, hid⟩ := serves_eq_true.mp hserves
      have horigin : ((s.setTrack r { s.tracks r with upstreamRequests := requests }).tracks
          r').origin = (s.tracks r').origin := by
        simp only [setTrack, Function.update_apply]
        split
        next heq => rw [heq]
        next => rfl
      have hattends : ∀ id, s.attends r' id = true →
          ∃ id, ((s.setTrack r { s.tracks r with upstreamRequests := requests }).setExchange x
            { e with track := some r, stage := .waiting }).attends r' id = true := by
        intro id hid
        refine ⟨id, hplaced.attends_iff.mpr ?_⟩
        obtain hcancelling | ⟨hon, hlive⟩ := inv.placed.attends_iff.mp hid
        · exact Or.inl hcancelling
        · refine Or.inr ⟨?_, hlive⟩
          simp only [setExchange, setTrack, Function.update_apply]
          split
          next heq => exact heq ▸ hon
          next => exact hon
      simp only [setExchange, setTrack, Function.update_apply] at hy hq
      obtain rfl | hne := eq_or_ne y x
      · -- the exchange itself: its request is there only if something is subscribed
        obtain rfl : r' = r := by grind
        obtain ⟨-, hid'⟩ | ⟨-, -, hsubs⟩ := (hmem q).mp (by simpa using hq)
        · exact absurd hid hid'
        · obtain ⟨id, hon⟩ := List.exists_mem_of_ne_nil _ hsubs
          have hlive := inv.placed.current r' registered id hon
          exact Or.inr (hattends id (inv.placed.attends_iff.mpr (Or.inr ⟨hon, hlive⟩)))
      · rw [List.getElem?_set_ne hne.symm] at hy
        have hold : q ∈ (s.tracks r').upstreamRequests := by
          split at hq
          next heq =>
            subst heq
            obtain ⟨hq, -⟩ | ⟨rfl, -⟩ := (hmem q).mp hq
            · exact hq
            · exact absurd hid.symm hne
          next => exact hq
        have hbefore : s.serves y r' = true :=
          serves_eq_true.mpr ⟨e', hy, hrun, ht, q, hold, hid⟩
        obtain hpublish | ⟨id, hid⟩ := inv.attended y r' hbefore
        · exact Or.inl (horigin.trans hpublish)
        · exact Or.inr (hattends id hid)

theorem Released.step (inv : Released s) (ha : s.Releases a) (h : Moves s a s') : Released s' := by
  by_cases hregister : ∃ x malformed, a = .register x malformed
  · obtain ⟨x, malformed, rfl⟩ := hregister
    exact inv.register h
  · exact inv.plain ha h fun x malformed heq => hregister ⟨x, malformed, heq⟩

theorem Released.serves_eq_false (inv : Released s) {r : Nat}
    (horigin : (s.tracks r).origin ≠ .publish) (hnobody : ∀ id, s.attends r id = false) (x : Nat) :
    s.serves x r = false := by
  by_contra hserves
  obtain hpublish | ⟨id, hid⟩ := inv.attended x r (by simpa using hserves)
  · exact horigin hpublish
  · rw [hnobody] at hid
    cases hid

/-- Registering neither feeds a track nor brings it a subscriber. -/
theorem register_keeps {x : Nat} {malformed : Bool} (h : Moves s (.register x malformed) s')
    (r : Nat) : (s'.tracks r).origin = (s.tracks r).origin ∧ ∀ id, s'.attends r id = s.attends r id := by
  cases h with
  | failUnregistered fails | failConfirmed fails | failOthers fails | failLast fails => cases fails
  | notRegistered => exact ⟨rfl, fun _ => rfl⟩
  | registered =>
    rename_i e r' _ _ _
    obtain ⟨requests, hreg, -⟩ := (s.tracks r').registerExchange_spec x e.publisher malformed
    rw [hreg]
    obtain rfl | hne := eq_or_ne r r'
    · simp [attends, Track.hasSubscription]
    · simp [attends, hne]

/-- In a run in which every step that takes a live subscriber off a track unnoticed leaves another
there, or no exchange that would go on for it, no upstream SUBSCRIBE outlives the last subscriber. -/
theorem run_upstreamReleased (actions : List Action) (s : State)
    (hreleases : Along step State.Releases State.initial actions)
    (hrun : run step State.initial actions = some s) : s.UpstreamReleased := by
  have inv : Released s := run_invariant
    (fun _ _ _ inv ha h => inv.step ha (moves_of_step h)) actions _ _ Released.initial hreleases hrun
  intro r horigin hnobody
  have hpublish : (s.tracks r).origin ≠ .publish := by simp [horigin]
  refine ⟨inv.serves_eq_false hpublish hnobody, fun x malformed s' h => ?_⟩
  have hmoves := moves_of_register h
  obtain ⟨horigin', hattends⟩ := register_keeps hmoves r
  refine (inv.register hmoves).serves_eq_false (horigin' ▸ hpublish) ?_ x
  intro id
  rw [hattends, hnobody]

/-- One subscriber joins, and its publisher accepts. -/
def servedOnce : List Action :=
  [.subscribe (1, 0) [7], .join (1, 0), .proceed (1, 0), .forward (1, 0), .register 0 false,
    .subscribeOk 0 3 false false, .confirm 0, .answer 0]

/-- A second subscriber joins and a third is pushed the track; the first fails an update, the third
refuses, and the second leaves. -/
def servedToThree : List Action :=
  servedOnce ++ [.subscribe (2, 0) [7], .join (2, 0), .proceed (2, 0), .pushTrack (3, 1) 0,
    .failUpdate (1, 0), .endPushed (3, 1), .cancel (2, 0), .leave (2, 0)]

theorem run_upstreamReleased_twoSubscribers :
    ((run step State.initial servedToThree).any fun s => s.serves 0 0 = false) = true ∧
    ∀ s, run step State.initial servedToThree = some s → s.UpstreamReleased :=
  ⟨by decide, fun s => run_upstreamReleased _ s (by decide)⟩

/-- A failed update takes the only subscription off the track, and its publisher goes on. -/
theorem failedUpdate_not_released :
    ¬ ∀ actions s, run step State.initial actions = some s → s.UpstreamReleased := by
  intro h
  have hrun : ((run step State.initial (servedOnce ++ [.failUpdate (1, 0)])).any fun s =>
      (s.tracks 0).origin = .subscribe ∧ s.arrived.all (fun id => ! s.attends 0 id) = true ∧
        s.serves 0 0 = true) = true := by decide
  obtain ⟨s, hs, hfacts⟩ := (Option.any_eq_true _ _).mp hrun
  obtain ⟨horigin, hnobody, hserves⟩ := of_decide_eq_true hfacts
  have hplaced := run_placed hs
  have hreleased := (h _ s hs 0 horigin ?_).1 0
  · rw [hserves] at hreleased
    cases hreleased
  · intro id
    by_contra hattends
    have hattends : s.attends 0 id = true := by simpa using hattends
    have := List.all_eq_true.mp hnobody id (hplaced.known hattends).1
    simp [hattends] at this

end Moqtail.Control
