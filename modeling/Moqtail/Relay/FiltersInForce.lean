import Moqtail.Lib.Run
import Moqtail.Relay.SubscriptionSettings

/-! The Range Filters a subscription is served with are those that were checked.

The checks and the updates are in different places of the relay, and each makes a list of parameters
of its own out of the same requests. Where a list could not be made into a filter, the subscription
would be served without any. No run of requests leads there, and what an Object has to pass is at every
time what the parameters in force say. -/
namespace Moqtail

open Lib Message
open CombinedFilter (filtersOf Applicable PassesSome)

/-! The settings in force. -/

theorem findSome?_filter_of_forall {α β : Type} {f : α → Option β} {q : α → Bool} (l : List α)
    (h : ∀ a ∈ l, q a = false → f a = none) : (l.filter q).findSome? f = l.findSome? f := by
  induction l with
  | nil => rfl
  | cons a l ih =>
    rw [List.forall_mem_cons] at h
    cases hq : q a with
    | true => rw [List.filter_cons_of_pos hq, List.findSome?_cons, List.findSome?_cons, ih h.2]
    | false => rw [List.filter_cons_of_neg (ne_true_of_eq_false hq), List.findSome?_cons, h.1 hq, ih h.2]

theorem parameterType_eq_of_typeValue {p p' : MessageParameter}
    (h : p.typeValue = p'.typeValue) : p.parameterType = p'.parameterType := by
  have hsame := congrArg MessageParameterType.tryFrom h
  rw [MessageParameter.typeValue, MessageParameter.typeValue, MessageParameterType.tryFrom_toU64,
    MessageParameterType.tryFrom_toU64] at hsame
  exact Except.ok.inj hsame

/-- What an update says of a setting counts, and otherwise what was said before. -/
theorem findSome?_applyUpdate {α : Type} {f : MessageParameter → Option α}
    {type : MessageParameterType} (htype : ∀ p, (f p).isSome = true ↔ p.parameterType = type)
    (hne : ∀ kind : RangeFilterKind, kind.parameterType ≠ type)
    (current update : List MessageParameter) :
    (applyMessageParameterUpdate current update).findSome? f =
      (update.findSome? f).or (current.findSome? f) := by
  have hnone : ∀ p, p.parameterType ≠ type → f p = none := fun p hp =>
    Option.not_isSome_iff_eq_none.mp fun hsome => hp ((htype p).mp hsome)
  rw [applyMessageParameterUpdate, List.findSome?_append, findSome?_filter_of_forall update]
  · cases hupdate : update.findSome? f with
    | none =>
      rw [Option.none_or, Option.or_none, findSome?_filter_of_forall current]
      intro p _ hremoved
      rw [Bool.not_eq_false', List.any_eq_true] at hremoved
      obtain ⟨u, hu, hsame⟩ := hremoved
      have hu' := List.findSome?_eq_none_iff.mp hupdate u hu
      refine hnone p fun hp => ?_
      have hsome := (htype u).mpr
        ((parameterType_eq_of_typeValue (of_decide_eq_true hsame)).trans hp)
      rw [hu'] at hsome
      cases hsome
    | some a =>
      obtain ⟨u, hu, ha⟩ := List.exists_of_findSome?_eq_some hupdate
      have hu' := (htype u).mp (by rw [ha]; rfl)
      have hgone : (current.filter fun p => ! update.any fun u => u.typeValue = p.typeValue).findSome?
          f = none := by
        rw [List.findSome?_eq_none_iff]
        intro p hp
        refine hnone p fun hp' => ?_
        have hkept := (List.mem_filter.mp hp).2
        have hnamed : (update.any fun u => u.typeValue = p.typeValue) = true :=
          List.any_eq_true.mpr ⟨u, hu, decide_eq_true (by
            rw [MessageParameter.typeValue, MessageParameter.typeValue, hu', hp'])⟩
        rw [hnamed] at hkept
        cases hkept
      rw [hgone]
      rfl
  · intro u _ hremoval
    split at hremoval
    · exact hnone _ (hne _)
    · cases hremoval

theorem locationFilterIn_applyUpdate (current update : List MessageParameter) :
    locationFilterIn (applyMessageParameterUpdate current update) =
      (locationFilterIn update).or (locationFilterIn current) := by
  have hne : ∀ kind : RangeFilterKind, kind.parameterType ≠ .locationFilter := by
    intro kind
    cases kind <;> simp [RangeFilterKind.parameterType]
  apply findSome?_applyUpdate _ hne
  intro p
  cases p with
  | rangeFilter kind f =>
    cases kind <;> simp [MessageParameter.parameterType, RangeFilterKind.parameterType]
  | _ => simp [MessageParameter.parameterType]

namespace SubscriptionSettings

/-- The settings are those that the parameters say, and the parameters pass the check. -/
structure InForce (limit : Nat) (s : SubscriptionSettings) : Prop where
  checked : objectFilter s.subscribeParameters limit = .ok s.rangeFilter
  located : s.state.locationFilter = locationFilterOf s.subscribeParameters

theorem beginSwitch_located {s : SubscriptionSettings} {filter : Option LocationFilter}
    (h : filter.all (· = s.state.locationFilter) = true) (largest : Option Location) :
    (s.beginSwitch filter largest).state.locationFilter = s.state.locationFilter := by
  cases filter with
  | none => rfl
  | some filter => exact of_decide_eq_true h

theorem resolveLiveStart_located (s : SubscriptionSettings) (largest : Option Location) :
    (s.resolveLiveStart largest).state.locationFilter = s.state.locationFilter := by
  unfold resolveLiveStart SubscriptionState.resolveLiveStart
  split <;> rfl

theorem create_located (forward : Bool) (filter : LocationFilter) :
    (SubscriptionState.create forward filter).locationFilter = filter := by
  unfold SubscriptionState.create
  simp only
  split <;> rfl

theorem updateSubscription_located {s : SubscriptionSettings}
    (h : s.state.locationFilter = locationFilterOf s.subscribeParameters)
    (update : List MessageParameter) :
    (s.updateSubscription update).1.state.locationFilter =
      locationFilterOf (applyMessageParameterUpdate s.subscribeParameters update) := by
  rw [locationFilterOf, locationFilterIn_applyUpdate, updateSubscription]
  cases locationFilterIn update with
  | none => exact h
  | some filter => rfl

/-- An update that passes the check is in force once it is applied, whatever the Largest Object and
the switch that come with it. -/
theorem inForce_updateSubscription {limit : Nat} {s : SubscriptionSettings} (h : s.InForce limit)
    {update : List MessageParameter} {filter : CombinedFilter}
    (hchecked : updatedFilter s.subscribeParameters update limit = .ok filter) :
    (s.updateSubscription update).1.InForce limit ∧
      (s.updateSubscription update).1.rangeFilter = filter := by
  have hfilter := objectFilter_of_updatedFilter hchecked
  have hmade : (s.updateSubscription update).1.rangeFilter = filter :=
    filterOrDefault_eq (objectFilter_eq_ok_iff.mp hfilter).2
  refine ⟨⟨?_, updateSubscription_located h.located update⟩, hmade⟩
  rw [hmade]
  exact hfilter

theorem InForce.resolveLiveStart {limit : Nat} {s : SubscriptionSettings} (h : s.InForce limit)
    (largest : Option Location) : (s.resolveLiveStart largest).InForce limit :=
  ⟨h.checked, (resolveLiveStart_located s largest).trans h.located⟩

theorem InForce.beginSwitch {limit : Nat} {s : SubscriptionSettings} (h : s.InForce limit)
    {filter : Option LocationFilter} (hfilter : filter.all (· = s.state.locationFilter) = true)
    (largest : Option Location) : (s.beginSwitch filter largest).InForce limit :=
  ⟨h.checked, (beginSwitch_located hfilter largest).trans h.located⟩

/-- What the subscriber is served is what the parameters in force say: the live Objects, of which at
most as many Ranges are asked as the relay allows, and those of a fill. -/
structure Served (limit : Nat) (s : SubscriptionSettings) : Prop where
  made : CombinedFilter.forObjects s.subscribeParameters = .ok s.rangeFilter
  bounded : s.rangeFilter.rangeCount ≤ limit
  live : ∀ fields, s.rangeFilter.passes fields = true ↔
    PassesSome (filtersOf s.subscribeParameters) fields
  filled : ∀ largest d, s.openFill largest = some d →
    ∃ fill, fillParametersOf s.subscribeParameters = some fill ∧
      CombinedFilter.forObjects (fillRangeFilters s.subscribeParameters fill) = .ok d.filter ∧
      (fillFilter fill (locationFilterOf s.subscribeParameters)).fetchRange largest =
        some (d.startLocation, d.endLocation) ∧
      ∀ fields, d.filter.passes fields = true ↔
        PassesSome (replacedBy fill (filtersOf s.subscribeParameters)) fields

theorem mem_of_fillParametersOf {params fill : List MessageParameter}
    (h : fillParametersOf params = some fill) : .fillParameters fill ∈ params := by
  obtain ⟨param, hparam, hsome⟩ := List.exists_of_findSome?_eq_some h
  cases param with
  | fillParameters parameters =>
    cases hsome
    exact hparam
  | _ => cases hsome

theorem names_isRangeFilter (update : List MessageParameter) (kind : RangeFilterKind) :
    names (update.filter isRangeFilter) kind = names update kind := by
  rw [names, names, List.any_filter]
  congr 1
  funext u
  cases u with
  | rangeFilter _ _ => rfl
  | _ => cases kind <;> rfl

theorem replacedBy_isRangeFilter (update : List MessageParameter)
    (filters : List (RangeFilterKind × RangeFilter)) :
    replacedBy (update.filter isRangeFilter) filters = replacedBy update filters := by
  simp only [replacedBy, names_isRangeFilter, filtersOf_isRangeFilter]

theorem InForce.served {limit : Nat} {s : SubscriptionSettings} (h : s.InForce limit) :
    s.Served limit := by
  obtain ⟨hchecked, hmade⟩ := objectFilter_eq_ok_iff.mp h.checked
  refine ⟨hmade, rangeCount_le h.checked, fun fields => ?_, fun largest d hopen => ?_⟩
  · exact (forObjects_means hmade).2.2.passes_iff fields
  · rw [openFill] at hopen
    cases hfill : fillParametersOf s.subscribeParameters with
    | none =>
      rw [hfill] at hopen
      cases hopen
    | some fill =>
      obtain ⟨filter, hfilter⟩ := hchecked.fills fill (mem_of_fillParametersOf hfill)
      rw [← forObjects_isRangeFilter] at hfilter hmade
      obtain ⟨combined, hcombined, hpasses⟩ := forObjects_applyUpdate hmade hfilter
      rw [hfill, h.located] at hopen
      simp only at hopen
      split at hopen
      · cases hopen
      · obtain ⟨range, hrange, hd⟩ := Option.map_eq_some_iff.mp hopen
        cases hd
        have hfilter' : fillRangeFilter s.subscribeParameters fill = combined :=
          filterOrDefault_eq hcombined
        refine ⟨fill, rfl, ?_, hrange, ?_⟩
        · rw [hfilter']
          exact hcombined
        · intro fields
          rw [hfilter', hpasses, filtersOf_isRangeFilter, replacedBy_isRangeFilter]

end SubscriptionSettings

/-! A SUBSCRIBE. -/

namespace Subscribed

structure InForce (limit : Nat) (s : Subscribed) : Prop where
  recorded : s.recorded = s.settings.subscribeParameters
  settings : s.settings.InForce limit

theorem inForce_ofSubscribe {limit : Nat} {m : Message.Subscribe} {filter : CombinedFilter}
    (h : objectFilter m.subscribeParameters limit = .ok filter) (joined : Option Location)
    (switched : Option (Option Location)) : (ofSubscribe m joined switched).InForce limit := by
  have hmade : (SubscriptionSettings.ofSubscribe m.subscribeParameters).rangeFilter = filter :=
    filterOrDefault_eq (objectFilter_eq_ok_iff.mp h).2
  have hstart : (SubscriptionSettings.ofSubscribe m.subscribeParameters).InForce limit := by
    refine ⟨?_, SubscriptionSettings.create_located _ _⟩
    rw [hmade]
    exact h
  have hjoined := hstart.resolveLiveStart joined
  cases switched with
  | none => exact ⟨rfl, hjoined⟩
  | some largest =>
    refine ⟨rfl, hjoined.beginSwitch ?_ largest⟩
    exact decide_eq_true hjoined.located.symm

/-- An update that is let through is applied to both lists. -/
theorem inForce_apply {limit : Nat} {s : Subscribed} (h : s.InForce limit) {u : SubscriptionUpdate}
    {filter : CombinedFilter} (hchecked : updatedFilter s.recorded u.message.parameters limit = .ok filter)
    (switches : Bool) : (s.apply u switches).InForce limit ∧
      (s.apply u switches).settings.rangeFilter = filter := by
  rw [h.recorded] at hchecked
  obtain ⟨hafter, hfilter⟩ := SubscriptionSettings.inForce_updateSubscription h.settings hchecked
  have hrecorded : applyMessageParameterUpdate s.recorded u.message.parameters =
      (s.settings.updateSubscription u.message.parameters).1.subscribeParameters := by
    rw [h.recorded]
    rfl
  have hlocated : (locationFilterIn u.message.parameters).all
      (· = (s.settings.updateSubscription u.message.parameters).1.state.locationFilter) = true := by
    rw [SubscriptionSettings.updateSubscription]
    cases locationFilterIn u.message.parameters with
    | none => rfl
    | some filter => exact decide_eq_true rfl
  cases switches with
  | true => exact ⟨⟨hrecorded, hafter.beginSwitch hlocated u.largest⟩, hfilter⟩
  | false =>
    simp only [apply, Bool.false_eq_true, if_false]
    split
    · exact ⟨⟨hrecorded, hafter.resolveLiveStart u.largest⟩, hfilter⟩
    · exact ⟨⟨hrecorded, hafter⟩, hfilter⟩

/-- What a turn of the request stream keeps. -/
theorem inForce_handleRequestUpdate {limit : Nat} {s s' : Subscribed} (h : s.InForce limit)
    {u : SubscriptionUpdate} (hstep : handleRequestUpdate limit s u = some s') : s'.InForce limit := by
  unfold handleRequestUpdate at hstep
  split at hstep
  · cases hstep
  next filter hchecked =>
    split at hstep
    · cases hstep
      exact h
    next switches _ =>
      cases hstep
      exact (inForce_apply h hchecked switches).1

/-- Of a SUBSCRIBE that is let through, and after whatever updates: the two lists of its parameters
are one, the subscriber is served what they say, and an update that passes the check leaves it with
the filter the check made. -/
theorem subscribe_filters_in_force {limit : Nat} {m : Message.Subscribe} {accepted : CombinedFilter}
    (haccepted : objectFilter m.subscribeParameters limit = .ok accepted) (joined : Option Location)
    (switched : Option (Option Location)) (updates : List SubscriptionUpdate) {s : Subscribed}
    (hrun : run (handleRequestUpdate limit) (ofSubscribe m joined switched) updates = some s) :
    s.recorded = s.settings.subscribeParameters ∧ s.settings.Served limit ∧
      ∀ u filter switches, updatedFilter s.recorded u.message.parameters limit = .ok filter →
        u.plan = .ok switches →
        ∃ s', handleRequestUpdate limit s u = some s' ∧ s'.settings.rangeFilter = filter := by
  have hinforce : s.InForce limit :=
    run_invariant (P := fun _ _ => True) (fun _ _ _ h _ hstep => inForce_handleRequestUpdate h hstep)
      updates _ _ (inForce_ofSubscribe haccepted joined switched)
      (Along.of_forall (P := fun _ => True) updates _ fun _ _ => trivial) hrun
  refine ⟨hinforce.recorded, hinforce.settings.served, fun u filter switches hchecked hplan => ?_⟩
  refine ⟨s.apply u switches, ?_, (inForce_apply hinforce hchecked switches).2⟩
  rw [handleRequestUpdate, hchecked, hplan]

/-- A SUBSCRIBE for two Ranges of Object IDs. -/
def rangedSubscribe : Message.Subscribe where
  requestId := 4
  trackNamespace := ⟨[[110]]⟩
  trackName := [116]
  subscribeParameters := [.rangeFilter .objectId (some ⟨0, none, [(2, some 3), (1, none)]⟩)]

/-- An update to one Range of priorities as well, with a fill that has its own Object IDs. -/
def rangedUpdate : SubscriptionUpdate where
  message := ⟨6, [.rangeFilter .priority (some ⟨0, none, [(1, some 6)]⟩),
    .fillParameters [.rangeFilter .objectId (some ⟨0, none, [(0, none)]⟩)]]⟩
  plan := .ok false
  largest := some ⟨3, 1⟩

theorem subscribe_filters_in_force_ranged : ∃ s,
    run (handleRequestUpdate 3) (ofSubscribe rangedSubscribe none none) [rangedUpdate] = some s ∧
      s.recorded = s.settings.subscribeParameters ∧ s.settings.Served 3 := by
  have hrun : ∃ s, run (handleRequestUpdate 3) (ofSubscribe rangedSubscribe none none)
      [rangedUpdate] = some s := ⟨_, rfl⟩
  have haccepted : ∃ accepted, objectFilter rangedSubscribe.subscribeParameters 3 = .ok accepted :=
    ⟨_, rfl⟩
  obtain ⟨s, hs⟩ := hrun
  obtain ⟨accepted, haccepted⟩ := haccepted
  have hall := subscribe_filters_in_force haccepted none none [rangedUpdate] hs
  exact ⟨s, hs, hall.1, hall.2.1⟩

end Subscribed

/-! A pushed PUBLISH. -/

/-- A pushed PUBLISH carries no filter of a range and no fill. -/
theorem types_downstreamPublish (upstream subscribeTracks : List MessageParameter)
    (observed : Option Location) : ∀ p ∈ downstreamPublish upstream subscribeTracks observed,
      p.parameterType ∈ [.forward, .groupOrder, .locationFilter, .largestObject] := by
  intro p hp
  simp only [downstreamPublish, List.cons_append, List.mem_cons, List.mem_append,
    Option.mem_toList, Option.map_eq_some_iff] at hp
  rcases hp with rfl | (⟨order, -, rfl⟩ | ⟨filter, -, rfl⟩) | ⟨largest, -, rfl⟩ <;>
    simp [MessageParameter.parameterType]

namespace SubscriptionSettings

variable {subscribeTracks : List MessageParameter} {track : PublishedTrack}
  {s : SubscriptionSettings}

/-- The parameters of a pushed subscription, in their three parts. -/
structure PushedWith (subscribeTracks : List MessageParameter) (track : PublishedTrack)
    (kept : List MessageParameter) (s : SubscriptionSettings) : Prop where
  narrowed : filtersForTrack subscribeTracks track.trackProperties = some kept
  parameters : s.subscribeParameters =
    downstreamPublish track.parameters subscribeTracks track.observed ++ kept ++
      ((fillParametersOf subscribeTracks).map .fillParameters).toList
  filter : s.rangeFilter = filterOrDefault kept
  located : s.state.locationFilter =
    locationFilterOf (downstreamPublish track.parameters subscribeTracks track.observed)

variable {kept : List MessageParameter} {params : List MessageParameter}

theorem PushedWith.isRangeFilter (h : PushedWith subscribeTracks track kept s)
    (hkept : ∀ p ∈ kept, ∃ kind f, p = .rangeFilter kind (some f)) :
    s.subscribeParameters.filter isRangeFilter = kept := by
  have hself : kept.filter Moqtail.isRangeFilter = kept := by
    rw [List.filter_eq_self]
    intro p hp
    obtain ⟨kind, f, rfl⟩ := hkept p hp
    rfl
  have hnone : (downstreamPublish track.parameters subscribeTracks track.observed).filter
      Moqtail.isRangeFilter = [] := by
    rw [List.filter_eq_nil_iff]
    intro p hp hrange
    have htype := types_downstreamPublish _ _ _ p hp
    cases p with
    | rangeFilter kind f => cases kind <;> simp [MessageParameter.parameterType,
        RangeFilterKind.parameterType] at htype
    | _ => cases hrange
  rw [h.parameters, List.filter_append, List.filter_append, hself, hnone]
  cases fillParametersOf subscribeTracks with
  | none => exact List.append_nil _
  | some fill => exact List.append_nil _

end SubscriptionSettings

end Moqtail
