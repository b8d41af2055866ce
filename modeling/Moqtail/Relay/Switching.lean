import Moqtail.Wire.Filters
import Moqtail.Ssts.SwitchingSet

/-! What a track switch does to a subscription, from `server/subscription.rs` (`begin_switch`,
`suspend_at`, `cut_suspending`, `finish_soft_drain`, `update_subscription`) and
`server/client/switch_context.rs`. Each operation is one write under the lock of the subscription's
state, and is a function on that state here; the streams it closes and the messages it sends are left
out.

`begin_switch` is to undo what an earlier switch left. It takes back the suspension and not the end
that the suspension brought forward, unless the request carries a filter. -/
namespace Moqtail

open Ssts (FullTrackName)

/-- `activated` tells the shared flags of different switches apart. -/
structure SwitchPlan where
  suspending : FullTrackName
  suspendingRequestId : Nat
  mode : SwitchMode
  publishDone : Bool
  boundary : Option UInt64
  activated : Nat
deriving Repr, DecidableEq

/-- The part of a subscription's state that switches read and write. -/
structure SubscriptionState where
  forward : Bool
  locationFilter : LocationFilter
  startLocation : Option Location
  endGroup : Option UInt64
  endObject : Option UInt64
  softSuspended : Bool
  publishDoneAtEnd : Bool
  switchActivated : Option Nat
deriving Repr, DecidableEq

namespace SubscriptionState

def setLocationFilter (state : SubscriptionState) (filter : LocationFilter)
    (largest : Option Location) : SubscriptionState :=
  { state with
    startLocation := filter.startLocation largest
    endGroup := filter.endLocation.map (·.group)
    endObject := (filter.endLocation.map (·.object)).filter (· ≠ 0xFFFFFFFFFFFFFFFF)
    locationFilter := filter }

/-- A subscription as a SUBSCRIBE or a PUBLISH makes it. -/
def create (forward : Bool) (filter : LocationFilter) : SubscriptionState :=
  let state : SubscriptionState :=
    { forward := forward
      locationFilter := .none
      startLocation := none
      endGroup := none
      endObject := none
      softSuspended := false
      publishDoneAtEnd := false
      switchActivated := none }
  let state := state.setLocationFilter filter none
  if (filter.liveStartLocation none).isSome then { state with startLocation := none } else state

def isPastEnd (state : SubscriptionState) (location : Location) : Bool :=
  match state.endGroup with
  | none => false
  | some endGroup =>
    location.group > endGroup ||
      (location.group = endGroup &&
        match state.endObject with
        | some object => location.object > object
        | none => false)

/-- `begin_switch`, on the subscription it activates. -/
def beginSwitch (state : SubscriptionState) (filter : Option LocationFilter)
    (largest : Option Location) : SubscriptionState :=
  let state :=
    match filter with
    | some filter => state.setLocationFilter filter largest
    | none => state
  { state with
    forward := true
    softSuspended := false
    publishDoneAtEnd := false
    switchActivated := none }

/-- `suspend_at`, on the subscription the plan suspends. -/
def suspendAt (state : SubscriptionState) (plan : SwitchPlan) (boundary : UInt64) :
    SubscriptionState :=
  if plan.mode ≠ .soft ∨ boundary = 0 then state
  else
    let endGroup :=
      match state.endGroup with
      | none => boundary - 1
      | some existing => min existing (boundary - 1)
    { state with
      softSuspended := true
      -- an End Object belongs to the group the filter named, not to an earlier one
      endObject := if some endGroup ≠ state.endGroup then none else state.endObject
      endGroup := some endGroup
      publishDoneAtEnd := plan.publishDone
      switchActivated := some plan.activated }

/-- What `cut_suspending` leaves. -/
def cut (state : SubscriptionState) : SubscriptionState := { state with forward := false }

/-- The drain of a soft switch ends. -/
def finishSoftDrain (state : SubscriptionState) : SubscriptionState :=
  if state.softSuspended then
    { state with
      softSuspended := false
      forward := false
      switchActivated := none
      publishDoneAtEnd := false }
  else state

/-- `update_subscription`, for the parameters that concern a switch. -/
def update (state : SubscriptionState) (filter : Option LocationFilter) (forward : Option Bool) :
    SubscriptionState :=
  let state :=
    match filter with
    | some filter => state.setLocationFilter filter none
    | none => state
  { state with forward := forward.getD state.forward }

def resolveLiveStart (state : SubscriptionState) (largest : Option Location) : SubscriptionState :=
  match state.locationFilter.liveStartLocation largest with
  | some start => { state with startLocation := some start }
  | none => state

end SubscriptionState

/-! The end of a subscription over the switches it goes through. -/

inductive SwitchStep where
  | beginSwitch (filter : Option LocationFilter) (largest : Option Location)
  | suspendAt (plan : SwitchPlan) (boundary : UInt64)
  | cut
  | finishSoftDrain
  | update (filter : Option LocationFilter) (forward : Option Bool)
  | resolveLiveStart (largest : Option Location)
deriving Repr, DecidableEq

namespace SwitchStep

/-- The filter that the step puts in place of the one before. -/
def adopts : SwitchStep → Option LocationFilter
  | .beginSwitch filter _ => filter
  | .update filter _ => filter
  | _ => none

def isSwitch : SwitchStep → Bool
  | .update _ _ => false
  | .resolveLiveStart _ => false
  | _ => true

/-- The step is a soft switch away from the subscription, at a boundary that comes before the end of
its filter. -/
def lowersEnd (filter : LocationFilter) : SwitchStep → Bool
  | .suspendAt plan boundary =>
    decide (plan.mode = .soft) && decide (boundary ≠ 0) &&
      filter.endLocation.all fun last => decide (boundary - 1 < last.group)
  | _ => false

end SwitchStep

def SubscriptionState.apply (state : SubscriptionState) : SwitchStep → SubscriptionState
  | .beginSwitch filter largest => state.beginSwitch filter largest
  | .suspendAt plan boundary => state.suspendAt plan boundary
  | .cut => state.cut
  | .finishSoftDrain => state.finishSoftDrain
  | .update filter forward => state.update filter forward
  | .resolveLiveStart largest => state.resolveLiveStart largest

def SubscriptionState.afterSteps (state : SubscriptionState) (steps : List SwitchStep) :
    SubscriptionState :=
  steps.foldl apply state

/-- `begin_switch` is the last switch step on the subscription: it is the activated one. -/
def Activated (steps : List SwitchStep) : Prop :=
  ∃ earlier filter largest later, steps = earlier ++ .beginSwitch filter largest :: later ∧
    ∀ step ∈ later, step.isSwitch = false

/-- The location lies after the end the filter asks for. -/
def LocationFilter.PastEnd (filter : LocationFilter) (location : Location) : Prop :=
  ∃ last ∈ filter.endLocation, last < location

/-- Since the filter in place was adopted, a soft switch away from the subscription has brought its
end forward. `filter` is the one it starts with. -/
def endLowered : LocationFilter → Bool → List SwitchStep → Bool
  | _, lowered, [] => lowered
  | filter, lowered, step :: steps =>
    match step.adopts with
    | some adopted => endLowered adopted false steps
    | none => endLowered filter (lowered || step.lowersEnd filter) steps

namespace SubscriptionState

variable {state : SubscriptionState} {filter : LocationFilter} {lowered : Bool}

/-- The end in force is the filter's, or an earlier one once it is lowered. -/
structure EndsBy (state : SubscriptionState) (filter : LocationFilter) (lowered : Bool) : Prop where
  filter_eq : state.locationFilter = filter
  kept : lowered = false → state.endGroup = filter.endLocation.map (·.group) ∧
    state.endObject = (filter.endLocation.map (·.object)).filter (· ≠ 0xFFFFFFFFFFFFFFFF)
  earlier : lowered = true → ∃ endGroup, state.endGroup = some endGroup ∧
    endGroup.toNat + 1 < 2 ^ 64 ∧ ∀ last ∈ filter.endLocation, endGroup < last.group

theorem EndsBy.isPastEnd_iff (h : EndsBy state filter false) (location : Location) :
    state.isPastEnd location = true ↔ filter.PastEnd location := by
  obtain ⟨hgroup, hobject⟩ := h.kept rfl
  unfold isPastEnd LocationFilter.PastEnd
  rw [hgroup, hobject]
  cases hlast : filter.endLocation with
  | none => simp
  | some last =>
    have hlt : last < location ↔ last.group < location.group ∨
        (last.group = location.group ∧ last.object < location.object) := Iff.rfl
    have hmax : ¬ (0xFFFFFFFFFFFFFFFF : UInt64) < location.object := by
      have := location.object.toNat_lt
      rw [UInt64.lt_iff_toNat_lt]
      simp
      omega
    simp only [Option.map_some, Option.mem_def, Option.some.injEq, exists_eq_left', hlt,
      Option.filter_some]
    grind

/-- Right after an end that was brought forward comes a location that the filter asks for. -/
theorem EndsBy.exists_cut (h : EndsBy state filter true) :
    ∃ location, state.isPastEnd location = true ∧ ¬ filter.PastEnd location := by
  obtain ⟨endGroup, hgroup, hmax, hearlier⟩ := h.earlier rfl
  have hnext : (endGroup + 1).toNat = endGroup.toNat + 1 := by
    rw [UInt64.toNat_add]
    exact Nat.mod_eq_of_lt hmax
  refine ⟨⟨endGroup + 1, 0⟩, ?_, ?_⟩
  · have : endGroup < endGroup + 1 := by
      rw [UInt64.lt_iff_toNat_lt]
      omega
    simp [isPastEnd, hgroup, this]
  · rintro ⟨last, hlast, hlt⟩
    have hearlier := hearlier last hlast
    obtain hlt | ⟨-, hlt⟩ := hlt
    · rw [UInt64.lt_iff_toNat_lt] at hearlier hlt
      simp only [hnext] at hlt
      omega
    · exact absurd hlt (by simp)

theorem EndsBy.setLocationFilter (state : SubscriptionState) (filter : LocationFilter)
    (largest : Option Location) : EndsBy (state.setLocationFilter filter largest) filter false :=
  ⟨rfl, fun _ => ⟨rfl, rfl⟩, by simp⟩

theorem EndsBy.create (forward : Bool) (filter : LocationFilter) :
    EndsBy (create forward filter) filter false := by
  unfold SubscriptionState.create
  dsimp only
  split <;> exact ⟨rfl, fun _ => ⟨rfl, rfl⟩, by simp⟩

theorem pred_lt_of_ne_zero {boundary : UInt64} (h : boundary ≠ 0) :
    (boundary - 1).toNat + 1 = boundary.toNat := by
  have hpos : boundary.toNat ≠ 0 := by
    intro hzero
    exact h (UInt64.toNat_inj.mp hzero)
  have hle : (1 : UInt64) ≤ boundary := by
    rw [UInt64.le_iff_toNat_le]
    simp
    omega
  rw [UInt64.toNat_sub_of_le _ _ hle]
  simp
  omega

theorem toNat_min (a b : UInt64) : (min a b).toNat = min a.toNat b.toNat := by
  change (if a ≤ b then a else b).toNat = _
  split
  next h =>
    rw [UInt64.le_iff_toNat_le] at h
    omega
  next h =>
    rw [UInt64.le_iff_toNat_le] at h
    omega

theorem EndsBy.suspendAt (h : EndsBy state filter lowered) (plan : SwitchPlan) (boundary : UInt64) :
    EndsBy (state.suspendAt plan boundary) filter
      (lowered || (SwitchStep.suspendAt plan boundary).lowersEnd filter) := by
  unfold SubscriptionState.suspendAt
  simp only [SwitchStep.lowersEnd]
  split
  next hnot =>
    have : (decide (plan.mode = .soft) && decide (boundary ≠ 0)) = false := by
      obtain hmode | hzero := hnot
      · simp [hmode]
      · simp [hzero]
    rw [this]
    simpa using h
  next hsoft =>
    push Not at hsoft
    have hpred := pred_lt_of_ne_zero hsoft.2
    have hbound := boundary.toNat_lt
    simp only [hsoft.1, hsoft.2, decide_true, ne_eq, not_false_eq_true, Bool.true_and]
    cases lowered with
    | true =>
      obtain ⟨endGroup, hgroup, hmax, hearlier⟩ := h.earlier rfl
      refine ⟨h.filter_eq, by simp, ?_⟩
      intro _
      refine ⟨min endGroup (boundary - 1), by simp [hgroup], ?_, ?_⟩
      · rw [toNat_min]
        omega
      · intro last hlast
        have := hearlier last hlast
        rw [UInt64.lt_iff_toNat_lt] at this ⊢
        rw [toNat_min]
        omega
    | false =>
      obtain ⟨hgroup, hobject⟩ := h.kept rfl
      cases hlast : filter.endLocation with
      | none =>
        rw [hlast] at hgroup
        refine ⟨h.filter_eq, by simp, ?_⟩
        intro _
        exact ⟨boundary - 1, by simp [hgroup], by omega, by simp [hlast]⟩
      | some last =>
        rw [hlast, Option.map_some] at hgroup
        by_cases hlt : boundary - 1 < last.group
        · refine ⟨h.filter_eq, by simp [hlt], ?_⟩
          intro _
          have hmin : min last.group (boundary - 1) = boundary - 1 := by
            rw [← UInt64.toNat_inj, toNat_min]
            rw [UInt64.lt_iff_toNat_lt] at hlt
            omega
          refine ⟨boundary - 1, by simp [hgroup, hmin], by omega, ?_⟩
          simpa [hlast] using hlt
        · have hmin : min last.group (boundary - 1) = last.group := by
            rw [← UInt64.toNat_inj, toNat_min]
            rw [UInt64.lt_iff_toNat_lt] at hlt
            omega
          refine ⟨h.filter_eq, ?_, by simp [hlt]⟩
          intro _
          simp only [hgroup, hmin, hlast, hobject, Option.map_some]
          simp

/-- A step that adopts a filter starts afresh from it; any other keeps the filter. -/
theorem EndsBy.apply (h : EndsBy state filter lowered) (step : SwitchStep) :
    match step.adopts with
    | some adopted => EndsBy (state.apply step) adopted false
    | none => EndsBy (state.apply step) filter (lowered || step.lowersEnd filter) := by
  have hkept : EndsBy state filter (lowered || false) := by simpa using h
  cases step with
  | beginSwitch adopted largest =>
    cases adopted with
    | none => exact ⟨hkept.filter_eq, hkept.kept, hkept.earlier⟩
    | some adopted => exact ⟨rfl, fun _ => ⟨rfl, rfl⟩, by simp⟩
  | suspendAt plan boundary => exact h.suspendAt plan boundary
  | cut => exact ⟨hkept.filter_eq, hkept.kept, hkept.earlier⟩
  | finishSoftDrain =>
    simp only [SwitchStep.adopts, SubscriptionState.apply, finishSoftDrain]
    split
    · exact ⟨hkept.filter_eq, hkept.kept, hkept.earlier⟩
    · exact hkept
  | update adopted forward =>
    cases adopted with
    | none => exact ⟨hkept.filter_eq, hkept.kept, hkept.earlier⟩
    | some adopted => exact ⟨rfl, fun _ => ⟨rfl, rfl⟩, by simp⟩
  | resolveLiveStart largest =>
    simp only [SwitchStep.adopts, SubscriptionState.apply, resolveLiveStart]
    split
    · exact ⟨hkept.filter_eq, hkept.kept, hkept.earlier⟩
    · exact hkept

theorem endsBy_afterSteps (steps : List SwitchStep) :
    ∀ {state : SubscriptionState} {filter : LocationFilter} {lowered : Bool},
      EndsBy state filter lowered → EndsBy (state.afterSteps steps)
        (state.afterSteps steps).locationFilter (endLowered filter lowered steps) := by
  induction steps with
  | nil =>
    intro state filter lowered h
    exact ⟨rfl, h.filter_eq ▸ h.kept, h.filter_eq ▸ h.earlier⟩
  | cons step steps ih =>
    intro state filter lowered h
    have hstep := h.apply step
    cases hadopts : step.adopts with
    | none =>
      simp only [hadopts] at hstep
      simp only [endLowered, hadopts]
      exact ih hstep
    | some adopted =>
      simp only [hadopts] at hstep
      simp only [endLowered, hadopts]
      exact ih hstep

/-- The activated subscription ends where its filter says exactly when no soft switch has brought its
end forward since it adopted that filter. -/
theorem activated_isPastEnd_iff (forward : Bool) (filter : LocationFilter) (steps : List SwitchStep)
    (_ : Activated steps) :
    (∀ location, ((create forward filter).afterSteps steps).isPastEnd location = true ↔
        ((create forward filter).afterSteps steps).locationFilter.PastEnd location) ↔
      endLowered filter false steps = false := by
  have h := endsBy_afterSteps steps (EndsBy.create forward filter)
  constructor
  · intro hall
    by_contra hlowered
    rw [Bool.not_eq_false] at hlowered
    rw [hlowered] at h
    obtain ⟨location, hpast, hwanted⟩ := h.exists_cut
    exact hwanted ((hall location).mp hpast)
  · intro hlowered
    rw [hlowered] at h
    exact h.isPastEnd_iff

/-- A plan of a soft switch. -/
def softPlan : SwitchPlan := ⟨⟨[], [1]⟩, 0, .soft, false, none, 0⟩

/-- A switch away at group 5, the drain, and the switch back. -/
def switchedBack (filter : Option LocationFilter) : List SwitchStep :=
  [.suspendAt softPlan 5, .finishSoftDrain, .beginSwitch filter none]

theorem switchedBack_activated (filter : Option LocationFilter) : Activated (switchedBack filter) :=
  ⟨[.suspendAt softPlan 5, .finishSoftDrain], filter, none, [], rfl, by simp⟩

theorem activated_isPastEnd_iff_withFilter :
    endLowered .none false (switchedBack (some .none)) = false ∧
      ∀ location, ((create true .none).afterSteps (switchedBack (some .none))).isPastEnd location =
        true ↔ LocationFilter.PastEnd .none location :=
  ⟨by decide, (activated_isPastEnd_iff true .none (switchedBack (some .none))
    (switchedBack_activated _)).mpr (by decide)⟩

/-- Switched back to without a filter, an open-ended subscription still ends before group 5. -/
theorem switchedBack_not_restored :
    ¬ ∀ (forward : Bool) (filter : LocationFilter) (steps : List SwitchStep), Activated steps →
      ∀ location, ((create forward filter).afterSteps steps).isPastEnd location = true ↔
        ((create forward filter).afterSteps steps).locationFilter.PastEnd location := by
  intro h
  have hpast := (h true .none (switchedBack none) (switchedBack_activated _) ⟨5, 0⟩).mp (by decide)
  obtain ⟨last, hlast, -⟩ := hpast
  simp [switchedBack, afterSteps, SubscriptionState.apply, beginSwitch, finishSoftDrain,
    SubscriptionState.suspendAt, softPlan, SubscriptionState.create, setLocationFilter,
    LocationFilter.liveStartLocation, LocationFilter.endLocation] at hlast

end SubscriptionState

end Moqtail
