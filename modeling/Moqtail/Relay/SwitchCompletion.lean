import Moqtail.Relay.Switching
import Moqtail.Lib.Run

/-! The switches of one connection: a SWITCH_FROM is accepted by `plan_switch`, scheduled by
`begin_switch` on the subscription it activates, and completed by `complete_switch` when that
subscription first delivers. Requests are handled by tasks of their own, so `begin_switch` is three
steps, one for each lock it takes: it writes its own state, it suspends the other subscription, and it
sets the plan. `add_subscription` is two: a subscription is on its track before it is among the client's
`subscriptions`. A Request ID is used for one subscription only.

Whether an Object passes the filters of the activated subscription is left open: any Object may be the
first that is delivered. `completed` is kept for the statements and nothing reads it. -/
namespace Moqtail

open Ssts (FullTrackName)
open Lib

/-- `pushed` says that a PUBLISH the relay sent made it; it never comes among the client's
`subscriptions`. One that a SUBSCRIBE made is `listed` there. -/
structure SwitchSub where
  fullTrackName : FullTrackName
  pushed : Bool
  listed : Bool
  alive : Bool
  pendingSwitch : Bool
  state : SubscriptionState
deriving Repr, DecidableEq

/-- How far `begin_switch` has got with an accepted request. -/
inductive SwitchStage where
  | planned
  | activated
  | scheduled
  | committed
deriving Repr, DecidableEq

structure AcceptedSwitch where
  activating : Nat
  plan : SwitchPlan
  stage : SwitchStage
deriving Repr, DecidableEq

/-- The SWITCH_FROM parameter. -/
structure SwitchFrom where
  requestId : Nat
  mode : SwitchMode
  publishDone : Bool
deriving Repr, DecidableEq

structure Switches where
  subs : Nat → Option SwitchSub
  accepted : List AcceptedSwitch
  plans : AList fun _ : Nat => SwitchPlan
  completed : Option (Nat × UInt64)

inductive SwitchAction where
  | subscribe (requestId : Nat) (name : FullTrackName) (forward : Bool) (filter : LocationFilter)
  | push (requestId : Nat) (name : FullTrackName) (forward : Bool) (filter : LocationFilter)
  | list (requestId : Nat)
  | leave (requestId : Nat)
  | plan (activating : Nat) (name : FullTrackName) (hasForward : Bool) (switchFrom : SwitchFrom)
  | activate (i : Nat) (filter : Option LocationFilter) (largest : Option Location)
  | schedule (i : Nat)
  | commit (i : Nat)
  | deliver (requestId : Nat) (group : UInt64)
  | finishSoftDrain (requestId : Nat)
  | update (requestId : Nat) (filter : Option LocationFilter) (forward : Option Bool)
  | resolveLiveStart (requestId : Nat) (largest : Option Location)
deriving Repr, DecidableEq

namespace Switches

def initial : Switches := ⟨fun _ => none, [], ∅, none⟩

def modifySub (s : Switches) (requestId : Nat) (f : SwitchSub → SwitchSub) : Switches :=
  { s with subs := Function.update s.subs requestId ((s.subs requestId).map f) }

def modifyState (s : Switches) (requestId : Nat) (f : SubscriptionState → SubscriptionState) :
    Switches :=
  s.modifySub requestId fun sub => { sub with state := f sub.state }

/-- A live subscription of the connection, as the tracks know it. -/
def find (s : Switches) (requestId : Nat) : Option SwitchSub :=
  (s.subs requestId).filter (·.alive)

/-- `find_suspending`, which looks among the client's `subscriptions`. -/
def findSuspending (s : Switches) (plan : SwitchPlan) : Option SwitchSub :=
  (s.find plan.suspendingRequestId).filter (·.listed)

def planSwitch (s : Switches) (activating : Nat) (name : FullTrackName) (hasForward : Bool)
    (switchFrom : SwitchFrom) : Except String SwitchPlan :=
  if hasForward then .error "SWITCH_FROM cannot be combined with FORWARD"
  else if switchFrom.requestId = activating then
    .error "a subscription cannot switch away from itself"
  else
    match s.find switchFrom.requestId with
    | none => .error "no such subscription to switch away from"
    | some sub =>
      if sub.fullTrackName = name then
        .error "a subscription cannot switch away from its own track"
      else
        .ok
          { suspending := sub.fullTrackName
            suspendingRequestId := switchFrom.requestId
            mode := switchFrom.mode
            publishDone := switchFrom.publishDone
            boundary := none
            activated := s.accepted.length }

def setAccepted (s : Switches) (i : Nat) (switch : AcceptedSwitch) : Switches :=
  { s with accepted := s.accepted.set i switch }

/-- A subscription is on its track, under a Request ID not used before. -/
def addSub (s : Switches) (requestId : Nat) (name : FullTrackName) (pushed forward : Bool)
    (filter : LocationFilter) : Option Switches :=
  match s.subs requestId with
  | some _ => none
  | none =>
    let sub : SwitchSub := ⟨name, pushed, false, true, false, .create forward filter⟩
    some { s with subs := Function.update s.subs requestId (some sub) }

/-- The client's `subscriptions` get it. -/
def listSub (s : Switches) (requestId : Nat) (sub : SwitchSub) : Option Switches :=
  if sub.pushed then none
  else some (s.modifySub requestId fun sub => { sub with listed := true })

/-- The first write of `begin_switch`, on its own subscription. -/
def activate (s : Switches) (i : Nat) (filter : Option LocationFilter) (largest : Option Location)
    (switch : AcceptedSwitch) : Option Switches :=
  match switch.stage, s.find switch.activating with
  | .planned, some sub =>
    let state := sub.state.beginSwitch filter largest
    let plan := { switch.plan with boundary := state.startLocation.map (·.group) }
    some ((s.modifyState switch.activating fun state => state.beginSwitch filter largest).setAccepted
      i { switch with plan := plan, stage := .activated })
  | _, _ => none

/-- `suspend_at`: nothing happens unless the subscription is found. -/
def suspendAt (s : Switches) (plan : SwitchPlan) (boundary : UInt64) : Switches :=
  match s.findSuspending plan with
  | some _ => s.modifyState plan.suspendingRequestId fun state => state.suspendAt plan boundary
  | none => s

/-- The second: a boundary it knows is scheduled on the other subscription. -/
def schedule (s : Switches) (i : Nat) (switch : AcceptedSwitch) : Option Switches :=
  match switch.stage with
  | .activated =>
    let s :=
      match switch.plan.boundary with
      | some boundary => s.suspendAt switch.plan boundary
      | none => s
    some (s.setAccepted i { switch with stage := .scheduled })
  | _ => none

/-- The third: the plan is set, in the place of any the subscription had. -/
def commit (s : Switches) (i : Nat) (switch : AcceptedSwitch) : Option Switches :=
  match switch.stage with
  | .scheduled =>
    let s := s.setAccepted i { switch with stage := .committed }
    let s := s.modifySub switch.activating fun sub => { sub with pendingSwitch := true }
    some { s with plans := s.plans.insert switch.activating switch.plan }
  | _ => none

def cutSuspending (s : Switches) (plan : SwitchPlan) : Switches :=
  match s.findSuspending plan with
  | some _ => s.modifyState plan.suspendingRequestId SubscriptionState.cut
  | none => s

/-- What `complete_switch` does to the subscription the plan suspends. -/
def stopSuspending (s : Switches) (plan : SwitchPlan) (deliveredGroup : UInt64) : Switches :=
  match plan.mode, plan.boundary with
  | .soft, none => s.suspendAt plan deliveredGroup
  | .soft, some _ => s
  | .hard, _ => s.cutSuspending plan

def completeSwitch (s : Switches) (requestId : Nat) (deliveredGroup : UInt64) : Switches :=
  match s.plans.lookup requestId with
  | none => s
  | some plan =>
    { { s with plans := s.plans.erase requestId }.stopSuspending plan deliveredGroup with
      completed := some (plan.suspendingRequestId, plan.boundary.getD deliveredGroup) }

/-- An Object or a datagram of the subscription was sent. -/
def deliver (s : Switches) (requestId : Nat) (group : UInt64) : Option Switches :=
  match s.find requestId with
  | none => none
  | some sub =>
    if sub.pendingSwitch then
      some ((s.modifySub requestId fun sub => { sub with pendingSwitch := false }).completeSwitch
        requestId group)
    else some s

def step (s : Switches) (a : SwitchAction) : Option Switches :=
  let s := { s with completed := none }
  match a with
  | .subscribe requestId name forward filter => s.addSub requestId name false forward filter
  | .push requestId name forward filter => s.addSub requestId name true forward filter
  | .list requestId => (s.subs requestId).bind (s.listSub requestId)
  | .leave requestId => some (s.modifySub requestId fun sub => { sub with alive := false })
  | .plan activating name hasForward switchFrom =>
    match s.planSwitch activating name hasForward switchFrom with
    | .error _ => some s
    | .ok plan => some { s with accepted := s.accepted ++ [⟨activating, plan, .planned⟩] }
  | .activate i filter largest => s.accepted[i]?.bind (s.activate i filter largest)
  | .schedule i => s.accepted[i]?.bind (s.schedule i)
  | .commit i => s.accepted[i]?.bind (s.commit i)
  | .deliver requestId group => s.deliver requestId group
  | .finishSoftDrain requestId => some (s.modifyState requestId SubscriptionState.finishSoftDrain)
  | .update requestId filter forward =>
    some (s.modifyState requestId fun state => state.update filter forward)
  | .resolveLiveStart requestId largest =>
    some (s.modifyState requestId fun state => state.resolveLiveStart largest)

end Switches

/-! What a completed switch leaves. -/

/-- The subscription delivers nothing, or nothing from the boundary on. -/
def SubscriptionState.StoppedBy (state : SubscriptionState) (boundary : UInt64) : Prop :=
  state.forward = false ∨
    (state.softSuspended = true ∧ ∃ endGroup ∈ state.endGroup, endGroup < boundary)

namespace Switches

/-- The subscription that the switch just completed suspends, if it is still there, has stopped. -/
def SwitchStops (s : Switches) : Prop :=
  ∀ requestId boundary, s.completed = some (requestId, boundary) →
    ∀ sub ∈ s.find requestId, sub.state.StoppedBy boundary

/-- The subscription the plan suspends can be found where `find_suspending` looks. -/
def Reaches (s : Switches) (plan : SwitchPlan) : Prop :=
  ∀ sub ∈ s.find plan.suspendingRequestId, sub.listed = true

instance (s : Switches) (plan : SwitchPlan) : Decidable (s.Reaches plan) :=
  inferInstanceAs (Decidable (∀ _ ∈ _, _))

/-- The subscription has Forward State 0 as it is. -/
def Idle (s : Switches) (requestId : Nat) : Prop :=
  ∀ sub ∈ s.find requestId, sub.state.forward = false

instance (s : Switches) (requestId : Nat) : Decidable (s.Idle requestId) :=
  inferInstanceAs (Decidable (∀ _ ∈ _, _))

/-- An update sets the Forward State to 0, or leaves the subscription softly suspended with an end
before the boundary. -/
def KeepsStopped (state : SubscriptionState) (filter : Option LocationFilter)
    (forward : Option Bool) (boundary : UInt64) : Prop :=
  forward.getD state.forward = false ∨ state.softSuspended = true ∧
    ∃ endGroup ∈ filter.elim state.endGroup fun filter => filter.endLocation.map (·.group),
      endGroup < boundary

instance (state : SubscriptionState) (filter : Option LocationFilter) (forward : Option Bool)
    (boundary : UInt64) : Decidable (KeepsStopped state filter forward boundary) :=
  inferInstanceAs (Decidable (_ ∨ _ ∧ ∃ _ ∈ _, _))

/-- `suspend_at` for this group finds the subscription, and it has an end before the boundary then. -/
def drains (s : Switches) (plan : SwitchPlan) (group boundary : UInt64) : Bool :=
  plan.mode = .soft && group ≠ 0 && (s.findSuspending plan).any fun sub =>
    group ≤ boundary || sub.state.endGroup.any (· < boundary)

/-- What `complete_switch` does stops the subscription before the boundary. -/
def completionStops (s : Switches) (plan : SwitchPlan) (group boundary : UInt64) : Bool :=
  match plan.mode, plan.boundary with
  | .soft, none => s.drains plan group boundary
  | .soft, some _ => false
  | .hard, _ => (s.findSuspending plan).isSome

/-- The step stops the subscription before the boundary: a switch suspends or cuts it, its drain ends,
or an update stops it. -/
def stops (s : Switches) (a : SwitchAction) (requestId : Nat) (boundary : UInt64) : Bool :=
  match a with
  | .schedule i => s.accepted[i]?.any fun switch => switch.plan.suspendingRequestId = requestId &&
      switch.plan.boundary.any fun group => s.drains switch.plan group boundary
  | .deliver activating group => (s.find activating).any (·.pendingSwitch) &&
      (s.plans.lookup activating).any fun plan => plan.suspendingRequestId = requestId &&
        s.completionStops plan group boundary
  | .finishSoftDrain suspended =>
    suspended = requestId && (s.find requestId).any (·.state.softSuspended)
  | .update updated filter forward => updated = requestId && (s.find requestId).all fun sub =>
      decide (KeepsStopped sub.state filter forward boundary)
  | _ => false

/-- The step lets the subscription go on: a switch activates it, or an update sets it going. -/
def letsGo (s : Switches) (a : SwitchAction) (requestId : Nat) (boundary : UInt64) : Bool :=
  match a with
  | .activate i _ _ => s.accepted[i]?.any fun switch => switch.activating = requestId
  | .update updated filter forward => updated = requestId && ! (s.find requestId).all fun sub =>
      decide (KeepsStopped sub.state filter forward boundary)
  | _ => false

/-- What is recorded along a run of each accepted switch with a boundary: whether the subscription it
tells to stop goes on, as one that it does not reach, or that has been let go and not been stopped
again. -/
def noteLetGo (s : Switches) (letGo : Nat → Bool) (a : SwitchAction) (i : Nat) : Bool :=
  s.accepted[i]?.any fun switch => switch.plan.boundary.any fun boundary =>
    s.letsGo a switch.plan.suspendingRequestId boundary ||
      -- the switch tells it to stop in the next of its steps
      (if switch.stage = .activated then ! decide (s.Idle switch.plan.suspendingRequestId)
        else letGo i) && ! s.stops a switch.plan.suspendingRequestId boundary

/-- The completed switch reaches the subscription it suspends, at a boundary that is not group 0 where
it is soft; one that was told before to stop at a boundary has not been let go since; or the
subscription does not forward as it is. -/
def Carried (s : Switches) (letGo : Nat → Bool) (plan : SwitchPlan) (group : UInt64) : Prop :=
  match plan.mode, plan.boundary with
  | .hard, _ => s.Reaches plan ∨ s.Idle plan.suspendingRequestId
  | .soft, none => group ≠ 0 ∧ s.Reaches plan ∨ s.Idle plan.suspendingRequestId
  | .soft, some _ => ∀ _ ∈ s.find plan.suspendingRequestId, letGo plan.activated = false

instance (s : Switches) (letGo : Nat → Bool) (plan : SwitchPlan) (group : UInt64) :
    Decidable (s.Carried letGo plan group) := by
  unfold Carried
  split <;> infer_instance

/-- A step that completes a switch carries it out. -/
def Stops (watched : Switches × (Nat → Bool)) (a : SwitchAction) : Prop :=
  match a with
  | .deliver activating group => ∀ sub ∈ watched.1.find activating, sub.pendingSwitch = true →
      ∀ plan ∈ watched.1.plans.lookup activating, watched.1.Carried watched.2 plan group
  | _ => True

instance (watched : Switches × (Nat → Bool)) (a : SwitchAction) : Decidable (Stops watched a) := by
  unfold Stops
  split <;> infer_instance

end Switches

/-- Whether the second of the writes of `begin_switch` is done, which tells the suspended subscription
to stop at the boundary. -/
def SwitchStage.isTold : SwitchStage → Bool
  | .planned => false
  | .activated => false
  | .scheduled => true
  | .committed => true

/-! What keeps a subscription stopped. -/

namespace SubscriptionState

variable {state : SubscriptionState} {boundary : UInt64}

theorem suspendAt_stoppedBy {plan : SwitchPlan} (hsoft : plan.mode = .soft) {group : UInt64}
    (hne : group ≠ 0) (hlow : group ≤ boundary ∨ ∃ endGroup ∈ state.endGroup, endGroup < boundary) :
    (state.suspendAt plan group).StoppedBy boundary := by
  have hpred := pred_lt_of_ne_zero hne
  have hnot : ¬ (plan.mode ≠ .soft ∨ group = 0) := by simp [hsoft, hne]
  rw [suspendAt, if_neg hnot]
  refine .inr ⟨rfl, _, rfl, ?_⟩
  rw [UInt64.lt_iff_toNat_lt]
  rw [UInt64.le_iff_toNat_le] at hlow
  cases hend : state.endGroup with
  | none =>
    have hle := hlow.resolve_right (by simp [hend])
    change (group - 1).toNat < boundary.toNat
    omega
  | some existing =>
    simp only [hend, Option.mem_def, Option.some.injEq, exists_eq_left', UInt64.lt_iff_toNat_lt] at hlow
    simp only [toNat_min]
    omega

theorem StoppedBy.suspendAt (h : state.StoppedBy boundary) (plan : SwitchPlan) (other : UInt64) :
    (state.suspendAt plan other).StoppedBy boundary := by
  unfold SubscriptionState.suspendAt
  split
  · exact h
  · obtain h | ⟨-, endGroup, hend, hlt⟩ := h
    · exact .inl h
    · refine .inr ⟨rfl, _, rfl, ?_⟩
      rw [Option.mem_def] at hend
      simp only [hend, UInt64.lt_iff_toNat_lt, toNat_min] at hlt ⊢
      omega

theorem cut_stoppedBy : state.cut.StoppedBy boundary := .inl rfl

theorem finishSoftDrain_stoppedBy (h : state.StoppedBy boundary ∨ state.softSuspended = true) :
    state.finishSoftDrain.StoppedBy boundary := by
  unfold SubscriptionState.finishSoftDrain
  split
  · exact .inl rfl
  next hnot => exact h.resolve_right hnot

theorem StoppedBy.resolveLiveStart (h : state.StoppedBy boundary) (largest : Option Location) :
    (state.resolveLiveStart largest).StoppedBy boundary := by
  unfold SubscriptionState.resolveLiveStart
  split <;> exact h

theorem update_stoppedBy {filter : Option LocationFilter} {forward : Option Bool}
    (hkeeps : Switches.KeepsStopped state filter forward boundary) :
    (state.update filter forward).StoppedBy boundary := by
  cases filter <;> exact hkeeps

end SubscriptionState

namespace Switches

/-- What a step can do, once the record of a completed switch is cleared. -/
inductive Moves (s : Switches) : SwitchAction → Switches → Prop
  | subscribed {r : Nat} {name : FullTrackName} {forward : Bool} {filter : LocationFilter}
      (unused : s.subs r = none) :
      Moves s (.subscribe r name forward filter) { s with
        subs := Function.update s.subs r
          (some ⟨name, false, false, true, false, .create forward filter⟩) }
  | pushed {r : Nat} {name : FullTrackName} {forward : Bool} {filter : LocationFilter}
      (unused : s.subs r = none) :
      Moves s (.push r name forward filter) { s with
        subs := Function.update s.subs r
          (some ⟨name, true, false, true, false, .create forward filter⟩) }
  | listed {r : Nat} {sub : SwitchSub} (there : s.subs r = some sub) (own : sub.pushed = false) :
      Moves s (.list r) (s.modifySub r fun sub => { sub with listed := true })
  | left {r : Nat} : Moves s (.leave r) (s.modifySub r fun sub => { sub with alive := false })
  | refused {activating : Nat} {name : FullTrackName} {hasForward : Bool} {switchFrom : SwitchFrom}
      {error : String} (refuses : s.planSwitch activating name hasForward switchFrom = .error error) :
      Moves s (.plan activating name hasForward switchFrom) s
  | planned {activating : Nat} {name : FullTrackName} {hasForward : Bool} {switchFrom : SwitchFrom}
      {plan : SwitchPlan} (plans : s.planSwitch activating name hasForward switchFrom = .ok plan) :
      Moves s (.plan activating name hasForward switchFrom) { s with
        accepted := s.accepted ++ [⟨activating, plan, .planned⟩] }
  | activated {i : Nat} {filter : Option LocationFilter} {largest : Option Location}
      {switch : AcceptedSwitch} {sub : SwitchSub} (there : s.accepted[i]? = some switch)
      (stage : switch.stage = .planned) (found : s.find switch.activating = some sub) :
      Moves s (.activate i filter largest)
        ((s.modifyState switch.activating fun state => state.beginSwitch filter largest).setAccepted i
          ⟨switch.activating, { switch.plan with
            boundary := (sub.state.beginSwitch filter largest).startLocation.map (·.group) },
            .activated⟩)
  | scheduled {i : Nat} {switch : AcceptedSwitch} {boundary : UInt64}
      (there : s.accepted[i]? = some switch) (stage : switch.stage = .activated) (known : switch.plan.boundary = some boundary) :
      Moves s (.schedule i) ((s.suspendAt switch.plan boundary).setAccepted i
        { switch with stage := .scheduled })
  | unscheduled {i : Nat} {switch : AcceptedSwitch} (there : s.accepted[i]? = some switch)
      (stage : switch.stage = .activated) (unknown : switch.plan.boundary = none) :
      Moves s (.schedule i) (s.setAccepted i { switch with stage := .scheduled })
  | committed {i : Nat} {switch : AcceptedSwitch} (there : s.accepted[i]? = some switch)
      (stage : switch.stage = .scheduled) :
      Moves s (.commit i) { (s.setAccepted i { switch with stage := .committed }).modifySub
          switch.activating fun sub => { sub with pendingSwitch := true } with
        plans := s.plans.insert switch.activating switch.plan }
  | completed {r : Nat} {group : UInt64} {sub : SwitchSub} {plan : SwitchPlan}
      (found : s.find r = some sub) (pending : sub.pendingSwitch = true)
      (lookup : s.plans.lookup r = some plan) :
      Moves s (.deliver r group)
        { { s.modifySub r fun sub => { sub with pendingSwitch := false } with
            plans := s.plans.erase r }.stopSuspending plan group with
          completed := some (plan.suspendingRequestId, plan.boundary.getD group) }
  | noPlan {r : Nat} {group : UInt64} {sub : SwitchSub} (found : s.find r = some sub)
      (pending : sub.pendingSwitch = true)
      (lookup : s.plans.lookup r = none) :
      Moves s (.deliver r group) (s.modifySub r fun sub => { sub with pendingSwitch := false })
  | delivered {r : Nat} {group : UInt64} {sub : SwitchSub} (found : s.find r = some sub)
      (pending : sub.pendingSwitch = false) :
      Moves s (.deliver r group) s
  | drained {r : Nat} : Moves s (.finishSoftDrain r) (s.modifyState r SubscriptionState.finishSoftDrain)
  | updated {r : Nat} {filter : Option LocationFilter} {forward : Option Bool} :
      Moves s (.update r filter forward) (s.modifyState r fun state => state.update filter forward)
  | resolved {r : Nat} {largest : Option Location} :
      Moves s (.resolveLiveStart r largest)
        (s.modifyState r fun state => state.resolveLiveStart largest)

variable {s s' : Switches} {a : SwitchAction} {q r : Nat} {plan : SwitchPlan}
  {group boundary : UInt64}

theorem addSub_eq_some {name : FullTrackName} {pushed forward : Bool} {filter : LocationFilter}
    (h : s.addSub r name pushed forward filter = some s') :
    s.subs r = none ∧ s' = { s with
      subs := Function.update s.subs r
        (some ⟨name, pushed, false, true, false, .create forward filter⟩) } := by
  unfold addSub at h
  split at h
  · cases h
  next unused => exact ⟨unused, (Option.some.inj h).symm⟩

theorem moves_of_deliver (hstep : s.deliver r group = some s') : Moves s (.deliver r group) s' := by
  unfold deliver at hstep
  split at hstep
  · cases hstep
  next sub found =>
    split at hstep
    next pending =>
      have hplans : (s.modifySub r fun sub => { sub with pendingSwitch := false }).plans = s.plans := rfl
      cases lookup : s.plans.lookup r with
      | none =>
        simp only [completeSwitch, hplans, lookup, Option.some.injEq] at hstep
        exact hstep ▸ .noPlan found pending lookup
      | some plan =>
        simp only [completeSwitch, hplans, lookup, Option.some.injEq] at hstep
        exact hstep ▸ .completed found pending lookup
    next pending =>
      cases hstep
      exact .delivered found (Bool.eq_false_iff.mpr pending)

theorem moves_of_step (hstep : s.step a = some s') : Moves { s with completed := none } a s' := by
  unfold step at hstep
  cases a with
  | subscribe =>
    obtain ⟨unused, rfl⟩ := addSub_eq_some hstep
    exact .subscribed unused
  | push =>
    obtain ⟨unused, rfl⟩ := addSub_eq_some hstep
    exact .pushed unused
  | list =>
    obtain ⟨sub, there, hstep⟩ := Option.bind_eq_some_iff.mp hstep
    unfold listSub at hstep
    split at hstep
    · cases hstep
    next own =>
      cases hstep
      exact .listed there (Bool.eq_false_iff.mpr own)
  | leave =>
    cases hstep
    exact .left
  | plan =>
    dsimp only at hstep
    split at hstep
    next refuses =>
      cases hstep
      exact .refused refuses
    next plans =>
      cases hstep
      exact .planned plans
  | activate =>
    obtain ⟨switch, there, hstep⟩ := Option.bind_eq_some_iff.mp hstep
    unfold activate at hstep
    split at hstep
    next stage found =>
      cases hstep
      exact .activated there stage found
    · cases hstep
  | schedule =>
    obtain ⟨switch, there, hstep⟩ := Option.bind_eq_some_iff.mp hstep
    unfold schedule at hstep
    split at hstep
    next stage =>
      cases hstep
      cases hboundary : switch.plan.boundary with
      | none => exact .unscheduled there stage hboundary
      | some boundary => exact .scheduled there stage hboundary
    · cases hstep
  | commit =>
    obtain ⟨switch, there, hstep⟩ := Option.bind_eq_some_iff.mp hstep
    unfold commit at hstep
    split at hstep
    next stage =>
      cases hstep
      exact .committed there stage
    · cases hstep
  | deliver => exact moves_of_deliver hstep
  | finishSoftDrain =>
    cases hstep
    exact .drained
  | update =>
    cases hstep
    exact .updated
  | resolveLiveStart =>
    cases hstep
    exact .resolved

/-- Stopping a subscription does nothing to the switches. -/
@[simp] theorem suspendAt_accepted : (s.suspendAt plan group).accepted = s.accepted := by
  unfold suspendAt
  split <;> rfl

@[simp] theorem suspendAt_plans : (s.suspendAt plan group).plans = s.plans := by
  unfold suspendAt
  split <;> rfl

@[simp] theorem suspendAt_completed : (s.suspendAt plan group).completed = s.completed := by
  unfold suspendAt
  split <;> rfl

@[simp] theorem stopSuspending_accepted : (s.stopSuspending plan group).accepted = s.accepted := by
  unfold stopSuspending cutSuspending
  split
  · exact suspendAt_accepted
  · rfl
  · split <;> rfl

@[simp] theorem stopSuspending_plans : (s.stopSuspending plan group).plans = s.plans := by
  unfold stopSuspending cutSuspending
  split
  · exact suspendAt_plans
  · rfl
  · split <;> rfl

/-- The subscription is stopped before the boundary, if it is there. -/
def Stopped (s : Switches) (requestId : Nat) (boundary : UInt64) : Prop :=
  ∀ sub ∈ s.find requestId, sub.state.StoppedBy boundary

theorem Idle.stopped (h : s.Idle r) : s.Stopped r boundary := fun sub hsub => .inl (h sub hsub)

theorem find_modifySub {f : SwitchSub → SwitchSub} (halive : ∀ sub, (f sub).alive = sub.alive) :
    (s.modifySub r f).find q = if q = r then (s.find r).map f else s.find q := by
  simp only [find, modifySub, Function.update_apply]
  split
  · cases s.subs r <;> simp [Option.filter_some, halive, apply_ite]
  · rfl

/-- The state of one subscription changes. -/
theorem Stopped.modifyState {f : SubscriptionState → SubscriptionState}
    (hother : q ≠ r → s.Stopped q boundary)
    (hself : q = r → ∀ sub ∈ s.find q, (f sub.state).StoppedBy boundary) :
    (s.modifyState r f).Stopped q boundary := by
  intro sub hsub
  have hfind : (s.modifyState r f).find q =
      if q = r then (s.find r).map fun sub => { sub with state := f sub.state } else s.find q :=
    find_modifySub fun _ => rfl
  rw [hfind] at hsub
  split at hsub
  next heq =>
    subst heq
    obtain ⟨sub, hthere, rfl⟩ := Option.map_eq_some_iff.mp hsub
    exact hself rfl sub hthere
  next hne => exact hother hne sub hsub

/-- Nothing changes that counts for a subscription to be stopped. -/
theorem Stopped.modifySub {f : SwitchSub → SwitchSub} (h : s.Stopped q boundary)
    (halive : ∀ sub, (f sub).alive = sub.alive) (hstate : ∀ sub, (f sub).state = sub.state) :
    (s.modifySub r f).Stopped q boundary := by
  intro sub hsub
  rw [find_modifySub halive] at hsub
  split at hsub
  next heq =>
    subst heq
    obtain ⟨sub, hthere, rfl⟩ := Option.map_eq_some_iff.mp hsub
    rw [hstate]
    exact h sub hthere
  · exact h sub hsub

theorem Stopped.update (h : s.Stopped q boundary) (known : s.subs q ≠ none) (unused : s.subs r = none)
    (sub : SwitchSub) :
    Stopped { s with subs := Function.update s.subs r (some sub) } q boundary := by
  have hne : q ≠ r := fun heq => known (heq ▸ unused)
  intro other hother
  simp only [find, Function.update_of_ne hne] at hother
  exact h other hother

theorem findSuspending_eq_some {sub : SwitchSub} (h : s.findSuspending plan = some sub) :
    s.find plan.suspendingRequestId = some sub := by
  rw [findSuspending, Option.filter_eq_some_iff] at h
  exact h.1

theorem findSuspending_of_reaches (h : s.Reaches plan) :
    s.findSuspending plan = s.find plan.suspendingRequestId := by
  unfold findSuspending
  cases hfind : s.find plan.suspendingRequestId with
  | none => rfl
  | some sub => simp [Option.filter_some, h sub hfind]

theorem Stopped.suspendAt (h : s.Stopped q boundary ∨
    plan.suspendingRequestId = q ∧ s.drains plan group boundary = true) :
    (s.suspendAt plan group).Stopped q boundary := by
  unfold Switches.suspendAt
  split
  next found hfound =>
    refine .modifyState (fun hne => h.resolve_right fun hdrains => hne hdrains.1.symm) ?_
    rintro rfl sub hsub
    rcases h with h | ⟨-, hdrains⟩
    · exact (h sub hsub).suspendAt plan group
    · cases (findSuspending_eq_some hfound).symm.trans hsub
      simp only [drains, hfound, Bool.and_eq_true, decide_eq_true_eq, Option.any_some,
        Bool.or_eq_true, Option.any_eq_true] at hdrains
      obtain ⟨⟨hsoft, hne⟩, hlow⟩ := hdrains
      exact SubscriptionState.suspendAt_stoppedBy hsoft hne hlow
  next hnone =>
    refine h.resolve_right fun hdrains => ?_
    simp [drains, hnone] at hdrains

theorem Stopped.cutSuspending (h : s.Stopped q boundary ∨
    plan.suspendingRequestId = q ∧ (s.findSuspending plan).isSome = true) :
    (s.cutSuspending plan).Stopped q boundary := by
  unfold Switches.cutSuspending
  split
  · exact .modifyState (fun hne => h.resolve_right fun hfound => hne hfound.1.symm)
      fun _ _ _ => SubscriptionState.cut_stoppedBy
  next hnone =>
    refine h.resolve_right fun hfound => ?_
    simp [hnone] at hfound

theorem Stopped.stopSuspending (h : s.Stopped q boundary ∨
    plan.suspendingRequestId = q ∧ s.completionStops plan group boundary = true) :
    (s.stopSuspending plan group).Stopped q boundary := by
  unfold completionStops at h
  unfold Switches.stopSuspending
  split
  next hmode hboundary =>
    simp only [hmode, hboundary] at h
    exact .suspendAt h
  next hmode hboundary =>
    simp only [hmode, hboundary, Bool.false_eq_true, and_false, or_false] at h
    exact h
  next hmode =>
    simp only [hmode] at h
    exact .cutSuspending h

/-- What a delivery clears on its own subscription changes nothing for the one that is suspended. -/
theorem findSuspending_setPending (pending : Bool) :
    (s.modifySub r fun sub => { sub with pendingSwitch := pending }).findSuspending plan =
      if plan.suspendingRequestId = r then
        (s.findSuspending plan).map fun sub => { sub with pendingSwitch := pending }
      else s.findSuspending plan := by
  rw [findSuspending, find_modifySub (f := fun sub => { sub with pendingSwitch := pending })
    fun _ => rfl, findSuspending]
  split
  next heq =>
    rw [heq]
    cases s.find r with
    | none => rfl
    | some sub =>
      simp only [Option.map_some, Option.filter_some]
      split <;> simp
  · rfl

theorem completionStops_setPending (pending : Bool) :
    (s.modifySub r fun sub => { sub with pendingSwitch := pending }).completionStops plan group
      boundary = s.completionStops plan group boundary := by
  have hdrains : (s.modifySub r fun sub => { sub with pendingSwitch := pending }).drains plan group
      boundary = s.drains plan group boundary := by
    rw [drains, drains, findSuspending_setPending]
    split
    · cases s.findSuspending plan <;> rfl
    · rfl
  unfold completionStops
  rw [hdrains, findSuspending_setPending]
  split
  · rfl
  · rfl
  · split
    · rw [Option.isSome_map]
    · rfl

/-- A step that does not let the subscription go leaves it stopped if it was, and if the step stops
it. -/
theorem Moves.stopped (hmoves : Moves s a s') (known : s.subs q ≠ none)
    (hgo : s.letsGo a q boundary = false)
    (h : s.Stopped q boundary ∨ s.stops a q boundary = true) : s'.Stopped q boundary := by
  have hbefore : s.stops a q boundary = false → s.Stopped q boundary := by
    intro hstops
    rw [hstops] at h
    exact h.resolve_right Bool.false_ne_true
  cases hmoves with
  | subscribed unused => exact (hbefore rfl).update known unused _
  | pushed unused => exact (hbefore rfl).update known unused _
  | listed => exact (hbefore rfl).modifySub (fun _ => rfl) fun _ => rfl
  | left =>
    intro sub hsub
    simp only [find, modifySub, Function.update_apply, Option.mem_def,
      Option.filter_eq_some_iff] at hsub
    obtain ⟨hsub, halive⟩ := hsub
    split at hsub
    · obtain ⟨sub, -, rfl⟩ := Option.map_eq_some_iff.mp hsub
      cases halive
    · exact hbefore rfl sub (Option.filter_eq_some_iff.mpr ⟨hsub, halive⟩)
  | refused => exact hbefore rfl
  | planned => exact hbefore rfl
  | activated there =>
    simp only [letsGo, there, Option.any_some, decide_eq_false_iff_not] at hgo
    rename_i filter largest switch _ _ _
    have hactivated : (s.modifyState switch.activating
        fun state => state.beginSwitch filter largest).Stopped q boundary :=
      .modifyState (fun _ => hbefore rfl) fun heq => absurd heq.symm hgo
    exact hactivated
  | scheduled there stage hboundary =>
    simp only [stops, there, hboundary, Option.any_some, Bool.and_eq_true, decide_eq_true_eq] at h
    exact Stopped.suspendAt h
  | unscheduled there stage hboundary =>
    simp only [stops, there, hboundary, Option.any_some, Option.any_none, Bool.and_false] at h
    exact h.resolve_right Bool.false_ne_true
  | committed there =>
    exact Stopped.modifySub (hbefore rfl) (fun _ => rfl) fun _ => rfl
  | completed found pending lookup =>
    simp only [stops, found, Option.any_some, pending, lookup, Bool.true_and, Bool.and_eq_true,
      decide_eq_true_eq] at h
    rw [← completionStops_setPending (r := _) false] at h
    exact Stopped.stopSuspending (h.imp_left fun h => h.modifySub (fun _ => rfl) fun _ => rfl)
  | noPlan found pending lookup =>
    simp only [stops, lookup, Option.any_none, Bool.and_false] at h
    exact (h.resolve_right Bool.false_ne_true).modifySub (fun _ => rfl) fun _ => rfl
  | delivered found pending =>
    simp only [stops, found, Option.any_some, pending, Bool.false_and] at h
    exact h.resolve_right Bool.false_ne_true
  | drained =>
    simp only [stops, Bool.and_eq_true, decide_eq_true_eq] at h
    refine Stopped.modifyState (fun hne => h.resolve_right fun hstops => hne hstops.1.symm) ?_
    rintro - sub hsub
    rw [hsub, Option.any_some] at h
    exact SubscriptionState.finishSoftDrain_stoppedBy (h.imp (fun h => h sub hsub) And.right)
  | updated =>
    simp only [stops, Bool.and_eq_true, decide_eq_true_eq] at h
    refine Stopped.modifyState (fun hne => h.resolve_right fun hstops => hne hstops.1.symm) ?_
    rintro rfl sub hsub
    simp only [letsGo, decide_true, Bool.true_and, Bool.not_eq_false', Option.mem_def.mp hsub,
      Option.all_some, decide_eq_true_eq] at hgo
    exact SubscriptionState.update_stoppedBy hgo
  | resolved =>
    exact Stopped.modifyState (fun _ => hbefore rfl) fun _ sub hsub =>
      (hbefore rfl sub hsub).resolveLiveStart _

/-! A subscription stays known. -/

theorem known_modifySub {f : SwitchSub → SwitchSub} (known : s.subs q ≠ none) :
    (s.modifySub r f).subs q ≠ none := by
  simp only [modifySub, Function.update_apply]
  split
  next heq =>
    subst heq
    simpa using known
  · exact known

theorem known_update {sub : SwitchSub} (known : s.subs q ≠ none) :
    Function.update s.subs r (some sub) q ≠ none := by
  rw [Function.update_apply]
  split
  · exact Option.some_ne_none _
  · exact known

theorem known_suspendAt (known : s.subs q ≠ none) : (s.suspendAt plan group).subs q ≠ none := by
  unfold suspendAt
  split
  · exact known_modifySub known
  · exact known

theorem known_stopSuspending (known : s.subs q ≠ none) :
    (s.stopSuspending plan group).subs q ≠ none := by
  unfold stopSuspending cutSuspending
  split
  · exact known_suspendAt known
  · exact known
  · split
    · exact known_modifySub known
    · exact known

theorem Moves.known (hmoves : Moves s a s') (known : s.subs q ≠ none) : s'.subs q ≠ none := by
  cases hmoves with
  | subscribed => exact known_update known
  | pushed => exact known_update known
  | refused => exact known
  | planned => exact known
  | delivered => exact known
  | unscheduled => exact known
  | scheduled => exact known_suspendAt known
  | completed => exact known_stopSuspending (known_modifySub known)
  | _ => exact known_modifySub known

/-! The accepted switches. -/

/-- How a step takes an accepted switch on. -/
inductive Advances (a : SwitchAction) (i : Nat) (before : AcceptedSwitch) : AcceptedSwitch → Prop
  | activates (boundary : Option UInt64) (hstage : before.stage = .planned) :
      Advances a i before
        ⟨before.activating, { before.plan with boundary := boundary }, .activated⟩
  | schedules (hstage : before.stage = .activated) (hstep : a = .schedule i) :
      Advances a i before { before with stage := .scheduled }
  | commits (hstage : before.stage = .scheduled) (hstep : a = .commit i) :
      Advances a i before { before with stage := .committed }

theorem planSwitch_eq_ok {activating : Nat} {name : FullTrackName} {hasForward : Bool}
    {switchFrom : SwitchFrom} (h : s.planSwitch activating name hasForward switchFrom = .ok plan) :
    plan.activated = s.accepted.length ∧ s.subs plan.suspendingRequestId ≠ none := by
  unfold planSwitch at h
  split at h
  · cases h
  · split at h
    · cases h
    · split at h
      · cases h
      next sub hfind =>
        split at h
        · cases h
        · cases h
          refine ⟨rfl, fun hnone => ?_⟩
          simp [find, hnone] at hfind

/-- A step accepts a switch, or takes one on, or leaves all as they are. -/
theorem Moves.accepted (hmoves : Moves s a s') :
    s'.accepted = s.accepted ∨
    (∃ activating plan, s'.accepted = s.accepted ++ [⟨activating, plan, .planned⟩] ∧
      plan.activated = s.accepted.length ∧ s.subs plan.suspendingRequestId ≠ none) ∨
    ∃ i before after, s.accepted[i]? = some before ∧ s'.accepted = s.accepted.set i after ∧
      Advances a i before after := by
  cases hmoves with
  | planned plans => exact .inr (.inl ⟨_, _, rfl, planSwitch_eq_ok plans⟩)
  | activated there stage => exact .inr (.inr ⟨_, _, _, there, rfl, .activates _ stage⟩)
  | scheduled there stage =>
    exact .inr (.inr ⟨_, _, _, there, by simp [setAccepted], .schedules stage rfl⟩)
  | unscheduled there stage => exact .inr (.inr ⟨_, _, _, there, rfl, .schedules stage rfl⟩)
  | committed there stage => exact .inr (.inr ⟨_, _, _, there, rfl, .commits stage rfl⟩)
  | completed => exact .inl (by simp [modifySub])
  | _ => exact .inl rfl

/-- A plan that is set was so before, or is that of the switch whose last write this is. -/
theorem Moves.plans (hmoves : Moves s a s') {key : Nat} (h : s'.plans.lookup key = some plan) :
    s.plans.lookup key = some plan ∨ ∃ (i : Nat) (switch : AcceptedSwitch),
      s.accepted[i]? = some switch ∧ switch.plan = plan ∧
        s'.accepted[i]? = some { switch with stage := .committed } := by
  cases hmoves with
  | scheduled =>
    left
    simpa [setAccepted] using h
  | committed there =>
    rename_i i switch _
    have hinsert : (s.plans.insert switch.activating switch.plan).lookup key = some plan := h
    obtain rfl | hne := eq_or_ne key switch.activating
    · rw [AList.lookup_insert] at hinsert
      refine .inr ⟨i, switch, there, Option.some.inj hinsert, ?_⟩
      exact List.getElem?_set_self (List.getElem?_eq_some_iff.mp there).1
    · rw [AList.lookup_insert_ne hne] at hinsert
      exact .inl hinsert
  | completed =>
    rename_i activating _ _ _ _ _ _
    have herased : (s.plans.erase activating).lookup key = some plan := by simpa using h
    obtain rfl | hne := eq_or_ne key activating
    · rw [AList.lookup_erase] at herased
      cases herased
    · rw [AList.lookup_erase_ne hne] at herased
      exact .inl herased
  | _ => exact .inl h

/-! Runs. -/

theorem Moves.committed_stays (hmoves : Moves s a s') {i activating : Nat}
    (there : s.accepted[i]? = some ⟨activating, plan, .committed⟩) :
    s'.accepted[i]? = some ⟨activating, plan, .committed⟩ := by
  rcases hmoves.accepted with haccepted | ⟨_, _, haccepted, -⟩ |
    ⟨j, before, after, hj, haccepted, hadvances⟩
  · rw [haccepted, there]
  · rw [haccepted, List.getElem?_append_left (List.getElem?_eq_some_iff.mp there).1, there]
  · have hne : j ≠ i := by
      rintro rfl
      cases hj.symm.trans there
      cases hadvances with
      | activates _ hstage => cases hstage
      | schedules hstage => cases hstage
      | commits hstage => cases hstage
    rw [haccepted, List.getElem?_set_ne hne, there]

/-- Each accepted switch is at its place in the list and suspends a subscription that is known, a plan
that is set is that of a committed one, and a subscription that was told to stop and not let go since
has stopped. -/
structure Held (watched : Switches × (Nat → Bool)) : Prop where
  placed : ∀ (i : Nat) switch, watched.1.accepted[i]? = some switch → switch.plan.activated = i ∧
    watched.1.subs switch.plan.suspendingRequestId ≠ none
  planned : ∀ key plan, watched.1.plans.lookup key = some plan →
    ∃ activating, watched.1.accepted[plan.activated]? = some ⟨activating, plan, .committed⟩
  held : ∀ (i : Nat) switch, watched.1.accepted[i]? = some switch → switch.stage.isTold = true →
    ∀ boundary ∈ switch.plan.boundary, watched.2 i = false →
      watched.1.Stopped switch.plan.suspendingRequestId boundary

theorem held_initial : Held (initial, fun _ => false) := by
  constructor <;> simp [initial]

/-- What is recorded of a switch that has told its subscription to stop is what became of that. -/
theorem noteLetGo_eq_false {letGo : Nat → Bool} {i : Nat} {switch : AcceptedSwitch}
    (there : s.accepted[i]? = some switch) (hboundary : switch.plan.boundary = some boundary)
    (hnote : s.noteLetGo letGo a i = false) :
    s.letsGo a switch.plan.suspendingRequestId boundary = false ∧
      ((if switch.stage = .activated then s.Idle switch.plan.suspendingRequestId
          else letGo i = false) ∨
        s.stops a switch.plan.suspendingRequestId boundary = true) := by
  simp only [noteLetGo, there, hboundary, Option.any_some, Bool.or_eq_false_iff,
    Bool.and_eq_false_iff, Bool.not_eq_false'] at hnote
  refine ⟨hnote.1, hnote.2.imp_left fun h => ?_⟩
  split at h
  next hstage =>
    rw [if_pos hstage]
    simpa using h
  next hstage =>
    rw [if_neg hstage]
    exact h

theorem Held.step {letGo : Nat → Bool} (inv : Held (s, letGo)) (hstep : s.step a = some s') :
    Held (s', s.noteLetGo letGo a) := by
  have hmoves := moves_of_step hstep
  have hknown : ∀ q, s.subs q ≠ none → s'.subs q ≠ none := fun q known => hmoves.known known
  -- one that was told before, or is told in this step
  have hstopped : ∀ (i : Nat) before, s.accepted[i]? = some before →
      before.stage.isTold = true ∨ before.stage = .activated → ∀ boundary ∈ before.plan.boundary,
      s.noteLetGo letGo a i = false → s'.Stopped before.plan.suspendingRequestId boundary := by
    intro i before there htold boundary hboundary hnote
    obtain ⟨hgo, hbefore⟩ := noteLetGo_eq_false there hboundary hnote
    refine hmoves.stopped (inv.placed i before there).2 hgo (hbefore.imp_left fun h => ?_)
    split at h
    · exact h.stopped
    next hstage => exact inv.held i before there (htold.resolve_right hstage) boundary hboundary h
  have hplanned : ∀ key plan, s'.plans.lookup key = some plan →
      ∃ activating, s'.accepted[plan.activated]? = some ⟨activating, plan, .committed⟩ := by
    intro key plan hplan
    rcases hmoves.plans hplan with hbefore | ⟨i, switch, there, rfl, hcommitted⟩
    · obtain ⟨activating, there⟩ := inv.planned key plan hbefore
      exact ⟨activating, hmoves.committed_stays there⟩
    · exact ⟨switch.activating, by rw [(inv.placed i switch there).1, hcommitted]⟩
  rcases hmoves.accepted with haccepted | ⟨activating, plan, haccepted, hplace, hsub⟩ |
    ⟨i, before, after, there, haccepted, hadvances⟩
  · refine ⟨fun i switch hi => ?_, hplanned, fun i switch hi htold => ?_⟩
    · rw [haccepted] at hi
      exact (inv.placed i switch hi).imp_right (hknown _)
    · rw [haccepted] at hi
      exact hstopped i switch hi (.inl htold)
  · refine ⟨fun i switch hi => ?_, hplanned, fun i switch hi htold => ?_⟩
    · rw [haccepted] at hi
      rcases getElem?_joined hi with hi | ⟨rfl, rfl⟩
      · exact (inv.placed i switch hi).imp_right (hknown _)
      · exact ⟨hplace, hknown _ hsub⟩
    · rw [haccepted] at hi
      rcases getElem?_joined hi with hi | ⟨rfl, rfl⟩
      · exact hstopped i switch hi (.inl htold)
      · cases htold
  · have hother : ∀ (j : Nat) switch, s'.accepted[j]? = some switch →
        j = i ∧ switch = after ∨ s.accepted[j]? = some switch := by
      intro j switch hj
      rw [haccepted, List.getElem?_set] at hj
      split at hj
      next heq =>
        split at hj
        · cases hj
          exact .inl ⟨heq.symm, rfl⟩
        · cases hj
      · exact .inr hj
    refine ⟨fun j switch hj => ?_, hplanned, fun j switch hj htold => ?_⟩
    · rcases hother j switch hj with ⟨rfl, rfl⟩ | hj
      · have hplaced := (inv.placed j before there).imp_right (hknown _)
        cases hadvances <;> exact hplaced
      · exact (inv.placed j switch hj).imp_right (hknown _)
    · rcases hother j switch hj with ⟨rfl, rfl⟩ | hj
      · cases hadvances with
        | activates => cases htold
        | schedules hstage => exact hstopped j before there (.inr hstage)
        | commits hstage => exact hstopped j before there (.inl (by rw [hstage]; rfl))
      · exact hstopped j switch hj (.inl htold)

/-- A switch is completed by the first delivery of the subscription whose plan it is, and by no other
step. -/
theorem completed_step (hstep : s.step a = some s') {suspended : Nat}
    (h : s'.completed = some (suspended, boundary)) :
    ∃ activating group sub plan, a = .deliver activating group ∧ s.find activating = some sub ∧
      sub.pendingSwitch = true ∧ s.plans.lookup activating = some plan ∧
      plan.suspendingRequestId = suspended ∧ plan.boundary.getD group = boundary := by
  cases moves_of_step hstep with
  | completed found pending lookup =>
    cases h
    exact ⟨_, _, _, _, rfl, found, pending, lookup, rfl, rfl⟩
  | scheduled => simp [setAccepted] at h
  | _ => cases h

theorem Held.switchStops {letGo : Nat → Bool} (inv : Held (s, letGo)) (hstops : Stops (s, letGo) a)
    (hstep : s.step a = some s') : s'.SwitchStops := by
  intro suspended boundary hcompleted
  obtain ⟨activating, group, sub, plan, rfl, hfind, hpending, hlookup, rfl, rfl⟩ :=
    completed_step hstep hcompleted
  obtain ⟨_, there⟩ := inv.planned activating plan hlookup
  refine (moves_of_step hstep).stopped (inv.placed _ _ there).2 rfl ?_
  have hcompletes : s.completionStops plan group (plan.boundary.getD group) = true →
      s.stops (.deliver activating group) plan.suspendingRequestId (plan.boundary.getD group) =
        true := by
    intro h
    simp [stops, hfind, hpending, hlookup, h]
  have hcarried : s.Carried letGo plan group := hstops sub hfind hpending plan hlookup
  cases hthere : s.find plan.suspendingRequestId with
  | none => exact .inl fun suspended hsuspended => by cases hthere.symm.trans hsuspended
  | some suspended =>
    unfold Carried at hcarried
    split at hcarried
    next hmode =>
      refine hcarried.symm.imp Idle.stopped fun hreaches => hcompletes ?_
      simp [completionStops, hmode, findSuspending_of_reaches hreaches, hthere]
    next hmode hboundary =>
      refine hcarried.symm.imp Idle.stopped fun ⟨hne, hreaches⟩ => hcompletes ?_
      simp [completionStops, hmode, hboundary, drains, hne, findSuspending_of_reaches hreaches, hthere]
    next boundary hmode hboundary =>
      rw [hboundary]
      exact .inl (inv.held _ _ there rfl boundary hboundary (hcarried suspended hthere))

/-- In a run in which each switch that is completed is carried out, every one leaves the subscription
it suspends stopped before the boundary. -/
theorem run_switchStops (actions : List SwitchAction) (s : Switches)
    (hstops : Along (watch step noteLetGo) Stops (initial, fun _ => false) actions)
    (hrun : run step initial actions = some s) : s.SwitchStops := by
  obtain ⟨letGo, hwatched⟩ := run_watch noteLetGo actions initial s (fun _ => false) hrun
  have hinv : Held (s, letGo) ∧ s.SwitchStops := by
    refine run_invariant (I := fun watched => Held watched ∧ watched.1.SwitchStops) ?_ actions _ _
      ⟨held_initial, ?_⟩ hstops hwatched
    · rintro ⟨s, letGo⟩ a ⟨s', letGo'⟩ ⟨inv, -⟩ hstops hstep
      obtain ⟨hstep, rfl⟩ := watch_eq_some.mp hstep
      exact ⟨inv.step hstep, inv.switchStops hstops hstep⟩
    · intro suspended boundary hcompleted
      cases hcompleted
  exact hinv.2

/-- Two subscriptions, of which the second is switched to softly from the first with this filter, and
delivers this group first, after these steps. -/
def switchedTo (filter : LocationFilter) (between : List SwitchAction) (group : UInt64) :
    List SwitchAction :=
  [.subscribe 0 ⟨[], [1]⟩ true .none, .list 0, .plan 2 ⟨[], [2]⟩ false ⟨0, .soft, false⟩,
    .subscribe 2 ⟨[], [2]⟩ true filter, .activate 0 (some filter) none, .schedule 0, .commit 0] ++
    between ++ [.deliver 2 group]

/-- FORWARD 1 does not let the first go on, which is to end at group 4. -/
theorem run_switchStops_soft :
    ((run step initial (switchedTo (.absoluteStart ⟨5, 0⟩) [.update 0 none (some true)] 5)).any fun s =>
      s.completed = some (0, 5)) = true ∧
    ∀ s, run step initial (switchedTo (.absoluteStart ⟨5, 0⟩) [.update 0 none (some true)] 5) = some s →
      s.SwitchStops :=
  ⟨by decide +kernel, fun s => run_switchStops _ s (by decide +kernel)⟩

/-- A soft switch at group 0 leaves the old track going: nothing is left to drain, and nothing cuts
it. -/
theorem boundaryZero_not_stopped :
    ¬ ∀ actions s, run step initial actions = some s → s.SwitchStops := by
  intro h
  have hrun : ((run step initial (switchedTo (.absoluteStart ⟨0, 0⟩) [] 0)).any fun s =>
      s.completed = some (0, 0) ∧ (s.find 0).any fun sub =>
        sub.state.forward && !sub.state.softSuspended) = true := by decide +kernel
  obtain ⟨s, hs, hfacts⟩ := (Option.any_eq_true _ _).mp hrun
  obtain ⟨hcompleted, hgoing⟩ := of_decide_eq_true hfacts
  obtain ⟨sub, hsub, hgoing⟩ := (Option.any_eq_true _ _).mp hgoing
  have hstopped := h _ s hs 0 0 hcompleted sub hsub
  simp only [Bool.and_eq_true, Bool.not_eq_true'] at hgoing
  simp [SubscriptionState.StoppedBy, hgoing.1, hgoing.2] at hstopped

end Switches

end Moqtail
