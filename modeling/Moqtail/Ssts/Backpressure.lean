import Moqtail.Ssts.Controller

/-! Backpressure tier selection, from `moqtail-ssts/src/algorithms/backpressure`: one tier index for
the connection, raised after five clear observations in a row and lowered as soon as streams back
up. -/
namespace Moqtail.Ssts

def depthTarget : Nat := 1

def downshiftDepth : Nat := 2

def upshiftGopStreak : Nat := 5

def cooldownHighStreakLimit : Nat := 2

/-- `PRIVATE_ALGORITHM_ID_BASE`. -/
def backpressureAlgorithmId : Nat := 0xff01

structure Observation where
  depth : Nat
  timedOut : Bool
deriving Repr, DecidableEq

def Observation.new (depth timeoutsSinceLast : Nat) : Observation :=
  ⟨depth + timeoutsSinceLast, decide (0 < timeoutsSinceLast)⟩

inductive Cause where
  | depth
  | risingDepth
  | timeout
deriving Repr, DecidableEq

inductive Event where
  | held
  | cooldownExit
  | upshift (source target : Nat)
  | downshift (source target : Nat) (cause : Cause)
deriving Repr, DecidableEq

structure TierState where
  currentIndex : Nat
  clearStreak : Nat
  postDownshiftDepth : Option Nat
  cooldownHighStreak : Nat
deriving Repr, DecidableEq

namespace TierState

def new : TierState := ⟨0, 0, none, 0⟩

def clampTo (t : TierState) (maxIndex : Nat) : TierState :=
  { t with currentIndex := min t.currentIndex maxIndex }

def observeClear (t : TierState) : TierState × Event :=
  let exited := t.postDownshiftDepth.isSome
  let t := { t with
    postDownshiftDepth := none
    cooldownHighStreak := if exited then 0 else t.cooldownHighStreak
    clearStreak := t.clearStreak + 1 }
  if t.clearStreak < upshiftGopStreak then (t, if exited then .cooldownExit else .held)
  else
    ({ t with currentIndex := t.currentIndex + 1, clearStreak := 0 },
      .upshift t.currentIndex (t.currentIndex + 1))

def observeCongested (t : TierState) (depth : Nat) : TierState × Event :=
  let t := { t with clearStreak := 0 }
  if depth < downshiftDepth ∨ t.currentIndex = 0 then (t, .held)
  else
    ({ t with
      currentIndex := t.currentIndex - 1, postDownshiftDepth := some depth, cooldownHighStreak := 0 },
      .downshift t.currentIndex (t.currentIndex - 1) .depth)

def observeCooldown (t : TierState) (observation : Observation) (reference : Nat) :
    TierState × Event :=
  let t := { t with clearStreak := 0, postDownshiftDepth := some observation.depth }
  if observation.timedOut ∧ 0 < t.currentIndex then
    ({ t with currentIndex := t.currentIndex - 1, cooldownHighStreak := 0 },
      .downshift t.currentIndex (t.currentIndex - 1) .timeout)
  else if observation.depth ≤ reference then ({ t with cooldownHighStreak := 0 }, .held)
  else
    let t := { t with cooldownHighStreak := t.cooldownHighStreak + 1 }
    if t.cooldownHighStreak < cooldownHighStreakLimit ∨ t.currentIndex = 0 then (t, .held)
    else
      ({ t with currentIndex := t.currentIndex - 1, cooldownHighStreak := 0 },
        .downshift t.currentIndex (t.currentIndex - 1) .risingDepth)

def observe (t : TierState) (observation : Observation) : TierState × Event :=
  if observation.depth ≤ depthTarget then t.observeClear
  else
    match t.postDownshiftDepth with
    | some reference => t.observeCooldown observation reference
    | none => t.observeCongested observation.depth

end TierState

def AbrInput.observation (input : AbrInput) : Observation :=
  .new input.activeStreamDepth input.streamTimeoutsSinceLastDecision

/-- The top of the longest ladder among the sets. -/
def AbrInput.maxIndex (input : AbrInput) : Nat :=
  (((input.sets.map fun set => set.members.length).max?).getD 1) - 1

/-- `BackpressureAlgorithm::decide`, with the event it logs. -/
def TierState.decide (t : TierState) (input : AbrInput) : TierState × Event × Selection :=
  let (t, event) := t.observe input.observation
  let t := t.clampTo input.maxIndex
  (t, event, input.sets.foldl (fun selection set =>
    Function.update selection set.id (some
      (if set.active ∧ set.members ≠ [] then
        (set.members[min t.currentIndex (set.members.length - 1)]?).map Prod.snd
      else none))) fun _ => none)

/-- A connection that runs no other algorithm. -/
def backpressure (_ : Nat) (t : TierState) (input : AbrInput) : TierState × Selection :=
  ((t.decide input).1, (t.decide input).2.2)

end Moqtail.Ssts
