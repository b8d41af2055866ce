import Moqtail.Ssts.Controller

/-! The default allocation, from `moqtail-ssts/src/algorithms/default`: ranks in strict priority, and
within a rank a split by weight in which a set that has its top track gives back what it does not use.

The source numbers the sets of a rank and keeps what each of them has in a vector. A set stands for
its number here: what a round does at a position depends on the set there alone. Sums of `u64` wrap,
as they do in a release build. -/
namespace Moqtail.Ssts

def u64Max : Nat := 2 ^ 64 - 1

def saturatingMul (a b : Nat) : Nat := min (a * b) u64Max

/-! The input. -/

/-- A slice takes at most `isize::MAX` bytes, and the three `u64` of a `SetSnapshot` alone take 24. -/
structure SnapshotSlice where
  sets : List SetSnapshot
  fits : 24 * sets.length < 2 ^ 63

/-- The stricter of estimate and cap, where zero stands for none. -/
def AbrInput.budgetKbps (input : AbrInput) : Nat :=
  match input.bandwidthEstimateKbps, input.configuredCapKbps with
  | 0, 0 => u64Max
  | 0, cap => cap
  | est, 0 => est
  | est, cap => min est cap

def SetSnapshot.topThresholdKbps (set : SetSnapshot) : Option Nat :=
  set.members.getLast?.map Prod.fst

/-- The highest member whose threshold `target` covers. -/
def SetSnapshot.memberWithin (set : SetSnapshot) (target : Nat) : Option (Nat × Nat) :=
  set.members.reverse.find? fun m => m.1 ≤ target

/-- The selected member is the top track. -/
def SetSnapshot.isTop (set : SetSnapshot) (selected : Option (Nat × Nat)) : Bool :=
  match selected, set.topThresholdKbps with
  | some (threshold, _), some top => threshold = top
  | _, _ => false

/-- The threshold that is drawn from a pool. -/
def thresholdOf (selected : Option (Nat × Nat)) : Nat := (selected.map Prod.fst).getD 0

/-! The sets of one rank. -/

structure TierSplit where
  selection : SetSnapshot → Option (Nat × Nat)
  contending : List SetSnapshot
  tierPool : Nat

namespace TierSplit

def start (tier : List SetSnapshot) (remaining : Nat) : TierSplit := ⟨fun _ => none, tier, remaining⟩

def totalWeight (s : TierSplit) : Nat := max ((s.contending.map (·.weight)).sum % 2 ^ 64) 1

def target (s : TierSplit) (set : SetSnapshot) : Nat :=
  saturatingMul s.tierPool set.weight / s.totalWeight

def choose (s : TierSplit) : TierSplit :=
  { s with
    selection := fun set =>
      if set ∈ s.contending then set.memberWithin (s.target set) else s.selection set }

def hasTop (s : TierSplit) (set : SetSnapshot) : Bool := set.isTop (s.selection set)

def saturated (s : TierSplit) : List SetSnapshot := s.contending.filter s.hasTop

/-- The saturated sets leave the pool. -/
def release (s : TierSplit) : TierSplit :=
  { s with
    tierPool := s.saturated.foldl (fun pool set => pool - thresholdOf (s.selection set)) s.tierPool
    contending := s.contending.filter fun set => set ∉ s.saturated }

theorem contending_release (s : TierSplit) :
    s.release.contending = s.contending.filter fun set => ! s.hasTop set := by
  refine List.filter_congr fun set hset => ?_
  simp [saturated, hset]

theorem length_release_lt {s : TierSplit} (h : s.saturated ≠ []) :
    s.release.contending.length < s.contending.length := by
  obtain ⟨set, hset⟩ := List.exists_mem_of_ne_nil _ h
  obtain ⟨hmem, htop⟩ := List.mem_filter.mp hset
  rw [contending_release, List.length_filter_lt_length_iff_exists]
  exact ⟨set, hmem, by simp [htop]⟩

/-- The rounds of the loop, until no set leaves. -/
def settle (s : TierSplit) : TierSplit :=
  if s.choose.saturated = [] then s.choose else settle s.choose.release
termination_by s.contending.length
decreasing_by exact length_release_lt ‹_›

/-- What the rounds start from. -/
def rounds (s : TierSplit) : List TierSplit :=
  if s.choose.saturated = [] then [s] else s :: rounds s.choose.release
termination_by s.contending.length
decreasing_by exact length_release_lt ‹_›

end TierSplit

/-! All ranks. -/

/-- `chosen` keeps the members behind the decisions, and `splits` what each rank started from;
nothing reads them. -/
structure Allocation where
  decisions : Selection
  remaining : Nat
  chosen : Nat → Option (Nat × Nat)
  splits : List TierSplit

namespace Allocation

def start (budgetKbps : Nat) : Allocation := ⟨fun _ => none, budgetKbps, fun _ => none, []⟩

def record (a : Allocation) (selection : SetSnapshot → Option (Nat × Nat)) (set : SetSnapshot) :
    Allocation :=
  { a with
    decisions := Function.update a.decisions set.id (some ((selection set).map Prod.snd))
    remaining := a.remaining - thresholdOf (selection set)
    chosen := Function.update a.chosen set.id (selection set) }

def recordAll (a : Allocation) (selection : SetSnapshot → Option (Nat × Nat))
    (tier : List SetSnapshot) : Allocation := tier.foldl (fun a set => a.record selection set) a

def tierOf (sets : List SetSnapshot) (rank : Nat) : List SetSnapshot :=
  sets.filter fun set => set.rank = rank && set.active

def serveRank (sets : List SetSnapshot) (a : Allocation) (rank : Nat) : Allocation :=
  if tierOf sets rank = [] then a
  else
    let split := TierSplit.start (tierOf sets rank) a.remaining
    { a with splits := a.splits ++ [split] }.recordAll split.settle.selection (tierOf sets rank)

/-- Sorted, so that `Vec::dedup` leaves each rank once. -/
def ranks (sets : List SetSnapshot) : List Nat :=
  ((sets.map (·.rank)).insertionSort (· ≤ ·)).dedup

def afterRanks (budgetKbps : Nat) (sets : List SetSnapshot) : Allocation :=
  (ranks sets).foldl (serveRank sets) (start budgetKbps)

end Allocation

def allocate (budgetKbps : Nat) (sets : List SetSnapshot) : Selection :=
  sets.foldl (fun decisions set =>
    Function.update decisions set.id (some ((decisions set.id).getD none)))
    (Allocation.afterRanks budgetKbps sets).decisions

/-- The largest budget that the default algorithm allocates. -/
def unlimitedKbps : Nat := u64Max / 4

/-- `DefaultAlgorithm::decide` -/
def decideDefault (input : AbrInput) : Selection :=
  allocate (min input.budgetKbps unlimitedKbps) input.sets

end Moqtail.Ssts
