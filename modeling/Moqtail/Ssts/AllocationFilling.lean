import Moqtail.Lib.WaterFilling
import Moqtail.Ssts.AllocationOrder

/-! The default allocation fills each rank like water: at one rate per unit of weight, but for the
sets that have their top track. The rounds of a rank never lower its rate, so that a set which left
would select its top track at the last rate too. -/
namespace Moqtail.Ssts

open Moqtail.Lib (Rate)

/-- The selected member is the highest whose threshold fits, if one does. -/
def IsHighest (members : List (Nat × Nat)) (fits : Nat → Prop) : Option (Nat × Nat) → Prop
  | none => ∀ m ∈ members, ¬ fits m.1
  | some m => m ∈ members ∧ fits m.1 ∧ ∀ m' ∈ members, fits m'.1 → m'.1 ≤ m.1

def SetSnapshot.Sorted (set : SetSnapshot) : Prop := (set.members.map Prod.fst).Pairwise (· ≤ ·)

instance (set : SetSnapshot) : Decidable set.Sorted := inferInstanceAs (Decidable (List.Pairwise ..))

namespace SetSnapshot

variable {set : SetSnapshot} {target top : Nat}

theorem Sorted.isHighest_memberWithin (h : set.Sorted) (target : Nat) :
    IsHighest set.members (· ≤ target) (set.memberWithin target) := by
  have hsorted : set.members.reverse.Pairwise fun m m' => m'.1 ≤ m.1 := by
    rw [List.pairwise_reverse]
    exact List.pairwise_map.mp h
  unfold memberWithin
  cases hfind : set.members.reverse.find? fun m => m.1 ≤ target with
  | none =>
    intro m hm
    have hnot := List.find?_eq_none.mp hfind m (List.mem_reverse.mpr hm)
    simpa using hnot
  | some m =>
    have hmem := mem_of_memberWithin hfind
    refine ⟨hmem.1, hmem.2, fun m' hm' hfits => ?_⟩
    obtain ⟨_, before, after, hsplit, hskipped⟩ := List.find?_eq_some_iff_append.mp hfind
    rw [hsplit, List.pairwise_append, List.pairwise_cons] at hsorted
    have hm' : m' ∈ before ++ m :: after := hsplit ▸ List.mem_reverse.mpr hm'
    rcases List.mem_append.mp hm' with hbefore | hafter
    · have hnot := hskipped m' hbefore
      simp [hfits] at hnot
    · rcases List.mem_cons.mp hafter with rfl | hafter
      · exact le_rfl
      · exact hsorted.2.1.1 m' hafter

/-- The last member is found first. -/
theorem memberWithin_of_top (htop : set.topThresholdKbps = some top) (h : top ≤ target) :
    (set.memberWithin target).map Prod.fst = some top := by
  unfold topThresholdKbps at htop
  obtain ⟨m, hlast, rfl⟩ := Option.map_eq_some_iff.mp htop
  obtain ⟨front, hfront⟩ := List.getLast?_eq_some_iff.mp hlast
  simp [memberWithin, hfront, h]

theorem isTop_iff {selected : Option (Nat × Nat)} : set.isTop selected = true ↔
    ∃ top, set.topThresholdKbps = some top ∧ selected.map Prod.fst = some top := by
  unfold isTop
  split
  · next threshold _ top htop => simp [htop, eq_comm]
  · next hnot =>
    simp only [Bool.false_eq_true, false_iff, not_exists, not_and]
    intro top htop hselected
    obtain ⟨m, hm, rfl⟩ := Option.map_eq_some_iff.mp hselected
    exact hnot m.1 m.2 m.1 hm htop

theorem Sorted.le_top (h : set.Sorted) (htop : set.topThresholdKbps = some top) {m : Nat × Nat}
    (hm : m ∈ set.members) : m.1 ≤ top := by
  unfold topThresholdKbps at htop
  obtain ⟨last, hlast, rfl⟩ := Option.map_eq_some_iff.mp htop
  obtain ⟨front, hfront⟩ := List.getLast?_eq_some_iff.mp hlast
  have hsorted := List.pairwise_map.mp h
  rw [hfront, List.pairwise_append] at hsorted
  rw [hfront] at hm
  rcases List.mem_append.mp hm with hm | hm
  · exact hsorted.2.2 m hm last (List.mem_singleton_self last)
  · rw [List.mem_singleton.mp hm]

end SetSnapshot

/-! The rounds within a rank. -/

namespace TierSplit

variable {s : TierSplit} {tier : List SetSnapshot} {pool : Nat} {set : SetSnapshot}

/-- What a round gives for each unit of weight. -/
def rate (s : TierSplit) : Rate Nat := ⟨s.tierPool, s.weights⟩

theorem hasTop_congr {s' : TierSplit} (h : s.selection set = s'.selection set) :
    s.hasTop set = s'.hasTop set := by
  rw [hasTop, hasTop, h]

@[simp] theorem hasTop_release (s : TierSplit) (set : SetSnapshot) :
    s.release.hasTop set = s.hasTop set := rfl

/-- Neither the product nor the sum of a round reaches `2^64`. -/
structure Exact (s : TierSplit) : Prop where
  product : ∀ set ∈ s.contending, s.tierPool * set.weight < 2 ^ 64
  sum : s.weights < 2 ^ 64

/-- The share of a set is the whole part of what the rate gives it. -/
theorem Exact.le_target_iff (h : s.Exact) (hset : set ∈ s.contending) (hpos : 0 < s.weights)
    (threshold : Nat) : threshold ≤ s.target set ↔ s.rate.Covers set.weight threshold := by
  have hproduct : saturatingMul s.tierPool set.weight = s.tierPool * set.weight := by
    have hlt := h.product set hset
    exact Nat.min_eq_left (by unfold u64Max; omega)
  have hweight : s.totalWeight = s.weights := by
    unfold totalWeight
    rw [← weights, Nat.mod_eq_of_lt h.sum]
    omega
  unfold target
  rw [hproduct, hweight, Nat.le_div_iff_mul_le hpos, mul_comm s.tierPool]
  rfl

theorem weights_pos (hset : set ∈ s.contending) (hweight : 1 ≤ set.weight) : 0 < s.weights :=
  hweight.trans (List.single_le_sum (fun _ _ => Nat.zero_le _) _ (List.mem_map_of_mem hset))

/-- A set has its top track after a round in which the rate covers that. -/
theorem Exact.hasTop_choose_iff (h : s.Exact) (hset : set ∈ s.contending) (hweight : 1 ≤ set.weight) :
    s.choose.hasTop set = true ↔
      ∃ top, set.topThresholdKbps = some top ∧ s.rate.Covers set.weight top := by
  rw [hasTop, SetSnapshot.isTop_iff, choose_selection_of_mem hset]
  refine exists_congr fun top => and_congr_right fun htop => ?_
  rw [← h.le_target_iff hset (weights_pos hset hweight)]
  constructor
  · intro hselected
    obtain ⟨m, hm, rfl⟩ := Option.map_eq_some_iff.mp hselected
    exact (SetSnapshot.mem_of_memberWithin hm).2
  · exact SetSnapshot.memberWithin_of_top htop

/-- The pool covers what the sets that leave took. -/
theorem Exact.tierPool_release (h : s.Exact) :
    s.choose.release.tierPool + drawn s.choose.selection s.choose.saturated = s.tierPool := by
  rw [TierSplit.tierPool_release, tierPool_choose]
  apply Nat.sub_add_cancel
  have hspent := drawn_choose_le h.sum
  have hparts := drawn_partition s.choose.selection s.choose.hasTop s.contending
  rw [saturated, contending_choose]
  omega

/-- Between rounds, the sets of the rank that have their top track have left with it, and the rate
covers what they took. -/
structure Filling (tier : List SetSnapshot) (pool : Nat) (s : TierSplit) : Prop where
  contending : s.contending = tier.filter fun set => ! s.hasTop set
  balance : s.tierPool + drawn s.selection (tier.filter s.hasTop) = pool
  covered : ∀ set ∈ tier, s.hasTop set = true →
    s.rate.Covers set.weight (thresholdOf (s.selection set))

theorem filling_start (tier : List SetSnapshot) (pool : Nat) :
    Filling tier pool (start tier pool) := by
  have hnone : (start tier pool).hasTop = fun _ => false := rfl
  refine ⟨?_, ?_, fun set _ htop => absurd htop (by simp [hnone])⟩
  · rw [hnone]
    simp [start]
  · rw [hnone]
    simp [start]

namespace Filling

theorem mem_contending (h : Filling tier pool s) :
    set ∈ s.contending ↔ set ∈ tier ∧ s.hasTop set = false := by
  rw [h.contending, List.mem_filter]
  simp

theorem exact (h : Filling tier pool s) (hpool : 10 * pool < 2 ^ 64)
    (hweights : ∀ set ∈ tier, 1 ≤ set.weight ∧ set.weight ≤ 10)
    (hsum : (tier.map (·.weight)).sum < 2 ^ 64) : s.Exact where
  product set hset := by
    have hbalance := h.balance
    have hweight := (hweights set (h.mem_contending.mp hset).1).2
    have hle : s.tierPool * set.weight ≤ pool * 10 := Nat.mul_le_mul (by omega) hweight
    omega
  sum := by
    have hparts := sum_map_partition (·.weight) s.hasTop tier
    rw [← h.contending] at hparts
    unfold weights
    omega

/-- A round leaves alone the sets that left before. -/
theorem hasTop_choose (h : Filling tier pool s) (htop : s.hasTop set = true) :
    s.choose.selection set = s.selection set ∧ s.choose.hasTop set = true := by
  have hselection : s.choose.selection set = s.selection set := by
    apply choose_selection_of_not_mem
    rw [h.mem_contending, htop]
    simp
  exact ⟨hselection, (hasTop_congr hselection).trans htop⟩

/-- Where a round leaves the rate covers what each set with its top track took. -/
theorem choose (h : Filling tier pool s) (hexact : s.Exact)
    (hweights : ∀ set ∈ tier, 1 ≤ set.weight) {set : SetSnapshot} (hset : set ∈ tier)
    (htop : s.choose.hasTop set = true) :
    s.rate.Covers set.weight (thresholdOf (s.choose.selection set)) := by
  cases hbefore : s.hasTop set with
  | true =>
    rw [(h.hasTop_choose hbefore).1]
    exact h.covered set hset hbefore
  | false =>
    have hcontends := h.mem_contending.mpr ⟨hset, hbefore⟩
    obtain ⟨top, htop', hselected⟩ := SetSnapshot.isTop_iff.mp htop
    obtain ⟨other, hother, hcovers⟩ :=
      (hexact.hasTop_choose_iff hcontends (hweights set hset)).mp htop
    rw [htop', Option.some_inj] at hother
    rw [thresholdOf, hselected, hother]
    exact hcovers

/-- The sets that leave take at most what the rate gives them, so that it does not fall. -/
theorem rate_release (h : Filling tier pool s) (hexact : s.Exact)
    (hweights : ∀ set ∈ tier, 1 ≤ set.weight) : s.rate.AtMost s.choose.release.rate := by
  have hpool := hexact.tierPool_release
  have hweight : s.choose.release.weights + (s.choose.saturated.map (·.weight)).sum = s.weights := by
    rw [weights, contending_release, saturated, add_comm]
    exact sum_map_partition (·.weight) s.choose.hasTop s.contending
  have htaken : drawn s.choose.selection s.choose.saturated * s.weights ≤
      (s.choose.saturated.map (·.weight)).sum * s.tierPool := by
    unfold drawn
    rw [← List.sum_map_mul_right, ← List.sum_map_mul_right]
    apply List.sum_le_sum
    intro set hset
    obtain ⟨hcontends, htop⟩ := List.mem_filter.mp hset
    exact h.choose hexact hweights (h.mem_contending.mp hcontends).1 htop
  rw [← hweight, ← hpool] at htaken
  have hrate : s.rate = ⟨s.choose.release.tierPool + drawn s.choose.selection s.choose.saturated,
      s.choose.release.weights + (s.choose.saturated.map (·.weight)).sum⟩ := by
    rw [rate, hpool, hweight]
  rw [hrate]
  exact Rate.atMost_of_removed htaken

theorem release (h : Filling tier pool s) (hexact : s.Exact)
    (hweights : ∀ set ∈ tier, 1 ≤ set.weight) (hmore : s.choose.saturated ≠ []) :
    Filling tier pool s.choose.release where
  contending := by
    rw [contending_release, contending_choose, h.contending, List.filter_filter]
    apply List.filter_congr
    intro set _
    rw [hasTop_release]
    cases hbefore : s.hasTop set with
    | true => simp [(h.hasTop_choose hbefore).2]
    | false => simp
  balance := by
    -- the sets with their top track are those that left before and those that leave now
    have hparts := drawn_partition s.choose.selection s.hasTop (tier.filter s.choose.hasTop)
    have hleft : (tier.filter s.choose.hasTop).filter s.hasTop = tier.filter s.hasTop := by
      rw [List.filter_filter]
      apply List.filter_congr
      intro set _
      cases hbefore : s.hasTop set with
      | true => simp [(h.hasTop_choose hbefore).2]
      | false => simp
    have hkept : drawn s.choose.selection (tier.filter s.hasTop) =
        drawn s.selection (tier.filter s.hasTop) :=
      drawn_congr fun set hset => (h.hasTop_choose (List.mem_filter.mp hset).2).1
    have hleave : (tier.filter s.choose.hasTop).filter (fun set => ! s.hasTop set) =
        s.choose.saturated := by
      rw [saturated, contending_choose, h.contending]
      exact List.filter_comm ..
    rw [hleft, hkept, hleave] at hparts
    have hpool := hexact.tierPool_release
    have hbalance := h.balance
    show s.choose.release.tierPool + drawn s.choose.selection (tier.filter s.choose.hasTop) = pool
    omega
  covered set hset htop := by
    obtain ⟨first, hfirst⟩ := List.exists_mem_of_ne_nil _ hmore
    have hcontends := (List.mem_filter.mp hfirst).1
    have hpos := weights_pos hcontends (hweights first (h.mem_contending.mp hcontends).1)
    exact (h.choose hexact hweights hset htop).mono (h.rate_release hexact hweights) hpos

end Filling

/-- What the rounds of a rank settle on: `left` of its pool is for the sets without their top track,
and each set gets what the rate of that gives it. -/
structure Filled (tier : List SetSnapshot) (pool : Nat) (selection : SetSnapshot → Option (Nat × Nat))
    (rate : Rate Nat) : Prop where
  balance : rate.amount + drawn selection (tier.filter fun set => set.isTop (selection set)) = pool
  weight : rate.weight =
    ((tier.filter fun set => ! set.isTop (selection set)).map (·.weight)).sum
  isTop_iff : ∀ set ∈ tier, set.isTop (selection set) = true ↔
    ∃ top, set.topThresholdKbps = some top ∧ rate.Covers set.weight top
  highest : ∀ set ∈ tier, set.isTop (selection set) = false →
    IsHighest set.members (rate.Covers set.weight) (selection set)

theorem Filling.settled (h : Filling tier pool s) (hexact : s.Exact)
    (hweights : ∀ set ∈ tier, 1 ≤ set.weight) (hsorted : ∀ set ∈ tier, set.Sorted)
    (hdone : s.choose.saturated = []) :
    Filled tier pool s.choose.selection s.rate := by
  have hsame : ∀ set ∈ tier, set.isTop (s.choose.selection set) = s.hasTop set := by
    intro set hset
    cases hbefore : s.hasTop set with
    | true => exact (h.hasTop_choose hbefore).2
    | false =>
      have hnot := List.filter_eq_nil_iff.mp hdone set (h.mem_contending.mpr ⟨hset, hbefore⟩)
      simpa [hasTop] using hnot
  constructor
  · rw [List.filter_congr hsame, ← h.balance]
    refine congrArg (s.tierPool + ·) (drawn_congr fun set hset => ?_)
    exact (h.hasTop_choose (List.mem_filter.mp hset).2).1
  · rw [List.filter_congr fun set hset => congrArg (! ·) (hsame set hset), ← h.contending]
    rfl
  · intro set hset
    cases hbefore : s.hasTop set with
    | true =>
      have hcovers := h.covered set hset hbefore
      obtain ⟨top, htop, hselected⟩ := SetSnapshot.isTop_iff.mp hbefore
      rw [thresholdOf, hselected] at hcovers
      simp only [hsame set hset, hbefore, true_iff]
      exact ⟨top, htop, hcovers⟩
    | false => exact hexact.hasTop_choose_iff (h.mem_contending.mpr ⟨hset, hbefore⟩) (hweights set hset)
  · intro set hset hnot
    rw [hsame set hset] at hnot
    have hcontends := h.mem_contending.mpr ⟨hset, hnot⟩
    rw [choose_selection_of_mem hcontends]
    have hhighest := (hsorted set hset).isHighest_memberWithin (s.target set)
    have hfits := fun threshold => propext
      (hexact.le_target_iff hcontends (weights_pos hcontends (hweights set hset)) threshold)
    rwa [show (· ≤ s.target set) = s.rate.Covers set.weight from funext hfits] at hhighest

/-- Whatever rounds it takes, a rank is filled. -/
theorem Filling.settle (h : Filling tier pool s) (hpool : 10 * pool < 2 ^ 64)
    (hweights : ∀ set ∈ tier, 1 ≤ set.weight ∧ set.weight ≤ 10)
    (hsum : (tier.map (·.weight)).sum < 2 ^ 64) (hsorted : ∀ set ∈ tier, set.Sorted) :
    ∃ rate, Filled tier pool s.settle.selection rate := by
  induction s using settle.induct with
  | case1 s hdone =>
    rw [settle_done hdone]
    exact ⟨s.rate, h.settled (h.exact hpool hweights hsum) (fun set hset => (hweights set hset).1)
      hsorted hdone⟩
  | case2 s hmore ih =>
    rw [settle_more hmore]
    exact ih (h.release (h.exact hpool hweights hsum) (fun set hset => (hweights set hset).1) hmore)

end TierSplit

/-! The ranks, one after the other. -/

namespace TierSplit.Filled

variable {tier : List SetSnapshot} {pool pool' : Nat} {rate rate' : Rate Nat}
  {selection selection' : SetSnapshot → Option (Nat × Nat)}

theorem congr (h : Filled tier pool selection rate)
    (hsame : ∀ set ∈ tier, selection set = selection' set) : Filled tier pool selection' rate where
  balance := by
    rw [← h.balance, List.filter_congr fun set hset => congrArg set.isTop (hsame set hset)]
    refine congrArg (rate.amount + ·) (drawn_congr fun set hset => (hsame set ?_).symm)
    exact (List.mem_filter.mp hset).1
  weight := by
    rw [h.weight, List.filter_congr fun set hset => by rw [hsame set hset]]
  isTop_iff set hset := hsame set hset ▸ h.isTop_iff set hset
  highest set hset := hsame set hset ▸ h.highest set hset

/-- The filling of the library that a rank is. -/
theorem toFilling (h : Filled tier pool selection rate) (hnodup : tier.Nodup) :
    Lib.Filling (fun set : SetSnapshot => set.topThresholdKbps ≠ none) (·.weight)
      (fun set => set.topThresholdKbps.getD 0) tier.toFinset
      (tier.filter fun set => set.isTop (selection set)).toFinset pool rate.amount ∧
    rate.weight = ∑ set ∈ tier.toFinset \ (tier.filter fun set => set.isTop (selection set)).toFinset,
      set.weight := by
  have hweight : rate.weight =
      ∑ set ∈ tier.toFinset \ (tier.filter fun set => set.isTop (selection set)).toFinset,
        set.weight := by
    have hopen : tier.toFinset \ (tier.filter fun set => set.isTop (selection set)).toFinset =
        (tier.filter fun set => ! set.isTop (selection set)).toFinset := by
      ext set
      simp only [Finset.mem_sdiff, List.mem_toFinset, List.mem_filter]
      grind
    rw [h.weight, hopen, List.sum_toFinset _ (hnodup.filter _)]
  refine ⟨⟨?_, ?_, ?_⟩, hweight⟩
  · intro set hset
    rw [List.mem_toFinset] at hset ⊢
    exact (List.mem_filter.mp hset).1
  · rw [List.sum_toFinset _ (hnodup.filter _), ← h.balance]
    refine congrArg (rate.amount + ·) (congrArg List.sum (List.map_congr_left fun set hset => ?_))
    obtain ⟨top, htop, hselected⟩ := SetSnapshot.isTop_iff.mp (List.mem_filter.mp hset).2
    rw [htop, thresholdOf, hselected]
  · intro set hset
    rw [List.mem_toFinset] at hset
    rw [← hweight, List.mem_toFinset, List.mem_filter, and_iff_right hset, h.isTop_iff set hset]
    cases htop : set.topThresholdKbps with
    | none => simp
    | some top => simp

/-- With a larger pool no set gets a lower member. -/
theorem mono (h : Filled tier pool selection rate) (h' : Filled tier pool' selection' rate')
    (hnodup : tier.Nodup) (hpool : pool ≤ pool') {set : SetSnapshot} (hset : set ∈ tier)
    (hweight : 1 ≤ set.weight) (hsorted : set.Sorted) {m : Nat × Nat} (hmem : m ∈ set.members)
    (hm : selection set = some m) : ∃ m', selection' set = some m' ∧ m.1 ≤ m'.1 := by
  obtain ⟨hfilling, hopen⟩ := h.toFilling hnodup
  obtain ⟨hfilling', hopen'⟩ := h'.toFilling hnodup
  cases htop' : set.isTop (selection' set) with
  | true =>
    obtain ⟨top, htop, hselected⟩ := SetSnapshot.isTop_iff.mp htop'
    obtain ⟨m', hm', rfl⟩ := Option.map_eq_some_iff.mp hselected
    exact ⟨m', hm', hsorted.le_top htop hmem⟩
  | false =>
    have hbelow : set.isTop (selection set) = false := by
      by_contra htop
      have hfull := hfilling.full_subset hfilling' hpool
        (List.mem_toFinset.mpr (List.mem_filter.mpr ⟨hset, by simpa using htop⟩))
      have hfull' := (List.mem_filter.mp (List.mem_toFinset.mp hfull)).2
      simp [htop'] at hfull'
    have hatMost : rate.AtMost rate' := by
      have hle := hfilling.rate_atMost hfilling' hpool
      rwa [Lib.Filling.rate, Lib.Filling.rate, ← hopen, ← hopen'] at hle
    have hpos : 0 < rate.weight := by
      rw [h.weight]
      refine hweight.trans (List.single_le_sum (fun _ _ => Nat.zero_le _) _ (List.mem_map_of_mem ?_))
      exact List.mem_filter.mpr ⟨hset, by simp [hbelow]⟩
    have hhighest := h.highest set hset hbelow
    rw [hm] at hhighest
    have hcovers := Rate.Covers.mono hhighest.2.1 hatMost hpos
    have hhighest' := h'.highest set hset htop'
    cases hm' : selection' set with
    | none =>
      rw [hm'] at hhighest'
      exact absurd hcovers (hhighest' m hmem)
    | some m' =>
      rw [hm'] at hhighest'
      exact ⟨m', rfl, hhighest'.2.2 m hmem hcovers⟩

end TierSplit.Filled

/-- What the ranks below `rank` leave of the budget. -/
def rankPool (budgetKbps : Nat) (sets : List SetSnapshot) (rank : Nat) : Nat :=
  budgetKbps - drawn (chosenMember budgetKbps sets) (sets.filter (·.rank < rank))

variable {sets : List SetSnapshot} {budgetKbps budgetKbps' rank : Nat}

namespace Allocation

/-- The ranks below one that there is leave what their sets do not take. -/
theorem remaining_before (hids : (sets.map (·.id)).Nodup)
    (hweights : ∀ (a : Allocation) rank, (splitOf sets a rank).weights < 2 ^ 64)
    (hrank : rank ∈ ranks sets) : (before budgetKbps sets rank).remaining = rankPool budgetKbps sets rank := by
  have hspent : Spent budgetKbps sets _ (before budgetKbps sets rank) :=
    spent_foldl hids hweights ((nodup_ranks sets).filter _)
  have hparts := drawn_partition (fun set => (before budgetKbps sets rank).chosen set.id)
    (·.rank < rank) sets
  have hfirst : drawn (fun set => (before budgetKbps sets rank).chosen set.id)
      (sets.filter (·.rank < rank)) =
      drawn (chosenMember budgetKbps sets) (sets.filter (·.rank < rank)) := by
    apply drawn_congr
    intro set hset
    obtain ⟨hmem, hlt⟩ := List.mem_filter.mp hset
    simp only [decide_eq_true_eq] at hlt
    unfold chosenMember afterRanks
    rw [← filter_lt_append (sortedLT_ranks sets) hrank, List.foldl_append]
    refine (chosen_foldl hids hmem fun hlater => ?_).symm
    simp at hlater
    omega
  have hothers : drawn (fun set => (before budgetKbps sets rank).chosen set.id)
      (sets.filter fun set => ! set.rank < rank) = 0 := by
    rw [drawn, List.sum_eq_zero]
    simp only [List.mem_map]
    rintro threshold ⟨set, hset, rfl⟩
    obtain ⟨hmem, hge⟩ := List.mem_filter.mp hset
    rw [hspent.waiting set hmem fun hserved => ?_, thresholdOf_none]
    have hlt := (List.mem_filter.mp hserved).2
    simp [hlt] at hge
  have hbalance := hspent.balance
  unfold rankPool
  omega

end Allocation

/-- Each rank is filled from what the ranks before it leave. -/
theorem filled_rank {slice : SnapshotSlice} (hids : (slice.sets.map (·.id)).Nodup)
    (hweights : ∀ set ∈ slice.sets, 1 ≤ set.weight ∧ set.weight ≤ 10)
    (hsorted : ∀ set ∈ slice.sets, set.Sorted) (hbudget : 10 * budgetKbps < 2 ^ 64) (rank : Nat) :
    ∃ rate, TierSplit.Filled (Allocation.tierOf slice.sets rank) (rankPool budgetKbps slice.sets rank)
      (chosenMember budgetKbps slice.sets) rate := by
  have hsum := slice.weights_lt fun set hset => (hweights set hset).2
  have hpool : 10 * rankPool budgetKbps slice.sets rank < 2 ^ 64 := by
    unfold rankPool
    omega
  by_cases hempty : Allocation.tierOf slice.sets rank = []
  · refine ⟨⟨rankPool budgetKbps slice.sets rank, 0⟩, ?_⟩
    rw [hempty]
    constructor <;> simp
  · obtain ⟨first, hfirst⟩ := List.exists_mem_of_ne_nil _ hempty
    obtain ⟨hmem, hrank, _⟩ := Allocation.mem_tierOf.mp hfirst
    have hremaining : (Allocation.before budgetKbps slice.sets rank).remaining = _ :=
      Allocation.remaining_before hids hsum (Allocation.mem_ranks.mpr ⟨first, hmem, hrank⟩)
    have hstart := TierSplit.filling_start (Allocation.tierOf slice.sets rank)
      (Allocation.before budgetKbps slice.sets rank).remaining
    rw [hremaining] at hstart
    obtain ⟨rate, hfilled⟩ := hstart.settle hpool
      (fun set hset => hweights set (Allocation.mem_tierOf.mp hset).1)
      (hsum (Allocation.before budgetKbps slice.sets rank) rank)
      fun set hset => hsorted set (Allocation.mem_tierOf.mp hset).1
    refine ⟨rate, hfilled.congr fun set htier => ?_⟩
    obtain ⟨hset, rfl, hactive⟩ := Allocation.mem_tierOf.mp htier
    rw [Allocation.chosenMember_eq hids hset hactive, Allocation.splitOf, hremaining]

/-- Where no active set has a lower rank, the whole budget is the pool. -/
theorem rankPool_first (hids : (sets.map (·.id)).Nodup)
    (hfirst : ∀ set ∈ sets, set.active = true → rank ≤ set.rank) :
    rankPool budgetKbps sets rank = budgetKbps := by
  have hnone : drawn (chosenMember budgetKbps sets) (sets.filter (·.rank < rank)) = 0 := by
    rw [drawn, List.sum_eq_zero]
    simp only [List.mem_map]
    rintro threshold ⟨set, hset, rfl⟩
    obtain ⟨hmem, hlt⟩ := List.mem_filter.mp hset
    rw [Allocation.chosenMember_inactive hids hmem, thresholdOf_none]
    by_contra hactive
    have hle := hfirst set hmem (by simpa using hactive)
    simp at hlt
    omega
  rw [rankPool, hnone, Nat.sub_zero]

/-- The default allocation fills every rank at one rate, and in the first rank with an active set a
larger budget gives no set a lower member. -/
theorem allocate_filled (budgetKbps budgetKbps' : Nat) (slice : SnapshotSlice)
    (hids : (slice.sets.map (·.id)).Nodup)
    (hweights : ∀ set ∈ slice.sets, 1 ≤ set.weight ∧ set.weight ≤ 10)
    (hsorted : ∀ set ∈ slice.sets, set.Sorted) (hle : budgetKbps ≤ budgetKbps')
    (hbudget : 10 * budgetKbps' < 2 ^ 64) :
    (∀ kbps ≤ budgetKbps', ∀ set ∈ slice.sets, allocate kbps slice.sets set.id =
      some ((chosenMember kbps slice.sets set).map Prod.snd)) ∧
    (∀ kbps ≤ budgetKbps', ∀ rank, ∃ rate,
      TierSplit.Filled (Allocation.tierOf slice.sets rank) (rankPool kbps slice.sets rank)
        (chosenMember kbps slice.sets) rate) ∧
    ∀ set ∈ slice.sets, set.active = true →
      (∀ other ∈ slice.sets, other.active = true → set.rank ≤ other.rank) →
      ∀ m, chosenMember budgetKbps slice.sets set = some m →
        ∃ m', chosenMember budgetKbps' slice.sets set = some m' ∧ m.1 ≤ m'.1 := by
  have hfilled : ∀ kbps ≤ budgetKbps', ∀ rank, ∃ rate,
      TierSplit.Filled (Allocation.tierOf slice.sets rank) (rankPool kbps slice.sets rank)
        (chosenMember kbps slice.sets) rate :=
    fun kbps hkbps => filled_rank hids hweights hsorted (by omega)
  refine ⟨fun kbps _ set hset => allocate_of_mem kbps hset, hfilled, ?_⟩
  intro set hset hactive hfirst m hm
  obtain ⟨rate, hrank⟩ := hfilled budgetKbps hle set.rank
  obtain ⟨rate', hrank'⟩ := hfilled budgetKbps' le_rfl set.rank
  rw [rankPool_first hids hfirst] at hrank hrank'
  have hspent : Allocation.Spent budgetKbps slice.sets _ _ := Allocation.spent_afterRanks hids
    (slice.weights_lt fun set hset => (hweights set hset).2)
  exact hrank.mono hrank' (Allocation.nodup_tierOf hids).of_map hle
    (Allocation.mem_tierOf.mpr ⟨hset, rfl, hactive⟩) (hweights set hset).1 (hsorted set hset)
    (hspent.mem set hset m hm) hm

theorem allocate_filled_fourSets :
    (∀ kbps ≤ 4000, ∀ set ∈ fourSets.sets, allocate kbps fourSets.sets set.id =
      some ((chosenMember kbps fourSets.sets set).map Prod.snd)) ∧
    (∀ kbps ≤ 4000, ∀ rank, ∃ rate,
      TierSplit.Filled (Allocation.tierOf fourSets.sets rank) (rankPool kbps fourSets.sets rank)
        (chosenMember kbps fourSets.sets) rate) ∧
    ∀ set ∈ fourSets.sets, set.active = true →
      (∀ other ∈ fourSets.sets, other.active = true → set.rank ≤ other.rank) →
      ∀ m, chosenMember 1000 fourSets.sets set = some m →
        ∃ m', chosenMember 4000 fourSets.sets set = some m' ∧ m.1 ≤ m'.1 :=
  allocate_filled 1000 4000 fourSets (by decide) (by decide) (by decide) (by decide) (by decide)

end Moqtail.Ssts
