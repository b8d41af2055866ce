import Moqtail.Ssts.AllocationFilling

/-! Whether the products of the weighted split stay below `2^64`. A quarter of `u64::MAX`, which is
what the default algorithm allocates without an estimate and a cap, leaves room for weights up to
four, and weights go up to ten. -/
namespace Moqtail.Ssts

/-- All rounds of all ranks of a decision. -/
def decisionRounds (input : AbrInput) : List TierSplit :=
  (Allocation.afterRanks (min input.budgetKbps unlimitedKbps) input.sets).splits.flatMap
    TierSplit.rounds

namespace TierSplit

variable {s : TierSplit}

/-- A round has no larger pool and no more sets than the one before. -/
theorem Exact.release (h : s.Exact) : s.choose.release.Exact where
  product set hset := by
    rw [contending_release] at hset
    have hlt := h.product set (List.mem_filter.mp hset).1
    have hpool : s.choose.release.tierPool ≤ s.tierPool := by
      rw [TierSplit.tierPool_release]
      exact Nat.sub_le ..
    exact (Nat.mul_le_mul_right _ hpool).trans_lt hlt
  sum := (weights_release_le s.choose).trans_lt h.sum

theorem Exact.of_mem_rounds (h : s.Exact) {round : TierSplit} (hround : round ∈ s.rounds) :
    round.Exact := by
  induction s using rounds.induct with
  | case1 s hdone =>
    rw [rounds, if_pos hdone, List.mem_singleton] at hround
    exact hround ▸ h
  | case2 s hmore ih =>
    rw [rounds, if_neg hmore] at hround
    rcases List.mem_cons.mp hround with rfl | hround
    · exact h
    · exact ih h.release hround

theorem mem_rounds_self (s : TierSplit) : s ∈ s.rounds := by
  rw [rounds]
  split <;> simp

end TierSplit

namespace Allocation

variable {sets : List SetSnapshot} {budgetKbps rank : Nat} {served : List Nat} {a : Allocation}

/-- Every rank so far started from an exact split, and none can get more than the budget. -/
structure Headroom (budgetKbps : Nat) (a : Allocation) : Prop where
  remaining : a.remaining ≤ budgetKbps
  splits : ∀ split ∈ a.splits, split.Exact

theorem Headroom.serveRank (h : Headroom budgetKbps a)
    (hproduct : ∀ set ∈ sets, set.active = true → budgetKbps * set.weight < 2 ^ 64)
    (hsum : (splitOf sets a rank).weights < 2 ^ 64) : Headroom budgetKbps (serveRank sets a rank) where
  remaining := by
    rw [serveRank_remaining]
    exact (Nat.sub_le ..).trans h.remaining
  splits split hsplit := by
    rw [serveRank_splits] at hsplit
    split at hsplit
    · exact h.splits split hsplit
    · rcases List.mem_append.mp hsplit with hsplit | hsplit
      · exact h.splits split hsplit
      · rw [List.mem_singleton.mp hsplit]
        refine ⟨fun set hset => ?_, hsum⟩
        obtain ⟨hmem, _, hactive⟩ := mem_tierOf.mp hset
        exact (Nat.mul_le_mul_right _ h.remaining).trans_lt (hproduct set hmem hactive)

theorem headroom_foldl (hproduct : ∀ set ∈ sets, set.active = true → budgetKbps * set.weight < 2 ^ 64)
    (hsum : ∀ (a : Allocation) rank, (splitOf sets a rank).weights < 2 ^ 64)
    (h : Headroom budgetKbps a) : Headroom budgetKbps (served.foldl (Allocation.serveRank sets) a) := by
  induction served generalizing a with
  | nil => exact h
  | cons rank served ih => exact ih (h.serveRank hproduct (hsum a rank))

theorem splits_foldl (a : Allocation) (served : List Nat) :
    a.splits ⊆ (served.foldl (serveRank sets) a).splits := by
  induction served generalizing a with
  | nil => exact List.Subset.refl _
  | cons rank served ih =>
    refine List.Subset.trans ?_ (ih (serveRank sets a rank))
    rw [serveRank_splits]
    split
    · exact List.Subset.refl _
    · exact List.subset_append_left ..

theorem foldl_of_tiers_empty (h : ∀ rank ∈ served, tierOf sets rank = []) :
    served.foldl (serveRank sets) a = a := by
  induction served generalizing a with
  | nil => rfl
  | cons rank served ih =>
    rw [List.forall_mem_cons] at h
    rw [List.foldl_cons, serveRank, if_pos h.1]
    exact ih h.2

/-- The first rank with an active set starts from the whole budget. -/
theorem first_split (budgetKbps : Nat) {set : SetSnapshot} (hset : set ∈ sets)
    (hactive : set.active = true)
    (hfirst : ∀ other ∈ sets, other.active = true → set.rank ≤ other.rank) :
    splitOf sets (start budgetKbps) set.rank ∈ (afterRanks budgetKbps sets).splits := by
  have hbefore : ((ranks sets).filter (· < set.rank)).foldl (serveRank sets) (start budgetKbps) =
      start budgetKbps := by
    apply foldl_of_tiers_empty
    intro rank hrank
    have hlt := (List.mem_filter.mp hrank).2
    rw [List.eq_nil_iff_forall_not_mem]
    intro other hother
    obtain ⟨hmem, hrank, hother⟩ := mem_tierOf.mp hother
    have hle := hfirst other hmem hother
    simp only [decide_eq_true_eq] at hlt
    omega
  have htier := List.ne_nil_of_mem (mem_tierOf.mpr ⟨hset, rfl, hactive⟩)
  rw [afterRanks, ← filter_lt_append (sortedLT_ranks sets) (mem_ranks.mpr ⟨set, hset, rfl⟩),
    List.foldl_append, hbefore, List.foldl_cons]
  apply splits_foldl
  rw [serveRank_splits, if_neg htier]
  exact List.mem_append_right _ (List.mem_singleton_self _)

end Allocation

theorem mem_decisionRounds {input : AbrInput} {split round : TierSplit}
    (hsplit : split ∈ (Allocation.afterRanks (min input.budgetKbps unlimitedKbps) input.sets).splits)
    (hround : round ∈ split.rounds) : round ∈ decisionRounds input :=
  List.mem_flatMap.mpr ⟨split, hsplit, hround⟩

/-- The products of the first rank with an active set are those of the whole budget. -/
theorem product_lt_of_exact {input : AbrInput} (h : ∀ round ∈ decisionRounds input, round.Exact)
    {set : SetSnapshot} (hset : set ∈ input.sets) (hactive : set.active = true)
    (hfirst : ∀ other ∈ input.sets, other.active = true → set.rank ≤ other.rank) :
    min input.budgetKbps unlimitedKbps * set.weight < 2 ^ 64 := by
  have hsplit := Allocation.first_split (min input.budgetKbps unlimitedKbps) hset hactive hfirst
  have hexact := h _ (mem_decisionRounds hsplit (TierSplit.mem_rounds_self _))
  exact hexact.product set (Allocation.mem_tierOf.mpr ⟨hset, rfl, hactive⟩)

/-- No product overflows that the budget does not make overflow. -/
theorem exact_of_product_lt {input : AbrInput} (hfits : 24 * input.sets.length < 2 ^ 63)
    (hweights : ∀ set ∈ input.sets, 1 ≤ set.weight ∧ set.weight ≤ 10)
    (hproduct : ∀ set ∈ input.sets, set.active = true →
      min input.budgetKbps unlimitedKbps * set.weight < 2 ^ 64) :
    ∀ round ∈ decisionRounds input, round.Exact := by
  intro round hround
  obtain ⟨split, hsplit, hround⟩ := List.mem_flatMap.mp hround
  have hsum := SnapshotSlice.weights_lt ⟨input.sets, hfits⟩ fun set hset => (hweights set hset).2
  have hstart : Allocation.Headroom (min input.budgetKbps unlimitedKbps)
      (Allocation.start (min input.budgetKbps unlimitedKbps)) :=
    ⟨le_rfl, fun split hsplit => absurd hsplit List.not_mem_nil⟩
  exact ((Allocation.headroom_foldl hproduct hsum hstart).splits split hsplit).of_mem_rounds hround

/-- One set that takes whatever there is, of the largest weight. -/
def oneSet : SetSnapshot := ⟨1, 0, 0, 10, true, [(500, 7)]⟩

/-- The input of a decision without an estimate and a cap. -/
def unlimitedInput : AbrInput := ⟨0, 0, 0, [oneSet], fun _ => none, 0⟩

/-- Without an estimate and a cap, the largest weight overflows. -/
theorem unlimitedInput_not_exact : ¬ ∀ round ∈ decisionRounds unlimitedInput, round.Exact := by
  intro h
  have hlt := product_lt_of_exact h (List.mem_singleton_self oneSet) rfl (by decide)
  exact absurd hlt (by decide)

/-- For an estimate and a cap, no round overflows whatever the sets, exactly when ten times the
stricter of them is below `2^64`. For given sets it is enough that no active one brings its weight
times the budget there, and those of the first rank with an active set must not. -/
theorem decisionRounds_exact (input : AbrInput) :
    ((∀ slice : SnapshotSlice, (∀ set ∈ slice.sets, 1 ≤ set.weight ∧ set.weight ≤ 10) →
      ∀ round ∈ decisionRounds { input with sets := slice.sets }, round.Exact) ↔
        10 * input.budgetKbps < 2 ^ 64) ∧
    ∀ slice : SnapshotSlice, (∀ set ∈ slice.sets, 1 ≤ set.weight ∧ set.weight ≤ 10) →
      ((∀ set ∈ slice.sets, set.active = true →
          min input.budgetKbps unlimitedKbps * set.weight < 2 ^ 64) →
        ∀ round ∈ decisionRounds { input with sets := slice.sets }, round.Exact) ∧
      ((∀ round ∈ decisionRounds { input with sets := slice.sets }, round.Exact) →
        ∀ set ∈ slice.sets, set.active = true →
          (∀ other ∈ slice.sets, other.active = true → set.rank ≤ other.rank) →
          min input.budgetKbps unlimitedKbps * set.weight < 2 ^ 64) := by
  have hunlimited : 2 ^ 64 ≤ 10 * unlimitedKbps := by decide
  refine ⟨⟨fun h => ?_, fun hbudget slice hweights => ?_⟩, fun slice hweights => ⟨?_, ?_⟩⟩
  · have hone := h ⟨[oneSet], by decide⟩ (by decide)
    have hlt := product_lt_of_exact hone (List.mem_singleton_self oneSet) rfl (by simp)
    have hlt' : min input.budgetKbps unlimitedKbps * 10 < 2 ^ 64 := hlt
    omega
  · refine exact_of_product_lt slice.fits hweights fun set hset _ => ?_
    have hle : min input.budgetKbps unlimitedKbps * set.weight ≤ input.budgetKbps * 10 :=
      Nat.mul_le_mul (min_le_left ..) (hweights set hset).2
    show min input.budgetKbps unlimitedKbps * set.weight < 2 ^ 64
    omega
  · exact fun hproduct => exact_of_product_lt slice.fits hweights hproduct
  · exact fun h set hset hactive hfirst => product_lt_of_exact h hset hactive hfirst

end Moqtail.Ssts
