import Moqtail.Ssts.AllocationBudget

/-! What the default allocation depends on. What a set gets is settled once its rank is served, and
neither the order of the sets nor those of later ranks change it. -/
namespace Moqtail.Ssts

variable {sets sets' : List SetSnapshot} {selection : SetSnapshot → Option (Nat × Nat)}

theorem drawn_perm (h : sets.Perm sets') : drawn selection sets = drawn selection sets' :=
  (h.map _).sum_eq

/-! Within a rank. -/

namespace TierSplit

/-- Two splits that differ in the order of their sets. -/
structure Reordered (s s' : TierSplit) : Prop where
  selection : s.selection = s'.selection
  contending : s.contending.Perm s'.contending
  tierPool : s.tierPool = s'.tierPool

namespace Reordered

variable {s s' : TierSplit}

theorem target (h : Reordered s s') : s.target = s'.target := by
  have hweight : s.totalWeight = s'.totalWeight := by
    unfold totalWeight
    rw [(h.contending.map _).sum_eq]
  funext set
  rw [TierSplit.target, TierSplit.target, h.tierPool, hweight]

theorem choose (h : Reordered s s') : Reordered s.choose s'.choose where
  selection := by
    funext set
    simp only [TierSplit.choose, h.contending.mem_iff, h.target, h.selection]
  contending := h.contending
  tierPool := h.tierPool

theorem hasTop (h : Reordered s s') : s.hasTop = s'.hasTop := by
  funext set
  rw [TierSplit.hasTop, TierSplit.hasTop, h.selection]

theorem saturated (h : Reordered s s') : s.saturated.Perm s'.saturated := by
  rw [TierSplit.saturated, TierSplit.saturated, h.hasTop]
  exact h.contending.filter _

theorem release (h : Reordered s s') : Reordered s.release s'.release where
  selection := h.selection
  contending := by
    rw [contending_release, contending_release, h.hasTop]
    exact h.contending.filter _
  tierPool := by
    rw [tierPool_release, tierPool_release, h.tierPool, h.selection, drawn_perm h.saturated]

theorem settle (h : Reordered s s') : s.settle.selection = s'.settle.selection := by
  induction s using settle.induct generalizing s' with
  | case1 s hdone =>
    have hdone' : s'.choose.saturated = [] := (hdone ▸ h.choose.saturated).nil_eq.symm
    rw [settle_done hdone, settle_done hdone']
    exact h.choose.selection
  | case2 s hmore ih =>
    have hmore' : s'.choose.saturated ≠ [] := by
      intro hdone'
      exact hmore (hdone' ▸ h.choose.saturated).eq_nil
    rw [settle_more hmore, settle_more hmore']
    exact ih h.choose.release

end Reordered

end TierSplit

/-! Over the ranks. -/

namespace Allocation

variable {budgetKbps rank : Nat} {a a' : Allocation}

theorem mem_ranks {sets : List SetSnapshot} : rank ∈ ranks sets ↔ ∃ set ∈ sets, set.rank = rank := by
  simp [ranks]

theorem sortedLT_ranks (sets : List SetSnapshot) : (ranks sets).SortedLT := by
  have hsorted : ((sets.map (·.rank)).insertionSort (· ≤ ·)).Pairwise (· ≤ ·) :=
    List.sortedLE_insertionSort.pairwise
  rw [List.sortedLT_iff_pairwise]
  have hle := hsorted.sublist (List.dedup_sublist _)
  exact hle.imp₂ (fun _ _ hle hne => Nat.lt_of_le_of_ne hle hne) (nodup_ranks sets)

/-- Two outcomes that give each set the same member and leave the same over. -/
structure SameOutcome (a a' : Allocation) : Prop where
  remaining : a.remaining = a'.remaining
  chosen : a.chosen = a'.chosen

theorem SameOutcome.serveRank (h : SameOutcome a a') (hids : (sets.map (·.id)).Nodup)
    (hids' : (sets'.map (·.id)).Nodup) (htier : (tierOf sets rank).Perm (tierOf sets' rank)) :
    SameOutcome (serveRank sets a rank) (serveRank sets' a' rank) := by
  have hsplit : TierSplit.Reordered (splitOf sets a rank) (splitOf sets' a' rank) :=
    ⟨rfl, htier, h.remaining⟩
  constructor
  · rw [serveRank_remaining, serveRank_remaining, h.remaining, hsplit.settle, drawn_perm htier]
  · funext id
    by_cases hid : id ∈ (tierOf sets rank).map (·.id)
    · obtain ⟨set, hset, rfl⟩ := List.mem_map.mp hid
      rw [serveRank_chosen_of_mem a hids hset, hsplit.settle,
        serveRank_chosen_of_mem a' hids' (htier.mem_iff.mp hset)]
    · have hid' : id ∉ (tierOf sets' rank).map (·.id) := fun hmem =>
        hid ((htier.map _).mem_iff.mpr hmem)
      rw [serveRank_chosen_of_not_mem a hid, serveRank_chosen_of_not_mem a' hid', h.chosen]

theorem sameOutcome_foldl {served : List Nat} (hids : (sets.map (·.id)).Nodup)
    (hids' : (sets'.map (·.id)).Nodup)
    (htiers : ∀ rank ∈ served, (tierOf sets rank).Perm (tierOf sets' rank))
    (h : SameOutcome a a') :
    SameOutcome (served.foldl (serveRank sets) a) (served.foldl (serveRank sets') a') := by
  induction served generalizing a a' with
  | nil => exact h
  | cons rank served ih =>
    rw [List.forall_mem_cons] at htiers
    exact ih htiers.2 (h.serveRank hids hids' htiers.1)

/-- The allocation when all ranks below `rank` are served. -/
def before (budgetKbps : Nat) (sets : List SetSnapshot) (rank : Nat) : Allocation :=
  ((ranks sets).filter (· < rank)).foldl (serveRank sets) (start budgetKbps)

theorem chosen_foldl {served : List Nat} (hids : (sets.map (·.id)).Nodup) {set : SetSnapshot}
    (hset : set ∈ sets) (h : set.rank ∈ served → set.active = false) :
    (served.foldl (serveRank sets) a).chosen set.id = a.chosen set.id := by
  induction served generalizing a with
  | nil => rfl
  | cons rank served ih =>
    rw [List.foldl_cons, ih fun hmem => h (List.mem_cons_of_mem _ hmem)]
    exact serveRank_chosen_of_rank_ne hids hset fun heq => h (heq ▸ List.mem_cons_self)

theorem chosenMember_inactive (hids : (sets.map (·.id)).Nodup) {set : SetSnapshot}
    (hset : set ∈ sets) (h : set.active = false) : chosenMember budgetKbps sets set = none :=
  chosen_foldl hids hset fun _ => h

/-- A sorted list falls apart at each of its elements. -/
theorem filter_lt_append {l : List Nat} (hsorted : l.SortedLT) (hmem : rank ∈ l) :
    l.filter (· < rank) ++ rank :: l.filter (rank < ·) = l := by
  induction l with
  | nil => exact absurd hmem List.not_mem_nil
  | cons x l ih =>
    have hpair := List.pairwise_cons.mp hsorted.pairwise
    rcases List.mem_cons.mp hmem with rfl | hmem
    · have hbelow : l.filter (· < rank) = [] :=
        List.filter_eq_nil_iff.mpr fun y hy => by simpa using (hpair.1 y hy).le
      have habove : l.filter (rank < ·) = l :=
        List.filter_eq_self.mpr fun y hy => by simpa using hpair.1 y hy
      simp [hbelow, habove]
    · have hlt := hpair.1 rank hmem
      rw [List.filter_cons_of_pos (by simpa using hlt), List.filter_cons_of_neg (by simpa using hlt.le),
        List.cons_append, ih hpair.2.sortedLT hmem]

/-- What an active set gets is what the split of its rank settles on. -/
theorem chosenMember_eq (hids : (sets.map (·.id)).Nodup) {set : SetSnapshot} (hset : set ∈ sets)
    (hactive : set.active = true) :
    chosenMember budgetKbps sets set =
      (splitOf sets (before budgetKbps sets set.rank) set.rank).settle.selection set := by
  have hsplit := filter_lt_append (sortedLT_ranks sets) (mem_ranks.mpr ⟨set, hset, rfl⟩)
  unfold chosenMember afterRanks
  rw [← hsplit, List.foldl_append, List.foldl_cons, chosen_foldl hids hset]
  · exact serveRank_chosen_of_mem _ hids (mem_tierOf.mpr ⟨hset, rfl, hactive⟩)
  · intro hmem
    simp at hmem

end Allocation

/-- What the sets of the first ranks get depends on them alone. -/
theorem chosenMember_congr (budgetKbps : Nat) {rank : Nat} (hids : (sets.map (·.id)).Nodup)
    (hids' : (sets'.map (·.id)).Nodup)
    (h : ∀ set : SetSnapshot, set.rank ≤ rank → (set ∈ sets ↔ set ∈ sets')) {set : SetSnapshot}
    (hset : set ∈ sets) (hrank : set.rank ≤ rank) :
    chosenMember budgetKbps sets set = chosenMember budgetKbps sets' set := by
  have hset' := (h set hrank).mp hset
  cases hactive : set.active with
  | false =>
    rw [Allocation.chosenMember_inactive hids hset hactive,
      Allocation.chosenMember_inactive hids' hset' hactive]
  | true =>
    have htiers : ∀ r ≤ rank, (Allocation.tierOf sets r).Perm (Allocation.tierOf sets' r) := by
      intro r hr
      rw [List.perm_ext_iff_of_nodup (Allocation.nodup_tierOf hids).of_map
        (Allocation.nodup_tierOf hids').of_map]
      intro other
      rw [Allocation.mem_tierOf, Allocation.mem_tierOf]
      exact and_congr_left fun hother => h other (hother.1 ▸ hr)
    -- the ranks before that of `set` are the same ones
    have hranks : (Allocation.ranks sets).filter (· < set.rank) =
        (Allocation.ranks sets').filter (· < set.rank) := by
      have hperm : ((Allocation.ranks sets).filter (· < set.rank)).Perm
          ((Allocation.ranks sets').filter (· < set.rank)) := by
        rw [List.perm_ext_iff_of_nodup ((Allocation.nodup_ranks sets).filter _)
          ((Allocation.nodup_ranks sets').filter _)]
        intro r
        simp only [List.mem_filter, Allocation.mem_ranks, decide_eq_true_eq]
        refine and_congr_left fun hr => exists_congr fun other => and_congr_left fun hother => ?_
        exact h other (by omega)
      exact hperm.eq_of_sortedLE ((Allocation.sortedLT_ranks sets).pairwise.filter _).sortedLT.sortedLE
        ((Allocation.sortedLT_ranks sets').pairwise.filter _).sortedLT.sortedLE
    have hbefore : Allocation.SameOutcome (Allocation.before budgetKbps sets set.rank)
        (Allocation.before budgetKbps sets' set.rank) := by
      unfold Allocation.before
      rw [hranks]
      apply Allocation.sameOutcome_foldl hids hids' _ ⟨rfl, rfl⟩
      intro r hr
      have hlt := (List.mem_filter.mp hr).2
      exact htiers r (by simp at hlt; omega)
    rw [Allocation.chosenMember_eq hids hset hactive, Allocation.chosenMember_eq hids' hset' hactive]
    have hsplit : TierSplit.Reordered
        (Allocation.splitOf sets (Allocation.before budgetKbps sets set.rank) set.rank)
        (Allocation.splitOf sets' (Allocation.before budgetKbps sets' set.rank) set.rank) :=
      ⟨rfl, htiers set.rank hrank, hbefore.remaining⟩
    rw [hsplit.settle]

theorem allocate_of_mem (budgetKbps : Nat) {set : SetSnapshot} (hset : set ∈ sets) :
    allocate budgetKbps sets set.id = some ((chosenMember budgetKbps sets set).map Prod.snd) := by
  rw [allocate_apply, if_pos (List.mem_map_of_mem hset)]
  rfl

/-- Later ranks have no influence, and the order of the sets changes no selection. -/
theorem allocate_independent (budgetKbps : Nat) (sets sets' : List SetSnapshot)
    (hids : (sets.map (·.id)).Nodup) (hids' : (sets'.map (·.id)).Nodup) :
    (∀ rank, (∀ set : SetSnapshot, set.rank ≤ rank → (set ∈ sets ↔ set ∈ sets')) →
      ∀ set ∈ sets, set.rank ≤ rank →
        allocate budgetKbps sets set.id = allocate budgetKbps sets' set.id) ∧
      (sets.Perm sets' → allocate budgetKbps sets = allocate budgetKbps sets') := by
  constructor
  · intro rank h set hset hrank
    rw [allocate_of_mem budgetKbps hset, allocate_of_mem budgetKbps ((h set hrank).mp hset),
      chosenMember_congr budgetKbps hids hids' h hset hrank]
  · intro hperm
    funext id
    by_cases hid : id ∈ sets.map (·.id)
    · obtain ⟨set, hset, rfl⟩ := List.mem_map.mp hid
      rw [allocate_of_mem budgetKbps hset, allocate_of_mem budgetKbps (hperm.mem_iff.mp hset),
        chosenMember_congr budgetKbps hids hids' (fun _ _ => hperm.mem_iff) hset le_rfl]
    · have hid' : id ∉ sets'.map (·.id) := fun hmem => hid ((hperm.map _).mem_iff.mpr hmem)
      rw [allocate_apply, allocate_apply, if_neg hid, if_neg hid']

theorem allocate_independent_fourSets :
    (∀ set ∈ fourSets.sets, set.rank ≤ 0 →
      allocate 3000 fourSets.sets set.id = allocate 3000 (fourSets.sets.take 3) set.id) ∧
      allocate 3000 fourSets.sets = allocate 3000 fourSets.sets.reverse := by
  constructor
  · apply (allocate_independent 3000 fourSets.sets (fourSets.sets.take 3) (by decide)
      (by decide)).1 0
    intro set hrank
    simp only [fourSets, List.take, List.mem_cons, List.not_mem_nil, or_false]
    refine or_congr_right (or_congr_right (or_iff_left fun hset => ?_))
    simp [hset] at hrank
  · exact (allocate_independent 3000 fourSets.sets fourSets.sets.reverse (by decide)
      (by decide)).2 (List.reverse_perm _).symm

end Moqtail.Ssts
