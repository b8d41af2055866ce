import Moqtail.Ssts.Allocation

/-! What the default allocation spends. A round never spends more than its pool, the sets that leave
take what they spent out of it, and what a rank leaves over is the pool of the next. -/
namespace Moqtail.Ssts

/-- What a selection draws for some sets. -/
def drawn (selection : SetSnapshot → Option (Nat × Nat)) (sets : List SetSnapshot) : Nat :=
  (sets.map fun set => thresholdOf (selection set)).sum

@[simp] theorem thresholdOf_none : thresholdOf none = 0 := rfl

@[simp] theorem thresholdOf_some (m : Nat × Nat) : thresholdOf (some m) = m.1 := rfl

@[simp] theorem drawn_nil (selection : SetSnapshot → Option (Nat × Nat)) : drawn selection [] = 0 := rfl

theorem drawn_congr {selection selection' : SetSnapshot → Option (Nat × Nat)}
    {sets : List SetSnapshot} (h : ∀ set ∈ sets, selection set = selection' set) :
    drawn selection sets = drawn selection' sets := by
  unfold drawn
  rw [List.map_congr_left fun set hset => congrArg thresholdOf (h set hset)]

theorem sum_map_partition (f : SetSnapshot → Nat) (p : SetSnapshot → Bool) (sets : List SetSnapshot) :
    ((sets.filter p).map f).sum + ((sets.filter fun set => ! p set).map f).sum = (sets.map f).sum := by
  rw [← List.sum_append, ← List.map_append]
  exact ((List.filter_append_perm p sets).map f).sum_eq

theorem drawn_partition (selection : SetSnapshot → Option (Nat × Nat)) (p : SetSnapshot → Bool)
    (sets : List SetSnapshot) :
    drawn selection (sets.filter p) + drawn selection (sets.filter fun set => ! p set) =
      drawn selection sets :=
  sum_map_partition _ p sets

theorem SetSnapshot.mem_of_memberWithin {set : SetSnapshot} {target : Nat} {m : Nat × Nat}
    (h : set.memberWithin target = some m) : m ∈ set.members ∧ m.1 ≤ target := by
  unfold SetSnapshot.memberWithin at h
  have hmem := List.mem_of_find?_eq_some h
  have hle := List.find?_some h
  exact ⟨List.mem_reverse.mp hmem, by simpa using hle⟩

theorem thresholdOf_memberWithin_le (set : SetSnapshot) (target : Nat) :
    thresholdOf (set.memberWithin target) ≤ target := by
  cases h : set.memberWithin target with
  | none => exact Nat.zero_le _
  | some m => exact (SetSnapshot.mem_of_memberWithin h).2

/-! The rounds within a rank. -/

namespace TierSplit

variable {s : TierSplit}

/-- The weights of the sets that contend, as a number. -/
def weights (s : TierSplit) : Nat := (s.contending.map (·.weight)).sum

theorem choose_selection_of_mem {set : SetSnapshot} (h : set ∈ s.contending) :
    s.choose.selection set = set.memberWithin (s.target set) := if_pos h

theorem choose_selection_of_not_mem {set : SetSnapshot} (h : set ∉ s.contending) :
    s.choose.selection set = s.selection set := if_neg h

@[simp] theorem contending_choose (s : TierSplit) : s.choose.contending = s.contending := rfl

@[simp] theorem tierPool_choose (s : TierSplit) : s.choose.tierPool = s.tierPool := rfl

@[simp] theorem selection_release (s : TierSplit) : s.release.selection = s.selection := rfl

theorem weights_le_totalWeight (h : s.weights < 2 ^ 64) : s.weights ≤ s.totalWeight := by
  unfold totalWeight
  rw [← weights, Nat.mod_eq_of_lt h]
  exact le_max_left _ _

theorem totalWeight_pos (s : TierSplit) : 0 < s.totalWeight := Nat.lt_of_lt_of_le Nat.zero_lt_one (le_max_right _ _)

theorem foldl_sub (selection : SetSnapshot → Option (Nat × Nat)) (sets : List SetSnapshot) :
    ∀ pool, sets.foldl (fun pool set => pool - thresholdOf (selection set)) pool =
      pool - drawn selection sets := by
  induction sets with
  | nil => exact fun pool => rfl
  | cons set sets ih =>
    intro pool
    rw [List.foldl_cons, ih, Nat.sub_sub]
    rfl

theorem tierPool_release (s : TierSplit) :
    s.release.tierPool = s.tierPool - drawn s.selection s.saturated := foldl_sub ..

/-- The shares of a round add up to its pool at most. -/
theorem drawn_choose_le (h : s.weights < 2 ^ 64) :
    drawn s.choose.selection s.contending ≤ s.tierPool := by
  have hpos := s.totalWeight_pos
  have hshare : ∀ set ∈ s.contending,
      thresholdOf (s.choose.selection set) * s.totalWeight ≤ s.tierPool * set.weight := by
    intro set hset
    have hle := thresholdOf_memberWithin_le set (s.target set)
    rw [choose_selection_of_mem hset]
    calc thresholdOf (set.memberWithin (s.target set)) * s.totalWeight
        ≤ s.target set * s.totalWeight := Nat.mul_le_mul_right _ hle
      _ ≤ saturatingMul s.tierPool set.weight := Nat.div_mul_le_self _ _
      _ ≤ s.tierPool * set.weight := Nat.min_le_left _ _
  have hsum : drawn s.choose.selection s.contending * s.totalWeight ≤ s.tierPool * s.weights := by
    unfold drawn weights
    rw [← List.sum_map_mul_right, ← List.sum_map_mul_left]
    exact List.sum_le_sum hshare
  refine Nat.le_of_mul_le_mul_right ?_ hpos
  exact hsum.trans (Nat.mul_le_mul_left _ (weights_le_totalWeight h))

theorem weights_release_le (s : TierSplit) : s.release.weights ≤ s.weights := by
  unfold weights
  rw [contending_release, ← sum_map_partition (·.weight) s.hasTop s.contending]
  exact Nat.le_add_left _ _

theorem settle_done (h : s.choose.saturated = []) : s.settle = s.choose := by
  rw [settle, if_pos h]

theorem settle_more (h : s.choose.saturated ≠ []) : s.settle = s.choose.release.settle := by
  rw [settle, if_neg h]

theorem settle_selection_of_not_mem {set : SetSnapshot} (h : set ∉ s.contending) :
    s.settle.selection set = s.selection set := by
  induction s using settle.induct with
  | case1 s hdone =>
    rw [settle_done hdone]
    exact choose_selection_of_not_mem h
  | case2 s hmore ih =>
    rw [settle_more hmore, ih, selection_release, choose_selection_of_not_mem h]
    rw [contending_release]
    exact fun hmem => h (List.mem_filter.mp hmem).1

theorem mem_of_settle {set : SetSnapshot} {m : Nat × Nat} (hset : set ∈ s.contending)
    (h : s.settle.selection set = some m) : m ∈ set.members := by
  induction s using settle.induct with
  | case1 s hdone =>
    rw [settle_done hdone, choose_selection_of_mem hset] at h
    exact (SetSnapshot.mem_of_memberWithin h).1
  | case2 s hmore ih =>
    rw [settle_more hmore] at h
    by_cases hstays : set ∈ s.choose.release.contending
    · exact ih hstays h
    · rw [settle_selection_of_not_mem hstays, selection_release, choose_selection_of_mem hset] at h
      exact (SetSnapshot.mem_of_memberWithin h).1

/-- However many rounds there are, the selected members draw the pool at most. -/
theorem drawn_settle_le (h : s.weights < 2 ^ 64) :
    drawn s.settle.selection s.contending ≤ s.tierPool := by
  induction s using settle.induct with
  | case1 s hdone =>
    rw [settle_done hdone]
    exact drawn_choose_le h
  | case2 s hmore ih =>
    rw [settle_more hmore]
    have hchoose := drawn_choose_le h
    have hrest := ih (Nat.lt_of_le_of_lt (weights_release_le s.choose) h)
    rw [contending_release, tierPool_release, tierPool_choose, contending_choose] at hrest
    -- the sets that leave keep what they selected in this round
    have hleave : drawn s.choose.release.settle.selection (s.contending.filter s.choose.hasTop) =
        drawn s.choose.selection s.choose.saturated := by
      refine drawn_congr fun set hset => settle_selection_of_not_mem ?_
      rw [contending_release, List.mem_filter, (List.mem_filter.mp hset).2]
      simp
    have hparts := drawn_partition s.choose.release.settle.selection s.choose.hasTop s.contending
    have hround := drawn_partition s.choose.selection s.choose.hasTop s.contending
    unfold saturated at hleave hrest
    rw [contending_choose] at hleave hrest
    omega

/-- Every round but the last takes a set out. -/
theorem length_rounds_le (s : TierSplit) : s.rounds.length ≤ s.contending.length + 1 := by
  induction s using rounds.induct with
  | case1 s hdone =>
    rw [rounds, if_pos hdone]
    simp
  | case2 s hmore ih =>
    rw [rounds, if_neg hmore, List.length_cons]
    have hlt := length_release_lt hmore
    rw [contending_choose] at hlt
    omega

end TierSplit

/-! From rank to rank. -/

namespace Allocation

variable {sets tier : List SetSnapshot} {selection : SetSnapshot → Option (Nat × Nat)} {rank : Nat}

theorem recordAll_remaining (a : Allocation) :
    (a.recordAll selection tier).remaining = a.remaining - drawn selection tier := by
  induction tier generalizing a with
  | nil => rfl
  | cons set tier ih =>
    rw [recordAll, List.foldl_cons, ← recordAll, ih]
    exact Nat.sub_sub ..

theorem recordAll_splits (a : Allocation) : (a.recordAll selection tier).splits = a.splits := by
  induction tier generalizing a with
  | nil => rfl
  | cons set tier ih => exact ih _

theorem recordAll_chosen_of_not_mem (a : Allocation) {id : Nat} (h : id ∉ tier.map (·.id)) :
    (a.recordAll selection tier).chosen id = a.chosen id := by
  induction tier generalizing a with
  | nil => rfl
  | cons set tier ih =>
    rw [List.map_cons, List.mem_cons, not_or] at h
    rw [recordAll, List.foldl_cons, ← recordAll, ih _ h.2]
    exact Function.update_of_ne h.1 _ _

theorem recordAll_chosen_of_mem (a : Allocation) (hids : (tier.map (·.id)).Nodup)
    {set : SetSnapshot} (hset : set ∈ tier) :
    (a.recordAll selection tier).chosen set.id = selection set := by
  induction tier generalizing a with
  | nil => exact absurd hset List.not_mem_nil
  | cons first tier ih =>
    rw [List.map_cons, List.nodup_cons] at hids
    rw [recordAll, List.foldl_cons, ← recordAll]
    rcases List.mem_cons.mp hset with rfl | hset
    · rw [recordAll_chosen_of_not_mem _ hids.1]
      exact Function.update_self ..
    · exact ih _ hids.2 hset

theorem mem_tierOf {set : SetSnapshot} :
    set ∈ tierOf sets rank ↔ set ∈ sets ∧ set.rank = rank ∧ set.active = true := by
  simp [tierOf]

theorem nodup_tierOf (hids : (sets.map (·.id)).Nodup) : ((tierOf sets rank).map (·.id)).Nodup :=
  hids.sublist (List.filter_sublist.map _)

/-- The split that a rank gets. -/
def splitOf (sets : List SetSnapshot) (a : Allocation) (rank : Nat) : TierSplit :=
  TierSplit.start (tierOf sets rank) a.remaining

@[simp] theorem contending_splitOf (a : Allocation) :
    (splitOf sets a rank).contending = tierOf sets rank := rfl

@[simp] theorem tierPool_splitOf (a : Allocation) : (splitOf sets a rank).tierPool = a.remaining := rfl

@[simp] theorem selection_splitOf (a : Allocation) (set : SetSnapshot) :
    (splitOf sets a rank).selection set = none := rfl

theorem serveRank_remaining (a : Allocation) :
    (serveRank sets a rank).remaining =
      a.remaining - drawn (splitOf sets a rank).settle.selection (tierOf sets rank) := by
  unfold serveRank
  split
  · next hempty => rw [hempty]; rfl
  · exact recordAll_remaining _

theorem serveRank_splits (a : Allocation) :
    (serveRank sets a rank).splits =
      if tierOf sets rank = [] then a.splits else a.splits ++ [splitOf sets a rank] := by
  unfold serveRank
  split
  · rfl
  · exact recordAll_splits _

theorem serveRank_chosen_of_mem (a : Allocation) (hids : (sets.map (·.id)).Nodup)
    {set : SetSnapshot} (hset : set ∈ tierOf sets rank) :
    (serveRank sets a rank).chosen set.id = (splitOf sets a rank).settle.selection set := by
  rw [serveRank, if_neg (List.ne_nil_of_mem hset)]
  exact recordAll_chosen_of_mem _ (nodup_tierOf hids) hset

theorem serveRank_chosen_of_not_mem (a : Allocation) {id : Nat}
    (h : id ∉ (tierOf sets rank).map (·.id)) : (serveRank sets a rank).chosen id = a.chosen id := by
  unfold serveRank
  split
  · rfl
  · exact recordAll_chosen_of_not_mem _ h

theorem id_not_mem_tierOf (hids : (sets.map (·.id)).Nodup) {set : SetSnapshot} (hset : set ∈ sets)
    (h : set ∉ tierOf sets rank) : set.id ∉ (tierOf sets rank).map (·.id) := by
  intro hid
  obtain ⟨other, hother, heq⟩ := List.mem_map.mp hid
  have hmem := (mem_tierOf.mp hother).1
  rw [List.inj_on_of_nodup_map hids hmem hset heq] at hother
  exact h hother

/-- The decisions are the tracks of the members behind them, or nothing. -/
def Consistent (sets : List SetSnapshot) (a : Allocation) : Prop :=
  ∀ id, (a.decisions id).getD none = (a.chosen id).map Prod.snd ∧
    (id ∉ sets.map (·.id) → a.decisions id = none)

theorem Consistent.record {a : Allocation} (h : Consistent sets a) {set : SetSnapshot}
    (hset : set ∈ sets) : Consistent sets (a.record selection set) := by
  intro id
  by_cases hid : id = set.id
  · subst hid
    simp only [Allocation.record, Function.update_self, Option.getD_some, true_and]
    exact fun hnot => absurd (List.mem_map_of_mem hset) hnot
  · simpa only [Allocation.record, Function.update_of_ne hid] using h id

theorem Consistent.recordAll {a : Allocation} (h : Consistent sets a) (htier : tier ⊆ sets) :
    Consistent sets (a.recordAll selection tier) := by
  induction tier generalizing a with
  | nil => exact h
  | cons set tier ih =>
    rw [List.cons_subset] at htier
    exact ih (h.record htier.1) htier.2

theorem Consistent.serveRank {a : Allocation} (h : Consistent sets a) :
    Consistent sets (serveRank sets a rank) := by
  unfold Allocation.serveRank
  split
  · exact h
  · exact Consistent.recordAll h (List.filter_subset_self _)

theorem consistent_afterRanks (budgetKbps : Nat) (sets : List SetSnapshot) :
    Consistent sets (afterRanks budgetKbps sets) := by
  have hrun : ∀ (served : List Nat) (a : Allocation), Consistent sets a →
      Consistent sets (served.foldl (Allocation.serveRank sets) a) := by
    intro served
    induction served with
    | nil => exact fun a h => h
    | cons rank served ih => exact fun a h => ih _ h.serveRank
  exact hrun _ _ fun id => ⟨rfl, fun _ => rfl⟩

end Allocation

/-- The member that a set gets. -/
def chosenMember (budgetKbps : Nat) (sets : List SetSnapshot) (set : SetSnapshot) :
    Option (Nat × Nat) := (Allocation.afterRanks budgetKbps sets).chosen set.id

theorem foldl_update_apply (sets : List SetSnapshot) (decisions : Selection) (id : Nat) :
    (sets.foldl (fun decisions set =>
        Function.update decisions set.id (some ((decisions set.id).getD none))) decisions :
          Selection) id =
      if id ∈ sets.map (·.id) then some ((decisions id).getD none) else decisions id := by
  induction sets generalizing decisions with
  | nil => simp
  | cons set sets ih =>
    rw [List.foldl_cons, ih]
    by_cases hid : id = set.id
    · simp [hid]
    · simp [hid]

/-- Each set is answered with the track of its member, and nothing else is. -/
theorem allocate_apply (budgetKbps : Nat) (sets : List SetSnapshot) (id : Nat) :
    allocate budgetKbps sets id =
      if id ∈ sets.map (·.id) then
        some (((Allocation.afterRanks budgetKbps sets).chosen id).map Prod.snd)
      else none := by
  have h := Allocation.consistent_afterRanks budgetKbps sets id
  rw [allocate, foldl_update_apply, h.1]
  split
  · rfl
  · next hid => exact h.2 hid

/-! What all ranks spend. -/

namespace Allocation

variable {budgetKbps rank : Nat} {sets : List SetSnapshot} {served : List Nat} {a : Allocation}

/-- Some ranks are served: the others and the inactive sets have no member, and the thresholds of
the selected members are what the budget lost. -/
structure Spent (budgetKbps : Nat) (sets : List SetSnapshot) (served : List Nat) (a : Allocation) :
    Prop where
  waiting : ∀ set ∈ sets, set.rank ∉ served → a.chosen set.id = none
  inactive : ∀ set ∈ sets, set.active = false → a.chosen set.id = none
  mem : ∀ set ∈ sets, ∀ m ∈ a.chosen set.id, m ∈ set.members
  balance : a.remaining + drawn (fun set => a.chosen set.id) sets = budgetKbps

theorem spent_start (budgetKbps : Nat) (sets : List SetSnapshot) :
    Spent budgetKbps sets [] (start budgetKbps) where
  waiting _ _ _ := rfl
  inactive _ _ _ := rfl
  mem _ _ _ h := absurd h (Option.not_mem_none _)
  balance := by simp [start, drawn]

theorem serveRank_chosen_of_rank_ne (hids : (sets.map (·.id)).Nodup) {set : SetSnapshot}
    (hset : set ∈ sets) (h : set.rank = rank → set.active = false) :
    (serveRank sets a rank).chosen set.id = a.chosen set.id := by
  apply serveRank_chosen_of_not_mem
  apply id_not_mem_tierOf hids hset
  intro hmem
  have htier := mem_tierOf.mp hmem
  simp [h htier.2.1] at htier

theorem Spent.serveRank (h : Spent budgetKbps sets served a) (hids : (sets.map (·.id)).Nodup)
    (hnew : rank ∉ served) (hweights : (splitOf sets a rank).weights < 2 ^ 64) :
    Spent budgetKbps sets (served ++ [rank]) (serveRank sets a rank) where
  waiting set hset hrank := by
    rw [List.mem_append, List.mem_singleton, not_or] at hrank
    rw [serveRank_chosen_of_rank_ne hids hset fun heq => absurd heq hrank.2]
    exact h.waiting set hset hrank.1
  inactive set hset hinactive := by
    rw [serveRank_chosen_of_rank_ne hids hset fun _ => hinactive]
    exact h.inactive set hset hinactive
  mem set hset m hm := by
    by_cases htier : set ∈ tierOf sets rank
    · rw [serveRank_chosen_of_mem a hids htier] at hm
      exact TierSplit.mem_of_settle htier hm
    · rw [serveRank_chosen_of_not_mem a (id_not_mem_tierOf hids hset htier)] at hm
      exact h.mem set hset m hm
  balance := by
    have hspent := TierSplit.drawn_settle_le hweights
    rw [contending_splitOf, tierPool_splitOf] at hspent
    have hbefore := drawn_partition (fun set => a.chosen set.id)
      (fun set => set.rank = rank && set.active) sets
    have hafter := drawn_partition (fun set => (Allocation.serveRank sets a rank).chosen set.id)
      (fun set => set.rank = rank && set.active) sets
    rw [← tierOf] at hbefore hafter
    -- the sets of this rank had no member before, and the others keep theirs
    have hwaited : drawn (fun set => a.chosen set.id) (tierOf sets rank) = 0 := by
      rw [drawn, List.sum_eq_zero]
      simp only [List.mem_map]
      rintro threshold ⟨set, hset, rfl⟩
      obtain ⟨hmem, hrank, _⟩ := mem_tierOf.mp hset
      rw [h.waiting set hmem (hrank ▸ hnew), thresholdOf_none]
    have htier : drawn (fun set => (Allocation.serveRank sets a rank).chosen set.id)
        (tierOf sets rank) = drawn (splitOf sets a rank).settle.selection (tierOf sets rank) :=
      drawn_congr fun set hset => serveRank_chosen_of_mem a hids hset
    have hothers : drawn (fun set => (Allocation.serveRank sets a rank).chosen set.id)
        (sets.filter fun set => ! (set.rank = rank && set.active)) =
        drawn (fun set => a.chosen set.id)
          (sets.filter fun set => ! (set.rank = rank && set.active)) := by
      refine drawn_congr fun set hset => ?_
      apply serveRank_chosen_of_rank_ne hids (List.mem_filter.mp hset).1
      simpa [imp_iff_not_or] using (List.mem_filter.mp hset).2
    have hbalance := h.balance
    rw [serveRank_remaining]
    omega

/-- However many ranks there are, the budget covers what they take. -/
theorem spent_foldl (hids : (sets.map (·.id)).Nodup)
    (hweights : ∀ (a : Allocation) rank, (splitOf sets a rank).weights < 2 ^ 64)
    (hnodup : served.Nodup) :
    Spent budgetKbps sets served (served.foldl (Allocation.serveRank sets) (start budgetKbps)) := by
  induction served using List.reverseRecOn with
  | nil => exact spent_start budgetKbps sets
  | append_singleton served rank ih =>
    rw [List.nodup_append] at hnodup
    rw [List.foldl_append]
    apply (ih hnodup.1).serveRank hids
    · exact fun hmem => hnodup.2.2 rank hmem rank (List.mem_singleton_self rank) rfl
    · exact hweights _ rank

theorem nodup_ranks (sets : List SetSnapshot) : (ranks sets).Nodup := List.nodup_dedup _

theorem spent_afterRanks (hids : (sets.map (·.id)).Nodup)
    (hweights : ∀ (a : Allocation) rank, (splitOf sets a rank).weights < 2 ^ 64) :
    Spent budgetKbps sets (ranks sets) (afterRanks budgetKbps sets) :=
  spent_foldl hids hweights (nodup_ranks sets)

end Allocation

/-- No slice has enough sets for the sum of their weights to wrap. -/
theorem SnapshotSlice.weights_lt (slice : SnapshotSlice)
    (hweights : ∀ set ∈ slice.sets, set.weight ≤ 10) (a : Allocation) (rank : Nat) :
    (Allocation.splitOf slice.sets a rank).weights < 2 ^ 64 := by
  have hfits := slice.fits
  have hlength : (Allocation.tierOf slice.sets rank).length ≤ slice.sets.length :=
    List.length_filter_le ..
  have hsum : ((Allocation.tierOf slice.sets rank).map (·.weight)).sum ≤
      (Allocation.tierOf slice.sets rank).length * 10 := by
    apply List.sum_le_card_nsmul _ 10 ?_ |>.trans
    · simp
    · simpa using fun set hset => hweights set (Allocation.mem_tierOf.mp hset).1
  show ((Allocation.tierOf slice.sets rank).map (·.weight)).sum < 2 ^ 64
  omega

/-- A selection and the members behind it: each set is answered with one of its own members or
nothing, an inactive set with nothing, and the budget covers the thresholds. -/
structure Selection.Sound (selection : Selection) (budgetKbps : Nat) (sets : List SetSnapshot)
    (member : SetSnapshot → Option (Nat × Nat)) : Prop where
  answers : ∀ set ∈ sets, selection set.id = some ((member set).map Prod.snd)
  mem : ∀ set ∈ sets, ∀ m ∈ member set, m ∈ set.members
  inactive : ∀ set ∈ sets, set.active = false → member set = none
  within : (sets.map fun set => thresholdOf (member set)).sum ≤ budgetKbps

/-- The default allocation is sound, and no rank takes more rounds than it has active sets, plus
one. -/
theorem allocate_sound (budgetKbps : Nat) (slice : SnapshotSlice)
    (hids : (slice.sets.map (·.id)).Nodup)
    (hweights : ∀ set ∈ slice.sets, 1 ≤ set.weight ∧ set.weight ≤ 10) :
    (allocate budgetKbps slice.sets).Sound budgetKbps slice.sets
        (chosenMember budgetKbps slice.sets) ∧
      ∀ split ∈ (Allocation.afterRanks budgetKbps slice.sets).splits,
        split.rounds.length ≤ split.contending.length + 1 := by
  have hspent : Allocation.Spent budgetKbps slice.sets _ _ := Allocation.spent_afterRanks hids
    (slice.weights_lt fun set hset => (hweights set hset).2)
  refine ⟨⟨?_, hspent.mem, hspent.inactive, ?_⟩, fun split _ => split.length_rounds_le⟩
  · intro set hset
    rw [allocate_apply, if_pos (List.mem_map_of_mem hset)]
    rfl
  · have hbalance := hspent.balance
    show drawn (chosenMember budgetKbps slice.sets) slice.sets ≤ budgetKbps
    unfold chosenMember
    omega

/-- Two sets share the first rank, one has no subscriber, and one comes after them. -/
def fourSets : SnapshotSlice where
  sets :=
    [⟨1, 0, 0, 3, true, [(500, 10), (2000, 11)]⟩, ⟨2, 0, 0, 1, true, [(300, 20), (700, 21)]⟩,
      ⟨3, 0, 0, 10, false, [(400, 30)]⟩, ⟨4, 0, 1, 2, true, [(250, 40), (900, 41)]⟩]
  fits := by decide

theorem allocate_sound_fourSets :
    (allocate 3000 fourSets.sets).Sound 3000 fourSets.sets (chosenMember 3000 fourSets.sets) ∧
      ∀ split ∈ (Allocation.afterRanks 3000 fourSets.sets).splits,
        split.rounds.length ≤ split.contending.length + 1 :=
  allocate_sound 3000 fourSets (by decide) (by decide)

end Moqtail.Ssts
