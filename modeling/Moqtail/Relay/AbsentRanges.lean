import Moqtail.Lib.Ranges
import Moqtail.Relay.FetchAbsences

/-! How the absent ranges of a track are kept, from `server/track_cache.rs`.

The map from starts to ends is the list of its entries in the order of their starts. A range that
is recorded takes the place of those it overlaps or touches, and past `maxAbsentRanges` the first
ones are forgotten. -/
namespace Moqtail

open Lib Order

namespace Location

instance : LinearOrder Location where
  le_refl _ := le_iff_key.mpr le_rfl
  le_trans _ _ _ h h' := le_iff_key.mpr ((le_iff_key.mp h).trans (le_iff_key.mp h'))
  lt_iff_le_not_ge _ _ := by
    rw [lt_iff_key, le_iff_key, le_iff_key]
    omega
  le_antisymm _ _ h h' := key_inj.mp ((le_iff_key.mp h).antisymm (le_iff_key.mp h'))
  le_total a b := by
    rw [le_iff_key, le_iff_key]
    exact Nat.le_total a.key b.key
  toDecidableLE := inferInstance

/-- The Location after `l`, and the last Location where there is none. -/
instance : SuccOrder Location :=
  SuccOrder.ofCore (fun l => l.next.getD l)
    (by
      intro l hl b
      have hnext := next_key l
      cases h : l.next with
      | some n =>
        rw [h] at hnext
        rw [lt_iff_key, Option.getD_some, le_iff_key, hnext]
        exact Nat.lt_iff_add_one_le
      | none =>
        rw [h] at hnext
        refine absurd ?_ hl
        intro b _
        have hb := b.key_lt
        rw [le_iff_key]
        omega)
    (by
      intro l hl
      have hnext := next_key l
      cases h : l.next with
      | some n =>
        rw [h] at hnext
        have hle : l ≤ n := le_iff_key.mpr (by omega)
        have hge := le_iff_key.mp (hl hle)
        omega
      | none => rfl)

theorem succ_eq (l : Location) : succ l = l.next.getD l := rfl

theorem exists_next_of_succ_lt {l l' : Location} (h : succ l < l') :
    ∃ n, l.next = some n ∧ n < l' := by
  cases hnext : l.next with
  | some n =>
    rw [succ_eq, hnext] at h
    exact ⟨n, rfl, h⟩
  | none =>
    have hlast := next_key l
    have hkey := l'.key_lt
    rw [hnext] at hlast
    rw [succ_eq, hnext, Option.getD_none, lt_iff_key] at h
    omega

end Location

namespace AbsentRanges

def maxAbsentRanges : Nat := 65536

/-- The ranges that overlap the one from `from_` to `to_` or touch it, the last one first. -/
def touching (a : AbsentRanges) (from_ to_ : Location) : List (Location × Location) :=
  let limit := to_.next.getD to_
  (a.ranges.filter fun r => r.1 ≤ limit).reverse.takeWhile fun r =>
    match r.2.next with
    | some next => decide (from_ ≤ next)
    | none => true

/-- The loop that takes the touching ranges out of the map and makes up the range for them. -/
def absorbing (ranges : List (Location × Location)) (from_ to_ : Location) :
    List (Location × Location) → (Location × Location) × List (Location × Location)
  | [] => ((from_, to_), ranges)
  | (start, end_) :: rest =>
    absorbing (ranges.filter fun r => r.1 ≠ start) (Location.min from_ start)
      (Location.max to_ end_) rest

/-- `BTreeMap::insert`. -/
def put (ranges : List (Location × Location)) (r : Location × Location) :
    List (Location × Location) :=
  (ranges.filter fun s => s.1 < r.1) ++ r :: ranges.filter fun s => r.1 < s.1

/-- The ranges before any is forgotten. -/
def merged (a : AbsentRanges) (from_ to_ : Location) : List (Location × Location) :=
  let (r, ranges) := absorbing a.ranges from_ to_ (a.touching from_ to_)
  put ranges r

def insert (a : AbsentRanges) (from_ to_ : Location) : AbsentRanges :=
  let ranges := a.merged from_ to_
  ⟨ranges.drop (ranges.length - maxAbsentRanges)⟩

def insertAll (calls : List (Location × Location)) : AbsentRanges :=
  calls.foldl (fun a call => a.insert call.1 call.2) ⟨[]⟩

theorem insertAll_concat (calls : List (Location × Location)) (call : Location × Location) :
    insertAll (calls ++ [call]) = (insertAll calls).insert call.1 call.2 := by
  simp [insertAll]

theorem absorbing_eq (ts : List (Location × Location)) :
    ∀ (ranges : List (Location × Location)) (r : Location × Location),
      absorbing ranges r.1 r.2 ts =
        (Ranges.absorb r ts, ranges.filter fun s => ∀ t ∈ ts, s.1 ≠ t.1) := by
  induction ts with
  | nil => simp [absorbing, Ranges.absorb]
  | cons t ts ih =>
    intro ranges r
    show absorbing _ (Ranges.hull r t).1 (Ranges.hull r t).2 ts = _
    rw [ih, List.filter_filter]
    refine Prod.ext rfl (List.filter_congr fun s _ => ?_)
    rw [← Bool.decide_and, decide_eq_decide, List.forall_mem_cons]
    exact and_comm

section Separated

variable {a : AbsentRanges} {from_ to_ : Location}

theorem touching_eq (h : Ranges.Separated a.ranges) :
    a.touching from_ to_ =
      (a.ranges.filter fun s => Ranges.Touches (from_, to_) s).reverse := by
  have hscan : (fun r : Location × Location =>
      match r.2.next with
      | some next => decide (from_ ≤ next)
      | none => true) = fun r => decide (from_ ≤ succ r.2) := by
    funext r
    rw [Location.succ_eq]
    cases hnext : r.2.next with
    | some next => rfl
    | none =>
      have hlast := Location.next_key r.2
      have hkey := from_.key_lt
      rw [hnext] at hlast
      have hle : from_ ≤ r.2 := Location.le_iff_key.mpr (by omega)
      exact (decide_eq_true hle).symm
  show ((a.ranges.filter fun r => r.1 ≤ succ to_).reverse.takeWhile _) = _
  rw [hscan, takeWhile_reverse]
  · congr 1
    rw [List.filter_filter]
    apply List.filter_congr
    intro s _
    rw [← Bool.decide_and]
    rfl
  · refine (h.sublist List.filter_sublist).ends.imp ?_
    intro r s hend hle
    rw [decide_eq_true_eq] at hle ⊢
    exact hle.trans hend

theorem merged_eq (h : Ranges.Separated a.ranges) (hle : from_ ≤ to_) :
    a.merged from_ to_ = Ranges.insert a.ranges (from_, to_) := by
  have hmem : ∀ t, t ∈ a.touching from_ to_ ↔ t ∈ a.ranges ∧ Ranges.Touches (from_, to_) t := by
    intro t
    rw [touching_eq h, List.mem_reverse, List.mem_filter, decide_eq_true_eq]
  have hleft : ∀ s ∈ a.ranges, (∀ t ∈ a.touching from_ to_, s.1 ≠ t.1) ↔
      succ s.2 < from_ ∨ succ to_ < s.1 := by
    intro s hs
    rw [← Ranges.not_touches_iff (r := (from_, to_))]
    constructor
    · intro hne htouch
      exact hne s ((hmem s).mpr ⟨hs, htouch⟩) rfl
    · intro hnot t ht heq
      obtain ⟨ht, htouch⟩ := (hmem t).mp ht
      rw [h.eq_of_start hs ht heq] at hnot
      exact hnot htouch
  unfold merged
  rw [absorbing_eq _ _ (from_, to_)]
  show put (a.ranges.filter _) (Ranges.absorb (from_, to_) (a.touching from_ to_)) = _
  unfold put Ranges.insert
  rw [List.filter_filter, List.filter_filter, touching_eq h]
  set r := Ranges.absorb (from_, to_)
    (a.ranges.filter fun s => Ranges.Touches (from_, to_) s).reverse with hr
  have hstart : r.1 ≤ from_ := not_lt.mp fun hlt => ((Ranges.lt_absorb_iff _ _).mp hlt).1.false
  congr 1
  · apply List.filter_congr
    intro s hs
    rw [← Bool.decide_and, decide_eq_decide, ← touching_eq h, hleft s hs]
    constructor
    · rintro ⟨hlt, hbefore | hafter⟩
      · exact hbefore
      · exact absurd (hle.trans (le_succ to_)) (hafter.trans (hlt.trans_le hstart)).not_ge
    · intro hbefore
      have hlt := Ranges.lt_absorb_touching h hs hbefore (r := (from_, to_))
      exact ⟨((h.ordered s hs).trans (le_succ _)).trans_lt hlt, Or.inl hbefore⟩
  · congr 1
    apply List.filter_congr
    intro s hs
    rw [← Bool.decide_and, decide_eq_decide, ← touching_eq h, hleft s hs]
    constructor
    · rintro ⟨hlt, hbefore | hafter⟩
      · have hbelow := Ranges.lt_absorb_touching h hs hbefore (r := (from_, to_))
        have hle' := (h.ordered s hs).trans (le_succ s.2)
        exact absurd hlt (hle'.trans_lt hbelow).not_gt
      · exact hafter
    · intro hafter
      refine ⟨?_, Or.inr hafter⟩
      exact hstart.trans_lt (hle.trans_lt ((le_succ to_).trans_lt hafter))

theorem endContaining_eq (a : AbsentRanges) (l : Location) :
    a.endContaining l = Ranges.endOf a.ranges l := by
  unfold endContaining Ranges.endOf
  cases (a.ranges.filter fun r => r.1 ≤ l).getLast? with
  | none => rfl
  | some r => rfl

theorem holds_iff {a : AbsentRanges} {l : Location} : a.Holds l ↔ l ∈ Ranges.union a.ranges :=
  Iff.rfl

theorem insert_sublist (a : AbsentRanges) (from_ to_ : Location) :
    (a.insert from_ to_).ranges.Sublist (a.merged from_ to_) := by
  simp only [insert]
  exact List.drop_sublist _ _

theorem separated_insert (h : Ranges.Separated a.ranges) (hle : from_ ≤ to_) :
    Ranges.Separated (a.insert from_ to_).ranges := by
  have hmerged : Ranges.Separated (a.merged from_ to_) := by
    rw [merged_eq h hle]
    exact h.insert hle
  exact hmerged.sublist (a.insert_sublist from_ to_)

theorem holds_merged (h : Ranges.Separated a.ranges) (hle : from_ ≤ to_) {l : Location} :
    l ∈ Ranges.union (a.merged from_ to_) ↔ a.Holds l ∨ (from_ ≤ l ∧ l ≤ to_) := by
  rw [merged_eq h hle, Ranges.union_insert]
  rfl

theorem holds_of_insert (h : Ranges.Separated a.ranges) (hle : from_ ≤ to_) {l : Location}
    (hl : (a.insert from_ to_).Holds l) : a.Holds l ∨ (from_ ≤ l ∧ l ≤ to_) :=
  (holds_merged h hle).mp (Ranges.union_mono (a.insert_sublist from_ to_).subset hl)

/-- Nothing is forgotten as long as there is room. -/
theorem holds_insert_iff (h : Ranges.Separated a.ranges) (hle : from_ ≤ to_)
    (hroom : (a.merged from_ to_).length ≤ maxAbsentRanges) {l : Location} :
    (a.insert from_ to_).Holds l ↔ a.Holds l ∨ (from_ ≤ l ∧ l ≤ to_) := by
  have hkept : (a.insert from_ to_).ranges = a.merged from_ to_ := by
    simp only [insert]
    rw [Nat.sub_eq_zero_of_le hroom, List.drop_zero]
  rw [holds_iff, hkept, holds_merged h hle]

end Separated

section Calls

variable {calls : List (Location × Location)}

theorem separated_insertAll (h : ∀ call ∈ calls, call.1 ≤ call.2) :
    Ranges.Separated (insertAll calls).ranges := by
  induction calls using List.reverseRecOn with
  | nil => exact Ranges.Separated.nil
  | append_singleton calls call ih =>
    rw [insertAll_concat]
    apply separated_insert
    · exact ih fun c hc => h c (List.mem_append_left _ hc)
    · exact h call (by simp)

theorem holds_of_insertAll (h : ∀ call ∈ calls, call.1 ≤ call.2) {l : Location}
    (hl : (insertAll calls).Holds l) : l ∈ Ranges.union calls := by
  induction calls using List.reverseRecOn with
  | nil =>
    obtain ⟨r, hr, -⟩ := hl
    cases hr
  | append_singleton calls call ih =>
    have hfront : ∀ c ∈ calls, c.1 ≤ c.2 := fun c hc => h c (List.mem_append_left _ hc)
    rw [insertAll_concat] at hl
    rw [Ranges.union_append]
    rcases holds_of_insert (separated_insertAll hfront) (h call (by simp)) hl with hl | hl
    · exact Or.inl (ih hfront hl)
    · exact Or.inr ⟨call, List.mem_singleton_self call, hl⟩

/-- There is room for the ranges that each call leaves. -/
def Room (calls : List (Location × Location)) : Prop :=
  ∀ earlier call, earlier ++ [call] <+: calls →
    ((insertAll earlier).merged call.1 call.2).length ≤ maxAbsentRanges

theorem holds_insertAll_iff (h : ∀ call ∈ calls, call.1 ≤ call.2) (hroom : Room calls)
    {l : Location} : (insertAll calls).Holds l ↔ l ∈ Ranges.union calls := by
  refine ⟨holds_of_insertAll h, ?_⟩
  induction calls using List.reverseRecOn with
  | nil => simp
  | append_singleton calls call ih =>
    have hfront : ∀ c ∈ calls, c.1 ≤ c.2 := fun c hc => h c (List.mem_append_left _ hc)
    have hroom' : Room calls := fun earlier c hbefore =>
      hroom earlier c (hbefore.trans (List.prefix_append calls [call]))
    rw [insertAll_concat, Ranges.union_append, holds_insert_iff (separated_insertAll hfront)
      (h call (by simp)) (hroom calls call (List.prefix_refl _))]
    rintro (hl | ⟨r, hr, hl⟩)
    · exact Or.inl (ih hfront hroom' hl)
    · rw [List.mem_singleton] at hr
      exact Or.inr (hr ▸ hl)

/-- The map stores the union of what was recorded, in as few ranges as there can be. -/
theorem insertAll_stores (h : ∀ call ∈ calls, call.1 ≤ call.2) :
    ((insertAll calls).ranges.Pairwise fun r s =>
        r.1 < s.1 ∧ ∃ n, r.2.next = some n ∧ n < s.1) ∧
      (∀ l, (insertAll calls).Holds l → ∃ call ∈ calls, call.1 ≤ l ∧ l ≤ call.2) ∧
      (Room calls → ∀ l, (insertAll calls).Holds l ↔ ∃ call ∈ calls, call.1 ≤ l ∧ l ≤ call.2) ∧
      (∀ l, ((insertAll calls).endContaining l).isSome ↔ (insertAll calls).Holds l) ∧
      ∀ l e, (insertAll calls).endContaining l = some e ↔
        ∃ r ∈ (insertAll calls).ranges, r.1 ≤ l ∧ l ≤ r.2 ∧ r.2 = e ∧
          ∀ x y, x ≤ l → l ≤ y → (∀ l', x ≤ l' → l' ≤ y → (insertAll calls).Holds l') →
            r.1 ≤ x ∧ y ≤ r.2 := by
  have hsep := separated_insertAll h
  have hend : ∀ l e, (insertAll calls).endContaining l = some e ↔
      ∃ r ∈ (insertAll calls).ranges, l ∈ Set.Icc r.1 r.2 ∧ r.2 = e := by
    intro l e
    rw [endContaining_eq]
    exact Ranges.endOf_eq_some_iff hsep
  refine ⟨?_, fun l hl => holds_of_insertAll h hl, fun hroom l => holds_insertAll_iff h hroom,
    ?_, ?_⟩
  · refine hsep.apart.imp_of_mem fun {r s} hr _ hlt => ⟨?_, Location.exists_next_of_succ_lt hlt⟩
    exact ((hsep.ordered r hr).trans (le_succ r.2)).trans_lt hlt
  · intro l
    rw [Option.isSome_iff_exists]
    constructor
    · rintro ⟨e, he⟩
      obtain ⟨r, hr, hl, -⟩ := (hend l e).mp he
      exact ⟨r, hr, hl⟩
    · rintro ⟨r, hr, hl⟩
      exact ⟨r.2, (hend l r.2).mpr ⟨r, hr, hl, rfl⟩⟩
  · intro l e
    rw [hend]
    constructor
    · rintro ⟨r, hr, hl, heq⟩
      refine ⟨r, hr, hl.1, hl.2, heq, ?_⟩
      intro x y hx hy hall
      exact hsep.maximal hr (fun l' hl' => hall l' hl'.1 hl'.2) ⟨hx, hy⟩ hl
    · rintro ⟨r, hr, hlo, hhi, heq, -⟩
      exact ⟨r, hr, ⟨hlo, hhi⟩, heq⟩

/-- Two ranges that touch are stored as one. -/
theorem insertAll_stores_touching :
    (insertAll [(⟨1, 0⟩, ⟨1, 3⟩), (⟨1, 4⟩, ⟨1, 7⟩)]).endContaining ⟨1, 2⟩ = some ⟨1, 7⟩ ∧
      ((insertAll [(⟨1, 0⟩, ⟨1, 3⟩), (⟨1, 4⟩, ⟨1, 7⟩)]).ranges.Pairwise fun r s =>
        r.1 < s.1 ∧ ∃ n, r.2.next = some n ∧ n < s.1) :=
  ⟨by decide, (insertAll_stores (by decide)).1⟩

end Calls

end AbsentRanges

end Moqtail
