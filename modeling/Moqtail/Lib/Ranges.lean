import Mathlib

/-! Sets of a linear order kept as a list of closed ranges, in their order and with a gap between
any two of them.

A range that is added absorbs those it overlaps or touches. `Order.succ` says what touching is,
also at a greatest element, which is its own successor. -/
namespace Moqtail.Lib

section Scan

variable {β : Type*} {q : β → Bool} {l : List β}

/-- A scan of a list that has all it accepts at the front finds all of it. -/
theorem takeWhile_eq_filter (h : l.Pairwise fun x y => q y → q x) :
    l.takeWhile q = l.filter q := by
  induction l with
  | nil => rfl
  | cons x l ih =>
    obtain ⟨hfirst, hl⟩ := List.pairwise_cons.mp h
    by_cases hx : q x
    · simp [hx, ih hl]
    · have hnone : l.filter q = [] := by
        rw [List.filter_eq_nil_iff]
        exact fun y hy hq => hx (hfirst y hy hq)
      simp [hx, hnone]

theorem dropWhile_eq_filter (h : l.Pairwise fun x y => q y → q x) :
    l.dropWhile q = l.filter fun x => !q x := by
  induction l with
  | nil => rfl
  | cons x l ih =>
    obtain ⟨hfirst, hl⟩ := List.pairwise_cons.mp h
    by_cases hx : q x
    · simp [hx, ih hl]
    · have hall : l.filter (fun x => !q x) = l := by
        rw [List.filter_eq_self]
        intro y hy
        rw [Bool.not_eq_true']
        exact Bool.eq_false_iff.mpr fun hq => hx (hfirst y hy hq)
      simp [hx, hall]

theorem takeWhile_reverse (h : l.Pairwise fun x y => q x → q y) :
    l.reverse.takeWhile q = (l.filter q).reverse := by
  rw [takeWhile_eq_filter (List.pairwise_reverse.mpr h), List.filter_reverse]

end Scan

namespace Ranges

open Order

section Union

variable {α : Type*} [LinearOrder α]

def union (rs : List (α × α)) : Set α := {a | ∃ r ∈ rs, a ∈ Set.Icc r.1 r.2}

@[simp] theorem union_nil : union ([] : List (α × α)) = ∅ := by
  ext a
  simp [union]

@[simp] theorem union_cons (r : α × α) (rs : List (α × α)) :
    union (r :: rs) = Set.Icc r.1 r.2 ∪ union rs := by
  ext a
  simp [union]

@[simp] theorem union_append (rs rs' : List (α × α)) :
    union (rs ++ rs') = union rs ∪ union rs' := by
  ext a
  simp [union, or_and_right, exists_or]

theorem union_mono {rs rs' : List (α × α)} (h : rs ⊆ rs') : union rs ⊆ union rs' := by
  rintro a ⟨r, hr, ha⟩
  exact ⟨r, h hr, ha⟩

/-- The end of the last range that starts at `a` or before, if it reaches `a`. -/
def endOf (rs : List (α × α)) (a : α) : Option α :=
  match (rs.filter fun r => r.1 ≤ a).getLast? with
  | some r => if a ≤ r.2 then some r.2 else none
  | none => none

/-- The smallest range around two. -/
def hull (r s : α × α) : α × α := (min r.1 s.1, max r.2 s.2)

/-- What becomes of `r` when it absorbs the ranges `ts` one after the other. -/
def absorb (r : α × α) (ts : List (α × α)) : α × α := ts.foldl hull r

theorem lt_absorb_iff {a : α} (ts : List (α × α)) :
    ∀ r : α × α, a < (absorb r ts).1 ↔ a < r.1 ∧ ∀ t ∈ ts, a < t.1 := by
  induction ts with
  | nil => simp [absorb]
  | cons t ts ih =>
    intro r
    show a < (absorb (hull r t) ts).1 ↔ _
    rw [ih]
    simp [hull, and_assoc]

end Union

section Separated

variable {α : Type*} [LinearOrder α] [SuccOrder α]

/-- There is no element between the two ranges. -/
def Touches (r s : α × α) : Prop := r.1 ≤ succ s.2 ∧ s.1 ≤ succ r.2

instance (r s : α × α) : Decidable (Touches r s) := inferInstanceAs (Decidable (_ ∧ _))

structure Separated (rs : List (α × α)) : Prop where
  ordered : ∀ r ∈ rs, r.1 ≤ r.2
  apart : rs.Pairwise fun r s => succ r.2 < s.1

theorem Separated.nil : Separated ([] : List (α × α)) := ⟨by simp, List.Pairwise.nil⟩

theorem Separated.sublist {rs rs' : List (α × α)} (h : Separated rs) (hsub : rs'.Sublist rs) :
    Separated rs' :=
  ⟨fun r hr => h.ordered r (hsub.subset hr), h.apart.sublist hsub⟩

/-- Two stored ranges are the same one, or one is past the other. -/
theorem Separated.trichotomy {rs : List (α × α)} (h : Separated rs) {r s : α × α} (hr : r ∈ rs)
    (hs : s ∈ rs) : r = s ∨ succ r.2 < s.1 ∨ succ s.2 < r.1 := by
  have hsymm : ∀ r s : α × α, (r = s ∨ succ r.2 < s.1 ∨ succ s.2 < r.1) →
      s = r ∨ succ s.2 < r.1 ∨ succ r.2 < s.1 := by
    rintro r s (heq | hlt | hlt)
    · exact Or.inl heq.symm
    · exact Or.inr (Or.inr hlt)
    · exact Or.inr (Or.inl hlt)
  refine List.Pairwise.forall_of_forall_of_flip (R := fun r s => r = s ∨ succ r.2 < s.1 ∨ succ s.2 < r.1) ?_ ?_ ?_ hr hs
  · exact fun r _ => Or.inl rfl
  · exact h.apart.imp fun hlt => Or.inr (Or.inl hlt)
  · exact h.apart.imp fun hlt => Or.inr (Or.inr hlt)

/-- At most one stored range holds an element. -/
theorem Separated.unique {rs : List (α × α)} (h : Separated rs) {r s : α × α} (hr : r ∈ rs)
    (hs : s ∈ rs) {a : α} (ha : a ∈ Set.Icc r.1 r.2) (ha' : a ∈ Set.Icc s.1 s.2) : r = s := by
  rcases h.trichotomy hr hs with heq | hlt | hlt
  · exact heq
  · exact absurd (ha'.1.trans (ha.2.trans (le_succ r.2))) hlt.not_ge
  · exact absurd (ha.1.trans (ha'.2.trans (le_succ s.2))) hlt.not_ge

theorem Separated.eq_of_start {rs : List (α × α)} (h : Separated rs) {r s : α × α} (hr : r ∈ rs)
    (hs : s ∈ rs) (heq : r.1 = s.1) : r = s :=
  h.unique hr hs ⟨le_rfl, h.ordered r hr⟩ ⟨heq.ge, heq.trans_le (h.ordered s hs)⟩

theorem Separated.ends {rs : List (α × α)} (h : Separated rs) :
    rs.Pairwise fun r s => succ r.2 ≤ succ s.2 :=
  h.apart.imp_of_mem fun _ hs hlt => hlt.le.trans ((h.ordered _ hs).trans (le_succ _))

/-- A stored range is as large as it can be: a range of stored elements that meets it lies in it. -/
theorem Separated.maximal {rs : List (α × α)} (h : Separated rs) {r : α × α} (hr : r ∈ rs)
    {x y a : α} (hxy : Set.Icc x y ⊆ union rs) (ha : a ∈ Set.Icc x y) (hra : a ∈ Set.Icc r.1 r.2) :
    r.1 ≤ x ∧ y ≤ r.2 := by
  -- the element after the end of a stored range is not stored
  have hgap : ∀ s ∈ rs, s.2 < y → x ≤ s.2 → False := by
    intro s hs hlt hle
    have hnext : s.2 < succ s.2 := lt_succ_of_not_isMax fun hmax => (hmax hlt.le).not_gt hlt
    obtain ⟨t, ht, hmem⟩ := hxy ⟨hle.trans (le_succ s.2), succ_le_of_lt hlt⟩
    rcases h.trichotomy hs ht with rfl | hafter | hbefore
    · exact hmem.2.not_gt hnext
    · exact hmem.1.not_gt hafter
    · have hend : t.2 < s.2 := (le_succ t.2).trans_lt (hbefore.trans_le (h.ordered s hs))
      exact hmem.2.not_gt (hend.trans hnext)
  constructor
  · by_contra hx
    obtain ⟨s, hs, hmem⟩ := hxy ⟨le_rfl, ha.1.trans ha.2⟩
    have hlt : s.2 < y := by
      rcases h.trichotomy hs hr with rfl | hbefore | hafter
      · exact absurd hmem.1 hx
      · exact (le_succ s.2).trans_lt (hbefore.trans_le (hra.1.trans ha.2))
      · exact absurd ((h.ordered r hr).trans ((le_succ r.2).trans (hafter.le.trans hmem.1))) hx
    exact hgap s hs hlt hmem.2
  · by_contra hy
    exact hgap r hr (not_le.mp hy) (ha.1.trans hra.2)

theorem endOf_eq_some_iff {rs : List (α × α)} (h : Separated rs) {a e : α} :
    endOf rs a = some e ↔ ∃ r ∈ rs, a ∈ Set.Icc r.1 r.2 ∧ r.2 = e := by
  unfold endOf
  constructor
  · intro hend
    split at hend
    · next r hlast =>
      have hmem := List.mem_filter.mp (List.mem_of_getLast? hlast)
      split at hend
      · next hle => exact ⟨r, hmem.1, ⟨by simpa using hmem.2, hle⟩, Option.some.inj hend⟩
      · cases hend
    · cases hend
  · rintro ⟨r, hr, ha, rfl⟩
    have hmem : r ∈ rs.filter fun r => r.1 ≤ a := List.mem_filter.mpr ⟨hr, by simpa using ha.1⟩
    obtain ⟨last, hlast⟩ : ∃ last, (rs.filter fun r => r.1 ≤ a).getLast? = some last :=
      ⟨_, List.getLast?_eq_some_getLast (List.ne_nil_of_mem hmem)⟩
    obtain ⟨front, hfront⟩ := List.getLast?_eq_some_iff.mp hlast
    -- a range before the last one ends before the last one starts, so it does not reach `a`
    have hsame : r = last := by
      have hle : last.1 ≤ a := by simpa using (List.mem_filter.mp (List.mem_of_getLast? hlast)).2
      have hapart : (rs.filter fun r => r.1 ≤ a).Pairwise fun r s => succ r.2 < s.1 :=
        h.apart.sublist List.filter_sublist
      rw [hfront] at hmem hapart
      rcases List.mem_append.mp hmem with hbefore | heq
      · have hlt := (List.pairwise_append.mp hapart).2.2 r hbefore last (List.mem_singleton_self _)
        exact absurd (hle.trans (ha.2.trans (le_succ r.2))) hlt.not_ge
      · exact List.mem_singleton.mp heq
    rw [hlast, ← hsame]
    exact if_pos ha.2

theorem Touches.hull {r s : α × α} (h : Touches r s) (t : α × α) : Touches (hull r t) s :=
  ⟨(min_le_left _ _).trans h.1, h.2.trans (succ_mono (le_max_left _ _))⟩

theorem not_touches_iff {r s : α × α} : ¬ Touches r s ↔ succ s.2 < r.1 ∨ succ r.2 < s.1 := by
  rw [Touches, not_and_or, not_le, not_le]

/-- Nothing lies between ranges that touch. -/
theorem Icc_hull {r s : α × α} (h : Touches r s) :
    Set.Icc (hull r s).1 (hull r s).2 = Set.Icc r.1 r.2 ∪ Set.Icc s.1 s.2 := by
  ext a
  simp only [hull, Set.mem_Icc, Set.mem_union, min_le_iff, le_max_iff]
  constructor
  · rintro ⟨hlo, hhi⟩
    by_cases hbelow : a < r.1
    · have hle : a ≤ s.2 := le_of_lt_succ (hbelow.trans_le h.1)
      exact Or.inr ⟨hlo.resolve_left hbelow.not_ge, hle⟩
    · by_cases habove : r.2 < a
      · have hge : s.1 ≤ a := h.2.trans (succ_le_of_lt habove)
        exact Or.inr ⟨hge, hhi.resolve_left habove.not_ge⟩
      · exact Or.inl ⟨not_lt.mp hbelow, not_lt.mp habove⟩
  · rintro (⟨hlo, hhi⟩ | ⟨hlo, hhi⟩)
    · exact ⟨Or.inl hlo, Or.inl hhi⟩
    · exact ⟨Or.inr hlo, Or.inr hhi⟩

theorem absorb_lt_iff {a : α} (ts : List (α × α)) :
    ∀ r : α × α, succ (absorb r ts).2 < a ↔ succ r.2 < a ∧ ∀ t ∈ ts, succ t.2 < a := by
  induction ts with
  | nil => simp [absorb]
  | cons t ts ih =>
    intro r
    show succ (absorb (hull r t) ts).2 < a ↔ _
    rw [ih]
    simp [hull, succ_mono.map_max, and_assoc]

/-- A range that absorbs those it touches grows by them and by nothing else. -/
theorem Icc_absorb (ts : List (α × α)) :
    ∀ r : α × α, (∀ t ∈ ts, Touches r t) →
      Set.Icc (absorb r ts).1 (absorb r ts).2 = Set.Icc r.1 r.2 ∪ union ts := by
  induction ts with
  | nil => simp [absorb]
  | cons t ts ih =>
    intro r htouch
    rw [List.forall_mem_cons] at htouch
    show Set.Icc (absorb (hull r t) ts).1 (absorb (hull r t) ts).2 = _
    rw [ih (hull r t) fun t' ht' => (htouch.2 t' ht').hull t, Icc_hull htouch.1, union_cons,
      Set.union_assoc]

/-- The ranges with `r` among them. -/
def insert (rs : List (α × α)) (r : α × α) : List (α × α) :=
  (rs.filter fun s => succ s.2 < r.1) ++
    absorb r (rs.filter fun s => Touches r s).reverse :: rs.filter fun s => succ r.2 < s.1

section Insert

variable {rs : List (α × α)} {r : α × α}

theorem lt_absorb_touching (h : Separated rs) {s : α × α} (hs : s ∈ rs)
    (hlt : succ s.2 < r.1) : succ s.2 < (absorb r (rs.filter fun t => Touches r t).reverse).1 := by
  refine (lt_absorb_iff _ _).mpr ⟨hlt, ?_⟩
  intro t ht
  obtain ⟨ht, htouch⟩ := List.mem_filter.mp (List.mem_reverse.mp ht)
  have htouch : Touches r t := by simpa using htouch
  rcases h.trichotomy hs ht with rfl | hbefore | hafter
  · exact absurd htouch.1 hlt.not_ge
  · exact hbefore
  · -- `t` would end before `s` starts, and so before `r` does
    have hle : s.1 ≤ succ s.2 := (h.ordered s hs).trans (le_succ _)
    exact absurd htouch.1 (hafter.trans (hle.trans_lt hlt)).not_ge

theorem absorb_touching_lt (h : Separated rs) {s : α × α} (hs : s ∈ rs)
    (hlt : succ r.2 < s.1) : succ (absorb r (rs.filter fun t => Touches r t).reverse).2 < s.1 := by
  refine (absorb_lt_iff _ _).mpr ⟨hlt, ?_⟩
  intro t ht
  obtain ⟨ht, htouch⟩ := List.mem_filter.mp (List.mem_reverse.mp ht)
  have htouch : Touches r t := by simpa using htouch
  rcases h.trichotomy hs ht with rfl | hbefore | hafter
  · exact absurd htouch.2 hlt.not_ge
  · have hle : s.1 ≤ succ s.2 := (h.ordered s hs).trans (le_succ _)
    exact absurd htouch.2 (hlt.trans (hle.trans_lt hbefore)).not_ge
  · exact hafter

theorem Separated.insert (h : Separated rs) (hr : r.1 ≤ r.2) : Separated (insert rs r) := by
  constructor
  · intro s hs
    rcases List.mem_append.mp hs with hs | hs
    · exact h.ordered s (List.mem_of_mem_filter hs)
    · rcases List.mem_cons.mp hs with rfl | hs
      · have hmem : r.1 ∈ Set.Icc r.1 r.2 := ⟨le_rfl, hr⟩
        have hgrown : r.1 ∈ Set.Icc (absorb r (rs.filter fun t => Touches r t).reverse).1
            (absorb r (rs.filter fun t => Touches r t).reverse).2 := by
          rw [Icc_absorb]
          · exact Or.inl hmem
          · intro t ht
            simpa using (List.mem_filter.mp (List.mem_reverse.mp ht)).2
        exact hgrown.1.trans hgrown.2
      · exact h.ordered s (List.mem_of_mem_filter hs)
  · refine List.pairwise_append.mpr ⟨h.apart.sublist List.filter_sublist, ?_, ?_⟩
    · refine List.pairwise_cons.mpr ⟨?_, h.apart.sublist List.filter_sublist⟩
      intro s hs
      obtain ⟨hs, hlt⟩ := List.mem_filter.mp hs
      exact absorb_touching_lt h hs (by simpa using hlt)
    · intro s hs t ht
      obtain ⟨hs, hlt⟩ := List.mem_filter.mp hs
      have hlt : succ s.2 < r.1 := by simpa using hlt
      rcases List.mem_cons.mp ht with rfl | ht
      · exact lt_absorb_touching h hs hlt
      · have hlt' : succ r.2 < t.1 := by simpa using (List.mem_filter.mp ht).2
        exact hlt.trans (hr.trans_lt ((le_succ _).trans_lt hlt'))

theorem union_insert : union (insert rs r) = union rs ∪ Set.Icc r.1 r.2 := by
  have htouching : ∀ t ∈ (rs.filter fun t => Touches r t).reverse, Touches r t := by
    intro t ht
    simpa using (List.mem_filter.mp (List.mem_reverse.mp ht)).2
  rw [insert, union_append, union_cons, Icc_absorb _ _ htouching]
  ext a
  constructor
  · rintro (⟨s, hs, ha⟩ | (ha | ⟨s, hs, ha⟩) | ⟨s, hs, ha⟩)
    · exact Or.inl ⟨s, List.mem_of_mem_filter hs, ha⟩
    · exact Or.inr ha
    · exact Or.inl ⟨s, List.mem_of_mem_filter (List.mem_reverse.mp hs), ha⟩
    · exact Or.inl ⟨s, List.mem_of_mem_filter hs, ha⟩
  · rintro (⟨s, hs, ha⟩ | ha)
    · by_cases htouch : Touches r s
      · refine Or.inr (Or.inl (Or.inr ⟨s, ?_, ha⟩))
        simpa using ⟨hs, htouch⟩
      · rcases not_touches_iff.mp htouch with hlt | hlt
        · exact Or.inl ⟨s, by simpa using ⟨hs, hlt⟩, ha⟩
        · exact Or.inr (Or.inr ⟨s, by simpa using ⟨hs, hlt⟩, ha⟩)
    · exact Or.inr (Or.inl (Or.inl ha))

end Insert

end Separated

end Ranges

end Moqtail.Lib
