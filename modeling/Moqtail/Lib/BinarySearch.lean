import Mathlib

/-! Binary search in a list, for the end of the front that a test holds of. -/
namespace Moqtail.Lib

variable {α : Type} {test : α → Bool} {xs : List α}

/-- Halves what lies between the bounds: right of an element that passes, left of one that does
not. -/
def searchBetween (xs : List α) (test : α → Bool) (low high : Nat) : Nat :=
  if low < high then
    match xs[(low + high) / 2]? with
    | none => low
    | some x =>
      if test x then searchBetween xs test ((low + high) / 2 + 1) high
      else searchBetween xs test low ((low + high) / 2)
  else low
termination_by high - low

/-- Nothing passes the test after an element that does not. -/
def Leading (test : α → Bool) (xs : List α) : Prop :=
  xs.Pairwise fun a b => test b = true → test a = true

theorem Leading.filter_drop (h : Leading test xs) (n : Nat) :
    (xs.drop n).filter test = (xs.filter test).drop n := by
  induction xs generalizing n with
  | nil => simp
  | cons x xs ih =>
    obtain ⟨hx, hxs⟩ := List.pairwise_cons.mp h
    cases n with
    | zero => rfl
    | succ n =>
      rw [List.drop_succ_cons, ih hxs n]
      by_cases htest : test x = true
      · rw [List.filter_cons_of_pos htest, List.drop_succ_cons]
      · have hnone : xs.filter test = [] := by
          rw [List.filter_eq_nil_iff]
          exact fun b hb hpass => htest (hx b hb hpass)
        rw [List.filter_cons_of_neg htest, hnone, List.drop_nil, List.drop_nil]

theorem Leading.filter_append (h : Leading test xs) :
    xs.filter test ++ xs.filter (fun x => !test x) = xs := by
  induction xs with
  | nil => rfl
  | cons x xs ih =>
    obtain ⟨hx, hxs⟩ := List.pairwise_cons.mp h
    by_cases htest : test x = true
    · rw [List.filter_cons_of_pos htest, List.filter_cons_of_neg (by simp [htest]),
        List.cons_append, ih hxs]
    · have hnone : xs.filter test = [] := by
        rw [List.filter_eq_nil_iff]
        exact fun b hb hpass => htest (hx b hb hpass)
      have hall := ih hxs
      rw [hnone, List.nil_append] at hall
      rw [List.filter_cons_of_neg htest, hnone, List.nil_append,
        List.filter_cons_of_pos (by simp [htest]), hall]

theorem Leading.take_eq (h : Leading test xs) :
    xs.take (xs.filter test).length = xs.filter test := by
  nth_rewrite 2 [← h.filter_append]
  exact List.take_left

theorem Leading.drop_eq (h : Leading test xs) :
    xs.drop (xs.filter test).length = xs.filter fun x => !test x := by
  nth_rewrite 2 [← h.filter_append]
  exact List.drop_left

/-- What the bounds enclose keeps the end of the front. -/
theorem searchBetween_append {front rear : List α} (hfront : ∀ x ∈ front, test x = true)
    (hrear : ∀ x ∈ rear, test x = false) (low high : Nat) (hlow : low ≤ front.length)
    (hhigh : front.length ≤ high) (hlength : high ≤ (front ++ rear).length) :
    searchBetween (front ++ rear) test low high = front.length := by
  induction hsize : high - low using Nat.strong_induction_on generalizing low high with
  | h size ih =>
    rw [searchBetween]
    by_cases hlt : low < high
    · rw [if_pos hlt]
      by_cases hmid : (low + high) / 2 < front.length
      · have hget : (front ++ rear)[(low + high) / 2]? = some (front[(low + high) / 2]) := by
          rw [List.getElem?_append_left hmid, List.getElem?_eq_getElem hmid]
        rw [hget]
        dsimp only
        rw [if_pos (hfront _ (List.getElem_mem hmid))]
        exact ih _ (by omega) _ _ hmid hhigh hlength rfl
      · rw [List.length_append] at hlength
        have hbound : (low + high) / 2 - front.length < rear.length := by omega
        have hget : (front ++ rear)[(low + high) / 2]? =
            some (rear[(low + high) / 2 - front.length]) := by
          rw [List.getElem?_append_right (by omega), List.getElem?_eq_getElem hbound]
        have hfails := hrear _ (List.getElem_mem hbound)
        rw [hget]
        dsimp only
        rw [if_neg (by rw [hfails]; exact Bool.false_ne_true)]
        exact ih _ (by omega) _ _ hlow (by omega) (by rw [List.length_append]; omega) rfl
    · rw [if_neg hlt]
      omega

/-- The search finds how many elements pass. -/
theorem Leading.searchBetween_eq (h : Leading test xs) :
    searchBetween xs test 0 xs.length = (xs.filter test).length := by
  have hsplit := h.filter_append
  have hfound : searchBetween (xs.filter test ++ xs.filter fun x => !test x) test 0 xs.length =
      (xs.filter test).length := by
    apply searchBetween_append
    · exact fun x hx => (List.mem_filter.mp hx).2
    · exact fun x hx => by simpa using (List.mem_filter.mp hx).2
    · omega
    · exact List.length_filter_le _ _
    · rw [hsplit]
  rwa [hsplit] at hfound

/-- The elements between two searches: those that pass the second test, not the first. -/
theorem Leading.slice_eq {test' : α → Bool} (h : Leading test xs) (h' : Leading test' xs) :
    (xs.take (searchBetween xs test' 0 xs.length)).drop (searchBetween xs test 0 xs.length) =
      xs.filter fun x => !test x && test' x := by
  rw [h.searchBetween_eq, h'.searchBetween_eq, h'.take_eq, ← h'.filter_drop, h.drop_eq,
    List.filter_filter]
  simp only [Bool.and_comm]

end Moqtail.Lib
