import Moqtail.Lib.BinarySearch
import Moqtail.Ts.Delivery

/-! The Object caches of `client/track/object_cache.ts`, and what their queries answer.

`(low + high) >> 1` is the half of the sum: no array here gets the 2^30 elements for which the shift
would be of a negative number. -/
namespace Moqtail.Ts

open Lib

namespace Location

theorem compare_lt_zero {l other : Location} : l.compare other < 0 ↔ ¬ other ≤ l := by
  rw [le_def]
  unfold compare
  split <;> [skip; split <;> [skip; split <;> [skip; split]]] <;> omega

theorem le_refl (l : Location) : l ≤ l := by
  rw [le_def]
  omega

theorem le_trans {a b c : Location} (hab : a ≤ b) (hbc : b ≤ c) : a ≤ c := by
  rw [le_def] at *
  omega

theorem le_total (a b : Location) : a ≤ b ∨ b ≤ a := by
  rw [le_def, le_def]
  omega

theorem le_antisymm {a b : Location} (hab : a ≤ b) (hba : b ≤ a) : a = b := by
  obtain ⟨group, object⟩ := a
  obtain ⟨group', object'⟩ := b
  rw [le_def] at hab hba
  rw [mk.injEq]
  dsimp only at hab hba
  omega

end Location

/-- The Location of an Object, made anew from its two IDs. -/
def MoqtObject.at (obj : MoqtObject) : Location := ⟨obj.groupId, obj.objectId⟩

/-! The helpers, which the two classes have alike. -/

/-- `_findInsertIndex`. -/
def findInsertIndex (objects : List MoqtObject) (obj : MoqtObject) : Nat :=
  searchBetween objects (fun midObj => midObj.at.compare obj.at < 0) 0 objects.length

/-- `_findIndex`. -/
def findIndex (objects : List MoqtObject) (location : Location) (exclusive : Bool) : Nat :=
  searchBetween objects (fun midObj =>
    let cmp := midObj.at.compare location
    cmp < 0 || (exclusive && cmp = 0)) 0 objects.length

/-- `objects.splice(idx, 0, obj)` at the index for the Object. -/
def insertObject (objects : List MoqtObject) (obj : MoqtObject) : List MoqtObject :=
  let idx := findInsertIndex objects obj
  objects.take idx ++ obj :: objects.drop idx

/-- `end` is `stop` here. -/
def getRange (objects : List MoqtObject) (start stop : Option Location) : List MoqtObject :=
  let startIdx := match start with
    | some start => findIndex objects start false
    | none => 0
  let endIdx := match stop with
    | some stop => findIndex objects stop true
    | none => objects.length
  (objects.take endIdx).drop startIdx

def getByLocation (objects : List MoqtObject) (location : Location) : Option MoqtObject :=
  match objects[findIndex objects location false]? with
  | some obj =>
    if obj.groupId = location.group ∧ obj.objectId = location.object then some obj else none
  | none => none

structure MemoryObjectCache where
  objects : List MoqtObject

namespace MemoryObjectCache

def new : MemoryObjectCache := ⟨[]⟩

def add (c : MemoryObjectCache) (obj : MoqtObject) : MemoryObjectCache :=
  ⟨insertObject c.objects obj⟩

def getRange (c : MemoryObjectCache) : Option Location → Option Location → List MoqtObject :=
  Ts.getRange c.objects

def getByLocation (c : MemoryObjectCache) : Location → Option MoqtObject :=
  Ts.getByLocation c.objects

def size (c : MemoryObjectCache) : Nat := c.objects.length

def clear (_ : MemoryObjectCache) : MemoryObjectCache := ⟨[]⟩

end MemoryObjectCache

structure RingBufferObjectCache where
  buffer : List MoqtObject
  maxSize : Int

namespace RingBufferObjectCache

def new (maxSize : Int := 100) : RingBufferObjectCache := ⟨[], maxSize⟩

def add (c : RingBufferObjectCache) (obj : MoqtObject) : RingBufferObjectCache :=
  let buffer := insertObject c.buffer obj
  if buffer.length > c.maxSize then { c with buffer := buffer.tail } else { c with buffer }

def getRange (c : RingBufferObjectCache) : Option Location → Option Location → List MoqtObject :=
  Ts.getRange c.buffer

def getByLocation (c : RingBufferObjectCache) : Location → Option MoqtObject :=
  Ts.getByLocation c.buffer

def size (c : RingBufferObjectCache) : Nat := c.buffer.length

def clear (c : RingBufferObjectCache) : RingBufferObjectCache := { c with buffer := [] }

end RingBufferObjectCache

/-- A call that changes a cache. -/
inductive CacheCall where
  | add (obj : MoqtObject)
  | clear

def MemoryObjectCache.run (calls : List CacheCall) : MemoryObjectCache :=
  calls.foldl (fun c call => match call with | .add obj => c.add obj | .clear => c.clear) .new

def RingBufferObjectCache.run (maxSize : Int) (calls : List CacheCall) : RingBufferObjectCache :=
  calls.foldl (fun c call => match call with | .add obj => c.add obj | .clear => c.clear)
    (.new maxSize)

/-- The Objects added since the last `clear`, in the order of the calls. -/
def addedObjects (calls : List CacheCall) : List MoqtObject :=
  calls.foldl (fun objs call => match call with | .add obj => objs ++ [obj] | .clear => []) []

/-! What the interface states. -/

/-- In ascending order of Location. -/
def Ascending (objects : List MoqtObject) : Prop := objects.Pairwise fun a b => a.at ≤ b.at

/-- At or after `start` and before `stop`; a bound that is missing bounds nothing. -/
def InRange (start stop : Option Location) (l : Location) : Prop :=
  (∀ s ∈ start, s ≤ l) ∧ ∀ e ∈ stop, ¬ e ≤ l

instance (start stop : Option Location) (l : Location) : Decidable (InRange start stop l) :=
  inferInstanceAs (Decidable (_ ∧ _))

/-- The `n` greatest Locations of `all`: what is left out of `held` comes before all of it. -/
def GreatestOf (n : Nat) (all held : List MoqtObject) : Prop :=
  ∃ evicted, (evicted ++ held).Perm all ∧ held.length = min n all.length ∧
    ∀ e ∈ evicted, ∀ obj ∈ held, e.at ≤ obj.at

/-- A cache that holds `held` answers as the interface states. -/
structure AnswersExactly (held : List MoqtObject)
    (range : Option Location → Option Location → List MoqtObject)
    (found : Location → Option MoqtObject) (start stop : Option Location) : Prop where
  ascending : Ascending held
  range_eq : range start stop = held.filter fun obj => InRange start stop obj.at
  found_mem : ∀ l obj, found l = some obj → obj ∈ held ∧ obj.at = l
  found_isSome : ∀ l, (∃ obj ∈ held, obj.at = l) → (found l).isSome

/-- No Object is held at the end of the range. -/
def EndFree (held : List MoqtObject) (start stop : Option Location) : Prop :=
  ∀ e ∈ stop, (∀ s ∈ start, s ≤ e) → ∀ obj ∈ held, obj.at ≠ e

/-! The two searches, in a list in ascending order. -/

variable {objects : List MoqtObject}

theorem decide_compare_lt (obj : MoqtObject) (l : Location) :
    decide (obj.at.compare l < 0) = decide (¬ l ≤ obj.at) := by
  simp only [Location.compare_lt_zero]

theorem decide_compare_le (obj : MoqtObject) (l : Location) :
    (decide (obj.at.compare l < 0) || decide (obj.at.compare l = 0)) = decide (obj.at ≤ l) := by
  rw [Bool.eq_iff_iff, Bool.or_eq_true, decide_eq_true_eq, decide_eq_true_eq, decide_eq_true_eq,
    ← Location.compare_le_zero]
  omega

theorem Ascending.leading_before (h : Ascending objects) (l : Location) :
    Leading (fun obj => decide (¬ l ≤ obj.at)) objects := by
  apply h.imp
  intro a b hab hb
  rw [decide_eq_true_eq] at hb ⊢
  exact fun ha => hb (Location.le_trans ha hab)

theorem Ascending.leading_upTo (h : Ascending objects) (l : Location) :
    Leading (fun obj => decide (obj.at ≤ l)) objects := by
  apply h.imp
  intro a b hab hb
  rw [decide_eq_true_eq] at hb ⊢
  exact Location.le_trans hab hb

theorem findIndex_false (l : Location) : findIndex objects l false =
    searchBetween objects (fun obj => decide (¬ l ≤ obj.at)) 0 objects.length := by
  unfold findIndex
  simp only [Bool.false_and, Bool.or_false, decide_compare_lt]

theorem findIndex_true (l : Location) : findIndex objects l true =
    searchBetween objects (fun obj => decide (obj.at ≤ l)) 0 objects.length := by
  unfold findIndex
  simp only [Bool.true_and, decide_compare_le]

theorem findInsertIndex_eq (obj : MoqtObject) :
    findInsertIndex objects obj = findIndex objects obj.at false := by
  rw [findIndex_false]
  unfold findInsertIndex
  simp only [decide_compare_lt]

/-- What is before a Location, and what is not, in the order in which both are held. -/
theorem Ascending.take_findIndex (h : Ascending objects) (l : Location) :
    objects.take (findIndex objects l false) = objects.filter fun obj => ¬ l ≤ obj.at := by
  rw [findIndex_false, (h.leading_before l).searchBetween_eq]
  exact (h.leading_before l).take_eq

theorem Ascending.drop_findIndex (h : Ascending objects) (l : Location) :
    objects.drop (findIndex objects l false) = objects.filter fun obj => l ≤ obj.at := by
  rw [findIndex_false, (h.leading_before l).searchBetween_eq, (h.leading_before l).drop_eq]
  simp

/-! What is added. -/

theorem Ascending.insertObject (h : Ascending objects) (obj : MoqtObject) :
    Ascending (insertObject objects obj) := by
  unfold Ts.insertObject
  rw [findInsertIndex_eq]
  dsimp only
  rw [h.take_findIndex, h.drop_findIndex]
  apply List.pairwise_append.mpr
  refine ⟨h.filter _, List.pairwise_cons.mpr ⟨?_, h.filter _⟩, ?_⟩
  · intro b hb
    simpa using (List.mem_filter.mp hb).2
  · intro a ha b hb
    have hbefore : ¬ obj.at ≤ a.at := by simpa using (List.mem_filter.mp ha).2
    have hle := (Location.le_total a.at obj.at).resolve_right hbefore
    rcases List.mem_cons.mp hb with rfl | hb
    · exact hle
    · exact Location.le_trans hle (by simpa using (List.mem_filter.mp hb).2)

theorem insertObject_perm (objects : List MoqtObject) (obj : MoqtObject) :
    (insertObject objects obj).Perm (obj :: objects) := by
  unfold insertObject
  dsimp only
  apply List.perm_middle.trans
  rw [List.take_append_drop]

theorem Ascending.findIndex_drop (h : Ascending objects) (l : Location) (n : Nat) :
    findIndex (objects.drop n) l false = findIndex objects l false - n := by
  have hdrop : Ascending (objects.drop n) := h.sublist (List.drop_sublist _ _)
  rw [findIndex_false, findIndex_false, (hdrop.leading_before l).searchBetween_eq,
    (h.leading_before l).searchBetween_eq, (h.leading_before l).filter_drop, List.length_drop]

theorem Ascending.findIndex_le (h : Ascending objects) (l : Location) :
    findIndex objects l false ≤ objects.length := by
  rw [findIndex_false, (h.leading_before l).searchBetween_eq]
  exact List.length_filter_le _ _

theorem tail_splice_drop {α : Type} {xs : List α} {idx : Nat} (hidx : idx ≤ xs.length) (x : α)
    (n : Nat) : ((xs.drop n).take (idx - n) ++ x :: (xs.drop n).drop (idx - n)).tail =
      (xs.take idx ++ x :: xs.drop idx).drop (n + 1) := by
  have hlength : (xs.take idx).length = idx := by
    rw [List.length_take]
    omega
  rw [← List.drop_take, List.drop_drop]
  by_cases hn : n ≤ idx
  · rw [Nat.add_sub_cancel' hn, ← List.drop_append_of_le_length (by omega), List.tail_drop]
  · have hnone : (xs.take idx).drop n = [] := List.drop_eq_nil_of_le (by omega)
    have hnone' : (xs.take idx).drop (n + 1) = [] := List.drop_eq_nil_of_le (by omega)
    have hstart : n + (idx - n) = n := by omega
    have hrest : n + 1 - idx = n - idx + 1 := by omega
    have hend : idx + (n - idx) = n := by omega
    rw [hnone, List.nil_append, List.tail_cons, hstart, List.drop_append, hnone', List.nil_append,
      hlength, hrest, List.drop_succ_cons, List.drop_drop, hend]

/-- Where the first Objects are missing, one that belongs among them is put first and then left
out. -/
theorem Ascending.tail_insertObject_drop (h : Ascending objects) (obj : MoqtObject) (n : Nat) :
    (Ts.insertObject (objects.drop n) obj).tail = (Ts.insertObject objects obj).drop (n + 1) := by
  unfold Ts.insertObject
  rw [findInsertIndex_eq, findInsertIndex_eq, h.findIndex_drop]
  exact tail_splice_drop (h.findIndex_le _) obj n

@[simp] theorem length_insertObject (objects : List MoqtObject) (obj : MoqtObject) :
    (insertObject objects obj).length = objects.length + 1 := by
  rw [(insertObject_perm objects obj).length_eq, List.length_cons]

/-! The queries, in a list in ascending order. -/

theorem Ascending.getRange_eq (h : Ascending objects) (start stop : Option Location) :
    getRange objects start stop =
      objects.filter fun obj => (∀ s ∈ start, s ≤ obj.at) ∧ ∀ e ∈ stop, obj.at ≤ e := by
  unfold getRange
  cases start with
  | none =>
    cases stop with
    | none => simp
    | some stop =>
      dsimp only
      rw [findIndex_true, (h.leading_upTo stop).searchBetween_eq, (h.leading_upTo stop).take_eq,
        List.drop_zero]
      simp
  | some start =>
    cases stop with
    | none =>
      dsimp only
      rw [List.take_length, h.drop_findIndex]
      simp
    | some stop =>
      dsimp only
      rw [findIndex_false, findIndex_true,
        (h.leading_before start).slice_eq (h.leading_upTo stop)]
      simp

/-- An Object that is held at a Location is the first one that is not before it. -/
theorem Ascending.getByLocation_spec (h : Ascending objects) (l : Location) :
    (∀ obj, getByLocation objects l = some obj → obj ∈ objects ∧ obj.at = l) ∧
      ((∃ obj ∈ objects, obj.at = l) → (getByLocation objects l).isSome) := by
  have hdrop := h.drop_findIndex l
  have hget : objects[findIndex objects l false]? =
      (objects.filter fun obj => l ≤ obj.at).head? := by
    rw [← hdrop, List.head?_drop]
  have hat : ∀ obj : MoqtObject, (obj.groupId = l.group ∧ obj.objectId = l.object) ↔ obj.at = l := by
    intro obj
    obtain ⟨group, object⟩ := l
    rw [MoqtObject.at, Location.mk.injEq]
  unfold getByLocation
  rw [hget]
  cases hrest : objects.filter fun obj => l ≤ obj.at with
  | nil =>
    constructor
    · intro obj hobj
      cases hobj
    · rintro ⟨obj, hobj, rfl⟩
      have hmem : obj ∈ objects.filter fun o => obj.at ≤ o.at :=
        List.mem_filter.mpr ⟨hobj, by simpa using Location.le_refl obj.at⟩
      rw [hrest] at hmem
      cases hmem
  | cons first rest =>
    have hfirst : first ∈ objects ∧ l ≤ first.at := by
      have hmem : first ∈ objects.filter fun o => l ≤ o.at := by
        rw [hrest]
        exact List.mem_cons_self
      simpa using List.mem_filter.mp hmem
    dsimp only [List.head?_cons]
    constructor
    · intro obj hobj
      split at hobj
      next heq =>
        cases hobj
        exact ⟨hfirst.1, (hat _).mp heq⟩
      · cases hobj
    · rintro ⟨obj, hobj, rfl⟩
      -- nothing of the rest is before the first, so that one is at the Location as well
      have hascending : Ascending (first :: rest) := by
        rw [← hrest]
        exact h.filter _
      have hmem : obj ∈ first :: rest := by
        rw [← hrest]
        exact List.mem_filter.mpr ⟨hobj, by simpa using Location.le_refl obj.at⟩
      have hle : first.at ≤ obj.at := by
        rcases List.mem_cons.mp hmem with rfl | hmem
        · exact Location.le_refl _
        · exact (List.pairwise_cons.mp hascending).1 obj hmem
      rw [if_pos ((hat first).mpr (Location.le_antisymm hle hfirst.2))]
      rfl

theorem filter_eq_filter_iff {α : Type} {xs : List α} {p q : α → Bool} :
    xs.filter p = xs.filter q ↔ ∀ x ∈ xs, p x = q x := by
  constructor
  · intro h x hx
    have hmem : x ∈ xs.filter p ↔ x ∈ xs.filter q := by rw [h]
    rw [List.mem_filter, List.mem_filter, and_iff_right hx, and_iff_right hx] at hmem
    exact Bool.eq_iff_iff.mpr hmem
  · exact List.filter_congr

/-- The end of a range is in it, so that it is the one the interface states only where no Object is
held there. -/
theorem Ascending.range_eq_iff (h : Ascending objects) (start stop : Option Location) :
    (getRange objects start stop = objects.filter fun obj => InRange start stop obj.at) ↔
      EndFree objects start stop := by
  rw [h.getRange_eq, filter_eq_filter_iff]
  constructor
  · intro hsame e he hstart obj hobj hat
    have hpasses := hsame obj hobj
    simp only [decide_eq_decide] at hpasses
    have hin := hpasses.mp ⟨fun s hs => hat ▸ hstart s hs, fun e' he' => by
      rw [Option.mem_unique he' he, hat]
      exact Location.le_refl e⟩
    exact hin.2 e he (hat ▸ Location.le_refl _)
  · intro hfree obj hobj
    apply decide_eq_decide.mpr
    apply and_congr_right
    intro hstart
    apply forall₂_congr
    intro e he
    constructor
    · intro hle hge
      have hat := Location.le_antisymm hle hge
      exact hfree e he (hat ▸ hstart) obj hobj hat
    · intro hlt
      exact (Location.le_total _ _).resolve_right hlt

/-- What `FetchPublication.publish` sends of a range, before its filters: it asks for no end and
applies its own, which is the last Object to send. -/
def objectsToSend (objects : List MoqtObject) (startLocation endLocation : Location) :
    List MoqtObject :=
  (getRange objects (some startLocation) none).filter fun obj => obj.at.compare endLocation ≤ 0

/-- It would get the same from the cache, which has the end in the range as well. -/
theorem Ascending.objectsToSend_eq (h : Ascending objects) (startLocation endLocation : Location) :
    objectsToSend objects startLocation endLocation =
      getRange objects (some startLocation) (some endLocation) := by
  unfold objectsToSend
  rw [h.getRange_eq, h.getRange_eq, List.filter_filter]
  simp only [Location.compare_le_zero]
  apply List.filter_congr
  intro obj _
  simp [Bool.and_comm]

theorem Ascending.answersExactly_iff (h : Ascending objects) (start stop : Option Location) :
    AnswersExactly objects (getRange objects) (getByLocation objects) start stop ↔
      EndFree objects start stop := by
  rw [← h.range_eq_iff]
  constructor
  · exact AnswersExactly.range_eq
  · intro hrange
    exact ⟨h, hrange, fun l => (h.getByLocation_spec l).1, fun l => (h.getByLocation_spec l).2⟩

/-! Runs. -/

theorem MemoryObjectCache.run_append (calls : List CacheCall) (call : CacheCall) :
    run (calls ++ [call]) =
      match call with | .add obj => (run calls).add obj | .clear => (run calls).clear := by
  rw [run, List.foldl_append]
  rfl

theorem RingBufferObjectCache.run_append (maxSize : Int) (calls : List CacheCall)
    (call : CacheCall) : run maxSize (calls ++ [call]) =
      match call with
      | .add obj => (run maxSize calls).add obj
      | .clear => (run maxSize calls).clear := by
  rw [run, List.foldl_append]
  rfl

theorem addedObjects_append (calls : List CacheCall) (call : CacheCall) :
    addedObjects (calls ++ [call]) =
      match call with | .add obj => addedObjects calls ++ [obj] | .clear => [] := by
  rw [addedObjects, List.foldl_append]
  rfl

theorem MemoryObjectCache.run_spec (calls : List CacheCall) :
    Ascending (run calls).objects ∧ (run calls).objects.Perm (addedObjects calls) := by
  induction calls using List.reverseRecOn with
  | nil => exact ⟨.nil, .nil⟩
  | append_singleton calls call ih =>
    rw [run_append, addedObjects_append]
    cases call with
    | clear => exact ⟨.nil, .nil⟩
    | add obj =>
      refine ⟨ih.1.insertObject obj, ?_⟩
      apply (insertObject_perm _ obj).trans
      exact (ih.2.cons obj).trans (List.perm_append_singleton obj _).symm

/-- A ring buffer holds the end of what a cache without a bound would hold. -/
theorem RingBufferObjectCache.run_eq (maxSize : Int) (calls : List CacheCall) :
    run maxSize calls = ⟨(MemoryObjectCache.run calls).objects.drop
      ((MemoryObjectCache.run calls).objects.length - maxSize.toNat), maxSize⟩ := by
  induction calls using List.reverseRecOn with
  | nil => exact congrArg (RingBufferObjectCache.mk · maxSize) List.drop_nil.symm
  | append_singleton calls call ih =>
    rw [run_append, MemoryObjectCache.run_append, ih]
    cases call with
    | clear => exact congrArg (RingBufferObjectCache.mk · maxSize) List.drop_nil.symm
    | add obj =>
      have hascending := (MemoryObjectCache.run_spec calls).1
      unfold add MemoryObjectCache.add
      dsimp only
      rw [length_insertObject, length_insertObject, List.length_drop]
      generalize (MemoryObjectCache.run calls).objects = objects at hascending ⊢
      by_cases hroom : objects.length + 1 ≤ maxSize
      · -- nothing has been left out yet
        have hnone : objects.length - maxSize.toNat = 0 := by omega
        have hnone' : objects.length + 1 - maxSize.toNat = 0 := by omega
        rw [hnone, hnone', if_neg (by omega), List.drop_zero, List.drop_zero]
      · have hmore : objects.length + 1 - maxSize.toNat = objects.length - maxSize.toNat + 1 := by
          omega
        rw [if_pos (by omega), hascending.tail_insertObject_drop, hmore]

/-- The end of a list in ascending order has its greatest Locations. -/
theorem Ascending.greatestOf_drop (h : Ascending objects) (n : Nat) :
    GreatestOf n objects (objects.drop (objects.length - n)) := by
  have hsplit := List.take_append_drop (objects.length - n) objects
  refine ⟨objects.take (objects.length - n), ?_, ?_, ?_⟩
  · rw [hsplit]
  · rw [List.length_drop]
    omega
  · rw [Ascending, ← hsplit] at h
    exact (List.pairwise_append.mp h).2.2

theorem GreatestOf.of_perm {n : Nat} {all all' held : List MoqtObject} (h : GreatestOf n all held)
    (hperm : all.Perm all') : GreatestOf n all' held := by
  obtain ⟨evicted, hheld, hlength, hle⟩ := h
  exact ⟨evicted, hheld.trans hperm, by rw [hlength, hperm.length_eq], hle⟩

namespace RingBufferObjectCache

variable (maxSize : Int) (calls : List CacheCall)

theorem ascending_run : Ascending (run maxSize calls).buffer := by
  rw [run_eq]
  exact (MemoryObjectCache.run_spec calls).1.sublist (List.drop_sublist _ _)

theorem greatestOf_run :
    GreatestOf maxSize.toNat (addedObjects calls) (run maxSize calls).buffer := by
  obtain ⟨hascending, hperm⟩ := MemoryObjectCache.run_spec calls
  rw [run_eq]
  exact (hascending.greatestOf_drop _).of_perm hperm

/-- One more Object: the greatest of what was held and of it. -/
theorem greatestOf_add (obj : MoqtObject) :
    GreatestOf maxSize.toNat (obj :: (run maxSize calls).buffer)
      ((run maxSize calls).add obj).buffer := by
  have hascending := (ascending_run maxSize calls).insertObject obj
  have hlength : (run maxSize calls).buffer.length ≤ maxSize.toNat := by
    rw [run_eq, List.length_drop]
    omega
  have hmax : (run maxSize calls).maxSize = maxSize := by rw [run_eq]
  apply GreatestOf.of_perm _ (insertObject_perm _ obj)
  have hgreatest := hascending.greatestOf_drop maxSize.toNat
  rw [length_insertObject] at hgreatest
  unfold add
  dsimp only
  rw [length_insertObject, hmax]
  generalize (run maxSize calls).buffer = buffer at *
  by_cases hroom : buffer.length + 1 ≤ maxSize
  · have hnone : buffer.length + 1 - maxSize.toNat = 0 := by omega
    rw [hnone, List.drop_zero] at hgreatest
    rwa [if_neg (by omega)]
  · have hone : buffer.length + 1 - maxSize.toNat = 1 := by omega
    rw [hone, List.drop_one] at hgreatest
    rwa [if_pos (by omega)]

end RingBufferObjectCache

/-- After any calls both caches hold what they should, and a query with the given bounds answers as
the interface states exactly where no Object is held at the end of its range. -/
theorem objectCaches_exact_iff (maxSize : Int) (calls : List CacheCall)
    (start stop : Option Location) :
    let memory := MemoryObjectCache.run calls
    let ring := RingBufferObjectCache.run maxSize calls
    ((memory.objects.Perm (addedObjects calls) ∧
        AnswersExactly memory.objects memory.getRange memory.getByLocation start stop) ↔
      EndFree memory.objects start stop) ∧
    ((GreatestOf maxSize.toNat (addedObjects calls) ring.buffer ∧
        (∀ obj, GreatestOf maxSize.toNat (obj :: ring.buffer) (ring.add obj).buffer) ∧
        AnswersExactly ring.buffer ring.getRange ring.getByLocation start stop) ↔
      EndFree ring.buffer start stop) := by
  have hmemory := MemoryObjectCache.run_spec calls
  have hring := RingBufferObjectCache.ascending_run maxSize calls
  have hgreatest := RingBufferObjectCache.greatestOf_run maxSize calls
  have hadd := RingBufferObjectCache.greatestOf_add maxSize calls
  dsimp only
  rw [← hmemory.1.answersExactly_iff, ← hring.answersExactly_iff]
  exact ⟨and_iff_right hmemory.2, by rw [and_iff_right hgreatest, and_iff_right hadd]; rfl⟩

/-- An Object at the Location where a range ends. -/
def endObject : MoqtObject :=
  ⟨(0, 0), 128, .subgroup, some 0, .normal, none, none, fun _ => rfl, MoqtObject.made_none⟩

/-- A query up to the Location of the one Object that is held answers with that Object. -/
theorem objectAtEnd_inRange :
    let memory := MemoryObjectCache.run [.add endObject]
    ¬ AnswersExactly memory.objects memory.getRange memory.getByLocation none (some ⟨0, 0⟩) := by
  dsimp only
  intro h
  have hheld : (MemoryObjectCache.run [.add endObject]).objects = [endObject] :=
    List.perm_singleton.mp (MemoryObjectCache.run_spec _).2
  have hascending := h.ascending
  have hrange := h.range_eq
  unfold MemoryObjectCache.getRange at hrange
  rw [hascending.range_eq_iff, hheld] at hrange
  exact hrange ⟨0, 0⟩ rfl (by simp) endObject List.mem_cons_self rfl

end Moqtail.Ts
