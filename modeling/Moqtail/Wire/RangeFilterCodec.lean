import Moqtail.Wire.FilterMeaning

/-! The three loops of a Range Filter: making its deltas, resolving them, and their wire form, from
`model/parameter/range_filter.rs`. -/
namespace Moqtail

open Lib

namespace RangeFilter

/-- `checked_sub`, where what cannot be subtracted is out of order. -/
def subBound (bound prior : UInt64) : Except RangeFilterError UInt64 :=
  if prior.toNat ≤ bound.toNat then .ok (bound - prior) else .error .unordered

/-- The loop of `new`, with `prior_end`. -/
def deltasFrom : UInt64 → List Range → Except RangeFilterError (List (UInt64 × Option UInt64))
  | _, [] => .ok []
  | priorEnd, ⟨start, some last⟩ :: ranges => do
    let startDelta ← subBound start priorEnd
    let endDelta ← subBound last start
    let deltas ← deltasFrom last ranges
    return (startDelta, some endDelta) :: deltas
  | priorEnd, ⟨start, none⟩ :: ranges => do
    let startDelta ← subBound start priorEnd
    if ranges.isEmpty then return [(startDelta, none)] else throw .unordered

def new (setId : UInt8) (propertyType : Option UInt64) (ranges : List Range) :
    Except RangeFilterError RangeFilter := do
  let deltas ← deltasFrom 0 ranges
  return ⟨setId, propertyType, deltas⟩

/-! Lists of ranges. -/

/-- Each range but the last has an end, and the next one starts there or later. -/
def Ascending (ranges : List Range) : Prop :=
  ranges.IsChain fun r next => ∃ last, r.last = some last ∧ last.toNat ≤ next.start.toNat

/-- Each range that has an end starts there or earlier. -/
def Proper (ranges : List Range) : Prop :=
  ∀ r ∈ ranges, ∀ last, r.last = some last → r.start.toNat ≤ last.toNat

/-- Nothing starts before `priorEnd`. -/
def StartsAt (priorEnd : UInt64) (ranges : List Range) : Prop :=
  ∀ r ∈ ranges.head?, priorEnd.toNat ≤ r.start.toNat

/-- Each range but the last has an end. -/
def OnlyLastOpen (deltas : List (UInt64 × Option UInt64)) : Prop :=
  deltas.IsChain fun d _ => d.2.isSome

/-! From ranges to deltas and back. -/

theorem subBound_of_le {bound prior : UInt64} (h : prior.toNat ≤ bound.toNat) :
    subBound bound prior = .ok (bound - prior) ∧ addDelta prior (bound - prior) = .ok bound := by
  have hle : prior ≤ bound := UInt64.le_iff_toNat_le.mpr h
  have hlt := bound.toNat_lt
  refine ⟨if_pos h, ?_⟩
  rw [addDelta, UInt64.toNat_sub_of_le _ _ hle, if_pos (by omega), UInt64.add_comm,
    UInt64.sub_add_cancel]

theorem subBound_eq_ok {bound prior delta : UInt64} (h : subBound bound prior = .ok delta) :
    prior.toNat ≤ bound.toNat := by
  unfold subBound at h
  split at h
  next hle => exact hle
  · cases h

theorem subBound_error {bound prior : UInt64} {e : RangeFilterError}
    (h : subBound bound prior = .error e) : e = .unordered := by
  unfold subBound at h
  split at h
  · cases h
  · cases h
    rfl

/-- Ranges in order have deltas, which add up to the ranges. -/
theorem deltasFrom_of_ascending {ranges : List Range} (hascending : Ascending ranges)
    (hproper : Proper ranges) : ∀ priorEnd, StartsAt priorEnd ranges →
      ∃ deltas, deltasFrom priorEnd ranges = .ok deltas ∧ rangesFrom priorEnd deltas = .ok ranges := by
  induction ranges with
  | nil => exact fun priorEnd _ => ⟨[], rfl, rfl⟩
  | cons r ranges ih =>
    intro priorEnd hstarts
    obtain ⟨start, last⟩ := r
    obtain ⟨hsub, hadd⟩ := subBound_of_le (hstarts _ rfl)
    cases last with
    | none =>
      cases ranges with
      | nil =>
        refine ⟨[(start - priorEnd, none)], ?_, ?_⟩
        · simp only [deltasFrom, hsub, except_ok_bind]
          rfl
        · simp only [rangesFrom, hadd, except_ok_bind]
          rfl
      | cons next ranges =>
        -- the range before another one has an end
        obtain ⟨last, hlast, -⟩ := (List.isChain_cons_cons.mp hascending).1
        cases hlast
    | some last =>
      obtain ⟨hsub', hadd'⟩ := subBound_of_le (hproper _ List.mem_cons_self last rfl)
      have hrest : StartsAt last ranges := by
        intro next hnext
        cases ranges with
        | nil => cases hnext
        | cons next' ranges =>
          cases hnext
          obtain ⟨last', hlast', hle⟩ := (List.isChain_cons_cons.mp hascending).1
          cases hlast'
          exact hle
      obtain ⟨deltas, hdeltas, hranges⟩ := ih hascending.of_cons
        (fun r hr => hproper r (List.mem_cons_of_mem _ hr)) last hrest
      refine ⟨(start - priorEnd, some (last - start)) :: deltas, ?_, ?_⟩
      · simp only [deltasFrom, hsub, hsub', hdeltas, except_ok_bind]
        rfl
      · simp only [rangesFrom, hadd, hadd', hranges, except_ok_bind]
        rfl

/-- Only ranges in order have deltas. -/
theorem ascending_of_deltasFrom (ranges : List Range) : ∀ priorEnd deltas,
    deltasFrom priorEnd ranges = .ok deltas →
      Ascending ranges ∧ Proper ranges ∧ StartsAt priorEnd ranges := by
  induction ranges with
  | nil =>
    intro priorEnd deltas _
    refine ⟨.nil, ?_, ?_⟩
    · intro r hr
      cases hr
    · intro r hr
      cases hr
  | cons r ranges ih =>
    intro priorEnd deltas h
    obtain ⟨start, last⟩ := r
    cases last with
    | none =>
      obtain ⟨startDelta, hstart, h⟩ := except_bind_eq_ok.mp h
      cases ranges with
      | cons next ranges => cases h
      | nil =>
        refine ⟨.singleton _, ?_, ?_⟩
        · intro r hr last hlast
          rw [List.mem_singleton.mp hr] at hlast
          cases hlast
        · intro r hr
          cases hr
          exact subBound_eq_ok hstart
    | some last =>
      obtain ⟨startDelta, hstart, h⟩ := except_bind_eq_ok.mp h
      obtain ⟨endDelta, hend, h⟩ := except_bind_eq_ok.mp h
      obtain ⟨rest, hrest, -⟩ := except_bind_eq_ok.mp h
      obtain ⟨hascending, hproper, hstarts⟩ := ih last rest hrest
      refine ⟨?_, ?_, ?_⟩
      · apply List.isChain_cons.mpr
        exact ⟨fun next hnext => ⟨last, rfl, hstarts next hnext⟩, hascending⟩
      · intro r hr last' hlast'
        rcases List.mem_cons.mp hr with rfl | hr
        · cases hlast'
          exact subBound_eq_ok hend
        · exact hproper r hr last' hlast'
      · intro r hr
        cases hr
        exact subBound_eq_ok hstart

theorem deltasFrom_error (ranges : List Range) : ∀ priorEnd e,
    deltasFrom priorEnd ranges = .error e → e = .unordered := by
  induction ranges with
  | nil =>
    intro priorEnd e h
    cases h
  | cons r ranges ih =>
    intro priorEnd e h
    obtain ⟨start, last⟩ := r
    cases hstart : subBound start priorEnd with
    | error e' =>
      cases last <;>
        rw [deltasFrom, hstart, except_error_bind] at h <;> cases h <;> exact subBound_error hstart
    | ok startDelta =>
      cases last with
      | none =>
        rw [deltasFrom, hstart, except_ok_bind] at h
        cases ranges with
        | nil => cases h
        | cons next ranges =>
          cases h
          rfl
      | some last =>
        rw [deltasFrom, hstart, except_ok_bind] at h
        cases hend : subBound last start with
        | error e' =>
          rw [hend, except_error_bind] at h
          cases h
          exact subBound_error hend
        | ok endDelta =>
          rw [hend, except_ok_bind] at h
          cases hrest : deltasFrom last ranges with
          | error e' =>
            rw [hrest, except_error_bind] at h
            cases h
            exact ih last _ hrest
          | ok deltas =>
            rw [hrest] at h
            cases h

theorem new_of_ascending {ranges : List Range} (hascending : Ascending ranges)
    (hproper : Proper ranges) (setId : UInt8) (propertyType : Option UInt64) :
    ∃ f, new setId propertyType ranges = .ok f ∧ f.setId = setId ∧ f.propertyType = propertyType ∧
      f.ranges = .ok ranges := by
  have hstarts : StartsAt 0 ranges := fun r _ => Nat.zero_le _
  obtain ⟨deltas, hdeltas, hranges⟩ := deltasFrom_of_ascending hascending hproper 0 hstarts
  refine ⟨⟨setId, propertyType, deltas⟩, ?_, rfl, rfl, hranges⟩
  rw [new, hdeltas]
  rfl

theorem new_error_of_not {ranges : List Range} (h : ¬ (Ascending ranges ∧ Proper ranges))
    (setId : UInt8) (propertyType : Option UInt64) :
    new setId propertyType ranges = .error .unordered := by
  cases hdeltas : deltasFrom 0 ranges with
  | ok deltas =>
    obtain ⟨hascending, hproper, -⟩ := ascending_of_deltasFrom ranges 0 deltas hdeltas
    exact absurd ⟨hascending, hproper⟩ h
  | error e =>
    rw [new, hdeltas, deltasFrom_error ranges 0 e hdeltas]
    rfl

/-! The wire form, and the sums. -/

theorem serializeDeltas_of_onlyLastOpen {deltas : List (UInt64 × Option UInt64)}
    (h : OnlyLastOpen deltas) : ∃ out, serializeDeltas deltas = .ok out := by
  induction deltas with
  | nil => exact ⟨[], rfl⟩
  | cons d deltas ih =>
    obtain ⟨start, last⟩ := d
    cases last with
    | none =>
      cases deltas with
      | nil => exact ⟨putVi start, rfl⟩
      | cons next deltas => cases (List.isChain_cons_cons.mp h).1
    | some last =>
      obtain ⟨tail, htail⟩ := ih h.of_cons
      rw [serializeDeltas, htail]
      exact ⟨_, rfl⟩

theorem deserialize_of_onlyLastOpen {kind : RangeFilterKind} {f : RangeFilter}
    (hopen : OnlyLastOpen f.deltas) (hkind : f.propertyType.isSome = kind.hasPropertyType) :
    ∃ out, f.serialize = .ok out ∧ deserialize kind out = .ok f := by
  obtain ⟨deltas, hdeltas⟩ := serializeDeltas_of_onlyLastOpen hopen
  have hout : f.serialize = .ok (f.setId :: (f.propertyType.map putVi).getD [] ++ deltas) := by
    rw [serialize, hdeltas]
    rfl
  exact ⟨_, hout, deserialize_serialize hkind.symm hout⟩

/-- The deltas are added up exactly, or some sum is no word. -/
theorem ranges_eq_or (f : RangeFilter) :
    (f.ranges = .error .overflow ∧ ∃ bound ∈ boundsOf f.sums, 2 ^ 64 ≤ bound) ∨
      (∃ ranges, f.ranges = .ok ranges ∧ ranges.map sumOf = f.sums) ∧
        ∀ bound ∈ boundsOf f.sums, bound < 2 ^ 64 := by
  obtain ⟨hfits, hpast⟩ := rangesFrom_spec f.deltas 0
  by_cases h : ∃ bound ∈ boundsOf f.sums, 2 ^ 64 ≤ bound
  · exact .inl ⟨hpast h, h⟩
  · have hall : ∀ bound ∈ boundsOf f.sums, bound < 2 ^ 64 := by
      intro bound hbound
      by_contra hlarge
      exact h ⟨bound, hbound, Nat.not_lt.mp hlarge⟩
    exact .inr ⟨hfits hall, hall⟩

theorem ranges_overflow_iff (f : RangeFilter) :
    f.ranges = .error .overflow ↔ ∃ bound ∈ boundsOf f.sums, 2 ^ 64 ≤ bound := by
  obtain ⟨herror, hpast⟩ | ⟨⟨ranges, hranges, -⟩, hall⟩ := f.ranges_eq_or
  · exact ⟨fun _ => hpast, fun _ => herror⟩
  · constructor
    · intro h
      rw [hranges] at h
      cases h
    · rintro ⟨bound, hbound, hlarge⟩
      exact absurd (hall bound hbound) (Nat.not_lt.mpr hlarge)

/-- Just the lists in order, of ranges that do not end before they start, make a filter, and they are
its ranges. A filter of one kind is read back from its wire form. Its ranges are the sums of its
deltas, or Overflow where one of these is past 2^64 - 1. -/
theorem rangeFilter_codec :
    (∀ setId propertyType ranges, Ascending ranges → Proper ranges →
      ∃ f, new setId propertyType ranges = .ok f ∧ f.setId = setId ∧
        f.propertyType = propertyType ∧ f.ranges = .ok ranges) ∧
    (∀ setId propertyType ranges, ¬ (Ascending ranges ∧ Proper ranges) →
      new setId propertyType ranges = .error .unordered) ∧
    (∀ kind f, OnlyLastOpen f.deltas → f.propertyType.isSome = kind.hasPropertyType →
      ∃ out, f.serialize = .ok out ∧ deserialize kind out = .ok f) ∧
    ∀ f : RangeFilter,
      (f.ranges = .error .overflow ↔ ∃ bound ∈ boundsOf f.sums, 2 ^ 64 ≤ bound) ∧
      (f.ranges ≠ .error .overflow → ∃ ranges, f.ranges = .ok ranges ∧ ranges.map sumOf = f.sums) := by
  refine ⟨fun setId propertyType ranges hascending hproper =>
      new_of_ascending hascending hproper setId propertyType,
    fun setId propertyType ranges h => new_error_of_not h setId propertyType,
    fun kind f hopen hkind => deserialize_of_onlyLastOpen hopen hkind,
    fun f => ⟨ranges_overflow_iff f, ?_⟩⟩
  intro hok
  obtain ⟨herror, -⟩ | ⟨hranges, -⟩ := f.ranges_eq_or
  · exact absurd herror hok
  · exact hranges

/-- One range that ends before it starts follows no other, and makes no filter. -/
theorem backwardRange_unordered :
    Ascending [⟨5, some 3⟩] ∧ ¬ ∃ f, new 0 none [⟨5, some 3⟩] = .ok f := by
  refine ⟨.singleton _, ?_⟩
  rintro ⟨f, hf⟩
  cases hf

end RangeFilter

end Moqtail
