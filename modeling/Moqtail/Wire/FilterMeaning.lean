import Moqtail.Wire.CombinedFilter

/-! What a request's Range Filters mean.

The bounds of a Range Filter are sums of its deltas. Range Filters of one SetID are required
together, those of different SetIDs in place of each other. `CombinedFilter::new` keeps them kind by
kind in a map of sets, and the map says what the list of parameters does. -/
namespace Moqtail

open Lib

/-! A map in ascending order. -/

section SortedEntries

variable {κ ν : Type} [LT κ] [LE κ] [DecidableLT κ] [DecidableEq κ] [Inhabited ν]
  [Std.LawfulOrderLT κ] [Std.IsLinearOrder κ] {entries : List (κ × ν)}

/-- Ascending keys, as a `BTreeMap` has them. -/
def SortedEntries (entries : List (κ × ν)) : Prop := entries.Pairwise fun a b => a.1 < b.1

omit [DecidableLT κ] [Inhabited ν] [Std.IsLinearOrder κ] in
/-- In ascending order the keys after a larger one are not the one looked for. -/
theorem any_key_of_lt {key : κ} (h : ∀ e ∈ entries, key < e.1) :
    entries.any (·.1 = key) = false := by
  rw [List.any_eq_false]
  intro e he
  have hne : e.1 ≠ key := (Std.ne_of_lt (h e he)).symm
  simpa using hne

theorem modifyEntry_perm (h : SortedEntries entries) (key : κ) (f : ν → ν) :
    (modifyEntry key f entries).Perm (changeEntry key default f entries) := by
  induction entries with
  | nil => exact .rfl
  | cons e rest ih =>
    obtain ⟨k, v⟩ := e
    unfold SortedEntries at h
    rw [List.pairwise_cons] at h
    rw [modifyEntry]
    split
    next hlt =>
      have hall : ∀ e ∈ (k, v) :: rest, key < e.1 := by
        rw [List.forall_mem_cons]
        exact ⟨hlt, fun e he => Std.lt_trans hlt (h.1 e he)⟩
      rw [changeEntry, if_neg (by rw [any_key_of_lt hall]; decide)]
      exact (List.perm_append_singleton _ _).symm
    next hlt =>
      split
      next heq =>
        subst heq
        have hrest : rest.map (fun e => if e.1 = k then (e.1, f e.2) else e) = rest := by
          apply List.map_congr_left (g := id) ?_ |>.trans (List.map_id rest)
          intro e he
          exact if_neg ((Std.ne_of_lt (h.1 e he)).symm)
        rw [changeEntry, if_pos (by simp), List.map_cons, if_pos rfl, hrest]
      next hne =>
        have hcons : changeEntry key default f ((k, v) :: rest) =
            (k, v) :: changeEntry key default f rest := by
          simp only [changeEntry, List.any_cons, hne, decide_false, Bool.false_or, List.map_cons,
            if_false]
          split <;> rfl
        rw [hcons]
        exact (ih h.2).cons _

theorem SortedEntries.modifyEntry (h : SortedEntries entries) (key : κ) (f : ν → ν) :
    SortedEntries (modifyEntry key f entries) := by
  induction entries with
  | nil => exact List.pairwise_singleton _ _
  | cons e rest ih =>
    obtain ⟨k, v⟩ := e
    have hsorted := h
    unfold SortedEntries at h
    rw [List.pairwise_cons] at h
    rw [Moqtail.modifyEntry]
    split
    next hlt =>
      apply List.Pairwise.cons _ hsorted
      rw [List.forall_mem_cons]
      exact ⟨hlt, fun e he => Std.lt_trans hlt (h.1 e he)⟩
    next hlt =>
      split
      · exact List.Pairwise.cons h.1 h.2
      next hne =>
        apply List.Pairwise.cons _ (ih h.2)
        intro e he
        have hlt' : k < key := Std.lt_of_le_of_ne (Std.not_lt.mp hlt) hne
        have hmem := (modifyEntry_perm h.2 key f).mem_iff.mp he
        unfold changeEntry at hmem
        split at hmem
        · obtain ⟨e', he', rfl⟩ := List.mem_map.mp hmem
          dsimp only
          split
          · exact h.1 e' he'
          · exact h.1 e' he'
        · rcases List.mem_append.mp hmem with hold | hnew
          · exact h.1 e hold
          · rw [List.mem_singleton] at hnew
            subst hnew
            exact hlt'

omit [LE κ] [Std.LawfulOrderLT κ] [Std.IsLinearOrder κ] in
theorem mem_modifyEntry_of_ne {key other : κ} (hne : other ≠ key) (f : ν → ν) (v : ν) :
    (other, v) ∈ modifyEntry key f entries ↔ (other, v) ∈ entries := by
  induction entries with
  | nil => simp [modifyEntry, hne]
  | cons e rest ih =>
    obtain ⟨k, v'⟩ := e
    rw [modifyEntry]
    split
    · simp [hne]
    · split
      next heq =>
        subst heq
        simp [hne]
      next => rw [List.mem_cons, List.mem_cons, ih]

/-- The value of the key changes, or there is one now. -/
theorem mem_modifyEntry_self (h : SortedEntries entries) (key : κ) (f : ν → ν) (v' : ν) :
    (key, v') ∈ modifyEntry key f entries ↔ (∃ v, (key, v) ∈ entries ∧ v' = f v) ∨
      ((∀ v, (key, v) ∉ entries) ∧ v' = f default) := by
  induction entries with
  | nil => simp [modifyEntry]
  | cons e rest ih =>
    obtain ⟨k, v⟩ := e
    unfold SortedEntries at h
    rw [List.pairwise_cons] at h
    rw [modifyEntry]
    split
    next hlt =>
      have habsent : ∀ w, (key, w) ∉ (k, v) :: rest := by
        intro w hmem
        rcases List.mem_cons.mp hmem with heq | hrest
        · exact Std.ne_of_lt hlt (congrArg Prod.fst heq)
        · exact Std.ne_of_lt (Std.lt_trans hlt (h.1 _ hrest)) rfl
      simp [habsent]
    next hlt =>
      split
      next heq =>
        subst heq
        have habsent : ∀ w, (k, w) ∉ rest := fun w hrest => Std.ne_of_lt (h.1 _ hrest) rfl
        simp [habsent]
      next hne =>
        have hne' : ∀ w, (key, w) ≠ (k, v) := fun w heq => hne (congrArg Prod.fst heq).symm
        simp only [List.mem_cons, hne', false_or, ih h.2]

omit [LE κ] [Std.LawfulOrderLT κ] [Std.IsLinearOrder κ] in
/-- A key that is not there is added. -/
theorem modifyEntry_perm_of_absent {key : κ} (h : ∀ v, (key, v) ∉ entries) (f : ν → ν) :
    (modifyEntry key f entries).Perm ((key, f default) :: entries) := by
  induction entries with
  | nil => exact .rfl
  | cons e rest ih =>
    obtain ⟨k, v⟩ := e
    rw [modifyEntry]
    split
    · exact .rfl
    · split
      next heq =>
        subst heq
        exact absurd List.mem_cons_self (h v)
      next =>
        have hrest := ih fun w hmem => h w (List.mem_cons_of_mem _ hmem)
        exact (hrest.cons (k, v)).trans (.swap _ _ _)

end SortedEntries

/-! The ranges of a filter. -/

namespace RangeFilter

/-- The deltas added up, however large. -/
def sumsFrom : Nat → List (UInt64 × Option UInt64) → List (Nat × Option Nat)
  | _, [] => []
  | priorEnd, (startDelta, none) :: deltas =>
    (priorEnd + startDelta.toNat, none) :: sumsFrom priorEnd deltas
  | priorEnd, (startDelta, some endDelta) :: deltas =>
    (priorEnd + startDelta.toNat, some (priorEnd + startDelta.toNat + endDelta.toNat)) ::
      sumsFrom (priorEnd + startDelta.toNat + endDelta.toNat) deltas

def sums (f : RangeFilter) : List (Nat × Option Nat) := sumsFrom 0 f.deltas

def boundsOf (sums : List (Nat × Option Nat)) : List Nat := sums.flatMap fun r => r.1 :: r.2.toList

/-- The value is inside some range of the filter. -/
def Admits (f : RangeFilter) (value : UInt64) : Prop :=
  ∃ r ∈ f.sums, r.1 ≤ value.toNat ∧ ∀ last, r.2 = some last → value.toNat ≤ last

/-- What makes a filter of a kind one that cannot be applied. -/
inductive Faulty (kind : RangeFilterKind) (f : RangeFilter) : Prop where
  | oddType (propertyType : UInt64) (htype : f.propertyType = some propertyType)
      (hodd : propertyType % 2 ≠ 0)
  | missingType (hkind : kind.hasPropertyType = true) (htype : f.propertyType = none)
  | superfluousType (hkind : kind.hasPropertyType = false) (htype : f.propertyType ≠ none)
  | overflow (bound : Nat) (hbound : bound ∈ boundsOf f.sums) (hlarge : 2 ^ 64 ≤ bound)
  | priority (hkind : kind = .priority) (bound : Nat) (hbound : bound ∈ boundsOf f.sums)
      (hlarge : 255 < bound)

theorem addDelta_of_lt {x delta : UInt64} (h : x.toNat + delta.toNat < 2 ^ 64) :
    addDelta x delta = .ok (x + delta) ∧ (x + delta).toNat = x.toNat + delta.toNat := by
  refine ⟨if_pos h, ?_⟩
  rw [UInt64.toNat_add, Nat.mod_eq_of_lt h]

theorem addDelta_of_le {x delta : UInt64} (h : 2 ^ 64 ≤ x.toNat + delta.toNat) :
    addDelta x delta = .error .overflow := if_neg (Nat.not_lt.mpr h)

/-- The range in numbers without a limit. -/
def sumOf (r : Range) : Nat × Option Nat := (r.start.toNat, r.last.map UInt64.toNat)

/-- The loop gives up at the first bound that is no word. -/
theorem rangesFrom_spec (deltas : List (UInt64 × Option UInt64)) : ∀ priorEnd : UInt64,
    ((∀ bound ∈ boundsOf (sumsFrom priorEnd.toNat deltas), bound < 2 ^ 64) →
      ∃ ranges, rangesFrom priorEnd deltas = .ok ranges ∧
        ranges.map sumOf = sumsFrom priorEnd.toNat deltas) ∧
    ((∃ bound ∈ boundsOf (sumsFrom priorEnd.toNat deltas), 2 ^ 64 ≤ bound) →
      rangesFrom priorEnd deltas = .error .overflow) := by
  induction deltas with
  | nil =>
    intro priorEnd
    refine ⟨fun _ => ⟨[], rfl, rfl⟩, ?_⟩
    rintro ⟨bound, hbound, -⟩
    cases hbound
  | cons delta deltas ih =>
    intro priorEnd
    obtain ⟨startDelta, endDelta⟩ := delta
    by_cases hstart : priorEnd.toNat + startDelta.toNat < 2 ^ 64
    · obtain ⟨hadd, hsum⟩ := addDelta_of_lt hstart
      cases endDelta with
      | none =>
        simp only [rangesFrom, sumsFrom, hadd, except_ok_bind, boundsOf, List.flatMap_cons,
          Option.toList_none, List.cons_append, List.nil_append, List.forall_mem_cons,
          List.exists_mem_cons_iff]
        obtain ⟨hfits, hpast⟩ := ih priorEnd
        constructor
        · rintro ⟨-, hall⟩
          obtain ⟨ranges, hranges, hmap⟩ := hfits hall
          refine ⟨⟨priorEnd + startDelta, none⟩ :: ranges, by rw [hranges]; rfl, ?_⟩
          rw [List.map_cons, hmap, sumOf, hsum]
          rfl
        · rintro (hlarge | hrest)
          · omega
          · rw [hpast hrest]
            rfl
      | some endDelta =>
        by_cases hend : priorEnd.toNat + startDelta.toNat + endDelta.toNat < 2 ^ 64
        · obtain ⟨hadd', hsum'⟩ := addDelta_of_lt (hsum ▸ hend)
          rw [hsum] at hsum'
          simp only [rangesFrom, sumsFrom, hadd, hadd', except_ok_bind, boundsOf, List.flatMap_cons,
            Option.toList_some, List.cons_append, List.nil_append, List.forall_mem_cons,
            List.exists_mem_cons_iff]
          obtain ⟨hfits, hpast⟩ := ih (priorEnd + startDelta + endDelta)
          rw [hsum'] at hfits hpast
          constructor
          · rintro ⟨-, -, hall⟩
            obtain ⟨ranges, hranges, hmap⟩ := hfits hall
            refine ⟨⟨priorEnd + startDelta, some (priorEnd + startDelta + endDelta)⟩ :: ranges,
              by rw [hranges]; rfl, ?_⟩
            rw [List.map_cons, hmap, sumOf, hsum, Option.map_some, hsum']
          · rintro (hlarge | hlarge | hrest)
            · omega
            · omega
            · rw [hpast hrest]
              rfl
        · have herror := addDelta_of_le (hsum ▸ Nat.le_of_not_lt hend)
          constructor
          · intro hall
            exact absurd (hall _ (List.mem_cons_of_mem _ List.mem_cons_self)) hend
          · intro _
            simp only [rangesFrom, hadd, except_ok_bind, herror, except_error_bind]
    · have herror := addDelta_of_le (Nat.le_of_not_lt hstart)
      constructor
      · intro hall
        have hmem : priorEnd.toNat + startDelta.toNat ∈
            boundsOf (sumsFrom priorEnd.toNat ((startDelta, endDelta) :: deltas)) := by
          cases endDelta <;> exact List.mem_cons_self
        exact absurd (hall _ hmem) hstart
      · intro _
        cases endDelta <;> simp only [rangesFrom, herror, except_error_bind]

/-- The ranges with their deltas added back contain what the filter admits. -/
theorem within_iff {f : RangeFilter} {ranges : List Range} (h : ranges.map sumOf = f.sums)
    (value : UInt64) : within ranges value = true ↔ f.Admits value := by
  have hcontains : ∀ r : Range, r.contains value = true ↔
      (sumOf r).1 ≤ value.toNat ∧ ∀ last, (sumOf r).2 = some last → value.toNat ≤ last := by
    intro r
    obtain ⟨start, last⟩ := r
    cases last <;> simp [Range.contains, sumOf, UInt64.le_iff_toNat_le]
  unfold within Admits
  rw [List.any_eq_true, ← h]
  simp only [hcontains, List.mem_map, exists_exists_and_eq_and]

theorem mem_bounds_iff {f : RangeFilter} {ranges : List Range} (h : ranges.map sumOf = f.sums)
    (bound : Nat) : bound ∈ boundsOf f.sums ↔
      ∃ value ∈ ranges.flatMap (fun r => r.start :: r.last.toList), value.toNat = bound := by
  have hbounds : boundsOf f.sums =
      (ranges.flatMap fun r => r.start :: r.last.toList).map UInt64.toNat := by
    rw [← h, boundsOf, List.flatMap_map, List.map_flatMap]
    congr 1
    funext r
    obtain ⟨start, last⟩ := r
    cases last <;> rfl
  rw [hbounds, List.mem_map]

/-- Property Types as a kind of filter wants them. -/
def TypeFits (kind : RangeFilterKind) (propertyType : Option UInt64) : Prop :=
  match propertyType with
  | some propertyType => kind.hasPropertyType = true ∧ propertyType % 2 = 0
  | none => kind.hasPropertyType = false

theorem TypeFits.eq_none {kind : RangeFilterKind} {propertyType : Option UInt64}
    (h : TypeFits kind propertyType) (hkind : kind.hasPropertyType = false) : propertyType = none := by
  cases propertyType with
  | none => rfl
  | some propertyType => exact absurd (h.1.symm.trans hkind) nofun

theorem TypeFits.getD_ne {kind : RangeFilterKind} {propertyType other : Option UInt64}
    (h : TypeFits kind propertyType) (h' : TypeFits kind other)
    (hkind : kind.hasPropertyType = true) (hne : propertyType ≠ other) :
    propertyType.getD 0 ≠ other.getD 0 := by
  cases propertyType with
  | none => exact absurd (hkind.symm.trans h) nofun
  | some propertyType =>
    cases other with
    | none => exact absurd (hkind.symm.trans h') nofun
    | some other => exact fun heq => hne (congrArg some heq)

theorem typeFits_of_not_faulty {kind : RangeFilterKind} {f : RangeFilter} (h : ¬ Faulty kind f) :
    TypeFits kind f.propertyType := by
  cases htype : f.propertyType with
  | none => exact Bool.eq_false_of_not_eq_true fun hkind => h (.missingType hkind htype)
  | some propertyType =>
    constructor
    · by_contra hkind
      exact h (.superfluousType (Bool.eq_false_of_not_eq_true hkind) (by rw [htype]; nofun))
    · by_contra hodd
      exact h (.oddType propertyType htype hodd)

theorem validate_of_typeFits {kind : RangeFilterKind} {f : RangeFilter}
    (h : TypeFits kind f.propertyType) :
    f.validate kind = f.ranges >>= fun ranges =>
      match (ranges.flatMap fun r => r.start :: r.last.toList).find? (255 < ·) with
      | some value => if kind = .priority then .error (.priorityOutOfRange value) else .ok ranges
      | none => .ok ranges := by
  unfold validate
  cases htype : f.propertyType with
  | none =>
    rw [htype] at h
    have hkind : kind.hasPropertyType = false := h
    simp only [hkind, except_pure]
    congr 1
    funext ranges
    generalize (ranges.flatMap fun r => r.start :: r.last.toList).find? (255 < ·) = large
    by_cases hpriority : kind = .priority
    · simp only [hpriority, if_true]
      cases large <;> rfl
    · simp only [hpriority, if_false]
      cases large <;> rfl
  | some propertyType =>
    rw [htype] at h
    obtain ⟨hkind, heven⟩ := h
    have hne : kind ≠ .priority := by rintro rfl; cases hkind
    simp only [hkind, heven, hne, ne_eq, not_true_eq_false, if_false, except_pure]
    congr 1
    funext ranges
    split <;> rfl

theorem validate_of_not_typeFits {kind : RangeFilterKind} {f : RangeFilter}
    (h : ¬ TypeFits kind f.propertyType) : ∃ e, f.validate kind = .error e := by
  unfold validate
  cases htype : f.propertyType with
  | none =>
    rw [htype] at h
    have hkind : kind.hasPropertyType = true := Bool.eq_true_of_not_eq_false h
    exact ⟨.propertyTypeMismatch kind, by simp only [hkind]; rfl⟩
  | some propertyType =>
    rw [htype] at h
    cases hkind : kind.hasPropertyType with
    | false => exact ⟨.propertyTypeMismatch kind, rfl⟩
    | true =>
      have hodd : propertyType % 2 ≠ 0 := fun heven => h ⟨hkind, heven⟩
      exact ⟨.oddPropertyType propertyType, by simp only [hodd, ne_eq, not_false_eq_true, if_true]; rfl⟩

/-- A filter without a fault is applied with the ranges it says. -/
theorem validate_of_not_faulty {kind : RangeFilterKind} {f : RangeFilter} (h : ¬ Faulty kind f) :
    ∃ ranges, f.validate kind = .ok ranges ∧ ranges.map sumOf = f.sums := by
  have hfits : ∀ bound ∈ boundsOf f.sums, bound < 2 ^ 64 := fun bound hbound =>
    Nat.lt_of_not_le fun hlarge => h (.overflow bound hbound hlarge)
  obtain ⟨ranges, hranges, hsums⟩ := (rangesFrom_spec f.deltas 0).1 hfits
  have hok : f.ranges = .ok ranges := hranges
  refine ⟨ranges, ?_, hsums⟩
  rw [validate_of_typeFits (typeFits_of_not_faulty h), hok, except_ok_bind]
  cases hfind : (ranges.flatMap fun r => r.start :: r.last.toList).find? (255 < ·) with
  | none => rfl
  | some value =>
    have hlarge := List.find?_some hfind
    rw [decide_eq_true_eq, UInt64.lt_iff_toNat_lt] at hlarge
    have hbound : value.toNat ∈ boundsOf f.sums :=
      (mem_bounds_iff hsums _).mpr ⟨value, List.mem_of_find?_eq_some hfind, rfl⟩
    exact if_neg fun hkind => h (.priority hkind _ hbound hlarge)

/-- A filter with a fault is refused. -/
theorem validate_of_faulty {kind : RangeFilterKind} {f : RangeFilter} (h : Faulty kind f) :
    ∃ e, f.validate kind = .error e := by
  by_cases htype : TypeFits kind f.propertyType
  · rw [validate_of_typeFits htype]
    by_cases hpast : ∃ bound ∈ boundsOf f.sums, 2 ^ 64 ≤ bound
    · have herror : f.ranges = .error .overflow := (rangesFrom_spec f.deltas 0).2 hpast
      exact ⟨.overflow, by rw [herror]; rfl⟩
    · have hfits : ∀ bound ∈ boundsOf f.sums, bound < 2 ^ 64 := fun bound hbound =>
        Nat.lt_of_not_le fun hlarge => hpast ⟨bound, hbound, hlarge⟩
      obtain ⟨ranges, hranges, hsums⟩ := (rangesFrom_spec f.deltas 0).1 hfits
      have hok : f.ranges = .ok ranges := hranges
      rw [hok, except_ok_bind]
      cases h with
      | oddType propertyType hsome hodd =>
        rw [hsome] at htype
        exact absurd htype.2 hodd
      | missingType hkind hnone =>
        rw [hnone] at htype
        exact absurd (hkind.symm.trans htype) nofun
      | superfluousType hkind hsome =>
        obtain ⟨propertyType, hpt⟩ := Option.ne_none_iff_exists'.mp hsome
        rw [hpt] at htype
        exact absurd (hkind.symm.trans htype.1) nofun
      | overflow bound hbound hlarge => exact absurd ⟨bound, hbound, hlarge⟩ hpast
      | priority hkind bound hbound hlarge =>
        obtain ⟨value, hvalue, rfl⟩ := (mem_bounds_iff hsums bound).mp hbound
        cases hfind : (ranges.flatMap fun r => r.start :: r.last.toList).find? (255 < ·) with
        | none =>
          have hsmall := List.find?_eq_none.mp hfind value hvalue
          rw [decide_eq_true_eq, UInt64.lt_iff_toNat_lt] at hsmall
          exact absurd hlarge hsmall
        | some first => exact ⟨.priorityOutOfRange first, if_pos hkind⟩
  · exact validate_of_not_typeFits htype

end RangeFilter

/-! The values of properties. -/

/-- A property with an integer value. -/
def KeyValuePair.integer : KeyValuePair → Option (UInt64 × UInt64)
  | .varInt typeValue value => some (typeValue, value)
  | .bytes _ _ => none

/-- The first integer value of a type. -/
def firstInteger (typeValue : UInt64) (kvps : List KeyValuePair) : Option UInt64 :=
  entryOf typeValue (kvps.filterMap KeyValuePair.integer)

/-- The properties that one stands for, which are several if it holds immutable ones. -/
def ObjectProperty.flattened : ObjectProperty → List KeyValuePair
  | immutableProperties properties => properties
  | priorGroupIdGap gap => [.varInt TrackPropertyType.priorGroupIdGap.toU64 gap]
  | priorObjectIdGap gap => [.varInt TrackPropertyType.priorObjectIdGap.toU64 gap]
  | unknown kvp => [kvp]

def ObjectFields.flattened (fields : ObjectFields) : List KeyValuePair :=
  (fields.properties.getD []).flatMap ObjectProperty.flattened

theorem entryOf_addEntry (key other value : UInt64) (entries : List (UInt64 × UInt64)) :
    entryOf key (addEntry other value entries) =
      (entryOf key entries).or (if other = key then some value else none) := by
  unfold addEntry
  split
  next hany =>
    by_cases heq : other = key
    · subst heq
      obtain ⟨e, he, hkey⟩ := List.any_eq_true.mp hany
      have hsome : (entries.find? fun e => e.1 = other).isSome := List.find?_isSome.mpr ⟨e, he, hkey⟩
      obtain ⟨found, hfound⟩ := Option.isSome_iff_exists.mp hsome
      simp only [entryOf, hfound, Option.map_some, Option.some_or]
    · rw [if_neg heq, Option.or_none]
  next =>
    rw [entryOf_append]
    by_cases heq : other = key
    · simp [entryOf, heq]
    · simp [entryOf, heq]

theorem entryOf_collectKvps (key : UInt64) (kvps : List KeyValuePair) :
    ∀ values, entryOf key (collectKvps kvps values) =
      (entryOf key values).or (firstInteger key kvps) := by
  induction kvps with
  | nil => exact fun values => (Option.or_none).symm
  | cons kvp kvps ih =>
    intro values
    cases kvp with
    | varInt typeValue value =>
      have hcons : firstInteger key (.varInt typeValue value :: kvps) =
          (if typeValue = key then some value else none).or (firstInteger key kvps) := by
        by_cases heq : typeValue = key
        · simp [firstInteger, KeyValuePair.integer, entryOf, heq]
        · simp [firstInteger, KeyValuePair.integer, entryOf, heq]
      rw [hcons, ← Option.or_assoc, ← entryOf_addEntry]
      exact ih (addEntry typeValue value values)
    | bytes typeValue value => exact ih values

theorem collectKvps_append (front rear : List KeyValuePair) (values : List (UInt64 × UInt64)) :
    collectKvps (front ++ rear) values = collectKvps rear (collectKvps front values) :=
  List.foldl_append

theorem collectProperty_eq (values : List (UInt64 × UInt64)) (property : ObjectProperty) :
    collectProperty values property = collectKvps property.flattened values := by
  cases property <;> rfl

/-- A property is filtered on the first integer value of its type. -/
theorem entryOf_objectPropertyValues (key : UInt64) (fields : ObjectFields) :
    entryOf key (objectPropertyValues fields.properties) = firstInteger key fields.flattened := by
  have hcollect : ∀ (properties : List ObjectProperty) (values : List (UInt64 × UInt64)),
      properties.foldl collectProperty values =
        collectKvps (properties.flatMap ObjectProperty.flattened) values := by
    intro properties
    induction properties with
    | nil => exact fun _ => rfl
    | cons property properties ih =>
      intro values
      rw [List.foldl_cons, ih, collectProperty_eq, List.flatMap_cons, collectKvps_append]
  rw [objectPropertyValues, hcollect, entryOf_collectKvps]
  rfl

/-! What a set requires. -/

/-- The filter lets an Object through. A track filter is none of the Object's business. -/
def Satisfied (fields : ObjectFields) (f : RangeFilter) : RangeFilterKind → Prop
  | .subgroup => ∃ id, fields.subgroupId = some id ∧ f.Admits id
  | .objectId => f.Admits fields.objectId
  | .priority => f.Admits fields.publisherPriority.toUInt64
  | .objectProperty =>
    ∃ value, firstInteger (f.propertyType.getD 0) fields.flattened = some value ∧ f.Admits value
  | .trackProperty => True

/-- The filter lets a track with these values through. An object filter is none of its business. -/
def SatisfiedByTrack (values : List (UInt64 × UInt64)) (f : RangeFilter) : RangeFilterKind → Prop
  | .trackProperty => ∃ value, entryOf (f.propertyType.getD 0) values = some value ∧ f.Admits value
  | _ => True

namespace FilterSet

/-- Whether the set has no filter of the kind, for the Property Type if the kind has one. -/
def Free (set : FilterSet) (propertyType : UInt64) : RangeFilterKind → Prop
  | .subgroup => set.subgroup = none
  | .objectId => set.objectId = none
  | .priority => set.priority = none
  | .objectProperty => ∀ ranges, (propertyType, ranges) ∉ set.objectProperties
  | .trackProperty => ∀ ranges, (propertyType, ranges) ∉ set.trackProperties

/-- What the filters of the set do, seen from the list they are from. -/
structure Means (set : FilterSet) (filters : List (RangeFilterKind × RangeFilter)) (setId : UInt8) :
    Prop where
  free : ∀ kind propertyType, RangeFilter.TypeFits kind propertyType →
    (∀ p ∈ filters, p.2.setId = setId → p.1 = kind → p.2.propertyType ≠ propertyType) →
      set.Free (propertyType.getD 0) kind
  objects : ∀ fields, set.matches fields = true ↔
    ∀ p ∈ filters, p.2.setId = setId → Satisfied fields p.2 p.1
  tracks : ∀ values, propertiesPass set.trackProperties values = true ↔
    ∀ p ∈ filters, p.2.setId = setId → SatisfiedByTrack values p.2 p.1

theorem matches_iff (set : FilterSet) (fields : ObjectFields) : set.matches fields = true ↔
    (∀ ranges, set.subgroup = some ranges → fields.subgroupId.any (within ranges) = true) ∧
    (∀ ranges, set.objectId = some ranges → within ranges fields.objectId = true) ∧
    (∀ ranges, set.priority = some ranges →
      within ranges fields.publisherPriority.toUInt64 = true) ∧
    propertiesPass set.objectProperties (objectPropertyValues fields.properties) = true := by
  have hempty : ∀ required values, propertiesPass required values =
      (required.isEmpty || propertiesPass required values) := by
    intro required values
    cases required <;> rfl
  unfold FilterSet.matches
  rw [← hempty]
  simp only [Bool.and_eq_true, Option.all_eq_true, and_assoc]

end FilterSet

/-- One more property is required. -/
theorem propertiesPass_modifyEntry {required : List (UInt64 × List Range)} {propertyType : UInt64}
    (h : ∀ ranges, (propertyType, ranges) ∉ required) (ranges : List Range)
    (values : List (UInt64 × UInt64)) :
    propertiesPass (modifyEntry propertyType (fun _ => ranges) required) values = true ↔
      propertiesPass required values = true ∧
        (entryOf propertyType values).any (within ranges) = true := by
  unfold propertiesPass
  rw [(modifyEntry_perm_of_absent h _).all_eq, List.all_cons, Bool.and_eq_true, and_comm]

namespace FilterSet

open CombinedFilter (withRanges)

variable {kind : RangeFilterKind} {f : RangeFilter} {ranges : List Range} {set : FilterSet}
  {filters : List (RangeFilterKind × RangeFilter)} {setId : UInt8}

/-- The filter takes up no room but its own. -/
theorem free_withRanges (hfits : RangeFilter.TypeFits kind f.propertyType) {kind' : RangeFilterKind}
    {other : Option UInt64} (hfits' : RangeFilter.TypeFits kind' other)
    (hne : kind = kind' → f.propertyType ≠ other) (hfree : set.Free (other.getD 0) kind') :
    (withRanges kind f.propertyType ranges set).Free (other.getD 0) kind' := by
  by_cases hkind : kind = kind'
  · subst hkind
    cases htype : kind.hasPropertyType with
    | false => exact absurd ((hfits.eq_none htype).trans (hfits'.eq_none htype).symm) (hne rfl)
    | true =>
      have hother := (hfits.getD_ne hfits' htype (hne rfl)).symm
      cases kind with
      | subgroup | objectId | priority => cases htype
      | objectProperty | trackProperty =>
        exact fun ranges' hmem => hfree ranges' ((mem_modifyEntry_of_ne hother _ _).mp hmem)
  · cases kind <;> cases kind' <;> first | exact absurd rfl hkind | exact hfree

theorem any_within (h : ranges.map RangeFilter.sumOf = f.sums) (value : Option UInt64) :
    value.any (within ranges) = true ↔ ∃ v, value = some v ∧ f.Admits v := by
  simp only [Option.any_eq_true, RangeFilter.within_iff h]

theorem matches_withRanges (hfree : set.Free (f.propertyType.getD 0) kind)
    (hranges : ranges.map RangeFilter.sumOf = f.sums) (fields : ObjectFields) :
    (withRanges kind f.propertyType ranges set).matches fields = true ↔
      set.matches fields = true ∧ Satisfied fields f kind := by
  rw [matches_iff, matches_iff]
  cases kind with
  | subgroup =>
    have hnone : set.subgroup = none := hfree
    simp only [withRanges, hnone, Option.some.injEq, forall_eq', any_within hranges, Satisfied,
      reduceCtorEq, false_implies, implies_true, true_and]
    exact and_comm
  | objectId =>
    have hnone : set.objectId = none := hfree
    simp only [withRanges, hnone, Option.some.injEq, forall_eq', RangeFilter.within_iff hranges,
      Satisfied, reduceCtorEq, false_implies, implies_true, true_and]
    tauto
  | priority =>
    have hnone : set.priority = none := hfree
    simp only [withRanges, hnone, Option.some.injEq, forall_eq', RangeFilter.within_iff hranges,
      Satisfied, reduceCtorEq, false_implies, implies_true, true_and]
    tauto
  | objectProperty =>
    simp only [withRanges, propertiesPass_modifyEntry hfree, any_within hranges, Satisfied,
      entryOf_objectPropertyValues, and_assoc]
  | trackProperty => simp only [withRanges, Satisfied, and_true]

theorem tracks_withRanges (hfree : set.Free (f.propertyType.getD 0) kind)
    (hranges : ranges.map RangeFilter.sumOf = f.sums) (values : List (UInt64 × UInt64)) :
    propertiesPass (withRanges kind f.propertyType ranges set).trackProperties values = true ↔
      propertiesPass set.trackProperties values = true ∧ SatisfiedByTrack values f kind := by
  cases kind with
  | subgroup | objectId | priority | objectProperty =>
    simp only [withRanges, SatisfiedByTrack, and_true]
  | trackProperty =>
    simp only [withRanges, propertiesPass_modifyEntry hfree, any_within hranges, SatisfiedByTrack]

namespace Means

theorem of_new (h : ∀ p ∈ filters, p.2.setId ≠ setId) : Means default filters setId where
  free kind propertyType _ _ := by cases kind <;> first | rfl | exact fun _ => List.not_mem_nil
  objects fields := by
    constructor
    · exact fun _ p hp hid => absurd hid (h p hp)
    · exact fun _ => rfl
  tracks values := by
    constructor
    · exact fun _ p hp hid => absurd hid (h p hp)
    · exact fun _ => rfl

/-- A filter of another SetID changes nothing. -/
theorem other (h : Means set filters setId) (hne : f.setId ≠ setId) :
    Means set (filters ++ [(kind, f)]) setId where
  free kind' propertyType hfits hall := by
    apply h.free kind' propertyType hfits
    exact fun p hp => hall p (List.mem_append_left _ hp)
  objects fields := by
    rw [h.objects, List.forall_mem_append, List.forall_mem_singleton]
    exact (and_iff_left fun hid => absurd hid hne).symm
  tracks values := by
    rw [h.tracks, List.forall_mem_append, List.forall_mem_singleton]
    exact (and_iff_left fun hid => absurd hid hne).symm

/-- A filter of the set's SetID is required with the others. -/
theorem add (h : Means set filters f.setId) (hfits : RangeFilter.TypeFits kind f.propertyType)
    (hranges : ranges.map RangeFilter.sumOf = f.sums)
    (hnew : ∀ p ∈ filters, p.2.setId = f.setId → p.1 = kind → p.2.propertyType ≠ f.propertyType) :
    Means (withRanges kind f.propertyType ranges set) (filters ++ [(kind, f)]) f.setId where
  free kind' propertyType hfits' hall := by
    rw [List.forall_mem_append, List.forall_mem_singleton] at hall
    exact free_withRanges hfits hfits' (hall.2 rfl) (h.free kind' propertyType hfits' hall.1)
  objects fields := by
    rw [matches_withRanges (h.free kind _ hfits hnew) hranges, h.objects, List.forall_mem_append,
      List.forall_mem_singleton]
    exact and_congr_right' ⟨fun hs _ => hs, fun hs => hs rfl⟩
  tracks values := by
    rw [tracks_withRanges (h.free kind _ hfits hnew) hranges, h.tracks, List.forall_mem_append,
      List.forall_mem_singleton]
    exact and_congr_right' ⟨fun hs _ => hs, fun hs => hs rfl⟩

end Means

end FilterSet

/-! The map of the sets. -/

namespace CombinedFilter

/-- The Range Filters among the parameters, removals left out. -/
def filtersOf (params : List MessageParameter) : List (RangeFilterKind × RangeFilter) :=
  params.filterMap fun
    | .rangeFilter kind (some f) => some (kind, f)
    | _ => none

/-- What no two filters have in common. -/
def keyOf (p : RangeFilterKind × RangeFilter) : RangeFilterKind × UInt8 × Option UInt64 :=
  (p.1, p.2.setId, p.2.propertyType)

/-- There is a set for each SetID, and it is what the filters of the SetID are. -/
structure Means (filters : List (RangeFilterKind × RangeFilter)) (filter : CombinedFilter) :
    Prop where
  sorted : SortedEntries filter.sets
  sets : ∀ setId set, (setId, set) ∈ filter.sets → set.Means filters setId
  setIds : ∀ setId, (∃ set, (setId, set) ∈ filter.sets) ↔ ∃ p ∈ filters, p.2.setId = setId

/-- Filters that can be applied after those with the keys seen. -/
structure Applicable (seen : List (RangeFilterKind × UInt8 × Option UInt64))
    (filters : List (RangeFilterKind × RangeFilter)) : Prop where
  faultless : ∀ p ∈ filters, ¬ RangeFilter.Faulty p.1 p.2
  unseen : ∀ p ∈ filters, keyOf p ∉ seen
  distinct : (filters.map keyOf).Nodup

theorem applicable_cons_iff {seen : List (RangeFilterKind × UInt8 × Option UInt64)}
    {p : RangeFilterKind × RangeFilter} {filters : List (RangeFilterKind × RangeFilter)} :
    Applicable seen (p :: filters) ↔
      ¬ RangeFilter.Faulty p.1 p.2 ∧ keyOf p ∉ seen ∧ Applicable (keyOf p :: seen) filters := by
  constructor
  · rintro ⟨hfaultless, hunseen, hdistinct⟩
    rw [List.forall_mem_cons] at hfaultless hunseen
    rw [List.map_cons, List.nodup_cons] at hdistinct
    refine ⟨hfaultless.1, hunseen.1, hfaultless.2, ?_, hdistinct.2⟩
    intro q hq hmem
    rcases List.mem_cons.mp hmem with heq | hseen
    · exact hdistinct.1 (heq ▸ List.mem_map_of_mem hq)
    · exact hunseen.2 q hq hseen
  · rintro ⟨hfault, hseen, hfaultless, hunseen, hdistinct⟩
    refine ⟨List.forall_mem_cons.mpr ⟨hfault, hfaultless⟩, ?_, ?_⟩
    · rw [List.forall_mem_cons]
      exact ⟨hseen, fun q hq hmem => hunseen q hq (List.mem_cons_of_mem _ hmem)⟩
    · rw [List.map_cons, List.nodup_cons]
      refine ⟨?_, hdistinct⟩
      intro hmem
      obtain ⟨q, hq, heq⟩ := List.mem_map.mp hmem
      exact hunseen q hq (heq ▸ List.mem_cons_self)

theorem Means.empty : Means [] default where
  sorted := .nil
  sets setId set hmem := absurd hmem List.not_mem_nil
  setIds setId := by
    constructor
    · rintro ⟨set, hmem⟩
      exact absurd hmem List.not_mem_nil
    · rintro ⟨p, hmem, -⟩
      exact absurd hmem List.not_mem_nil

/-- What a turn of the loop keeps. -/
theorem Means.add {filters : List (RangeFilterKind × RangeFilter)} {filter : CombinedFilter}
    (h : Means filters filter) {kind : RangeFilterKind} {f : RangeFilter} {ranges : List Range}
    (hfits : RangeFilter.TypeFits kind f.propertyType)
    (hranges : ranges.map RangeFilter.sumOf = f.sums)
    (hnew : ∀ p ∈ filters, keyOf p ≠ keyOf (kind, f)) (rangeCount : Nat) :
    Means (filters ++ [(kind, f)])
      ⟨modifyEntry f.setId (withRanges kind f.propertyType ranges) filter.sets, rangeCount⟩ where
  sorted := h.sorted.modifyEntry _ _
  sets setId set hmem := by
    have hunlike : ∀ p ∈ filters, p.2.setId = f.setId → p.1 = kind →
        p.2.propertyType ≠ f.propertyType := by
      intro p hp hid hkind htype
      exact hnew p hp (by simp only [keyOf, hid, hkind, htype])
    by_cases hid : setId = f.setId
    · subst hid
      rcases (mem_modifyEntry_self h.sorted _ _ _).mp hmem with ⟨old, hold, rfl⟩ | ⟨hnone, rfl⟩
      · exact (h.sets _ old hold).add hfits hranges hunlike
      · apply (FilterSet.Means.of_new ?_).add hfits hranges hunlike
        intro p hp heq
        obtain ⟨set, hset⟩ := (h.setIds _).mpr ⟨p, hp, heq⟩
        exact hnone set hset
    · have hold := (mem_modifyEntry_of_ne hid _ _).mp hmem
      exact (h.sets setId set hold).other (Ne.symm hid)
  setIds setId := by
    simp only [List.mem_append, List.mem_singleton, or_and_right, exists_or, exists_eq_left,
      ← h.setIds]
    by_cases hid : setId = f.setId
    · subst hid
      refine ⟨fun _ => Or.inr rfl, fun _ => ?_⟩
      by_cases hold : ∃ set, (f.setId, set) ∈ filter.sets
      · obtain ⟨set, hset⟩ := hold
        exact ⟨_, (mem_modifyEntry_self h.sorted _ _ _).mpr (Or.inl ⟨set, hset, rfl⟩)⟩
      · exact ⟨_, (mem_modifyEntry_self h.sorted _ _ _).mpr
          (Or.inr ⟨fun set hset => hold ⟨set, hset⟩, rfl⟩)⟩
    · simp only [mem_modifyEntry_of_ne hid, Ne.symm hid, or_false]

/-- The loop makes a filter of the parameters exactly where they can be applied. -/
theorem newFrom_spec (params : List MessageParameter) :
    ∀ (seen : List (RangeFilterKind × UInt8 × Option UInt64)) (filter : CombinedFilter)
      (filters : List (RangeFilterKind × RangeFilter)), Means filters filter →
      (∀ p ∈ filters, keyOf p ∈ seen) →
      (Applicable seen (filtersOf params) → ∃ combined, newFrom seen filter params = .ok combined ∧
        Means (filters ++ filtersOf params) combined) ∧
      (¬ Applicable seen (filtersOf params) → ∃ e, newFrom seen filter params = .error e) := by
  induction params with
  | nil =>
    intro seen filter filters hmeans _
    constructor
    · exact fun _ => ⟨filter, rfl, by rwa [filtersOf, List.filterMap_nil, List.append_nil]⟩
    · exact fun hnot => absurd ⟨nofun, nofun, .nil⟩ hnot
  | cons param params ih =>
    intro seen filter filters hmeans hseen
    have hskip : filtersOf (param :: params) = filtersOf params →
        newFrom seen filter (param :: params) = newFrom seen filter params →
        (Applicable seen (filtersOf (param :: params)) → ∃ combined,
          newFrom seen filter (param :: params) = .ok combined ∧
            Means (filters ++ filtersOf (param :: params)) combined) ∧
        (¬ Applicable seen (filtersOf (param :: params)) →
          ∃ e, newFrom seen filter (param :: params) = .error e) := by
      intro hfilters hnew
      rw [hfilters, hnew]
      exact ih seen filter filters hmeans hseen
    cases param with
    | rangeFilter kind f =>
      cases f with
      | none => exact hskip rfl rfl
      | some f =>
        have hcons : filtersOf (.rangeFilter kind (some f) :: params) =
            (kind, f) :: filtersOf params := rfl
        rw [hcons, applicable_cons_iff]
        by_cases hkey : keyOf (kind, f) ∈ seen
        · refine ⟨fun h => absurd hkey h.2.1, fun _ => ?_⟩
          exact ⟨.duplicate kind f.setId f.propertyType, if_pos hkey⟩
        · have hturn : newFrom seen filter (.rangeFilter kind (some f) :: params) =
              f.validate kind >>= fun ranges => newFrom (keyOf (kind, f) :: seen)
                ⟨modifyEntry f.setId (withRanges kind f.propertyType ranges) filter.sets,
                  filter.rangeCount + ranges.length⟩ params := if_neg hkey
          rw [hturn]
          by_cases hfault : RangeFilter.Faulty kind f
          · obtain ⟨e, he⟩ := RangeFilter.validate_of_faulty hfault
            exact ⟨fun h => absurd hfault h.1, fun _ => ⟨e, by rw [he]; rfl⟩⟩
          · obtain ⟨ranges, hvalidate, hsums⟩ := RangeFilter.validate_of_not_faulty hfault
            have hnew : ∀ p ∈ filters, keyOf p ≠ keyOf (kind, f) := fun p hp heq =>
              hkey (heq ▸ hseen p hp)
            have hmeans' := hmeans.add (RangeFilter.typeFits_of_not_faulty hfault) hsums hnew
              (filter.rangeCount + ranges.length)
            have hseen' : ∀ p ∈ filters ++ [(kind, f)], keyOf p ∈ keyOf (kind, f) :: seen := by
              rw [List.forall_mem_append, List.forall_mem_singleton]
              exact ⟨fun p hp => List.mem_cons_of_mem _ (hseen p hp), List.mem_cons_self⟩
            have hrest := ih _ _ _ hmeans' hseen'
            rw [List.append_assoc] at hrest
            rw [hvalidate, except_ok_bind]
            exact ⟨fun h => hrest.1 h.2.2, fun h => hrest.2 fun h' => h ⟨hfault, hkey, h'⟩⟩
    | _ => exact hskip rfl rfl

theorem new_of_applicable {params : List MessageParameter} (h : Applicable [] (filtersOf params)) :
    ∃ combined, new params = .ok combined ∧ Means (filtersOf params) combined :=
  (newFrom_spec params [] default [] .empty nofun).1 h

theorem new_of_not_applicable {params : List MessageParameter}
    (h : ¬ Applicable [] (filtersOf params)) : ∃ e, new params = .error e :=
  (newFrom_spec params [] default [] .empty nofun).2 h

/-- A filter that is made means what the list does. -/
theorem means_of_new {params : List MessageParameter} {combined : CombinedFilter}
    (h : new params = .ok combined) :
    Applicable [] (filtersOf params) ∧ Means (filtersOf params) combined := by
  by_cases happlicable : Applicable [] (filtersOf params)
  · obtain ⟨combined', hnew, hmeans⟩ := new_of_applicable happlicable
    cases h.symm.trans hnew
    exact ⟨happlicable, hmeans⟩
  · obtain ⟨e, herror⟩ := new_of_not_applicable happlicable
    cases h.symm.trans herror

theorem applicable_nil_iff {filters : List (RangeFilterKind × RangeFilter)} :
    Applicable [] filters ↔
      (∀ p ∈ filters, ¬ RangeFilter.Faulty p.1 p.2) ∧ (filters.map keyOf).Nodup := by
  constructor
  · exact fun h => ⟨h.faultless, h.distinct⟩
  · exact fun h => ⟨h.1, fun _ _ => List.not_mem_nil, h.2⟩

/-- The Object passes the filters of some SetID, or there are none at all. -/
def PassesSome (filters : List (RangeFilterKind × RangeFilter)) (fields : ObjectFields) : Prop :=
  filters = [] ∨ ∃ setId, (∃ p ∈ filters, p.2.setId = setId) ∧
    ∀ p ∈ filters, p.2.setId = setId → Satisfied fields p.2 p.1

theorem Means.isEmpty_iff {filters : List (RangeFilterKind × RangeFilter)} {filter : CombinedFilter}
    (h : Means filters filter) : filter.isEmpty = true ↔ filters = [] := by
  rw [isEmpty, List.isEmpty_iff, List.eq_nil_iff_forall_not_mem, List.eq_nil_iff_forall_not_mem]
  constructor
  · intro hnone p hp
    obtain ⟨set, hset⟩ := (h.setIds _).mpr ⟨p, hp, rfl⟩
    exact hnone _ hset
  · rintro hnone ⟨setId, set⟩ hset
    obtain ⟨p, hp, -⟩ := (h.setIds setId).mp ⟨set, hset⟩
    exact hnone p hp

/-- What the filters of a SetID say of its set holds of some set if it holds of some SetID. -/
theorem Means.any_iff {filters : List (RangeFilterKind × RangeFilter)} {filter : CombinedFilter}
    (h : Means filters filter) {q : FilterSet → Bool} {P : UInt8 → Prop}
    (hq : ∀ setId set, set.Means filters setId → (q set = true ↔ P setId)) :
    filter.sets.any (fun s => q s.2) = true ↔
      ∃ setId, (∃ p ∈ filters, p.2.setId = setId) ∧ P setId := by
  rw [List.any_eq_true]
  constructor
  · rintro ⟨⟨setId, set⟩, hset, hpass⟩
    exact ⟨setId, (h.setIds setId).mp ⟨set, hset⟩, (hq setId set (h.sets setId set hset)).mp hpass⟩
  · rintro ⟨setId, hsome, hP⟩
    obtain ⟨set, hset⟩ := (h.setIds setId).mpr hsome
    exact ⟨(setId, set), hset, (hq setId set (h.sets setId set hset)).mpr hP⟩

theorem Means.passes_iff {filters : List (RangeFilterKind × RangeFilter)} {filter : CombinedFilter}
    (h : Means filters filter) (fields : ObjectFields) :
    filter.passes fields = true ↔ PassesSome filters fields := by
  rw [passes, Bool.or_eq_true, h.isEmpty_iff, PassesSome,
    h.any_iff fun setId set hmeans => hmeans.objects fields]

theorem Applicable.perm {filters filters' : List (RangeFilterKind × RangeFilter)}
    (h : Applicable [] filters) (hperm : filters.Perm filters') : Applicable [] filters' := by
  rw [applicable_nil_iff] at h ⊢
  exact ⟨fun p hp => h.1 p (hperm.mem_iff.mpr hp), (hperm.map keyOf).nodup_iff.mp h.2⟩

theorem passesSome_perm {filters filters' : List (RangeFilterKind × RangeFilter)}
    (hperm : filters.Perm filters') (fields : ObjectFields) :
    PassesSome filters fields ↔ PassesSome filters' fields := by
  have hempty : filters = [] ↔ filters' = [] := by
    rw [← List.length_eq_zero_iff, ← List.length_eq_zero_iff, hperm.length_eq]
  simp only [PassesSome, hempty, hperm.mem_iff]

/-- Range Filters are refused for a repetition or a fault and for nothing else. Otherwise an Object
passes with all of the filters of some SetID, in whatever order they were given. -/
theorem new_means (params : List MessageParameter) :
    ((∃ e, new params = .error e) ↔ ¬ ((filtersOf params).map keyOf).Nodup ∨
      ∃ p ∈ filtersOf params, RangeFilter.Faulty p.1 p.2) ∧
    ∀ combined, new params = .ok combined →
      (∀ fields, combined.passes fields = true ↔ PassesSome (filtersOf params) fields) ∧
      ∀ params', params.Perm params' → ∃ combined', new params' = .ok combined' ∧
        ∀ fields, combined'.passes fields = combined.passes fields := by
  constructor
  · have hnot : ¬ Applicable [] (filtersOf params) ↔ ¬ ((filtersOf params).map keyOf).Nodup ∨
        ∃ p ∈ filtersOf params, RangeFilter.Faulty p.1 p.2 := by
      rw [applicable_nil_iff, not_and_or, or_comm]
      simp only [not_forall, not_not, exists_prop]
    rw [← hnot]
    constructor
    · rintro ⟨e, herror⟩ happlicable
      obtain ⟨combined, hnew, -⟩ := new_of_applicable happlicable
      cases herror.symm.trans hnew
    · exact new_of_not_applicable
  · intro combined hnew
    obtain ⟨happlicable, hmeans⟩ := means_of_new hnew
    refine ⟨hmeans.passes_iff, ?_⟩
    intro params' hperm
    have hfilters : (filtersOf params).Perm (filtersOf params') := hperm.filterMap _
    obtain ⟨combined', hnew', hmeans'⟩ := new_of_applicable (happlicable.perm hfilters)
    refine ⟨combined', hnew', ?_⟩
    intro fields
    rw [Bool.eq_iff_iff, hmeans.passes_iff, hmeans'.passes_iff, passesSome_perm hfilters]

end CombinedFilter

end Moqtail
