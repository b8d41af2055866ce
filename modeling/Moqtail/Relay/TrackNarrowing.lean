import Moqtail.Wire.FilterMeaning
import Moqtail.Wire.TrackProperty

/-! The Range Filters of a SUBSCRIBE_TRACKS, narrowed to one track.

`narrow_for_track` of `model/parameter/combined_filter.rs` selects among the sets of the filter that
the parameters make, `filters_for_track` of the relay's `filter_constructor.rs` among the parameters
themselves. A track is pushed by both or by neither, and an Object of it is let through by both or by
neither. -/
namespace Moqtail

open Lib

/-- The turn of the loop. -/
def collectTrackProperty (values : List (UInt64 × UInt64)) (property : TrackProperty) :
    List (UInt64 × UInt64) :=
  match property with
  | .immutableProperties properties => collectKvps properties values
  | other =>
    match other.tryIntoKeyValuePair with
    | .ok kvp => collectKvps [kvp] values
    | .error _ => values

def trackPropertyValues (properties : List TrackProperty) : List (UInt64 × UInt64) :=
  properties.foldl collectTrackProperty []

def setRangeCount (set : FilterSet) : Nat :=
  ([set.subgroup, set.objectId, set.priority].reduceOption ++ set.objectProperties.map (·.2) ++
    set.trackProperties.map (·.2)).map List.length |>.sum

def FilterSet.withoutTrackFilters (set : FilterSet) : FilterSet := { set with trackProperties := [] }

namespace CombinedFilter

/-- The loop, with the filter narrowed so far. -/
def narrowFrom (values : List (UInt64 × UInt64)) (narrowed : CombinedFilter) :
    List (UInt8 × FilterSet) → CombinedFilter
  | [] => narrowed
  | (setId, set) :: sets =>
    if propertiesPass set.trackProperties values then
      let set := set.withoutTrackFilters
      narrowFrom values ⟨modifyEntry setId (fun _ => set) narrowed.sets,
        narrowed.rangeCount + setRangeCount set⟩ sets
    else narrowFrom values narrowed sets

def narrowForTrack (filter : CombinedFilter) (properties : List TrackProperty) :
    Option CombinedFilter :=
  if filter.isEmpty then some default
  else
    let narrowed := narrowFrom (trackPropertyValues properties) default filter.sets
    if narrowed.sets.isEmpty then none else some narrowed

end CombinedFilter

/-- The parameters with filters, by their SetIDs. -/
def filtersBySet (params : List MessageParameter) : List (UInt8 × List MessageParameter) :=
  params.foldl (fun sets param =>
    match param with
    | .rangeFilter _ (some filter) => modifyEntry filter.setId (· ++ [param]) sets
    | _ => sets) []

def isTrackFilter : MessageParameter → Bool
  | .rangeFilter .trackProperty _ => true
  | _ => false

/-- Whether the track filters of a set let the track through. -/
def setPasses (properties : List TrackProperty) (filters : List MessageParameter) : Bool :=
  ((CombinedFilter.new (filters.filter isTrackFilter)).toOption.bind
    (·.narrowForTrack properties)).isSome

/-- The loop, with what is kept so far and whether a set has passed. -/
def keepFilters (properties : List TrackProperty) (kept : List MessageParameter)
    (anyPassed : Bool) : List (UInt8 × List MessageParameter) → Option (List MessageParameter)
  | [] => if anyPassed then some kept else none
  | (_, filters) :: sets =>
    if setPasses properties filters then
      let objects := filters.filter (! isTrackFilter ·)
      if objects.isEmpty then some [] else keepFilters properties (kept ++ objects) true sets
    else keepFilters properties kept anyPassed sets

def filtersForTrack (params : List MessageParameter) (properties : List TrackProperty) :
    Option (List MessageParameter) :=
  let sets := filtersBySet params
  if sets.isEmpty then some [] else keepFilters properties [] false sets

/-! The filter, narrowed. -/

namespace CombinedFilter

/-- The filters of a SetID let a track with these values through. -/
def TrackPasses (filters : List (RangeFilterKind × RangeFilter)) (values : List (UInt64 × UInt64))
    (setId : UInt8) : Prop :=
  ∀ p ∈ filters, p.2.setId = setId → SatisfiedByTrack values p.2 p.1

/-- The sets that are kept, without their track filters. -/
def keptSets (values : List (UInt64 × UInt64)) (sets : List (UInt8 × FilterSet)) :
    List (UInt8 × FilterSet) :=
  (sets.filter fun s => propertiesPass s.2.trackProperties values).map fun s =>
    (s.1, s.2.withoutTrackFilters)

/-- The loop keeps the sets whose track filters pass. -/
theorem narrowFrom_perm (values : List (UInt64 × UInt64)) {sets : List (UInt8 × FilterSet)} :
    SortedEntries sets → ∀ narrowed : CombinedFilter,
      (∀ s ∈ sets, ∀ set, (s.1, set) ∉ narrowed.sets) →
      (narrowFrom values narrowed sets).sets.Perm (narrowed.sets ++ keptSets values sets) := by
  induction sets with
  | nil =>
    intro _ narrowed _
    rw [keptSets, List.filter_nil, List.map_nil, List.append_nil]
    rfl
  | cons s sets ih =>
    obtain ⟨setId, set⟩ := s
    intro hsorted narrowed hnew
    unfold SortedEntries at hsorted
    rw [List.pairwise_cons] at hsorted
    rw [List.forall_mem_cons] at hnew
    rw [narrowFrom]
    split
    next hpass =>
      have hperm := modifyEntry_perm_of_absent hnew.1 fun _ => set.withoutTrackFilters
      have hkept : keptSets values ((setId, set) :: sets) =
          (setId, set.withoutTrackFilters) :: keptSets values sets := by
        simp only [keptSets, List.filter_cons, hpass, if_true, List.map_cons]
      rw [hkept]
      apply (ih hsorted.2 _ ?_).trans
      · exact (hperm.append_right _).trans List.perm_middle.symm
      · intro s hs set' hmem
        have hne : s.1 ≠ setId := (Std.ne_of_lt (hsorted.1 s hs)).symm
        exact hnew.2 s hs set' ((mem_modifyEntry_of_ne hne _ _).mp hmem)
    next hfail =>
      have hkept : keptSets values ((setId, set) :: sets) = keptSets values sets := by
        simp only [keptSets, List.filter_cons, hfail, if_false, Bool.false_eq_true]
      rw [hkept]
      exact ih hsorted.2 narrowed hnew.2

variable {filters : List (RangeFilterKind × RangeFilter)} {filter : CombinedFilter}

/-- A kept set is about Objects as it was. -/
theorem any_keptSets {q : FilterSet → Bool} (hq : ∀ set, q set.withoutTrackFilters = q set)
    (values : List (UInt64 × UInt64)) (sets : List (UInt8 × FilterSet)) :
    (keptSets values sets).any (fun s => q s.2) =
      sets.any fun s => propertiesPass s.2.trackProperties values && q s.2 := by
  simp only [keptSets, List.any_map, List.any_filter, Function.comp_def, hq]

theorem Means.any_narrowed (h : Means filters filter) (values : List (UInt64 × UInt64))
    {q : FilterSet → Bool} (hq : ∀ set, q set.withoutTrackFilters = q set) {P : UInt8 → Prop}
    (hP : ∀ setId set, set.Means filters setId → (q set = true ↔ P setId)) :
    (narrowFrom values default filter.sets).sets.any (fun s => q s.2) = true ↔
      ∃ setId, (∃ p ∈ filters, p.2.setId = setId) ∧ TrackPasses filters values setId ∧ P setId := by
  have hperm := narrowFrom_perm values h.sorted default fun _ _ _ => List.not_mem_nil
  rw [hperm.any_eq]
  show (keptSets values filter.sets).any _ = true ↔ _
  rw [any_keptSets hq]
  apply h.any_iff (q := fun set => propertiesPass set.trackProperties values && q set)
    (P := fun setId => TrackPasses filters values setId ∧ P setId)
  intro setId set hmeans
  rw [Bool.and_eq_true, hmeans.tracks values, hP setId set hmeans]
  rfl

theorem not_isEmpty_eq_any {α : Type} (l : List α) : (!l.isEmpty) = l.any fun _ => true := by
  cases l <;> rfl

/-- A track is turned down where no SetID's track filters pass. -/
theorem Means.narrowForTrack_isSome_iff (h : Means filters filter) (properties : List TrackProperty) :
    (filter.narrowForTrack properties).isSome = true ↔ filters = [] ∨
      ∃ setId, (∃ p ∈ filters, p.2.setId = setId) ∧
        TrackPasses filters (trackPropertyValues properties) setId := by
  have hany := h.any_narrowed (trackPropertyValues properties) (q := fun _ => true)
    (P := fun _ => True) (fun _ => rfl) fun _ _ _ => iff_of_true rfl trivial
  rw [← not_isEmpty_eq_any, Bool.not_eq_true'] at hany
  simp only [and_true] at hany
  unfold narrowForTrack
  rw [← h.isEmpty_iff, ← hany]
  cases filter.isEmpty with
  | true => simp
  | false =>
    simp only [Bool.false_eq_true, if_false, false_or]
    split
    next hempty => simp [hempty]
    next hne => simp [hne]

/-- Once narrowed, the filter lets an Object through with all the filters of a SetID whose track
filters pass. -/
theorem Means.passes_narrowed (h : Means filters filter) {properties : List TrackProperty}
    {narrowed : CombinedFilter} (hsome : filter.narrowForTrack properties = some narrowed)
    (fields : ObjectFields) :
    narrowed.passes fields = true ↔ filters = [] ∨
      ∃ setId, (∃ p ∈ filters, p.2.setId = setId) ∧
        TrackPasses filters (trackPropertyValues properties) setId ∧
        ∀ p ∈ filters, p.2.setId = setId → Satisfied fields p.2 p.1 := by
  have hany := h.any_narrowed (trackPropertyValues properties) (q := (·.matches fields))
    (fun _ => rfl) fun setId set hmeans => hmeans.objects fields
  unfold narrowForTrack at hsome
  rw [← h.isEmpty_iff, ← hany]
  cases hempty : filter.isEmpty with
  | true =>
    rw [hempty, if_pos rfl, Option.some.injEq] at hsome
    subst hsome
    exact iff_of_true rfl (Or.inl rfl)
  | false =>
    simp only [hempty, Bool.false_eq_true, if_false] at hsome
    split at hsome
    · cases hsome
    next hne =>
      rw [Option.some.injEq] at hsome
      subst hsome
      simp [passes, isEmpty, hne]

/-- Parameters chosen by their filters. -/
theorem filtersOf_filter {q : MessageParameter → Bool} {r : RangeFilterKind × RangeFilter → Bool}
    (h : ∀ kind f, q (.rangeFilter kind (some f)) = r (kind, f)) (params : List MessageParameter) :
    filtersOf (params.filter q) = (filtersOf params).filter r := by
  unfold filtersOf
  rw [List.filterMap_filter, List.filter_filterMap]
  apply List.filterMap_congr
  intro param _
  cases param with
  | rangeFilter kind f =>
    cases f with
    | none => simp
    | some f => cases hr : r (kind, f) <;> simp [h kind f, hr, Option.filter]
  | _ => simp

end CombinedFilter

/-! The parameters, set by set. -/

/-- The parameter has a filter of the SetID. -/
def inSet (setId : UInt8) : MessageParameter → Bool
  | .rangeFilter _ (some f) => f.setId = setId
  | _ => false

theorem filtersBySet_append_singleton (params : List MessageParameter) (param : MessageParameter) :
    filtersBySet (params ++ [param]) =
      match param with
      | .rangeFilter _ (some filter) =>
        modifyEntry filter.setId (· ++ [param]) (filtersBySet params)
      | _ => filtersBySet params := by
  rw [filtersBySet, List.foldl_append]
  rfl

theorem filtersBySet_skip {params : List MessageParameter} {param : MessageParameter}
    (h : ∀ kind filter, param ≠ .rangeFilter kind (some filter)) :
    filtersBySet (params ++ [param]) = filtersBySet params := by
  rw [filtersBySet_append_singleton]
  split
  next kind filter => exact absurd rfl (h kind filter)
  next => rfl

theorem sorted_filtersBySet (params : List MessageParameter) : SortedEntries (filtersBySet params) := by
  induction params using List.reverseRecOn with
  | nil => exact .nil
  | append_singleton params param ih =>
    rw [filtersBySet_append_singleton]
    split
    · exact ih.modifyEntry _ _
    · exact ih

/-- Each SetID has the parameters with its filters, in their order. -/
theorem mem_filtersBySet (params : List MessageParameter) (setId : UInt8)
    (filters : List MessageParameter) : (setId, filters) ∈ filtersBySet params ↔
      filters = params.filter (inSet setId) ∧ filters ≠ [] := by
  induction params using List.reverseRecOn generalizing filters with
  | nil => simp [filtersBySet]
  | append_singleton params param ih =>
    rw [List.filter_append]
    by_cases hfilter : ∃ kind f, param = .rangeFilter kind (some f)
    · obtain ⟨kind, f, rfl⟩ := hfilter
      rw [filtersBySet_append_singleton]
      by_cases hid : setId = f.setId
      · subst hid
        have hone : [MessageParameter.rangeFilter kind (some f)].filter (inSet f.setId) =
            [.rangeFilter kind (some f)] := by simp [inSet]
        rw [hone]
        refine (mem_modifyEntry_self (sorted_filtersBySet params) _ _ _).trans ?_
        simp only [ih]
        constructor
        · rintro (⟨old, ⟨rfl, -⟩, rfl⟩ | ⟨hnone, rfl⟩)
          · exact ⟨rfl, by simp⟩
          · have hempty : params.filter (inSet f.setId) = [] := by
              by_contra hne
              exact hnone _ ⟨rfl, hne⟩
            rw [hempty]
            exact ⟨rfl, by simp⟩
        · rintro ⟨rfl, -⟩
          by_cases hempty : params.filter (inSet f.setId) = []
          · rw [hempty]
            exact Or.inr ⟨fun old hold => hold.2 hold.1, rfl⟩
          · exact Or.inl ⟨_, ⟨rfl, hempty⟩, rfl⟩
      · have hnone : [MessageParameter.rangeFilter kind (some f)].filter (inSet setId) = [] := by
          simp [inSet, Ne.symm hid]
        rw [hnone, List.append_nil, ← ih]
        exact mem_modifyEntry_of_ne hid _ _
    · rw [filtersBySet_skip fun kind f heq => hfilter ⟨kind, f, heq⟩, ih]
      have hnone : [param].filter (inSet setId) = [] := by
        cases param with
        | rangeFilter kind f =>
          cases f with
          | none => rfl
          | some f => exact absurd ⟨kind, f, rfl⟩ hfilter
        | _ => rfl
      rw [hnone, List.append_nil]

/-- The loop ends early at a set that passes without object filters, and otherwise keeps the object
filters of the sets that pass. -/
theorem keepFilters_spec (properties : List TrackProperty)
    (sets : List (UInt8 × List MessageParameter)) :
    ∀ (kept : List MessageParameter) (anyPassed : Bool),
      ((∃ s ∈ sets, setPasses properties s.2 = true ∧ s.2.filter (! isTrackFilter ·) = []) →
        keepFilters properties kept anyPassed sets = some []) ∧
      ((∀ s ∈ sets, setPasses properties s.2 = true → s.2.filter (! isTrackFilter ·) ≠ []) →
        keepFilters properties kept anyPassed sets =
          if anyPassed || sets.any fun s => setPasses properties s.2 then
            some (kept ++ (sets.filter fun s => setPasses properties s.2).flatMap
              fun s => s.2.filter (! isTrackFilter ·))
          else none) := by
  induction sets with
  | nil =>
    intro kept anyPassed
    constructor
    · rintro ⟨s, hs, -⟩
      exact absurd hs List.not_mem_nil
    · intro _
      simp [keepFilters]
  | cons s sets ih =>
    intro kept anyPassed
    obtain ⟨setId, filters⟩ := s
    rw [List.exists_mem_cons_iff, List.forall_mem_cons, keepFilters]
    cases hpass : setPasses properties filters with
    | false =>
      obtain ⟨hearly, hall⟩ := ih kept anyPassed
      simp only [hpass, Bool.false_eq_true, if_false, false_and, false_or, false_implies, true_and,
        List.any_cons, List.filter_cons, Bool.false_or]
      exact ⟨hearly, hall⟩
    | true =>
      obtain ⟨hearly, hall⟩ := ih (kept ++ filters.filter (! isTrackFilter ·)) true
      simp only [hpass, if_true, true_and, true_implies, List.any_cons, List.filter_cons,
        Bool.true_or, Bool.or_true, List.flatMap_cons, ← List.append_assoc]
      by_cases hempty : filters.filter (! isTrackFilter ·) = []
      · simp only [hempty, List.isEmpty_nil, if_true, true_or, ne_eq, not_true_eq_false, false_and,
          false_implies, implies_true, and_self]
      · have hne : (filters.filter (! isTrackFilter ·)).isEmpty = false := by simpa using hempty
        simp only [hempty, hne, Bool.false_eq_true, if_false, false_or, ne_eq, not_false_eq_true,
          true_and]
        refine ⟨hearly, fun h => ?_⟩
        rw [hall h, Bool.true_or, if_pos rfl]

open CombinedFilter (filtersOf TrackPasses)

theorem filtersOf_inSet (params : List MessageParameter) (setId : UInt8) :
    filtersOf (params.filter (inSet setId)) = (filtersOf params).filter fun p => p.2.setId = setId :=
  CombinedFilter.filtersOf_filter (fun _ _ => rfl) params

theorem filtersOf_trackFilters (params : List MessageParameter) :
    filtersOf (params.filter isTrackFilter) =
      (filtersOf params).filter fun p => p.1 = .trackProperty :=
  CombinedFilter.filtersOf_filter (fun kind _ => by cases kind <;> rfl) params

theorem filtersOf_objectFilters (params : List MessageParameter) :
    filtersOf (params.filter (! isTrackFilter ·)) =
      (filtersOf params).filter fun p => p.1 ≠ .trackProperty :=
  CombinedFilter.filtersOf_filter (fun kind _ => by cases kind <;> rfl) params

theorem CombinedFilter.Applicable.sublist {filters filters' : List (RangeFilterKind × RangeFilter)}
    (h : Applicable [] filters) (hsub : filters'.Sublist filters) : Applicable [] filters' where
  faultless p hp := h.faultless p (hsub.subset hp)
  unseen _ _ := List.not_mem_nil
  distinct := h.distinct.sublist (hsub.map keyOf)

theorem satisfiedByTrack_of_ne {kind : RangeFilterKind} (hne : kind ≠ .trackProperty)
    (values : List (UInt64 × UInt64)) (f : RangeFilter) : SatisfiedByTrack values f kind := by
  cases kind with
  | trackProperty => exact absurd rfl hne
  | subgroup | objectId | priority | objectProperty => trivial

variable {params : List MessageParameter} {properties : List TrackProperty}

/-- Of a set's parameters alone, the track filters say what they say in the whole list. -/
theorem setPasses_iff (h : CombinedFilter.Applicable [] (filtersOf params)) (setId : UInt8) :
    setPasses properties (params.filter (inSet setId)) = true ↔
      TrackPasses (filtersOf params) (trackPropertyValues properties) setId := by
  have hfilters := filtersOf_trackFilters (params.filter (inSet setId))
  rw [filtersOf_inSet] at hfilters
  have hmem : ∀ p, p ∈ filtersOf ((params.filter (inSet setId)).filter isTrackFilter) ↔
      p ∈ filtersOf params ∧ p.2.setId = setId ∧ p.1 = .trackProperty := by
    intro p
    rw [hfilters]
    simp only [List.mem_filter, decide_eq_true_eq, and_assoc]
  have hsub : (filtersOf ((params.filter (inSet setId)).filter isTrackFilter)).Sublist
      (filtersOf params) := by
    rw [hfilters]
    exact List.filter_sublist.trans List.filter_sublist
  obtain ⟨combined, hnew, hmeans⟩ := CombinedFilter.new_of_applicable (h.sublist hsub)
  have hset : setPasses properties (params.filter (inSet setId)) =
      (combined.narrowForTrack properties).isSome := by
    rw [setPasses, hnew]
    rfl
  rw [hset, hmeans.narrowForTrack_isSome_iff]
  constructor
  · intro hpasses p hp hid
    by_cases hkind : p.1 = .trackProperty
    · have hp' := (hmem p).mpr ⟨hp, hid, hkind⟩
      rcases hpasses with hempty | ⟨other, ⟨q, hq, hother⟩, hall⟩
      · rw [hempty] at hp'
        cases hp'
      · have hsame : other = setId := hother.symm.trans ((hmem q).mp hq).2.1
        exact hall p hp' (hid.trans hsame.symm)
    · exact satisfiedByTrack_of_ne hkind _ _
  · intro hpasses
    rw [or_iff_not_imp_left]
    intro hne
    obtain ⟨p, hp⟩ := List.exists_mem_of_ne_nil _ hne
    exact ⟨setId, ⟨p, hp, ((hmem p).mp hp).2.1⟩,
      fun q hq hid => hpasses q ((hmem q).mp hq).1 hid⟩

/-- The object filters of the sets that pass. -/
def keptFilters (params : List MessageParameter) (properties : List TrackProperty) :
    List MessageParameter :=
  ((filtersBySet params).filter fun s => setPasses properties s.2).flatMap
    fun s => s.2.filter (! isTrackFilter ·)

theorem filtersOf_keptFilters (params : List MessageParameter) (properties : List TrackProperty) :
    filtersOf (keptFilters params properties) =
      ((filtersBySet params).filter fun s => setPasses properties s.2).flatMap
        fun s => filtersOf (s.2.filter (! isTrackFilter ·)) := List.filterMap_flatMap

/-- A passing set and an object filter of it. -/
theorem mem_filtersOf_set {s : UInt8 × List MessageParameter} (hs : s ∈ filtersBySet params)
    (p : RangeFilterKind × RangeFilter) : p ∈ filtersOf (s.2.filter (! isTrackFilter ·)) ↔
      p ∈ filtersOf params ∧ p.2.setId = s.1 ∧ p.1 ≠ .trackProperty := by
  obtain ⟨hfilters, -⟩ := (mem_filtersBySet params s.1 s.2).mp hs
  rw [filtersOf_objectFilters, hfilters, filtersOf_inSet]
  simp only [List.mem_filter, decide_eq_true_eq, and_assoc]

theorem exists_set (p : RangeFilterKind × RangeFilter) (hp : p ∈ filtersOf params) :
    ∃ s ∈ filtersBySet params, s.1 = p.2.setId := by
  have hmem : p ∈ filtersOf (params.filter (inSet p.2.setId)) := by
    rw [filtersOf_inSet]
    simp [hp]
  have hne : params.filter (inSet p.2.setId) ≠ [] := by
    intro hempty
    rw [hempty] at hmem
    cases hmem
  exact ⟨(p.2.setId, _), (mem_filtersBySet params _ _).mpr ⟨rfl, hne⟩, rfl⟩

theorem mem_keptFilters (h : CombinedFilter.Applicable [] (filtersOf params))
    (p : RangeFilterKind × RangeFilter) : p ∈ filtersOf (keptFilters params properties) ↔
      p ∈ filtersOf params ∧ p.1 ≠ .trackProperty ∧
        TrackPasses (filtersOf params) (trackPropertyValues properties) p.2.setId := by
  rw [filtersOf_keptFilters, List.mem_flatMap]
  constructor
  · rintro ⟨s, hs, hp⟩
    obtain ⟨hs, hpass⟩ := List.mem_filter.mp hs
    obtain ⟨hfilters, -⟩ := (mem_filtersBySet params s.1 s.2).mp hs
    obtain ⟨hp, hid, hkind⟩ := (mem_filtersOf_set hs p).mp hp
    rw [hfilters, setPasses_iff h, ← hid] at hpass
    exact ⟨hp, hkind, hpass⟩
  · rintro ⟨hp, hkind, hpass⟩
    obtain ⟨s, hs, hid⟩ := exists_set p hp
    obtain ⟨hfilters, -⟩ := (mem_filtersBySet params s.1 s.2).mp hs
    refine ⟨s, List.mem_filter.mpr ⟨hs, ?_⟩, (mem_filtersOf_set hs p).mpr ⟨hp, hid.symm, hkind⟩⟩
    rw [hfilters, setPasses_iff h, hid]
    exact hpass

/-- What is kept can be applied as well. -/
theorem applicable_keptFilters (h : CombinedFilter.Applicable [] (filtersOf params))
    (properties : List TrackProperty) :
    CombinedFilter.Applicable [] (filtersOf (keptFilters params properties)) := by
  rw [CombinedFilter.applicable_nil_iff]
  refine ⟨fun p hp => h.faultless p ((mem_keptFilters h p).mp hp).1, ?_⟩
  have hdistinct : (filtersOf params).Pairwise fun p q =>
      CombinedFilter.keyOf p ≠ CombinedFilter.keyOf q := List.pairwise_map.mp h.distinct
  apply List.pairwise_map.mpr
  rw [filtersOf_keptFilters, List.pairwise_flatMap]
  constructor
  · intro s hs
    obtain ⟨hfilters, -⟩ := (mem_filtersBySet params s.1 s.2).mp (List.mem_filter.mp hs).1
    rw [filtersOf_objectFilters, hfilters, filtersOf_inSet]
    exact hdistinct.sublist (List.filter_sublist.trans List.filter_sublist)
  · have hsorted : ((filtersBySet params).filter fun s => setPasses properties s.2).Pairwise
        fun s s' => s.1 < s'.1 := (sorted_filtersBySet params).sublist List.filter_sublist
    apply hsorted.imp_of_mem
    intro s s' hs hs' hlt p hp q hq heq
    have hid := ((mem_filtersOf_set (List.mem_filter.mp hs).1 p).mp hp).2.1
    have hid' := ((mem_filtersOf_set (List.mem_filter.mp hs').1 q).mp hq).2.1
    have hsame : p.2.setId = q.2.setId := congrArg (fun key => key.2.1) heq
    exact Std.ne_of_lt hlt (hid.symm.trans (hsame.trans hid'))

theorem mem_filtersOf (params : List MessageParameter) (kind : RangeFilterKind) (f : RangeFilter) :
    (kind, f) ∈ filtersOf params ↔ .rangeFilter kind (some f) ∈ params := by
  rw [CombinedFilter.filtersOf, List.mem_filterMap]
  constructor
  · rintro ⟨param, hparam, hsome⟩
    cases param with
    | rangeFilter kind' f' =>
      cases f' with
      | none => cases hsome
      | some f' =>
        cases hsome
        exact hparam
    | _ => cases hsome
  · exact fun hparam => ⟨_, hparam, rfl⟩

/-- What is in a set is a filter of its. -/
theorem of_mem_inSet {setId : UInt8} {param : MessageParameter}
    (h : param ∈ params.filter (inSet setId)) : ∃ kind f, param = .rangeFilter kind (some f) ∧
      (kind, f) ∈ filtersOf params ∧ f.setId = setId := by
  obtain ⟨hparam, hid⟩ := List.mem_filter.mp h
  cases param with
  | rangeFilter kind f =>
    cases f with
    | none => cases hid
    | some f =>
      exact ⟨kind, f, rfl, (mem_filtersOf params kind f).mpr hparam, of_decide_eq_true hid⟩
  | _ => cases hid

/-- Something about the parameters of a set. -/
theorem exists_set_iff {Q : List MessageParameter → Prop} :
    (∃ s ∈ filtersBySet params, Q s.2) ↔
      ∃ setId, (∃ p ∈ filtersOf params, p.2.setId = setId) ∧ Q (params.filter (inSet setId)) := by
  constructor
  · rintro ⟨⟨setId, filters⟩, hs, hQ⟩
    obtain ⟨rfl, hne⟩ := (mem_filtersBySet params setId filters).mp hs
    refine ⟨setId, ?_, hQ⟩
    obtain ⟨param, hparam⟩ := List.exists_mem_of_ne_nil _ hne
    obtain ⟨kind, f, -, hp, hid⟩ := of_mem_inSet hparam
    exact ⟨(kind, f), hp, hid⟩
  · rintro ⟨setId, ⟨p, hp, rfl⟩, hQ⟩
    obtain ⟨⟨setId, filters⟩, hs, rfl⟩ := exists_set p hp
    obtain ⟨rfl, -⟩ := (mem_filtersBySet params _ filters).mp hs
    exact ⟨_, hs, hQ⟩

theorem filtersBySet_eq_nil_iff : filtersBySet params = [] ↔ filtersOf params = [] := by
  rw [List.eq_nil_iff_forall_not_mem, List.eq_nil_iff_forall_not_mem]
  constructor
  · intro hnone p hp
    obtain ⟨s, hs, -⟩ := exists_set p hp
    exact hnone s hs
  · intro hnone s hs
    obtain ⟨setId, ⟨p, hp, -⟩, -⟩ := (exists_set_iff (Q := fun _ => True)).mp ⟨s, hs, trivial⟩
    exact hnone p hp

theorem objects_eq_nil_iff (params : List MessageParameter) (setId : UInt8) :
    (params.filter (inSet setId)).filter (! isTrackFilter ·) = [] ↔
      ∀ p ∈ filtersOf params, p.2.setId = setId → p.1 = .trackProperty := by
  rw [List.filter_eq_nil_iff]
  constructor
  · rintro hnone ⟨kind, f⟩ hp hid
    have hmem : .rangeFilter kind (some f) ∈ params.filter (inSet setId) :=
      List.mem_filter.mpr ⟨(mem_filtersOf params kind f).mp hp, decide_eq_true hid⟩
    have htrack := hnone _ hmem
    cases kind with
    | trackProperty => rfl
    | subgroup | objectId | priority | objectProperty => exact absurd rfl htrack
  · intro hall param hparam
    obtain ⟨kind, f, rfl, hp, hid⟩ := of_mem_inSet hparam
    cases hall (kind, f) hp hid
    exact Bool.false_ne_true

/-- Nothing stands in the way of any Object: there are no filters, or a set that passes has none for
Objects. -/
def Unfiltered (params : List MessageParameter) (properties : List TrackProperty) : Prop :=
  filtersOf params = [] ∨ ∃ setId, (∃ p ∈ filtersOf params, p.2.setId = setId) ∧
    TrackPasses (filtersOf params) (trackPropertyValues properties) setId ∧
    ∀ p ∈ filtersOf params, p.2.setId = setId → p.1 = .trackProperty

theorem filtersForTrack_of_unfiltered (h : CombinedFilter.Applicable [] (filtersOf params))
    (hunfiltered : Unfiltered params properties) : filtersForTrack params properties = some [] := by
  by_cases hempty : filtersOf params = []
  · rw [filtersForTrack, filtersBySet_eq_nil_iff.mpr hempty]
    rfl
  · have hsets : (filtersBySet params).isEmpty = false :=
      List.isEmpty_eq_false_iff.mpr (filtersBySet_eq_nil_iff.not.mpr hempty)
    rw [filtersForTrack, hsets]
    apply (keepFilters_spec properties (filtersBySet params) [] false).1
    rw [exists_set_iff (Q := fun filters => setPasses properties filters = true ∧
      filters.filter (! isTrackFilter ·) = [])]
    simp only [setPasses_iff h, objects_eq_nil_iff]
    exact hunfiltered.resolve_left hempty

theorem filtersForTrack_of_filtered (h : CombinedFilter.Applicable [] (filtersOf params))
    (hfiltered : ¬ Unfiltered params properties) :
    (filtersForTrack params properties = none ↔
      ¬ ∃ setId, (∃ p ∈ filtersOf params, p.2.setId = setId) ∧
        TrackPasses (filtersOf params) (trackPropertyValues properties) setId) ∧
    ∀ kept, filtersForTrack params properties = some kept → kept = keptFilters params properties := by
  have hsets : (filtersBySet params).isEmpty = false :=
    List.isEmpty_eq_false_iff.mpr
      (filtersBySet_eq_nil_iff.not.mpr fun hempty => hfiltered (Or.inl hempty))
  have hall : ∀ s ∈ filtersBySet params, setPasses properties s.2 = true →
      s.2.filter (! isTrackFilter ·) ≠ [] := by
    intro s hs hpass hempty
    have hopen := exists_set_iff (Q := fun filters => setPasses properties filters = true ∧
      filters.filter (! isTrackFilter ·) = []).mp ⟨s, hs, hpass, hempty⟩
    simp only [setPasses_iff h, objects_eq_nil_iff] at hopen
    exact hfiltered (Or.inr hopen)
  have hkeep := (keepFilters_spec properties (filtersBySet params) [] false).2 hall
  have hany : ((filtersBySet params).any fun s => setPasses properties s.2) = true ↔
      ∃ setId, (∃ p ∈ filtersOf params, p.2.setId = setId) ∧
        TrackPasses (filtersOf params) (trackPropertyValues properties) setId := by
    rw [List.any_eq_true, exists_set_iff (Q := fun filters => setPasses properties filters = true)]
    simp only [setPasses_iff h]
  have hresult : filtersForTrack params properties =
      if (filtersBySet params).any fun s => setPasses properties s.2 then
        some (keptFilters params properties) else none := by
    rw [filtersForTrack, hsets, hkeep, Bool.false_or, List.nil_append]
    rfl
  rw [← hany, hresult]
  cases (filtersBySet params).any fun s => setPasses properties s.2 <;> simp

theorem new_of_tracksFilter {limit : Nat} {filter : CombinedFilter}
    (h : tracksFilter params limit = .ok filter) : CombinedFilter.new params = .ok filter := by
  obtain ⟨_, -, h⟩ := except_bind_eq_ok.mp h
  obtain ⟨_, -, h⟩ := except_bind_eq_ok.mp h
  exact h

/-- Parameters without a track filter make a filter for Objects. -/
theorem forObjects_of_applicable (h : CombinedFilter.Applicable [] (filtersOf params))
    (hobjects : ∀ p ∈ filtersOf params, p.1 ≠ .trackProperty) :
    ∃ combined, CombinedFilter.forObjects params = .ok combined ∧
      CombinedFilter.Means (filtersOf params) combined := by
  obtain ⟨combined, hnew, hmeans⟩ := CombinedFilter.new_of_applicable h
  have hnone : combined.hasTrackFilters = false := by
    rw [CombinedFilter.hasTrackFilters, List.any_eq_false]
    rintro ⟨setId, set⟩ hset
    have hpass := ((hmeans.sets setId set hset).tracks []).mpr
      fun p hp _ => satisfiedByTrack_of_ne (hobjects p hp) _ _
    cases htracks : set.trackProperties with
    | nil => simp
    | cons required rest =>
      rw [htracks] at hpass
      cases hpass
  exact ⟨combined, by rw [CombinedFilter.forObjects, hnew, except_ok_bind, hnone]; rfl, hmeans⟩

/-- The filter is narrowed to a track, or the track turned down, by its sets as by the parameters
they are made of. -/
theorem filtersForTrack_agrees {limit : Nat} {filter : CombinedFilter}
    (haccepted : tracksFilter params limit = .ok filter) (properties : List TrackProperty) :
    CombinedFilter.new params = .ok filter ∧
    (filtersForTrack params properties = none ↔ filter.narrowForTrack properties = none) ∧
    ∀ kept narrowed, filtersForTrack params properties = some kept →
      filter.narrowForTrack properties = some narrowed →
      ∃ combined, CombinedFilter.forObjects kept = .ok combined ∧
        ∀ fields, combined.passes fields = narrowed.passes fields := by
  have hnew := new_of_tracksFilter haccepted
  obtain ⟨happlicable, hmeans⟩ := CombinedFilter.means_of_new hnew
  have hsome := hmeans.narrowForTrack_isSome_iff properties
  have hturned := Option.not_isSome_iff_eq_none.symm.trans (not_congr hsome)
  refine ⟨hnew, ?_⟩
  by_cases hunfiltered : Unfiltered params properties
  · have hkept := filtersForTrack_of_unfiltered happlicable hunfiltered
    have hpasses : filtersOf params = [] ∨ ∃ setId, (∃ p ∈ filtersOf params, p.2.setId = setId) ∧
        TrackPasses (filtersOf params) (trackPropertyValues properties) setId :=
      hunfiltered.imp_right fun ⟨setId, hset, hpass, _⟩ => ⟨setId, hset, hpass⟩
    constructor
    · rw [hkept, hturned]
      exact iff_of_false nofun (not_not.mpr hpasses)
    · intro kept narrowed hfilters hnarrowed
      cases hkept.symm.trans hfilters
      refine ⟨default, rfl, fun fields => ?_⟩
      have hnarrow := (hmeans.passes_narrowed hnarrowed fields).mpr <| hunfiltered.imp_right
        fun ⟨setId, hset, hpass, htracks⟩ => ⟨setId, hset, hpass, fun p hp hid => by
          rw [htracks p hp hid]
          trivial⟩
      rw [hnarrow]
      rfl
  · obtain ⟨hnone, hall⟩ := filtersForTrack_of_filtered happlicable hunfiltered
    have hfilters : filtersOf params ≠ [] := fun hempty => hunfiltered (Or.inl hempty)
    constructor
    · rw [hnone, hturned, or_iff_right hfilters]
    · intro kept narrowed hkept hnarrowed
      cases hall kept hkept
      have hmem : ∀ p, p ∈ filtersOf (keptFilters params properties) ↔ _ :=
        mem_keptFilters happlicable
      have hobject : ∀ setId, (∃ p ∈ filtersOf params, p.2.setId = setId) →
          TrackPasses (filtersOf params) (trackPropertyValues properties) setId →
          ∃ p ∈ filtersOf params, p.2.setId = setId ∧ p.1 ≠ .trackProperty := by
        intro setId hset hpass
        by_contra hno
        refine hunfiltered (Or.inr ⟨setId, hset, hpass, fun p hp hid => ?_⟩)
        by_contra hkind
        exact hno ⟨p, hp, hid, hkind⟩
      have hne : filtersOf (keptFilters params properties) ≠ [] := by
        obtain ⟨setId, hset, hpass⟩ := (hsome.mp (by rw [hnarrowed]; rfl)).resolve_left hfilters
        obtain ⟨p, hp, rfl, hkind⟩ := hobject setId hset hpass
        exact List.ne_nil_of_mem ((hmem p).mpr ⟨hp, hkind, hpass⟩)
      obtain ⟨combined, hfor, hcombined⟩ := forObjects_of_applicable
        (applicable_keptFilters happlicable properties) fun p hp => ((hmem p).mp hp).2.1
      refine ⟨combined, hfor, fun fields => ?_⟩
      rw [Bool.eq_iff_iff, hcombined.passes_iff, hmeans.passes_narrowed hnarrowed,
        CombinedFilter.PassesSome, or_iff_right hne, or_iff_right hfilters]
      constructor
      · rintro ⟨_, ⟨p, hp, rfl⟩, hsatisfied⟩
        obtain ⟨hp, -, hpass⟩ := (hmem p).mp hp
        refine ⟨p.2.setId, ⟨p, hp, rfl⟩, hpass, fun q hq hid => ?_⟩
        by_cases hkind : q.1 = .trackProperty
        · rw [hkind]
          trivial
        · exact hsatisfied q ((hmem q).mpr ⟨hq, hkind, hid ▸ hpass⟩) hid
      · rintro ⟨setId, hset, hpass, hsatisfied⟩
        obtain ⟨p, hp, rfl, hkind⟩ := hobject setId hset hpass
        exact ⟨p.2.setId, ⟨p, (hmem p).mpr ⟨hp, hkind, hpass⟩, rfl⟩,
          fun q hq hid => hsatisfied q ((hmem q).mp hq).1 hid⟩

/-- One set with a track filter and an object filter, one with an object filter alone. -/
def mixedSets : List MessageParameter :=
  [.rangeFilter .objectId (some ⟨2, none, [(2, some 3)]⟩),
    .rangeFilter .trackProperty (some ⟨2, some 4, [(1, none)]⟩),
    .rangeFilter .priority (some ⟨0, none, [(1, some 6)]⟩)]

theorem filtersForTrack_agrees_mixedSets : ∃ filter, tracksFilter mixedSets 3 = .ok filter ∧
    CombinedFilter.new mixedSets = .ok filter ∧
    (filtersForTrack mixedSets [.maxCacheDuration 7] = none ↔
      filter.narrowForTrack [.maxCacheDuration 7] = none) ∧
    ∀ kept narrowed, filtersForTrack mixedSets [.maxCacheDuration 7] = some kept →
      filter.narrowForTrack [.maxCacheDuration 7] = some narrowed →
      ∃ combined, CombinedFilter.forObjects kept = .ok combined ∧
        ∀ fields, combined.passes fields = narrowed.passes fields := by
  have haccepted : ∃ filter, tracksFilter mixedSets 3 = .ok filter := ⟨_, rfl⟩
  obtain ⟨filter, hfilter⟩ := haccepted
  exact ⟨filter, hfilter, filtersForTrack_agrees hfilter [.maxCacheDuration 7]⟩

end Moqtail
