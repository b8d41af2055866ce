import Moqtail.Relay.TrackNameLimits
import Moqtail.Relay.TrackNarrowing

/-! The checks of Range Filters in `server/filter_constructor.rs`, and what they let through.

A request is checked for the number of Ranges, its own and those of each fill, and for whether the
filters can be applied. An update is checked with what it leaves of the parameters. A fill merges two
lists that were checked apart. -/
namespace Moqtail

open Lib
open CombinedFilter (filtersOf Applicable Means PassesSome keyOf)

def isRangeFilter : MessageParameter → Bool
  | .rangeFilter _ _ => true
  | _ => false

/-- Of a REQUEST_UPDATE on a subscription, by itself and with what it leaves of the parameters. -/
def updatedFilter (current update : List MessageParameter) (limit : Nat) :
    Except RangeFilterError CombinedFilter := do
  checkFilterRangeLimit update limit
  objectFilter (applyMessageParameterUpdate current update) limit

/-- `unwrap_or_default`. -/
def filterOrDefault (params : List MessageParameter) : CombinedFilter :=
  (CombinedFilter.forObjects params).toOption.getD default

/-- The Range Filters of a fill: a kind that FILL_PARAMETERS have takes the place of the
subscription's. -/
def fillRangeFilters (subscription fill : List MessageParameter) : List MessageParameter :=
  applyMessageParameterUpdate (subscription.filter isRangeFilter) (fill.filter isRangeFilter)

def fillRangeFilter (subscription fill : List MessageParameter) : CombinedFilter :=
  filterOrDefault (fillRangeFilters subscription fill)

/-! What an update does to the filters among the parameters. -/

theorem filtersOf_append (front rear : List MessageParameter) :
    filtersOf (front ++ rear) = filtersOf front ++ filtersOf rear := List.filterMap_append

theorem filtersOf_isRangeFilter (params : List MessageParameter) :
    filtersOf (params.filter isRangeFilter) = filtersOf params := by
  rw [CombinedFilter.filtersOf_filter (r := fun _ => true) fun _ _ => rfl, List.filter_true]

/-- The parameters that an update carries of the kind. -/
def names (update : List MessageParameter) (kind : RangeFilterKind) : Bool :=
  update.any fun u => u.typeValue = kind.parameterType.toU64

/-- A kind that the update names is replaced, and the others stay. -/
def replacedBy (update : List MessageParameter) (filters : List (RangeFilterKind × RangeFilter)) :
    List (RangeFilterKind × RangeFilter) :=
  filters.filter (fun p => ! names update p.1) ++ filtersOf update

theorem filtersOf_applyUpdate (current update : List MessageParameter) :
    filtersOf (applyMessageParameterUpdate current update) =
      replacedBy update (filtersOf current) := by
  rw [applyMessageParameterUpdate, filtersOf_append,
    CombinedFilter.filtersOf_filter (r := fun p => ! names update p.1) fun _ _ => rfl,
    CombinedFilter.filtersOf_filter (r := fun _ => true) fun _ _ => rfl, List.filter_true,
    replacedBy]

theorem names_of_mem {update : List MessageParameter} {p : RangeFilterKind × RangeFilter}
    (h : p ∈ filtersOf update) : names update p.1 = true :=
  List.any_eq_true.mpr ⟨_, (mem_filtersOf update p.1 p.2).mp h, decide_eq_true rfl⟩

/-- Filters that can be applied, and those that replace some of them, can be applied together. -/
theorem Applicable.replacedBy {update : List MessageParameter}
    {filters : List (RangeFilterKind × RangeFilter)} (h : Applicable [] filters)
    (hupdate : Applicable [] (filtersOf update)) :
    Applicable [] (Moqtail.replacedBy update filters) := by
  rw [CombinedFilter.applicable_nil_iff] at h hupdate ⊢
  constructor
  · rw [Moqtail.replacedBy, List.forall_mem_append]
    exact ⟨fun p hp => h.1 p (List.mem_of_mem_filter hp), hupdate.1⟩
  · rw [Moqtail.replacedBy, List.map_append, List.nodup_append]
    refine ⟨h.2.sublist (List.filter_sublist.map _), hupdate.2, ?_⟩
    intro a ha b hb heq
    obtain ⟨p, hp, rfl⟩ := List.mem_map.mp ha
    obtain ⟨q, hq, rfl⟩ := List.mem_map.mp hb
    have hkind : (keyOf p).1 = (keyOf q).1 := congrArg Prod.fst heq
    change p.1 = q.1 at hkind
    have hkept := (List.mem_filter.mp hp).2
    rw [hkind, names_of_mem hq] at hkept
    cases hkept

/-! Filters for Objects. -/

/-- A filter for Objects is made just where the filters can be applied and none is a track
filter. -/
theorem forObjects_means {params : List MessageParameter} {filter : CombinedFilter}
    (h : CombinedFilter.forObjects params = .ok filter) :
    Applicable [] (filtersOf params) ∧ (∀ p ∈ filtersOf params, p.1 ≠ .trackProperty) ∧
      Means (filtersOf params) filter := by
  obtain ⟨made, hnew, hrest⟩ := except_bind_eq_ok.mp h
  obtain ⟨happlicable, hmeans⟩ := CombinedFilter.means_of_new hnew
  cases htrack : made.hasTrackFilters with
  | true =>
    rw [htrack] at hrest
    cases hrest
  | false =>
    rw [htrack] at hrest
    cases hrest
    refine ⟨happlicable, fun p hp hkind => ?_, hmeans⟩
    obtain ⟨set, hset⟩ := (hmeans.setIds p.2.setId).mpr ⟨p, hp, rfl⟩
    have hnone := List.any_eq_false.mp htrack _ hset
    have hempty : set.trackProperties = [] := by
      simpa using hnone
    have hpass := (hmeans.sets _ _ hset).tracks []
    rw [hempty] at hpass
    have hsatisfied := hpass.mp rfl p hp rfl
    rw [hkind] at hsatisfied
    obtain ⟨value, hvalue, -⟩ := hsatisfied
    cases hvalue

/-- Where the parameters make a filter for Objects, the default never takes its place. -/
theorem filterOrDefault_eq {params : List MessageParameter} {filter : CombinedFilter}
    (h : CombinedFilter.forObjects params = .ok filter) : filterOrDefault params = filter := by
  rw [filterOrDefault, h]
  rfl

/-- Lists that are checked apart make a filter together, once one replaces kinds of the other. -/
theorem forObjects_applyUpdate {current update : List MessageParameter}
    {filter filter' : CombinedFilter} (hcurrent : CombinedFilter.forObjects current = .ok filter)
    (hupdate : CombinedFilter.forObjects update = .ok filter') :
    ∃ combined,
      CombinedFilter.forObjects (applyMessageParameterUpdate current update) = .ok combined ∧
        ∀ fields, combined.passes fields = true ↔
          PassesSome (replacedBy update (filtersOf current)) fields := by
  obtain ⟨happlicable, hobjects, -⟩ := forObjects_means hcurrent
  obtain ⟨happlicable', hobjects', -⟩ := forObjects_means hupdate
  have hfilters := filtersOf_applyUpdate current update
  have htogether : Applicable [] (filtersOf (applyMessageParameterUpdate current update)) := by
    rw [hfilters]
    exact Applicable.replacedBy happlicable happlicable'
  have hnone : ∀ p ∈ filtersOf (applyMessageParameterUpdate current update),
      p.1 ≠ .trackProperty := by
    rw [hfilters, replacedBy, List.forall_mem_append]
    exact ⟨fun p hp => hobjects p (List.mem_of_mem_filter hp), hobjects'⟩
  obtain ⟨combined, hcombined, hmeans⟩ := forObjects_of_applicable htogether hnone
  refine ⟨combined, hcombined, fun fields => ?_⟩
  rw [hmeans.passes_iff, hfilters]

/-- Only the Range Filters of the list matter. -/
theorem newFrom_isRangeFilter (params : List MessageParameter) :
    ∀ seen filter, CombinedFilter.newFrom seen filter (params.filter isRangeFilter) =
      CombinedFilter.newFrom seen filter params := by
  induction params with
  | nil => exact fun _ _ => rfl
  | cons param params ih =>
    intro seen filter
    cases param with
    | rangeFilter kind f =>
      cases f with
      | none => exact ih seen filter
      | some f =>
        show CombinedFilter.newFrom seen filter (.rangeFilter kind (some f) :: _) = _
        rw [CombinedFilter.newFrom, CombinedFilter.newFrom]
        simp only [ih]
    | _ => exact ih seen filter

theorem forObjects_isRangeFilter (params : List MessageParameter) :
    CombinedFilter.forObjects (params.filter isRangeFilter) = CombinedFilter.forObjects params := by
  simp only [CombinedFilter.forObjects, CombinedFilter.new, newFrom_isRangeFilter]

/-! Numbers of Ranges. -/

/-- The Ranges of the filters, as the limit counts them. -/
def rangeTotal (filters : List (RangeFilterKind × RangeFilter)) : Nat :=
  (filters.map fun p => p.2.deltas.length).sum

theorem rangeTotal_cons (p : RangeFilterKind × RangeFilter)
    (filters : List (RangeFilterKind × RangeFilter)) :
    rangeTotal (p :: filters) = p.2.deltas.length + rangeTotal filters := List.sum_cons

/-- The parameters keep to the limit, the FILL_PARAMETERS among them aside. -/
def WithinLimit (limit : Nat) (params : List MessageParameter) : Prop :=
  params.any isRangeFilter = true → limit ≠ 0 ∧ rangeTotal (filtersOf params) ≤ limit

theorem withinLimit_eq_ok_iff {limit count : Nat} {any : Bool} :
    withinLimit limit any count = .ok () ↔ (any = true → limit ≠ 0 ∧ count ≤ limit) := by
  unfold withinLimit
  split
  next hover =>
    refine iff_of_false (fun h => by cases h) fun h => ?_
    obtain ⟨hne, hle⟩ := h hover.1
    omega
  next hwithin =>
    refine iff_of_true rfl fun hany => ?_
    simp only [hany, true_and] at hwithin
    omega

/-- The fills among the parameters keep to the limit, each by itself. -/
def FillsWithin (limit : Nat) (params : List MessageParameter) : Prop :=
  ∀ fill, .fillParameters fill ∈ params → checkFilterRangeLimit fill limit = .ok ()

theorem countRangesOf_fillParameters (limit count : Nat) (any : Bool)
    (fill : List MessageParameter) :
    countRangesOf limit any count (.fillParameters fill) =
      checkFilterRangeLimit fill limit >>= fun _ => .ok (any, count) := by
  rw [countRangesOf, checkFilterRangeLimit]
  cases countRanges limit false 0 fill with
  | error e => rfl
  | ok counted => rfl

/-- The loop counts the filters of the list, and stops at a fill past the limit. -/
theorem countRanges_spec (limit : Nat) (params : List MessageParameter) :
    ∀ (any : Bool) (count : Nat),
      (FillsWithin limit params → countRanges limit any count params =
        .ok (any || params.any isRangeFilter, count + rangeTotal (filtersOf params))) ∧
      (¬ FillsWithin limit params → ∃ e, countRanges limit any count params = .error e) := by
  induction params with
  | nil =>
    intro any count
    constructor
    · intro _
      rw [countRanges, List.any_nil, Bool.or_false]
      rfl
    · exact fun h => absurd (fun _ hfill => absurd hfill List.not_mem_nil) h
  | cons param params ih =>
    intro any count
    have hskip : (∀ fill, param ≠ .fillParameters fill) → ∀ any' count',
        countRangesOf limit any count param = .ok (any', count') →
        (any' || params.any isRangeFilter, count' + rangeTotal (filtersOf params)) =
          (any || (param :: params).any isRangeFilter,
            count + rangeTotal (filtersOf (param :: params))) →
        (FillsWithin limit (param :: params) → countRanges limit any count (param :: params) =
          .ok (any || (param :: params).any isRangeFilter,
            count + rangeTotal (filtersOf (param :: params)))) ∧
        (¬ FillsWithin limit (param :: params) →
          ∃ e, countRanges limit any count (param :: params) = .error e) := by
      intro hne any' count' hturn hsame
      have hfills : FillsWithin limit (param :: params) ↔ FillsWithin limit params := by
        refine forall_congr' fun fill => ?_
        rw [List.mem_cons, or_iff_right (hne fill).symm]
      rw [hfills, countRanges, hturn, ← hsame]
      exact ih any' count'
    cases param with
    | fillParameters fill =>
      have hturn := countRangesOf_fillParameters limit count any fill
      have hfills : FillsWithin limit (.fillParameters fill :: params) ↔
          checkFilterRangeLimit fill limit = .ok () ∧ FillsWithin limit params := by
        constructor
        · exact fun h => ⟨h fill List.mem_cons_self, fun f hf => h f (List.mem_cons_of_mem _ hf)⟩
        · rintro ⟨hfirst, hrest⟩ f hf
          cases List.mem_cons.mp hf with
          | inl heq =>
            cases heq
            exact hfirst
          | inr hmem => exact hrest f hmem
      rw [hfills, countRanges, hturn]
      cases hfill : checkFilterRangeLimit fill limit with
      | error e => exact ⟨fun h => (by cases h.1), fun _ => ⟨e, rfl⟩⟩
      | ok _ =>
        refine ⟨fun h => (ih any count).1 h.2, fun h => (ih any count).2 fun h' => h ⟨rfl, h'⟩⟩
    | rangeFilter kind f =>
      refine hskip (fun _ h => by cases h) true _ rfl ?_
      cases f with
      | none => simp [isRangeFilter, CombinedFilter.filtersOf]
      | some f => simp [isRangeFilter, CombinedFilter.filtersOf, rangeTotal, Nat.add_assoc]
    | _ => exact hskip (fun _ h => by cases h) any count rfl rfl

theorem checkFilterRangeLimit_eq_ok_iff {limit : Nat} {params : List MessageParameter} :
    checkFilterRangeLimit params limit = .ok () ↔ WithinLimit limit params ∧ FillsWithin limit params := by
  obtain ⟨hok, herror⟩ := countRanges_spec limit params false 0
  rw [checkFilterRangeLimit]
  by_cases hfills : FillsWithin limit params
  · rw [hok hfills, except_ok_bind, withinLimit_eq_ok_iff, Bool.false_or, Nat.zero_add,
      and_iff_left hfills, WithinLimit]
  · obtain ⟨e, he⟩ := herror hfills
    rw [he]
    exact iff_of_false (fun h => by cases h) fun h => hfills h.2

theorem length_sumsFrom (deltas : List (UInt64 × Option UInt64)) :
    ∀ priorEnd, (RangeFilter.sumsFrom priorEnd deltas).length = deltas.length := by
  induction deltas with
  | nil => exact fun _ => rfl
  | cons delta deltas ih =>
    intro priorEnd
    obtain ⟨startDelta, endDelta⟩ := delta
    cases endDelta with
    | none => exact congrArg (· + 1) (ih _)
    | some endDelta => exact congrArg (· + 1) (ih _)

theorem length_of_validate {kind : RangeFilterKind} {f : RangeFilter} {ranges : List Range}
    (h : f.validate kind = .ok ranges) : ranges.length = f.deltas.length := by
  by_cases hfault : RangeFilter.Faulty kind f
  · obtain ⟨e, he⟩ := RangeFilter.validate_of_faulty hfault
    cases h.symm.trans he
  · obtain ⟨ranges', hvalidate, hsums⟩ := RangeFilter.validate_of_not_faulty hfault
    cases h.symm.trans hvalidate
    have hlength := congrArg List.length hsums
    rwa [List.length_map, RangeFilter.sums, length_sumsFrom] at hlength

/-- The loop that makes the filter counts the same Ranges. -/
theorem rangeCount_of_newFrom (params : List MessageParameter) :
    ∀ seen (filter : CombinedFilter) {made : CombinedFilter},
      CombinedFilter.newFrom seen filter params = .ok made →
      made.rangeCount = filter.rangeCount + rangeTotal (filtersOf params) := by
  induction params with
  | nil =>
    intro seen filter made h
    cases h
    rfl
  | cons param params ih =>
    intro seen filter made h
    cases param with
    | rangeFilter kind f =>
      cases f with
      | none => exact ih seen filter h
      | some f =>
        rw [CombinedFilter.newFrom] at h
        by_cases hseen : (kind, f.setId, f.propertyType) ∈ seen
        · simp only [hseen, if_true] at h
          cases h
        · simp only [hseen, if_false] at h
          obtain ⟨ranges, hranges, h⟩ := except_bind_eq_ok.mp h
          have hrest := ih _ _ h
          have hlength := length_of_validate hranges
          have hcons : filtersOf (.rangeFilter kind (some f) :: params) =
              (kind, f) :: filtersOf params := rfl
          rw [hcons, rangeTotal_cons, hrest, hlength, Nat.add_assoc]
    | _ => exact ih seen filter h

theorem rangeCount_of_forObjects {params : List MessageParameter} {filter : CombinedFilter}
    (h : CombinedFilter.forObjects params = .ok filter) :
    filter.rangeCount = rangeTotal (filtersOf params) := by
  obtain ⟨made, hnew, hrest⟩ := except_bind_eq_ok.mp h
  have hmade : made = filter := by
    split at hrest
    · cases hrest
    · cases hrest
      rfl
  rw [← hmade, rangeCount_of_newFrom params [] default hnew]
  exact Nat.zero_add _

/-! The checks, put together. -/

theorem checkFills_eq_ok_iff (params : List MessageParameter) :
    checkFills params = .ok () ↔ ∀ fill, .fillParameters fill ∈ params →
      ∃ filter, CombinedFilter.forObjects fill = .ok filter := by
  induction params with
  | nil => exact iff_of_true rfl fun _ hfill => absurd hfill List.not_mem_nil
  | cons param params ih =>
    have hskip : (∀ fill, param ≠ .fillParameters fill) →
        checkFills (param :: params) = checkFills params →
        (checkFills (param :: params) = .ok () ↔ ∀ fill, .fillParameters fill ∈ param :: params →
          ∃ filter, CombinedFilter.forObjects fill = .ok filter) := by
      intro hne hturn
      rw [hturn, ih]
      refine forall_congr' fun fill => ?_
      rw [List.mem_cons, or_iff_right (hne fill).symm]
    cases param with
    | fillParameters fill =>
      have hturn : checkFills (.fillParameters fill :: params) =
          CombinedFilter.forObjects fill >>= fun _ => checkFills params := rfl
      rw [hturn]
      cases hfill : CombinedFilter.forObjects fill with
      | error e =>
        refine iff_of_false (fun h => by cases h) fun h => ?_
        obtain ⟨filter, hok⟩ := h fill List.mem_cons_self
        cases hfill.symm.trans hok
      | ok made =>
        rw [except_ok_bind, ih]
        constructor
        · intro h f hf
          cases List.mem_cons.mp hf with
          | inl heq =>
            cases heq
            exact ⟨made, hfill⟩
          | inr hmem => exact h f hmem
        · exact fun h f hf => h f (List.mem_cons_of_mem _ hf)
    | _ => exact hskip (fun _ h => by cases h) rfl

/-- What the check of a request lets through. -/
structure FiltersChecked (limit : Nat) (params : List MessageParameter) : Prop where
  within : WithinLimit limit params
  fillsWithin : FillsWithin limit params
  fills : ∀ fill, .fillParameters fill ∈ params →
    ∃ filter, CombinedFilter.forObjects fill = .ok filter

theorem objectFilter_eq_ok_iff {limit : Nat} {params : List MessageParameter}
    {filter : CombinedFilter} : objectFilter params limit = .ok filter ↔
      FiltersChecked limit params ∧ CombinedFilter.forObjects params = .ok filter := by
  constructor
  · intro h
    obtain ⟨_, hlimit, h⟩ := except_bind_eq_ok.mp h
    obtain ⟨_, hfills, h⟩ := except_bind_eq_ok.mp h
    obtain ⟨hwithin, hfillsWithin⟩ := checkFilterRangeLimit_eq_ok_iff.mp hlimit
    exact ⟨⟨hwithin, hfillsWithin, (checkFills_eq_ok_iff params).mp hfills⟩, h⟩
  · rintro ⟨hchecked, h⟩
    have hlimit := checkFilterRangeLimit_eq_ok_iff.mpr ⟨hchecked.within, hchecked.fillsWithin⟩
    rw [objectFilter, hlimit, (checkFills_eq_ok_iff params).mpr hchecked.fills]
    exact h

theorem objectFilter_of_updatedFilter {limit : Nat} {current update : List MessageParameter}
    {filter : CombinedFilter} (h : updatedFilter current update limit = .ok filter) :
    objectFilter (applyMessageParameterUpdate current update) limit = .ok filter := by
  obtain ⟨_, -, h⟩ := except_bind_eq_ok.mp h
  exact h

/-- A filter that was checked keeps to the limit. -/
theorem rangeCount_le {limit : Nat} {params : List MessageParameter} {filter : CombinedFilter}
    (h : objectFilter params limit = .ok filter) : filter.rangeCount ≤ limit := by
  obtain ⟨hchecked, hmade⟩ := objectFilter_eq_ok_iff.mp h
  rw [rangeCount_of_forObjects hmade]
  by_cases hany : params.any isRangeFilter = true
  · exact (hchecked.within hany).2
  · have hnone : filtersOf params = [] := by
      rw [List.eq_nil_iff_forall_not_mem]
      intro p hp
      have hmem := (mem_filtersOf params p.1 p.2).mp hp
      exact hany (List.any_eq_true.mpr ⟨_, hmem, rfl⟩)
    rw [hnone]
    exact Nat.zero_le limit

end Moqtail
