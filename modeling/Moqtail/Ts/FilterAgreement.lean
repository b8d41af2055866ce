import Moqtail.Ts.CombinedFilter
import Moqtail.Wire.FilterMeaning

/-! The filters of the TypeScript library select what those of the Rust library do, but for a Next
Object filter after the last Object ID there is.

The Rust library keeps its maps in ascending order of the keys, the TypeScript library in the order
in which the keys came. -/
namespace Moqtail

open Lib

namespace Ts

/-! Locations. -/

namespace Location

theorem compare_lt_iff (a b : Moqtail.Location) : (ofRust a).compare (ofRust b) < 0 ↔ a < b := by
  show _ ↔ a.group < b.group ∨ (a.group = b.group ∧ a.object < b.object)
  rw [UInt64.lt_iff_toNat_lt, UInt64.lt_iff_toNat_lt, ← UInt64.toNat_inj]
  simp only [compare, ofRust, ofU64]
  split_ifs <;> omega

theorem compare_le_iff (a b : Moqtail.Location) : (ofRust a).compare (ofRust b) ≤ 0 ↔ a ≤ b := by
  show _ ↔ a.group < b.group ∨ (a.group = b.group ∧ a.object ≤ b.object)
  rw [UInt64.lt_iff_toNat_lt, UInt64.le_iff_toNat_le, ← UInt64.toNat_inj]
  simp only [compare, ofRust, ofU64]
  split_ifs <;> omega

end Location

namespace LocationFilter

/-- A Next Object filter where the Largest Object has the last Object ID there is. -/
def PastLastObject (filter : Moqtail.LocationFilter) (largest : Option Moqtail.Location) : Prop :=
  filter = .nextObject ∧ ∃ l, largest = some l ∧ l.object.toNat = 2 ^ 64 - 1

variable {filter : Moqtail.LocationFilter} {f : LocationFilter}

theorem startLocation_ofRust (h : ofRust filter = .ok f) {largest : Option Moqtail.Location}
    (hlast : ¬ PastLastObject filter largest) :
    f.startLocation (largest.map .ofRust) = (filter.startLocation largest).map .ofRust := by
  cases filter <;> rw [ofRust, new_eq_ok] at h <;> obtain ⟨made, rfl⟩ := h
  case none | absoluteStart | absoluteStartGroupEnd | absoluteRange => rfl
  case relativeStart startGroup =>
    cases largest with
    | none => rfl
    | some l =>
      have hgroup := l.group.toNat_lt
      have hclamp : min (l.group.toNat + 1 - startGroup.toNat) (2 ^ 64 - 1) < 2 ^ 64 := by omega
      have hnat := UInt64.toNat_ofNat_of_lt' hclamp
      simp only [startLocation, Option.map_some, Moqtail.LocationFilter.startLocation,
        Moqtail.LocationFilter.relativeGroup, Location.ofRust, Option.getD_some, ofU64, hnat,
        Option.some.injEq, Location.mk.injEq, maxU64]
      refine ⟨?_, rfl⟩
      split_ifs <;> omega
  case nextObject =>
    cases largest with
    | none => rfl
    | some l =>
      have hobject := l.object.toNat_lt
      have hne : l.object.toNat ≠ 2 ^ 64 - 1 := fun heq => hlast ⟨rfl, l, rfl, heq⟩
      have hsucc : ofU64 (Moqtail.LocationFilter.saturatingSucc l.object) = ofU64 l.object + 1 := by
        have hone : (1 : UInt64).toNat = 1 := rfl
        dsimp only [ofU64]
        rw [Moqtail.LocationFilter.saturatingSucc, if_pos (by omega), UInt64.toNat_add, hone,
          Nat.mod_eq_of_lt (by omega)]
        omega
      simp only [startLocation, Option.map_some, Moqtail.LocationFilter.startLocation,
        Location.ofRust, hsucc]

/-- There the one library stops at the Largest Object and the other goes past it. -/
theorem startLocation_ne (h : ofRust filter = .ok f) {largest : Option Moqtail.Location}
    (hlast : PastLastObject filter largest) :
    f.startLocation (largest.map .ofRust) ≠ (filter.startLocation largest).map .ofRust := by
  obtain ⟨rfl, l, rfl, hobject⟩ := hlast
  rw [ofRust, new_eq_ok] at h
  obtain ⟨made, rfl⟩ := h
  simp only [startLocation, Option.map_some, Moqtail.LocationFilter.startLocation,
    Location.ofRust, Moqtail.LocationFilter.saturatingSucc, ne_eq, Option.some.injEq,
    Location.mk.injEq, true_and]
  rw [if_neg (by omega)]
  omega

theorem endLocation_ofRust (h : ofRust filter = .ok f) :
    f.endLocation = filter.endLocation.map .ofRust := by
  cases filter <;> rw [ofRust, new_eq_ok] at h <;> obtain ⟨made, rfl⟩ := h <;> rfl

def rangeOfRust (range : Moqtail.Location × Moqtail.Location) : Location × Location :=
  (.ofRust range.1, .ofRust range.2)

theorem fetchRange_ofRust (h : ofRust filter = .ok f) {largest : Option Moqtail.Location}
    (hlast : ¬ PastLastObject filter largest) :
    f.fetchRange (largest.map .ofRust) = (filter.fetchRange largest).map rangeOfRust := by
  cases largest with
  | none => rfl
  | some l =>
    have hstart := startLocation_ofRust h hlast
    have hgetD : ((filter.startLocation (some l)).map Location.ofRust).getD ⟨0, 0⟩ =
        .ofRust ((filter.startLocation (some l)).getD ⟨0, 0⟩) := by
      cases filter.startLocation (some l) <;> rfl
    rw [Option.map_some] at hstart
    rw [Option.map_some, fetchRange, Moqtail.LocationFilter.fetchRange, hstart,
      endLocation_ofRust h]
    cases filter.endLocation with
    | none =>
      simp only [Option.map_none, hgetD, Location.compare_le_iff]
      split <;> rfl
    | some last =>
      simp only [Option.map_some, hgetD, Location.compare_lt_iff]
      by_cases hlt : last < l
      · simp only [if_pos hlt, Location.compare_le_iff]
        split <;> rfl
      · simp only [if_neg hlt, Location.compare_le_iff]
        split <;> rfl

end LocationFilter

/-! Ranges. -/

def Range.ofRust (r : Moqtail.Range) : Range := ⟨ofU64 r.start, r.last.map ofU64⟩

/-- Adding a delta fails in both where the sum is no word. -/
theorem addDelta_bind_agrees {α : Type} {S : List Moqtail.Range → α → Prop} (x delta : UInt64)
    {f : UInt64 → Except RangeFilterError (List Moqtail.Range)} {y : Result α}
    (h : ∀ sum, ofU64 sum = ofU64 x + ofU64 delta → Agree S (f sum) y) :
    Agree S (Moqtail.RangeFilter.addDelta x delta >>= f)
      (if ofU64 x + ofU64 delta > maxU64 then throw RangeFilter.boundExceeds else y) := by
  unfold Moqtail.RangeFilter.addDelta
  by_cases hfits : x.toNat + delta.toNat < 2 ^ 64
  · have hle : ¬ ofU64 x + ofU64 delta > maxU64 := by
      dsimp only [ofU64, maxU64]
      omega
    rw [if_pos hfits, if_neg hle]
    apply h
    dsimp only [ofU64]
    rw [UInt64.toNat_add, Nat.mod_eq_of_lt hfits]
    omega
  · have hgt : ofU64 x + ofU64 delta > maxU64 := by
      dsimp only [ofU64, maxU64]
      omega
    rw [if_neg hfits, if_pos hgt]
    exact .error _ _

namespace RangeFilter

def RangesOfRust (ranges : List Moqtail.Range) (ranges' : List Range) : Prop :=
  ranges' = ranges.map .ofRust

theorem rangesFrom_agrees (deltas : List (UInt64 × Option UInt64)) :
    ∀ priorEnd : UInt64, Agree RangesOfRust (Moqtail.RangeFilter.rangesFrom priorEnd deltas)
      (rangesFrom (ofU64 priorEnd) (deltas.map deltaOfRust)) := by
  induction deltas with
  | nil => exact fun _ => .ok rfl
  | cons d deltas ih =>
    intro priorEnd
    obtain ⟨startDelta, endDelta⟩ := d
    cases endDelta with
    | none =>
      apply addDelta_bind_agrees
      intro start hstart
      rw [← hstart]
      apply (ih priorEnd).bind
      rintro ranges ranges' - - rfl
      exact .ok rfl
    | some endDelta =>
      apply addDelta_bind_agrees
      intro start hstart
      dsimp only
      rw [← hstart]
      apply addDelta_bind_agrees
      intro last hlast
      rw [← hlast]
      apply (ih last).bind
      rintro ranges ranges' - - rfl
      exact .ok rfl

/-- The largest number that the ranges name. -/
theorem find_bound_ofRust (ranges : List Moqtail.Range) :
    ((ranges.map Range.ofRust).flatMap fun r => r.start :: r.last.toList).find? (255 < ·) =
      ((ranges.flatMap fun r => r.start :: r.last.toList).find? (255 < ·)).map ofU64 := by
  have hmap : ((ranges.map Range.ofRust).flatMap fun r => r.start :: r.last.toList) =
      (ranges.flatMap fun r => r.start :: r.last.toList).map ofU64 := by
    rw [List.flatMap_map, List.map_flatMap]
    apply List.flatMap_congr
    intro r _
    obtain ⟨start, last⟩ := r
    cases last <;> rfl
  have hlt : ((255 < ·) : Int → Prop) ∘ ofU64 = fun v : UInt64 => 255 < v := by
    funext v
    have h255 : (255 : UInt64).toNat = 255 := rfl
    simp only [Function.comp_apply, ofU64, UInt64.lt_iff_toNat_lt, h255, eq_iff_iff]
    omega
  rw [hmap, List.find?_map]
  congr 2
  funext v
  exact decide_eq_decide.mpr (iff_of_eq (congrFun hlt v))

variable {kind : RangeFilterKind} {filter : Moqtail.RangeFilter} {f : RangeFilter}

theorem fields_of_ofRust (h : ofRust kind (some filter) = .ok f) :
    f.kind = kind ∧ f.setId = some (filter.setId.toNat : Int) ∧
      f.propertyType = filter.propertyType.map ofU64 ∧ f.deltas = filter.deltas.map deltaOfRust := by
  rw [ofRust, new_eq_ok] at h
  obtain ⟨made, rfl⟩ := h
  exact ⟨rfl, rfl, rfl, rfl⟩

theorem validate_agrees (h : ofRust kind (some filter) = .ok f) :
    Agree RangesOfRust (filter.validate kind) f.validate := by
  have hpresence := (checks_of_ofRust h).1
  obtain ⟨hkind, -, hproperty', hdeltas⟩ := fields_of_ofRust h
  have hranges : Agree RangesOfRust filter.ranges f.ranges := by
    rw [ranges, hdeltas]
    exact rangesFrom_agrees filter.deltas 0
  unfold Moqtail.RangeFilter.validate validate
  rw [hkind, hproperty']
  cases hproperty : filter.propertyType
  case' none =>
    rw [hproperty] at hpresence
    rw [hpresence]
    dsimp only [Option.isSome_none, Option.map_none]
  case' some propertyType =>
    rw [hproperty] at hpresence
    rw [hpresence]
    dsimp only [Option.isSome_some, Option.map_some]
    have hparity := (KeyValuePair.parity_ofU64 propertyType).not
    by_cases hodd : propertyType % 2 ≠ 0
    · rw [if_pos hodd, if_pos (hparity.mp hodd)]
      exact .error _ _
    rw [if_neg hodd, if_neg (hparity.not.mp hodd)]
  -- whether there is a Type or none, the ranges are left to check
  all_goals
    apply hranges.bind
    rintro ranges ranges' - - rfl
    by_cases hpriority : kind = .priority
    · rw [if_pos hpriority, if_pos hpriority, find_bound_ofRust]
      cases (ranges.flatMap fun r => r.start :: r.last.toList).find? (255 < ·) with
      | none => exact .ok rfl
      | some value => exact .error _ _
    · rw [if_neg hpriority, if_neg hpriority]
      exact .ok rfl

end RangeFilter

/-! The sets of a filter. -/

structure SameSet (set : Moqtail.FilterSet) (set' : FilterSet) : Prop where
  subgroup : set'.subgroup = set.subgroup.map (·.map .ofRust)
  objectId : set'.objectId = set.objectId.map (·.map .ofRust)
  priority : set'.priority = set.priority.map (·.map .ofRust)
  properties : SameEntries ofU64 RangeFilter.RangesOfRust set.objectProperties set'.properties
  sorted : SortedEntries set.objectProperties
  noTrack : set.trackProperties = []

theorem ofU64_injective : Function.Injective ofU64 := fun _ _ => ofU64_inj.mp

theorem ofU8_injective : Function.Injective ofU8 := fun _ _ => ofU8_inj.mp

structure SameCombined (combined : Moqtail.CombinedFilter) (combined' : CombinedFilter) : Prop where
  sets : SameEntries ofU8 SameSet combined.sets combined'.sets
  sorted : SortedEntries combined.sets
  rangeCount : combined'.rangeCount = combined.rangeCount

namespace CombinedFilter

variable {kind : RangeFilterKind} {filter : Moqtail.RangeFilter} {f : RangeFilter}

theorem withRanges_same {set : Moqtail.FilterSet} {set' : FilterSet} {ranges : List Moqtail.Range}
    {ranges' : List Range} (hset : SameSet set set') (hranges : RangeFilter.RangesOfRust ranges ranges')
    (h : RangeFilter.ofRust kind (some filter) = .ok f) (hkind : kind ≠ .trackProperty) :
    SameSet (Moqtail.CombinedFilter.withRanges kind filter.propertyType ranges set)
      (withRanges f ranges' set') := by
  obtain ⟨hkind', -, hproperty, -⟩ := RangeFilter.fields_of_ofRust h
  have hsome : some ranges' = (some ranges).map (·.map Range.ofRust) := congrArg some hranges
  unfold withRanges
  rw [hkind']
  cases kind with
  | subgroup => exact { hset with subgroup := hsome }
  | objectId => exact { hset with objectId := hsome }
  | priority => exact { hset with priority := hsome }
  | trackProperty => exact absurd rfl hkind
  | objectProperty =>
    have hkey : f.propertyType.getD 0 = ofU64 (filter.propertyType.getD 0) := by
      rw [hproperty]
      cases filter.propertyType <;> rfl
    have hperm := modifyEntry_perm hset.sorted (filter.propertyType.getD 0) fun _ => ranges
    refine { hset with properties := ?_, sorted := hset.sorted.modifyEntry _ _ }
    refine SameEntries.congr ?_ hperm
    dsimp only
    rw [hkey]
    apply hset.properties.change ofU64_injective
    · exact hranges
    · exact fun _ _ _ => hranges

/-- What tells a Range Filter apart. -/
def keyOfRust (key : RangeFilterKind × UInt8 × Option UInt64) : RangeFilterKind × Int × Option Int :=
  (key.1, ofU8 key.2.1, key.2.2.map ofU64)

theorem keyOfRust_injective : Function.Injective keyOfRust := by
  rintro ⟨kind, setId, propertyType⟩ ⟨kind', setId', propertyType'⟩ h
  simp only [keyOfRust, Prod.mk.injEq] at h
  obtain ⟨rfl, hset, hproperty⟩ := h
  rw [ofU8_injective hset, Option.map_injective ofU64_injective hproperty]

theorem sameSet_default : SameSet default default where
  subgroup := rfl
  objectId := rfl
  priority := rfl
  properties := .nil
  sorted := .nil
  noTrack := rfl

theorem sameCombined_default : SameCombined default default where
  sets := .nil
  sorted := .nil
  rangeCount := rfl

theorem sameCombined_add {combined : Moqtail.CombinedFilter} {combined' : CombinedFilter}
    {ranges : List Moqtail.Range} {ranges' : List Range} (hcombined : SameCombined combined combined')
    (hranges : RangeFilter.RangesOfRust ranges ranges') (h : RangeFilter.ofRust kind (some filter) = .ok f)
    (hkind : kind ≠ .trackProperty) :
    SameCombined
      ⟨modifyEntry filter.setId (Moqtail.CombinedFilter.withRanges kind filter.propertyType ranges)
        combined.sets, combined.rangeCount + ranges.length⟩
      ⟨changeEntry (ofU8 filter.setId) default (withRanges f ranges') combined'.sets,
        combined'.rangeCount + ranges'.length⟩ where
  sets := by
    have hperm := modifyEntry_perm hcombined.sorted filter.setId
      (Moqtail.CombinedFilter.withRanges kind filter.propertyType ranges)
    refine SameEntries.congr ?_ hperm
    apply hcombined.sets.change ofU8_injective
    · exact withRanges_same sameSet_default hranges h hkind
    · intro set set' hset
      exact withRanges_same hset hranges h hkind
  sorted := hcombined.sorted.modifyEntry _ _
  rangeCount := by
    rw [hcombined.rangeCount, hranges, List.length_map]

/-- There is no filter on tracks. -/
def NoTrackFilter (params : List Moqtail.MessageParameter) : Prop :=
  ∀ f, Moqtail.MessageParameter.rangeFilter .trackProperty (some f) ∉ params

theorem newFrom_agrees {params : List Moqtail.MessageParameter} {params' : List MessageParameter}
    (h : List.Forall₂ Same params params') :
    ∀ {seen : List (RangeFilterKind × UInt8 × Option UInt64)} {combined : Moqtail.CombinedFilter}
      {combined' : CombinedFilter}, NoTrackFilter params → SameCombined combined combined' →
        Agree SameCombined (Moqtail.CombinedFilter.newFrom seen combined params)
          (newFrom (seen.map keyOfRust) combined' params') := by
  induction h with
  | nil => exact fun _ hcombined => .ok hcombined
  | @cons p p' params params' hsame _ ih =>
    intro seen combined combined' htrack hcombined
    have hrest : NoTrackFilter params := fun f hf => htrack f (List.mem_cons_of_mem _ hf)
    cases hsame with
    | @rangeFilter kind filter f hf =>
      cases filter with
      | none =>
        rw [RangeFilter.ofRust, RangeFilter.new_eq_ok] at hf
        obtain ⟨made, rfl⟩ := hf
        exact ih hrest hcombined
      | some filter =>
        obtain ⟨hkind, hset, hproperty, -⟩ := RangeFilter.fields_of_ofRust hf
        have hobjects : kind ≠ .trackProperty := by
          rintro rfl
          exact htrack filter List.mem_cons_self
        have hkey : (f.kind, (filter.setId.toNat : Int), f.propertyType) =
            keyOfRust (kind, filter.setId, filter.propertyType) := by
          rw [hkind, hproperty]
          rfl
        have hmem := List.mem_map_of_injective keyOfRust_injective
          (a := (kind, filter.setId, filter.propertyType)) (l := seen)
        have hobjects' : f.kind ≠ .trackProperty := by
          rw [hkind]
          exact hobjects
        rw [Moqtail.CombinedFilter.newFrom, newFrom, hset]
        dsimp only
        rw [if_neg hobjects', hkey]
        by_cases hseen : (kind, filter.setId, filter.propertyType) ∈ seen
        · rw [if_pos hseen, if_pos (hmem.mpr hseen)]
          exact .error _ _
        · rw [if_neg hseen, if_neg (hmem.not.mpr hseen)]
          apply (RangeFilter.validate_agrees hf).bind
          intro ranges ranges' _ _ hranges
          exact ih hrest (sameCombined_add hcombined hranges hf hobjects)
    | _ => exact ih hrest hcombined

/-- Both libraries make a filter of the parameters, or neither does. -/
theorem new_agrees {params : List Moqtail.MessageParameter} {params' : List MessageParameter}
    (h : List.Forall₂ Same params params') (htrack : NoTrackFilter params) :
    Agree SameCombined (Moqtail.CombinedFilter.forObjects params) (new params') := by
  have hnew : Agree SameCombined (Moqtail.CombinedFilter.new params) (new params') :=
    newFrom_agrees h htrack sameCombined_default
  have hobjects : ∀ combined combined', SameCombined combined combined' →
      combined.hasTrackFilters = false := by
    intro combined combined' hcombined
    have hnone : combined'.sets.any (fun _ => false) = false := List.any_eq_false.mpr (by simp)
    rw [Moqtail.CombinedFilter.hasTrackFilters, ← hnone]
    exact (hcombined.sets.any fun _ set set' _ hset => by rw [hset.noTrack]; rfl).symm
  rw [← bind_pure (new params')]
  apply hnew.bind
  intro combined combined' _ _ hcombined
  rw [hobjects combined combined' hcombined]
  exact .ok hcombined

end CombinedFilter

/-! The properties of an Object. -/

def valueOfRust (e : UInt64 × UInt64) : Int × Int := (ofU64 e.1, ofU64 e.2)

/-- A decoded property is a container or stands for its own pair. -/
theorem collectProperty_of_deserialize {kvp : Moqtail.KeyValuePair} {p : ObjectProperty}
    (h : ObjectProperty.deserialize kvp = .ok p) (values : List (UInt64 × UInt64)) :
    (∃ bytes properties, kvp = .bytes 0x0B bytes ∧
        Moqtail.deserializeKvpListUntilEmpty bytes = .ok properties ∧
        (∀ inner ∈ properties, inner.getType ≠ 0x0B) ∧
        collectProperty values p = collectKvps properties values) ∨
      (kvp.getType ≠ 0x0B ∧ collectProperty values p = collectKvps [kvp] values) := by
  unfold ObjectProperty.deserialize at h
  split at h
  next htype =>
    cases h
    refine .inr ⟨?_, rfl⟩
    intro heq
    rw [heq] at htype
    cases htype
  next htype =>
    have htype' := TrackPropertyType.toU64_of_tryFrom htype
    cases kvp with
    | varInt typeValue value => cases h
    | bytes typeValue bytes =>
      left
      obtain ⟨found, hfound, h⟩ := except_bind_eq_ok.mp h
      cases hfound
      obtain ⟨properties, hproperties, h⟩ := except_bind_eq_ok.mp h
      split at h
      · cases h
      next hnested =>
        cases h
        cases htype'
        refine ⟨bytes, properties, rfl, hproperties, ?_, rfl⟩
        intro inner hmem heq
        exact hnested (List.any_eq_true.mpr ⟨inner, hmem, decide_eq_true heq⟩)
  next htype =>
    have htype' := TrackPropertyType.toU64_of_tryFrom htype
    cases kvp with
    | bytes typeValue bytes => cases h
    | varInt typeValue value =>
      cases h
      cases htype'
      exact .inr ⟨(by decide : (TrackPropertyType.priorGroupIdGap.toU64) ≠ 0x0B), rfl⟩
  next htype =>
    have htype' := TrackPropertyType.toU64_of_tryFrom htype
    cases kvp with
    | bytes typeValue bytes => cases h
    | varInt typeValue value =>
      cases h
      cases htype'
      exact .inr ⟨(by decide : (TrackPropertyType.priorObjectIdGap.toU64) ≠ 0x0B), rfl⟩
  next t hne _ _ htype =>
    cases h
    refine .inr ⟨?_, rfl⟩
    intro heq
    rw [heq] at htype
    cases htype
    exact hne rfl

theorem immutablePropertiesOf_ofRust {typeValue : UInt64} (value : Bytes) (h : typeValue ≠ 0x0B) :
    immutablePropertiesOf (.ofRust (.bytes typeValue value)) = .ok none := by
  have htype : ofU64 typeValue ≠ 0x0B := fun heq => h (ofU64_inj.mp heq)
  rw [immutablePropertiesOf, immutablePropertiesIn]
  exact if_pos htype

theorem immutablePropertiesOf_container {value : Bytes} {properties : List Moqtail.KeyValuePair}
    (h : Moqtail.deserializeKvpListUntilEmpty value = .ok properties)
    (hplain : ∀ inner ∈ properties, inner.getType ≠ 0x0B) :
    immutablePropertiesOf (.ofRust (.bytes 0x0B value)) =
      .ok (some (properties.map .ofRust)) := by
  have hread : deserializeKvpListUntilEmpty value = .ok (properties.map .ofRust) := by
    have hagrees := KeyValuePair.deserializeKvpListUntilEmpty_agrees value
    rw [h] at hagrees
    generalize deserializeKvpListUntilEmpty value = result at hagrees
    cases hagrees with
    | ok heq => rw [heq]
  have hany : (properties.map KeyValuePair.ofRust).any (fun inner => inner.typeValue = 0x0B) =
      false := by
    rw [List.any_map, List.any_eq_false]
    intro inner hmem
    have hne : ofU64 inner.getType ≠ 0x0B := fun heq => hplain inner hmem (ofU64_inj.mp heq)
    simpa using hne
  unfold immutablePropertiesOf immutablePropertiesIn
  rw [KeyValuePair.ofRust]
  dsimp only
  rw [if_neg (by decide), hread, except_ok_bind, hany]
  rfl

theorem addEntry_ofRust (typeValue value : UInt64) (values : List (UInt64 × UInt64)) :
    addEntry (ofU64 typeValue) (ofU64 value) (values.map valueOfRust) =
      (addEntry typeValue value values).map valueOfRust :=
  addEntry_map ofU64_injective ofU64 typeValue value values

section Collect

variable {inner : List KeyValuePair → List (Int × Int) → Result (List (Int × Int))}

/-- A pair that is no container. -/
theorem collectWith_cons {kvp : Moqtail.KeyValuePair} (h : kvp.getType ≠ 0x0B)
    (pairs : List KeyValuePair) (values : List (UInt64 × UInt64)) :
    collectWith inner (.ofRust kvp :: pairs) (values.map valueOfRust) =
      collectWith inner pairs ((collectKvps [kvp] values).map valueOfRust) := by
  cases kvp with
  | varInt typeValue value =>
    rw [collectWith, KeyValuePair.ofRust]
    dsimp only
    rw [addEntry_ofRust]
    rfl
  | bytes typeValue value =>
    have hnone : immutablePropertiesOf (.ofRust (.bytes typeValue value)) = .ok none :=
      immutablePropertiesOf_ofRust value h
    rw [collectWith, hnone]
    rfl

theorem collectWith_plain {kvps : List Moqtail.KeyValuePair} (h : ∀ kvp ∈ kvps, kvp.getType ≠ 0x0B) :
    ∀ values, collectWith inner (kvps.map .ofRust) (values.map valueOfRust) =
      .ok ((collectKvps kvps values).map valueOfRust) := by
  induction kvps with
  | nil => exact fun _ => rfl
  | cons kvp kvps ih =>
    intro values
    rw [List.forall_mem_cons] at h
    rw [List.map_cons, collectWith_cons h.1, ih h.2]
    rfl

end Collect

theorem collect_ofRust {kvps : List Moqtail.KeyValuePair} {properties : List ObjectProperty}
    (h : List.Forall₂ (fun kvp p => ObjectProperty.deserialize kvp = .ok p) kvps properties) :
    ∀ values, collect (kvps.map .ofRust) (values.map valueOfRust) =
      .ok ((properties.foldl collectProperty values).map valueOfRust) := by
  induction h with
  | nil => exact fun _ => rfl
  | @cons kvp p kvps properties hread _ ih =>
    intro values
    rw [List.map_cons, List.foldl_cons]
    rcases collectProperty_of_deserialize hread values with
      ⟨bytes, inner, rfl, hinner, hplain, hcollect⟩ | ⟨hne, hcollect⟩
    · rw [hcollect, ← ih, collect, collectWith, immutablePropertiesOf_container hinner hplain]
      show (collectWith _ (inner.map .ofRust) (values.map valueOfRust) >>= _) = _
      rw [collectWith_plain hplain]
      rfl
    · rw [hcollect, ← ih]
      exact collectWith_cons hne _ values

/-! The verdict on an Object. -/

theorem within_ofRust (ranges : List Moqtail.Range) (value : UInt64) :
    within (ranges.map .ofRust) (ofU64 value) = Moqtail.within ranges value := by
  have hle : ∀ v w : UInt64, ofU64 v ≤ ofU64 w ↔ v ≤ w := by
    intro v w
    rw [UInt64.le_iff_toNat_le, ofU64, ofU64, Int.ofNat_le]
  unfold within Moqtail.within
  rw [List.any_map]
  congr 1
  funext r
  obtain ⟨start, last⟩ := r
  cases last with
  | none => simp [Range.ofRust, Moqtail.Range.contains, hle]
  | some last => simp [Range.ofRust, Moqtail.Range.contains, hle]

/-- One Object in the types of both libraries: its properties are those that the decoder of either
makes of the same pairs. -/
structure SameFields (fields : ObjectFields) (obj : MoqtObject) (subgroupId : Option Int) : Prop where
  objectId : obj.objectId = ofU64 fields.objectId
  publisherPriority : obj.publisherPriority = fields.publisherPriority.toNat
  subgroupId : subgroupId = fields.subgroupId.map ofU64
  properties : ∃ kvps, obj.properties.getD [] = List.map .ofRust kvps ∧
    List.Forall₂ (fun kvp p => ObjectProperty.deserialize kvp = .ok p) kvps
      (fields.properties.getD [])

variable {fields : ObjectFields} {obj : MoqtObject} {subgroupId : Option Int}

theorem propertiesPass_ofRust (h : SameFields fields obj subgroupId)
    {required : List (UInt64 × List Moqtail.Range)} {required' : List (Int × List Range)}
    (hrequired : SameEntries ofU64 RangeFilter.RangesOfRust required required') :
    propertiesPass required' obj.properties =
      .ok (required.isEmpty ||
        Moqtail.propertiesPass required (objectPropertyValues fields.properties)) := by
  obtain ⟨kvps, hkvps, hread⟩ := h.properties
  have hvalues : collect (obj.properties.getD []) [] =
      .ok ((objectPropertyValues fields.properties).map valueOfRust) := by
    rw [hkvps]
    exact collect_ofRust hread []
  have hall : required'.all (fun e =>
      (entryOf e.1 ((objectPropertyValues fields.properties).map valueOfRust)).any (within e.2)) =
        Moqtail.propertiesPass required (objectPropertyValues fields.properties) := by
    apply hrequired.all
    rintro propertyType ranges ranges' - rfl
    have hentry := entryOf_map ofU64_injective ofU64 propertyType
      (objectPropertyValues fields.properties)
    dsimp only
    rw [show (objectPropertyValues fields.properties).map valueOfRust =
      (objectPropertyValues fields.properties).map fun e => (ofU64 e.1, ofU64 e.2) from rfl, hentry]
    cases entryOf propertyType (objectPropertyValues fields.properties) with
    | none => rfl
    | some value => exact within_ofRust ranges value
  unfold propertiesPass
  rw [hrequired.isEmpty, hvalues, except_ok_bind]
  cases required.isEmpty with
  | true => rfl
  | false =>
    rw [Bool.false_or, ← hall]
    rfl

theorem FilterSet.matches_ofRust (h : SameFields fields obj subgroupId) {set : Moqtail.FilterSet}
    {set' : FilterSet} (hset : SameSet set set') :
    set'.matches obj subgroupId = .ok (set.matches fields) := by
  have hsubgroup : (set'.subgroup.any fun ranges => !subgroupId.any (within ranges)) =
      !set.subgroup.all fun ranges => fields.subgroupId.any (Moqtail.within ranges) := by
    rw [hset.subgroup, h.subgroupId]
    cases set.subgroup with
    | none => rfl
    | some ranges =>
      cases fields.subgroupId with
      | none => rfl
      | some id => exact congrArg not (within_ofRust ranges id)
  have hobject : (set'.objectId.any fun ranges => !within ranges obj.objectId) =
      !set.objectId.all (Moqtail.within · fields.objectId) := by
    rw [hset.objectId, h.objectId]
    cases set.objectId with
    | none => rfl
    | some ranges => exact congrArg not (within_ofRust ranges _)
  have hpriority : (set'.priority.any fun ranges => !within ranges obj.publisherPriority) =
      !set.priority.all (Moqtail.within · fields.publisherPriority.toUInt64) := by
    have hbyte : (fields.publisherPriority.toNat : Int) = ofU64 fields.publisherPriority.toUInt64 := by
      rw [ofU64, UInt8.toNat_toUInt64]
    rw [hset.priority, h.publisherPriority, hbyte]
    cases set.priority with
    | none => rfl
    | some ranges => exact congrArg not (within_ofRust ranges _)
  unfold FilterSet.matches Moqtail.FilterSet.matches
  rw [hsubgroup, hobject, hpriority, propertiesPass_ofRust h hset.properties]
  cases set.subgroup.all fun ranges => fields.subgroupId.any (Moqtail.within ranges) with
  | false => rfl
  | true =>
    cases set.objectId.all (Moqtail.within · fields.objectId) with
    | false => rfl
    | true => cases set.priority.all (Moqtail.within · fields.publisherPriority.toUInt64) <;> rfl

namespace CombinedFilter

/-- Where every set gives a verdict, the loop stops at the first that passes. -/
theorem matchesFrom_eq_any {verdict : Int × FilterSet → Bool} {sets : List (Int × FilterSet)}
    (h : ∀ s ∈ sets, s.2.matches obj subgroupId = .ok (verdict s)) :
    matchesFrom obj subgroupId sets = .ok (sets.any verdict) := by
  induction sets with
  | nil => rfl
  | cons s sets ih =>
    rw [List.forall_mem_cons] at h
    rw [matchesFrom, h.1, except_ok_bind, List.any_cons]
    cases verdict s with
    | true => rfl
    | false => exact ih h.2

/-- Both libraries give the same verdict on an Object. -/
theorem passes_ofRust {combined : Moqtail.CombinedFilter} {combined' : CombinedFilter}
    (h : SameCombined combined combined') (hobj : SameFields fields obj subgroupId) :
    combined'.passes obj subgroupId = .ok (combined.passes fields) := by
  let verdict : Int × FilterSet → Bool := fun s =>
    (s.2.matches obj subgroupId).toOption.getD false
  have hverdict : ∀ set set', SameSet set set' → ∀ key, verdict (key, set') = set.matches fields := by
    intro set set' hset key
    show (set'.matches obj subgroupId).toOption.getD false = _
    rw [FilterSet.matches_ofRust hobj hset]
    rfl
  have hmatches : ∀ s ∈ combined'.sets, s.2.matches obj subgroupId = .ok (verdict s) := by
    intro s hs
    obtain ⟨e, -, -, hset⟩ := h.sets.related_of_mem hs
    rw [FilterSet.matches_ofRust hobj hset]
    exact congrArg Except.ok (hverdict e.2 s.2 hset s.1).symm
  have hany : combined'.sets.any verdict = combined.sets.any fun s => s.2.matches fields :=
    h.sets.any fun key set set' _ hset => hverdict set set' hset _
  unfold passes Moqtail.CombinedFilter.passes isEmpty Moqtail.CombinedFilter.isEmpty
  rw [matchesFrom_eq_any hmatches, hany, h.sets.isEmpty]
  cases combined.sets.isEmpty <;> rfl

end CombinedFilter

/-! Which properties there are. -/

/-- The pairs of which `ObjectProperty.deserializeAll` makes properties. -/
def decodedProperties (buf : Bytes) : Result (List KeyValuePair) := do
  let pairs ← deserializeKvpListUntilEmpty buf
  let _ ← pairs.mapM immutablePropertiesOf
  return pairs

/-- Nothing but a container is refused by the Rust library. -/
theorem deserialize_ne_container {kvp : Moqtail.KeyValuePair} (hwf : kvp.WellFormed)
    (hne : kvp.getType ≠ 0x0B) : ∃ p, ObjectProperty.deserialize kvp = .ok p := by
  unfold ObjectProperty.deserialize
  split
  · exact ⟨_, rfl⟩
  next htype => exact absurd (TrackPropertyType.toU64_of_tryFrom htype) hne
  next htype =>
    have htype' := TrackPropertyType.toU64_of_tryFrom htype
    cases kvp with
    | varInt typeValue value => exact ⟨_, rfl⟩
    | bytes typeValue value =>
      cases htype'
      exact absurd (by decide) hwf.1
  next htype =>
    have htype' := TrackPropertyType.toU64_of_tryFrom htype
    cases kvp with
    | varInt typeValue value => exact ⟨_, rfl⟩
    | bytes typeValue value =>
      cases htype'
      exact absurd (by decide) hwf.1
  · exact ⟨_, rfl⟩

/-- The two libraries refuse the same containers. -/
theorem deserialize_container_agrees (value : Bytes) :
    Agree (fun _ _ => True) (ObjectProperty.deserialize (.bytes 0x0B value))
      (immutablePropertiesOf (.ofRust (.bytes 0x0B value))) := by
  have hread : ObjectProperty.deserialize (.bytes 0x0B value) =
      (Moqtail.deserializeKvpListUntilEmpty value >>= fun properties =>
        if properties.any fun inner =>
            inner.getType = TrackPropertyType.immutableProperties.toU64 then
          throw (.protocolViolation "ObjectProperty::deserialize(ImmutableProperties)"
            "ImmutableProperties MUST NOT contain another ImmutableProperties key")
        else return .immutableProperties properties) := rfl
  have hread' : immutablePropertiesOf (.ofRust (.bytes 0x0B value)) =
      (deserializeKvpListUntilEmpty value >>= fun properties =>
        if properties.any fun inner => inner.typeValue = 0x0B then
          throw (.protocolViolation "ImmutablePropertiesObjectProperty.fromKeyValuePair"
            "ImmutableProperties must not contain nested ImmutableProperties (0x0B)")
        else return some properties) := rfl
  rw [hread, hread']
  apply (KeyValuePair.deserializeKvpListUntilEmpty_agrees value).bind
  rintro properties pairs - - rfl
  have hany : (properties.map KeyValuePair.ofRust).any (fun inner => inner.typeValue = 0x0B) =
      properties.any fun inner => inner.getType = TrackPropertyType.immutableProperties.toU64 := by
    rw [List.any_map]
    congr 1
    funext inner
    have hiff : ofU64 inner.getType = 0x0B ↔
        inner.getType = TrackPropertyType.immutableProperties.toU64 :=
      ofU64_inj (v := inner.getType) (w := 0x0B)
    simp only [Function.comp_apply, KeyValuePair.typeValue_ofRust, hiff]
  rw [hany]
  split
  · exact .error _ _
  · exact .ok trivial

theorem immutablePropertiesOf_agrees {kvp : Moqtail.KeyValuePair} (hwf : kvp.WellFormed) :
    Agree (fun _ _ => True) (ObjectProperty.deserialize kvp) (immutablePropertiesOf (.ofRust kvp)) := by
  by_cases hcontainer : kvp.getType = 0x0B
  · cases kvp with
    | varInt typeValue value =>
      cases hcontainer
      exact absurd hwf (by decide : ¬ (0x0B : UInt64) % 2 = 0)
    | bytes typeValue value =>
      cases hcontainer
      exact deserialize_container_agrees value
  · obtain ⟨p, hp⟩ := deserialize_ne_container hwf hcontainer
    have hnone : immutablePropertiesOf (.ofRust kvp) = .ok none := by
      cases kvp with
      | varInt typeValue value => rfl
      | bytes typeValue value => exact immutablePropertiesOf_ofRust value hcontainer
    rw [hp, hnone]
    exact .ok trivial

/-- The property decoders of the two libraries take the same bytes, and make of them the properties
of one Object. -/
theorem decodedProperties_agrees (bytes : Bytes) :
    Agree (fun properties pairs => ∃ kvps, pairs = List.map .ofRust kvps ∧
        List.Forall₂ (fun kvp p => ObjectProperty.deserialize kvp = .ok p) kvps properties)
      (deserializeObjectProperties bytes) (decodedProperties bytes) := by
  apply (KeyValuePair.deserializeKvpListUntilEmpty_agrees bytes).bind
  rintro kvps pairs hkvps - rfl
  obtain ⟨hfrom, -⟩ := deserializeKvpsFrom_wellFormed _ _ _ _ hkvps
  have hall : List.Forall₂ (fun kvp pair => Agree (fun _ _ => True) (ObjectProperty.deserialize kvp)
      (immutablePropertiesOf pair)) kvps (kvps.map .ofRust) := by
    rw [List.forall₂_map_right_iff, List.forall₂_same]
    exact fun kvp hkvp => immutablePropertiesOf_agrees (hfrom.wellFormed kvp hkvp)
  rw [← bind_pure (kvps.mapM ObjectProperty.deserialize)]
  apply (Agree.mapM hall).bind
  intro properties _ hproperties _ _
  exact .ok ⟨kvps, rfl, mapM_eq_ok_iff.mp hproperties⟩

/-! The filters of the two libraries. -/

/-- Both make a filter of the Range Filters or neither does, and if they do, with as many ranges and
with the same verdict on every Object. -/
def RangeFiltersAgree (params : List Moqtail.MessageParameter) (params' : List MessageParameter) :
    Prop :=
  Agree (fun combined combined' => combined'.rangeCount = combined.rangeCount ∧
      ∀ fields obj subgroupId, SameFields fields obj subgroupId →
        combined'.passes obj subgroupId = .ok (combined.passes fields))
    (Moqtail.CombinedFilter.forObjects params) (CombinedFilter.new params')

/-- Both select the same Locations of a track, live and of the past. -/
def LocationFiltersAgree (filter : Moqtail.LocationFilter) (f : LocationFilter)
    (largest : Option Moqtail.Location) : Prop :=
  f.startLocation (largest.map .ofRust) = (filter.startLocation largest).map .ofRust ∧
    f.endLocation = filter.endLocation.map .ofRust ∧
    f.fetchRange (largest.map .ofRust) =
      (filter.fetchRange largest).map LocationFilter.rangeOfRust

/-- The filters of the two libraries agree, but for a Next Object filter on a track whose Largest
Object has the last Object ID there is: there the Rust library starts at the Largest Object itself. -/
theorem filters_agree_iff {params : List Moqtail.MessageParameter} {params' : List MessageParameter}
    (h : List.Forall₂ Same params params') (htrack : CombinedFilter.NoTrackFilter params)
    {filter : Moqtail.LocationFilter} {f : LocationFilter} (hf : LocationFilter.ofRust filter = .ok f)
    (largest : Option Moqtail.Location) :
    RangeFiltersAgree params params' ∧ LocationFiltersAgree filter f largest ↔
      ¬ LocationFilter.PastLastObject filter largest := by
  constructor
  · rintro ⟨-, hstart, -⟩ hlast
    exact LocationFilter.startLocation_ne hf hlast hstart
  · intro hlast
    constructor
    · apply (CombinedFilter.new_agrees h htrack).imp
      intro combined combined' _ _ hcombined
      refine ⟨hcombined.rangeCount, ?_⟩
      intro fields obj subgroupId hobj
      exact CombinedFilter.passes_ofRust hcombined hobj
    · exact ⟨LocationFilter.startLocation_ofRust hf hlast, LocationFilter.endLocation_ofRust hf,
        LocationFilter.fetchRange_ofRust hf hlast⟩

def nextObjectFilter : LocationFilter := ⟨.nextObject, none, none, none, none, rfl⟩

def objectIdsFilter : RangeFilter := ⟨.objectId, some 3, none, [(2, some 5), (1, none)], rfl⟩

theorem filters_agree_iff_plain :
    RangeFiltersAgree [.rangeFilter .objectId (some ⟨3, none, [(2, some 5), (1, none)]⟩)]
        [.rangeFilter objectIdsFilter] ∧
      LocationFiltersAgree .nextObject nextObjectFilter (some ⟨4, 7⟩) ↔
      ¬ LocationFilter.PastLastObject .nextObject (some ⟨4, 7⟩) := by
  have hsame : Same (.rangeFilter .objectId (some ⟨3, none, [(2, some 5), (1, none)]⟩))
      (.rangeFilter objectIdsFilter) := .rangeFilter rfl
  refine filters_agree_iff (.cons hsame .nil) ?_ rfl (some ⟨4, 7⟩)
  intro f hf
  rw [List.mem_singleton] at hf
  cases hf

/-- After the last Object ID there is, the one library fetches the Largest Object for a Next Object
filter and the other nothing. -/
theorem not_filters_agree : ∃ (filter : Moqtail.LocationFilter) (f : LocationFilter)
    (largest : Option Moqtail.Location), LocationFilter.ofRust filter = .ok f ∧
      filter.fetchRange largest = some (⟨4, 0xFFFFFFFFFFFFFFFF⟩, ⟨4, 0xFFFFFFFFFFFFFFFF⟩) ∧
      f.fetchRange (largest.map .ofRust) = none ∧ ¬ LocationFiltersAgree filter f largest := by
  refine ⟨.nextObject, nextObjectFilter, some ⟨4, 0xFFFFFFFFFFFFFFFF⟩, rfl, by decide, by decide, ?_⟩
  rintro ⟨-, -, hfetch⟩
  exact absurd hfetch (by decide)

end Ts

end Moqtail
