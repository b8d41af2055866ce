import Moqtail.Wire.Filters

/-! What a Location Filter selects, against the range that a Fetch makes of it. -/
namespace Moqtail

open Lib

namespace LocationFilter

/-- The Locations that pass the filter, where `largest` is the Largest Object. -/
def Selects (filter : LocationFilter) (largest l : Location) : Prop :=
  (match filter with
    | nextObject => largest < l
    | filter => ∀ start, filter.startLocation (some largest) = some start → start ≤ l) ∧
  ∀ last, filter.endLocation = some last → l ≤ last

/-- A Fetch range is what the filter selects up to the Largest Object. -/
structure Exact (filter : LocationFilter) (largest : Location) : Prop where
  isSome : (∃ range, filter.fetchRange (some largest) = some range) ↔
    ∃ l, l ≤ largest ∧ filter.Selects largest l
  range : ∀ start last, filter.fetchRange (some largest) = some (start, last) →
    ∀ l, (start ≤ l ∧ l ≤ last) ↔ (filter.Selects largest l ∧ l ≤ largest)

/-- The filter is written and read back, unless its End Group is before its Start Group. -/
def RoundTrips (filter : LocationFilter) : Prop :=
  (∀ start last, filter.startLocation .none = some start → filter.endLocation = some last →
      start.group ≤ last.group) →
    ∃ out, filter.serialize = .ok out ∧ Reads deserialize out filter

/-- An End Group past the last one is an error. -/
def RefusesOverflow : Prop :=
  ∀ (bytes typed located rest : Bytes) (type : LocationFilterType) (start : Location)
    (delta : UInt64), type = .absoluteStartGroupEnd ∨ type = .absoluteRange →
    getVi bytes = .ok (type.toU64, typed) → Location.deserialize typed = .ok (start, located) →
    getVi located = .ok (delta, rest) → 2 ^ 64 ≤ start.group.toNat + delta.toNat →
    ∃ e, deserialize bytes = .error e

/-- Where a Fetch begins, before it is known whether anything is left to fetch. -/
def fetchStart (filter : LocationFilter) (largest : Location) : Location :=
  (filter.startLocation (some largest)).getD ⟨0, 0⟩

def fetchEnd (filter : LocationFilter) (largest : Location) : Location :=
  match filter.endLocation with
  | some last => if last < largest then last else largest
  | .none => largest

theorem fetchRange_eq (filter : LocationFilter) (largest : Location) :
    filter.fetchRange (some largest) =
      if filter.fetchStart largest ≤ filter.fetchEnd largest then
        some (filter.fetchStart largest, filter.fetchEnd largest)
      else .none := rfl

theorem le_fetchEnd_iff {filter : LocationFilter} {largest l : Location} :
    l ≤ filter.fetchEnd largest ↔
      (∀ last, filter.endLocation = some last → l ≤ last) ∧ l ≤ largest := by
  unfold fetchEnd
  cases filter.endLocation with
  | none => simp
  | some last =>
    simp only [Option.some.injEq, forall_eq']
    split
    · next hlt =>
      simp only [Location.lt_iff_key, Location.le_iff_key] at hlt ⊢
      omega
    · next hlt =>
      simp only [Location.lt_iff_key, Location.le_iff_key] at hlt ⊢
      omega

/-- The filter starts where the Fetch does, unless no Object ID comes after the largest one. -/
theorem selects_iff {filter : LocationFilter} {largest : Location}
    (h : filter = nextObject → largest.object ≠ 0xFFFFFFFFFFFFFFFF) (l : Location) :
    filter.Selects largest l ↔
      filter.fetchStart largest ≤ l ∧ ∀ last, filter.endLocation = some last → l ≤ last := by
  refine and_congr_left' ?_
  cases filter with
  | nextObject =>
    have hlast : (0xFFFFFFFFFFFFFFFF : UInt64).toNat = 2 ^ 64 - 1 := by decide
    have hne : largest.object.toNat ≠ 2 ^ 64 - 1 := by
      rw [← hlast]
      exact fun heq => h rfl (UInt64.toNat_inj.mp heq)
    have hbound := largest.object.toNat_lt
    have hsucc : (saturatingSucc largest.object).toNat = largest.object.toNat + 1 := by
      rw [saturatingSucc, if_pos (by omega), UInt64.toNat_add, UInt64.toNat_one]
      omega
    show largest < l ↔ (⟨largest.group, saturatingSucc largest.object⟩ : Location) ≤ l
    simp only [Location.lt_iff_key, Location.le_iff_key, Location.key, hsucc]
    omega
  | none =>
    refine iff_of_true (fun start hstart => nomatch hstart) ?_
    rw [Location.le_iff_key]
    simp [fetchStart, startLocation, Location.key]
  | relativeStart startGroup => simp [startLocation, fetchStart]
  | absoluteStart start => simp [startLocation, fetchStart]
  | absoluteStartGroupEnd start endGroup => simp [startLocation, fetchStart]
  | absoluteRange start last => simp [startLocation, fetchStart]

theorem exact_of_succ {filter : LocationFilter} {largest : Location}
    (h : filter = nextObject → largest.object ≠ 0xFFFFFFFFFFFFFFFF) : filter.Exact largest := by
  have hrange : ∀ l, (filter.fetchStart largest ≤ l ∧ l ≤ filter.fetchEnd largest) ↔
      (filter.Selects largest l ∧ l ≤ largest) := by
    intro l
    rw [selects_iff h, le_fetchEnd_iff, and_assoc]
  constructor
  · rw [fetchRange_eq]
    constructor
    · rintro ⟨range, hrange'⟩
      split at hrange'
      · next hle =>
        have hself := (hrange (filter.fetchStart largest)).mp
          ⟨Location.le_iff_key.mpr le_rfl, hle⟩
        exact ⟨_, hself.2, hself.1⟩
      · cases hrange'
    · rintro ⟨l, hle, hselects⟩
      obtain ⟨hlo, hhi⟩ := (hrange l).mpr ⟨hselects, hle⟩
      rw [Location.le_iff_key] at hlo hhi
      exact ⟨_, if_pos (Location.le_iff_key.mpr (hlo.trans hhi))⟩
  · intro start last hsome
    rw [fetchRange_eq] at hsome
    split at hsome
    · cases hsome
      exact hrange
    · cases hsome

/-- With no Object ID after the largest one, a Next Object filter fetches the Largest Object. -/
theorem not_exact_of_last {largest : Location} (h : largest.object = 0xFFFFFFFFFFFFFFFF) :
    ¬ nextObject.Exact largest := by
  intro hexact
  have hstart : nextObject.fetchStart largest = largest := by
    show (⟨largest.group, saturatingSucc largest.object⟩ : Location) = largest
    rw [h]
    exact congrArg (Location.mk largest.group) h.symm
  have hsome : nextObject.fetchRange (some largest) = some (largest, largest) := by
    rw [fetchRange_eq, hstart]
    exact if_pos (Location.le_iff_key.mpr le_rfl)
  obtain ⟨l, hle, hafter, -⟩ := hexact.isSome.mp ⟨_, hsome⟩
  rw [Location.le_iff_key] at hle
  have hlt : largest < l := hafter
  rw [Location.lt_iff_key] at hlt
  omega

theorem roundTrips (filter : LocationFilter) : filter.RoundTrips := by
  intro h
  have hdelta : ∀ startGroup endGroup : UInt64, startGroup ≤ endGroup →
      endGroupDelta startGroup endGroup = .ok (endGroup - startGroup) :=
    fun _ _ hle => if_neg (UInt64.not_lt.mpr hle)
  have hwritten : ∃ out, filter.serialize = .ok out := by
    cases filter with
    | none => exact ⟨_, rfl⟩
    | relativeStart startGroup => exact ⟨_, rfl⟩
    | absoluteStart start => exact ⟨_, rfl⟩
    | absoluteStartGroupEnd start endGroup =>
      rw [serialize, hdelta _ _ (h start _ rfl rfl)]
      exact ⟨_, rfl⟩
    | absoluteRange start last =>
      rw [serialize, hdelta _ _ (h start last rfl rfl)]
      exact ⟨_, rfl⟩
    | nextObject => exact ⟨_, rfl⟩
  obtain ⟨out, hout⟩ := hwritten
  exact ⟨out, hout, deserialize_reads hout⟩

theorem refusesOverflow : RefusesOverflow := by
  intro bytes typed located rest type start delta htype hraw hstart hdelta hsum
  have hend : endGroupOf start.group delta = .error (.protocolViolation
      "LocationFilter::deserialize"
      s!"StartGroup {start.group} plus EndGroupDelta {delta} exceeds 2^64 - 1") :=
    if_neg (Nat.not_lt.mpr hsum)
  unfold deserialize
  rcases htype with rfl | rfl
  · simp only [hraw, except_ok_bind, LocationFilterType.tryFrom_toU64, hstart, hdelta, hend]
    exact ⟨_, rfl⟩
  · simp only [hraw, except_ok_bind, LocationFilterType.tryFrom_toU64, hstart, hdelta, hend]
    exact ⟨_, rfl⟩

/-- Location Filters are resolved and carried exactly, but for a Next Object filter on a track
whose Largest Object has the last Object ID. -/
theorem resolves_iff (filter : LocationFilter) (largest : Location) :
    (filter.Exact largest ∧ filter.RoundTrips ∧ RefusesOverflow) ↔
      (filter = nextObject → largest.object ≠ 0xFFFFFFFFFFFFFFFF) := by
  constructor
  · rintro ⟨hexact, -, -⟩ rfl hlast
    exact not_exact_of_last hlast hexact
  · intro h
    exact ⟨exact_of_succ h, filter.roundTrips, refusesOverflow⟩

/-- `{7, 2^64 - 1}` is fetched, and it is not after the Largest Object. -/
theorem nextObject_fetches_largest :
    nextObject.fetchRange (some ⟨7, 0xFFFFFFFFFFFFFFFF⟩) =
        some (⟨7, 0xFFFFFFFFFFFFFFFF⟩, ⟨7, 0xFFFFFFFFFFFFFFFF⟩) ∧
      ¬ nextObject.Selects ⟨7, 0xFFFFFFFFFFFFFFFF⟩ ⟨7, 0xFFFFFFFFFFFFFFFF⟩ ∧
      ¬ nextObject.Exact ⟨7, 0xFFFFFFFFFFFFFFFF⟩ := by
  refine ⟨by decide, ?_, not_exact_of_last rfl⟩
  rintro ⟨hafter, -⟩
  have hlt : (⟨7, 0xFFFFFFFFFFFFFFFF⟩ : Location) < ⟨7, 0xFFFFFFFFFFFFFFFF⟩ := hafter
  exact absurd hlt (by decide)

end LocationFilter

end Moqtail
