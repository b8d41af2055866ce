import Moqtail.Ts.ParameterAgreement
import Moqtail.Ts.SubgroupStream

/-! What a request's Range Filters add up to in the TypeScript library, and the Locations its
Location Filter selects, from `model/parameter/message/range_filter.ts`,
`model/parameter/message/combined_filter.ts` and `model/parameter/message/location_filter.ts`.

A `Map` is the list of its entries in the order they were added. -/
namespace Moqtail.Ts

open Lib

/-! Location Filters. -/

namespace LocationFilter

/-- The constructor has seen to it that the fields of the type are there. -/
def startLocation (f : LocationFilter) (largest : Option Location) : Option Location :=
  match f.filterType with
  | .none => none
  | .relativeStart =>
    match largest with
    | none => some ⟨0, 0⟩
    | some largest =>
      let group := largest.group + 1 - f.startGroup.getD 0
      some ⟨if group < 0 then 0 else if group > maxU64 then maxU64 else group, 0⟩
  | .nextObject =>
    match largest with
    | some largest => some ⟨largest.group, largest.object + 1⟩
    | none => some ⟨0, 0⟩
  | _ => some ⟨f.startGroup.getD 0, f.startObject.getD 0⟩

def endLocation (f : LocationFilter) : Option Location :=
  match f.filterType with
  | .absoluteStartGroupEnd => some ⟨f.endGroup.getD 0, maxU64⟩
  | .absoluteRange => some ⟨f.endGroup.getD 0, f.endObject.getD 0⟩
  | _ => none

def fetchRange (f : LocationFilter) (largest : Option Location) : Option (Location × Location) :=
  match largest with
  | none => none
  | some largest =>
    let start := (f.startLocation (some largest)).getD ⟨0, 0⟩
    let last :=
      match f.endLocation with
      | some last => if last.compare largest < 0 then last else largest
      | none => largest
    if start.compare last ≤ 0 then some (start, last) else none

end LocationFilter

/-! Range Filters. -/

/-- An inclusive range, open-ended without a `last`. -/
structure Range where
  start : Int
  last : Option Int
deriving Repr, DecidableEq

namespace RangeFilter

def boundExceeds : Error := .invalidFilter "RangeFilter.ranges" "a range bound exceeds 2^64 - 1"

/-- The loop, with `priorEnd`. -/
def rangesFrom : Int → List (Int × Option Int) → Result (List Range)
  | _, [] => .ok []
  | priorEnd, (startDelta, none) :: deltas => do
    let start := priorEnd + startDelta
    if start > maxU64 then throw boundExceeds
    let ranges ← rangesFrom priorEnd deltas
    return ⟨start, none⟩ :: ranges
  | priorEnd, (startDelta, some endDelta) :: deltas => do
    let start := priorEnd + startDelta
    if start > maxU64 then throw boundExceeds
    let last := start + endDelta
    if last > maxU64 then throw boundExceeds
    let ranges ← rangesFrom last deltas
    return ⟨start, some last⟩ :: ranges

def ranges (f : RangeFilter) : Result (List Range) := rangesFrom 0 f.deltas

def validate (f : RangeFilter) : Result (List Range) := do
  match f.propertyType with
  | some propertyType =>
    if propertyType % 2 ≠ 0 then
      throw (.invalidFilter "RangeFilter.validate"
        ("property type 0x" ++ toString16 propertyType ++ " is odd"))
  | none => pure ()
  let ranges ← f.ranges
  if f.kind = .priority then
    match (ranges.flatMap fun r => r.start :: r.last.toList).find? (255 < ·) with
    | some value =>
      throw (.invalidFilter "RangeFilter.validate" s!"priority {value} is outside 0-255")
    | none => pure ()
  return ranges

end RangeFilter

structure FilterSet where
  subgroup : Option (List Range)
  objectId : Option (List Range)
  priority : Option (List Range)
  properties : List (Int × List Range)
deriving Repr, DecidableEq, Inhabited

structure CombinedFilter where
  sets : List (Int × FilterSet)
  rangeCount : Nat
deriving Repr, DecidableEq, Inhabited

namespace CombinedFilter

def withRanges (filter : RangeFilter) (ranges : List Range) (set : FilterSet) : FilterSet :=
  match filter.kind with
  | .subgroup => { set with subgroup := some ranges }
  | .objectId => { set with objectId := some ranges }
  | .priority => { set with priority := some ranges }
  | .objectProperty => { set with
      properties := changeEntry (filter.propertyType.getD 0) ranges (fun _ => ranges) set.properties }
  | .trackProperty => set

def trackFilterOnObjects : Error :=
  .invalidFilter "CombinedFilter" "a track property filter selects tracks, not Objects"

def repeated (filter : RangeFilter) (setId : Int) : Error :=
  .invalidFilter "CombinedFilter"
    (RangeFilterKind.name filter.kind ++ s!" filter repeats SetID {setId}" ++
      match filter.propertyType with
      | some propertyType => " for property 0x" ++ toString16 propertyType
      | none => "")

/-- The loop, with the keys seen and the filter so far. A key is a string of its three parts, which
no other three make. -/
def newFrom (seen : List (RangeFilterKind × Int × Option Int)) (combined : CombinedFilter) :
    List MessageParameter → Result CombinedFilter
  | [] => .ok combined
  | .rangeFilter filter :: params =>
    match filter.setId with
    | none => newFrom seen combined params
    | some setId => do
      if filter.kind = .trackProperty then throw trackFilterOnObjects
      let key := (filter.kind, setId, filter.propertyType)
      if key ∈ seen then throw (repeated filter setId)
      let ranges ← filter.validate
      newFrom (key :: seen)
        ⟨changeEntry setId default (withRanges filter ranges) combined.sets,
          combined.rangeCount + ranges.length⟩ params
  | _ :: params => newFrom seen combined params

/-- The constructor. -/
def new (params : List MessageParameter) : Result CombinedFilter := newFrom [] default params

def isEmpty (combined : CombinedFilter) : Bool := combined.sets.isEmpty

end CombinedFilter

/-! The verdict on an Object. -/

def within (ranges : List Range) (value : Int) : Bool :=
  ranges.any fun r => value ≥ r.start && r.last.all (value ≤ ·)

/-- `ImmutablePropertiesObjectProperty.fromKeyValuePair`. -/
def immutablePropertiesOf (pair : KeyValuePair) : Result (Option (List KeyValuePair)) :=
  immutablePropertiesIn "ImmutablePropertiesObjectProperty.fromKeyValuePair" pair

/-- `collect`, with what it does of the pairs that a container holds. -/
def collectWith (inner : List KeyValuePair → List (Int × Int) → Result (List (Int × Int))) :
    List KeyValuePair → List (Int × Int) → Result (List (Int × Int))
  | [], values => .ok values
  | pair :: pairs, values =>
    match pair.value with
    | .bigint value => collectWith inner pairs (addEntry pair.typeValue value values)
    | .uint8Array _ => do
      let immutable ← immutablePropertiesOf pair
      let values ←
        match immutable with
        | some properties => inner properties values
        | none => .ok values
      collectWith inner pairs values

/-- A container holds no other, so that what is done inside one is only two calls deep. -/
def collect : List KeyValuePair → List (Int × Int) → Result (List (Int × Int)) :=
  collectWith (collectWith fun _ values => .ok values)

def propertiesPass (required : List (Int × List Range)) (properties : Option (List KeyValuePair)) :
    Result Bool :=
  if required.isEmpty then .ok true
  else do
    let values ← collect (properties.getD []) []
    return required.all fun (propertyType, ranges) =>
      (entryOf propertyType values).any (within ranges)

/-- One turn of the loop of `matches`. -/
def FilterSet.matches (set : FilterSet) (obj : MoqtObject) (subgroupId : Option Int) : Result Bool :=
  if set.subgroup.any fun ranges => !subgroupId.any (within ranges) then .ok false
  else if set.objectId.any fun ranges => !within ranges obj.objectId then .ok false
  else if set.priority.any fun ranges => !within ranges obj.publisherPriority then .ok false
  else propertiesPass set.properties obj.properties

namespace CombinedFilter

def matchesFrom (obj : MoqtObject) (subgroupId : Option Int) : List (Int × FilterSet) → Result Bool
  | [] => .ok false
  | (_, set) :: sets => do
    let pass ← set.matches obj subgroupId
    if pass then return true
    matchesFrom obj subgroupId sets

/-- `matches`. -/
def passes (combined : CombinedFilter) (obj : MoqtObject) (subgroupId : Option Int) : Result Bool :=
  if combined.isEmpty then .ok true else matchesFrom obj subgroupId combined.sets

end CombinedFilter

/-! Containers. -/

theorem noContainer_of_immutablePropertiesOf {pair : KeyValuePair} {properties : List KeyValuePair}
    (h : immutablePropertiesOf pair = .ok (some properties)) :
    ∀ p ∈ properties, p.typeValue ≠ 0x0B := by
  unfold immutablePropertiesOf immutablePropertiesIn at h
  split at h
  · cases h
  split at h
  · cases h
  obtain ⟨found, -, hret⟩ := except_bind_eq_ok.mp h
  split at hret
  · cases hret
  next hnested =>
    cases hret
    simpa using hnested

section Containers

variable {inner inner' : List KeyValuePair → List (Int × Int) → Result (List (Int × Int))}

/-- Where there is no container it does not matter what would be done inside one. -/
theorem collectWith_noContainer {pairs : List KeyValuePair} (h : ∀ p ∈ pairs, p.typeValue ≠ 0x0B) :
    collectWith inner pairs = collectWith inner' pairs := by
  funext values
  induction pairs generalizing values with
  | nil => rfl
  | cons pair pairs ih =>
    rw [List.forall_mem_cons] at h
    rw [collectWith, collectWith]
    cases hvalue : pair.value with
    | bigint value => exact ih h.2 _
    | uint8Array value =>
      have hnone : immutablePropertiesOf pair = .ok none := by
        rw [immutablePropertiesOf, immutablePropertiesIn, hvalue]
        dsimp only
        rw [if_pos h.1]
      dsimp only
      rw [hnone]
      exact ih h.2 values

theorem collectWith_congr
    (h : ∀ pairs, (∀ p ∈ pairs, p.typeValue ≠ 0x0B) → inner pairs = inner' pairs) :
    collectWith inner = collectWith inner' := by
  funext pairs values
  induction pairs generalizing values with
  | nil => rfl
  | cons pair pairs ih =>
    rw [collectWith, collectWith]
    cases hvalue : pair.value with
    | bigint value => exact ih _
    | uint8Array value =>
      dsimp only
      cases himmutable : immutablePropertiesOf pair with
      | error e => rfl
      | ok immutable =>
        rw [except_ok_bind, except_ok_bind]
        cases immutable with
        | none => exact ih values
        | some properties =>
          dsimp only
          rw [h properties (noContainer_of_immutablePropertiesOf himmutable)]
          congr 1
          funext values
          exact ih values

end Containers

/-- `collect` calls itself, as in the source. -/
theorem collect_eq : collect = collectWith collect := by
  apply collectWith_congr
  intro pairs hplain
  exact collectWith_noContainer hplain

end Moqtail.Ts
