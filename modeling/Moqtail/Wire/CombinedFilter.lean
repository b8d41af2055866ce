import Moqtail.Lib.Entries
import Moqtail.Wire.MessageParameter

/-! What a request's Range Filters add up to, and when they are refused, from
`model/parameter/range_filter.rs`, `model/parameter/combined_filter.rs` and the relay's
`filter_constructor.rs`. Numbers of Ranges are natural numbers, and a `BTreeMap` is the list of its
entries. -/
namespace Moqtail

open Lib

/-- An inclusive range, open-ended without a `last`. -/
structure Range where
  start : UInt64
  last : Option UInt64
deriving Repr, DecidableEq

def Range.contains (r : Range) (value : UInt64) : Bool :=
  value ≥ r.start && r.last.all (value ≤ ·)

inductive RangeFilterError where
  | overflow
  | priorityOutOfRange (value : UInt64)
  | oddPropertyType (propertyType : UInt64)
  | propertyTypeMismatch (kind : RangeFilterKind)
  | unordered
  | duplicate (kind : RangeFilterKind) (setId : UInt8) (propertyType : Option UInt64)
  | trackFilterOnObjects
  | tooManyRanges (count limit : Nat)
deriving Repr, DecidableEq

namespace RangeFilter

def addDelta (x delta : UInt64) : Except RangeFilterError UInt64 :=
  if x.toNat + delta.toNat < 2 ^ 64 then .ok (x + delta) else .error .overflow

/-- The loop, with `prior_end`. -/
def rangesFrom : UInt64 → List (UInt64 × Option UInt64) → Except RangeFilterError (List Range)
  | _, [] => .ok []
  | priorEnd, (startDelta, none) :: deltas => do
    let start ← addDelta priorEnd startDelta
    let ranges ← rangesFrom priorEnd deltas
    return ⟨start, none⟩ :: ranges
  | priorEnd, (startDelta, some endDelta) :: deltas => do
    let start ← addDelta priorEnd startDelta
    let last ← addDelta start endDelta
    let ranges ← rangesFrom last deltas
    return ⟨start, some last⟩ :: ranges

def ranges (f : RangeFilter) : Except RangeFilterError (List Range) := rangesFrom 0 f.deltas

def validate (f : RangeFilter) (kind : RangeFilterKind) : Except RangeFilterError (List Range) := do
  match kind.hasPropertyType, f.propertyType with
  | true, some propertyType =>
    if propertyType % 2 ≠ 0 then throw (.oddPropertyType propertyType)
  | false, none => pure ()
  | _, _ => throw (.propertyTypeMismatch kind)
  let ranges ← f.ranges
  if kind = .priority then
    match (ranges.flatMap fun r => r.start :: r.last.toList).find? (255 < ·) with
    | some value => throw (.priorityOutOfRange value)
    | none => pure ()
  return ranges

end RangeFilter

/-- Changes the value of a key, which is the default one if the map has none. -/
def modifyEntry {κ ν : Type} [LT κ] [DecidableLT κ] [DecidableEq κ] [Inhabited ν] (key : κ)
    (f : ν → ν) : List (κ × ν) → List (κ × ν)
  | [] => [(key, f default)]
  | (k, v) :: entries =>
    if key < k then (key, f default) :: (k, v) :: entries
    else if k = key then (k, f v) :: entries
    else (k, v) :: modifyEntry key f entries

structure FilterSet where
  subgroup : Option (List Range)
  objectId : Option (List Range)
  priority : Option (List Range)
  objectProperties : List (UInt64 × List Range)
  trackProperties : List (UInt64 × List Range)
deriving Repr, DecidableEq, Inhabited

structure CombinedFilter where
  sets : List (UInt8 × FilterSet)
  rangeCount : Nat
deriving Repr, DecidableEq, Inhabited

namespace CombinedFilter

def withRanges (kind : RangeFilterKind) (propertyType : Option UInt64) (ranges : List Range)
    (set : FilterSet) : FilterSet :=
  match kind with
  | .subgroup => { set with subgroup := some ranges }
  | .objectId => { set with objectId := some ranges }
  | .priority => { set with priority := some ranges }
  | .objectProperty => { set with
      objectProperties := modifyEntry (propertyType.getD 0) (fun _ => ranges) set.objectProperties }
  | .trackProperty => { set with
      trackProperties := modifyEntry (propertyType.getD 0) (fun _ => ranges) set.trackProperties }

/-- The loop, with the keys seen and the filter so far. -/
def newFrom (seen : List (RangeFilterKind × UInt8 × Option UInt64)) (filter : CombinedFilter) :
    List MessageParameter → Except RangeFilterError CombinedFilter
  | [] => .ok filter
  | .rangeFilter kind (some f) :: params => do
    let key := (kind, f.setId, f.propertyType)
    if key ∈ seen then throw (.duplicate kind f.setId f.propertyType)
    let ranges ← f.validate kind
    newFrom (key :: seen)
      ⟨modifyEntry f.setId (withRanges kind f.propertyType ranges) filter.sets,
        filter.rangeCount + ranges.length⟩ params
  | _ :: params => newFrom seen filter params

def new (params : List MessageParameter) : Except RangeFilterError CombinedFilter :=
  newFrom [] default params

def hasTrackFilters (filter : CombinedFilter) : Bool :=
  filter.sets.any fun s => ! s.2.trackProperties.isEmpty

def forObjects (params : List MessageParameter) : Except RangeFilterError CombinedFilter := do
  let filter ← new params
  if filter.hasTrackFilters then throw .trackFilterOnObjects
  return filter

end CombinedFilter

/-! The verdict on an Object. -/

/-- What an Object is filtered on. -/
structure ObjectFields where
  subgroupId : Option UInt64
  objectId : UInt64
  publisherPriority : UInt8
  properties : Option (List ObjectProperty)
deriving Repr, DecidableEq

def within (ranges : List Range) (value : UInt64) : Bool := ranges.any (·.contains value)

/-- Each required Property is there with a value in its Ranges. -/
def propertiesPass (required : List (UInt64 × List Range)) (values : List (UInt64 × UInt64)) : Bool :=
  required.all fun (propertyType, ranges) => (entryOf propertyType values).any (within ranges)

def collectKvps (kvps : List KeyValuePair) (values : List (UInt64 × UInt64)) :
    List (UInt64 × UInt64) :=
  kvps.foldl (fun values kvp =>
    match kvp with
    | .varInt typeValue value => addEntry typeValue value values
    | .bytes _ _ => values) values

/-- The turn of the loop. -/
def collectProperty (values : List (UInt64 × UInt64)) (property : ObjectProperty) :
    List (UInt64 × UInt64) :=
  match property with
  | .immutableProperties properties => collectKvps properties values
  | other =>
    match other.tryIntoKeyValuePair with
    | .ok kvp => collectKvps [kvp] values
    | .error _ => values

/-- The integer-valued Properties of an Object, those inside ImmutableProperties included. The first
of a repeated type counts. -/
def objectPropertyValues (properties : Option (List ObjectProperty)) : List (UInt64 × UInt64) :=
  (properties.getD []).foldl collectProperty []

def FilterSet.matches (set : FilterSet) (fields : ObjectFields) : Bool :=
  set.subgroup.all (fun ranges => fields.subgroupId.any (within ranges)) &&
    set.objectId.all (within · fields.objectId) &&
    set.priority.all (within · fields.publisherPriority.toUInt64) &&
    (set.objectProperties.isEmpty ||
      propertiesPass set.objectProperties (objectPropertyValues fields.properties))

namespace CombinedFilter

def isEmpty (filter : CombinedFilter) : Bool := filter.sets.isEmpty

/-- `matches`. -/
def passes (filter : CombinedFilter) (fields : ObjectFields) : Bool :=
  filter.isEmpty || filter.sets.any fun s => s.2.matches fields

end CombinedFilter

def withinLimit (limit : Nat) (any : Bool) (count : Nat) : Except RangeFilterError Unit :=
  if any ∧ (limit = 0 ∨ count > limit) then .error (.tooManyRanges count limit) else .ok ()

mutual

/-- What the loop has seen after one more parameter. The filters inside FILL_PARAMETERS count on
their own. -/
def countRangesOf (limit : Nat) (any : Bool) (count : Nat) :
    MessageParameter → Except RangeFilterError (Bool × Nat)
  | .rangeFilter _ filter => .ok (true, count + (filter.elim 0 fun f => f.deltas.length))
  | .fillParameters parameters => do
    let (fillAny, fillCount) ← countRanges limit false 0 parameters
    withinLimit limit fillAny fillCount
    return (any, count)
  | _ => .ok (any, count)

def countRanges (limit : Nat) (any : Bool) (count : Nat) :
    List MessageParameter → Except RangeFilterError (Bool × Nat)
  | [] => .ok (any, count)
  | p :: params => do
    let (any, count) ← countRangesOf limit any count p
    countRanges limit any count params

end

def checkFilterRangeLimit (params : List MessageParameter) (limit : Nat) :
    Except RangeFilterError Unit := do
  let (any, count) ← countRanges limit false 0 params
  withinLimit limit any count

/-- The check of every FILL_PARAMETERS among the parameters. -/
def checkFills : List MessageParameter → Except RangeFilterError Unit
  | [] => .ok ()
  | .fillParameters parameters :: params => do
    let _ ← CombinedFilter.forObjects parameters
    checkFills params
  | _ :: params => checkFills params

def tracksFilter (params : List MessageParameter) (limit : Nat) :
    Except RangeFilterError CombinedFilter := do
  checkFilterRangeLimit params limit
  checkFills params
  CombinedFilter.new params

def updatedTracksFilter (current update : List MessageParameter) (limit : Nat) :
    Except RangeFilterError CombinedFilter := do
  checkFilterRangeLimit update limit
  tracksFilter (applyMessageParameterUpdate current update) limit

/-- SetIDs of which each holds one kind of filter, and a removal that no limit of 0 lets through. -/
example : (tracksFilter [.rangeFilter .subgroup (some ⟨1, none, [(2, some 3)]⟩),
    .rangeFilter .trackProperty (some ⟨0, some 4, [(1, none)]⟩)] 2).map (·.sets.map Prod.fst) =
      .ok [0, 1] ∧
    checkFilterRangeLimit [.rangeFilter .priority none] 0 = .error (.tooManyRanges 0 0) := by
  decide

end Moqtail
