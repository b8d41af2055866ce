import Moqtail.Ts.KeyValuePair
import Moqtail.Wire.CombinedFilter

/-! Location Filters and Range Filters of the TypeScript library, from
`model/common/location.ts`, `model/parameter/message/location_filter.ts` and
`model/parameter/message/range_filter.ts`, and that they are on the wire what those of the Rust
library are.

What a constructor checks is a field of the value it makes. -/
namespace Moqtail.Ts

open Lib

structure Location where
  group : Int
  object : Int
deriving Repr, DecidableEq

namespace Location

def serialize (l : Location) : Result Bytes := do
  let group ← ByteBuffer.putVI l.group
  let object ← ByteBuffer.putVI l.object
  return group ++ object

def deserialize (buf : Bytes) : Result (Location × Bytes) := do
  let (group, buf) ← ByteBuffer.getVI buf
  let (object, buf) ← ByteBuffer.getVI buf
  return (⟨group, object⟩, buf)

def compare (l other : Location) : Int :=
  if l.group < other.group then -1
  else if l.group > other.group then 1
  else if l.object < other.object then -1
  else if l.object > other.object then 1
  else 0

end Location

/-! The numbers of the enumerations, and the digits of a number in a message. -/

def locationFilterTypeValue : LocationFilterType → Int
  | .none => 0x0
  | .relativeStart => 0x1
  | .absoluteStart => 0x2
  | .absoluteStartGroupEnd => 0x3
  | .absoluteRange => 0x4
  | .nextObject => 0x5

def messageParameterTypeValue : MessageParameterType → Int
  | .objectDeliveryTimeout => 0x02
  | .authorizationToken => 0x03
  | .rendezvousTimeout => 0x04
  | .subgroupDeliveryTimeout => 0x06
  | .expires => 0x08
  | .largestObject => 0x09
  | .fillTimeout => 0x0a
  | .forward => 0x10
  | .subscriberPriority => 0x20
  | .locationFilter => 0x21
  | .groupOrder => 0x22
  | .fillParameters => 0x23
  | .switchFrom => 0x24
  | .subgroupFilter => 0x25
  | .objectIdFilter => 0x26
  | .priorityFilter => 0x27
  | .objectPropertyFilter => 0x28
  | .trackPropertyFilter => 0x29
  | .newGroupRequest => 0x32
  | .trackNamespacePrefix => 0x34
  | .includeProperties => 0x35
  | .switchingSetAssignment => 0x41

/-- `toString(16)` of a value that is not negative. -/
def toString16 (v : Int) : String := String.ofList (Nat.toDigits 16 v.toNat)

theorem locationFilterTypeValue_eq (t : LocationFilterType) :
    locationFilterTypeValue t = ofU64 t.toU64 := by
  cases t <;> rfl

theorem messageParameterTypeValue_eq (t : MessageParameterType) :
    messageParameterTypeValue t = ofU64 t.toU64 := by
  cases t <;> rfl

/-! Location Filters. -/

/-- `FIELD_COUNT`. -/
def fieldCount : LocationFilterType → Nat
  | .none => 0
  | .relativeStart => 1
  | .absoluteStart => 2
  | .absoluteStartGroupEnd => 3
  | .absoluteRange => 4
  | .nextObject => 0

/-- What the constructor finds wrong with the fields. -/
def LocationFilter.violation (filterType : LocationFilterType)
    (startGroup startObject endGroup endObject : Option Int) : Option String :=
  let count := fieldCount filterType
  let fields := [startGroup, startObject, endGroup, endObject].zipIdx
  match fields.find? fun (field, i) => field.isSome ≠ decide (i < count) with
  | some (field, i) => some
    (s!"Location Filter Type {locationFilterTypeValue filterType} carries {count} fields; " ++
      s!"field {i + 1} is " ++ (if field.isNone then "missing" else "not one of them"))
  | none =>
    match startGroup, endGroup with
    | some startGroup, some endGroup =>
      if endGroup < startGroup then
        some s!"End Group {endGroup} is before Start Group {startGroup}"
      else none
    | _, _ => none

structure LocationFilter where
  filterType : LocationFilterType
  startGroup : Option Int
  startObject : Option Int
  endGroup : Option Int
  endObject : Option Int
  made : LocationFilter.violation filterType startGroup startObject endGroup endObject = none
deriving DecidableEq

namespace LocationFilter

def new (filterType : LocationFilterType) (startGroup startObject endGroup endObject : Option Int) :
    Result LocationFilter :=
  match made : violation filterType startGroup startObject endGroup endObject with
  | some details => .error (.protocolViolation "LocationFilter" details)
  | none => .ok ⟨filterType, startGroup, startObject, endGroup, endObject, made⟩

/-- A field that is written if the type has it. -/
def putField (present : Bool) (value : Int) : Result Bytes :=
  if present then ByteBuffer.putVI value else .ok []

/-- The constructor has seen to it that the fields of the type are there. -/
def serializeValue (f : LocationFilter) : Result Bytes := do
  let count := fieldCount f.filterType
  let filterType ← ByteBuffer.putVI (locationFilterTypeValue f.filterType)
  let startGroup ← putField (count > 0) (f.startGroup.getD 0)
  let startObject ← putField (count > 1) (f.startObject.getD 0)
  let endGroup ← putField (count > 2) (f.endGroup.getD 0 - f.startGroup.getD 0)
  let endObject ← putField (count > 3) (f.endObject.getD 0)
  return filterType ++ startGroup ++ startObject ++ endGroup ++ endObject

def tryFrom (raw : Int) : Result LocationFilterType :=
  if raw = 0x0 then .ok .none
  else if raw = 0x1 then .ok .relativeStart
  else if raw = 0x2 then .ok .absoluteStart
  else if raw = 0x3 then .ok .absoluteStartGroupEnd
  else if raw = 0x4 then .ok .absoluteRange
  else if raw = 0x5 then .ok .nextObject
  else .error (.invalidEnumValue "LocationFilterType.tryFrom" raw)

/-- A field that is read if the type has it. -/
def readField (present : Bool) (buf : Bytes) : Result (Option Int × Bytes) :=
  if present then do
    let (value, buf) ← ByteBuffer.getVI buf
    return (some value, buf)
  else .ok (none, buf)

def deserializeValue (buf : Bytes) : Result (LocationFilter × Bytes) := do
  let (raw, buf) ← ByteBuffer.getVI buf
  match tryFrom raw with
  | .error _ => .error (.protocolViolation "LocationFilter.deserializeValue"
      s!"unknown Location Filter Type {raw}")
  | .ok filterType =>
    let count := fieldCount filterType
    let (startGroup, buf) ← readField (count > 0) buf
    let (startObject, buf) ← readField (count > 1) buf
    let (delta, buf) ← readField (count > 2) buf
    let endGroup := delta.map (startGroup.getD 0 + ·)
    if endGroup.any (· > maxU64) then
      throw (.protocolViolation "LocationFilter.deserializeValue"
        "StartGroup plus EndGroupDelta exceeds 2^64 - 1")
    let (endObject, buf) ← readField (count > 3) buf
    let filter ← new filterType startGroup startObject endGroup endObject
    return (filter, buf)

end LocationFilter

/-! Range Filters. -/

def RangeFilterKind.hasPropertyType (kind : RangeFilterKind) : Bool :=
  kind = .objectProperty || kind = .trackProperty

/-- `RangeFilterKind[kind]`. -/
def RangeFilterKind.name : RangeFilterKind → String
  | .subgroup => "Subgroup"
  | .objectId => "ObjectId"
  | .priority => "Priority"
  | .objectProperty => "ObjectProperty"
  | .trackProperty => "TrackProperty"

/-- What the constructor finds wrong with the fields. -/
def RangeFilter.violation (kind : RangeFilterKind) (setId propertyType : Option Int)
    (deltas : List (Int × Option Int)) : Option String :=
  match setId with
  | none =>
    if propertyType.isSome ∨ deltas ≠ [] then
      some "a removal carries no SetID, Property Type or Ranges"
    else none
  | some setId =>
    if setId < 0 ∨ setId > 255 then some s!"SetID {setId} is not a single byte"
    else if RangeFilterKind.hasPropertyType kind ≠ propertyType.isSome then
      some (RangeFilterKind.name kind ++ " filter has the wrong Property Type presence")
    else if deltas.dropLast.any (·.2.isNone) then some "only the last range can be open-ended"
    else none

structure RangeFilter where
  kind : RangeFilterKind
  setId : Option Int
  propertyType : Option Int
  deltas : List (Int × Option Int)
  made : RangeFilter.violation kind setId propertyType deltas = none
deriving DecidableEq

namespace RangeFilter

def new (kind : RangeFilterKind) (setId propertyType : Option Int) (deltas : List (Int × Option Int)) :
    Result RangeFilter :=
  match made : violation kind setId propertyType deltas with
  | some details => .error (.protocolViolation "RangeFilter" details)
  | none => .ok ⟨kind, setId, propertyType, deltas, made⟩

def isRemoval (f : RangeFilter) : Bool := f.setId.isNone

def putOptional (v : Option Int) : Result Bytes :=
  match v with
  | some v => ByteBuffer.putVI v
  | none => .ok []

def serializeDeltas : List (Int × Option Int) → Result Bytes
  | [] => .ok []
  | (start, last) :: deltas => do
    let start ← ByteBuffer.putVI start
    let last ← putOptional last
    let tail ← serializeDeltas deltas
    return start ++ last ++ tail

def serializeValue (f : RangeFilter) : Result Bytes :=
  match f.setId with
  | none => .ok []
  | some setId => do
    let setId ← ByteBuffer.putU8 setId
    let propertyType ← putOptional f.propertyType
    let deltas ← serializeDeltas f.deltas
    return setId ++ propertyType ++ deltas

/-- The loop over what remains: each turn takes a byte at least. -/
def deserializeDeltas : Nat → Bytes → Result (List (Int × Option Int))
  | 0, _ => .ok []
  | fuel + 1, buf =>
    if buf.isEmpty then .ok []
    else do
      let (start, buf) ← ByteBuffer.getVI buf
      if ¬ buf.isEmpty then
        let (last, buf) ← ByteBuffer.getVI buf
        let deltas ← deserializeDeltas fuel buf
        return (start, some last) :: deltas
      else
        let deltas ← deserializeDeltas fuel buf
        return (start, none) :: deltas

def deserializeValue (kind : RangeFilterKind) (value : Bytes) : Result RangeFilter :=
  if value.isEmpty then new kind none none []
  else do
    let (setId, buf) ← ByteBuffer.getU8 value
    let (propertyType, buf) ←
      LocationFilter.readField (RangeFilterKind.hasPropertyType kind) buf
    let deltas ← deserializeDeltas buf.length buf
    new kind (some setId) propertyType deltas

end RangeFilter

/-! The filters of the Rust library in the types of this one. -/

namespace Location

def ofRust (l : Moqtail.Location) : Location := ⟨ofU64 l.group, ofU64 l.object⟩

theorem serialize_ofRust (l : Moqtail.Location) : (ofRust l).serialize = .ok l.serialize := by
  rw [serialize, ofRust, ByteBuffer.putVI_eq, ByteBuffer.putVI_eq]
  rfl

theorem deserialize_reads (l : Moqtail.Location) : Reads deserialize l.serialize (ofRust l) := by
  intro tail
  rw [deserialize, Moqtail.Location.serialize, List.append_assoc, ByteBuffer.getVI_putVi,
    except_ok_bind]
  dsimp only
  rw [ByteBuffer.getVI_putVi]
  rfl

end Location

namespace LocationFilter

theorem new_eq_ok {t : LocationFilterType} {startGroup startObject endGroup endObject : Option Int}
    {f : LocationFilter} : new t startGroup startObject endGroup endObject = .ok f ↔
      ∃ made : violation t startGroup startObject endGroup endObject = none,
        f = ⟨t, startGroup, startObject, endGroup, endObject, made⟩ := by
  unfold new
  split
  next details hmade =>
    constructor
    · intro h
      cases h
    · rintro ⟨made, -⟩
      rw [hmade] at made
      cases made
  next made =>
    constructor
    · intro h
      cases h
      exact ⟨made, rfl⟩
    · rintro ⟨-, rfl⟩
      rfl

theorem exists_new {t : LocationFilterType} {startGroup startObject endGroup endObject : Option Int}
    (made : violation t startGroup startObject endGroup endObject = none) :
    ∃ f, new t startGroup startObject endGroup endObject = .ok f :=
  ⟨⟨t, startGroup, startObject, endGroup, endObject, made⟩, new_eq_ok.mpr ⟨made, rfl⟩⟩

/-- The filter in the types of this library. It has none with an End Group before the Start
Group. -/
def ofRust : Moqtail.LocationFilter → Result LocationFilter
  | .none => new .none none none none none
  | .relativeStart startGroup => new .relativeStart (some (ofU64 startGroup)) none none none
  | .absoluteStart start =>
    new .absoluteStart (some (ofU64 start.group)) (some (ofU64 start.object)) none none
  | .absoluteStartGroupEnd start endGroup =>
    new .absoluteStartGroupEnd (some (ofU64 start.group)) (some (ofU64 start.object))
      (some (ofU64 endGroup)) none
  | .absoluteRange start last =>
    new .absoluteRange (some (ofU64 start.group)) (some (ofU64 start.object))
      (some (ofU64 last.group)) (some (ofU64 last.object))
  | .nextObject => new .nextObject none none none none

theorem tryFrom_toU64 (t : LocationFilterType) : tryFrom (ofU64 t.toU64) = .ok t := by
  cases t <;> rfl

/-- The End Group is not before the Start Group, so that there is a delta between them. -/
theorem endGroupDelta_of_le {startGroup endGroup : UInt64}
    (h : ¬ ofU64 endGroup < ofU64 startGroup) :
    Moqtail.LocationFilter.endGroupDelta startGroup endGroup = .ok (endGroup - startGroup) ∧
      ofU64 endGroup - ofU64 startGroup = ofU64 (endGroup - startGroup) := by
  have hle : startGroup.toNat ≤ endGroup.toNat := by
    dsimp only [ofU64] at h
    omega
  have hsub := UInt64.toNat_sub_of_le _ _ (UInt64.le_iff_toNat_le.mpr hle)
  constructor
  · rw [Moqtail.LocationFilter.endGroupDelta, if_neg]
    rw [UInt64.lt_iff_toNat_lt]
    omega
  · dsimp only [ofU64]
    omega

theorem violation_absolute {t : LocationFilterType} {startGroup startObject endGroup : UInt64}
    {endObject : Option Int}
    (made : violation t (some (ofU64 startGroup)) (some (ofU64 startObject)) (some (ofU64 endGroup))
      endObject = none) : ¬ ofU64 endGroup < ofU64 startGroup := by
  intro hlt
  unfold violation at made
  dsimp only at made
  split at made
  · cases made
  · rw [if_pos hlt] at made
    cases made

/-- A filter that both have is written by both, as the same bytes. -/
theorem serializeValue_ofRust {filter : Moqtail.LocationFilter} {f : LocationFilter}
    (h : ofRust filter = .ok f) :
    ∃ out, filter.serialize = .ok out ∧ f.serializeValue = .ok out := by
  have hwrite := ByteBuffer.putVI_eq
  cases filter <;> rw [ofRust, new_eq_ok] at h <;> obtain ⟨made, rfl⟩ := h
  case none | nextObject =>
    refine ⟨_, rfl, ?_⟩
    simp [serializeValue, locationFilterTypeValue_eq, hwrite, fieldCount, putField,
      Moqtail.LocationFilter.filterType]
  case relativeStart startGroup =>
    refine ⟨_, rfl, ?_⟩
    simp [serializeValue, locationFilterTypeValue_eq, hwrite, fieldCount, putField,
      Moqtail.LocationFilter.filterType]
  case absoluteStart start =>
    refine ⟨_, rfl, ?_⟩
    simp [serializeValue, locationFilterTypeValue_eq, hwrite, fieldCount, putField,
      Moqtail.LocationFilter.filterType, Moqtail.Location.serialize]
  case absoluteStartGroupEnd start endGroup =>
    obtain ⟨hdelta, hsub⟩ := endGroupDelta_of_le (violation_absolute made)
    refine ⟨_, by rw [Moqtail.LocationFilter.serialize, hdelta]; rfl, ?_⟩
    simp [serializeValue, locationFilterTypeValue_eq, hwrite, fieldCount, putField, hsub,
      Moqtail.LocationFilter.filterType, Moqtail.Location.serialize]
  case absoluteRange start last =>
    obtain ⟨hdelta, hsub⟩ := endGroupDelta_of_le (violation_absolute made)
    refine ⟨_, by rw [Moqtail.LocationFilter.serialize, hdelta]; rfl, ?_⟩
    simp [serializeValue, locationFilterTypeValue_eq, hwrite, fieldCount, putField, hsub,
      Moqtail.LocationFilter.filterType, Moqtail.Location.serialize]

theorem violation_ordered {t : LocationFilterType} {startGroup startObject endGroup : UInt64}
    {endObject : Option Int} {delta : UInt64}
    (hfields : [some (ofU64 startGroup), some (ofU64 startObject), some (ofU64 endGroup),
      endObject].zipIdx.find? (fun (field, i) => field.isSome ≠ decide (i < fieldCount t)) = none)
    (h : Moqtail.LocationFilter.endGroupDelta startGroup endGroup = .ok delta) :
    violation t (some (ofU64 startGroup)) (some (ofU64 startObject)) (some (ofU64 endGroup))
      endObject = none := by
  have hle : ¬ ofU64 endGroup < ofU64 startGroup := by
    unfold Moqtail.LocationFilter.endGroupDelta at h
    split at h
    · cases h
    next hlt =>
      rw [UInt64.lt_iff_toNat_lt] at hlt
      dsimp only [ofU64]
      omega
  unfold violation
  dsimp only
  rw [hfields]
  dsimp only
  rw [if_neg hle]

/-- This library has every filter that the other can write. -/
theorem ofRust_of_serialize {filter : Moqtail.LocationFilter} {out : Bytes}
    (h : filter.serialize = .ok out) : ∃ f, ofRust filter = .ok f := by
  cases filter <;> rw [ofRust]
  case none => exact exists_new rfl
  case nextObject => exact exists_new rfl
  case relativeStart startGroup => exact exists_new rfl
  case absoluteStart start => exact exists_new rfl
  case absoluteStartGroupEnd start endGroup =>
    obtain ⟨delta, hdelta, -⟩ := except_bind_eq_ok.mp h
    exact exists_new (violation_ordered rfl hdelta)
  case absoluteRange start last =>
    obtain ⟨delta, hdelta, -⟩ := except_bind_eq_ok.mp h
    exact exists_new (violation_ordered rfl hdelta)

theorem ofU64_le_maxU64 (v : UInt64) : ¬ ofU64 v > maxU64 := by
  have := v.toNat_lt
  dsimp only [ofU64, maxU64]
  omega

/-- A filter that both have is read back as it is here. -/
theorem deserializeValue_reads {filter : Moqtail.LocationFilter} {f : LocationFilter} {out : Bytes}
    (h : ofRust filter = .ok f) (hout : filter.serialize = .ok out) :
    Reads deserializeValue out f := by
  intro tail
  have hread := ByteBuffer.getVI_putVi
  have hmax := ofU64_le_maxU64
  cases filter <;> rw [ofRust] at h
  case none | nextObject =>
    cases hout
    simp [deserializeValue, hread, tryFrom_toU64, fieldCount, readField, h,
      Moqtail.LocationFilter.filterType]
  case relativeStart startGroup =>
    cases hout
    simp [deserializeValue, hread, tryFrom_toU64, fieldCount, readField, h,
      Moqtail.LocationFilter.filterType]
  case absoluteStart start =>
    cases hout
    simp [deserializeValue, hread, tryFrom_toU64, fieldCount, readField, h,
      Moqtail.LocationFilter.filterType, Moqtail.Location.serialize]
  case absoluteStartGroupEnd start endGroup =>
    obtain ⟨made, -⟩ := new_eq_ok.mp h
    obtain ⟨hdelta, hsub⟩ := endGroupDelta_of_le (violation_absolute made)
    rw [Moqtail.LocationFilter.serialize, hdelta] at hout
    cases hout
    have hsum : ofU64 start.group + ofU64 (endGroup - start.group) = ofU64 endGroup := by
      omega
    simp [deserializeValue, hread, tryFrom_toU64, fieldCount, readField, h, hsum, hmax endGroup,
      Moqtail.LocationFilter.filterType, Moqtail.Location.serialize]
  case absoluteRange start last =>
    obtain ⟨made, -⟩ := new_eq_ok.mp h
    obtain ⟨hdelta, hsub⟩ := endGroupDelta_of_le (violation_absolute made)
    rw [Moqtail.LocationFilter.serialize, hdelta] at hout
    cases hout
    have hsum : ofU64 start.group + ofU64 (last.group - start.group) = ofU64 last.group := by
      omega
    simp [deserializeValue, hread, tryFrom_toU64, fieldCount, readField, h, hsum, hmax last.group,
      Moqtail.LocationFilter.filterType, Moqtail.Location.serialize]

end LocationFilter

namespace RangeFilter

theorem new_eq_ok {kind : RangeFilterKind} {setId propertyType : Option Int}
    {deltas : List (Int × Option Int)} {f : RangeFilter} :
    new kind setId propertyType deltas = .ok f ↔
      ∃ made : violation kind setId propertyType deltas = none,
        f = ⟨kind, setId, propertyType, deltas, made⟩ := by
  unfold new
  split
  next details hmade =>
    constructor
    · intro h
      cases h
    · rintro ⟨made, -⟩
      rw [hmade] at made
      cases made
  next made =>
    constructor
    · intro h
      cases h
      exact ⟨made, rfl⟩
    · rintro ⟨-, rfl⟩
      rfl

theorem hasPropertyType_eq (kind : RangeFilterKind) :
    RangeFilterKind.hasPropertyType kind = kind.hasPropertyType := by
  cases kind <;> rfl

def deltaOfRust (d : UInt64 × Option UInt64) : Int × Option Int := (ofU64 d.1, d.2.map ofU64)

/-- The filter in the types of this library, if its constructor takes the fields. -/
def ofRust (kind : RangeFilterKind) : Option Moqtail.RangeFilter → Result RangeFilter
  | none => new kind none none []
  | some f => new kind (some f.setId.toNat) (f.propertyType.map ofU64) (f.deltas.map deltaOfRust)

/-- What the constructor has checked of a filter that is no removal. -/
theorem checks_of_ofRust {kind : RangeFilterKind} {filter : Moqtail.RangeFilter} {f : RangeFilter}
    (h : ofRust kind (some filter) = .ok f) :
    kind.hasPropertyType = filter.propertyType.isSome ∧
      (filter.deltas.map deltaOfRust).dropLast.any (·.2.isNone) = false := by
  rw [ofRust, new_eq_ok] at h
  obtain ⟨made, -⟩ := h
  have hbyte := filter.setId.toNat_lt
  unfold violation at made
  dsimp only at made
  rw [if_neg (by omega), hasPropertyType_eq, Option.isSome_map] at made
  split at made
  · cases made
  next hpresence =>
    split at made
    · cases made
    next hopen => exact ⟨not_not.mp hpresence, Bool.eq_false_iff.mpr hopen⟩

theorem putOptional_map (v : Option UInt64) :
    putOptional (v.map ofU64) = .ok ((v.map putVi).getD []) := by
  cases v with
  | none => rfl
  | some v => exact ByteBuffer.putVI_eq v

/-- Ranges of which only the last one is open-ended are written by both. -/
theorem serializeDeltas_ofRust (deltas : List (UInt64 × Option UInt64)) :
    (deltas.map deltaOfRust).dropLast.any (·.2.isNone) = false →
      ∃ out, Moqtail.RangeFilter.serializeDeltas deltas = .ok out ∧
        serializeDeltas (deltas.map deltaOfRust) = .ok out := by
  induction deltas with
  | nil => exact fun _ => ⟨[], rfl, rfl⟩
  | cons d rest ih =>
    intro hopen
    obtain ⟨start, last⟩ := d
    have hhead : serializeDeltas (((start, last) :: rest).map deltaOfRust) =
        serializeDeltas (rest.map deltaOfRust) >>= fun tail =>
          .ok (putVi start ++ (last.map putVi).getD [] ++ tail) := by
      rw [List.map_cons, deltaOfRust, serializeDeltas, ByteBuffer.putVI_eq, except_ok_bind,
        putOptional_map]
      rfl
    rw [hhead]
    cases last with
    | none =>
      cases rest with
      | nil => exact ⟨putVi start, rfl, by simp [serializeDeltas]⟩
      | cons d rest => simp [deltaOfRust] at hopen
    | some last =>
      have hrest : (rest.map deltaOfRust).dropLast.any (·.2.isNone) = false := by
        cases rest with
        | nil => rfl
        | cons d rest => simpa [deltaOfRust] using hopen
      obtain ⟨tail, htail, htail'⟩ := ih hrest
      refine ⟨putVi start ++ putVi last ++ tail, ?_, ?_⟩
      · rw [Moqtail.RangeFilter.serializeDeltas, htail]
        rfl
      · rw [htail']
        rfl

theorem putU8_toNat (b : UInt8) : ByteBuffer.putU8 b.toNat = .ok [b] := by
  have := b.toNat_lt
  rw [ByteBuffer.putU8, if_neg (by omega), Int.toNat_natCast, UInt8.ofNat_toNat]

/-- A filter that both have is written by both, as the same bytes. -/
theorem serializeValue_ofRust {kind : RangeFilterKind} {filter : Moqtail.RangeFilter}
    {f : RangeFilter} (h : ofRust kind (some filter) = .ok f) :
    ∃ out, filter.serialize = .ok out ∧ f.serializeValue = .ok out := by
  obtain ⟨-, hopen⟩ := checks_of_ofRust h
  obtain ⟨deltas, hdeltas, hdeltas'⟩ := serializeDeltas_ofRust filter.deltas hopen
  rw [ofRust, new_eq_ok] at h
  obtain ⟨made, rfl⟩ := h
  refine ⟨_, by rw [Moqtail.RangeFilter.serialize, hdeltas]; rfl, ?_⟩
  rw [serializeValue]
  dsimp only
  rw [putU8_toNat, except_ok_bind, putOptional_map, except_ok_bind, hdeltas']
  rfl

theorem deserializeDeltas_reads (deltas : List (UInt64 × Option UInt64)) :
    ∀ (out : Bytes) (fuel : Nat), Moqtail.RangeFilter.serializeDeltas deltas = .ok out →
      out.length ≤ fuel → deserializeDeltas fuel out = .ok (deltas.map deltaOfRust) := by
  have hempty := Moqtail.RangeFilter.isEmpty_putVi_append
  induction deltas with
  | nil =>
    intro out fuel hout _
    cases hout
    cases fuel <;> rfl
  | cons d rest ih =>
    intro out fuel hout hfuel
    obtain ⟨start, last⟩ := d
    have hstart := minimalViLength_pos start
    cases last with
    | none =>
      cases rest with
      | cons _ _ => cases hout
      | nil =>
        cases hout
        rw [length_putVi] at hfuel
        obtain ⟨fuel, rfl⟩ : ∃ n, fuel = n + 1 := ⟨fuel - 1, by omega⟩
        have hnonempty := hempty start []
        rw [List.append_nil] at hnonempty
        rw [deserializeDeltas, hnonempty, if_neg (by decide), ByteBuffer.getVI_putVi_nil,
          except_ok_bind]
        cases fuel <;> rfl
    | some last =>
      obtain ⟨tail, htail, hret⟩ := except_bind_eq_ok.mp hout
      cases hret
      rw [List.append_assoc, List.length_append, length_putVi] at hfuel
      obtain ⟨fuel, rfl⟩ : ∃ n, fuel = n + 1 := ⟨fuel - 1, by omega⟩
      rw [List.length_append] at hfuel
      have hrest := ih tail fuel htail (by omega)
      rw [deserializeDeltas, List.append_assoc, hempty, if_neg (by decide), ByteBuffer.getVI_putVi,
        except_ok_bind]
      dsimp only
      rw [hempty, if_pos (by decide), ByteBuffer.getVI_putVi, except_ok_bind]
      dsimp only
      rw [hrest]
      rfl

/-- A filter that both have is read back as it is here. -/
theorem deserializeValue_reads {kind : RangeFilterKind} {filter : Moqtail.RangeFilter}
    {f : RangeFilter} {out : Bytes} (h : ofRust kind (some filter) = .ok f)
    (hout : filter.serialize = .ok out) : deserializeValue kind out = .ok f := by
  obtain ⟨hkind, -⟩ := checks_of_ofRust h
  obtain ⟨deltas, hdeltas, hret⟩ := except_bind_eq_ok.mp hout
  cases hret
  have hback := deserializeDeltas_reads filter.deltas deltas deltas.length hdeltas le_rfl
  rw [ofRust] at h
  have hproperty : LocationFilter.readField (RangeFilterKind.hasPropertyType kind)
      ((filter.propertyType.map putVi).getD [] ++ deltas) =
        .ok (filter.propertyType.map ofU64, deltas) := by
    rw [hasPropertyType_eq, hkind]
    cases filter.propertyType with
    | none => rfl
    | some propertyType =>
      simp [LocationFilter.readField, ByteBuffer.getVI_putVi]
  rw [deserializeValue, List.cons_append, if_neg (by simp), ByteBuffer.getU8, except_ok_bind]
  dsimp only
  rw [hproperty, except_ok_bind]
  dsimp only
  rw [hback, except_ok_bind, h]

end RangeFilter

end Moqtail.Ts
