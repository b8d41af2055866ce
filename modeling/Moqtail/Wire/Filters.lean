import Moqtail.Wire.LocationFilter
import Moqtail.Wire.FetchObject
import Moqtail.Wire.Text

/-! The wire forms of Location Filters, Range Filters and Authorization Tokens, from
`model/parameter`. -/
namespace Moqtail

open Lib

/-! Location Filters: the type says which fields follow. -/

inductive LocationFilterType where
  | none
  | relativeStart
  | absoluteStart
  | absoluteStartGroupEnd
  | absoluteRange
  | nextObject
deriving Repr, DecidableEq

namespace LocationFilterType

def toU64 : LocationFilterType → UInt64
  | none => 0x0
  | relativeStart => 0x1
  | absoluteStart => 0x2
  | absoluteStartGroupEnd => 0x3
  | absoluteRange => 0x4
  | nextObject => 0x5

def tryFrom (value : UInt64) : Parse LocationFilterType :=
  if value = 0x0 then .ok none
  else if value = 0x1 then .ok relativeStart
  else if value = 0x2 then .ok absoluteStart
  else if value = 0x3 then .ok absoluteStartGroupEnd
  else if value = 0x4 then .ok absoluteRange
  else if value = 0x5 then .ok nextObject
  else .error (.invalidType "LocationFilterType::try_from(u64)" s!"Invalid type, got {value}")

@[simp] theorem tryFrom_toU64 (t : LocationFilterType) : tryFrom t.toU64 = .ok t := by
  cases t <;> rfl

theorem toU64_of_tryFrom {value : UInt64} {t : LocationFilterType} (h : tryFrom value = .ok t) :
    value = t.toU64 := by
  unfold tryFrom at h
  repeat' split at h
  all_goals first
    | (cases h; assumption)
    | cases h

end LocationFilterType

namespace LocationFilter

def filterType : LocationFilter → LocationFilterType
  | none => .none
  | relativeStart _ => .relativeStart
  | absoluteStart _ => .absoluteStart
  | absoluteStartGroupEnd _ _ => .absoluteStartGroupEnd
  | absoluteRange _ _ => .absoluteRange
  | nextObject => .nextObject

/-- `end_group`: `checked_add`. -/
def endGroupOf (startGroup delta : UInt64) : Parse UInt64 :=
  if startGroup.toNat + delta.toNat < 2 ^ 64 then .ok (startGroup + delta)
  else .error (.protocolViolation "LocationFilter::deserialize"
    s!"StartGroup {startGroup} plus EndGroupDelta {delta} exceeds 2^64 - 1")

/-- `checked_sub`: an End Group before the Start Group has no encoding. -/
def endGroupDelta (startGroup endGroup : UInt64) : Parse UInt64 :=
  if endGroup < startGroup then .error (.protocolViolation "LocationFilter::serialize"
    s!"End Group {endGroup} is before Start Group {startGroup}")
  else .ok (endGroup - startGroup)

def serialize (filter : LocationFilter) : Parse Bytes :=
  match filter with
  | none => .ok (putVi filter.filterType.toU64)
  | nextObject => .ok (putVi filter.filterType.toU64)
  | relativeStart startGroup => .ok (putVi filter.filterType.toU64 ++ putVi startGroup)
  | absoluteStart start => .ok (putVi filter.filterType.toU64 ++ start.serialize)
  | absoluteStartGroupEnd start endGroup => do
    let delta ← endGroupDelta start.group endGroup
    return putVi filter.filterType.toU64 ++ start.serialize ++ putVi delta
  | absoluteRange start last => do
    let delta ← endGroupDelta start.group last.group
    return putVi filter.filterType.toU64 ++ start.serialize ++ putVi delta ++ putVi last.object

def deserialize (bytes : Bytes) : Parse (LocationFilter × Bytes) := do
  let (raw, bytes) ← getVi bytes
  match LocationFilterType.tryFrom raw with
  | .error _ => .error (.protocolViolation "LocationFilter::deserialize"
      ("unknown Location Filter Type " ++ hexLower raw))
  | .ok .none => return (none, bytes)
  | .ok .relativeStart =>
    let (startGroup, bytes) ← getVi bytes
    return (relativeStart startGroup, bytes)
  | .ok .absoluteStart =>
    let (start, bytes) ← Location.deserialize bytes
    return (absoluteStart start, bytes)
  | .ok .absoluteStartGroupEnd =>
    let (start, bytes) ← Location.deserialize bytes
    let (delta, bytes) ← getVi bytes
    let endGroup ← endGroupOf start.group delta
    return (absoluteStartGroupEnd start endGroup, bytes)
  | .ok .absoluteRange =>
    let (start, bytes) ← Location.deserialize bytes
    let (delta, bytes) ← getVi bytes
    let endGroup ← endGroupOf start.group delta
    let (object, bytes) ← getVi bytes
    return (absoluteRange start ⟨endGroup, object⟩, bytes)
  | .ok .nextObject => return (nextObject, bytes)

theorem endGroupOf_endGroupDelta {startGroup endGroup delta : UInt64}
    (h : endGroupDelta startGroup endGroup = .ok delta) : endGroupOf startGroup delta = .ok endGroup := by
  unfold endGroupDelta at h
  split at h
  · cases h
  next hlt =>
    cases h
    have hle := UInt64.le_iff_toNat_le.mp (UInt64.not_lt.mp hlt)
    have hbound := endGroup.toNat_lt
    rw [endGroupOf, if_pos, UInt64.add_comm, UInt64.sub_add_cancel]
    rw [UInt64.toNat_sub_of_le _ _ (UInt64.not_lt.mp hlt)]
    omega

theorem endGroupDelta_endGroupOf {startGroup endGroup delta : UInt64}
    (h : endGroupOf startGroup delta = .ok endGroup) : endGroupDelta startGroup endGroup = .ok delta := by
  unfold endGroupOf at h
  split at h
  next hsum =>
    cases h
    have hle : ¬ startGroup + delta < startGroup := by
      rw [UInt64.lt_iff_toNat_lt, UInt64.toNat_add, Nat.mod_eq_of_lt hsum]
      omega
    rw [endGroupDelta, if_neg hle, UInt64.add_comm, UInt64.add_sub_cancel]
  · cases h

theorem deserialize_reads {filter : LocationFilter} {out : Bytes} (h : filter.serialize = .ok out) :
    Reads deserialize out filter := by
  intro tail
  cases filter with
  | none | nextObject =>
    cases h
    simp only [deserialize, getVi_putVi, except_ok_bind, LocationFilterType.tryFrom_toU64, filterType]
    rfl
  | relativeStart startGroup =>
    cases h
    simp only [deserialize, getVi_putVi, except_ok_bind, LocationFilterType.tryFrom_toU64, filterType,
      List.append_assoc]
    rfl
  | absoluteStart start =>
    cases h
    simp only [deserialize, getVi_putVi, except_ok_bind, LocationFilterType.tryFrom_toU64, filterType,
      List.append_assoc, start.deserialize_reads tail]
    rfl
  | absoluteStartGroupEnd start endGroup =>
    obtain ⟨delta, hdelta, hret⟩ := except_bind_eq_ok.mp h
    cases hret
    simp only [deserialize, getVi_putVi, except_ok_bind, LocationFilterType.tryFrom_toU64, filterType,
      List.append_assoc, start.deserialize_reads _, endGroupOf_endGroupDelta hdelta]
    rfl
  | absoluteRange start last =>
    obtain ⟨delta, hdelta, hret⟩ := except_bind_eq_ok.mp h
    cases hret
    simp only [deserialize, getVi_putVi, except_ok_bind, LocationFilterType.tryFrom_toU64, filterType,
      List.append_assoc, start.deserialize_reads _, endGroupOf_endGroupDelta hdelta]
    rfl

theorem deserialize_rewrites {bytes rest : Bytes} {filter : LocationFilter}
    (h : deserialize bytes = .ok (filter, rest)) :
    ∃ out, filter.serialize = .ok out ∧ out.length + rest.length ≤ bytes.length := by
  obtain ⟨⟨raw, left⟩, hraw, h⟩ := except_bind_eq_ok.mp h
  have htype := (getVi_consumes hraw).2
  simp only at h
  split at h
  · cases h
  next hfrom =>
    cases h
    refine ⟨_, rfl, ?_⟩
    rw [LocationFilterType.toU64_of_tryFrom hfrom] at htype
    rw [length_putVi]
    exact htype
  next hfrom =>
    obtain ⟨⟨startGroup, left'⟩, hstart, hret⟩ := except_bind_eq_ok.mp h
    cases hret
    have hconsumed := (getVi_consumes hstart).2
    rw [LocationFilterType.toU64_of_tryFrom hfrom] at htype
    refine ⟨_, rfl, ?_⟩
    simp only [filterType, List.length_append, length_putVi]
    omega
  next hfrom =>
    obtain ⟨⟨start, left'⟩, hstart, hret⟩ := except_bind_eq_ok.mp h
    cases hret
    have hconsumed := Location.deserialize_rewrites hstart
    rw [LocationFilterType.toU64_of_tryFrom hfrom] at htype
    refine ⟨_, rfl, ?_⟩
    simp only [filterType, List.length_append, length_putVi]
    omega
  next hfrom =>
    obtain ⟨⟨start, left'⟩, hstart, h⟩ := except_bind_eq_ok.mp h
    obtain ⟨⟨delta, left''⟩, hdelta, h⟩ := except_bind_eq_ok.mp h
    obtain ⟨endGroup, hend, hret⟩ := except_bind_eq_ok.mp h
    cases hret
    have hfirst := Location.deserialize_rewrites hstart
    have hsecond : minimalViLength delta + left''.length ≤ left'.length := (getVi_consumes hdelta).2
    rw [LocationFilterType.toU64_of_tryFrom hfrom] at htype
    refine ⟨putVi LocationFilterType.absoluteStartGroupEnd.toU64 ++ start.serialize ++ putVi delta,
      by rw [serialize, endGroupDelta_endGroupOf hend]; rfl, ?_⟩
    simp only [List.length_append, length_putVi]
    omega
  next hfrom =>
    obtain ⟨⟨start, left'⟩, hstart, h⟩ := except_bind_eq_ok.mp h
    obtain ⟨⟨delta, left''⟩, hdelta, h⟩ := except_bind_eq_ok.mp h
    obtain ⟨endGroup, hend, h⟩ := except_bind_eq_ok.mp h
    obtain ⟨⟨object, left'''⟩, hobject, hret⟩ := except_bind_eq_ok.mp h
    cases hret
    have hfirst := Location.deserialize_rewrites hstart
    have hsecond : minimalViLength delta + left''.length ≤ left'.length := (getVi_consumes hdelta).2
    have hthird : minimalViLength object + left'''.length ≤ left''.length :=
      (getVi_consumes hobject).2
    rw [LocationFilterType.toU64_of_tryFrom hfrom] at htype
    refine ⟨putVi LocationFilterType.absoluteRange.toU64 ++ start.serialize ++ putVi delta ++
      putVi object, by rw [serialize, endGroupDelta_endGroupOf hend]; rfl, ?_⟩
    simp only [List.length_append, length_putVi]
    omega
  next hfrom =>
    cases h
    refine ⟨_, rfl, ?_⟩
    rw [LocationFilterType.toU64_of_tryFrom hfrom] at htype
    rw [length_putVi]
    exact htype

end LocationFilter

/-! The types of parameters, from `parameter/constant.rs`, and the modes of a switch, from
`control/constant.rs`. -/

inductive SwitchMode where
  | soft
  | hard
deriving Repr, DecidableEq

namespace SwitchMode

def toU64 : SwitchMode → UInt64
  | hard => 0x0
  | soft => 0x1

def tryFrom (value : UInt64) : Parse SwitchMode :=
  if value = 0x0 then .ok hard
  else if value = 0x1 then .ok soft
  else .error (.invalidType "SwitchMode::try_from(u64)" s!"Invalid mode, got {value}")

@[simp] theorem tryFrom_toU64 (mode : SwitchMode) : tryFrom mode.toU64 = .ok mode := by
  cases mode <;> rfl

theorem toU64_of_tryFrom {value : UInt64} {mode : SwitchMode} (h : tryFrom value = .ok mode) :
    value = mode.toU64 := by
  unfold tryFrom at h
  repeat' split at h
  all_goals first
    | (cases h; assumption)
    | cases h

end SwitchMode

inductive MessageParameterType where
  | objectDeliveryTimeout
  | authorizationToken
  | rendezvousTimeout
  | subgroupDeliveryTimeout
  | expires
  | largestObject
  | fillTimeout
  | forward
  | subscriberPriority
  | locationFilter
  | groupOrder
  | fillParameters
  | switchFrom
  | subgroupFilter
  | objectIdFilter
  | priorityFilter
  | objectPropertyFilter
  | trackPropertyFilter
  | newGroupRequest
  | trackNamespacePrefix
  | includeProperties
  | switchingSetAssignment
deriving Repr, DecidableEq

namespace MessageParameterType

def toU64 : MessageParameterType → UInt64
  | objectDeliveryTimeout => 0x02
  | authorizationToken => 0x03
  | rendezvousTimeout => 0x04
  | subgroupDeliveryTimeout => 0x06
  | expires => 0x08
  | largestObject => 0x09
  | fillTimeout => 0x0A
  | forward => 0x10
  | subscriberPriority => 0x20
  | locationFilter => 0x21
  | groupOrder => 0x22
  | fillParameters => 0x23
  | switchFrom => 0x24
  | subgroupFilter => 0x25
  | objectIdFilter => 0x26
  | priorityFilter => 0x27
  | objectPropertyFilter => 0x28
  | trackPropertyFilter => 0x29
  | newGroupRequest => 0x32
  | trackNamespacePrefix => 0x34
  | includeProperties => 0x35
  | switchingSetAssignment => 0x41

def all : List MessageParameterType :=
  [objectDeliveryTimeout, authorizationToken, rendezvousTimeout, subgroupDeliveryTimeout, expires,
    largestObject, fillTimeout, forward, subscriberPriority, locationFilter, groupOrder,
    fillParameters, switchFrom, subgroupFilter, objectIdFilter, priorityFilter,
    objectPropertyFilter, trackPropertyFilter, newGroupRequest, trackNamespacePrefix,
    includeProperties, switchingSetAssignment]

/-- The table above read the other way. -/
def tryFrom (value : UInt64) : Parse MessageParameterType :=
  match all.find? fun t => t.toU64 = value with
  | some t => .ok t
  | none => .error (.invalidType "MessageParameterType::try_from(u64)"
      s!"Unknown parameter type, got {value}")

@[simp] theorem tryFrom_toU64 (t : MessageParameterType) : tryFrom t.toU64 = .ok t := by
  cases t <;> rfl

theorem toU64_of_tryFrom {value : UInt64} {t : MessageParameterType} (h : tryFrom value = .ok t) :
    value = t.toU64 := by
  unfold tryFrom at h
  split at h
  next _ hfind =>
    cases h
    have hvalue := List.find?_some hfind
    exact (of_decide_eq_true hvalue).symm
  · cases h

end MessageParameterType

/-! Range Filters. -/

inductive RangeFilterKind where
  | subgroup
  | objectId
  | priority
  | objectProperty
  | trackProperty
deriving Repr, DecidableEq

namespace RangeFilterKind

def parameterType : RangeFilterKind → MessageParameterType
  | subgroup => .subgroupFilter
  | objectId => .objectIdFilter
  | priority => .priorityFilter
  | objectProperty => .objectPropertyFilter
  | trackProperty => .trackPropertyFilter

def hasPropertyType : RangeFilterKind → Bool
  | objectProperty => true
  | trackProperty => true
  | _ => false

/-- `{kind:?}`. -/
def debug : RangeFilterKind → String
  | subgroup => "Subgroup"
  | objectId => "ObjectId"
  | priority => "Priority"
  | objectProperty => "ObjectProperty"
  | trackProperty => "TrackProperty"

end RangeFilterKind

structure RangeFilter where
  setId : UInt8
  propertyType : Option UInt64
  deltas : List (UInt64 × Option UInt64)
deriving Repr, DecidableEq

namespace RangeFilter

/-- An End can only be left off the last Range. -/
def serializeDeltas : List (UInt64 × Option UInt64) → Parse Bytes
  | [] => .ok []
  | [(start, none)] => .ok (putVi start)
  | (_, none) :: _ :: _ => .error (.protocolViolation "RangeFilter::serialize"
      "only the last range can be open-ended")
  | (start, some last) :: rest => do
    let tail ← serializeDeltas rest
    return putVi start ++ putVi last ++ tail

def serialize (f : RangeFilter) : Parse Bytes := do
  let deltas ← serializeDeltas f.deltas
  return f.setId :: (f.propertyType.map putVi).getD [] ++ deltas

/-- The loop over what remains: each turn takes a byte at least. -/
def deserializeDeltas : Nat → Bytes → Parse (List (UInt64 × Option UInt64))
  | 0, _ => .ok []
  | fuel + 1, bytes =>
    if bytes.isEmpty then .ok []
    else do
      let (start, bytes) ← getVi bytes
      if bytes.isEmpty then return [(start, none)]
      let (last, bytes) ← getVi bytes
      let rest ← deserializeDeltas fuel bytes
      return (start, some last) :: rest

def deserializePropertyType (kind : RangeFilterKind) (bytes : Bytes) :
    Parse (Option UInt64 × Bytes) :=
  if kind.hasPropertyType then do
    let (propertyType, bytes) ← getVi bytes
    return (some propertyType, bytes)
  else .ok (none, bytes)

def deserialize (kind : RangeFilterKind) (bytes : Bytes) : Parse RangeFilter :=
  match bytes with
  | [] => .error (.notEnoughBytes "RangeFilter::deserialize(SetID)" 1 0)
  | setId :: bytes => do
    let (propertyType, bytes) ← deserializePropertyType kind bytes
    let deltas ← deserializeDeltas bytes.length bytes
    return ⟨setId, propertyType, deltas⟩

theorem putVi_ne_nil (v : UInt64) : putVi v ≠ [] := by
  intro h
  have hpos := minimalViLength_pos v
  rw [← length_putVi, h] at hpos
  exact absurd hpos (by decide)

theorem isEmpty_putVi_append (v : UInt64) (rest : Bytes) : (putVi v ++ rest).isEmpty = false := by
  simp [putVi_ne_nil v]

theorem deserializeDeltas_serializeDeltas (deltas : List (UInt64 × Option UInt64)) :
    ∀ (out : Bytes) (fuel : Nat), serializeDeltas deltas = .ok out → out.length ≤ fuel →
      deserializeDeltas fuel out = .ok deltas := by
  induction deltas with
  | nil =>
    intro out fuel hout _
    cases hout
    cases fuel <;> rfl
  | cons d rest ih =>
    intro out fuel hout hfuel
    obtain ⟨start, last⟩ := d
    have hstart := minimalViLength_pos start
    cases last with
    | none =>
      cases rest with
      | cons _ _ => cases hout
      | nil =>
        cases hout
        rw [length_putVi] at hfuel
        obtain ⟨fuel, rfl⟩ : ∃ n, fuel = n + 1 := ⟨fuel - 1, by omega⟩
        have hread := getVi_putVi start []
        have hempty := isEmpty_putVi_append start []
        rw [List.append_nil] at hread hempty
        simp only [deserializeDeltas, hempty, Bool.false_eq_true, if_false, hread, except_ok_bind]
        rfl
    | some last =>
      obtain ⟨tail, htail, hret⟩ := except_bind_eq_ok.mp hout
      cases hret
      rw [List.append_assoc, List.length_append, length_putVi] at hfuel
      obtain ⟨fuel, rfl⟩ : ∃ n, fuel = n + 1 := ⟨fuel - 1, by omega⟩
      rw [List.length_append] at hfuel
      simp only [List.append_assoc, deserializeDeltas, isEmpty_putVi_append, Bool.false_eq_true,
        if_false, getVi_putVi, except_ok_bind, ih tail fuel htail (by omega)]
      rfl

theorem deserializeDeltas_rewrites (fuel : Nat) :
    ∀ (bytes : Bytes) (deltas : List (UInt64 × Option UInt64)),
      deserializeDeltas fuel bytes = .ok deltas →
        ∃ out, serializeDeltas deltas = .ok out ∧ out.length ≤ bytes.length := by
  induction fuel with
  | zero =>
    intro bytes deltas h
    cases h
    exact ⟨[], rfl, Nat.zero_le _⟩
  | succ fuel ih =>
    intro bytes deltas h
    unfold deserializeDeltas at h
    split at h
    · cases h
      exact ⟨[], rfl, Nat.zero_le _⟩
    · obtain ⟨⟨start, left⟩, hstart, h⟩ := except_bind_eq_ok.mp h
      have hfirst : minimalViLength start + left.length ≤ bytes.length := (getVi_consumes hstart).2
      simp only at h
      split at h
      · cases h
        exact ⟨putVi start, rfl, by rw [length_putVi]; omega⟩
      · obtain ⟨⟨last, left'⟩, hlast, h⟩ := except_bind_eq_ok.mp h
        obtain ⟨rest, hrest, hret⟩ := except_bind_eq_ok.mp h
        cases hret
        have hsecond : minimalViLength last + left'.length ≤ left.length := (getVi_consumes hlast).2
        obtain ⟨tail, htail, hlength⟩ := ih left' _ hrest
        refine ⟨putVi start ++ putVi last ++ tail, by rw [serializeDeltas, htail]; rfl, ?_⟩
        simp only [List.length_append, length_putVi]
        omega

theorem deserialize_serialize {kind : RangeFilterKind} {f : RangeFilter} {out : Bytes}
    (hkind : kind.hasPropertyType = f.propertyType.isSome) (h : f.serialize = .ok out) :
    deserialize kind out = .ok f := by
  obtain ⟨deltas, hdeltas, hret⟩ := except_bind_eq_ok.mp h
  cases hret
  have hback := deserializeDeltas_serializeDeltas f.deltas deltas deltas.length hdeltas le_rfl
  obtain ⟨setId, propertyType, ranges⟩ := f
  cases propertyType with
  | none =>
    have hno : kind.hasPropertyType = false := hkind
    simp only [deserialize, deserializePropertyType, Option.map_none, Option.getD_none,
      List.cons_append, List.nil_append, hno, Bool.false_eq_true, if_false, except_ok_bind, hback]
    rfl
  | some propertyType =>
    have hyes : kind.hasPropertyType = true := hkind
    simp only [deserialize, deserializePropertyType, Option.map_some, Option.getD_some,
      List.cons_append, hyes, if_true, getVi_putVi, except_ok_bind, except_pure, hback]

theorem deserialize_rewrites {kind : RangeFilterKind} {bytes : Bytes} {f : RangeFilter}
    (h : deserialize kind bytes = .ok f) :
    kind.hasPropertyType = f.propertyType.isSome ∧
      ∃ out, f.serialize = .ok out ∧ out.length ≤ bytes.length := by
  unfold deserialize at h
  split at h
  · cases h
  next setId left =>
    obtain ⟨⟨propertyType, left'⟩, htype, h⟩ := except_bind_eq_ok.mp h
    obtain ⟨deltas, hdeltas, hret⟩ := except_bind_eq_ok.mp h
    cases hret
    obtain ⟨out, hout, hlength⟩ := deserializeDeltas_rewrites _ _ _ hdeltas
    unfold deserializePropertyType at htype
    split at htype
    next hyes =>
      obtain ⟨⟨value, left''⟩, hvalue, hret⟩ := except_bind_eq_ok.mp htype
      cases hret
      have hconsumed : minimalViLength value + left'.length ≤ left.length :=
        (getVi_consumes hvalue).2
      refine ⟨hyes, setId :: putVi value ++ out, by rw [serialize, hout]; rfl, ?_⟩
      simp only [List.length_append, List.length_cons, length_putVi]
      omega
    next hno =>
      cases htype
      refine ⟨by simpa using hno, setId :: out, by rw [serialize, hout]; rfl, ?_⟩
      simp only [List.length_cons]
      omega

end RangeFilter

/-! Authorization Tokens. -/

inductive TokenAliasType where
  | delete
  | register
  | useAlias
  | useValue
deriving Repr, DecidableEq

namespace TokenAliasType

def toU64 : TokenAliasType → UInt64
  | delete => 0x0
  | register => 0x1
  | useAlias => 0x2
  | useValue => 0x3

def tryFrom (value : UInt64) : Parse TokenAliasType :=
  if value = 0x0 then .ok delete
  else if value = 0x1 then .ok register
  else if value = 0x2 then .ok useAlias
  else if value = 0x3 then .ok useValue
  else .error (.invalidType "TokenAliasType::try_from(u64)" s!"Invalid type, got {value}")

end TokenAliasType

structure AuthorizationToken where
  aliasType : UInt64
  tokenAlias : Option UInt64
  tokenType : Option UInt64
  tokenValue : Option Bytes
deriving Repr, DecidableEq

namespace AuthorizationToken

def newDelete (tokenAlias : UInt64) : AuthorizationToken :=
  ⟨TokenAliasType.delete.toU64, some tokenAlias, none, none⟩

def newRegister (tokenAlias tokenType : UInt64) (tokenValue : Bytes) : AuthorizationToken :=
  ⟨TokenAliasType.register.toU64, some tokenAlias, some tokenType, some tokenValue⟩

def newUseAlias (tokenAlias : UInt64) : AuthorizationToken :=
  ⟨TokenAliasType.useAlias.toU64, some tokenAlias, none, none⟩

def newUseValue (tokenType : UInt64) (tokenValue : Bytes) : AuthorizationToken :=
  ⟨TokenAliasType.useValue.toU64, none, some tokenType, some tokenValue⟩

/-- What follows the alias type: nothing at all where a field of it is missing. -/
def serializeFields (t : AuthorizationToken) : TokenAliasType → Bytes
  | .delete => (t.tokenAlias.map putVi).getD []
  | .register =>
    match t.tokenAlias, t.tokenType, t.tokenValue with
    | some tokenAlias, some tokenType, some tokenValue =>
      putVi tokenAlias ++ putVi tokenType ++ tokenValue
    | _, _, _ => []
  | .useAlias => (t.tokenAlias.map putVi).getD []
  | .useValue =>
    match t.tokenType, t.tokenValue with
    | some tokenType, some tokenValue => putVi tokenType ++ tokenValue
    | _, _ => []

def serialize (t : AuthorizationToken) : Parse Bytes :=
  match TokenAliasType.tryFrom t.aliasType with
  | .ok aliasType => .ok (putVi t.aliasType ++ t.serializeFields aliasType)
  | .error _ => .error (.invalidType "AuthorizationToken::serialize: unknown alias_type"
      s!"invalid alias_type {t.aliasType}")

/-- The Token Value is all that is left; after an alias alone, what is left is ignored. -/
def deserialize (bytes : Bytes) : Parse AuthorizationToken := do
  let (aliasType, bytes) ← getVi bytes
  match ← TokenAliasType.tryFrom aliasType with
  | .delete =>
    let (tokenAlias, _) ← getVi bytes
    return newDelete tokenAlias
  | .register =>
    let (tokenAlias, bytes) ← getVi bytes
    let (tokenType, bytes) ← getVi bytes
    return newRegister tokenAlias tokenType bytes
  | .useAlias =>
    let (tokenAlias, _) ← getVi bytes
    return newUseAlias tokenAlias
  | .useValue =>
    let (tokenType, bytes) ← getVi bytes
    return newUseValue tokenType bytes

/-- The fields are those of the alias type. The constructors see to it, the public fields do
not. -/
def WellFormed (t : AuthorizationToken) : Prop :=
  (∃ tokenAlias, t = newDelete tokenAlias) ∨
  (∃ tokenAlias tokenType tokenValue, t = newRegister tokenAlias tokenType tokenValue) ∨
  (∃ tokenAlias, t = newUseAlias tokenAlias) ∨
  ∃ tokenType tokenValue, t = newUseValue tokenType tokenValue

theorem deserialize_serialize {t : AuthorizationToken} {out : Bytes} (hwf : t.WellFormed)
    (h : t.serialize = .ok out) : deserialize out = .ok t := by
  have hread (v : UInt64) : getVi (putVi v) = .ok (v, []) := by
    simpa only [List.append_nil] using getVi_putVi v []
  rcases hwf with ⟨tokenAlias, rfl⟩ | ⟨tokenAlias, tokenType, tokenValue, rfl⟩ | ⟨tokenAlias, rfl⟩ |
    ⟨tokenType, tokenValue, rfl⟩
  · cases h
    simp only [deserialize, getVi_putVi, except_ok_bind, newDelete, serializeFields, Option.map_some,
      Option.getD_some, hread]
    rfl
  · cases h
    simp only [deserialize, getVi_putVi, except_ok_bind, newRegister, serializeFields,
      List.append_assoc]
    rfl
  · cases h
    simp only [deserialize, getVi_putVi, except_ok_bind, newUseAlias, serializeFields,
      Option.map_some, Option.getD_some, hread]
    rfl
  · cases h
    simp only [deserialize, getVi_putVi, except_ok_bind, newUseValue, serializeFields]
    rfl

theorem deserialize_rewrites {bytes : Bytes} {t : AuthorizationToken}
    (h : deserialize bytes = .ok t) :
    t.WellFormed ∧ ∃ out, t.serialize = .ok out ∧ out.length ≤ bytes.length := by
  obtain ⟨⟨raw, left⟩, hraw, h⟩ := except_bind_eq_ok.mp h
  obtain ⟨aliasType, halias, hfields⟩ := except_bind_eq_ok.mp h
  have hfirst : minimalViLength raw + left.length ≤ bytes.length := (getVi_consumes hraw).2
  have htype : raw = aliasType.toU64 := by
    unfold TokenAliasType.tryFrom at halias
    repeat' split at halias
    all_goals first
      | (cases halias; assumption)
      | cases halias
  subst htype
  cases aliasType with
  | delete =>
    obtain ⟨⟨tokenAlias, left'⟩, hsecond, hret⟩ := except_bind_eq_ok.mp hfields
    cases hret
    have hsecond : minimalViLength tokenAlias + left'.length ≤ left.length :=
      (getVi_consumes hsecond).2
    refine ⟨.inl ⟨_, rfl⟩, _, rfl, ?_⟩
    simp only [newDelete, serializeFields, Option.map_some, Option.getD_some, List.length_append,
      length_putVi]
    omega
  | register =>
    obtain ⟨⟨tokenAlias, left'⟩, hsecond, hfields⟩ := except_bind_eq_ok.mp hfields
    obtain ⟨⟨tokenType, left''⟩, hthird, hret⟩ := except_bind_eq_ok.mp hfields
    cases hret
    have hsecond : minimalViLength tokenAlias + left'.length ≤ left.length :=
      (getVi_consumes hsecond).2
    have hthird : minimalViLength tokenType + left''.length ≤ left'.length :=
      (getVi_consumes hthird).2
    refine ⟨.inr (.inl ⟨_, _, _, rfl⟩), _, rfl, ?_⟩
    simp only [newRegister, serializeFields, List.length_append, length_putVi]
    omega
  | useAlias =>
    obtain ⟨⟨tokenAlias, left'⟩, hsecond, hret⟩ := except_bind_eq_ok.mp hfields
    cases hret
    have hsecond : minimalViLength tokenAlias + left'.length ≤ left.length :=
      (getVi_consumes hsecond).2
    refine ⟨.inr (.inr (.inl ⟨_, rfl⟩)), _, rfl, ?_⟩
    simp only [newUseAlias, serializeFields, Option.map_some, Option.getD_some, List.length_append,
      length_putVi]
    omega
  | useValue =>
    obtain ⟨⟨tokenType, left'⟩, hsecond, hret⟩ := except_bind_eq_ok.mp hfields
    cases hret
    have hsecond : minimalViLength tokenType + left'.length ≤ left.length :=
      (getVi_consumes hsecond).2
    refine ⟨.inr (.inr (.inr ⟨_, _, rfl⟩)), _, rfl, ?_⟩
    simp only [newUseValue, serializeFields, List.length_append, length_putVi]
    omega

end AuthorizationToken

end Moqtail
