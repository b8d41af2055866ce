import Moqtail.Wire.FetchObject
import Moqtail.Wire.MessageParameter

/-! Track-level Properties, from `model/property/track_property.rs`.

What is written of them is read back in ascending order of Type, and what is read can be written
again in no more bytes. -/
namespace Moqtail

open Lib

/-- `group_order as u64`. -/
def GroupOrder.toU64 : GroupOrder → UInt64
  | original => 0
  | ascending => 1
  | descending => 2

inductive TrackProperty where
  | objectDeliveryTimeout (timeoutMs : UInt64)
  | subgroupDeliveryTimeout (timeoutMs : UInt64)
  | maxCacheDuration (durationMs : UInt64)
  | immutableProperties (properties : List KeyValuePair)
  | defaultPublisherPriority (priority : UInt8)
  | defaultPublisherGroupOrder (order : GroupOrder)
  | dynamicGroups (enabled : Bool)
  | unknown (kvp : KeyValuePair)
  | unknownMandatory (kvp : KeyValuePair)
deriving Repr, DecidableEq

/-- `MANDATORY_TRACK_PROPERTY_RANGE.contains`. -/
def isMandatoryTrack (typeValue : UInt64) : Bool := 0x4000 ≤ typeValue && typeValue ≤ 0x7FFF

namespace TrackProperty

def typeValue : TrackProperty → UInt64
  | objectDeliveryTimeout _ => TrackPropertyType.objectDeliveryTimeout.toU64
  | subgroupDeliveryTimeout _ => TrackPropertyType.subgroupDeliveryTimeout.toU64
  | maxCacheDuration _ => TrackPropertyType.maxCacheDuration.toU64
  | immutableProperties _ => TrackPropertyType.immutableProperties.toU64
  | defaultPublisherPriority _ => TrackPropertyType.defaultPublisherPriority.toU64
  | defaultPublisherGroupOrder _ => TrackPropertyType.defaultPublisherGroupOrder.toU64
  | dynamicGroups _ => TrackPropertyType.dynamicGroups.toU64
  | unknown kvp => kvp.getType
  | unknownMandatory kvp => kvp.getType

def deserialize (kvp : KeyValuePair) : Parse TrackProperty :=
  match TrackPropertyType.tryFrom kvp.getType with
  | .error _ => .ok (if isMandatoryTrack kvp.getType then unknownMandatory kvp else unknown kvp)
  | .ok .objectDeliveryTimeout => do
    let value ← kvpVarintValue kvp "TrackProperty::deserialize(ObjectDeliveryTimeout)"
    return objectDeliveryTimeout value
  | .ok .subgroupDeliveryTimeout => do
    let value ← kvpVarintValue kvp "TrackProperty::deserialize(SubgroupDeliveryTimeout)"
    return subgroupDeliveryTimeout value
  | .ok .maxCacheDuration => do
    let value ← kvpVarintValue kvp "TrackProperty::deserialize(MaxCacheDuration)"
    return maxCacheDuration value
  | .ok .immutableProperties => do
    let bytes ← kvpBytesValue kvp "TrackProperty::deserialize(ImmutableProperties)"
    let properties ← deserializeKvpListUntilEmpty bytes
    if properties.any fun inner => inner.getType = TrackPropertyType.immutableProperties.toU64 then
      throw (.protocolViolation "TrackProperty::deserialize(ImmutableProperties)"
        "ImmutableProperties MUST NOT contain another ImmutableProperties key")
    return immutableProperties properties
  | .ok .defaultPublisherPriority => do
    let value ← kvpVarintValue kvp "TrackProperty::deserialize(DefaultPublisherPriority)"
    if value > 255 then
      throw (.protocolViolation "TrackProperty::deserialize(DefaultPublisherPriority)"
        s!"DEFAULT_PUBLISHER_PRIORITY must be 0-255, got {value}")
    return defaultPublisherPriority value.toUInt8
  | .ok .defaultPublisherGroupOrder => do
    let value ← kvpVarintValue kvp "TrackProperty::deserialize(DefaultPublisherGroupOrder)"
    if value = 1 then return defaultPublisherGroupOrder .ascending
    else if value = 2 then return defaultPublisherGroupOrder .descending
    else throw (.protocolViolation "TrackProperty::deserialize(DefaultPublisherGroupOrder)"
      ("DEFAULT_PUBLISHER_GROUP_ORDER must be 1 (Ascending) or 2 (Descending), got " ++
        toString value))
  | .ok .dynamicGroups => do
    let value ← kvpVarintValue kvp "TrackProperty::deserialize(DynamicGroups)"
    if value = 0 then return dynamicGroups false
    else if value = 1 then return dynamicGroups true
    else throw (.protocolViolation "TrackProperty::deserialize(DynamicGroups)"
      s!"DYNAMIC_GROUPS must be 0 or 1, got {value}")
  -- object-scope properties, unknown at track level
  | .ok _ => .ok (unknown kvp)

def tryIntoKeyValuePair : TrackProperty → Parse KeyValuePair
  | objectDeliveryTimeout timeoutMs =>
    KeyValuePair.tryNewVarint TrackPropertyType.objectDeliveryTimeout.toU64 timeoutMs
  | subgroupDeliveryTimeout timeoutMs =>
    KeyValuePair.tryNewVarint TrackPropertyType.subgroupDeliveryTimeout.toU64 timeoutMs
  | maxCacheDuration durationMs =>
    KeyValuePair.tryNewVarint TrackPropertyType.maxCacheDuration.toU64 durationMs
  | immutableProperties properties => do
    let value ← serializeKvpList properties
    KeyValuePair.tryNewBytes TrackPropertyType.immutableProperties.toU64 value
  | defaultPublisherPriority priority =>
    KeyValuePair.tryNewVarint TrackPropertyType.defaultPublisherPriority.toU64 priority.toUInt64
  | defaultPublisherGroupOrder order =>
    KeyValuePair.tryNewVarint TrackPropertyType.defaultPublisherGroupOrder.toU64 order.toU64
  | dynamicGroups enabled =>
    KeyValuePair.tryNewVarint TrackPropertyType.dynamicGroups.toU64 (if enabled then 1 else 0)
  | unknown kvp => .ok kvp
  | unknownMandatory kvp => .ok kvp

end TrackProperty

def serializeTrackProperties (exts : List TrackProperty) : Parse Bytes := do
  let kvps ← exts.mapM TrackProperty.tryIntoKeyValuePair
  serializeKvpList kvps

def deserializeTrackProperties (bytes : Bytes) : Parse (List TrackProperty) := do
  let kvps ← deserializeKvpListUntilEmpty bytes
  kvps.mapM TrackProperty.deserialize

/-! A sorted list of pairs. -/

theorem kvpsFrom_of_pairwise {items : List KeyValuePair} :
    ∀ {prevType : UInt64}, (∀ kvp ∈ items, kvp.WellFormed ∧ prevType ≤ kvp.getType) →
      items.Pairwise (fun a b => a.getType ≤ b.getType) → KvpsFrom prevType items := by
  induction items with
  | nil => exact fun _ _ => trivial
  | cons kvp rest ih =>
    intro prevType hall hsorted
    rw [List.forall_mem_cons] at hall
    rw [List.pairwise_cons] at hsorted
    exact ⟨hall.1.1, hall.1.2, ih (fun other h => ⟨(hall.2 other h).1, hsorted.1 other h⟩) hsorted.2⟩

/-- Writable pairs are in ascending order once they are sorted. -/
theorem kvpsFrom_sortByType {items : List KeyValuePair} (h : ∀ kvp ∈ items, kvp.WellFormed) :
    KvpsFrom 0 (sortByType items) := by
  apply kvpsFrom_of_pairwise
  · intro kvp hmem
    have hmem' := (List.perm_insertionSort _ items).mem_iff.mp hmem
    exact ⟨h kvp hmem', UInt64.le_iff_toNat_le.mpr (Nat.zero_le _)⟩
  · have hsorted := List.pairwise_insertionSort
      (fun a b : KeyValuePair => a.getType ≤ b.getType) items
    exact hsorted

/-- What is written of pairs is read back in the order of their Types. -/
theorem deserializeKvpListUntilEmpty_of_serialize {items : List KeyValuePair} {out : Bytes}
    (hwf : ∀ kvp ∈ items, kvp.WellFormed) (h : serializeKvpList items = .ok out) :
    deserializeKvpListUntilEmpty out = .ok (sortByType items) :=
  deserializeKvpsFrom_serializeKvpsFrom _ 0 out out.length (kvpsFrom_sortByType hwf) h le_rfl

theorem sortByType_of_kvpsFrom {items : List KeyValuePair} (h : KvpsFrom 0 items) :
    sortByType items = items :=
  List.Pairwise.insertionSort_eq h.pairwise.1

/-! One property. -/

namespace TrackProperty

/-- The types that a property of a track is read as, the object-scope ones left out. -/
def isTrackScope : TrackPropertyType → Bool
  | .priorGroupIdGap => false
  | .priorObjectIdGap => false
  | _ => true

/-- What the reader asks of a property: no Type known at track level is kept as unknown, and a
Group Order that is sent is ascending or descending. -/
def WellFormed : TrackProperty → Prop
  | immutableProperties properties => ∀ inner ∈ properties, inner.WellFormed ∧
      inner.getType ≠ TrackPropertyType.immutableProperties.toU64
  | defaultPublisherGroupOrder order => order ≠ .original
  | unknown kvp => kvp.WellFormed ∧ isMandatoryTrack kvp.getType = false ∧
      ∀ t : TrackPropertyType, kvp.getType = t.toU64 → isTrackScope t = false
  | unknownMandatory kvp => kvp.WellFormed ∧ isMandatoryTrack kvp.getType = true
  | _ => True

/-- A property as it is read back: immutable properties are sorted on the way. -/
def canonical : TrackProperty → TrackProperty
  | immutableProperties properties => immutableProperties (sortByType properties)
  | p => p

theorem tryFrom_of_isMandatoryTrack {typeValue : UInt64} (h : isMandatoryTrack typeValue = true)
    (t : TrackPropertyType) : TrackPropertyType.tryFrom typeValue ≠ .ok t := by
  intro htype
  have hvalue := TrackPropertyType.toU64_of_tryFrom htype
  subst hvalue
  cases t <;> exact absurd h (by decide)

theorem deserialize_unknown {kvp : KeyValuePair} (h : (unknown kvp).WellFormed) :
    deserialize kvp = .ok (unknown kvp) := by
  obtain ⟨-, hmandatory, hscope⟩ := h
  unfold deserialize
  cases htype : TrackPropertyType.tryFrom kvp.getType with
  | error e =>
    simp only [hmandatory]
    rfl
  | ok t =>
    have hfalse := hscope t (TrackPropertyType.toU64_of_tryFrom htype)
    cases t with
    | priorGroupIdGap | priorObjectIdGap => rfl
    | _ => cases hfalse

theorem deserialize_unknownMandatory {kvp : KeyValuePair} (h : (unknownMandatory kvp).WellFormed) :
    deserialize kvp = .ok (unknownMandatory kvp) := by
  unfold deserialize
  cases htype : TrackPropertyType.tryFrom kvp.getType with
  | error e => simp only [h.2, if_pos]
  | ok t => exact absurd htype (tryFrom_of_isMandatoryTrack h.2 t)

theorem any_immutableProperties_eq_false {properties : List KeyValuePair}
    (h : ∀ inner ∈ properties, inner.getType ≠ TrackPropertyType.immutableProperties.toU64) :
    ¬ (properties.any fun inner =>
      inner.getType = TrackPropertyType.immutableProperties.toU64) = true := by
  simpa using h

theorem tryNewBytes_eq_ok {value : Bytes} {kvp : KeyValuePair}
    (h : KeyValuePair.tryNewBytes TrackPropertyType.immutableProperties.toU64 value = .ok kvp) :
    kvp = .bytes TrackPropertyType.immutableProperties.toU64 value ∧
      value.length ≤ maxValueLength := by
  rw [KeyValuePair.tryNewBytes_of_odd (by decide)] at h
  obtain ⟨hmax, rfl⟩ := KeyValuePair.newBytes_eq_ok.mp h
  exact ⟨rfl, hmax⟩

/-- What is written of a property is read back. -/
theorem deserialize_of_tryIntoKeyValuePair {p : TrackProperty} {kvp : KeyValuePair}
    (hwf : p.WellFormed) (h : p.tryIntoKeyValuePair = .ok kvp) :
    kvp.WellFormed ∧ kvp.getType = p.typeValue ∧ deserialize kvp = .ok p.canonical := by
  cases p with
  | objectDeliveryTimeout | subgroupDeliveryTimeout | maxCacheDuration =>
    cases h
    exact ⟨rfl, rfl, rfl⟩
  | immutableProperties properties =>
    obtain ⟨value, hvalue, hnew⟩ := except_bind_eq_ok.mp h
    obtain ⟨rfl, hmax⟩ := tryNewBytes_eq_ok hnew
    have hread := deserializeKvpListUntilEmpty_of_serialize (fun inner hmem => (hwf inner hmem).1)
      hvalue
    have hnested : ∀ inner ∈ sortByType properties,
        inner.getType ≠ TrackPropertyType.immutableProperties.toU64 :=
      fun inner hmem => (hwf inner ((List.perm_insertionSort _ _).mem_iff.mp hmem)).2
    refine ⟨⟨by decide, hmax⟩, rfl, ?_⟩
    have htype : TrackPropertyType.tryFrom (KeyValuePair.bytes
        TrackPropertyType.immutableProperties.toU64 value).getType = .ok .immutableProperties :=
      TrackPropertyType.tryFrom_toU64 .immutableProperties
    simp only [deserialize, htype, kvpBytesValue, except_ok_bind, hread]
    rw [if_neg (any_immutableProperties_eq_false hnested)]
    rfl
  | defaultPublisherPriority priority =>
    cases h
    have hle : ¬ priority.toUInt64 > 255 := by
      rw [gt_iff_lt, UInt64.lt_iff_toNat_lt, UInt8.toNat_toUInt64]
      exact Nat.not_lt.mpr (Nat.le_of_lt_succ priority.toNat_lt)
    refine ⟨rfl, rfl, ?_⟩
    simp only [deserialize, KeyValuePair.getType, TrackPropertyType.tryFrom_toU64, kvpVarintValue,
      except_ok_bind]
    rw [if_neg hle]
    simp [canonical]
  | defaultPublisherGroupOrder order =>
    cases h
    cases order with
    | original => exact absurd rfl hwf
    | ascending | descending => exact ⟨rfl, rfl, rfl⟩
  | dynamicGroups enabled =>
    cases h
    cases enabled <;> exact ⟨rfl, rfl, rfl⟩
  | unknown kvp' =>
    cases h
    exact ⟨hwf.1, rfl, deserialize_unknown hwf⟩
  | unknownMandatory kvp' =>
    cases h
    exact ⟨hwf.1, rfl, deserialize_unknownMandatory hwf⟩

/-- `p` was read of `kvp` and can be written again in no more bytes. -/
structure Rewritten (kvp : KeyValuePair) (p : TrackProperty) : Prop where
  wellFormed : p.WellFormed
  canonical : p.canonical = p
  typeValue : p.typeValue = kvp.getType
  writes : ∃ kvp', p.tryIntoKeyValuePair = .ok kvp' ∧ Rewrites kvp kvp'

theorem Rewritten.self {kvp : KeyValuePair} {p : TrackProperty} (hkvp : kvp.WellFormed)
    (hwf : p.WellFormed) (hcanonical : p.canonical = p) (htype : p.typeValue = kvp.getType)
    (hinto : p.tryIntoKeyValuePair = .ok kvp) : Rewritten kvp p where
  wellFormed := hwf
  canonical := hcanonical
  typeValue := htype
  writes := ⟨kvp, hinto, hkvp, rfl, le_rfl⟩

theorem kvpVarintValue_eq_ok {kvp : KeyValuePair} {context : String} {value : UInt64}
    (h : kvpVarintValue kvp context = .ok value) : kvp = .varInt kvp.getType value := by
  cases kvp with
  | varInt typeValue v =>
    cases h
    rfl
  | bytes typeValue v => cases h

theorem kvpBytesValue_eq_ok {kvp : KeyValuePair} {context : String} {value : Bytes}
    (h : kvpBytesValue kvp context = .ok value) : kvp = .bytes kvp.getType value := by
  cases kvp with
  | varInt typeValue v => cases h
  | bytes typeValue v =>
    cases h
    rfl

theorem rewritten_of_immutableProperties {kvp : KeyValuePair} {p : TrackProperty}
    (hkvp : kvp.WellFormed) (hget : kvp.getType = TrackPropertyType.immutableProperties.toU64)
    (h : deserialize kvp = .ok p) : Rewritten kvp p := by
  simp only [deserialize, hget, TrackPropertyType.tryFrom_toU64] at h
  obtain ⟨value, hvalue, hrest⟩ := except_bind_eq_ok.mp h
  obtain ⟨properties, hlist, hret⟩ := except_bind_eq_ok.mp hrest
  have hbytes := kvpBytesValue_eq_ok hvalue
  rw [hget] at hbytes
  subst hbytes
  split at hret
  · cases hret
  next hany =>
    cases hret
    obtain ⟨hfrom, -⟩ := deserializeKvpsFrom_wellFormed _ _ _ _ hlist
    obtain ⟨out, hout, hlength, -⟩ := deserializeKvpListUntilEmpty_reencodes hlist
    have hmax : value.length ≤ maxValueLength := hkvp.2
    refine ⟨?_, congrArg immutableProperties (sortByType_of_kvpsFrom hfrom), rfl,
      .bytes TrackPropertyType.immutableProperties.toU64 out, ?_, Rewrites.bytes hkvp hlength⟩
    · intro inner hmem
      refine ⟨hfrom.wellFormed inner hmem, fun hnested => hany ?_⟩
      exact List.any_eq_true.mpr ⟨inner, hmem, decide_eq_true hnested⟩
    · rw [tryIntoKeyValuePair, hout, except_ok_bind, KeyValuePair.tryNewBytes_of_odd (by decide)]
      exact KeyValuePair.newBytes_of_le (by omega)

/-- What was read of a property can be written again. -/
theorem rewritten_of_deserialize {kvp : KeyValuePair} {p : TrackProperty} (hkvp : kvp.WellFormed)
    (h : deserialize kvp = .ok p) : Rewritten kvp p := by
  cases htype : TrackPropertyType.tryFrom kvp.getType with
  | error e =>
    simp only [deserialize, htype, Except.ok.injEq] at h
    subst h
    split
    next hmandatory => exact .self hkvp ⟨hkvp, hmandatory⟩ rfl rfl rfl
    next hmandatory =>
      refine .self hkvp ⟨hkvp, Bool.eq_false_iff.mpr hmandatory, fun t hget => ?_⟩ rfl rfl rfl
      rw [hget, TrackPropertyType.tryFrom_toU64] at htype
      cases htype
  | ok t =>
    have hget := TrackPropertyType.toU64_of_tryFrom htype
    have hunknown (hp : p = unknown kvp) (hmandatory : isMandatoryTrack kvp.getType = false)
        (hscope : isTrackScope t = false) : Rewritten kvp p := by
      subst hp
      refine .self hkvp ⟨hkvp, hmandatory, fun t' hget' => ?_⟩ rfl rfl rfl
      rw [hget', TrackPropertyType.tryFrom_toU64, Except.ok.injEq] at htype
      rw [htype, hscope]
    cases t with
    | immutableProperties => exact rewritten_of_immutableProperties hkvp hget h
    | priorGroupIdGap | priorObjectIdGap =>
      simp only [deserialize, htype, Except.ok.injEq] at h
      exact hunknown h.symm (by rw [hget]; decide) rfl
    | objectDeliveryTimeout | subgroupDeliveryTimeout | maxCacheDuration =>
      simp only [deserialize, htype] at h
      obtain ⟨value, hvalue, hret⟩ := except_bind_eq_ok.mp h
      cases hret
      have hvar := kvpVarintValue_eq_ok hvalue
      rw [hget] at hvar
      subst hvar
      exact .self hkvp trivial rfl rfl rfl
    | defaultPublisherPriority =>
      simp only [deserialize, htype] at h
      obtain ⟨value, hvalue, hret⟩ := except_bind_eq_ok.mp h
      have hvar := kvpVarintValue_eq_ok hvalue
      rw [hget] at hvar
      subst hvar
      split at hret
      · cases hret
      next hle =>
        cases hret
        refine .self hkvp trivial rfl rfl ?_
        rw [gt_iff_lt, UInt64.lt_iff_toNat_lt, Nat.not_lt] at hle
        have hlt : value.toNat < 2 ^ 8 := Nat.lt_succ_of_le hle
        have hvalue : value.toUInt8.toUInt64 = value := by
          rw [← UInt64.toNat_inj, UInt8.toNat_toUInt64, UInt64.toNat_toUInt8, Nat.mod_eq_of_lt hlt]
        rw [tryIntoKeyValuePair, hvalue]
        rfl
    | defaultPublisherGroupOrder =>
      simp only [deserialize, htype] at h
      obtain ⟨value, hvalue, hret⟩ := except_bind_eq_ok.mp h
      have hvar := kvpVarintValue_eq_ok hvalue
      rw [hget] at hvar
      subst hvar
      split_ifs at hret with h1 h2
      · cases hret
        subst h1
        exact .self hkvp (by decide : GroupOrder.ascending ≠ .original) rfl rfl rfl
      · cases hret
        subst h2
        exact .self hkvp (by decide : GroupOrder.descending ≠ .original) rfl rfl rfl
    | dynamicGroups =>
      simp only [deserialize, htype] at h
      obtain ⟨value, hvalue, hret⟩ := except_bind_eq_ok.mp h
      have hvar := kvpVarintValue_eq_ok hvalue
      rw [hget] at hvar
      subst hvar
      split_ifs at hret with h0 h1
      · cases hret
        subst h0
        exact .self hkvp trivial rfl rfl rfl
      · cases hret
        subst h1
        exact .self hkvp trivial rfl rfl rfl

/-- What is read of a pair is written as a pair that is read the same. -/
theorem rewrites_of_deserialize {kvp : KeyValuePair} {p : TrackProperty} (hwf : kvp.WellFormed)
    (h : deserialize kvp = .ok p) :
    ∃ kvp', p.tryIntoKeyValuePair = .ok kvp' ∧ deserialize kvp' = .ok p ∧ Rewrites kvp kvp' := by
  have hrewritten := rewritten_of_deserialize hwf h
  obtain ⟨kvp', hinto, hrewrites⟩ := hrewritten.writes
  have hback := (deserialize_of_tryIntoKeyValuePair hrewritten.wellFormed hinto).2.2
  rw [hrewritten.canonical] at hback
  exact ⟨kvp', hinto, hback, hrewrites⟩

end TrackProperty

/-! A list of properties. -/

/-- `sort_by_key` on the Types of the properties. -/
def sortTrackProperties (props : List TrackProperty) : List TrackProperty :=
  props.insertionSort fun a b => a.typeValue ≤ b.typeValue

/-- The properties of a track as they are read back. -/
def canonicalTrackProperties (props : List TrackProperty) : List TrackProperty :=
  (sortTrackProperties props).map TrackProperty.canonical

/-- What is written of the properties of a track is read back, in the order of their Types. -/
theorem deserializeTrackProperties_of_serialize {props : List TrackProperty} {out : Bytes}
    (hwf : ∀ p ∈ props, p.WellFormed) (h : serializeTrackProperties props = .ok out) :
    deserializeTrackProperties out = .ok (canonicalTrackProperties props) := by
  obtain ⟨kvps, hkvps, hout⟩ := except_bind_eq_ok.mp h
  have hall : List.Forall₂ (fun p kvp => KeyValuePair.WellFormed kvp ∧
      kvp.getType = TrackProperty.typeValue p ∧
        TrackProperty.deserialize kvp = .ok p.canonical) props kvps := by
    refine ((List.forall₂_and_left _ _).mpr ⟨hwf, mapM_eq_ok_iff.mp hkvps⟩).imp ?_
    rintro p kvp ⟨hp, hinto⟩
    exact TrackProperty.deserialize_of_tryIntoKeyValuePair hp hinto
  have hkvpsWf : ∀ kvp ∈ kvps, kvp.WellFormed := forall_mem_of_forall₂ (fun _ _ hp => hp.1) hall
  have hsorted : List.Forall₂ _ (sortTrackProperties props) (sortByType kvps) :=
    forall₂_insertionSort (fun _ _ _ _ hab hab' => by rw [hab.2.1, hab'.2.1]) hall
  rw [deserializeTrackProperties, deserializeKvpListUntilEmpty_of_serialize hkvpsWf hout,
    except_ok_bind, mapM_eq_ok_iff, canonicalTrackProperties, List.forall₂_map_right_iff]
  exact hsorted.flip.imp fun _ _ hp => hp.2.2

/-- What is read of the properties of a track can be written again in no more bytes. -/
theorem deserializeTrackProperties_rewrites {bytes : Bytes} {props : List TrackProperty}
    (h : deserializeTrackProperties bytes = .ok props) :
    (∀ p ∈ props, p.WellFormed) ∧ canonicalTrackProperties props = props ∧
      ∃ out, serializeTrackProperties props = .ok out ∧ out.length ≤ bytes.length := by
  obtain ⟨kvps, hkvps, hprops⟩ := except_bind_eq_ok.mp h
  obtain ⟨hfrom, out, hout, hlength⟩ := deserializeKvpsFrom_wellFormed _ _ _ _ hkvps
  have hall : List.Forall₂ TrackProperty.Rewritten kvps props := by
    refine ((List.forall₂_and_left _ _).mpr ⟨hfrom.wellFormed, mapM_eq_ok_iff.mp hprops⟩).imp ?_
    rintro kvp p ⟨hkvp, hp⟩
    exact TrackProperty.rewritten_of_deserialize hkvp hp
  have hwritten : ∀ p ∈ props, p.WellFormed ∧ p.canonical = p :=
    forall_mem_of_forall₂ (fun _ _ hp => ⟨hp.wellFormed, hp.canonical⟩) hall
  have hsorted : sortTrackProperties props = props := by
    refine List.Pairwise.insertionSort_eq
      (pairwise_of_forall₂ (fun p p' kvp kvp' hp hp' hle => ?_) hall.flip hfrom.pairwise.1)
    rw [hp.typeValue, hp'.typeValue]
    exact hle
  obtain ⟨kvps', hinto, -, hrewrites⟩ :=
    forall₂_rewrites (fun _ _ => TrackProperty.rewrites_of_deserialize) (mapM_eq_ok_iff.mp hprops)
      hfrom.wellFormed
  obtain ⟨hfrom', out', hout', hshort⟩ := serializeKvpsFrom_rewrites hrewrites 0 out hfrom hout
  refine ⟨fun p hmem => (hwritten p hmem).1, ?_, out', ?_, by omega⟩
  · rw [canonicalTrackProperties, hsorted,
      List.map_congr_left (g := id) fun p hmem => (hwritten p hmem).2, List.map_id]
  · rw [serializeTrackProperties, hinto, except_ok_bind, serializeKvpList_of_kvpsFrom hfrom', hout']

end Moqtail
