import Moqtail.Wire.KeyValuePair

/-! Object-level Properties, from `model/property/object_property.rs`. -/
namespace Moqtail

open Lib

inductive TrackPropertyType where
  | objectDeliveryTimeout
  | maxCacheDuration
  | subgroupDeliveryTimeout
  | immutableProperties
  | defaultPublisherPriority
  | defaultPublisherGroupOrder
  | dynamicGroups
  | priorGroupIdGap
  | priorObjectIdGap
deriving Repr, DecidableEq

namespace TrackPropertyType

def toU64 : TrackPropertyType → UInt64
  | objectDeliveryTimeout => 0x02
  | maxCacheDuration => 0x04
  | subgroupDeliveryTimeout => 0x06
  | immutableProperties => 0x0B
  | defaultPublisherPriority => 0x0E
  | defaultPublisherGroupOrder => 0x22
  | dynamicGroups => 0x30
  | priorGroupIdGap => 0x3C
  | priorObjectIdGap => 0x3E

def tryFrom (value : UInt64) : Parse TrackPropertyType :=
  if value = 0x02 then .ok objectDeliveryTimeout
  else if value = 0x04 then .ok maxCacheDuration
  else if value = 0x06 then .ok subgroupDeliveryTimeout
  else if value = 0x0B then .ok immutableProperties
  else if value = 0x0E then .ok defaultPublisherPriority
  else if value = 0x22 then .ok defaultPublisherGroupOrder
  else if value = 0x30 then .ok dynamicGroups
  else if value = 0x3C then .ok priorGroupIdGap
  else if value = 0x3E then .ok priorObjectIdGap
  else .error (.invalidType "TrackPropertyType::try_from(u64)"
    s!"Unknown property type, got {value}")

@[simp] theorem tryFrom_toU64 (t : TrackPropertyType) : tryFrom t.toU64 = .ok t := by
  cases t <;> rfl

theorem toU64_of_tryFrom {value : UInt64} {t : TrackPropertyType} (h : tryFrom value = .ok t) :
    value = t.toU64 := by
  unfold tryFrom at h
  repeat' split at h
  all_goals first
    | (cases h; assumption)
    | cases h

end TrackPropertyType

inductive ObjectProperty where
  | immutableProperties (properties : List KeyValuePair)
  | priorGroupIdGap (gap : UInt64)
  | priorObjectIdGap (gap : UInt64)
  | unknown (kvp : KeyValuePair)
deriving Repr, DecidableEq

/-- Two hexadecimal digits at least, as `{:02X}` prints a type. -/
def hexUpper (v : UInt64) : String :=
  let digits := (Nat.toDigits 16 v.toNat).map Char.toUpper
  String.ofList (List.replicate (2 - digits.length) '0' ++ digits)

def kvpVarintValue (kvp : KeyValuePair) (context : String) : Parse UInt64 :=
  match kvp with
  | .varInt _ value => .ok value
  | .bytes typeValue _ => .error (.protocolViolation context
    ("Property type 0x" ++ hexUpper typeValue ++ " expects VarInt encoding but received Bytes"))

def kvpBytesValue (kvp : KeyValuePair) (context : String) : Parse Bytes :=
  match kvp with
  | .bytes _ value => .ok value
  | .varInt typeValue _ => .error (.protocolViolation context
    ("Property type 0x" ++ hexUpper typeValue ++ " expects Bytes encoding but received VarInt"))

namespace ObjectProperty

def deserialize (kvp : KeyValuePair) : Parse ObjectProperty :=
  match TrackPropertyType.tryFrom kvp.getType with
  | .error _ => .ok (unknown kvp)
  | .ok .immutableProperties => do
    let bytes ← kvpBytesValue kvp "ObjectProperty::deserialize(ImmutableProperties)"
    let properties ← deserializeKvpListUntilEmpty bytes
    if properties.any fun inner => inner.getType = TrackPropertyType.immutableProperties.toU64 then
      throw (.protocolViolation "ObjectProperty::deserialize(ImmutableProperties)"
        "ImmutableProperties MUST NOT contain another ImmutableProperties key")
    return immutableProperties properties
  | .ok .priorGroupIdGap => do
    let value ← kvpVarintValue kvp "ObjectProperty::deserialize(PriorGroupIdGap)"
    return priorGroupIdGap value
  | .ok .priorObjectIdGap => do
    let value ← kvpVarintValue kvp "ObjectProperty::deserialize(PriorObjectIdGap)"
    return priorObjectIdGap value
  -- track-scope properties, unknown at object level
  | .ok _ => .ok (unknown kvp)

def tryIntoKeyValuePair : ObjectProperty → Parse KeyValuePair
  | immutableProperties properties => do
    let value ← serializeKvpList properties
    KeyValuePair.tryNewBytes TrackPropertyType.immutableProperties.toU64 value
  | priorGroupIdGap gap =>
    KeyValuePair.tryNewVarint TrackPropertyType.priorGroupIdGap.toU64 gap
  | priorObjectIdGap gap =>
    KeyValuePair.tryNewVarint TrackPropertyType.priorObjectIdGap.toU64 gap
  | unknown kvp => .ok kvp

end ObjectProperty

def serializeObjectProperties (exts : List ObjectProperty) : Parse Bytes := do
  let kvps ← exts.mapM ObjectProperty.tryIntoKeyValuePair
  serializeKvpList kvps

def deserializeObjectProperties (bytes : Bytes) : Parse (List ObjectProperty) := do
  let kvps ← deserializeKvpListUntilEmpty bytes
  kvps.mapM ObjectProperty.deserialize

/-! One property. -/

/-- `kvp'` stands for the same property as `kvp`, in a value that is no longer. -/
structure Rewrites (kvp kvp' : KeyValuePair) : Prop where
  wellFormed : kvp'.WellFormed
  getType : kvp'.getType = kvp.getType
  length : kvp'.serializeValue.length ≤ kvp.serializeValue.length

theorem minimalViLength_mono {v w : UInt64} (h : v ≤ w) :
    minimalViLength v ≤ minimalViLength w := by
  have hw := minimalViLength_pos w
  have hle := UInt64.le_iff_toNat_le.mp h
  by_cases h8 : minimalViLength w ≤ 8
  · have hlt := (minimalViLength_le_iff w _ hw h8).mp le_rfl
    exact (minimalViLength_le_iff v _ hw h8).mpr (by omega)
  · have := minimalViLength_le v
    omega

theorem Rewrites.bytes {typeValue : UInt64} {value value' : Bytes}
    (hwf : (KeyValuePair.bytes typeValue value).WellFormed) (hlen : value'.length ≤ value.length) :
    Rewrites (.bytes typeValue value) (.bytes typeValue value') where
  wellFormed := ⟨hwf.1, le_trans hlen hwf.2⟩
  getType := rfl
  length := by
    have hmax : value.length ≤ 65535 := hwf.2
    have hle : UInt64.ofNat value'.length ≤ UInt64.ofNat value.length := by
      rw [UInt64.le_iff_toNat_le, toNat_ofNat_length (by omega), toNat_ofNat_length (by omega)]
      exact hlen
    have := minimalViLength_mono hle
    simp only [KeyValuePair.serializeValue, List.length_append, length_putVi]
    omega

theorem ObjectProperty.deserialize_rewrites {kvp : KeyValuePair} {p : ObjectProperty}
    (hwf : kvp.WellFormed) (h : ObjectProperty.deserialize kvp = .ok p) :
    ∃ kvp', p.tryIntoKeyValuePair = .ok kvp' ∧ ObjectProperty.deserialize kvp' = .ok p ∧
      Rewrites kvp kvp' := by
  have hself : Rewrites kvp kvp := ⟨hwf, rfl, le_rfl⟩
  have hcase := h
  unfold ObjectProperty.deserialize at hcase
  split at hcase
  · simp only [Except.ok.injEq] at hcase
    subst hcase
    exact ⟨kvp, rfl, h, hself⟩
  · next htype =>
    have htype' := TrackPropertyType.toU64_of_tryFrom htype
    cases kvp with
    | varInt typeValue value => simp [kvpBytesValue] at hcase
    | bytes typeValue value =>
      simp only [KeyValuePair.getType] at htype'
      subst htype'
      simp only [kvpBytesValue, except_ok_bind] at hcase
      obtain ⟨properties, hlist, hret⟩ := except_bind_eq_ok.mp hcase
      obtain ⟨out, hout, hlen, hback⟩ := deserializeKvpListUntilEmpty_reencodes hlist
      have hmax : out.length ≤ maxValueLength := le_trans hlen hwf.2
      split at hret
      · simp at hret
      · next hany =>
        simp only [except_pure, Except.ok.injEq] at hret
        subst hret
        refine ⟨.bytes TrackPropertyType.immutableProperties.toU64 out, ?_, ?_,
          Rewrites.bytes hwf hlen⟩
        · have hodd : ¬ TrackPropertyType.immutableProperties.toU64 % 2 = 0 := by decide
          simp only [ObjectProperty.tryIntoKeyValuePair, hout, except_ok_bind,
            KeyValuePair.tryNewBytes, KeyValuePair.newBytes]
          rw [if_neg hodd, if_neg (by omega)]
        · have htry : TrackPropertyType.tryFrom (KeyValuePair.bytes
              TrackPropertyType.immutableProperties.toU64 out).getType = .ok .immutableProperties :=
            TrackPropertyType.tryFrom_toU64 .immutableProperties
          unfold ObjectProperty.deserialize
          simp only [htry, kvpBytesValue, except_ok_bind, hback]
          rw [if_neg hany]
          rfl
  · next htype =>
    have htype' := TrackPropertyType.toU64_of_tryFrom htype
    cases kvp with
    | bytes typeValue value => simp [kvpVarintValue] at hcase
    | varInt typeValue value =>
      simp only [KeyValuePair.getType] at htype'
      subst htype'
      simp only [kvpVarintValue, except_ok_bind, except_pure, Except.ok.injEq] at hcase
      subst hcase
      exact ⟨_, rfl, h, hself⟩
  · next htype =>
    have htype' := TrackPropertyType.toU64_of_tryFrom htype
    cases kvp with
    | bytes typeValue value => simp [kvpVarintValue] at hcase
    | varInt typeValue value =>
      simp only [KeyValuePair.getType] at htype'
      subst htype'
      simp only [kvpVarintValue, except_ok_bind, except_pure, Except.ok.injEq] at hcase
      subst hcase
      exact ⟨_, rfl, h, hself⟩
  · simp only [Except.ok.injEq] at hcase
    subst hcase
    exact ⟨kvp, rfl, h, hself⟩

/-! A list of properties. -/

/-- Pairs that stand for the same properties, in ascending order too, take no more bytes. -/
theorem serializeKvpsFrom_rewrites {kvps kvps' : List KeyValuePair}
    (h : List.Forall₂ Rewrites kvps kvps') :
    ∀ (prevType : UInt64) (out : Bytes), KvpsFrom prevType kvps →
      serializeKvpsFrom prevType kvps = .ok out →
      KvpsFrom prevType kvps' ∧
        ∃ out', serializeKvpsFrom prevType kvps' = .ok out' ∧ out'.length ≤ out.length := by
  induction h with
  | nil => exact fun _ out _ hout => ⟨trivial, out, hout, le_rfl⟩
  | @cons kvp kvp' rest rest' hone _ ih =>
    rintro prevType out ⟨_, hle, hrest⟩ hout
    simp only [serializeKvpsFrom, kvp.serializeDelta_of_le prevType hle, except_ok_bind] at hout
    obtain ⟨tail, htail, hret⟩ := except_bind_eq_ok.mp hout
    cases hret
    obtain ⟨hfrom, tail', htail', hlength⟩ := ih _ _ hrest htail
    have hle' : prevType ≤ kvp'.getType := hone.getType ▸ hle
    have hshort := hone.length
    refine ⟨⟨hone.wellFormed, hle', hone.getType ▸ hfrom⟩,
      putVi (kvp'.getType - prevType) ++ kvp'.serializeValue ++ tail', ?_, ?_⟩
    · simp only [serializeKvpsFrom, kvp'.serializeDelta_of_le prevType hle', except_ok_bind,
        hone.getType, htail']
      rfl
    · rw [hone.getType]
      simp only [List.length_append] at hshort ⊢
      omega

theorem KvpsFrom.wellFormed {items : List KeyValuePair} :
    ∀ {prevType : UInt64}, KvpsFrom prevType items → ∀ kvp ∈ items, kvp.WellFormed := by
  induction items with
  | nil => simp
  | cons kvp rest ih =>
    rintro prevType ⟨hwf, -, hrest⟩
    rw [List.forall_mem_cons]
    exact ⟨hwf, ih hrest⟩

section Traversal

variable {P : Type} {read : KeyValuePair → Parse P} {write : P → Parse KeyValuePair}

/-- Where each pair read can be written again, so can a list of them. -/
theorem forall₂_rewrites
    (hone : ∀ kvp p, kvp.WellFormed → read kvp = .ok p →
      ∃ kvp', write p = .ok kvp' ∧ read kvp' = .ok p ∧ Rewrites kvp kvp')
    {kvps : List KeyValuePair} {props : List P}
    (h : List.Forall₂ (fun kvp p => read kvp = .ok p) kvps props)
    (hwf : ∀ kvp ∈ kvps, kvp.WellFormed) :
    ∃ kvps', props.mapM write = .ok kvps' ∧ kvps'.mapM read = .ok props ∧
      List.Forall₂ Rewrites kvps kvps' := by
  induction h with
  | nil => exact ⟨[], rfl, rfl, .nil⟩
  | cons hread _ ih =>
    rw [List.forall_mem_cons] at hwf
    obtain ⟨kvp', hwrite, hback, hrewrites⟩ := hone _ _ hwf.1 hread
    obtain ⟨kvps', hwrites, hbacks, hall⟩ := ih hwf.2
    refine ⟨kvp' :: kvps', ?_, ?_, .cons hrewrites hall⟩
    · rw [List.mapM_cons, hwrite, except_ok_bind, hwrites]
      rfl
    · rw [List.mapM_cons, hback, except_ok_bind, hbacks]
      rfl

end Traversal

/-- Decoded properties are written in no more bytes than they came in, and read back the
same. -/
theorem deserializeObjectProperties_reencodes {bytes : Bytes} {props : List ObjectProperty}
    (h : deserializeObjectProperties bytes = .ok props) :
    ∃ out, serializeObjectProperties props = .ok out ∧ out.length ≤ bytes.length ∧
      deserializeObjectProperties out = .ok props := by
  obtain ⟨kvps, hkvps, hprops⟩ := except_bind_eq_ok.mp h
  obtain ⟨hfrom, out, hout, hlen⟩ := deserializeKvpsFrom_wellFormed _ _ _ _ hkvps
  have hrewrites : ∀ kvp p, kvp.WellFormed → ObjectProperty.deserialize kvp = .ok p →
      ∃ kvp', p.tryIntoKeyValuePair = .ok kvp' ∧ ObjectProperty.deserialize kvp' = .ok p ∧
        Rewrites kvp kvp' := fun _ _ => ObjectProperty.deserialize_rewrites
  obtain ⟨kvps', hinto, hback, hall⟩ :=
    forall₂_rewrites hrewrites (mapM_eq_ok_iff.mp hprops) hfrom.wellFormed
  obtain ⟨hfrom', out', hout', hlen'⟩ := serializeKvpsFrom_rewrites hall 0 out hfrom hout
  refine ⟨out', ?_, by omega, ?_⟩
  · simp only [serializeObjectProperties, hinto, except_ok_bind,
      serializeKvpList_of_kvpsFrom hfrom', hout']
  · simp only [deserializeObjectProperties, deserializeKvpListUntilEmpty,
      deserializeKvpsFrom_serializeKvpsFrom kvps' 0 out' out'.length hfrom' hout' le_rfl,
      except_ok_bind, hback]

/-- Only the empty byte string decodes to no properties. -/
theorem deserializeObjectProperties_eq_nil {bytes : Bytes}
    (h : deserializeObjectProperties bytes = .ok []) : bytes = [] := by
  obtain ⟨kvps, hkvps, hprops⟩ := except_bind_eq_ok.mp h
  cases bytes with
  | nil => rfl
  | cons b bs =>
    exfalso
    have hne : kvps ≠ [] := by
      simp only [deserializeKvpListUntilEmpty, List.length_cons, deserializeKvpsFrom,
        List.isEmpty_cons, Bool.false_eq_true, if_false] at hkvps
      obtain ⟨⟨kvp, left⟩, -, hrest⟩ := except_bind_eq_ok.mp hkvps
      obtain ⟨items, -, hret⟩ := except_bind_eq_ok.mp hrest
      simp only [except_pure, Except.ok.injEq] at hret
      simp [← hret]
    cases kvps with
    | nil => exact hne rfl
    | cons kvp rest =>
      rw [List.mapM_cons] at hprops
      obtain ⟨p, -, hprops⟩ := except_bind_eq_ok.mp hprops
      obtain ⟨ps, -, hret⟩ := except_bind_eq_ok.mp hprops
      simp at hret

/-! Properties in canonical form. -/

namespace ObjectProperty

def typeValue : ObjectProperty → UInt64
  | immutableProperties _ => TrackPropertyType.immutableProperties.toU64
  | priorGroupIdGap _ => TrackPropertyType.priorGroupIdGap.toU64
  | priorObjectIdGap _ => TrackPropertyType.priorObjectIdGap.toU64
  | unknown kvp => kvp.getType

/-- The one form a property has: a Type known at object level is not kept as unknown, and
immutable properties are in ascending order, not nested and short enough for one value. -/
def Canonical : ObjectProperty → Prop
  | immutableProperties properties => KvpsFrom 0 properties ∧
      (∀ inner ∈ properties, inner.getType ≠ TrackPropertyType.immutableProperties.toU64) ∧
      ∀ out, serializeKvpList properties = .ok out → out.length ≤ maxValueLength
  | priorGroupIdGap _ => True
  | priorObjectIdGap _ => True
  | unknown kvp => kvp.WellFormed ∧
      kvp.getType ≠ TrackPropertyType.immutableProperties.toU64 ∧
      kvp.getType ≠ TrackPropertyType.priorGroupIdGap.toU64 ∧
      kvp.getType ≠ TrackPropertyType.priorObjectIdGap.toU64

theorem deserialize_unknown {kvp : KeyValuePair} (h : (unknown kvp).Canonical) :
    deserialize kvp = .ok (unknown kvp) := by
  obtain ⟨-, himmutable, hgroup, hobject⟩ := h
  unfold deserialize
  split
  · rfl
  · next htype => exact absurd (TrackPropertyType.toU64_of_tryFrom htype) himmutable
  · next htype => exact absurd (TrackPropertyType.toU64_of_tryFrom htype) hgroup
  · next htype => exact absurd (TrackPropertyType.toU64_of_tryFrom htype) hobject
  · rfl

theorem tryIntoKeyValuePair_of_canonical {p : ObjectProperty} (h : p.Canonical) :
    ∃ kvp, p.tryIntoKeyValuePair = .ok kvp ∧ deserialize kvp = .ok p ∧ kvp.WellFormed ∧
      kvp.getType = p.typeValue := by
  cases p with
  | immutableProperties properties =>
    obtain ⟨hfrom, hnested, hlength⟩ := h
    obtain ⟨out, hout, hback⟩ := hfrom.roundTrips
    have hmax := hlength out hout
    have hodd : ¬ TrackPropertyType.immutableProperties.toU64 % 2 = 0 := by decide
    have hany : ¬ (properties.any fun inner =>
        inner.getType = TrackPropertyType.immutableProperties.toU64) = true := by
      simpa using hnested
    have htry : TrackPropertyType.tryFrom (KeyValuePair.bytes
        TrackPropertyType.immutableProperties.toU64 out).getType = .ok .immutableProperties :=
      TrackPropertyType.tryFrom_toU64 .immutableProperties
    refine ⟨.bytes TrackPropertyType.immutableProperties.toU64 out, ?_, ?_, ⟨hodd, hmax⟩, rfl⟩
    · simp only [tryIntoKeyValuePair, hout, except_ok_bind, KeyValuePair.tryNewBytes,
        KeyValuePair.newBytes]
      rw [if_neg hodd, if_neg (by omega)]
    · unfold deserialize
      simp only [htry, kvpBytesValue, except_ok_bind, hback]
      rw [if_neg hany]
      rfl
  | priorGroupIdGap gap => exact ⟨_, rfl, rfl, rfl, rfl⟩
  | priorObjectIdGap gap => exact ⟨_, rfl, rfl, rfl, rfl⟩
  | unknown kvp => exact ⟨kvp, rfl, deserialize_unknown h, h.1, rfl⟩

/-- Canonical properties in ascending order of Type from `prevType` on. -/
def CanonicalFrom : UInt64 → List ObjectProperty → Prop
  | _, [] => True
  | prevType, p :: rest => p.Canonical ∧ prevType ≤ p.typeValue ∧ CanonicalFrom p.typeValue rest

theorem mapM_of_canonicalFrom {props : List ObjectProperty} :
    ∀ {prevType : UInt64}, CanonicalFrom prevType props →
      ∃ kvps, props.mapM tryIntoKeyValuePair = .ok kvps ∧
        kvps.mapM deserialize = .ok props ∧ KvpsFrom prevType kvps := by
  induction props with
  | nil => exact fun _ => ⟨[], rfl, rfl, trivial⟩
  | cons p rest ih =>
    rintro prevType ⟨hp, hle, hrest⟩
    obtain ⟨kvp, hinto, hback, hwf, htype⟩ := tryIntoKeyValuePair_of_canonical hp
    obtain ⟨kvps, hintos, hbacks, hfrom⟩ := ih hrest
    refine ⟨kvp :: kvps, ?_, ?_, hwf, htype ▸ hle, htype ▸ hfrom⟩
    · rw [List.mapM_cons, hinto, except_ok_bind, hintos]
      rfl
    · rw [List.mapM_cons, hback, except_ok_bind, hbacks]
      rfl

end ObjectProperty

/-- Canonical properties can be written, and read back the same. -/
theorem deserializeObjectProperties_of_canonical {props : List ObjectProperty}
    (h : ObjectProperty.CanonicalFrom 0 props) :
    ∃ out, serializeObjectProperties props = .ok out ∧
      deserializeObjectProperties out = .ok props := by
  obtain ⟨kvps, hinto, hback, hfrom⟩ := ObjectProperty.mapM_of_canonicalFrom h
  obtain ⟨out, hout, hread⟩ := hfrom.roundTrips
  refine ⟨out, ?_, ?_⟩
  · simp only [serializeObjectProperties, hinto, except_ok_bind, hout]
  · simp only [deserializeObjectProperties, hread, except_ok_bind, hback]

end Moqtail
