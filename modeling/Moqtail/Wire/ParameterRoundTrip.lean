import Moqtail.Wire.MessageParameter

/-! What is written of a parameter is read back, and what is read can be written again.

A parameter that was read takes no more bytes when it is written than it came in, with one
exception: a SWITCHING_SET_ASSIGNMENT may leave its rank out, and the writer puts it in. -/
namespace Moqtail

open Lib

/-! One Key-Value-Pair. -/

theorem LocationFilter.length_serialize_le {filter : LocationFilter} {out : Bytes}
    (h : filter.serialize = .ok out) : out.length ≤ 45 := by
  have hle := minimalViLength_le
  have hlocation (l : Location) : l.serialize.length ≤ 18 := by
    have := hle l.group
    have := hle l.object
    simp only [Location.serialize, List.length_append, length_putVi]
    omega
  cases filter with
  | none | nextObject =>
    cases h
    rw [length_putVi]
    exact le_trans (hle _) (by decide)
  | relativeStart startGroup =>
    cases h
    have := hle (LocationFilter.relativeStart startGroup).filterType.toU64
    have := hle startGroup
    simp only [List.length_append, length_putVi]
    omega
  | absoluteStart start =>
    cases h
    have := hle (LocationFilter.absoluteStart start).filterType.toU64
    have := hlocation start
    simp only [List.length_append, length_putVi]
    omega
  | absoluteStartGroupEnd start endGroup =>
    obtain ⟨delta, hdelta, hret⟩ := except_bind_eq_ok.mp h
    cases hret
    have := hle (LocationFilter.absoluteStartGroupEnd start endGroup).filterType.toU64
    have := hlocation start
    have := hle delta
    simp only [List.length_append, length_putVi]
    omega
  | absoluteRange start last =>
    obtain ⟨delta, hdelta, hret⟩ := except_bind_eq_ok.mp h
    cases hret
    have := hle (LocationFilter.absoluteRange start last).filterType.toU64
    have := hlocation start
    have := hle delta
    have := hle last.object
    simp only [List.length_append, length_putVi]
    omega

namespace KeyValuePair

/-- The Value is one that the layout of its Type can carry. -/
def Fits (kvp : KeyValuePair) : Prop :=
  match valueShape kvp.getType, kvp with
  | .uint8, varInt _ value => value.toNat ≤ 255
  | .varInt, varInt _ _ => True
  | .bareLocation, bytes _ value => ∃ l : Location, value = l.serialize
  | .locationFilter, bytes _ value => ∃ filter : LocationFilter, filter.serialize = .ok value
  | .lengthPrefixedBytes, bytes _ value => value.length ≤ maxValueLength
  | _, _ => False

theorem tryNewVarint_of_even {typeValue value : UInt64} (h : typeValue % 2 = 0) :
    tryNewVarint typeValue value = .ok (varInt typeValue value) := by
  rw [tryNewVarint, if_neg (not_not.mpr h)]

theorem fits_bytes_iff {typeValue : UInt64} {value : Bytes}
    (hshape : valueShape typeValue = .lengthPrefixedBytes) :
    (bytes typeValue value).Fits ↔ value.length ≤ maxValueLength := by
  simp only [Fits, getType, hshape]

/-- A Value that fits is written. -/
theorem Fits.serializes {kvp : KeyValuePair} (h : kvp.Fits) :
    ∃ out, serializeParameterValue kvp = .ok out := by
  unfold Fits at h
  unfold serializeParameterValue
  cases hshape : valueShape kvp.getType <;> rw [hshape] at h <;> cases kvp <;> first
    | exact h.elim
    | exact ⟨_, rfl⟩
    | exact ⟨_, if_pos h⟩

theorem deserializeBytesValue_reads {typeValue : UInt64} {value : Bytes}
    (h : value.length ≤ maxValueLength) :
    Reads (deserializeBytesValue · typeValue) (putLengthPrefixed value) (bytes typeValue value) := by
  intro tail
  have hlength : (UInt64.ofNat value.length).toNat = value.length :=
    toNat_ofNat_length (by unfold maxValueLength at h; omega)
  simp only [deserializeBytesValue, putLengthPrefixed, List.append_assoc, getVi_putVi,
    except_ok_bind, hlength]
  rw [if_neg (by omega)]
  simp [copyToBytes_append]

/-- A Value that fits is read back. -/
theorem Fits.reads {kvp : KeyValuePair} {out : Bytes} (h : kvp.Fits)
    (hout : serializeParameterValue kvp = .ok out) :
    Reads (readMessageParameterValue · kvp.getType) out kvp := by
  intro tail
  unfold Fits at h
  unfold serializeParameterValue at hout
  unfold readMessageParameterValue
  cases hshape : valueShape kvp.getType <;> rw [hshape] at h hout <;> cases kvp <;>
    first
      | exact h.elim
      | skip
  case varInt.varInt typeValue value =>
    cases hout
    simp only [getVi_putVi, except_ok_bind]
    rfl
  case uint8.varInt typeValue value =>
    replace h : value.toNat ≤ 255 := h
    simp only [if_pos h, Except.ok.injEq] at hout
    subst hout
    have hback : value.toUInt8.toUInt64 = value := by
      rw [← UInt64.toNat_inj, UInt8.toNat_toUInt64, UInt64.toNat_toUInt8]
      exact Nat.mod_eq_of_lt (by omega)
    simp only [List.cons_append, List.nil_append, hback]
    rfl
  case bareLocation.bytes typeValue value =>
    cases hout
    obtain ⟨l, rfl⟩ := h
    have hgroup := minimalViLength_le l.group
    have hobject := minimalViLength_le l.object
    have hlength : (putVi l.group ++ putVi l.object).length ≤ maxValueLength := by
      simp only [List.length_append, length_putVi]
      unfold maxValueLength
      omega
    simp only [Location.serialize, List.append_assoc, getVi_putVi, except_ok_bind]
    rw [newBytes_of_le hlength]
    rfl
  case locationFilter.bytes typeValue value =>
    cases hout
    obtain ⟨filter, hfilter⟩ := h
    have hlength := LocationFilter.length_serialize_le hfilter
    simp only [LocationFilter.deserialize_reads hfilter tail, hfilter, except_ok_bind]
    rw [newBytes_of_le (by unfold maxValueLength; omega)]
    rfl
  case lengthPrefixedBytes.bytes typeValue value =>
    cases hout
    exact deserializeBytesValue_reads h tail

/-- The Value that was read fits, and takes no more bytes than it came in. -/
theorem fits_of_read {bytes rest : Bytes} {typeValue : UInt64} {kvp : KeyValuePair}
    (h : readMessageParameterValue bytes typeValue = .ok (kvp, rest)) :
    kvp.getType = typeValue ∧ kvp.Fits ∧
      ∃ out, serializeParameterValue kvp = .ok out ∧ out.length + rest.length ≤ bytes.length := by
  unfold readMessageParameterValue at h
  split at h
  next hshape =>
    cases bytes with
    | nil => cases h
    | cons b bytes =>
      cases h
      have hfits : (varInt typeValue b.toUInt64).Fits := by
        simp only [Fits, getType, hshape]
        have := b.toNat_lt
        rw [UInt8.toNat_toUInt64]
        omega
      refine ⟨rfl, hfits, [b], ?_, by simp [Nat.add_comm]⟩
      have hvalue : b.toUInt64.toNat ≤ 255 := by
        have := b.toNat_lt
        rw [UInt8.toNat_toUInt64]
        omega
      simp only [serializeParameterValue, getType, hshape]
      rw [if_pos hvalue]
      simp
  next hshape =>
    obtain ⟨⟨group, left⟩, hgroup, h⟩ := except_bind_eq_ok.mp h
    obtain ⟨⟨object, left'⟩, hobject, h⟩ := except_bind_eq_ok.mp h
    obtain ⟨kvp', hnew, hret⟩ := except_bind_eq_ok.mp h
    cases hret
    obtain ⟨-, rfl⟩ := newBytes_eq_ok.mp hnew
    have hfirst : minimalViLength group + left.length ≤ bytes.length := (getVi_consumes hgroup).2
    have hsecond : minimalViLength object + rest.length ≤ left.length := (getVi_consumes hobject).2
    have hfits : (KeyValuePair.bytes typeValue (putVi group ++ putVi object)).Fits := by
      simp only [Fits, getType, hshape]
      exact ⟨⟨group, object⟩, rfl⟩
    refine ⟨rfl, hfits, putVi group ++ putVi object, ?_, ?_⟩
    · simp only [serializeParameterValue, getType, hshape]
    · simp only [List.length_append, length_putVi]
      omega
  next hshape =>
    obtain ⟨⟨filter, left⟩, hfilter, h⟩ := except_bind_eq_ok.mp h
    obtain ⟨value, hvalue, h⟩ := except_bind_eq_ok.mp h
    obtain ⟨kvp', hnew, hret⟩ := except_bind_eq_ok.mp h
    cases hret
    obtain ⟨-, rfl⟩ := newBytes_eq_ok.mp hnew
    obtain ⟨out, hout, hlength⟩ := LocationFilter.deserialize_rewrites hfilter
    rw [hvalue, Except.ok.injEq] at hout
    subst hout
    have hfits : (KeyValuePair.bytes typeValue value).Fits := by
      simp only [Fits, getType, hshape]
      exact ⟨filter, hvalue⟩
    refine ⟨rfl, hfits, value, ?_, hlength⟩
    simp only [serializeParameterValue, getType, hshape]
  next hshape =>
    obtain ⟨⟨len, left⟩, hlen, h⟩ := except_bind_eq_ok.mp h
    simp only at h
    split at h
    · cases h
    next hmax =>
      obtain ⟨⟨value, left'⟩, hcopy, hret⟩ := except_bind_eq_ok.mp h
      cases hret
      obtain ⟨hvalue, rfl⟩ := copyToBytes_eq_ok hcopy
      have hconsumed : minimalViLength len + (value ++ left').length ≤ bytes.length :=
        (getVi_consumes hlen).2
      have hofNat : UInt64.ofNat value.length = len := by rw [hvalue, UInt64.ofNat_toNat]
      have hfits : (KeyValuePair.bytes typeValue value).Fits := by
        simp only [Fits, getType, hshape]
        omega
      refine ⟨rfl, hfits, putLengthPrefixed value, ?_, ?_⟩
      · simp only [serializeParameterValue, getType, hshape]
      · simp only [putLengthPrefixed, hofNat, List.length_append, length_putVi] at hconsumed ⊢
        omega
  next hshape =>
    obtain ⟨⟨value, left⟩, hvalue, hret⟩ := except_bind_eq_ok.mp h
    cases hret
    have hfits : (varInt typeValue value).Fits := by
      simp only [Fits, getType, hshape]
    refine ⟨rfl, hfits, putVi value, ?_, ?_⟩
    · simp only [serializeParameterValue, getType, hshape]
    · rw [length_putVi]
      exact (getVi_consumes hvalue).2

end KeyValuePair

/-! One parameter. -/

/-- Parameters in the order their writer puts them in. -/
def sortParameters (params : List MessageParameter) : List MessageParameter :=
  params.insertionSort fun a b => a.typeValue ≤ b.typeValue

namespace MessageParameter

/-- What the fields of a parameter have to meet to be read back, and its writer does not
check. -/
def WellFormed : MessageParameter → Prop
  | authorizationToken token => token.WellFormed
  | switchingSetAssignment _ _ _ setThroughputWeight _ _ =>
    1 ≤ setThroughputWeight ∧ setThroughputWeight ≤ 10
  | _ => True

/-- The parameter as it is read back: the list in a FILL_PARAMETERS comes back sorted. -/
def canonical : MessageParameter → MessageParameter
  | fillParameters parameters => fillParameters (sortParameters parameters)
  | p => p

/-- The bytes by which a parameter can be longer than what it was read from. -/
def slack : MessageParameter → Nat
  | switchingSetAssignment _ _ _ _ _ _ => 1
  | _ => 0

/-- A pair is a Value that fits the Type of `p`, and is read as `p'`. -/
structure Carries (read : KeyValuePair → Parse MessageParameter) (kvp : KeyValuePair)
    (p p' : MessageParameter) : Prop where
  fits : kvp.Fits
  getType : kvp.getType = p.typeValue
  reads : read kvp = .ok p'

section Leaf

variable {fill : Bytes → Parse MessageParameter} {list : List MessageParameter → Parse Bytes}
  {p : MessageParameter}

theorem carries_varInt {t : MessageParameterType} {value : UInt64} (hp : p.parameterType = t)
    (hshape : valueShape t.toU64 = .varInt) (hread : deserializeVarInt t.toU64 value = .ok p) :
    Carries (deserializeWith fill) (.varInt t.toU64 value) p p where
  fits := by simp only [KeyValuePair.Fits, KeyValuePair.getType, hshape]
  getType := by rw [typeValue, hp]; rfl
  reads := hread

theorem carries_uint8 {t : MessageParameterType} {value : UInt64} (hp : p.parameterType = t)
    (hshape : valueShape t.toU64 = .uint8) (hvalue : value.toNat ≤ 255)
    (hread : deserializeVarInt t.toU64 value = .ok p) :
    Carries (deserializeWith fill) (.varInt t.toU64 value) p p where
  fits := by
    simp only [KeyValuePair.Fits, KeyValuePair.getType, hshape]
    exact hvalue
  getType := by rw [typeValue, hp]; rfl
  reads := hread

theorem carries_bytes {t : MessageParameterType} {value : Bytes} {kvp : KeyValuePair}
    (hp : p.parameterType = t) (hshape : valueShape t.toU64 = .lengthPrefixedBytes)
    (hread : deserializeBytes fill t.toU64 value = .ok p)
    (hnew : KeyValuePair.newBytes t.toU64 value = .ok kvp) :
    Carries (deserializeWith fill) kvp p p := by
  obtain ⟨hlength, rfl⟩ := KeyValuePair.newBytes_eq_ok.mp hnew
  refine ⟨?_, ?_, hread⟩
  · simp only [KeyValuePair.Fits, KeyValuePair.getType, hshape]
    exact hlength
  · rw [typeValue, hp]
    rfl

theorem deserializeSwitchFrom_reads (requestId : UInt64) (mode : SwitchMode) (publishDone : Bool) :
    deserializeSwitchFrom (putVi requestId ++ putVi mode.toU64 ++
      [if publishDone then switchFromPublishDone else 0]) =
        .ok (switchFrom requestId mode publishDone) := by
  simp only [deserializeSwitchFrom, List.append_assoc, getVi_putVi, except_ok_bind,
    SwitchMode.tryFrom_toU64]
  cases publishDone <;> rfl

theorem deserializeSwitchingSetAssignment_reads
    (setId algorithmId threshold weight activate : UInt64) (rank : UInt8)
    (hweight : 1 ≤ weight ∧ weight ≤ 10) :
    deserializeSwitchingSetAssignment (putVi setId ++ putVi algorithmId ++ putVi threshold ++
      putVi weight ++ putVi activate ++ [rank]) =
        .ok (switchingSetAssignment setId algorithmId threshold weight activate rank) := by
  simp only [deserializeSwitchingSetAssignment, List.append_assoc, getVi_putVi, except_ok_bind]
  rw [if_neg (not_not.mpr hweight)]
  rfl

theorem deserializeRangeFilter_reads {kind : RangeFilterKind} {filter : RangeFilter} {value : Bytes}
    (hkind : kind.hasPropertyType = filter.propertyType.isSome) (h : filter.serialize = .ok value) :
    deserializeRangeFilter kind value = .ok (rangeFilter kind (some filter)) := by
  have hne : value.isEmpty = false := by
    obtain ⟨deltas, hdeltas, hret⟩ := except_bind_eq_ok.mp h
    cases hret
    rfl
  rw [deserializeRangeFilter, hne, if_neg (by decide),
    RangeFilter.deserialize_serialize hkind h, except_ok_bind]
  rfl

theorem deserializeBytes_rangeFilter (kind : RangeFilterKind) (value : Bytes) :
    deserializeBytes fill kind.parameterType.toU64 value = deserializeRangeFilter kind value := by
  cases kind <;> rfl

theorem valueShape_rangeFilter (kind : RangeFilterKind) :
    valueShape kind.parameterType.toU64 = .lengthPrefixedBytes := by
  cases kind <;> rfl

/-- What is written of a parameter other than FILL_PARAMETERS is read back. -/
theorem carries_of_toKeyValuePairWith {kvp : KeyValuePair} (hwf : p.WellFormed)
    (hleaf : p.parameterType ≠ .fillParameters) (h : toKeyValuePairWith list p = .ok kvp) :
    Carries (deserializeWith fill) kvp p p := by
  cases p with
  | objectDeliveryTimeout value | subgroupDeliveryTimeout value | rendezvousTimeout value
  | fillTimeout value | expires value | newGroupRequest value =>
    rw [toKeyValuePairWith, KeyValuePair.tryNewVarint_of_even (by decide)] at h
    cases h
    exact carries_varInt rfl (by decide) rfl
  | forward value =>
    rw [toKeyValuePairWith, KeyValuePair.tryNewVarint_of_even (by decide)] at h
    cases h
    cases value <;> exact carries_uint8 rfl (by decide) (by decide) rfl
  | includeProperties value =>
    cases h
    cases value <;> exact carries_uint8 rfl (by decide) (by decide) rfl
  | subscriberPriority value =>
    rw [toKeyValuePairWith, KeyValuePair.tryNewVarint_of_even (by decide)] at h
    cases h
    have hvalue : value.toUInt64.toNat ≤ 255 := by
      have := value.toNat_lt
      rw [UInt8.toNat_toUInt64]
      omega
    refine carries_uint8 rfl (by decide) hvalue ?_
    simp only [deserializeVarInt, MessageParameterType.tryFrom_toU64]
    rw [if_neg (by rw [gt_iff_lt, UInt64.lt_iff_toNat_lt]; exact not_lt.mpr hvalue)]
    simp
  | groupOrder order =>
    cases order <;>
      · rw [toKeyValuePairWith, KeyValuePair.tryNewVarint_of_even (by decide)] at h
        cases h
        exact carries_uint8 rfl (by decide) (by decide) rfl
  | authorizationToken token =>
    obtain ⟨payload, hpayload, hnew⟩ := except_bind_eq_ok.mp h
    rw [KeyValuePair.tryNewBytes_of_odd (by decide)] at hnew
    refine carries_bytes (t := .authorizationToken) rfl (by decide) ?_ hnew
    simp only [deserializeBytes, MessageParameterType.tryFrom_toU64,
      AuthorizationToken.deserialize_serialize hwf hpayload, except_ok_bind]
    rfl
  | largestObject location =>
    rw [toKeyValuePairWith, KeyValuePair.tryNewBytes_of_odd (by decide)] at h
    obtain ⟨-, rfl⟩ := KeyValuePair.newBytes_eq_ok.mp h
    have hread := location.deserialize_reads []
    rw [List.append_nil] at hread
    refine ⟨⟨location, rfl⟩, rfl, ?_⟩
    simp only [deserializeWith, deserializeBytes, MessageParameterType.tryFrom_toU64, hread,
      except_ok_bind]
    rfl
  | switchFrom requestId mode publishDone =>
    exact carries_bytes (t := .switchFrom) rfl (by decide) (deserializeSwitchFrom_reads requestId mode publishDone) h
  | fillParameters parameters => exact absurd rfl hleaf
  | locationFilter filter =>
    obtain ⟨value, hvalue, hnew⟩ := except_bind_eq_ok.mp h
    obtain ⟨-, rfl⟩ := KeyValuePair.newBytes_eq_ok.mp hnew
    have hread := LocationFilter.deserialize_reads hvalue []
    rw [List.append_nil] at hread
    refine ⟨⟨filter, hvalue⟩, rfl, ?_⟩
    simp only [deserializeWith, deserializeBytes, MessageParameterType.tryFrom_toU64, hread,
      except_ok_bind]
    rfl
  | rangeFilter kind filter =>
    cases filter with
    | none =>
      refine carries_bytes (t := kind.parameterType) rfl (valueShape_rangeFilter kind) ?_ h
      rw [deserializeBytes_rangeFilter]
      rfl
    | some filter =>
      rw [toKeyValuePairWith] at h
      split at h
      · cases h
      next hkind =>
        obtain ⟨value, hvalue, hnew⟩ := except_bind_eq_ok.mp h
        refine carries_bytes (t := kind.parameterType) rfl (valueShape_rangeFilter kind) ?_ hnew
        rw [deserializeBytes_rangeFilter]
        exact deserializeRangeFilter_reads (not_not.mp hkind) hvalue
  | trackNamespacePrefix tuple =>
    have hlength := (KeyValuePair.newBytes_eq_ok.mp h).1
    have hread := Tuple.deserialize_reads
      (by unfold maxValueLength at hlength; omega : tuple.serialize.length < 2 ^ 64) []
    rw [List.append_nil] at hread
    refine carries_bytes (t := .trackNamespacePrefix) rfl (by decide) ?_ h
    simp only [deserializeBytes, MessageParameterType.tryFrom_toU64, hread, except_ok_bind]
    rfl
  | switchingSetAssignment setId algorithmId threshold weight activate rank =>
    rw [toKeyValuePairWith, KeyValuePair.tryNewBytes_of_odd (by decide)] at h
    refine carries_bytes (t := .switchingSetAssignment) rfl (by decide) ?_ h
    exact deserializeSwitchingSetAssignment_reads _ _ _ _ _ _ hwf

/-- What was read as `p` can be written again, in no more bytes but for its slack. -/
structure Rewritten (toPair : MessageParameter → Parse KeyValuePair) (kvp : KeyValuePair)
    (p : MessageParameter) : Prop where
  wellFormed : p.WellFormed
  canonical : p.canonical = p
  getType : p.typeValue = kvp.getType
  writes : ∃ kvp', toPair p = .ok kvp' ∧ kvp'.getType = kvp.getType ∧
    ∀ out, serializeParameterValue kvp = .ok out →
      ∃ out', serializeParameterValue kvp' = .ok out' ∧ out'.length ≤ out.length + p.slack

theorem rewritten_same {kvp : KeyValuePair} (hwf : p.WellFormed) (hcanonical : p.canonical = p)
    (htype : p.typeValue = kvp.getType) (h : toKeyValuePairWith list p = .ok kvp) :
    Rewritten (toKeyValuePairWith list) kvp p where
  wellFormed := hwf
  canonical := hcanonical
  getType := htype
  writes := ⟨kvp, h, rfl, fun out hout => ⟨out, hout, Nat.le_add_right _ _⟩⟩

theorem length_putLengthPrefixed_le {value value' : Bytes} (hle : value'.length ≤ value.length)
    (hmax : value.length ≤ maxValueLength) :
    (putLengthPrefixed value').length ≤ (putLengthPrefixed value).length := by
  unfold maxValueLength at hmax
  have hmono : UInt64.ofNat value'.length ≤ UInt64.ofNat value.length := by
    rw [UInt64.le_iff_toNat_le, toNat_ofNat_length (by omega), toNat_ofNat_length (by omega)]
    exact hle
  have := minimalViLength_mono hmono
  simp only [putLengthPrefixed, List.length_append, length_putVi]
  omega

theorem serializeParameterValue_bytes {t : MessageParameterType} {value : Bytes}
    (hshape : valueShape t.toU64 = .lengthPrefixedBytes) :
    serializeParameterValue (.bytes t.toU64 value) = .ok (putLengthPrefixed value) := by
  simp only [serializeParameterValue, KeyValuePair.getType, hshape]

theorem rewritten_bytes {t : MessageParameterType} {value value' : Bytes} (hwf : p.WellFormed)
    (hcanonical : p.canonical = p) (hp : p.parameterType = t)
    (hshape : valueShape t.toU64 = .lengthPrefixedBytes) (hle : value'.length ≤ value.length)
    (hmax : value.length ≤ maxValueLength)
    (h : toKeyValuePairWith list p = KeyValuePair.newBytes t.toU64 value') :
    Rewritten (toKeyValuePairWith list) (.bytes t.toU64 value) p where
  wellFormed := hwf
  canonical := hcanonical
  getType := by rw [typeValue, hp]; rfl
  writes := by
    refine ⟨.bytes t.toU64 value', ?_, rfl, fun out hout => ?_⟩
    · rw [h, KeyValuePair.newBytes_of_le (le_trans hle hmax)]
    · rw [serializeParameterValue_bytes hshape] at hout ⊢
      cases hout
      have := length_putLengthPrefixed_le hle hmax
      exact ⟨_, rfl, by omega⟩

theorem rewritten_of_deserializeVarInt {typeValue value : UInt64}
    (h : deserializeVarInt typeValue value = .ok p) :
    Rewritten (toKeyValuePairWith list) (.varInt typeValue value) p := by
  cases htype : MessageParameterType.tryFrom typeValue with
  | error e =>
    rw [deserializeVarInt, htype] at h
    cases h
  | ok t =>
    have hvalue := MessageParameterType.toU64_of_tryFrom htype
    subst hvalue
    simp only [deserializeVarInt, MessageParameterType.tryFrom_toU64] at h
    cases t with
    | objectDeliveryTimeout | subgroupDeliveryTimeout | rendezvousTimeout | fillTimeout | expires
    | newGroupRequest =>
      cases h
      exact rewritten_same trivial rfl rfl (KeyValuePair.tryNewVarint_of_even (by decide))
    | forward =>
      simp only at h
      split_ifs at h with hzero hone
      · cases h
        subst hzero
        exact rewritten_same trivial rfl rfl (KeyValuePair.tryNewVarint_of_even (by decide))
      · cases h
        subst hone
        exact rewritten_same trivial rfl rfl (KeyValuePair.tryNewVarint_of_even (by decide))
    | includeProperties =>
      simp only at h
      split_ifs at h with hzero hone
      · cases h
        subst hzero
        exact rewritten_same trivial rfl rfl rfl
      · cases h
        subst hone
        exact rewritten_same trivial rfl rfl rfl
    | subscriberPriority =>
      simp only at h
      split_ifs at h with hlarge
      cases h
      refine rewritten_same trivial rfl rfl ?_
      have hback : value.toUInt8.toUInt64 = value := by
        rw [gt_iff_lt, UInt64.lt_iff_toNat_lt, not_lt] at hlarge
        rw [← UInt64.toNat_inj, UInt8.toNat_toUInt64, UInt64.toNat_toUInt8]
        exact Nat.mod_eq_of_lt (lt_of_le_of_lt hlarge (by decide))
      rw [toKeyValuePairWith, KeyValuePair.tryNewVarint_of_even (by decide), hback]
    | groupOrder =>
      simp only at h
      split_ifs at h with hzero hone htwo
      · cases h
        subst hzero
        exact rewritten_same trivial rfl rfl (KeyValuePair.tryNewVarint_of_even (by decide))
      · cases h
        subst hone
        exact rewritten_same trivial rfl rfl (KeyValuePair.tryNewVarint_of_even (by decide))
      · cases h
        subst htwo
        exact rewritten_same trivial rfl rfl (KeyValuePair.tryNewVarint_of_even (by decide))
    | _ => cases h

theorem rewritten_of_deserializeSwitchFrom {value : Bytes} (hmax : value.length ≤ maxValueLength)
    (h : deserializeSwitchFrom value = .ok p) :
    Rewritten (toKeyValuePairWith list) (.bytes MessageParameterType.switchFrom.toU64 value) p := by
  obtain ⟨⟨requestId, left⟩, hid, h⟩ := except_bind_eq_ok.mp h
  obtain ⟨⟨rawMode, left'⟩, hraw, h⟩ := except_bind_eq_ok.mp h
  obtain ⟨mode, hmode, h⟩ := except_bind_eq_ok.mp h
  have hfirst : minimalViLength requestId + left.length ≤ value.length := (getVi_consumes hid).2
  have hsecond : minimalViLength rawMode + left'.length ≤ left.length := (getVi_consumes hraw).2
  simp only at h
  split at h
  · cases h
  next flags payload =>
    split at h
    · cases h
    next hreserved =>
      simp only [except_pure] at h
      split at h
      · cases h
      next hempty =>
        cases h
        rw [SwitchMode.toU64_of_tryFrom hmode] at hsecond
        rw [List.length_cons] at hsecond
        refine rewritten_bytes trivial rfl rfl (by decide) ?_ hmax rfl
        simp only [List.length_append, List.length_cons, List.length_nil, length_putVi]
        omega

theorem rewritten_of_deserializeSwitchingSetAssignment {value : Bytes}
    (h : deserializeSwitchingSetAssignment value = .ok p) :
    Rewritten (toKeyValuePairWith list)
      (.bytes MessageParameterType.switchingSetAssignment.toU64 value) p := by
  obtain ⟨⟨setId, afterSet⟩, hset, h⟩ := except_bind_eq_ok.mp h
  obtain ⟨⟨algorithmId, afterAlgorithm⟩, halgorithm, h⟩ := except_bind_eq_ok.mp h
  obtain ⟨⟨threshold, afterThreshold⟩, hthreshold, h⟩ := except_bind_eq_ok.mp h
  obtain ⟨⟨weight, afterWeight⟩, hweight, h⟩ := except_bind_eq_ok.mp h
  have hfirst : minimalViLength setId + afterSet.length ≤ value.length := (getVi_consumes hset).2
  have hsecond : minimalViLength algorithmId + afterAlgorithm.length ≤ afterSet.length :=
    (getVi_consumes halgorithm).2
  have hthird : minimalViLength threshold + afterThreshold.length ≤ afterAlgorithm.length :=
    (getVi_consumes hthreshold).2
  have hfourth : minimalViLength weight + afterWeight.length ≤ afterThreshold.length :=
    (getVi_consumes hweight).2
  simp only at h
  split at h
  · cases h
  next hrange =>
    obtain ⟨⟨activate, payload⟩, hactivate, h⟩ := except_bind_eq_ok.mp h
    have hfifth : minimalViLength activate + payload.length ≤ afterWeight.length :=
      (getVi_consumes hactivate).2
    simp only at h
    split at h
    · cases h
    next hexcess =>
      cases h
      -- five varints and a byte: far from any bound, and their length takes one byte
      have hshort : minimalViLength setId + minimalViLength algorithmId +
          minimalViLength threshold + minimalViLength weight + minimalViLength activate + 1 ≤ 46 := by
        have := minimalViLength_le setId
        have := minimalViLength_le algorithmId
        have := minimalViLength_le threshold
        have := minimalViLength_le weight
        have := minimalViLength_le activate
        omega
      refine ⟨not_not.mp hrange, rfl, rfl,
        .bytes MessageParameterType.switchingSetAssignment.toU64 (putVi setId ++ putVi algorithmId ++ putVi threshold ++ putVi weight ++
          putVi activate ++ [payload.head?.getD 0]), ?_, rfl, ?_⟩
      · rw [toKeyValuePairWith, KeyValuePair.tryNewBytes_of_odd (by decide)]
        apply KeyValuePair.newBytes_of_le
        simp only [List.length_append, List.length_cons, List.length_nil, length_putVi]
        unfold maxValueLength
        omega
      · intro out hout
        rw [serializeParameterValue_bytes (by decide)] at hout ⊢
        cases hout
        refine ⟨_, rfl, ?_⟩
        have hrequested := minimalViLength_pos (UInt64.ofNat value.length)
        have hone : ∀ n, n ≤ 46 → minimalViLength (UInt64.ofNat n) = 1 := by decide
        simp only [putLengthPrefixed, List.length_append, List.length_cons, List.length_nil,
          length_putVi, slack]
        rw [hone _ (by omega)]
        omega

theorem rewritten_of_deserializeRangeFilter {kind : RangeFilterKind} {value : Bytes}
    (hmax : value.length ≤ maxValueLength) (h : deserializeRangeFilter kind value = .ok p) :
    Rewritten (toKeyValuePairWith list) (.bytes kind.parameterType.toU64 value) p := by
  unfold deserializeRangeFilter at h
  split at h
  · cases h
    exact rewritten_bytes trivial rfl rfl (valueShape_rangeFilter kind) (Nat.zero_le _) hmax rfl
  · obtain ⟨filter, hfilter, hret⟩ := except_bind_eq_ok.mp h
    cases hret
    obtain ⟨hkind, out, hout, hlength⟩ := RangeFilter.deserialize_rewrites hfilter
    refine rewritten_bytes trivial rfl rfl (valueShape_rangeFilter kind) hlength hmax ?_
    rw [toKeyValuePairWith, if_neg (not_not.mpr hkind), hout]
    rfl

/-- What was read of a parameter other than FILL_PARAMETERS can be written again. -/
theorem rewritten_of_deserializeWith {kvp : KeyValuePair} (hfits : kvp.Fits)
    (hleaf : kvp.getType ≠ MessageParameterType.fillParameters.toU64)
    (h : deserializeWith fill kvp = .ok p) : Rewritten (toKeyValuePairWith list) kvp p := by
  cases kvp with
  | varInt typeValue value => exact rewritten_of_deserializeVarInt h
  | bytes typeValue value =>
    replace h : deserializeBytes fill typeValue value = .ok p := h
    cases htype : MessageParameterType.tryFrom typeValue with
    | error e =>
      rw [deserializeBytes, htype] at h
      cases h
    | ok t =>
      have hvalue := MessageParameterType.toU64_of_tryFrom htype
      subst hvalue
      have hshort (hshape : valueShape t.toU64 = .lengthPrefixedBytes) :
          value.length ≤ maxValueLength :=
        (KeyValuePair.fits_bytes_iff hshape).mp hfits
      simp only [deserializeBytes, MessageParameterType.tryFrom_toU64] at h
      cases t with
      | authorizationToken =>
        obtain ⟨token, htoken, hret⟩ := except_bind_eq_ok.mp h
        cases hret
        obtain ⟨hwf, out, hout, hlength⟩ := AuthorizationToken.deserialize_rewrites htoken
        refine rewritten_bytes hwf rfl rfl (by decide) hlength (hshort (by decide)) ?_
        rw [toKeyValuePairWith, hout, except_ok_bind, KeyValuePair.tryNewBytes_of_odd (by decide)]
      | largestObject =>
        obtain ⟨⟨location, payload⟩, hlocation, hret⟩ := except_bind_eq_ok.mp h
        cases hret
        obtain ⟨l, rfl⟩ : ∃ l : Location, value = l.serialize := hfits
        have hread := l.deserialize_reads []
        rw [List.append_nil, hlocation, Except.ok.injEq, Prod.mk.injEq] at hread
        obtain ⟨rfl, -⟩ := hread
        have hgroup := minimalViLength_le location.group
        have hobject := minimalViLength_le location.object
        refine rewritten_same trivial rfl rfl ?_
        rw [toKeyValuePairWith, KeyValuePair.tryNewBytes_of_odd (by decide)]
        apply KeyValuePair.newBytes_of_le
        simp only [Location.serialize, List.length_append, length_putVi]
        unfold maxValueLength
        omega
      | trackNamespacePrefix =>
        obtain ⟨⟨tuple, payload⟩, htuple, h⟩ := except_bind_eq_ok.mp h
        simp only at h
        split at h
        · cases h
        · cases h
          have hlength := Tuple.deserialize_rewrites htuple
          exact rewritten_bytes trivial rfl rfl (by decide) (by omega) (hshort (by decide)) rfl
      | fillParameters => exact absurd rfl hleaf
      | switchFrom => exact rewritten_of_deserializeSwitchFrom (hshort (by decide)) h
      | switchingSetAssignment => exact rewritten_of_deserializeSwitchingSetAssignment h
      | subgroupFilter => exact rewritten_of_deserializeRangeFilter (hshort (by decide)) h
      | objectIdFilter => exact rewritten_of_deserializeRangeFilter (hshort (by decide)) h
      | priorityFilter => exact rewritten_of_deserializeRangeFilter (hshort (by decide)) h
      | objectPropertyFilter => exact rewritten_of_deserializeRangeFilter (hshort (by decide)) h
      | trackPropertyFilter => exact rewritten_of_deserializeRangeFilter (hshort (by decide)) h
      | locationFilter =>
        obtain ⟨⟨filter, payload⟩, hfilter, h⟩ := except_bind_eq_ok.mp h
        simp only at h
        split at h
        · cases h
        · cases h
          obtain ⟨written, hwritten⟩ : ∃ f : LocationFilter, f.serialize = .ok value := hfits
          have hread := LocationFilter.deserialize_reads hwritten []
          rw [List.append_nil, hfilter, Except.ok.injEq, Prod.mk.injEq] at hread
          obtain ⟨rfl, -⟩ := hread
          have hlength := LocationFilter.length_serialize_le hwritten
          refine rewritten_same trivial rfl rfl ?_
          rw [toKeyValuePairWith, hwritten, except_ok_bind]
          exact KeyValuePair.newBytes_of_le (by unfold maxValueLength; omega)
      | _ => cases h

end Leaf

end MessageParameter

/-! Lists of parameters. -/

theorem nextType_sub {context : String} {prevType typeValue : UInt64} (h : prevType ≤ typeValue) :
    nextType context prevType (typeValue - prevType) = .ok typeValue := by
  have hle := UInt64.le_iff_toNat_le.mp h
  have hlt := typeValue.toNat_lt
  rw [nextType, if_pos, UInt64.add_comm, UInt64.sub_add_cancel]
  rw [UInt64.toNat_sub_of_le _ _ h]
  omega

theorem nextType_eq_ok {context : String} {prevType deltaType typeValue : UInt64}
    (h : nextType context prevType deltaType = .ok typeValue) :
    prevType ≤ typeValue ∧ typeValue - prevType = deltaType := by
  unfold nextType at h
  split at h
  next hsum =>
    cases h
    constructor
    · rw [UInt64.le_iff_toNat_le, UInt64.toNat_add, Nat.mod_eq_of_lt hsum]
      omega
    · rw [UInt64.add_comm, UInt64.add_sub_cancel]
  · cases h

/-- What was written of some pairs: they ascend, and each of them took its delta and its Value. -/
theorem serializeParametersFrom_cons_eq_ok {prevType : UInt64} {kvp : KeyValuePair}
    {rest : List KeyValuePair} {out : Bytes}
    (h : serializeParametersFrom prevType (kvp :: rest) = .ok out) :
    prevType ≤ kvp.getType ∧ ∃ value tail, serializeParameterValue kvp = .ok value ∧
      serializeParametersFrom kvp.getType rest = .ok tail ∧
        out = putVi (kvp.getType - prevType) ++ value ++ tail := by
  unfold serializeParametersFrom at h
  split at h
  · cases h
  next hle =>
    obtain ⟨value, hvalue, h⟩ := except_bind_eq_ok.mp h
    obtain ⟨tail, htail, hret⟩ := except_bind_eq_ok.mp h
    cases hret
    exact ⟨UInt64.not_lt.mp hle, value, tail, hvalue, htail, rfl⟩

theorem serializeParametersFrom_cons {prevType : UInt64} {kvp : KeyValuePair}
    {rest : List KeyValuePair} {value tail : Bytes} (hle : prevType ≤ kvp.getType)
    (hvalue : serializeParameterValue kvp = .ok value)
    (htail : serializeParametersFrom kvp.getType rest = .ok tail) :
    serializeParametersFrom prevType (kvp :: rest) =
      .ok (putVi (kvp.getType - prevType) ++ value ++ tail) := by
  rw [serializeParametersFrom, if_neg (UInt64.not_lt.mpr hle), hvalue]
  simp only [except_ok_bind, htail, except_pure]

theorem length_le_serializeParametersFrom (kvps : List KeyValuePair) :
    ∀ (prevType : UInt64) (out : Bytes), serializeParametersFrom prevType kvps = .ok out →
      kvps.length ≤ out.length := by
  induction kvps with
  | nil => exact fun _ _ _ => Nat.zero_le _
  | cons kvp rest ih =>
    intro prevType out h
    obtain ⟨-, value, tail, -, htail, rfl⟩ := serializeParametersFrom_cons_eq_ok h
    have hrest := ih _ _ htail
    have hdelta := minimalViLength_pos (kvp.getType - prevType)
    simp only [List.length_cons, List.length_append, length_putVi]
    omega

section Loop

variable {turn : UInt64 → Decoder ParseError (UInt64 × MessageParameter)}

/-- Pairs in ascending order are read back by a loop each turn of which reads one back. -/
theorem readsTimes_of_serializeParametersFrom {R : KeyValuePair → MessageParameter → Prop}
    (hturn : ∀ prevType kvp p value, R kvp p → prevType ≤ kvp.getType →
      serializeParameterValue kvp = .ok value →
        Reads (turn prevType) (putVi (kvp.getType - prevType) ++ value) (kvp.getType, p))
    {kvps : List KeyValuePair} {params : List MessageParameter} (hall : List.Forall₂ R kvps params) :
    ∀ (prevType : UInt64) (out : Bytes), serializeParametersFrom prevType kvps = .ok out →
      ReadsTimes turn prevType params out := by
  induction hall with
  | nil =>
    intro prevType out h
    cases h
    exact .nil _
  | cons hone hrest ih =>
    intro prevType out h
    obtain ⟨hle, value, tail, hvalue, htail, rfl⟩ := serializeParametersFrom_cons_eq_ok h
    exact .cons (hturn _ _ _ _ hone hle hvalue) (ih _ _ htail)

/-- What a loop has read can be written again, if that is so of each of its turns. -/
theorem rewrites_of_decodeTimes {toPair : MessageParameter → Parse KeyValuePair}
    {Q : MessageParameter → Prop}
    (hturn : ∀ prevType bytes typeValue p rest, turn prevType bytes = .ok ((typeValue, p), rest) →
      Q p ∧ prevType ≤ typeValue ∧ ∃ kvp value, kvp.getType = typeValue ∧
        MessageParameter.Rewritten toPair kvp p ∧ serializeParameterValue kvp = .ok value ∧
          minimalViLength (typeValue - prevType) + value.length + rest.length ≤ bytes.length)
    (n : Nat) : ∀ (prevType : UInt64) (bytes rest : Bytes) (params : List MessageParameter),
      decodeTimes turn n prevType bytes = .ok (params, rest) →
        params.length = n ∧ (∀ p ∈ params, Q p ∧ p.WellFormed ∧ p.canonical = p) ∧
          ∃ kvps out, List.Forall₂ (fun p kvp => toPair p = .ok kvp ∧ kvp.getType = p.typeValue)
              params kvps ∧ serializeParametersFrom prevType kvps = .ok out ∧
            out.length + rest.length ≤ bytes.length + (params.map MessageParameter.slack).sum := by
  induction n with
  | zero =>
    intro prevType bytes rest params h
    cases h
    exact ⟨rfl, by simp, [], [], .nil, rfl, by simp⟩
  | succ n ih =>
    intro prevType bytes rest params h
    obtain ⟨typeValue, p, left, more, hone, hmore, rfl⟩ := decodeTimes_succ_eq_ok h
    obtain ⟨hQ, hle, kvp, value, rfl, hrewritten, hvalue, hlength⟩ := hturn _ _ _ _ _ hone
    obtain ⟨hcount, hgood, kvps, out, hkvps, hout, hbound⟩ := ih _ _ _ _ hmore
    obtain ⟨kvp', hpair, htype, hwrites⟩ := hrewritten.writes
    obtain ⟨value', hvalue', hshort⟩ := hwrites value hvalue
    refine ⟨by rw [List.length_cons, hcount], ?_, kvp' :: kvps,
      putVi (kvp'.getType - prevType) ++ value' ++ out, ?_, ?_, ?_⟩
    · rw [List.forall_mem_cons]
      exact ⟨⟨hQ, hrewritten.wellFormed, hrewritten.canonical⟩, hgood⟩
    · exact .cons ⟨hpair, by rw [htype, hrewritten.getType]⟩ hkvps
    · exact serializeParametersFrom_cons (htype ▸ hle) hvalue' (htype ▸ hout)
    · simp only [List.length_append, length_putVi, htype, List.map_cons, List.sum_cons]
      omega

end Loop

/-- Pairs that have been written in their order are sorted. -/
theorem pairwise_of_serializeParametersFrom (kvps : List KeyValuePair) :
    ∀ (prevType : UInt64) (out : Bytes), serializeParametersFrom prevType kvps = .ok out →
      kvps.Pairwise (fun a b => a.getType ≤ b.getType) ∧ ∀ kvp ∈ kvps, prevType ≤ kvp.getType := by
  induction kvps with
  | nil => intro _ _ _; simp
  | cons kvp rest ih =>
    intro prevType out h
    obtain ⟨hle, value, tail, -, htail, -⟩ := serializeParametersFrom_cons_eq_ok h
    obtain ⟨hpairwise, hall⟩ := ih _ _ htail
    refine ⟨List.pairwise_cons.mpr ⟨hall, hpairwise⟩, ?_⟩
    rw [List.forall_mem_cons]
    exact ⟨hle, fun other hmem => UInt64.le_trans hle (hall other hmem)⟩

theorem forall₂_sort {R : MessageParameter → KeyValuePair → Prop}
    (hR : ∀ p kvp, R p kvp → kvp.getType = p.typeValue) {params : List MessageParameter}
    {kvps : List KeyValuePair} (h : List.Forall₂ R params kvps) :
    List.Forall₂ R (sortParameters params) (sortByType kvps) :=
  forall₂_insertionSort (fun _ _ _ _ hab hab' => by rw [hR _ _ hab, hR _ _ hab']) h

/-- Parameters whose pairs have been written in their order are sorted too. -/
theorem sortParameters_of_written {R : MessageParameter → KeyValuePair → Prop}
    (hR : ∀ p kvp, R p kvp → kvp.getType = p.typeValue) {params : List MessageParameter}
    {kvps : List KeyValuePair} (h : List.Forall₂ R params kvps) {out : Bytes}
    (hout : serializeParametersFrom 0 kvps = .ok out) :
    sortByType kvps = kvps ∧ sortParameters params = params := by
  have hkvps := (pairwise_of_serializeParametersFrom kvps 0 out hout).1
  refine ⟨List.Pairwise.insertionSort_eq hkvps, List.Pairwise.insertionSort_eq ?_⟩
  refine pairwise_of_forall₂ (fun p p' kvp kvp' hp hp' hle => ?_) h hkvps
  rw [hR _ _ hp, hR _ _ hp'] at hle
  exact hle

/-! FILL_PARAMETERS. -/

namespace MessageParameter

theorem readFillParameter_reads {read : KeyValuePair → Parse MessageParameter} {prevType : UInt64}
    {kvp : KeyValuePair} {p p' : MessageParameter} {value : Bytes} (hcarries : Carries read kvp p p')
    (hvalid : isValidFillParameter p.typeValue = true) (hle : prevType ≤ kvp.getType)
    (hvalue : serializeParameterValue kvp = .ok value) :
    Reads (readFillParameter read prevType) (putVi (kvp.getType - prevType) ++ value)
      (kvp.getType, p') := by
  intro tail
  rw [← hcarries.getType] at hvalid
  simp only [readFillParameter, List.append_assoc, getVi_putVi, except_ok_bind, nextType_sub hle,
    hvalid, hcarries.fits.reads hvalue tail, hcarries.reads]
  rfl

theorem readFillParameter_rewrites {prevType : UInt64} {bytes : Bytes} {typeValue : UInt64}
    {p : MessageParameter} {rest : Bytes}
    (h : readFillParameter deserializeInFill prevType bytes = .ok ((typeValue, p), rest)) :
    isValidFillParameter p.typeValue = true ∧ prevType ≤ typeValue ∧
      ∃ kvp value, kvp.getType = typeValue ∧ Rewritten toKeyValuePairInFill kvp p ∧
        serializeParameterValue kvp = .ok value ∧
          minimalViLength (typeValue - prevType) + value.length + rest.length ≤ bytes.length := by
  obtain ⟨⟨deltaType, left⟩, hdelta, h⟩ := except_bind_eq_ok.mp h
  obtain ⟨typeValue', htype, h⟩ := except_bind_eq_ok.mp h
  have hconsumed : minimalViLength deltaType + left.length ≤ bytes.length := (getVi_consumes hdelta).2
  simp only at h
  split at h
  · cases h
  next hvalid =>
    obtain ⟨⟨kvp, left'⟩, hread, h⟩ := except_bind_eq_ok.mp h
    obtain ⟨p', hp, hret⟩ := except_bind_eq_ok.mp h
    cases hret
    obtain ⟨hle, hsub⟩ := nextType_eq_ok htype
    obtain ⟨hget, hfits, value, hvalue, hlength⟩ := KeyValuePair.fits_of_read hread
    have hleaf : kvp.getType ≠ MessageParameterType.fillParameters.toU64 := by
      intro hfill
      rw [← hget, hfill] at hvalid
      exact hvalid (by decide)
    have hrewritten : Rewritten toKeyValuePairInFill kvp p :=
      rewritten_of_deserializeWith hfits hleaf hp
    replace hlength : value.length + left'.length ≤ left.length := hlength
    refine ⟨?_, hle, kvp, value, hget, hrewritten, hvalue, ?_⟩
    · rw [hrewritten.getType, hget]
      exact not_not.mp hvalid
    · rw [hsub]
      show _ + left'.length ≤ _
      omega

theorem typeValue_of_isValidFillParameter {p : MessageParameter}
    (h : isValidFillParameter p.typeValue = true) :
    p.parameterType ≠ .fillParameters ∧ p.WellFormed ∧ p.slack = 0 := by
  cases p with
  | authorizationToken token => exact absurd (show isValidFillParameter 0x03 = true from h) (by decide)
  | fillParameters parameters =>
    exact absurd (show isValidFillParameter 0x23 = true from h) (by decide)
  | switchingSetAssignment =>
    exact absurd (show isValidFillParameter 0x41 = true from h) (by decide)
  | rangeFilter kind filter => cases kind <;> exact ⟨nofun, trivial, rfl⟩
  | _ => exact ⟨nofun, trivial, rfl⟩

/-- What is written of a FILL_PARAMETERS is read back, its list sorted. -/
theorem carries_fillParameters {parameters : List MessageParameter} {kvp : KeyValuePair}
    (h : toKeyValuePair (fillParameters parameters) = .ok kvp) :
    Carries deserialize kvp (fillParameters parameters) (fillParameters parameters).canonical := by
  rw [toKeyValuePair, toKeyValuePairWith] at h
  split at h
  · cases h
  next hfind =>
    have hvalid : ∀ p ∈ parameters, isValidFillParameter p.typeValue = true := by
      intro p hp
      simpa using List.find?_eq_none.mp hfind p hp
    obtain ⟨list, hlist, hnew⟩ := except_bind_eq_ok.mp h
    obtain ⟨kvps, hkvps, hout⟩ := except_bind_eq_ok.mp hlist
    rw [KeyValuePair.tryNewBytes_of_odd (by decide)] at hnew
    have hcarries : List.Forall₂ (fun p kvp => isValidFillParameter p.typeValue = true ∧
        Carries deserializeInFill kvp p p) parameters kvps := by
      refine ((List.forall₂_and_left _ _).mpr ⟨hvalid, mapM_eq_ok_iff.mp hkvps⟩).imp ?_
      rintro p kvp ⟨hp, hpair⟩
      obtain ⟨hleaf, hwf, -⟩ := typeValue_of_isValidFillParameter hp
      exact ⟨hp, carries_of_toKeyValuePairWith hwf hleaf hpair⟩
    have hsorted := forall₂_sort (fun p kvp h => h.2.getType) hcarries
    have hreads := (readsTimes_of_serializeParametersFrom
      (R := fun kvp p => isValidFillParameter p.typeValue = true ∧ Carries deserializeInFill kvp p p)
      (fun _ _ _ _ hR hle hvalue => readFillParameter_reads hR.2 hR.1 hle hvalue)
      hsorted.flip 0 list hout).reads []
    have hcount := length_le_serializeParametersFrom _ _ _ hout
    have hlength : (sortParameters parameters).length = parameters.length :=
      List.length_insertionSort _ _
    rw [← hsorted.length_eq, hlength] at hcount
    obtain ⟨hmax, rfl⟩ := KeyValuePair.newBytes_eq_ok.mp hnew
    refine ⟨(KeyValuePair.fits_bytes_iff (by decide)).mpr hmax, rfl, ?_⟩
    unfold maxValueLength at hmax
    rw [List.length_append] at hmax
    rw [List.append_nil, hlength] at hreads
    show deserializeFillParameters deserializeInFill _ = _
    simp only [deserializeFillParameters, getVi_putVi, except_ok_bind]
    rw [UInt64.toNat_ofNat', Nat.mod_eq_of_lt (by omega), hreads]
    rfl

theorem rewritten_of_deserializeFillParameters {value : Bytes} {p : MessageParameter}
    (hmax : value.length ≤ maxValueLength)
    (h : deserializeFillParameters deserializeInFill value = .ok p) :
    Rewritten toKeyValuePair (.bytes MessageParameterType.fillParameters.toU64 value) p := by
  obtain ⟨⟨count, payload⟩, hcount, h⟩ := except_bind_eq_ok.mp h
  obtain ⟨⟨parameters, left⟩, htimes, h⟩ := except_bind_eq_ok.mp h
  have hconsumed : minimalViLength count + payload.length ≤ value.length := (getVi_consumes hcount).2
  simp only at h
  split at h
  · cases h
  next hempty =>
    cases h
    obtain ⟨hlength, hgood, kvps, out, hkvps, hout, hbound⟩ :=
      rewrites_of_decodeTimes (Q := fun p => isValidFillParameter p.typeValue = true)
        (fun _ _ _ _ _ => readFillParameter_rewrites) _ _ _ _ _ htimes
    have hvalid : ∀ p ∈ parameters, isValidFillParameter p.typeValue = true :=
      fun p hp => (hgood p hp).1
    have hslack : (parameters.map slack).sum = 0 := by
      rw [List.sum_eq_zero_iff]
      intro n hn
      obtain ⟨p, hp, rfl⟩ := List.mem_map.mp hn
      exact (typeValue_of_isValidFillParameter (hvalid p hp)).2.2
    obtain ⟨hsorted, hcanonical⟩ := sortParameters_of_written (fun _ _ h => h.2) hkvps hout
    have hfind : (parameters.find? fun p => ! isValidFillParameter p.typeValue) = none := by
      rw [List.find?_eq_none]
      intro p hp
      simp [hvalid p hp]
    have hlist : serializeMessageParametersWith toKeyValuePairInFill parameters = .ok out := by
      rw [serializeMessageParametersWith, mapM_eq_ok_iff.mpr (hkvps.imp fun _ _ h => h.1),
        except_ok_bind, hsorted, hout]
    have hofNat : UInt64.ofNat parameters.length = count := by rw [hlength, UInt64.ofNat_toNat]
    have hshort : (putVi (UInt64.ofNat parameters.length) ++ out).length ≤ value.length := by
      rw [hofNat, List.length_append, length_putVi]
      omega
    refine rewritten_bytes trivial (congrArg fillParameters hcanonical) rfl (by decide) hshort hmax ?_
    simp only [toKeyValuePairWith, hfind]
    rw [hlist, except_ok_bind, KeyValuePair.tryNewBytes_of_odd (by decide)]

/-- What is written of a parameter is read back. -/
theorem carries_of_toKeyValuePair {p : MessageParameter} {kvp : KeyValuePair} (hwf : p.WellFormed)
    (h : toKeyValuePair p = .ok kvp) : Carries deserialize kvp p p.canonical := by
  by_cases hleaf : p.parameterType = .fillParameters
  · cases p with
    | fillParameters parameters => exact carries_fillParameters h
    | rangeFilter kind filter => cases kind <;> cases hleaf
    | _ => cases hleaf
  · have hcanonical : p.canonical = p := by
      cases p with
      | fillParameters parameters => exact absurd rfl hleaf
      | _ => rfl
    rw [hcanonical]
    exact carries_of_toKeyValuePairWith hwf hleaf h

/-- What was read of a parameter can be written again. -/
theorem rewritten_of_deserialize {kvp : KeyValuePair} {p : MessageParameter} (hfits : kvp.Fits)
    (h : deserialize kvp = .ok p) : Rewritten toKeyValuePair kvp p := by
  by_cases hleaf : kvp.getType = MessageParameterType.fillParameters.toU64
  · cases kvp with
    | varInt typeValue value =>
      cases hleaf
      cases h
    | bytes typeValue value =>
      cases hleaf
      exact rewritten_of_deserializeFillParameters
        ((KeyValuePair.fits_bytes_iff (by decide)).mp hfits) h
  · exact rewritten_of_deserializeWith hfits hleaf h

/-- How the list of a FILL_PARAMETERS is read makes a difference to FILL_PARAMETERS only. -/
theorem deserializeWith_congr {fill fill' : Bytes → Parse MessageParameter} {kvp : KeyValuePair}
    (hleaf : kvp.getType ≠ MessageParameterType.fillParameters.toU64) :
    deserializeWith fill kvp = deserializeWith fill' kvp := by
  cases kvp with
  | varInt typeValue value => rfl
  | bytes typeValue value =>
    unfold deserializeWith deserializeBytes
    cases htype : MessageParameterType.tryFrom typeValue with
    | error e => simp only [htype]
    | ok t =>
      have hvalue := MessageParameterType.toU64_of_tryFrom htype
      subst hvalue
      cases t with
      | fillParameters => exact absurd rfl hleaf
      | _ => simp only [htype]

/-- A FILL_PARAMETERS is read with the reader of parameters itself, as the source has it: no
other FILL_PARAMETERS can be inside. -/
theorem deserialize_eq (kvp : KeyValuePair) :
    deserialize kvp = deserializeWith (deserializeFillParameters deserialize) kvp := by
  have hread (kvp : KeyValuePair) (h : isValidFillParameter kvp.getType = true) :
      deserializeInFill kvp = deserialize kvp := by
    refine deserializeWith_congr fun hfill => ?_
    rw [hfill] at h
    exact absurd h (by decide)
  have hturn : readFillParameter deserializeInFill = readFillParameter deserialize := by
    funext prevType bytes
    unfold readFillParameter
    cases getVi bytes with
    | error e => rfl
    | ok first =>
      cases htype : nextType "MessageParameter::deserialize(FillParameters)" prevType first.1 with
      | error e =>
        simp only [except_ok_bind, htype]
        rfl
      | ok typeValue =>
        simp only [except_ok_bind, htype]
        split
        · rfl
        next hvalid =>
          cases hkvp : readMessageParameterValue first.2 typeValue with
          | error e => rfl
          | ok second =>
            have hget := (KeyValuePair.fits_of_read hkvp).1
            simp only [except_ok_bind]
            rw [hread second.1 (by rw [hget]; exact not_not.mp hvalid)]
  show deserializeWith (deserializeFillParameters deserializeInFill) kvp = _
  unfold deserializeFillParameters
  rw [hturn]

end MessageParameter

/-! The parameters of a message. -/

/-- The parameters of a message as they are read back: the order by Type is all that changes. -/
def canonicalParameters (params : List MessageParameter) : List MessageParameter :=
  (sortParameters params).map MessageParameter.canonical

theorem MessageParameter.isValidFor_canonical (p : MessageParameter) (t : ControlMessageType) :
    p.canonical.isValidFor t = p.isValidFor t := by
  cases p <;> rfl

theorem readMessageParameter_reads {msgType : ControlMessageType} {prevType : UInt64}
    {kvp : KeyValuePair} {p : MessageParameter} {value : Bytes}
    (hcarries : MessageParameter.Carries MessageParameter.deserialize kvp p p.canonical)
    (hvalid : p.isValidFor msgType = true) (hle : prevType ≤ kvp.getType)
    (hvalue : serializeParameterValue kvp = .ok value) :
    Reads (readMessageParameter msgType prevType) (putVi (kvp.getType - prevType) ++ value)
      (kvp.getType, p.canonical) := by
  intro tail
  rw [← p.isValidFor_canonical] at hvalid
  simp only [readMessageParameter, List.append_assoc, getVi_putVi, except_ok_bind, nextType_sub hle,
    hcarries.fits.reads hvalue tail, hcarries.reads, hvalid]
  rfl

theorem readMessageParameter_rewrites {msgType : ControlMessageType} {prevType : UInt64}
    {bytes : Bytes} {typeValue : UInt64} {p : MessageParameter} {rest : Bytes}
    (h : readMessageParameter msgType prevType bytes = .ok ((typeValue, p), rest)) :
    p.isValidFor msgType = true ∧ prevType ≤ typeValue ∧
      ∃ kvp value, kvp.getType = typeValue ∧
        MessageParameter.Rewritten MessageParameter.toKeyValuePair kvp p ∧
          serializeParameterValue kvp = .ok value ∧
            minimalViLength (typeValue - prevType) + value.length + rest.length ≤ bytes.length := by
  obtain ⟨⟨deltaType, left⟩, hdelta, h⟩ := except_bind_eq_ok.mp h
  obtain ⟨typeValue', htype, h⟩ := except_bind_eq_ok.mp h
  obtain ⟨⟨kvp, left'⟩, hread, h⟩ := except_bind_eq_ok.mp h
  obtain ⟨p', hp, h⟩ := except_bind_eq_ok.mp h
  have hconsumed : minimalViLength deltaType + left.length ≤ bytes.length := (getVi_consumes hdelta).2
  simp only at h
  split at h
  · cases h
  next hvalid =>
    cases h
    obtain ⟨hle, hsub⟩ := nextType_eq_ok htype
    obtain ⟨hget, hfits, value, hvalue, hlength⟩ := KeyValuePair.fits_of_read hread
    refine ⟨not_not.mp hvalid, hle, kvp, value, hget,
      MessageParameter.rewritten_of_deserialize hfits hp, hvalue, ?_⟩
    rw [hsub]
    omega

/-- The parameters that are written are read back, in the order of their Types. -/
theorem readMessageParameters_reads {msgType : ControlMessageType} {params : List MessageParameter}
    {out : Bytes} (hgood : ∀ p ∈ params, p.WellFormed ∧ p.isValidFor msgType = true)
    (h : serializeMessageParameters params = .ok out) :
    params.length ≤ out.length ∧
      Reads (decodeTimes (readMessageParameter msgType) params.length 0) out
        (canonicalParameters params) := by
  obtain ⟨kvps, hkvps, hout⟩ := except_bind_eq_ok.mp h
  have hcarries : List.Forall₂ (fun p kvp => p.isValidFor msgType = true ∧
      MessageParameter.Carries MessageParameter.deserialize kvp p p.canonical) params kvps := by
    refine ((List.forall₂_and_left _ _).mpr ⟨hgood, mapM_eq_ok_iff.mp hkvps⟩).imp ?_
    rintro p kvp ⟨⟨hwf, hvalid⟩, hpair⟩
    exact ⟨hvalid, MessageParameter.carries_of_toKeyValuePair hwf hpair⟩
  have hsorted := forall₂_sort (fun p kvp h => h.2.getType) hcarries
  have hread : List.Forall₂ (fun kvp p' => ∃ p : MessageParameter, p' = p.canonical ∧
      p.isValidFor msgType = true ∧
        MessageParameter.Carries MessageParameter.deserialize kvp p p.canonical)
      (sortByType kvps) (canonicalParameters params) := by
    rw [canonicalParameters, List.forall₂_map_right_iff]
    exact hsorted.flip.imp fun kvp p h => ⟨p, rfl, h⟩
  have htimes : ReadsTimes (readMessageParameter msgType) 0 (canonicalParameters params) out := by
    refine readsTimes_of_serializeParametersFrom ?_ hread 0 out hout
    rintro prevType kvp p' value ⟨p, rfl, hvalid, hone⟩ hle hvalue
    exact readMessageParameter_reads hone hvalid hle hvalue
  have hreads := htimes.reads
  have hlength : (canonicalParameters params).length = params.length := by
    rw [canonicalParameters, List.length_map, sortParameters, List.length_insertionSort]
  have hcount := length_le_serializeParametersFrom _ _ _ hout
  rw [hread.length_eq, hlength] at hcount
  rw [hlength] at hreads
  exact ⟨hcount, hreads⟩

/-- The parameters that are read can be written again. -/
theorem readMessageParameters_rewrites {msgType : ControlMessageType} {n : Nat} {bytes rest : Bytes}
    {params : List MessageParameter}
    (h : decodeTimes (readMessageParameter msgType) n 0 bytes = .ok (params, rest)) :
    params.length = n ∧ (∀ p ∈ params, p.WellFormed ∧ p.isValidFor msgType = true) ∧
      canonicalParameters params = params ∧ ∃ out, serializeMessageParameters params = .ok out ∧
        out.length + rest.length ≤ bytes.length + (params.map MessageParameter.slack).sum := by
  obtain ⟨hlength, hgood, kvps, out, hkvps, hout, hbound⟩ :=
    rewrites_of_decodeTimes (Q := fun p => p.isValidFor msgType = true)
      (fun _ _ _ _ _ => readMessageParameter_rewrites) _ _ _ _ _ h
  obtain ⟨hsorted, hparams⟩ := sortParameters_of_written (fun _ _ h => h.2) hkvps hout
  refine ⟨hlength, fun p hp => ⟨(hgood p hp).2.1, (hgood p hp).1⟩, ?_, out, ?_, hbound⟩
  · rw [canonicalParameters, hparams,
      List.map_congr_left (g := id) fun p hp => (hgood p hp).2.2, List.map_id]
  · rw [serializeMessageParameters, serializeMessageParametersWith,
      mapM_eq_ok_iff.mpr (hkvps.imp fun _ _ h => h.1), except_ok_bind, hsorted, hout]

end Moqtail
