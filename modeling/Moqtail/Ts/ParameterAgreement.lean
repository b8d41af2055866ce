import Moqtail.Ts.MessageParameter
import Moqtail.Wire.ParameterRoundTrip

/-! The parameters of control messages are on the wire of the TypeScript library what they are on
that of the Rust library, and each library reads the parameters back from the bytes of the other.

Both write a list sorted by Type, so that it is the sorted list that comes back. -/
namespace Moqtail.Ts

open Lib

/-! The parameters that both libraries have. -/

inductive SameToken : AuthorizationToken → AuthTokenVariant → Prop
  | delete (tokenAlias : UInt64) : SameToken (.newDelete tokenAlias) (.delete (ofU64 tokenAlias))
  | register (tokenAlias tokenType : UInt64) (tokenValue : Bytes) :
    SameToken (.newRegister tokenAlias tokenType tokenValue)
      (.register (ofU64 tokenAlias) (ofU64 tokenType) tokenValue)
  | useAlias (tokenAlias : UInt64) :
    SameToken (.newUseAlias tokenAlias) (.useAlias (ofU64 tokenAlias))
  | useValue (tokenType : UInt64) (tokenValue : Bytes) :
    SameToken (.newUseValue tokenType tokenValue) (.useValue (ofU64 tokenType) tokenValue)

/-- One parameter in the types of both libraries. -/
inductive Same : Moqtail.MessageParameter → MessageParameter → Prop
  | objectDeliveryTimeout (timeout : UInt64) :
    Same (.objectDeliveryTimeout timeout) (.objectDeliveryTimeout (ofU64 timeout))
  | subgroupDeliveryTimeout (timeout : UInt64) :
    Same (.subgroupDeliveryTimeout timeout) (.subgroupDeliveryTimeout (ofU64 timeout))
  | rendezvousTimeout (timeout : UInt64) :
    Same (.rendezvousTimeout timeout) (.rendezvousTimeout (ofU64 timeout))
  | fillTimeout (timeout : UInt64) : Same (.fillTimeout timeout) (.fillTimeout (ofU64 timeout))
  | authorizationToken {token : AuthorizationToken} {variant : AuthTokenVariant}
      (h : SameToken token variant) : Same (.authorizationToken token) (.authorizationToken variant)
  | expires (value : UInt64) : Same (.expires value) (.expires (ofU64 value))
  | largestObject (location : Moqtail.Location) :
    Same (.largestObject location) (.largestObject (.ofRust location))
  | forward (value : Bool) : Same (.forward value) (.forward value)
  | subscriberPriority (priority : UInt8) :
    Same (.subscriberPriority priority) (.subscriberPriority priority.toNat)
  | groupOrder (order : GroupOrder) (made : order ≠ .original) :
    Same (.groupOrder order) (.groupOrderParam order made)
  | locationFilter {filter : Moqtail.LocationFilter} {f : LocationFilter}
      (h : LocationFilter.ofRust filter = .ok f) : Same (.locationFilter filter) (.locationFilter f)
  | newGroupRequest (group : UInt64) : Same (.newGroupRequest group) (.newGroupRequest (ofU64 group))
  | switchFrom (requestId : UInt64) (mode : SwitchMode) (publishDone : Bool) :
    Same (.switchFrom requestId mode publishDone) (.switchFrom (ofU64 requestId) mode publishDone)
  | fillParameters {params : List Moqtail.MessageParameter} {params' : List MessageParameter}
      (h : List.Forall₂ Same params params') : Same (.fillParameters params) (.fillParameters params')
  | rangeFilter {kind : RangeFilterKind} {filter : Option Moqtail.RangeFilter} {f : RangeFilter}
      (h : RangeFilter.ofRust kind filter = .ok f) : Same (.rangeFilter kind filter) (.rangeFilter f)
  | includeProperties (included : Bool) : Same (.includeProperties included) (.includeProperties included)
  | switchingSetAssignment (setId algorithmId threshold weight activate : UInt64) (rank : UInt8) :
    Same (.switchingSetAssignment setId algorithmId threshold weight activate rank)
      (.switchingSetAssignment (ofU64 setId) (ofU64 algorithmId) (ofU64 threshold) (ofU64 weight)
        (ofU64 activate) rank.toNat)

namespace MessageParameter

/-! Writing one parameter. -/

/-- The pair that both make of a parameter, with a Value that fits its Type. -/
structure Paired (p : Moqtail.MessageParameter) (kvp : Moqtail.KeyValuePair) (kvp' : KeyValuePair) :
    Prop where
  eq : kvp' = .ofRust kvp
  fits : kvp.Fits
  getType : kvp.getType = p.typeValue

variable {p : Moqtail.MessageParameter} {t : MessageParameterType}

theorem tryNewVarInt_eq (value : UInt64) (heven : t.toU64 % 2 = 0) :
    tryNewVarInt t (ofU64 value) = .ok (.ofRust (.varInt t.toU64 value)) := by
  rw [tryNewVarInt, messageParameterTypeValue_eq, KeyValuePair.tryNewVarInt,
    if_neg (not_not.mpr ((KeyValuePair.parity_ofU64 _).mp heven))]
  rfl

theorem paired_varInt (value : UInt64) (hp : p.parameterType = t) (heven : t.toU64 % 2 = 0)
    (hfits : (Moqtail.KeyValuePair.varInt t.toU64 value).Fits) :
    Agree (Paired p) (Moqtail.KeyValuePair.tryNewVarint t.toU64 value)
      (tryNewVarInt t (ofU64 value)) := by
  rw [Moqtail.KeyValuePair.tryNewVarint_of_even heven, tryNewVarInt_eq value heven]
  exact .ok ⟨rfl, hfits, by rw [Moqtail.MessageParameter.typeValue, hp]; rfl⟩

theorem fits_varInt (value : UInt64) (hshape : valueShape t.toU64 = .varInt) :
    (Moqtail.KeyValuePair.varInt t.toU64 value).Fits := by
  simp only [KeyValuePair.Fits, Moqtail.KeyValuePair.getType, hshape]

theorem fits_uint8 {value : UInt64} (hshape : valueShape t.toU64 = .uint8)
    (hvalue : value.toNat ≤ 255) : (Moqtail.KeyValuePair.varInt t.toU64 value).Fits := by
  simp only [KeyValuePair.Fits, Moqtail.KeyValuePair.getType, hshape]
  exact hvalue

theorem newBytes_agrees (value : Bytes) (hp : p.parameterType = t)
    (hfits : value.length ≤ Moqtail.maxValueLength → (Moqtail.KeyValuePair.bytes t.toU64 value).Fits) :
    Agree (Paired p) (Moqtail.KeyValuePair.newBytes t.toU64 value) (newBytes t value) := by
  rw [newBytes, messageParameterTypeValue_eq]
  apply (KeyValuePair.newBytes_agrees t.toU64 value).imp
  intro kvp kvp' hnew _ heq
  obtain ⟨hlength, rfl⟩ := Moqtail.KeyValuePair.newBytes_eq_ok.mp hnew
  exact ⟨heq, hfits hlength, by rw [Moqtail.MessageParameter.typeValue, hp]; rfl⟩

theorem tryNewBytes_agrees (value : Bytes) (hp : p.parameterType = t) (hodd : ¬ t.toU64 % 2 = 0)
    (hfits : value.length ≤ Moqtail.maxValueLength → (Moqtail.KeyValuePair.bytes t.toU64 value).Fits) :
    Agree (Paired p) (Moqtail.KeyValuePair.tryNewBytes t.toU64 value) (tryNewBytes t value) := by
  have htry : tryNewBytes t value = newBytes t value := by
    rw [tryNewBytes, newBytes, messageParameterTypeValue_eq, KeyValuePair.tryNewBytes,
      if_neg ((KeyValuePair.parity_ofU64 _).not.mp hodd)]
  rw [Moqtail.KeyValuePair.tryNewBytes_of_odd hodd, htry]
  exact newBytes_agrees value hp hfits

theorem fits_bytes {value : Bytes} (hshape : valueShape t.toU64 = .lengthPrefixedBytes)
    (hlength : value.length ≤ Moqtail.maxValueLength) :
    (Moqtail.KeyValuePair.bytes t.toU64 value).Fits :=
  (KeyValuePair.fits_bytes_iff hshape).mpr hlength

theorem serialize_sameToken {token : AuthorizationToken} {variant : AuthTokenVariant}
    (h : SameToken token variant) :
    ∃ payload, token.serialize = .ok payload ∧ variant.serialize = .ok payload := by
  have h0 : ByteBuffer.putVI 0x0 = .ok (putVi 0) := ByteBuffer.putVI_eq 0
  have h1 : ByteBuffer.putVI 0x1 = .ok (putVi 1) := ByteBuffer.putVI_eq 1
  have h2 : ByteBuffer.putVI 0x2 = .ok (putVi 2) := ByteBuffer.putVI_eq 2
  have h3 : ByteBuffer.putVI 0x3 = .ok (putVi 3) := ByteBuffer.putVI_eq 3
  have hwrite := ByteBuffer.putVI_eq
  cases h with
  | delete tokenAlias =>
    refine ⟨_, rfl, ?_⟩
    rw [AuthTokenVariant.serialize, h0, except_ok_bind, hwrite]
    rfl
  | register tokenAlias tokenType tokenValue =>
    refine ⟨_, rfl, ?_⟩
    rw [AuthTokenVariant.serialize, h1, except_ok_bind, hwrite, except_ok_bind, hwrite,
      except_ok_bind, List.append_assoc, List.append_assoc]
    simp only [AuthorizationToken.serializeFields, AuthorizationToken.newRegister, List.append_assoc]
    rfl
  | useAlias tokenAlias =>
    refine ⟨_, rfl, ?_⟩
    rw [AuthTokenVariant.serialize, h2, except_ok_bind, hwrite]
    rfl
  | useValue tokenType tokenValue =>
    refine ⟨_, rfl, ?_⟩
    rw [AuthTokenVariant.serialize, h3, except_ok_bind, hwrite, except_ok_bind, List.append_assoc]
    simp only [AuthorizationToken.serializeFields, AuthorizationToken.newUseValue]
    rfl

theorem serializeSwitchFrom_eq (requestId : UInt64) (mode : SwitchMode) (publishDone : Bool) :
    serializeSwitchFrom (ofU64 requestId) mode publishDone =
      .ok (putVi requestId ++ putVi mode.toU64 ++
        [if publishDone then Moqtail.MessageParameter.switchFromPublishDone else 0]) := by
  have hmode : switchModeValue mode = ofU64 mode.toU64 := by cases mode <;> rfl
  rw [serializeSwitchFrom, ByteBuffer.putVI_eq, except_ok_bind, hmode, ByteBuffer.putVI_eq]
  cases publishDone <;> rfl

theorem serializeSwitchingSetAssignment_eq (setId algorithmId threshold weight activate : UInt64)
    (rank : UInt8) :
    serializeSwitchingSetAssignment (ofU64 setId) (ofU64 algorithmId) (ofU64 threshold)
      (ofU64 weight) (ofU64 activate) rank.toNat =
        .ok (putVi setId ++ putVi algorithmId ++ putVi threshold ++ putVi weight ++ putVi activate ++
          [rank]) := by
  simp only [serializeSwitchingSetAssignment, ByteBuffer.putVI_eq, except_ok_bind,
    RangeFilter.putU8_toNat, except_pure]

theorem groupOrderValue_eq (order : GroupOrder) : groupOrderValue order =
    ofU64 (match order with | .original => 0 | .ascending => 1 | .descending => 2) := by
  cases order <;> rfl

/-- Both libraries make the same pair of a parameter that is no FILL_PARAMETERS, or none. -/
theorem toKeyValuePair_leaf {list : List Moqtail.MessageParameter → Parse Bytes}
    {p' : MessageParameter} (h : Same p p') (hleaf : p.parameterType ≠ .fillParameters) :
    Agree (Paired p) (p.toKeyValuePairWith list) p'.toKeyValuePair := by
  cases h with
  | objectDeliveryTimeout value =>
    exact paired_varInt (t := .objectDeliveryTimeout) value rfl (by decide) (fits_varInt _ (by decide))
  | subgroupDeliveryTimeout value =>
    exact paired_varInt (t := .subgroupDeliveryTimeout) value rfl (by decide)
      (fits_varInt _ (by decide))
  | rendezvousTimeout value =>
    exact paired_varInt (t := .rendezvousTimeout) value rfl (by decide) (fits_varInt _ (by decide))
  | fillTimeout value =>
    exact paired_varInt (t := .fillTimeout) value rfl (by decide) (fits_varInt _ (by decide))
  | expires value =>
    exact paired_varInt (t := .expires) value rfl (by decide) (fits_varInt _ (by decide))
  | newGroupRequest value =>
    exact paired_varInt (t := .newGroupRequest) value rfl (by decide) (fits_varInt _ (by decide))
  | forward value =>
    have hvalue : (if value then 1 else 0 : Int) = ofU64 (if value then 1 else 0) := by
      cases value <;> rfl
    rw [toKeyValuePair, hvalue]
    refine paired_varInt (t := .forward) _ rfl (by decide) (fits_uint8 (by decide) ?_)
    cases value <;> decide
  | subscriberPriority priority =>
    have hvalue : (priority.toNat : Int) = ofU64 priority.toUInt64 := by
      rw [ofU64, UInt8.toNat_toUInt64]
    rw [toKeyValuePair, hvalue]
    refine paired_varInt (t := .subscriberPriority) _ rfl (by decide) (fits_uint8 (by decide) ?_)
    have := priority.toNat_lt
    rw [UInt8.toNat_toUInt64]
    omega
  | groupOrder order made =>
    rw [toKeyValuePair, groupOrderValue_eq]
    refine paired_varInt (t := .groupOrder) _ rfl (by decide) (fits_uint8 (by decide) ?_)
    cases order <;> decide
  | includeProperties included =>
    refine .ok ⟨?_, fits_uint8 (by decide) ?_, rfl⟩ <;> cases included <;> first | rfl | decide
  | authorizationToken htoken =>
    obtain ⟨payload, hpayload, hpayload'⟩ := serialize_sameToken htoken
    rw [Moqtail.MessageParameter.toKeyValuePairWith, toKeyValuePair, hpayload, hpayload']
    exact tryNewBytes_agrees (t := .authorizationToken) payload rfl (by decide)
      (fits_bytes (by decide))
  | largestObject location =>
    rw [Moqtail.MessageParameter.toKeyValuePairWith, toKeyValuePair, Location.serialize_ofRust]
    refine tryNewBytes_agrees _ rfl (by decide) fun _ => ?_
    exact ⟨location, rfl⟩
  | locationFilter hfilter =>
    obtain ⟨value, hvalue, hvalue'⟩ := LocationFilter.serializeValue_ofRust hfilter
    have hodd : ∀ value : Bytes, tryNewBytes .locationFilter value = newBytes .locationFilter value :=
      fun value => rfl
    rw [Moqtail.MessageParameter.toKeyValuePairWith, toKeyValuePair, hvalue, hvalue', except_ok_bind,
      except_ok_bind, hodd]
    exact newBytes_agrees _ rfl fun _ => ⟨_, hvalue⟩
  | switchFrom requestId mode publishDone =>
    rw [Moqtail.MessageParameter.toKeyValuePairWith, toKeyValuePair, serializeSwitchFrom_eq]
    exact newBytes_agrees _ rfl (fits_bytes (by decide))
  | fillParameters hparams => exact absurd rfl hleaf
  | @rangeFilter kind filter f hfilter =>
    have hkind : f.kind = kind := by
      cases filter <;> rw [RangeFilter.ofRust, RangeFilter.new_eq_ok] at hfilter <;>
        obtain ⟨made, rfl⟩ := hfilter <;> rfl
    have hshape := Moqtail.MessageParameter.valueShape_rangeFilter kind
    rw [toKeyValuePair, hkind]
    cases filter with
    | none =>
      rw [RangeFilter.ofRust, RangeFilter.new_eq_ok] at hfilter
      obtain ⟨made, rfl⟩ := hfilter
      exact newBytes_agrees _ rfl (fits_bytes hshape)
    | some filter =>
      obtain ⟨value, hvalue, hvalue'⟩ := RangeFilter.serializeValue_ofRust hfilter
      obtain ⟨hpresence, -⟩ := RangeFilter.checks_of_ofRust hfilter
      rw [Moqtail.MessageParameter.toKeyValuePairWith, if_neg (not_not.mpr hpresence), hvalue,
        hvalue', except_ok_bind]
      exact newBytes_agrees _ rfl (fits_bytes hshape)
  | switchingSetAssignment setId algorithmId threshold weight activate rank =>
    rw [Moqtail.MessageParameter.toKeyValuePairWith, toKeyValuePair,
      serializeSwitchingSetAssignment_eq]
    exact tryNewBytes_agrees _ rfl (by decide) (fits_bytes (by decide))

end MessageParameter

/-! Lists of pairs. -/

theorem valueShapeOf_ofU64 (typeValue : UInt64) :
    valueShapeOf (ofU64 typeValue) = valueShape typeValue := by
  have htype : ∀ t : MessageParameterType,
      ofU64 typeValue = messageParameterTypeValue t ↔ typeValue = t.toU64 := by
    intro t
    rw [messageParameterTypeValue_eq, ofU64_inj]
  unfold valueShapeOf valueShape isObjectRangeFilter
  simp only [htype, ← KeyValuePair.parity_ofU64, Bool.or_eq_true, decide_eq_true_eq, or_assoc]
  -- the two tables name SWITCH_FROM and TRACK_NAMESPACE_PREFIX in different order
  simp only [or_left_comm (a := typeValue = MessageParameterType.switchFrom.toU64)]

/-- A Value that fits is written by both, as the same bytes. -/
theorem serializeParameterValue_ofRust {kvp : Moqtail.KeyValuePair} {out : Bytes} (h : kvp.Fits)
    (hout : Moqtail.serializeParameterValue kvp = .ok out) :
    serializeParameterValue (.ofRust kvp) = .ok out := by
  unfold KeyValuePair.Fits at h
  unfold Moqtail.serializeParameterValue at hout
  unfold serializeParameterValue
  rw [KeyValuePair.typeValue_ofRust, valueShapeOf_ofU64]
  cases hshape : valueShape kvp.getType <;> rw [hshape] at h hout <;> cases kvp <;> first
    | exact h.elim
    | skip
  case varInt.varInt typeValue value =>
    cases hout
    exact ByteBuffer.putVI_eq value
  case uint8.varInt typeValue value =>
    replace h : value.toNat ≤ 255 := h
    simp only [if_pos h] at hout
    cases hout
    have hrange : ¬ (ofU64 value < 0 ∨ ofU64 value > 255) := by
      dsimp only [ofU64]
      omega
    have hbyte : ofU64 value = value.toUInt8.toNat := by
      dsimp only [ofU64]
      rw [UInt64.toNat_toUInt8, Nat.mod_eq_of_lt (by omega)]
    show (if ofU64 value < 0 ∨ ofU64 value > 255 then _ else ByteBuffer.putU8 (ofU64 value)) = _
    rw [if_neg hrange, hbyte, RangeFilter.putU8_toNat]
  case bareLocation.bytes typeValue value =>
    cases hout
    rfl
  case locationFilter.bytes typeValue value =>
    cases hout
    rfl
  case lengthPrefixedBytes.bytes typeValue value =>
    cases hout
    unfold Moqtail.maxValueLength at h
    exact ByteBuffer.putLengthPrefixedBytes_eq (by omega)

theorem serializeParametersFrom_ofRust (kvps : List Moqtail.KeyValuePair) :
    ∀ (prevType : UInt64) (out : Bytes), (∀ kvp ∈ kvps, kvp.Fits) →
      Moqtail.serializeParametersFrom prevType kvps = .ok out →
        serializeParametersFrom (ofU64 prevType) (kvps.map .ofRust) = .ok out := by
  induction kvps with
  | nil =>
    intro prevType out _ h
    cases h
    rfl
  | cons kvp rest ih =>
    intro prevType out hfits h
    rw [List.forall_mem_cons] at hfits
    obtain ⟨hle, value, tail, hvalue, htail, rfl⟩ := serializeParametersFrom_cons_eq_ok h
    have hdelta : ofU64 kvp.getType - ofU64 prevType = ofU64 (kvp.getType - prevType) := by
      rw [ofU64, ofU64, ofU64, UInt64.toNat_sub_of_le _ _ hle,
        Int.ofNat_sub (UInt64.le_iff_toNat_le.mp hle)]
    rw [List.map_cons, serializeParametersFrom, KeyValuePair.typeValue_ofRust, hdelta,
      ByteBuffer.putVI_eq, serializeParameterValue_ofRust hfits.1 hvalue,
      ih kvp.getType tail hfits.2 htail]
    rfl

/-- Pairs in ascending order that fit are written. -/
theorem serializes_of_sorted (kvps : List Moqtail.KeyValuePair) :
    ∀ prevType : UInt64, (∀ kvp ∈ kvps, kvp.Fits) →
      kvps.Pairwise (fun a b => a.getType ≤ b.getType) → (∀ kvp ∈ kvps, prevType ≤ kvp.getType) →
        ∃ out, Moqtail.serializeParametersFrom prevType kvps = .ok out := by
  induction kvps with
  | nil => exact fun _ _ _ _ => ⟨[], rfl⟩
  | cons kvp rest ih =>
    intro prevType hfits hsorted hle
    rw [List.forall_mem_cons] at hfits hle
    rw [List.pairwise_cons] at hsorted
    obtain ⟨value, hvalue⟩ := hfits.1.serializes
    obtain ⟨tail, htail⟩ := ih kvp.getType hfits.2 hsorted.2 hsorted.1
    exact ⟨_, serializeParametersFrom_cons hle.1 hvalue htail⟩

theorem sortByType_ofRust (kvps : List Moqtail.KeyValuePair) :
    (kvps.map KeyValuePair.ofRust).insertionSort (fun a b => a.typeValue ≤ b.typeValue) =
      (sortByType kvps).map .ofRust := by
  symm
  apply List.map_insertionSort
  intro a _ b _
  rw [KeyValuePair.typeValue_ofRust, KeyValuePair.typeValue_ofRust, UInt64.le_iff_toNat_le, ofU64,
    ofU64, Int.ofNat_le]

/-- The pairs of both libraries are written by both, as the same bytes. -/
theorem serializeMessageParameterKvps_ofRust {kvps : List Moqtail.KeyValuePair}
    (hfits : ∀ kvp ∈ kvps, kvp.Fits) :
    ∃ out, Moqtail.serializeParametersFrom 0 (sortByType kvps) = .ok out ∧
      serializeMessageParameterKvps (kvps.map .ofRust) = .ok out := by
  have hmem : ∀ kvp ∈ sortByType kvps, kvp.Fits := by
    intro kvp hkvp
    exact hfits kvp ((List.mem_insertionSort _).mp hkvp)
  have hsorted : (sortByType kvps).Pairwise fun a b => a.getType ≤ b.getType :=
    List.pairwise_insertionSort _ _
  obtain ⟨out, hout⟩ := serializes_of_sorted (sortByType kvps) 0 hmem hsorted
    fun _ _ => UInt64.zero_le
  refine ⟨out, hout, ?_⟩
  rw [serializeMessageParameterKvps, sortByType_ofRust]
  exact serializeParametersFrom_ofRust _ 0 out hmem hout

theorem even_of_varInt {typeValue : UInt64} (h : valueShape typeValue = .varInt) :
    typeValue % 2 = 0 := by
  unfold valueShape at h
  split_ifs at h
  assumption

/-- A Value that fits is read back as the pair it was. -/
theorem readParameterValue_reads {kvp : Moqtail.KeyValuePair} {out : Bytes} (h : kvp.Fits)
    (hout : Moqtail.serializeParameterValue kvp = .ok out) :
    Reads (readParameterValue · (ofU64 kvp.getType)) out (.ofRust kvp) := by
  intro tail
  unfold KeyValuePair.Fits at h
  unfold Moqtail.serializeParameterValue at hout
  unfold readParameterValue
  rw [valueShapeOf_ofU64]
  cases hshape : valueShape kvp.getType <;> rw [hshape] at h hout <;> cases kvp <;> first
    | exact h.elim
    | skip
  case varInt.varInt typeValue value =>
    cases hout
    have heven : typeValue % 2 = 0 := even_of_varInt hshape
    dsimp only
    rw [ByteBuffer.getVI_putVi, except_ok_bind]
    dsimp only
    rw [Moqtail.KeyValuePair.getType, KeyValuePair.tryNewVarInt,
      if_neg (not_not.mpr ((KeyValuePair.parity_ofU64 _).mp heven))]
    rfl
  case uint8.varInt typeValue value =>
    replace h : value.toNat ≤ 255 := h
    simp only [if_pos h] at hout
    cases hout
    have hbyte : (value.toUInt8.toNat : Int) = ofU64 value := by
      dsimp only [ofU64]
      rw [UInt64.toNat_toUInt8, Nat.mod_eq_of_lt (by omega)]
    dsimp only
    rw [List.singleton_append, ByteBuffer.getU8, except_ok_bind]
    dsimp only
    rw [hbyte]
    rfl
  case bareLocation.bytes typeValue value =>
    cases hout
    obtain ⟨l, rfl⟩ := h
    have hlength : (putVi l.group ++ putVi l.object).length ≤ Moqtail.maxValueLength := by
      have := minimalViLength_le l.group
      have := minimalViLength_le l.object
      simp only [List.length_append, length_putVi]
      unfold Moqtail.maxValueLength
      omega
    dsimp only
    rw [Moqtail.Location.serialize, List.append_assoc, ByteBuffer.getVI_putVi, except_ok_bind]
    dsimp only
    rw [ByteBuffer.putVI_eq, except_ok_bind, ByteBuffer.getVI_putVi, except_ok_bind]
    dsimp only
    rw [ByteBuffer.putVI_eq, except_ok_bind, Moqtail.KeyValuePair.getType,
      KeyValuePair.newBytes_ofRust hlength]
    rfl
  case locationFilter.bytes typeValue value =>
    cases hout
    obtain ⟨filter, hfilter⟩ := h
    obtain ⟨f, hf⟩ := LocationFilter.ofRust_of_serialize hfilter
    obtain ⟨written, hwritten, hwritten'⟩ := LocationFilter.serializeValue_ofRust hf
    rw [hfilter, Except.ok.injEq] at hwritten
    rw [← hwritten] at hwritten'
    have hlength := LocationFilter.length_serialize_le hfilter
    dsimp only
    rw [LocationFilter.deserializeValue_reads hf hfilter tail, except_ok_bind]
    dsimp only
    rw [hwritten', except_ok_bind, Moqtail.KeyValuePair.getType,
      KeyValuePair.newBytes_ofRust (by unfold Moqtail.maxValueLength; omega)]
    rfl
  case lengthPrefixedBytes.bytes typeValue value =>
    cases hout
    have hread : Moqtail.KeyValuePair.deserializeBytesValue (putLengthPrefixed value ++ tail) typeValue =
        .ok (.bytes typeValue value, tail) := KeyValuePair.deserializeBytesValue_reads h tail
    exact ByteBuffer.eq_ok_of_agrees (KeyValuePair.deserializeBytesValue_agrees _ typeValue) hread

theorem readParameterKvp_reads {prevType : UInt64} {kvp : Moqtail.KeyValuePair} {value : Bytes}
    (h : kvp.Fits) (hle : prevType ≤ kvp.getType)
    (hvalue : Moqtail.serializeParameterValue kvp = .ok value) :
    Reads (readParameterKvp (ofU64 prevType)) (putVi (kvp.getType - prevType) ++ value)
      (ofU64 kvp.getType, .ofRust kvp) := by
  intro tail
  have hsum : ofU64 prevType + ofU64 (kvp.getType - prevType) = ofU64 kvp.getType := by
    have hle' := UInt64.le_iff_toNat_le.mp hle
    dsimp only [ofU64]
    rw [UInt64.toNat_sub_of_le _ _ hle]
    omega
  rw [readParameterKvp, List.append_assoc, ByteBuffer.getVI_putVi, except_ok_bind]
  dsimp only
  have hread := readParameterValue_reads h hvalue tail
  dsimp only at hread
  rw [hsum, hread]
  rfl

theorem readsTimes_ofRust (kvps : List Moqtail.KeyValuePair) :
    ∀ (prevType : UInt64) (out : Bytes), (∀ kvp ∈ kvps, kvp.Fits) →
      Moqtail.serializeParametersFrom prevType kvps = .ok out →
        ReadsTimes readParameterKvp (ofU64 prevType) (kvps.map KeyValuePair.ofRust) out := by
  induction kvps with
  | nil =>
    intro prevType out _ h
    cases h
    exact .nil _
  | cons kvp rest ih =>
    intro prevType out hfits h
    rw [List.forall_mem_cons] at hfits
    obtain ⟨hle, value, tail, hvalue, htail, rfl⟩ := serializeParametersFrom_cons_eq_ok h
    exact .cons (readParameterKvp_reads hfits.1 hle hvalue) (ih kvp.getType tail hfits.2 htail)

/-- The pairs that the other library has written are read, to the last byte. -/
theorem deserializeMessageParameterKvps_reads {kvps : List Moqtail.KeyValuePair} {out : Bytes}
    (hfits : ∀ kvp ∈ kvps, kvp.Fits) (h : Moqtail.serializeParametersFrom 0 kvps = .ok out) :
    deserializeMessageParameterKvps out kvps.length = .ok (kvps.map .ofRust, []) := by
  have hreads := (readsTimes_ofRust kvps 0 out hfits h).reads []
  rw [List.length_map, List.append_nil] at hreads
  exact hreads

namespace MessageParameter

/-! Reading one parameter. -/

theorem deserialize_sameToken {token : AuthorizationToken} {variant : AuthTokenVariant}
    {payload : Bytes} (h : SameToken token variant) (hpayload : token.serialize = .ok payload) :
    AuthTokenVariant.deserialize payload = .ok variant := by
  have hread := ByteBuffer.getVI_putVi
  have hnil := ByteBuffer.getVI_putVi_nil
  have hnumber : ∀ (v : UInt64) (rest : Bytes), v.toNat ≤ 3 →
      ByteBuffer.getNumberVI (putVi v ++ rest) = .ok (ofU64 v, rest) := by
    intro v rest hv
    apply ByteBuffer.getNumberVI_putVi
    dsimp only [ofU64, maxSafeInteger]
    omega
  cases h <;> cases hpayload
  case delete tokenAlias =>
    show AuthTokenVariant.deserialize (putVi 0 ++ putVi tokenAlias) = _
    rw [AuthTokenVariant.deserialize, hnumber 0 _ (by decide), except_ok_bind]
    show (ByteBuffer.getVI _ >>= _) = _
    rw [hnil]
    rfl
  case register tokenAlias tokenType tokenValue =>
    show AuthTokenVariant.deserialize
      (putVi 1 ++ (putVi tokenAlias ++ putVi tokenType ++ tokenValue)) = _
    rw [AuthTokenVariant.deserialize, hnumber 1 _ (by decide), except_ok_bind, List.append_assoc]
    show (ByteBuffer.getVI _ >>= _) = _
    rw [hread, except_ok_bind]
    dsimp only
    rw [hread]
    rfl
  case useAlias tokenAlias =>
    show AuthTokenVariant.deserialize (putVi 2 ++ putVi tokenAlias) = _
    rw [AuthTokenVariant.deserialize, hnumber 2 _ (by decide), except_ok_bind]
    show (ByteBuffer.getVI _ >>= _) = _
    rw [hnil]
    rfl
  case useValue tokenType tokenValue =>
    show AuthTokenVariant.deserialize (putVi 3 ++ (putVi tokenType ++ tokenValue)) = _
    rw [AuthTokenVariant.deserialize, hnumber 3 _ (by decide), except_ok_bind]
    show (ByteBuffer.getVI _ >>= _) = _
    rw [hread]
    rfl

theorem deserializeSwitchFrom_reads (requestId : UInt64) (mode : SwitchMode) (publishDone : Bool) :
    deserializeSwitchFrom (putVi requestId ++ putVi mode.toU64 ++
      [if publishDone then Moqtail.MessageParameter.switchFromPublishDone else 0]) =
        .ok (switchFrom (ofU64 requestId) mode publishDone) := by
  have hmode : switchModeOf (ofU64 mode.toU64) = .ok mode := by cases mode <;> rfl
  rw [deserializeSwitchFrom, List.append_assoc, ByteBuffer.getVI_putVi, except_ok_bind]
  dsimp only
  rw [ByteBuffer.getVI_putVi, except_ok_bind]
  dsimp only
  rw [hmode]
  cases publishDone <;> rfl

theorem deserializeSwitchingSetAssignment_reads
    (setId algorithmId threshold weight activate : UInt64) (rank : UInt8)
    (hweight : 1 ≤ weight ∧ weight ≤ 10) :
    deserializeSwitchingSetAssignment (putVi setId ++ putVi algorithmId ++ putVi threshold ++
      putVi weight ++ putVi activate ++ [rank]) =
        .ok (switchingSetAssignment (ofU64 setId) (ofU64 algorithmId) (ofU64 threshold) (ofU64 weight)
          (ofU64 activate) rank.toNat) := by
  have hrange : ¬ (ofU64 weight < 1 ∨ ofU64 weight > 10) := by
    obtain ⟨hlow, hhigh⟩ := hweight
    rw [UInt64.le_iff_toNat_le] at hlow hhigh
    have hone : (1 : UInt64).toNat = 1 := rfl
    have hten : (10 : UInt64).toNat = 10 := rfl
    dsimp only [ofU64]
    omega
  have hread := ByteBuffer.getVI_putVi
  rw [deserializeSwitchingSetAssignment]
  simp only [List.append_assoc, hread, except_ok_bind, if_neg hrange]
  rfl

theorem rangeFilterKindOf_parameterType (kind : RangeFilterKind) :
    rangeFilterKindOf (ofU64 kind.parameterType.toU64) = some kind := by
  cases kind <;> rfl

section Classes

variable {fill : Bytes → Result MessageParameter} {value : Bytes}

/-- A pair that one class makes something of. -/
theorem firstOf_of_some {read : KeyValuePair → Result (Option MessageParameter)}
    {others : List (KeyValuePair → Result (Option MessageParameter))} {pair : KeyValuePair}
    {p' : MessageParameter} (h : read pair = .ok (some p')) :
    firstOf (read :: others) pair = .ok (some p') := by
  rw [firstOf, h]
  rfl

theorem firstOf_of_none {read : KeyValuePair → Result (Option MessageParameter)}
    {others : List (KeyValuePair → Result (Option MessageParameter))} {pair : KeyValuePair}
    (h : read pair = .ok none) : firstOf (read :: others) pair = firstOf others pair := by
  rw [firstOf, h]
  rfl

theorem ofVarInt_of_ok {make : Int → Result MessageParameter} {v : UInt64} {p' : MessageParameter}
    (h : make (ofU64 v) = .ok p') :
    ofVarInt t make (.ofRust (.varInt t.toU64 v)) = .ok (some p') := by
  rw [ofVarInt, KeyValuePair.ofRust]
  dsimp only
  rw [if_neg (not_not.mpr (messageParameterTypeValue_eq t).symm), h]
  rfl

theorem ofBytes_of_ok {make : Bytes → Result MessageParameter} {p' : MessageParameter}
    (h : make value = .ok p') :
    ofBytes t make (.ofRust (.bytes t.toU64 value)) = .ok (some p') := by
  rw [ofBytes, KeyValuePair.ofRust]
  dsimp only
  rw [if_neg (not_not.mpr (messageParameterTypeValue_eq t).symm), h]
  rfl

theorem ofRangeFilter_of_ok {kind : RangeFilterKind} {f : RangeFilter}
    (h : RangeFilter.deserializeValue kind value = .ok f) :
    ofRangeFilter (.ofRust (.bytes kind.parameterType.toU64 value)) = .ok (some (rangeFilter f)) := by
  rw [ofRangeFilter, KeyValuePair.ofRust]
  dsimp only
  rw [rangeFilterKindOf_parameterType]
  dsimp only
  rw [h]
  rfl

/-- The pair of a parameter that is no FILL_PARAMETERS is read back as the parameter. -/
theorem fromKeyValuePair_leaf {list : List Moqtail.MessageParameter → Parse Bytes}
    {p' : MessageParameter} {kvp : Moqtail.KeyValuePair} (h : Same p p')
    (hleaf : p.parameterType ≠ .fillParameters) (hwf : p.WellFormed)
    (hkvp : p.toKeyValuePairWith list = .ok kvp) :
    fromKeyValuePairWith fill (.ofRust kvp) = .ok (some p') := by
  cases h with
  | objectDeliveryTimeout value =>
    cases hkvp
    rfl
  | subgroupDeliveryTimeout value =>
    cases hkvp
    rfl
  | rendezvousTimeout value =>
    cases hkvp
    rfl
  | fillTimeout value =>
    cases hkvp
    rfl
  | expires value =>
    cases hkvp
    rfl
  | newGroupRequest value =>
    cases hkvp
    rfl
  | forward value =>
    cases hkvp
    cases value <;> rfl
  | includeProperties included =>
    cases hkvp
    cases included <;> rfl
  | groupOrder order made =>
    cases hkvp
    cases order with
    | original => exact absurd rfl made
    | ascending => rfl
    | descending => rfl
  | subscriberPriority priority =>
    cases hkvp
    have hbyte : ofU64 priority.toUInt64 = priority.toNat := by
      rw [ofU64, UInt8.toNat_toUInt64]
    have hmake : makeSubscriberPriority (ofU64 priority.toUInt64) =
        .ok (subscriberPriority priority.toNat) := by
      have := priority.toNat_lt
      rw [hbyte, makeSubscriberPriority, if_neg (by omega)]
    rw [fromKeyValuePairWith, readers]
    repeat refine (firstOf_of_none rfl).trans ?_
    exact firstOf_of_some (ofVarInt_of_ok hmake)
  | @authorizationToken token variant htoken =>
    obtain ⟨payload, hpayload, hnew⟩ := except_bind_eq_ok.mp hkvp
    rw [KeyValuePair.tryNewBytes_of_odd (by decide)] at hnew
    obtain ⟨-, rfl⟩ := Moqtail.KeyValuePair.newBytes_eq_ok.mp hnew
    have hmake : deserializeAuthorizationToken payload = .ok (authorizationToken variant) := by
      rw [deserializeAuthorizationToken, deserialize_sameToken htoken hpayload]
      rfl
    rw [fromKeyValuePairWith, readers]
    repeat refine (firstOf_of_none rfl).trans ?_
    exact firstOf_of_some (ofBytes_of_ok hmake)
  | largestObject location =>
    rw [Moqtail.MessageParameter.toKeyValuePairWith,
      KeyValuePair.tryNewBytes_of_odd (by decide)] at hkvp
    obtain ⟨-, rfl⟩ := Moqtail.KeyValuePair.newBytes_eq_ok.mp hkvp
    have hread := Location.deserialize_reads location []
    rw [List.append_nil] at hread
    have hmake : deserializeLargestObject location.serialize =
        .ok (largestObject (.ofRust location)) := by
      rw [deserializeLargestObject, hread]
      rfl
    rw [fromKeyValuePairWith, readers]
    repeat refine (firstOf_of_none rfl).trans ?_
    exact firstOf_of_some (ofBytes_of_ok hmake)
  | @locationFilter filter f hfilter =>
    obtain ⟨value, hvalue, hnew⟩ := except_bind_eq_ok.mp hkvp
    obtain ⟨-, rfl⟩ := Moqtail.KeyValuePair.newBytes_eq_ok.mp hnew
    have hread := LocationFilter.deserializeValue_reads hfilter hvalue []
    rw [List.append_nil] at hread
    have hmake : deserializeLocationFilter value = .ok (locationFilter f) := by
      rw [deserializeLocationFilter, hread]
      rfl
    rw [fromKeyValuePairWith, readers]
    repeat refine (firstOf_of_none rfl).trans ?_
    exact firstOf_of_some (ofBytes_of_ok hmake)
  | switchFrom requestId mode publishDone =>
    obtain ⟨-, rfl⟩ := Moqtail.KeyValuePair.newBytes_eq_ok.mp hkvp
    rw [fromKeyValuePairWith, readers]
    repeat refine (firstOf_of_none rfl).trans ?_
    exact firstOf_of_some (ofBytes_of_ok (deserializeSwitchFrom_reads requestId mode publishDone))
  | fillParameters hparams => exact absurd rfl hleaf
  | @rangeFilter kind filter f hfilter =>
    have hmake : ∃ value, Moqtail.KeyValuePair.newBytes kind.parameterType.toU64 value = .ok kvp ∧
        RangeFilter.deserializeValue kind value = .ok f := by
      cases filter with
      | none => exact ⟨[], hkvp, hfilter⟩
      | some filter =>
        rw [Moqtail.MessageParameter.toKeyValuePairWith,
          if_neg (not_not.mpr (RangeFilter.checks_of_ofRust hfilter).1)] at hkvp
        obtain ⟨value, hvalue, hnew⟩ := except_bind_eq_ok.mp hkvp
        exact ⟨value, hnew, RangeFilter.deserializeValue_reads hfilter hvalue⟩
    obtain ⟨value, hnew, hread⟩ := hmake
    obtain ⟨-, rfl⟩ := Moqtail.KeyValuePair.newBytes_eq_ok.mp hnew
    have hmake := ofRangeFilter_of_ok hread
    rw [fromKeyValuePairWith, readers]
    cases kind <;>
    · repeat refine (firstOf_of_none rfl).trans ?_
      exact firstOf_of_some hmake
  | switchingSetAssignment setId algorithmId threshold weight activate rank =>
    rw [Moqtail.MessageParameter.toKeyValuePairWith,
      KeyValuePair.tryNewBytes_of_odd (by decide)] at hkvp
    obtain ⟨-, rfl⟩ := Moqtail.KeyValuePair.newBytes_eq_ok.mp hkvp
    have hmake := deserializeSwitchingSetAssignment_reads setId algorithmId threshold weight activate
      rank hwf
    rw [fromKeyValuePairWith, readers]
    repeat refine (firstOf_of_none rfl).trans ?_
    exact firstOf_of_some (ofBytes_of_ok hmake)

end Classes

/-! FILL_PARAMETERS. -/

theorem toKeyValuePairs_eq_mapM (params : List MessageParameter) :
    toKeyValuePairs params = params.mapM toKeyValuePair := by
  induction params with
  | nil => rfl
  | cons p params ih =>
    rw [toKeyValuePairs, List.mapM_cons, ih]

theorem typeValue_of_tryNewBytes {value : Bytes} {pair : KeyValuePair}
    (h : tryNewBytes t value = .ok pair) : pair.typeValue = ofU64 t.toU64 := by
  unfold tryNewBytes KeyValuePair.tryNewBytes KeyValuePair.newBytes at h
  split_ifs at h
  cases h
  exact messageParameterTypeValue_eq t

/-- A pair has the Type of the parameter it was made of. -/
theorem typeValue_of_toKeyValuePair {p' : MessageParameter} {pair : KeyValuePair} (h : Same p p')
    (hpair : p'.toKeyValuePair = .ok pair) : pair.typeValue = ofU64 p.typeValue := by
  by_cases hleaf : p.parameterType = .fillParameters
  · cases h with
    | fillParameters hparams =>
      rw [toKeyValuePair] at hpair
      obtain ⟨pairs, -, hpair⟩ := except_bind_eq_ok.mp hpair
      obtain ⟨_, -, hpair⟩ := except_bind_eq_ok.mp hpair
      obtain ⟨count, -, hpair⟩ := except_bind_eq_ok.mp hpair
      obtain ⟨list, -, hpair⟩ := except_bind_eq_ok.mp hpair
      exact typeValue_of_tryNewBytes hpair
    | @rangeFilter kind filter f hfilter => cases kind <;> cases hleaf
    | _ => cases hleaf
  · have hagrees : Agree (Paired p) (p.toKeyValuePairWith fun _ => .ok []) p'.toKeyValuePair :=
      toKeyValuePair_leaf h hleaf
    rw [hpair] at hagrees
    generalize p.toKeyValuePairWith (fun _ => .ok []) = pair' at hagrees
    cases hagrees with
    | ok hpaired => rw [hpaired.eq, KeyValuePair.typeValue_ofRust, hpaired.getType]

theorem isAllowed_eq {pair : KeyValuePair} {typeValue : UInt64}
    (h : pair.typeValue = ofU64 typeValue) :
    FillParameters.isAllowed pair = isValidFillParameter typeValue := by
  rw [Bool.eq_iff_iff]
  simp only [FillParameters.isAllowed, FillParameters.allowed, List.any_cons, List.any_nil, h,
    messageParameterTypeValue_eq, ofU64_inj, Bool.or_eq_true, decide_eq_true_eq, isValidFillParameter,
    isObjectRangeFilter, or_assoc, eq_comm (b := typeValue), Bool.false_eq_true, or_false]

theorem checkAllowed_eq_ok {context : String} {pairs : List KeyValuePair} :
    FillParameters.checkAllowed context pairs = .ok () ↔
      ∀ pair ∈ pairs, FillParameters.isAllowed pair = true := by
  unfold FillParameters.checkAllowed
  split
  next pair hfind =>
    have hmem := List.mem_of_find?_eq_some hfind
    have hnot := List.find?_some hfind
    constructor
    · intro h
      cases h
    · intro hall
      rw [hall pair hmem] at hnot
      cases hnot
  next hfind =>
    constructor
    · rintro - pair hmem
      simpa using List.find?_eq_none.mp hfind pair hmem
    · exact fun _ => rfl

/-- The two libraries allow the same parameters inside FILL_PARAMETERS. -/
theorem allowed_iff {params : List Moqtail.MessageParameter} {params' : List MessageParameter}
    {pairs : List KeyValuePair} (h : List.Forall₂ Same params params')
    (hpairs : toKeyValuePairs params' = .ok pairs) :
    (∀ pair ∈ pairs, FillParameters.isAllowed pair = true) ↔
      ∀ p ∈ params, isValidFillParameter p.typeValue = true := by
  rw [toKeyValuePairs_eq_mapM, mapM_eq_ok_iff] at hpairs
  induction h generalizing pairs with
  | nil =>
    cases hpairs
    simp
  | @cons p p' params params' hsame _ ih =>
    cases hpairs with
    | cons hpair hrest =>
      rw [List.forall_mem_cons, List.forall_mem_cons, ih hrest,
        isAllowed_eq (typeValue_of_toKeyValuePair hsame hpair)]

/-- The pairs of two lists. -/
theorem pairs_of_forall₂ {kvps : List Moqtail.KeyValuePair} {pairs : List KeyValuePair}
    (h : List.Forall₂ (fun kvp pair => ∃ p, Paired p kvp pair) kvps pairs) :
    pairs = kvps.map .ofRust ∧ ∀ kvp ∈ kvps, kvp.Fits := by
  induction h with
  | nil => exact ⟨rfl, fun _ hmem => absurd hmem List.not_mem_nil⟩
  | cons hpaired _ ih =>
    obtain ⟨p, hpaired⟩ := hpaired
    rw [List.forall_mem_cons, List.map_cons, ← hpaired.eq, ← ih.1]
    exact ⟨rfl, hpaired.fits, ih.2⟩

/-- A Value that is longer than any list of so many parameters may be. -/
theorem tryNewBytes_error_of_long {value : Bytes} (hodd : ¬ t.toU64 % 2 = 0)
    (hlong : value.length > Moqtail.maxValueLength) :
    (∃ e, Moqtail.KeyValuePair.tryNewBytes t.toU64 value = .error e) ∧
      ∃ e, tryNewBytes t value = .error e := by
  have hlong' : (value.length : Int) > maxValueLength := by
    unfold Moqtail.maxValueLength at hlong
    unfold maxValueLength
    omega
  constructor
  · rw [KeyValuePair.tryNewBytes_of_odd hodd, Moqtail.KeyValuePair.newBytes, if_pos hlong]
    exact ⟨_, rfl⟩
  · rw [tryNewBytes, messageParameterTypeValue_eq, KeyValuePair.tryNewBytes,
      if_neg ((KeyValuePair.parity_ofU64 _).not.mp hodd), KeyValuePair.newBytes, if_pos hlong']
    exact ⟨_, rfl⟩

/-- The Value of a FILL_PARAMETERS: a count and the list. -/
theorem fillValue_agrees {kvps : List Moqtail.KeyValuePair} {n : Nat}
    (hfits : ∀ kvp ∈ kvps, kvp.Fits) (hn : kvps.length = n)
    (hp : p.parameterType = .fillParameters) :
    Agree (Paired p)
      (Moqtail.serializeParametersFrom 0 (sortByType kvps) >>= fun list =>
        Moqtail.KeyValuePair.tryNewBytes MessageParameterType.fillParameters.toU64
          (putVi (UInt64.ofNat n) ++ list))
      (ByteBuffer.putVI n >>= fun count =>
        serializeMessageParameterKvps (kvps.map .ofRust) >>= fun list =>
          tryNewBytes .fillParameters (count ++ list)) := by
  obtain ⟨list, hlist, hlist'⟩ := serializeMessageParameterKvps_ofRust hfits
  have hlength := length_le_serializeParametersFrom _ _ _ hlist
  rw [sortByType, List.length_insertionSort, hn] at hlength
  rw [hlist, hlist', except_ok_bind]
  by_cases hlong : list.length > Moqtail.maxValueLength
  · -- both refuse the Value, or the count before it
    have hlonger : ∀ count : Bytes, (count ++ list).length > Moqtail.maxValueLength := by
      intro count
      rw [List.length_append]
      omega
    obtain ⟨e, he⟩ := (tryNewBytes_error_of_long (t := .fillParameters) (by decide)
      (hlonger (putVi (UInt64.ofNat n)))).1
    rw [he]
    cases ByteBuffer.putVI n with
    | error d => exact .error _ _
    | ok count =>
      obtain ⟨d, hd⟩ := (tryNewBytes_error_of_long (t := .fillParameters) (by decide)
        (hlonger count)).2
      rw [except_ok_bind, except_ok_bind, hd]
      exact .error _ _
  · have hlt : n < 2 ^ 64 := by
      unfold Moqtail.maxValueLength at hlong
      omega
    have hcount : (n : Int) = ofU64 (UInt64.ofNat n) :=
      congrArg Nat.cast (UInt64.toNat_ofNat_of_lt' hlt).symm
    rw [hcount, ByteBuffer.putVI_eq, except_ok_bind, except_ok_bind]
    exact tryNewBytes_agrees _ hp (by decide) (fits_bytes (by decide))

theorem mapM_agrees {toPair : Moqtail.MessageParameter → Parse Moqtail.KeyValuePair}
    {params : List Moqtail.MessageParameter} {params' : List MessageParameter}
    (h : List.Forall₂ (fun p p' => Agree (Paired p) (toPair p) p'.toKeyValuePair) params params') :
    Agree (fun kvps pairs => pairs = kvps.map .ofRust ∧ ∀ kvp ∈ kvps, kvp.Fits)
      (params.mapM toPair) (toKeyValuePairs params') := by
  rw [toKeyValuePairs_eq_mapM]
  have hall : List.Forall₂ (fun p p' => Agree (fun kvp pair => ∃ p, Paired p kvp pair) (toPair p)
      p'.toKeyValuePair) params params' :=
    h.imp fun p p' hagrees => hagrees.imp fun kvp pair _ _ hpaired => ⟨p, hpaired⟩
  exact (Agree.mapM hall).imp fun kvps pairs _ _ hpairs => pairs_of_forall₂ hpairs

theorem toKeyValuePair_fillParameters {params : List Moqtail.MessageParameter}
    {params' : List MessageParameter} (h : List.Forall₂ Same params params') :
    Agree (Paired (.fillParameters params))
      (Moqtail.MessageParameter.toKeyValuePair (.fillParameters params))
      (toKeyValuePair (.fillParameters params')) := by
  rw [Moqtail.MessageParameter.toKeyValuePair, Moqtail.MessageParameter.toKeyValuePairWith,
    toKeyValuePair]
  by_cases hvalid : ∀ p ∈ params, isValidFillParameter p.typeValue = true
  · have hfind : (params.find? fun p => ! isValidFillParameter p.typeValue) = none := by
      rw [List.find?_eq_none]
      intro p hp
      simp [hvalid p hp]
    have hleaves : List.Forall₂ (fun p p' => Agree (Paired p)
        p.toKeyValuePairInFill p'.toKeyValuePair) params params' := by
      refine ((List.forall₂_and_left _ _).mpr ⟨hvalid, h⟩).imp ?_
      rintro p p' ⟨hp, hsame⟩
      exact toKeyValuePair_leaf hsame
        (Moqtail.MessageParameter.typeValue_of_isValidFillParameter hp).1
    rw [hfind, serializeMessageParametersWith]
    dsimp only
    rw [bind_assoc]
    apply (mapM_agrees hleaves).bind
    rintro kvps pairs hkvps hpairs ⟨rfl, hfits⟩
    have hlength : kvps.length = params.length := (mapM_eq_ok_iff.mp hkvps).length_eq.symm
    have hallowed : FillParameters.checkAllowed "FillParameters.toKeyValuePair"
        (kvps.map KeyValuePair.ofRust) = .ok () := by
      rw [checkAllowed_eq_ok]
      exact (allowed_iff h hpairs).mpr hvalid
    rw [hallowed, except_ok_bind, List.length_map, hlength]
    exact fillValue_agrees hfits hlength rfl
  · cases hfind : params.find? fun p => ! isValidFillParameter p.typeValue with
    | none =>
      refine absurd (fun p hp => ?_) hvalid
      simpa using List.find?_eq_none.mp hfind p hp
    | some p =>
      dsimp only
      cases hpairs : toKeyValuePairs params' with
      | error e => exact .error _ _
      | ok pairs =>
        rw [except_ok_bind]
        cases hallowed : FillParameters.checkAllowed "FillParameters.toKeyValuePair" pairs with
        | error e => exact .error _ _
        | ok checked => exact absurd ((allowed_iff h hpairs).mp (checkAllowed_eq_ok.mp hallowed)) hvalid

/-- Both libraries make the same pair of a parameter, or none. -/
theorem toKeyValuePair_agrees {p' : MessageParameter} (h : Same p p') :
    Agree (Paired p) p.toKeyValuePair p'.toKeyValuePair := by
  by_cases hleaf : p.parameterType = .fillParameters
  · cases h with
    | fillParameters hparams => exact toKeyValuePair_fillParameters hparams
    | @rangeFilter kind filter f hfilter => cases kind <;> cases hleaf
    | _ => cases hleaf
  · exact toKeyValuePair_leaf h hleaf

theorem fromKeyValuePairs_of_forall₂ {fill : Bytes → Result MessageParameter}
    {R : Moqtail.MessageParameter → MessageParameter → Prop} {params : List Moqtail.MessageParameter}
    {kvps : List Moqtail.KeyValuePair}
    (h : List.Forall₂ (fun p kvp => ∃ back, R p back ∧
      fromKeyValuePairWith fill (.ofRust kvp) = .ok (some back)) params kvps) :
    ∃ backs, List.Forall₂ R params backs ∧
      fromKeyValuePairsWith fill (kvps.map .ofRust) = .ok backs := by
  induction h with
  | nil => exact ⟨[], .nil, rfl⟩
  | cons hone _ ih =>
    obtain ⟨back, hR, hback⟩ := hone
    obtain ⟨backs, hall, hbacks⟩ := ih
    refine ⟨back :: backs, .cons hR hall, ?_⟩
    rw [List.map_cons, fromKeyValuePairsWith, hback, except_ok_bind, hbacks]
    rfl

theorem fromKeyValuePair_fillParameters {params : List Moqtail.MessageParameter}
    {params' : List MessageParameter} {kvp : Moqtail.KeyValuePair}
    (h : List.Forall₂ Same params params')
    (hkvp : Moqtail.MessageParameter.toKeyValuePair (.fillParameters params) = .ok kvp) :
    ∃ back, Same (Moqtail.MessageParameter.fillParameters params).canonical back ∧
      fromKeyValuePair (.ofRust kvp) = .ok (some back) := by
  rw [Moqtail.MessageParameter.toKeyValuePair, Moqtail.MessageParameter.toKeyValuePairWith] at hkvp
  split at hkvp
  · cases hkvp
  next hfind =>
    have hvalid : ∀ p ∈ params, isValidFillParameter p.typeValue = true := by
      intro p hp
      simpa using List.find?_eq_none.mp hfind p hp
    obtain ⟨list, hlist, hnew⟩ := except_bind_eq_ok.mp hkvp
    obtain ⟨kvps, hkvps, hout⟩ := except_bind_eq_ok.mp hlist
    rw [KeyValuePair.tryNewBytes_of_odd (by decide)] at hnew
    obtain ⟨hmax, rfl⟩ := Moqtail.KeyValuePair.newBytes_eq_ok.mp hnew
    have hall : List.Forall₂ (fun p kvp => isValidFillParameter p.typeValue = true ∧
        kvp.Fits ∧ kvp.getType = p.typeValue ∧ ∃ back, Same p back ∧ fromKeyValuePairWith
          (fun _ => .error (.error "a FILL_PARAMETERS inside FILL_PARAMETERS")) (.ofRust kvp) =
            .ok (some back)) params kvps := by
      have hgood : ∀ p ∈ params, isValidFillParameter p.typeValue = true ∧ ∃ back, Same p back := by
        intro p hp
        obtain ⟨back, -, hback⟩ := exists_of_forall₂ h p hp
        exact ⟨hvalid p hp, back, hback⟩
      refine ((List.forall₂_and_left _ _).mpr ⟨hgood, mapM_eq_ok_iff.mp hkvps⟩).imp ?_
      rintro p kvp ⟨⟨hp, back, hsame⟩, hpair⟩
      obtain ⟨hleaf, hwf, -⟩ := Moqtail.MessageParameter.typeValue_of_isValidFillParameter hp
      have hcarries : Moqtail.MessageParameter.Carries Moqtail.MessageParameter.deserializeInFill kvp
          p p := Moqtail.MessageParameter.carries_of_toKeyValuePairWith hwf hleaf hpair
      exact ⟨hp, hcarries.fits, hcarries.getType, back, hsame,
        fromKeyValuePair_leaf hsame hleaf hwf hpair⟩
    have hsorted := forall₂_sort (fun p kvp h => h.2.2.1) hall
    have hfits : ∀ kvp ∈ sortByType kvps, kvp.Fits :=
      forall_mem_of_forall₂ (fun p kvp h => h.2.1) hsorted
    have hallowed : FillParameters.checkAllowed "FillParameters.fromKeyValuePair"
        ((sortByType kvps).map KeyValuePair.ofRust) = .ok () := by
      rw [checkAllowed_eq_ok, List.forall_mem_map]
      refine forall_mem_of_forall₂
        (P := fun kvp => FillParameters.isAllowed (KeyValuePair.ofRust kvp) = true) ?_ hsorted
      intro p kvp hone
      rw [isAllowed_eq (KeyValuePair.typeValue_ofRust kvp), hone.2.2.1]
      exact hone.1
    obtain ⟨backs, hsame, hbacks⟩ := fromKeyValuePairs_of_forall₂ (hsorted.imp fun p kvp h => h.2.2.2)
    have hread := deserializeMessageParameterKvps_reads hfits hout
    have hcount : (sortByType kvps).length = params.length := by
      rw [sortByType, List.length_insertionSort]
      exact (mapM_eq_ok_iff.mp hkvps).length_eq.symm
    have hlength := length_le_serializeParametersFrom _ _ _ hout
    rw [hcount] at hread hlength
    unfold Moqtail.maxValueLength at hmax
    rw [List.length_append] at hmax
    have hlt : params.length < 2 ^ 64 := by omega
    have hn : (ofU64 (UInt64.ofNat params.length)).toNat = params.length := by
      rw [ofU64, Int.toNat_natCast]
      exact UInt64.toNat_ofNat_of_lt' hlt
    refine ⟨fillParameters backs, .fillParameters hsame, ?_⟩
    have hmake : deserializeFillParameters (putVi (UInt64.ofNat params.length) ++ list) =
        .ok (fillParameters backs) := by
      rw [deserializeFillParameters, ByteBuffer.getVI_putVi, except_ok_bind]
      dsimp only
      rw [hn, hread, except_ok_bind]
      dsimp only
      rw [if_neg (by decide), hallowed, except_ok_bind, hbacks]
      rfl
    rw [fromKeyValuePair, fromKeyValuePairWith, readers]
    repeat refine (firstOf_of_none rfl).trans ?_
    exact firstOf_of_some (ofBytes_of_ok hmake)

/-- What the other library has written of a parameter is read as the parameter it reads. -/
theorem fromKeyValuePair_reads {p' : MessageParameter} {kvp : Moqtail.KeyValuePair} (h : Same p p')
    (hwf : p.WellFormed) (hkvp : p.toKeyValuePair = .ok kvp) :
    ∃ back, Same p.canonical back ∧ fromKeyValuePair (.ofRust kvp) = .ok (some back) := by
  by_cases hleaf : p.parameterType = .fillParameters
  · cases h with
    | fillParameters hparams => exact fromKeyValuePair_fillParameters hparams hkvp
    | @rangeFilter kind filter f hfilter => cases kind <;> cases hleaf
    | _ => cases hleaf
  · have hcanonical : p.canonical = p := by
      cases p with
      | fillParameters parameters => exact absurd rfl hleaf
      | _ => rfl
    rw [hcanonical]
    exact ⟨p', h, fromKeyValuePair_leaf h hleaf hwf hkvp⟩

end MessageParameter

/-! The parameters of a message. -/

/-- Both libraries write the same bytes for the same parameters, or both refuse. -/
theorem serializeMessageParameters_agrees {params : List Moqtail.MessageParameter}
    {params' : List MessageParameter} (h : List.Forall₂ Same params params') :
    Agree Eq (Moqtail.serializeMessageParameters params) (serializeMessageParameters params') := by
  have hall : List.Forall₂ (fun p p' => Agree (MessageParameter.Paired p) p.toKeyValuePair
      p'.toKeyValuePair) params params' :=
    h.imp fun p p' hsame => MessageParameter.toKeyValuePair_agrees hsame
  apply (MessageParameter.mapM_agrees hall).bind
  rintro kvps pairs - - ⟨rfl, hfits⟩
  obtain ⟨out, hout, hout'⟩ := serializeMessageParameterKvps_ofRust hfits
  rw [hout, hout']
  exact .ok rfl

/-- What the other library has written of a message's parameters is read as the parameters in the
order of their Types, and the bytes after it are left. -/
theorem deserializeMessageParameters_reads_front {params : List Moqtail.MessageParameter}
    {params' : List MessageParameter} {out : Bytes} (h : List.Forall₂ Same params params')
    (hwf : ∀ p ∈ params, p.WellFormed) (hout : Moqtail.serializeMessageParameters params = .ok out) :
    ∃ backs, List.Forall₂ Same (canonicalParameters params) backs ∧
      Reads (fun buf => deserializeMessageParameters buf params.length) out backs := by
  obtain ⟨kvps, hkvps, hlist⟩ := except_bind_eq_ok.mp hout
  have hall : List.Forall₂ (fun p kvp => kvp.Fits ∧ kvp.getType = p.typeValue ∧
      ∃ back, Same p.canonical back ∧
        MessageParameter.fromKeyValuePair (.ofRust kvp) = .ok (some back)) params kvps := by
    have hgood : ∀ p ∈ params, p.WellFormed ∧ ∃ back, Same p back := by
      intro p hp
      obtain ⟨back, -, hback⟩ := exists_of_forall₂ h p hp
      exact ⟨hwf p hp, back, hback⟩
    refine ((List.forall₂_and_left _ _).mpr ⟨hgood, mapM_eq_ok_iff.mp hkvps⟩).imp ?_
    rintro p kvp ⟨⟨hp, back, hsame⟩, hpair⟩
    have hcarries := Moqtail.MessageParameter.carries_of_toKeyValuePair hp hpair
    exact ⟨hcarries.fits, hcarries.getType, MessageParameter.fromKeyValuePair_reads hsame hp hpair⟩
  have hsorted := forall₂_sort (fun p kvp h => h.2.1) hall
  have hfits : ∀ kvp ∈ sortByType kvps, kvp.Fits :=
    forall_mem_of_forall₂ (fun p kvp h => h.1) hsorted
  obtain ⟨backs, hsame, hbacks⟩ := MessageParameter.fromKeyValuePairs_of_forall₂
    (R := fun p back => Same p.canonical back) (hsorted.imp fun p kvp h => h.2.2)
  have hcount : (sortByType kvps).length = params.length := by
    rw [sortByType, List.length_insertionSort]
    exact (mapM_eq_ok_iff.mp hkvps).length_eq.symm
  refine ⟨backs, List.forall₂_map_left_iff.mpr hsame, fun tail => ?_⟩
  have hread := (readsTimes_ofRust (sortByType kvps) 0 out hfits hlist).reads tail
  rw [List.length_map, hcount] at hread
  have hkvpsRead : deserializeMessageParameterKvps (out ++ tail) params.length =
      .ok ((sortByType kvps).map .ofRust, tail) := hread
  dsimp only
  rw [deserializeMessageParameters, hkvpsRead, except_ok_bind]
  dsimp only
  rw [MessageParameter.fromKeyValuePairs, hbacks]
  rfl

/-- The same to the last byte. -/
theorem deserializeMessageParameters_reads {params : List Moqtail.MessageParameter}
    {params' : List MessageParameter} {out : Bytes} (h : List.Forall₂ Same params params')
    (hwf : ∀ p ∈ params, p.WellFormed) (hout : Moqtail.serializeMessageParameters params = .ok out) :
    ∃ backs, List.Forall₂ Same (canonicalParameters params) backs ∧
      deserializeMessageParameters out params.length = .ok (backs, []) := by
  obtain ⟨backs, hsame, hreads⟩ := deserializeMessageParameters_reads_front h hwf hout
  have hread := hreads []
  rw [List.append_nil] at hread
  exact ⟨backs, hsame, hread⟩

/-- The parameters of a message have the same bytes in both libraries, and each of them reads them
back from there in the order of their Types, the other one in a message that may carry them. -/
theorem parameter_codecs_agree (params : List Moqtail.MessageParameter)
    (params' : List MessageParameter) (h : List.Forall₂ Same params params') :
    Agree Eq (Moqtail.serializeMessageParameters params) (serializeMessageParameters params') ∧
      ∀ out, Moqtail.serializeMessageParameters params = .ok out →
        (∀ p ∈ params, p.WellFormed) →
          (∃ backs, List.Forall₂ Same (canonicalParameters params) backs ∧
            deserializeMessageParameters out params.length = .ok (backs, [])) ∧
          ∀ msgType, (∀ p ∈ params, p.isValidFor msgType = true) →
            decodeTimes (readMessageParameter msgType) params.length 0 out =
              .ok (canonicalParameters params, []) := by
  refine ⟨serializeMessageParameters_agrees h, fun out hout hwf => ?_⟩
  refine ⟨deserializeMessageParameters_reads h hwf hout, fun msgType hvalid => ?_⟩
  have hgood : ∀ p ∈ params, p.WellFormed ∧ p.isValidFor msgType = true :=
    fun p hp => ⟨hwf p hp, hvalid p hp⟩
  have hread := (readMessageParameters_reads hgood hout).2 []
  rw [List.append_nil] at hread
  exact hread

/-- Filters that repeat, one of them in a FILL_PARAMETERS, and a removal. -/
theorem parameter_codecs_agree_filters :
    let params : List Moqtail.MessageParameter :=
      [.subscriberPriority 128, .rangeFilter .subgroup (some ⟨1, none, [(2, some 3), (4, none)]⟩),
        .fillParameters [.rangeFilter .subgroup (some ⟨1, none, [(2, some 3)]⟩), .fillTimeout 7],
        .rangeFilter .subgroup (some ⟨0, none, []⟩), .rangeFilter .priority none]
    let params' : List MessageParameter :=
      [.subscriberPriority 128, .rangeFilter ⟨.subgroup, some 1, none, [(2, some 3), (4, none)], rfl⟩,
        .fillParameters [.rangeFilter ⟨.subgroup, some 1, none, [(2, some 3)], rfl⟩, .fillTimeout 7],
        .rangeFilter ⟨.subgroup, some 0, none, [], rfl⟩, .rangeFilter ⟨.priority, none, none, [], rfl⟩]
    Agree Eq (Moqtail.serializeMessageParameters params) (serializeMessageParameters params') ∧
      ∃ out, Moqtail.serializeMessageParameters params = .ok out ∧
        ∃ backs, List.Forall₂ Same (canonicalParameters params) backs ∧
          deserializeMessageParameters out params.length = .ok (backs, []) := by
  intro params params'
  have hsame : List.Forall₂ Same params params' := by
    refine .cons (.subscriberPriority 128) (.cons (.rangeFilter rfl) (.cons (.fillParameters ?_)
      (.cons (.rangeFilter rfl) (.cons (.rangeFilter rfl) .nil))))
    exact .cons (.rangeFilter rfl) (.cons (.fillTimeout 7) .nil)
  have hwf : ∀ p ∈ params, p.WellFormed := by
    simp only [params, List.forall_mem_cons]
    exact ⟨trivial, trivial, trivial, trivial, trivial, fun _ h => absurd h List.not_mem_nil⟩
  obtain ⟨hbytes, hread⟩ := parameter_codecs_agree params params' hsame
  refine ⟨hbytes, ?_⟩
  cases hout : Moqtail.serializeMessageParameters params with
  | error e =>
    have hok : (Moqtail.serializeMessageParameters params).toOption.isSome = true := by decide
    rw [hout] at hok
    cases hok
  | ok out => exact ⟨out, rfl, (hread out hout hwf).1⟩

/-- Parameters that are not in the order of their Types come back in another order. -/
theorem not_parameters_come_back :
    ¬ ∀ (params : List Moqtail.MessageParameter) (params' : List MessageParameter),
      List.Forall₂ Same params params' →
        ∃ out, Moqtail.serializeMessageParameters params = .ok out ∧
          deserializeMessageParameters out params.length = .ok (params', []) := by
  intro hall
  obtain ⟨out, hout, hread⟩ := hall [.subscriberPriority 1, .objectDeliveryTimeout 5]
    [.subscriberPriority 1, .objectDeliveryTimeout 5]
    (.cons (.subscriberPriority 1) (.cons (.objectDeliveryTimeout 5) .nil))
  have hbytes : Moqtail.serializeMessageParameters
      [.subscriberPriority 1, .objectDeliveryTimeout 5] = .ok [0x02, 5, 0x1e, 1] := by decide
  rw [hbytes] at hout
  cases hout
  have hback : deserializeMessageParameters [0x02, 5, 0x1e, 1] 2 =
      .ok ([.objectDeliveryTimeout 5, .subscriberPriority 1], []) := rfl
  have heq := hback.symm.trans hread
  cases heq

end Moqtail.Ts
