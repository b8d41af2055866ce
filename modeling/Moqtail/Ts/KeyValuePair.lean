import Moqtail.Ts.ByteBuffer

/-! Key-Value-Pairs of the TypeScript library, from `moqtail-ts/src/model/common/pair.ts`, and that
their lists are on the wire what those of the Rust library are. -/
namespace Moqtail.Ts

open Lib

def maxValueLength : Int := 2 ^ 16 - 1

inductive PairValue where
  | bigint (value : Int)
  | uint8Array (value : Bytes)
deriving Repr, DecidableEq

structure KeyValuePair where
  typeValue : Int
  value : PairValue
deriving Repr, DecidableEq

namespace KeyValuePair

def newVarInt (typeValue value : Int) : KeyValuePair := ⟨typeValue, .bigint value⟩

def tryNewVarInt (typeValue value : Int) : Result KeyValuePair :=
  if typeValue % 2 ≠ 0 then .error (.keyValueFormattingError "KeyValuePair.tryNewVarInt")
  else .ok (newVarInt typeValue value)

def newBytes (typeValue : Int) (value : Bytes) : Result KeyValuePair :=
  if value.length > maxValueLength then
    .error (.lengthExceedsMax "KeyValuePair.newBytes" maxValueLength value.length)
  else .ok ⟨typeValue, .uint8Array value⟩

def tryNewBytes (typeValue : Int) (value : Bytes) : Result KeyValuePair :=
  if typeValue % 2 = 0 then .error (.keyValueFormattingError "KeyValuePair.tryNewBytes")
  else newBytes typeValue value

/-- The Value field of a pair's wire form. -/
def serializeValue (kvp : KeyValuePair) : Result Bytes :=
  match kvp.value with
  | .bigint value => ByteBuffer.putVI value
  | .uint8Array value => ByteBuffer.putLengthPrefixedBytes value

def serializeDelta (kvp : KeyValuePair) (prevType : Int) : Result Bytes :=
  if kvp.typeValue < prevType then
    .error (.protocolViolation "KeyValuePair.serializeDelta"
      (s!"type {kvp.typeValue} is less than previous type {prevType}; a KVP list must be " ++
        "sorted by ascending type to be delta-encoded"))
  else do
    let delta ← ByteBuffer.putVI (kvp.typeValue - prevType)
    let value ← kvp.serializeValue
    return delta ++ value

def deserializeBytesValue (buf : Bytes) (typeValue : Int) : Result (KeyValuePair × Bytes) := do
  let (len, buf) ← ByteBuffer.getNumberVI buf
  if len > maxValueLength then
    throw (.lengthExceedsMax "KeyValuePair.deserializeBytesValue" maxValueLength len)
  let (value, buf) ← ByteBuffer.getBytes len buf
  return (⟨typeValue, .uint8Array value⟩, buf)

def deserializeValue (buf : Bytes) (typeValue : Int) : Result (KeyValuePair × Bytes) :=
  if typeValue % 2 = 0 then do
    let (value, buf) ← ByteBuffer.getVI buf
    return (⟨typeValue, .bigint value⟩, buf)
  else
    deserializeBytesValue buf typeValue

def deserializeDelta (buf : Bytes) (prevType : Int) : Result (KeyValuePair × Bytes) := do
  let (deltaType, buf) ← ByteBuffer.getVI buf
  let typeValue := prevType + deltaType
  if typeValue > maxU64 then
    throw (.protocolViolation "KeyValuePair.deserializeDelta"
      s!"previous type {prevType} plus delta type {deltaType} exceeds 2^64 - 1")
  deserializeValue buf typeValue

end KeyValuePair

/-- The loop of `serializeKvpList` over the sorted pairs. -/
def serializeKvpsFrom : Int → List KeyValuePair → Result Bytes
  | _, [] => .ok []
  | prevType, kvp :: rest => do
    let head ← kvp.serializeDelta prevType
    let tail ← serializeKvpsFrom kvp.typeValue rest
    return head ++ tail

/-- `Array.prototype.sort` is stable, as insertion sort is. -/
def serializeKvpList (items : List KeyValuePair) : Result Bytes :=
  serializeKvpsFrom 0 (items.insertionSort fun a b => a.typeValue ≤ b.typeValue)

/-- The loop of `deserializeKvpListUntilEmpty`. Each turn takes at least one byte, so `fuel` turns
are enough for `fuel` bytes. -/
def deserializeKvpsFrom : Nat → Int → Bytes → Result (List KeyValuePair)
  | 0, _, _ => .ok []
  | fuel + 1, prevType, buf =>
    if buf.isEmpty then .ok []
    else do
      let (kvp, buf) ← KeyValuePair.deserializeDelta buf prevType
      let items ← deserializeKvpsFrom fuel kvp.typeValue buf
      return kvp :: items

def deserializeKvpListUntilEmpty (buf : Bytes) : Result (List KeyValuePair) :=
  deserializeKvpsFrom buf.length 0 buf

/-- `fromKeyValuePair` of the container of immutable properties, of Objects and of tracks: the pairs
inside it. -/
def immutablePropertiesIn (context : String) (pair : KeyValuePair) :
    Result (Option (List KeyValuePair)) :=
  match pair.value with
  | .bigint _ => .ok none
  | .uint8Array value =>
    if pair.typeValue ≠ 0x0B then .ok none
    else do
      let properties ← deserializeKvpListUntilEmpty value
      if properties.any fun inner => inner.typeValue = 0x0B then
        throw (.protocolViolation context
          "ImmutableProperties must not contain nested ImmutableProperties (0x0B)")
      return some properties

namespace KeyValuePair

/-- The pair of the Rust library in the types of this one. -/
def ofRust : Moqtail.KeyValuePair → KeyValuePair
  | .varInt typeValue value => ⟨ofU64 typeValue, .bigint (ofU64 value)⟩
  | .bytes typeValue value => ⟨ofU64 typeValue, .uint8Array value⟩

@[simp] theorem typeValue_ofRust (kvp : Moqtail.KeyValuePair) :
    (ofRust kvp).typeValue = ofU64 kvp.getType := by
  cases kvp <;> rfl

/-- The pair as the Rust library has it, if its numbers are words. -/
def toRust (kvp : KeyValuePair) : Option Moqtail.KeyValuePair := do
  let typeValue ← toU64 kvp.typeValue
  match kvp.value with
  | .bigint value =>
    let value ← toU64 value
    return .varInt typeValue value
  | .uint8Array value => return .bytes typeValue value

theorem toRust_ofRust (kvp : Moqtail.KeyValuePair) : (ofRust kvp).toRust = some kvp := by
  cases kvp <;> simp [toRust, ofRust]

theorem mapM_toRust_ofRust (kvps : List Moqtail.KeyValuePair) :
    (kvps.map ofRust).mapM toRust = some kvps := by
  induction kvps with
  | nil => rfl
  | cons kvp rest ih =>
    rw [List.map_cons, List.mapM_cons, toRust_ofRust, ih]
    rfl

/-! Making. -/

theorem parity_ofU64 (typeValue : UInt64) : typeValue % 2 = 0 ↔ ofU64 typeValue % 2 = 0 := by
  rw [← UInt64.toNat_inj, UInt64.toNat_mod, ofU64]
  simp only [UInt64.reduceToNat]
  omega

theorem tryNewVarInt_agrees (typeValue value : UInt64) :
    Agree (fun kvp kvp' => kvp' = ofRust kvp) (Moqtail.KeyValuePair.tryNewVarint typeValue value)
      (tryNewVarInt (ofU64 typeValue) (ofU64 value)) := by
  unfold Moqtail.KeyValuePair.tryNewVarint tryNewVarInt
  by_cases heven : typeValue % 2 = 0
  · rw [if_neg (not_not.mpr heven), if_neg (not_not.mpr ((parity_ofU64 typeValue).mp heven))]
    exact .ok rfl
  · rw [if_pos heven, if_pos ((parity_ofU64 typeValue).not.mp heven)]
    exact .error _ _

theorem newBytes_agrees (typeValue : UInt64) (value : Bytes) :
    Agree (fun kvp kvp' => kvp' = ofRust kvp) (Moqtail.KeyValuePair.newBytes typeValue value)
      (newBytes (ofU64 typeValue) value) := by
  unfold Moqtail.KeyValuePair.newBytes newBytes
  have hiff : value.length > Moqtail.maxValueLength ↔ (value.length : Int) > maxValueLength := by
    rw [Moqtail.maxValueLength, maxValueLength]
    omega
  by_cases hmax : value.length > Moqtail.maxValueLength
  · rw [if_pos hmax, if_pos (hiff.mp hmax)]
    exact .error _ _
  · rw [if_neg hmax, if_neg (hiff.not.mp hmax)]
    exact .ok rfl

theorem newBytes_ofRust {typeValue : UInt64} {value : Bytes}
    (h : value.length ≤ Moqtail.maxValueLength) :
    newBytes (ofU64 typeValue) value = .ok (ofRust (.bytes typeValue value)) := by
  rw [newBytes, if_neg]
  · rfl
  · unfold Moqtail.maxValueLength at h
    unfold maxValueLength
    omega

theorem tryNewBytes_agrees (typeValue : UInt64) (value : Bytes) :
    Agree (fun kvp kvp' => kvp' = ofRust kvp) (Moqtail.KeyValuePair.tryNewBytes typeValue value)
      (tryNewBytes (ofU64 typeValue) value) := by
  unfold Moqtail.KeyValuePair.tryNewBytes tryNewBytes
  by_cases heven : typeValue % 2 = 0
  · rw [if_pos heven, if_pos ((parity_ofU64 typeValue).mp heven)]
    exact .error _ _
  · rw [if_neg heven, if_neg ((parity_ofU64 typeValue).not.mp heven)]
    exact newBytes_agrees typeValue value

/-! Writing. -/

theorem serializeValue_ofRust {kvp : Moqtail.KeyValuePair} {out : Bytes}
    (h : (ofRust kvp).serializeValue = .ok out) : out = kvp.serializeValue := by
  cases kvp with
  | varInt typeValue value =>
    have hvalue := ByteBuffer.putVI_eq value
    exact Except.ok.inj (h.symm.trans hvalue)
  | bytes typeValue value => exact ByteBuffer.putLengthPrefixedBytes_eq_ok h

theorem serializeDelta_ofRust {kvp : Moqtail.KeyValuePair} {prevType : UInt64} {out : Bytes}
    (h : (ofRust kvp).serializeDelta (ofU64 prevType) = .ok out) :
    kvp.serializeDelta prevType = .ok out := by
  unfold serializeDelta at h
  rw [typeValue_ofRust] at h
  split at h
  · cases h
  next hordered =>
    have hle : prevType ≤ kvp.getType := by
      rw [UInt64.le_iff_toNat_le]
      rw [ofU64, ofU64] at hordered
      omega
    have hdelta : ofU64 kvp.getType - ofU64 prevType = ofU64 (kvp.getType - prevType) := by
      rw [ofU64, ofU64, ofU64, UInt64.toNat_sub_of_le _ _ hle,
        Int.ofNat_sub (UInt64.le_iff_toNat_le.mp hle)]
    rw [hdelta, ByteBuffer.putVI_eq, except_ok_bind] at h
    obtain ⟨value, hvalue, hout⟩ := except_bind_eq_ok.mp h
    cases hout
    rw [kvp.serializeDelta_of_le prevType hle, serializeValue_ofRust hvalue]

theorem serializeKvpsFrom_ofRust (items : List Moqtail.KeyValuePair) :
    ∀ (prevType : UInt64) (out : Bytes),
      serializeKvpsFrom (ofU64 prevType) (items.map ofRust) = .ok out →
        Moqtail.serializeKvpsFrom prevType items = .ok out := by
  induction items with
  | nil =>
    intro prevType out h
    cases h
    rfl
  | cons kvp rest ih =>
    intro prevType out h
    rw [List.map_cons] at h
    obtain ⟨head, hhead, h⟩ := except_bind_eq_ok.mp h
    obtain ⟨tail, htail, hout⟩ := except_bind_eq_ok.mp h
    cases hout
    rw [typeValue_ofRust] at htail
    rw [Moqtail.serializeKvpsFrom, serializeDelta_ofRust hhead, except_ok_bind,
      ih kvp.getType tail htail]
    rfl

theorem serializeKvpList_ofRust {items : List Moqtail.KeyValuePair} {out : Bytes}
    (h : serializeKvpList (items.map ofRust) = .ok out) :
    Moqtail.serializeKvpList items = .ok out := by
  have hsorted : (items.insertionSort fun a b => a.getType ≤ b.getType).map ofRust =
      (items.map ofRust).insertionSort fun a b => a.typeValue ≤ b.typeValue := by
    apply List.map_insertionSort
    intro a _ b _
    rw [typeValue_ofRust, typeValue_ofRust, UInt64.le_iff_toNat_le, ofU64, ofU64, Int.ofNat_le]
  rw [serializeKvpList, ← hsorted] at h
  exact serializeKvpsFrom_ofRust _ 0 out h

theorem serializeDelta_of_wellFormed {kvp : Moqtail.KeyValuePair} {prevType : UInt64}
    (hwf : kvp.WellFormed) (hle : prevType ≤ kvp.getType) :
    (ofRust kvp).serializeDelta (ofU64 prevType) =
      .ok (putVi (kvp.getType - prevType) ++ kvp.serializeValue) := by
  have hle' := UInt64.le_iff_toNat_le.mp hle
  have hdelta : ofU64 kvp.getType - ofU64 prevType = ofU64 (kvp.getType - prevType) := by
    rw [ofU64, ofU64, ofU64, UInt64.toNat_sub_of_le _ _ hle, Int.ofNat_sub hle']
  have hvalue : (ofRust kvp).serializeValue = .ok kvp.serializeValue := by
    cases kvp with
    | varInt typeValue value => exact ByteBuffer.putVI_eq value
    | bytes typeValue value =>
      have hmax : value.length < 2 ^ 64 := by
        have := hwf.2
        unfold Moqtail.maxValueLength at this
        omega
      exact ByteBuffer.putLengthPrefixedBytes_eq hmax
  have hordered : ¬ ofU64 kvp.getType < ofU64 prevType := by
    dsimp only [ofU64]
    omega
  rw [serializeDelta, typeValue_ofRust, if_neg hordered, hdelta, ByteBuffer.putVI_eq, hvalue]
  rfl

/-- Pairs that can be read back are written by both. -/
theorem serializeKvpsFrom_of_kvpsFrom (items : List Moqtail.KeyValuePair) :
    ∀ (prevType : UInt64) (out : Bytes), KvpsFrom prevType items →
      Moqtail.serializeKvpsFrom prevType items = .ok out →
        serializeKvpsFrom (ofU64 prevType) (items.map ofRust) = .ok out := by
  induction items with
  | nil =>
    intro prevType out _ h
    cases h
    rfl
  | cons kvp rest ih =>
    rintro prevType out ⟨hwf, hle, hrest⟩ h
    obtain ⟨head, hhead, h⟩ := except_bind_eq_ok.mp h
    obtain ⟨tail, htail, hout⟩ := except_bind_eq_ok.mp h
    rw [kvp.serializeDelta_of_le prevType hle] at hhead
    cases hhead
    cases hout
    rw [List.map_cons, serializeKvpsFrom, serializeDelta_of_wellFormed hwf hle, except_ok_bind,
      typeValue_ofRust, ih kvp.getType tail hrest htail]
    rfl

theorem toRust_eq_some {kvp : KeyValuePair} {kvp' : Moqtail.KeyValuePair}
    (h : kvp.toRust = some kvp') : kvp = ofRust kvp' := by
  obtain ⟨typeValue, value⟩ := kvp
  obtain ⟨t, ht, h⟩ := Option.bind_eq_some_iff.mp h
  have htype := toU64_eq_some.mp ht
  cases value with
  | bigint v =>
    obtain ⟨v', hv, hret⟩ := Option.bind_eq_some_iff.mp h
    cases hret
    have hvalue := toU64_eq_some.mp hv
    dsimp only at htype
    rw [ofRust, htype, hvalue]
  | uint8Array v =>
    cases h
    dsimp only at htype
    rw [ofRust, htype]

theorem mapM_toRust_eq_some {kvps : List KeyValuePair} :
    ∀ {kvps' : List Moqtail.KeyValuePair}, kvps.mapM toRust = some kvps' →
      kvps = kvps'.map ofRust := by
  induction kvps with
  | nil =>
    intro kvps' h
    cases h
    rfl
  | cons kvp rest ih =>
    intro kvps' h
    rw [List.mapM_cons] at h
    obtain ⟨k, hk, h⟩ := Option.bind_eq_some_iff.mp h
    obtain ⟨ks, hks, hret⟩ := Option.bind_eq_some_iff.mp h
    cases hret
    rw [List.map_cons, ← toRust_eq_some hk, ← ih hks]

/-! Reading. -/

theorem deserializeBytesValue_agrees (buf : Bytes) (typeValue : UInt64) :
    Agree (ByteBuffer.ReadsAs ofRust) (Moqtail.KeyValuePair.deserializeBytesValue buf typeValue)
      (deserializeBytesValue buf (ofU64 typeValue)) := by
  apply ByteBuffer.getNumberVI_bind_agrees
  · intro len rest _ _
    dsimp only
    have hiff : len.toNat > Moqtail.maxValueLength ↔ ofU64 len > maxValueLength := by
      rw [Moqtail.maxValueLength, maxValueLength, ofU64]
      omega
    by_cases hmax : len.toNat > Moqtail.maxValueLength
    · rw [if_pos hmax, if_pos (hiff.mp hmax)]
      exact .error _ _
    · rw [if_neg hmax, if_neg (hiff.not.mp hmax)]
      apply (ByteBuffer.getBytes_agrees _ len.toNat rest).bind
      rintro ⟨value, left⟩ ⟨value', left'⟩ - - ⟨hvalue, hleft⟩
      dsimp only [id] at hvalue hleft
      subst hvalue hleft
      exact .ok ⟨rfl, rfl⟩
  · intro len rest _ hlarge
    have hmax : len.toNat > Moqtail.maxValueLength := by
      rw [ofU64, maxSafeInteger] at hlarge
      rw [Moqtail.maxValueLength]
      omega
    dsimp only
    rw [if_pos hmax]
    exact ⟨_, rfl⟩

theorem deserializeValue_agrees (buf : Bytes) (typeValue : UInt64) :
    Agree (ByteBuffer.ReadsAs ofRust) (Moqtail.KeyValuePair.deserializeValue buf typeValue)
      (deserializeValue buf (ofU64 typeValue)) := by
  have hparity := parity_ofU64 typeValue
  unfold Moqtail.KeyValuePair.deserializeValue deserializeValue
  by_cases heven : typeValue % 2 = 0
  · rw [if_pos heven, if_pos (hparity.mp heven)]
    apply (ByteBuffer.getVI_agrees buf).bind
    rintro ⟨value, left⟩ ⟨value', left'⟩ - - ⟨hvalue, hleft⟩
    dsimp only at hvalue hleft
    subst hvalue hleft
    exact .ok ⟨rfl, rfl⟩
  · rw [if_neg heven, if_neg (hparity.not.mp heven)]
    exact deserializeBytesValue_agrees buf typeValue

theorem deserializeDelta_agrees (buf : Bytes) (prevType : UInt64) :
    Agree (ByteBuffer.ReadsAs ofRust) (Moqtail.KeyValuePair.deserializeDelta buf prevType)
      (deserializeDelta buf (ofU64 prevType)) := by
  apply (ByteBuffer.getVI_agrees buf).bind
  rintro ⟨delta, left⟩ ⟨delta', left'⟩ - - ⟨hdelta, hleft⟩
  dsimp only at hdelta hleft
  subst hdelta hleft
  dsimp only
  have hiff : prevType.toNat + delta.toNat ≥ 2 ^ 64 ↔ ofU64 prevType + ofU64 delta > maxU64 := by
    rw [ofU64, ofU64, maxU64]
    omega
  by_cases hwraps : prevType.toNat + delta.toNat ≥ 2 ^ 64
  · rw [if_pos hwraps, if_pos (hiff.mp hwraps)]
    exact .error _ _
  · rw [if_neg hwraps, if_neg (hiff.not.mp hwraps)]
    have hsum : ofU64 prevType + ofU64 delta = ofU64 (prevType + delta) := by
      rw [ofU64, ofU64, ofU64, UInt64.toNat_add, Nat.mod_eq_of_lt (by omega), Int.natCast_add]
    rw [hsum]
    exact deserializeValue_agrees _ (prevType + delta)

theorem deserializeKvpsFrom_agrees (fuel : Nat) :
    ∀ (prevType : UInt64) (buf : Bytes),
      Agree (fun items items' => items' = items.map ofRust)
        (Moqtail.deserializeKvpsFrom fuel prevType buf)
        (deserializeKvpsFrom fuel (ofU64 prevType) buf) := by
  induction fuel with
  | zero => exact fun prevType buf => .ok rfl
  | succ fuel ih =>
    intro prevType buf
    unfold Moqtail.deserializeKvpsFrom deserializeKvpsFrom
    split
    · exact .ok rfl
    · apply (deserializeDelta_agrees buf prevType).bind
      rintro ⟨kvp, left⟩ ⟨kvp', left'⟩ - - ⟨hkvp, hleft⟩
      dsimp only at hkvp hleft
      subst hkvp hleft
      dsimp only
      rw [typeValue_ofRust]
      apply (ih kvp.getType _).bind
      rintro items items' - - rfl
      exact .ok rfl

theorem deserializeKvpListUntilEmpty_agrees (buf : Bytes) :
    Agree (fun items items' => items' = items.map ofRust)
      (Moqtail.deserializeKvpListUntilEmpty buf) (deserializeKvpListUntilEmpty buf) :=
  deserializeKvpsFrom_agrees buf.length 0 buf

end KeyValuePair

end Moqtail.Ts
