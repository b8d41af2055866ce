import Moqtail.Wire.Varint

/-! Key-Value-Pairs and their delta-coded lists, from `model/common/pair.rs`.

A pair read off the wire can always be written again, in no more bytes than it came
in: this is what keeps every length field of a relayed object within its bound. -/
namespace Moqtail

open Lib

def maxValueLength : Nat := 65535

inductive KeyValuePair where
  | varInt (typeValue value : UInt64)
  | bytes (typeValue : UInt64) (value : Bytes)
deriving Repr, DecidableEq

/-- The bounds check and the `copy_to_bytes` after it, as every length-delimited field
of the codecs has them. -/
def copyToBytes (context : String) (len : Nat) (bytes : Bytes) : Parse (Bytes × Bytes) :=
  if bytes.length < len then
    .error (.notEnoughBytes context len bytes.length)
  else
    .ok (bytes.take len, bytes.drop len)

namespace KeyValuePair

def getType : KeyValuePair → UInt64
  | varInt typeValue _ => typeValue
  | bytes typeValue _ => typeValue

def tryNewVarint (typeValue value : UInt64) : Except ParseError KeyValuePair :=
  if typeValue % 2 ≠ 0 then
    .error (.keyValueFormattingError "KeyValuePair::try_new_varint")
  else
    .ok (varInt typeValue value)

def newBytes (typeValue : UInt64) (value : Bytes) : Except ParseError KeyValuePair :=
  if value.length > maxValueLength then
    .error (.lengthExceedsMax "KeyValuePair::new_bytes" maxValueLength value.length)
  else
    .ok (bytes typeValue value)

def tryNewBytes (typeValue : UInt64) (value : Bytes) : Except ParseError KeyValuePair :=
  if typeValue % 2 = 0 then
    .error (.keyValueFormattingError "KeyValuePair::try_new_bytes")
  else
    newBytes typeValue value

/-- The Value field of a pair's wire form. -/
def serializeValue : KeyValuePair → Bytes
  | varInt _ value => putVi value
  | bytes _ value => putVi (UInt64.ofNat value.length) ++ value

def serializeDelta (kvp : KeyValuePair) (prevType : UInt64) : Except ParseError Bytes :=
  if kvp.getType < prevType then
    .error (.protocolViolation "KeyValuePair::serialize_delta"
      (s!"type {kvp.getType} is less than previous type {prevType}; a KVP list must be " ++
        "sorted by ascending type to be delta-encoded"))
  else
    .ok (putVi (kvp.getType - prevType) ++ kvp.serializeValue)

def deserializeBytesValue (bytes : Bytes) (typeValue : UInt64) : Parse (KeyValuePair × Bytes) := do
  let (len, bytes) ← getVi bytes
  if len.toNat > maxValueLength then
    throw (.lengthExceedsMax "KeyValuePair::deserialize" maxValueLength len.toNat)
  let (value, bytes) ← copyToBytes "KeyValuePair::deserialize value" len.toNat bytes
  return (.bytes typeValue value, bytes)

def deserializeValue (bytes : Bytes) (typeValue : UInt64) : Parse (KeyValuePair × Bytes) :=
  if typeValue % 2 = 0 then do
    let (value, bytes) ← getVi bytes
    return (.varInt typeValue value, bytes)
  else
    deserializeBytesValue bytes typeValue

def deserializeDelta (bytes : Bytes) (prevType : UInt64) : Parse (KeyValuePair × Bytes) := do
  let (deltaType, bytes) ← getVi bytes
  if prevType.toNat + deltaType.toNat ≥ 2 ^ 64 then
    throw (.protocolViolation "KeyValuePair::deserialize_delta"
      s!"previous type {prevType} plus delta type {deltaType} exceeds 2^64 - 1")
  deserializeValue bytes (prevType + deltaType)

end KeyValuePair

/-- The loop of `serialize_kvp_list` over the sorted pairs. -/
def serializeKvpsFrom : UInt64 → List KeyValuePair → Except ParseError Bytes
  | _, [] => .ok []
  | prevType, kvp :: rest => do
    let head ← kvp.serializeDelta prevType
    let tail ← serializeKvpsFrom kvp.getType rest
    return head ++ tail

/-- `sort_by_key` is stable, as insertion sort is. -/
def serializeKvpList (items : List KeyValuePair) : Except ParseError Bytes :=
  serializeKvpsFrom 0 (items.insertionSort fun a b => a.getType ≤ b.getType)

/-- The loop of `deserialize_kvp_list_until_empty`. Each turn takes at least one byte, so
`fuel` turns are enough for `fuel` bytes. -/
def deserializeKvpsFrom : Nat → UInt64 → Bytes → Except ParseError (List KeyValuePair)
  | 0, _, _ => .ok []
  | fuel + 1, prevType, bytes =>
    if bytes.isEmpty then .ok []
    else do
      let (kvp, bytes) ← KeyValuePair.deserializeDelta bytes prevType
      let items ← deserializeKvpsFrom fuel kvp.getType bytes
      return kvp :: items

def deserializeKvpListUntilEmpty (bytes : Bytes) : Except ParseError (List KeyValuePair) :=
  deserializeKvpsFrom bytes.length 0 bytes

/-! One pair. -/

theorem copyToBytes_append (context : String) (value tail : Bytes) :
    copyToBytes context value.length (value ++ tail) = .ok (value, tail) := by
  simp [copyToBytes]

theorem copyToBytes_eq_ok {context : String} {len : Nat} {bytes value rest : Bytes}
    (h : copyToBytes context len bytes = .ok (value, rest)) :
    value.length = len ∧ bytes = value ++ rest := by
  unfold copyToBytes at h
  split at h
  · simp at h
  · next hlen =>
    simp only [Except.ok.injEq, Prod.mk.injEq] at h
    obtain ⟨rfl, rfl⟩ := h
    exact ⟨by simp; omega, (List.take_append_drop len bytes).symm⟩

theorem copyToBytes_stable (context : String) (len : Nat) : Stable (copyToBytes context len) := by
  intro bytes value rest tail h
  obtain ⟨hlen, rfl⟩ := copyToBytes_eq_ok h
  rw [List.append_assoc, ← hlen]
  exact copyToBytes_append context value (rest ++ tail)

theorem toNat_ofNat_length {value : Bytes} (h : value.length < 2 ^ 64) :
    (UInt64.ofNat value.length).toNat = value.length := by
  rw [UInt64.toNat_ofNat', Nat.mod_eq_of_lt h]

namespace KeyValuePair

/-- The Type keeps the parity of the Value's encoding and a byte string its bound: what
`try_new_varint` and `try_new_bytes` check. -/
def WellFormed : KeyValuePair → Prop
  | varInt typeValue _ => typeValue % 2 = 0
  | bytes typeValue value => typeValue % 2 ≠ 0 ∧ value.length ≤ maxValueLength

theorem newBytes_eq_ok {typeValue : UInt64} {value : Bytes} {kvp : KeyValuePair} :
    newBytes typeValue value = .ok kvp ↔
      value.length ≤ maxValueLength ∧ kvp = bytes typeValue value := by
  unfold newBytes
  split
  next hlong =>
    constructor
    · intro h
      cases h
    · rintro ⟨hle, -⟩
      omega
  next hshort =>
    rw [Except.ok.injEq, eq_comm]
    exact ⟨fun h => ⟨by omega, h⟩, And.right⟩

theorem newBytes_of_le {typeValue : UInt64} {value : Bytes} (h : value.length ≤ maxValueLength) :
    newBytes typeValue value = .ok (bytes typeValue value) :=
  newBytes_eq_ok.mpr ⟨h, rfl⟩

theorem tryNewBytes_of_odd {typeValue : UInt64} {value : Bytes} (h : ¬ typeValue % 2 = 0) :
    tryNewBytes typeValue value = newBytes typeValue value := by
  rw [tryNewBytes, if_neg h]

theorem deserializeValue_serializeValue (kvp : KeyValuePair) (hkvp : kvp.WellFormed)
    (tail : Bytes) : deserializeValue (kvp.serializeValue ++ tail) kvp.getType = .ok (kvp, tail) := by
  cases kvp with
  | varInt typeValue value =>
    simp only [WellFormed] at hkvp
    simp [deserializeValue, serializeValue, getType, hkvp]
  | bytes typeValue value =>
    obtain ⟨hodd, hlen⟩ := hkvp
    have hlength : (UInt64.ofNat value.length).toNat = value.length :=
      toNat_ofNat_length (by unfold maxValueLength at hlen; omega)
    simp only [deserializeValue, serializeValue, getType, hodd, if_false, deserializeBytesValue,
      List.append_assoc, getVi_putVi, except_ok_bind, hlength]
    rw [if_neg (by omega)]
    simp [copyToBytes_append]

theorem deserializeValue_wellFormed {bytes rest : Bytes} {typeValue : UInt64}
    {kvp : KeyValuePair} (h : deserializeValue bytes typeValue = .ok (kvp, rest)) :
    kvp.WellFormed ∧ kvp.getType = typeValue ∧
      kvp.serializeValue.length + rest.length ≤ bytes.length := by
  unfold deserializeValue at h
  split at h
  · next heven =>
    obtain ⟨⟨value, left⟩, hvi, hret⟩ := except_bind_eq_ok.mp h
    simp only [except_pure, Except.ok.injEq, Prod.mk.injEq] at hret
    obtain ⟨rfl, rfl⟩ := hret
    exact ⟨heven, rfl, by simpa [serializeValue] using (getVi_consumes hvi).2⟩
  · next hodd =>
    unfold deserializeBytesValue at h
    obtain ⟨⟨len, left⟩, hvi, hrest⟩ := except_bind_eq_ok.mp h
    have hconsumed := (getVi_consumes hvi).2
    simp only at hrest
    split at hrest
    · simp at hrest
    · next hmax =>
      simp only [except_pure] at hrest
      obtain ⟨⟨value, left'⟩, hcopy, hret⟩ := except_bind_eq_ok.mp hrest
      simp only [Except.ok.injEq, Prod.mk.injEq] at hret
      obtain ⟨rfl, rfl⟩ := hret
      obtain ⟨hlen, rfl⟩ := copyToBytes_eq_ok hcopy
      refine ⟨⟨hodd, by omega⟩, rfl, ?_⟩
      have hofNat : UInt64.ofNat value.length = len := by rw [hlen, UInt64.ofNat_toNat]
      simp only [serializeValue, hofNat, List.length_append, length_putVi] at hconsumed ⊢
      omega

theorem serializeDelta_of_le (kvp : KeyValuePair) (prevType : UInt64)
    (hprev : prevType ≤ kvp.getType) :
    kvp.serializeDelta prevType = .ok (putVi (kvp.getType - prevType) ++ kvp.serializeValue) := by
  unfold serializeDelta
  rw [if_neg (UInt64.not_lt.mpr hprev)]

theorem deserializeDelta_serializeDelta (kvp : KeyValuePair) (hkvp : kvp.WellFormed)
    (prevType : UInt64) (hprev : prevType ≤ kvp.getType) (tail : Bytes) :
    deserializeDelta (putVi (kvp.getType - prevType) ++ kvp.serializeValue ++ tail) prevType =
      .ok (kvp, tail) := by
  have hlt : kvp.getType.toNat < 2 ^ 64 := kvp.getType.toNat_lt
  have hle : prevType.toNat ≤ kvp.getType.toNat := UInt64.le_iff_toNat_le.mp hprev
  have hsub := UInt64.toNat_sub_of_le _ _ hprev
  simp only [deserializeDelta, List.append_assoc, getVi_putVi, except_ok_bind, hsub]
  rw [if_neg (by omega)]
  have hadd : prevType + (kvp.getType - prevType) = kvp.getType := by
    rw [UInt64.add_comm, UInt64.sub_add_cancel]
  simp [hadd, deserializeValue_serializeValue kvp hkvp]

theorem deserializeDelta_wellFormed {bytes rest : Bytes} {prevType : UInt64}
    {kvp : KeyValuePair} (h : deserializeDelta bytes prevType = .ok (kvp, rest)) :
    kvp.WellFormed ∧ prevType ≤ kvp.getType ∧ rest.length < bytes.length ∧
      (putVi (kvp.getType - prevType) ++ kvp.serializeValue).length + rest.length ≤
        bytes.length := by
  unfold deserializeDelta at h
  obtain ⟨⟨delta, left⟩, hvi, hrest⟩ := except_bind_eq_ok.mp h
  obtain ⟨hless, hconsumed⟩ := getVi_consumes hvi
  simp only at hrest
  split at hrest
  · simp at hrest
  · next hsum =>
    obtain ⟨hwf, htype, hlen⟩ := deserializeValue_wellFormed hrest
    have hle : prevType ≤ prevType + delta := by
      rw [UInt64.le_iff_toNat_le, UInt64.toNat_add, Nat.mod_eq_of_lt (by omega)]
      omega
    have hdelta : prevType + delta - prevType = delta := by
      rw [UInt64.add_comm, UInt64.add_sub_cancel]
    refine ⟨hwf, htype ▸ hle, by omega, ?_⟩
    rw [htype, hdelta, List.length_append, length_putVi]
    omega

end KeyValuePair

/-! A list of pairs. -/

/-- Pairs in ascending order of Type from `prevType` on, each of them writable. -/
def KvpsFrom : UInt64 → List KeyValuePair → Prop
  | _, [] => True
  | prevType, kvp :: rest =>
    kvp.WellFormed ∧ prevType ≤ kvp.getType ∧ KvpsFrom kvp.getType rest

theorem deserializeKvpsFrom_wellFormed (fuel : Nat) (prevType : UInt64) (bytes : Bytes)
    (items : List KeyValuePair) (h : deserializeKvpsFrom fuel prevType bytes = .ok items) :
    KvpsFrom prevType items ∧
      ∃ out, serializeKvpsFrom prevType items = .ok out ∧ out.length ≤ bytes.length := by
  induction fuel generalizing prevType bytes items with
  | zero =>
    simp only [deserializeKvpsFrom, Except.ok.injEq] at h
    subst h
    exact ⟨trivial, [], rfl, by simp⟩
  | succ fuel ih =>
    unfold deserializeKvpsFrom at h
    split at h
    · simp only [Except.ok.injEq] at h
      subst h
      exact ⟨trivial, [], rfl, by simp⟩
    · obtain ⟨⟨kvp, left⟩, hdelta, hrest⟩ := except_bind_eq_ok.mp h
      obtain ⟨tail, htail, hret⟩ := except_bind_eq_ok.mp hrest
      simp only [except_pure, Except.ok.injEq] at hret
      subst hret
      obtain ⟨hwf, hle, -, hlen⟩ := KeyValuePair.deserializeDelta_wellFormed hdelta
      obtain ⟨hfrom, out, hout, houtLen⟩ := ih _ _ _ htail
      refine ⟨⟨hwf, hle, hfrom⟩,
        putVi (kvp.getType - prevType) ++ kvp.serializeValue ++ out, ?_, ?_⟩
      · simp only [serializeKvpsFrom, hout, kvp.serializeDelta_of_le prevType hle]
        rfl
      · rw [List.length_append]
        omega

theorem deserializeKvpsFrom_serializeKvpsFrom (items : List KeyValuePair) :
    ∀ (prevType : UInt64) (out : Bytes) (fuel : Nat), KvpsFrom prevType items →
      serializeKvpsFrom prevType items = .ok out → out.length ≤ fuel →
        deserializeKvpsFrom fuel prevType out = .ok items := by
  induction items with
  | nil =>
    intro prevType out fuel _ hout _
    simp only [serializeKvpsFrom, Except.ok.injEq] at hout
    subst hout
    cases fuel with
    | zero => rfl
    | succ fuel => simp [deserializeKvpsFrom]
  | cons kvp rest ih =>
    intro prevType out fuel hfrom hout hfuel
    obtain ⟨hwf, hle, hrest⟩ := hfrom
    simp only [serializeKvpsFrom, kvp.serializeDelta_of_le prevType hle, except_ok_bind] at hout
    obtain ⟨tail, htail, hret⟩ := except_bind_eq_ok.mp hout
    simp only [except_pure, Except.ok.injEq] at hret
    subst hret
    have hpos := minimalViLength_pos (kvp.getType - prevType)
    simp only [List.length_append, length_putVi] at hfuel
    cases fuel with
    | zero => omega
    | succ fuel =>
      have hne : (putVi (kvp.getType - prevType) ++ kvp.serializeValue ++ tail).isEmpty = false := by
        rw [List.isEmpty_eq_false_iff, ne_eq, ← List.length_eq_zero_iff]
        simp only [List.length_append, length_putVi]
        omega
      simp only [deserializeKvpsFrom, hne, Bool.false_eq_true, if_false]
      rw [KeyValuePair.deserializeDelta_serializeDelta kvp hwf prevType hle tail, except_ok_bind,
        ih _ _ fuel hrest htail (by omega)]
      rfl

theorem KvpsFrom.pairwise {prevType : UInt64} {items : List KeyValuePair}
    (h : KvpsFrom prevType items) :
    items.Pairwise (fun a b => a.getType ≤ b.getType) ∧ ∀ kvp ∈ items, prevType ≤ kvp.getType := by
  induction items generalizing prevType with
  | nil => simp
  | cons kvp rest ih =>
    obtain ⟨-, hle, hrest⟩ := h
    obtain ⟨hpair, hall⟩ := ih hrest
    refine ⟨List.pairwise_cons.mpr ⟨hall, hpair⟩, ?_⟩
    intro other hmem
    cases List.mem_cons.mp hmem with
    | inl heq => exact heq ▸ hle
    | inr hother => exact UInt64.le_trans hle (hall other hother)

/-- A list in ascending order is written in the order it is in. -/
theorem serializeKvpList_of_kvpsFrom {items : List KeyValuePair} (h : KvpsFrom 0 items) :
    serializeKvpList items = serializeKvpsFrom 0 items := by
  unfold serializeKvpList
  rw [List.Pairwise.insertionSort_eq h.pairwise.1]

/-- A decoded list is written in no more bytes than it came in, and reads back the same. -/
theorem deserializeKvpListUntilEmpty_reencodes {bytes : Bytes} {items : List KeyValuePair}
    (h : deserializeKvpListUntilEmpty bytes = .ok items) :
    ∃ out, serializeKvpList items = .ok out ∧ out.length ≤ bytes.length ∧
      deserializeKvpListUntilEmpty out = .ok items := by
  obtain ⟨hfrom, out, hout, hlen⟩ := deserializeKvpsFrom_wellFormed _ _ _ _ h
  refine ⟨out, by rw [serializeKvpList_of_kvpsFrom hfrom, hout], hlen, ?_⟩
  exact deserializeKvpsFrom_serializeKvpsFrom items 0 out out.length hfrom hout le_rfl

/-- Pairs in ascending order can be written, and read back the same. -/
theorem KvpsFrom.serializes {items : List KeyValuePair} :
    ∀ {prevType : UInt64}, KvpsFrom prevType items →
      ∃ out, serializeKvpsFrom prevType items = .ok out := by
  induction items with
  | nil => exact fun _ => ⟨[], rfl⟩
  | cons kvp rest ih =>
    rintro prevType ⟨-, hle, hrest⟩
    obtain ⟨tail, htail⟩ := ih hrest
    refine ⟨putVi (kvp.getType - prevType) ++ kvp.serializeValue ++ tail, ?_⟩
    simp only [serializeKvpsFrom, kvp.serializeDelta_of_le prevType hle, htail]
    rfl

theorem KvpsFrom.roundTrips {items : List KeyValuePair} (h : KvpsFrom 0 items) :
    ∃ out, serializeKvpList items = .ok out ∧ deserializeKvpListUntilEmpty out = .ok items := by
  obtain ⟨out, hout⟩ := h.serializes
  refine ⟨out, by rw [serializeKvpList_of_kvpsFrom h, hout], ?_⟩
  exact deserializeKvpsFrom_serializeKvpsFrom items 0 out out.length h hout le_rfl

end Moqtail
