import Moqtail.Lib.Codec

/-! The variable-length integer codec of `model/common/varint.rs`.

A `u64` is a `UInt64`, so addition, subtraction and shifts wrap as they do in a
release build. A `Bytes` cursor is the list of bytes still to be read: reading
returns the value together with the rest of the list. -/
namespace Moqtail

open Lib

/-- `model/error`: what a decoder or an encoder can report. Only the errors the
modelled codecs raise are listed. -/
inductive ParseError where
  | notEnoughBytes (context : String) (needed available : Nat)
  | castingError (context fromType toType details : String)
  | lengthExceedsMax (context : String) (max len : Nat)
  | keyValueFormattingError (context : String)
  | invalidType (context details : String)
  | invalidUtf8 (context details : String)
  | protocolViolation (context details : String)
  | other (context msg : String)
deriving Repr, DecidableEq

/-- The `Display` text of an error, which some codecs put in the details of another. -/
def ParseError.toString : ParseError → String
  | .notEnoughBytes context needed available =>
    s!"[{context}] not enough bytes: needed {needed}, available {available}"
  | .castingError context fromType toType details =>
    s!"[{context}] cannot cast from {fromType} to {toType}, [{details}]"
  | .lengthExceedsMax context max len =>
    s!"[{context}] length {len} exceeds maximum of {max}, protocol violation"
  | .keyValueFormattingError context => s!"[{context}] key value formatting error"
  | .invalidType context details => s!"Invalid type: [{context}], [{details}]"
  | .invalidUtf8 context details => s!"Invalid UTF8: [{context}], [{details}]"
  | .protocolViolation context details => s!"Protocol violation: [{context}], [{details}]"
  | .other context msg => s!"[{context}], [{msg}]"

/-- `ParseError::NotEnoughBytes`, the one error a reader waits on. -/
def ParseError.isNotEnoughBytes : ParseError → Bool
  | .notEnoughBytes _ _ _ => true
  | _ => false

abbrev Parse := Except ParseError

/-- `u8::leading_ones`. -/
def leadingOnes (b : UInt8) : Nat :=
  ((List.range 8).takeWhile fun i => b.toNat.testBit (7 - i)).length

def getVi (bytes : Bytes) : Parse (UInt64 × Bytes) :=
  match bytes with
  | [] => .error (.notEnoughBytes "varint first byte" 1 0)
  | first :: rest =>
    let length := leadingOnes first + 1
    let extraBytes := length - 1
    if rest.length < extraBytes then
      .error (.notEnoughBytes "varint continuation" length (rest.length + 1))
    else
      let val :=
        if length ≤ 8 then first.toUInt64 &&& ((1 <<< UInt64.ofNat (8 - length)) - 1) else 0
      .ok ((rest.take extraBytes).foldl shiftIn val, rest.drop extraBytes)

def minimalViLength (v : UInt64) : Nat :=
  if v < (1 : UInt64) <<< 7 then 1
  else if v < (1 : UInt64) <<< 14 then 2
  else if v < (1 : UInt64) <<< 21 then 3
  else if v < (1 : UInt64) <<< 28 then 4
  else if v < (1 : UInt64) <<< 35 then 5
  else if v < (1 : UInt64) <<< 42 then 6
  else if v < (1 : UInt64) <<< 49 then 7
  else if v < (1 : UInt64) <<< 56 then 8
  else 9

/-- `ones` ones at the top of a byte. -/
def leadingOnesMask (ones : Nat) : UInt8 := UInt8.ofNat (((1 <<< ones) - 1) <<< (8 - ones))

def putVi (v : UInt64) : Bytes :=
  let length := minimalViLength v
  if length = 9 then 0xFF :: beBytes 8 v
  else
    match beBytes length v with
    | [] => []
    | first :: rest => (first ||| leadingOnesMask (length - 1)) :: rest

/-! Lengths. -/

theorem minimalViLength_pos (v : UInt64) : 1 ≤ minimalViLength v := by
  unfold minimalViLength
  repeat' split
  all_goals omega

theorem minimalViLength_le (v : UInt64) : minimalViLength v ≤ 9 := by
  unfold minimalViLength
  repeat' split
  all_goals omega

/-- The chosen length is the least one whose seven bits a byte hold the value. -/
theorem minimalViLength_le_iff (v : UInt64) (n : Nat) (hn : 1 ≤ n) (hn8 : n ≤ 8) :
    minimalViLength v ≤ n ↔ v.toNat < 2 ^ (7 * n) := by
  unfold minimalViLength
  simp only [UInt64.lt_iff_toNat_lt, UInt64.toNat_shiftLeft,
    UInt64.toNat_ofNat, Nat.reduceMod, Nat.reducePow, Nat.one_shiftLeft]
  interval_cases n <;> (repeat' split) <;> omega

theorem leadingOnes_le (b : UInt8) : leadingOnes b ≤ 8 := by
  unfold leadingOnes
  exact le_trans (List.takeWhile_sublist _).length_le (by simp)

@[simp] theorem length_putVi (v : UInt64) : (putVi v).length = minimalViLength v := by
  have hpos := minimalViLength_pos v
  simp only [putVi]
  split
  · simp_all
  · obtain ⟨n, hn⟩ : ∃ n, minimalViLength v = n + 1 := ⟨minimalViLength v - 1, by omega⟩
    simp [hn, beBytes]

/-! Reading the first byte of an encoding gives back the length and the value bits. -/

private theorem firstByte_fin : ∀ ones : Fin 8, ∀ x : Fin 256, x.val < 2 ^ (7 - ones.val) →
    leadingOnes (UInt8.ofNat x.val ||| leadingOnesMask ones.val) = ones.val ∧
      (UInt8.ofNat x.val ||| leadingOnesMask ones.val).toUInt64 &&&
        ((1 <<< UInt64.ofNat (8 - (ones.val + 1))) - 1) = (UInt8.ofNat x.val).toUInt64 := by
  decide +kernel

theorem firstByte (ones : Nat) (hones : ones < 8) (first : UInt8)
    (hfirst : first.toNat < 2 ^ (7 - ones)) :
    leadingOnes (first ||| leadingOnesMask ones) = ones ∧
      (first ||| leadingOnesMask ones).toUInt64 &&& ((1 <<< UInt64.ofNat (8 - (ones + 1))) - 1) =
        first.toUInt64 := by
  have h := firstByte_fin ⟨ones, hones⟩ ⟨first.toNat, first.toNat_lt⟩ hfirst
  simpa using h

private theorem lowBits_fin : ∀ ones : Fin 8, ∀ x : Fin 256,
    ((UInt8.ofNat x.val).toUInt64 &&& ((1 <<< UInt64.ofNat (8 - (ones.val + 1))) - 1)).toNat <
      2 ^ (7 - ones.val) := by
  decide +kernel

theorem lowBits_lt (ones : Nat) (hones : ones < 8) (first : UInt8) :
    (first.toUInt64 &&& ((1 <<< UInt64.ofNat (8 - (ones + 1))) - 1)).toNat < 2 ^ (7 - ones) := by
  simpa using lowBits_fin ⟨ones, hones⟩ ⟨first.toNat, first.toNat_lt⟩

/-- What is written is read back, and nothing after it is touched. -/
@[simp] theorem getVi_putVi (v : UInt64) (rest : Bytes) :
    getVi (putVi v ++ rest) = .ok (v, rest) := by
  have hpos := minimalViLength_pos v
  have hle := minimalViLength_le v
  have hv : v.toNat < 2 ^ 64 := v.toNat_lt
  unfold putVi
  by_cases h9 : minimalViLength v = 9
  · have hones : leadingOnes 0xFF = 8 := by decide
    simp only [h9, if_true, List.cons_append, getVi, hones]
    simp [foldl_shiftIn_beBytes]
  · obtain ⟨n, hn⟩ : ∃ n, minimalViLength v = n + 1 := ⟨minimalViLength v - 1, by omega⟩
    have hn8 : n < 8 := by omega
    have hlt : v.toNat < 2 ^ (7 * (n + 1)) :=
      (minimalViLength_le_iff v (n + 1) (by omega) (by omega)).mp (by omega)
    have hbyte := beByte_toNat n hn8 v
    have hfirst : (v >>> UInt64.ofNat (8 * n)).toUInt8.toNat < 2 ^ (7 - n) := by
      rw [hbyte]
      interval_cases n <;> omega
    obtain ⟨hones, hlow⟩ := firstByte n hn8 _ hfirst
    rw [if_neg h9]
    simp only [hn, beBytes, Nat.add_sub_cancel, List.cons_append, getVi, hones]
    have hlen : ¬ (beBytes n v ++ rest).length < n := by simp
    rw [if_neg hlen, if_pos (by omega : n + 1 ≤ 8), hlow]
    have htake : (beBytes n v ++ rest).take n = beBytes n v := by simp
    have hdrop : (beBytes n v ++ rest).drop n = rest := by simp
    rw [htake, hdrop]
    congr 2
    apply UInt64.toNat_inj.mp
    rw [foldl_shiftIn_toNat, UInt8.toNat_toUInt64, length_beBytes, hbyte,
      beNat_beBytes n (by omega)]
    interval_cases n <;> omega

theorem getVi_stable : Stable getVi := by
  intro bytes v rest tail h
  cases bytes with
  | nil => simp [getVi] at h
  | cons first more =>
    simp only [getVi, Nat.add_sub_cancel, List.cons_append, List.length_append] at h ⊢
    split at h
    · simp at h
    · next hlen =>
      rw [if_neg (by omega), List.take_append_of_le_length (by omega),
        List.drop_append_of_le_length (by omega)]
      simp only [Except.ok.injEq, Prod.mk.injEq] at h
      rw [h.1, h.2]

/-- A decoded value takes at least one byte, and re-encoding it takes no more than the
bytes it came in. -/
theorem getVi_consumes {bytes rest : Bytes} {v : UInt64} (h : getVi bytes = .ok (v, rest)) :
    rest.length < bytes.length ∧ minimalViLength v + rest.length ≤ bytes.length := by
  have hmin := minimalViLength_le v
  cases bytes with
  | nil => simp [getVi] at h
  | cons first tail =>
    have hones := leadingOnes_le first
    simp only [getVi, Nat.add_sub_cancel] at h
    split at h
    · simp at h
    · next hlen =>
      simp only [Except.ok.injEq, Prod.mk.injEq] at h
      obtain ⟨hval, hrest⟩ := h
      have hlength : rest.length = tail.length - leadingOnes first := by simp [← hrest]
      simp only [List.length_cons]
      refine ⟨by omega, ?_⟩
      by_cases h8 : leadingOnes first < 8
      · rw [if_pos (by omega)] at hval
        have hlow := lowBits_lt _ h8 first
        have hbe := beNat_lt (tail.take (leadingOnes first))
        have hbits : v.toNat < 2 ^ (7 * (leadingOnes first + 1)) := by
          rw [← hval, foldl_shiftIn_toNat]
          rw [List.length_take, min_eq_left (by omega)] at hbe ⊢
          generalize beNat (tail.take (leadingOnes first)) = low at hbe ⊢
          generalize (first.toUInt64 &&& ((1 <<< UInt64.ofNat (8 - (leadingOnes first + 1))) - 1)).toNat = hi at hlow ⊢
          interval_cases leadingOnes first <;> omega
        have := (minimalViLength_le_iff v (leadingOnes first + 1) (by omega) (by omega)).mpr hbits
        omega
      · omega

end Moqtail
