import Moqtail.Lib.Agree
import Moqtail.Wire.KeyValuePair

/-! The byte buffers of the TypeScript library, from `moqtail-ts/src/model/common/byte_buffer.ts`,
and that its varints are those of the Rust library.

A `bigint`, and a `number` that holds an integer, is an `Int`. What is left to read of a buffer is a
list of bytes, as for the Rust library, and writing gives the bytes to append. -/
namespace Moqtail.Ts

open Lib

/-- The errors of `model/error/error.ts` that the modelled codecs throw. The `Number` of a value is
the value here, and the details of text that is not UTF-8, which are those of the platform, are left
out. -/
inductive Error where
  | notEnoughBytes (context : String) (needed available : Int)
  | castingError (context fromType toType details : String)
  | varIntOverflow (context : String) (value : Int)
  | lengthExceedsMax (context : String) (max len : Int)
  | protocolViolation (context details : String)
  | keyValueFormattingError (context : String)
  | invalidType (context details : String)
  | invalidEnumValue (context : String) (value : Int)
  | invalidFilter (context details : String)
  | invalidUtf8 (context : String)
  | trackNameError (context details : String)
  | rangeError (message : String)
  | error (message : String)
deriving Repr, DecidableEq

abbrev Result := Except Error

def maxVarintValue : Int := 2 ^ 64 - 1

def maxU64 : Int := 2 ^ 64 - 1

/-- `Number.MAX_SAFE_INTEGER`. -/
def maxSafeInteger : Int := 2 ^ 53 - 1

/-- The bytes a buffer is made of, whose length is a safe integer. -/
structure Uint8Array where
  bytes : Bytes
  length_le : bytes.length ≤ maxSafeInteger
deriving DecidableEq

/-- The `bigint` of a word. -/
abbrev ofU64 (v : UInt64) : Int := v.toNat

theorem ofU64_inj {v w : UInt64} : ofU64 v = ofU64 w ↔ v = w := by
  rw [ofU64, ofU64, Int.natCast_inj, UInt64.toNat_inj]

/-- The `number` of a byte. -/
def ofU8 (v : UInt8) : Int := v.toNat

theorem ofU8_inj {a b : UInt8} : ofU8 a = ofU8 b ↔ a = b := by
  rw [ofU8, ofU8, Int.natCast_inj, UInt8.toNat_inj]

/-- The word that holds a `bigint`. -/
def toU64 (v : Int) : Option UInt64 :=
  if 0 ≤ v ∧ v < 2 ^ 64 then some (UInt64.ofNat v.toNat) else none

@[simp] theorem toU64_ofU64 (v : UInt64) : toU64 (ofU64 v) = some v := by
  have hlt := v.toNat_lt
  rw [toU64, ofU64, if_pos (by omega), Int.toNat_natCast, UInt64.ofNat_toNat]

theorem toU64_eq_some {x : Int} {v : UInt64} : toU64 x = some v ↔ x = ofU64 v := by
  constructor
  · intro h
    unfold toU64 at h
    split at h
    next hrange =>
      cases h
      have hlt : x.toNat < 2 ^ 64 := by omega
      rw [ofU64, UInt64.toNat_ofNat_of_lt' hlt]
      omega
    · cases h
  · rintro rfl
    exact toU64_ofU64 v

theorem toU64_eq_none {x : Int} : toU64 x = none ↔ x < 0 ∨ x > maxU64 := by
  unfold toU64 maxU64
  split
  next hrange =>
    constructor
    · intro h
      cases h
    · omega
  next hrange => exact ⟨fun _ => by omega, fun _ => rfl⟩

namespace ByteBuffer

/-! Reading. -/

def getU8 (buf : Bytes) : Result (Int × Bytes) :=
  match buf with
  | [] => .error (.notEnoughBytes "getU8" 1 0)
  | b :: rest => .ok (b.toNat, rest)

def getU16 (buf : Bytes) : Result (Int × Bytes) :=
  match buf with
  | high :: low :: rest => .ok (high.toNat * 256 + low.toNat, rest)
  | _ => .error (.notEnoughBytes "getU16" 2 buf.length)

/-- The loop goes on to the next mask while the bit is set. -/
def countLeadingOnes (byte : UInt8) : Nat :=
  ([0x80, 0x40, 0x20, 0x10, 0x08, 0x04, 0x02, 0x01].takeWhile fun mask => byte &&& mask ≠ 0).length

def firstByteValueBits (first : UInt8) (length : Nat) : Nat :=
  if length = 9 then 0 else first.toNat &&& ((1 <<< (8 - length)) - 1)

def getVI (buf : Bytes) : Result (Int × Bytes) :=
  match buf with
  | [] => .error (.notEnoughBytes "getVI.first_byte" 1 0)
  | first :: rest =>
    let length := countLeadingOnes first + 1
    let extra := length - 1
    if rest.length < extra then
      -- the offset is back at the first byte when what remains is counted, and one is added to it
      .error (.notEnoughBytes "getVI.continuation" length (buf.length + 1))
    else
      let result := (rest.take extra).foldl (fun result b => (result <<< 8) ||| b.toNat)
        (firstByteValueBits first length)
      .ok (result, rest.drop extra)

def getNumberVI (buf : Bytes) : Result (Int × Bytes) := do
  let (big, buf) ← getVI buf
  if big > maxSafeInteger then
    throw (.castingError "BaseByteBuffer.getNumberVI()" "bigint" "number"
      "bigint exceeds Number.MAX_SAFE_INTEGER")
  return (big, buf)

def getBytes (len : Int) (buf : Bytes) : Result (Bytes × Bytes) :=
  if buf.length < len then .error (.notEnoughBytes "getBytes" len buf.length)
  else .ok (buf.take len.toNat, buf.drop len.toNat)

def getLengthPrefixedBytes (buf : Bytes) : Result (Bytes × Bytes) := do
  let (len, buf) ← getNumberVI buf
  if buf.length < len then
    throw (.notEnoughBytes "BaseByteBuffer.getLengthPrefixedBytes" len buf.length)
  getBytes len buf

/-! Writing. -/

def putU8 (v : Int) : Result Bytes :=
  if v < 0 ∨ v > 0xff then
    .error (.rangeError s!"Value {v} is out of range for a U8 (0-255).")
  else .ok [UInt8.ofNat v.toNat]

def putU16 (v : Int) : Result Bytes :=
  if v < 0 ∨ v > 0xffff then
    .error (.rangeError s!"Value {v} is out of range for a U16 (0-65535).")
  else .ok [UInt8.ofNat (v.toNat / 256), UInt8.ofNat (v.toNat % 256)]

/-- The first of the lengths 1 to 8 that holds the value. -/
def viLength (value : Nat) : Nat := ((List.range' 1 8).find? fun l => value < 1 <<< (7 * l)).getD 9

/-- The bytes of a value, most significant first. -/
def valueBytes (length value : Nat) : List Nat :=
  (List.range length).reverse.map fun i => (value >>> (8 * i)) &&& 0xff

def putVI (v : Int) : Result Bytes :=
  if v < 0 then
    .error (.castingError "putVI" "bigint" "unsigned varint" "negative values are not supported")
  else if v > maxVarintValue then .error (.varIntOverflow "putVI" v)
  else
    let value := v.toNat
    let length := viLength value
    if length = 9 then .ok (0xff :: (valueBytes 8 value).map UInt8.ofNat)
    else
      let ones := length - 1
      -- the ones at the top of the first byte
      let topOnes := (((1 <<< ones) - 1) <<< (8 - ones)) &&& 0xff
      match valueBytes length value with
      | [] => .ok []
      | first :: rest => .ok (((if ones > 0 then first ||| topOnes else first) :: rest).map UInt8.ofNat)

def putLengthPrefixedBytes (src : Bytes) : Result Bytes := do
  let length ← putVI src.length
  return length ++ src

/-! Varints are those of the Rust library. -/

/-- The value that `T` makes of the other's, read from the same bytes. -/
def ReadsAs {α β : Type} (T : α → β) (a : α × Bytes) (b : β × Bytes) : Prop :=
  b.1 = T a.1 ∧ b.2 = a.2

private theorem countLeadingOnes_fin : ∀ x : Fin 256,
    countLeadingOnes (UInt8.ofNat x.val) = leadingOnes (UInt8.ofNat x.val) := by
  decide +kernel

theorem countLeadingOnes_eq (b : UInt8) : countLeadingOnes b = leadingOnes b := by
  simpa using countLeadingOnes_fin ⟨b.toNat, b.toNat_lt⟩

private theorem firstByteValueBits_fin : ∀ ones : Fin 9, ∀ x : Fin 256,
    firstByteValueBits (UInt8.ofNat x.val) (ones.val + 1) =
      (if ones.val + 1 ≤ 8 then (UInt8.ofNat x.val).toUInt64 &&&
        ((1 <<< UInt64.ofNat (8 - (ones.val + 1))) - 1) else 0).toNat := by
  decide +kernel

theorem firstByteValueBits_eq (ones : Nat) (hones : ones ≤ 8) (first : UInt8) :
    firstByteValueBits first (ones + 1) =
      (if ones + 1 ≤ 8 then first.toUInt64 &&& ((1 <<< UInt64.ofNat (8 - (ones + 1))) - 1)
        else 0).toNat := by
  simpa using firstByteValueBits_fin ⟨ones, by omega⟩ ⟨first.toNat, first.toNat_lt⟩

theorem foldl_shiftLeft (bs : Bytes) (n : Nat) :
    bs.foldl (fun result b => (result <<< 8) ||| b.toNat) n = n * 256 ^ bs.length + beNat bs := by
  have hstep : (fun (result : Nat) (b : UInt8) => (result <<< 8) ||| b.toNat) =
      fun result b => result * 256 + b.toNat := by
    funext result b
    rw [Nat.shiftLeft_eq, Nat.mul_comm, ← Nat.two_pow_add_eq_or_of_lt b.toNat_lt, Nat.mul_comm]
  rw [hstep, foldl_beNat]

/-- What the first byte leaves of a value and what follows it fit a word. -/
theorem value_lt (ones : Nat) (hones : ones ≤ 8) (first : UInt8) (rest : Bytes)
    (hlength : rest.length = ones) :
    firstByteValueBits first (ones + 1) * 256 ^ ones + beNat rest < 2 ^ 64 := by
  have hbe := beNat_lt rest
  rw [hlength] at hbe
  by_cases h8 : ones = 8
  · subst h8
    simp only [firstByteValueBits, if_true, Nat.zero_mul, Nat.zero_add]
    exact lt_of_lt_of_le hbe (by norm_num)
  · have hlow := lowBits_lt ones (by omega) first
    rw [firstByteValueBits_eq ones hones, if_pos (by omega)]
    have hpow : 2 ^ (7 - ones) * 256 ^ ones ≤ 2 ^ 64 := by
      interval_cases ones <;> norm_num
    generalize (first.toUInt64 &&& ((1 <<< UInt64.ofNat (8 - (ones + 1))) - 1)).toNat = low at *
    calc low * 256 ^ ones + beNat rest
        < low * 256 ^ ones + 256 ^ ones := by omega
      _ = (low + 1) * 256 ^ ones := by ring
      _ ≤ 2 ^ (7 - ones) * 256 ^ ones := Nat.mul_le_mul_right _ hlow
      _ ≤ 2 ^ 64 := hpow

theorem getVI_agrees (buf : Bytes) : Agree (ReadsAs ofU64) (Moqtail.getVi buf) (getVI buf) := by
  cases buf with
  | nil => exact .error _ _
  | cons first rest =>
    have hones := leadingOnes_le first
    simp only [Moqtail.getVi, getVI, countLeadingOnes_eq, Nat.add_sub_cancel]
    by_cases hshort : rest.length < leadingOnes first
    · rw [if_pos hshort, if_pos hshort]
      exact .error _ _
    · rw [if_neg hshort, if_neg hshort]
      have hlength : (rest.take (leadingOnes first)).length = leadingOnes first := by
        rw [List.length_take]
        omega
      refine .ok ⟨?_, rfl⟩
      rw [ofU64, foldl_shiftLeft, foldl_shiftIn_toNat, ← firstByteValueBits_eq _ hones, hlength,
        Nat.mod_eq_of_lt (value_lt _ hones first _ hlength)]

/-- What one reads, the other reads. -/
theorem eq_ok_of_agrees {α β : Type} {T : α → β} {x : Parse (α × Bytes)} {y : Result (β × Bytes)}
    {a : α} {rest : Bytes} (h : Agree (ReadsAs T) x y) (hx : x = .ok (a, rest)) :
    y = .ok (T a, rest) := by
  cases h with
  | error e d => cases hx
  | @ok read read' hread =>
    cases hx
    obtain ⟨b, left⟩ := read'
    obtain ⟨hb, hleft⟩ := hread
    dsimp only at hb hleft
    rw [hb, hleft]

theorem getVI_putVi (v : UInt64) (rest : Bytes) : getVI (putVi v ++ rest) = .ok (ofU64 v, rest) :=
  eq_ok_of_agrees (getVI_agrees _) (Moqtail.getVi_putVi v rest)

theorem getVI_putVi_nil (v : UInt64) : getVI (putVi v) = .ok (ofU64 v, []) := by
  simpa only [List.append_nil] using getVI_putVi v []

theorem getNumberVI_putVi {v : UInt64} (h : ofU64 v ≤ maxSafeInteger) (rest : Bytes) :
    getNumberVI (putVi v ++ rest) = .ok (ofU64 v, rest) := by
  rw [getNumberVI, getVI_putVi, except_ok_bind]
  dsimp only
  rw [if_neg (by omega)]
  rfl

/-- A value that a `number` can hold is read as the Rust library reads it; where a larger one is
read, the other has to fail as well. -/
theorem getNumberVI_bind_agrees {γ κ : Type} {S : γ → κ → Prop} {buf : Bytes}
    {f : UInt64 × Bytes → Parse γ} {g : Int × Bytes → Result κ}
    (hsmall : ∀ v rest, Moqtail.getVi buf = .ok (v, rest) → ofU64 v ≤ maxSafeInteger →
      Agree S (f (v, rest)) (g (ofU64 v, rest)))
    (hlarge : ∀ v rest, Moqtail.getVi buf = .ok (v, rest) → ofU64 v > maxSafeInteger →
      ∃ e, f (v, rest) = .error e) :
    Agree S (Moqtail.getVi buf >>= f) (getNumberVI buf >>= g) := by
  rw [getNumberVI, bind_assoc]
  apply (getVI_agrees buf).bind
  rintro ⟨v, rest⟩ ⟨w, rest'⟩ hv - ⟨hw, hrest⟩
  dsimp only at hw hrest
  subst hw hrest
  dsimp only
  by_cases hlarger : ofU64 v > maxSafeInteger
  · obtain ⟨e, he⟩ := hlarge v _ hv hlarger
    rw [he, if_pos hlarger]
    exact .error e _
  · rw [if_neg hlarger]
    exact hsmall v _ hv (by omega)

theorem getBytes_agrees (context : String) (len : Nat) (buf : Bytes) :
    Agree (ReadsAs id) (copyToBytes context len buf) (getBytes len buf) := by
  rw [copyToBytes, getBytes]
  by_cases hshort : buf.length < len
  · rw [if_pos hshort, if_pos (by omega)]
    exact .error _ _
  · rw [if_neg hshort, if_neg (by omega)]
    exact .ok ⟨rfl, rfl⟩

theorem getD_find?_cons (p : Nat → Bool) (l : Nat) (ls : List Nat) (d : Nat) :
    ((l :: ls).find? p).getD d = if p l = true then l else (ls.find? p).getD d := by
  rw [List.find?_cons]
  cases p l <;> rfl

theorem viLength_eq (v : UInt64) : viLength v.toNat = minimalViLength v := by
  have hlengths : viLength v.toNat =
      ([1, 2, 3, 4, 5, 6, 7, 8].find? fun l => v.toNat < 1 <<< (7 * l)).getD 9 := rfl
  rw [hlengths]
  simp only [getD_find?_cons, List.find?_nil, Option.getD_none, decide_eq_true_eq]
  rfl

theorem valueBytes_eq (n : Nat) (hn : n ≤ 8) (v : UInt64) :
    (valueBytes n v.toNat).map UInt8.ofNat = beBytes n v := by
  induction n with
  | zero => rfl
  | succ n ih =>
    have hbyte : UInt8.ofNat ((v.toNat >>> (8 * n)) &&& 0xff) =
        (v >>> UInt64.ofNat (8 * n)).toUInt8 := by
      apply UInt8.toNat_inj.mp
      rw [beByte_toNat n (by omega), UInt8.toNat_ofNat', Nat.shiftRight_eq_div_pow, pow_mul]
      have hmask := Nat.and_two_pow_sub_one_eq_mod (v.toNat / (2 ^ 8) ^ n) 8
      norm_num at hmask ⊢
      rw [hmask]
      omega
    rw [valueBytes, List.range_succ, List.reverse_append, List.reverse_singleton,
      List.singleton_append, List.map_cons, List.map_cons, hbyte, beBytes]
    exact congrArg _ (ih (by omega))

private theorem topOnes_fin : ∀ ones : Fin 8,
    UInt8.ofNat ((((1 <<< ones.val) - 1) <<< (8 - ones.val)) &&& 0xff) = leadingOnesMask ones.val := by
  decide +kernel

theorem topOnes_eq {ones : Nat} (hones : ones < 8) (first : Nat) :
    UInt8.ofNat (if ones > 0 then first ||| ((((1 <<< ones) - 1) <<< (8 - ones)) &&& 0xff)
      else first) = UInt8.ofNat first ||| leadingOnesMask ones := by
  have htop := topOnes_fin ⟨ones, hones⟩
  split
  · rw [← htop, ← UInt8.ofNat_or]
  · have hzero : ones = 0 := by omega
    subst hzero
    rw [← htop]
    simp

theorem putVI_eq (v : UInt64) : putVI (ofU64 v) = .ok (putVi v) := by
  have hv : v.toNat < 2 ^ 64 := v.toNat_lt
  have hpos := minimalViLength_pos v
  have hle := minimalViLength_le v
  have hmax : ¬ ((v.toNat : Int) > maxVarintValue) := by
    rw [maxVarintValue]
    omega
  have hneg : ¬ ((v.toNat : Int) < 0) := by omega
  simp only [putVI, if_neg hneg, if_neg hmax, Int.toNat_natCast, viLength_eq, putVi]
  by_cases h9 : minimalViLength v = 9
  · rw [if_pos h9, if_pos h9, valueBytes_eq 8 le_rfl]
  · rw [if_neg h9, if_neg h9, ← valueBytes_eq _ (by omega) v]
    cases hbytes : valueBytes (minimalViLength v) v.toNat with
    | nil => rfl
    | cons first rest =>
      simp only [List.map_cons]
      rw [topOnes_eq (by omega)]

theorem putVI_eq_ok {v : Int} {out : Bytes} (h : putVI v = .ok out) :
    ∃ u : UInt64, v = ofU64 u ∧ out = putVi u := by
  have hrange : 0 ≤ v ∧ v ≤ maxVarintValue := by
    unfold putVI at h
    split at h
    · cases h
    · split at h
      · cases h
      · omega
  obtain ⟨n, rfl⟩ := Int.eq_ofNat_of_zero_le hrange.1
  have hn : n < 2 ^ 64 := by
    have := hrange.2
    rw [maxVarintValue] at this
    omega
  have hu : ofU64 (UInt64.ofNat n) = n := congrArg Nat.cast (UInt64.toNat_ofNat_of_lt' hn)
  refine ⟨UInt64.ofNat n, hu.symm, ?_⟩
  have heq := putVI_eq (UInt64.ofNat n)
  rw [hu, h] at heq
  exact Except.ok.inj heq

/-- Bytes after a length that is written are those after it in the Rust library. -/
theorem putLengthPrefixedBytes_eq_ok {src out : Bytes} (h : putLengthPrefixedBytes src = .ok out) :
    out = putVi (UInt64.ofNat src.length) ++ src := by
  obtain ⟨length, hlength, hout⟩ := except_bind_eq_ok.mp h
  cases hout
  obtain ⟨u, hu, rfl⟩ := putVI_eq_ok hlength
  have hsrc : src.length = u.toNat := Int.natCast_inj.mp hu
  rw [hsrc, UInt64.ofNat_toNat]

theorem putLengthPrefixedBytes_eq {src : Bytes} (h : src.length < 2 ^ 64) :
    putLengthPrefixedBytes src = .ok (putVi (UInt64.ofNat src.length) ++ src) := by
  have hlength : (src.length : Int) = ofU64 (UInt64.ofNat src.length) :=
    congrArg Nat.cast (toNat_ofNat_length h).symm
  rw [putLengthPrefixedBytes, hlength, putVI_eq]
  rfl

theorem length_lt_of_putLengthPrefixedBytes {src out : Bytes}
    (h : putLengthPrefixedBytes src = .ok out) : src.length < 2 ^ 64 := by
  obtain ⟨length, hlength, -⟩ := except_bind_eq_ok.mp h
  obtain ⟨u, hu, -⟩ := putVI_eq_ok hlength
  have hlt := u.toNat_lt
  have hsrc : src.length = u.toNat := Int.natCast_inj.mp hu
  omega

end ByteBuffer

end Moqtail.Ts
