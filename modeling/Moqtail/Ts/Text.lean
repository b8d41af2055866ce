import Moqtail.Ts.ControlMessage

/-! How the TypeScript library decodes the text of the Rust library: as it is, but for a byte order
mark at its beginning, which both of its decoders drop. -/
namespace Moqtail.Ts

open Lib

/-! Text has no malformed part. -/

theorem asBytes_eq_flatMap (text : String) :
    asBytes text = text.toList.flatMap String.utf8EncodeChar := by
  rw [asBytes, ← String.utf8Encode_toList, List.utf8Encode, List.data_toByteArray]

section Characters

variable {first second : UInt8}

theorem isContinuationByte_of_toNat (h : 0x80 ≤ second.toNat) (h' : second.toNat ≤ 0xBF) :
    isContinuationByte second = true := by
  rw [isContinuationByte, Bool.and_eq_true, decide_eq_true_eq, decide_eq_true_eq,
    UInt8.le_iff_toNat_le, UInt8.le_iff_toNat_le]
  exact ⟨h, h'⟩

/-- The second byte is a continuation byte, and within what its first byte lets through. -/
theorem isSecondByte_of_toNat (h : 0x80 ≤ second.toNat) (h' : second.toNat ≤ 0xBF)
    (he0 : first.toNat = 0xE0 → 0xA0 ≤ second.toNat) (hed : first.toNat = 0xED → second.toNat ≤ 0x9F)
    (hf0 : first.toNat = 0xF0 → 0x90 ≤ second.toNat)
    (hf4 : first.toNat = 0xF4 → second.toNat ≤ 0x8F) : isSecondByte first second = true := by
  have htoNat {v : UInt8} (heq : first = v) : first.toNat = v.toNat := congrArg UInt8.toNat heq
  unfold isSecondByte
  split
  next heq =>
    rw [Bool.and_eq_true, decide_eq_true_eq, decide_eq_true_eq, UInt8.le_iff_toNat_le,
      UInt8.le_iff_toNat_le]
    exact ⟨he0 (htoNat heq), h'⟩
  split
  next heq =>
    rw [Bool.and_eq_true, decide_eq_true_eq, decide_eq_true_eq, UInt8.le_iff_toNat_le,
      UInt8.le_iff_toNat_le]
    exact ⟨h, hed (htoNat heq)⟩
  split
  next heq =>
    rw [Bool.and_eq_true, decide_eq_true_eq, decide_eq_true_eq, UInt8.le_iff_toNat_le,
      UInt8.le_iff_toNat_le]
    exact ⟨hf0 (htoNat heq), h'⟩
  split
  next heq =>
    rw [Bool.and_eq_true, decide_eq_true_eq, decide_eq_true_eq, UInt8.le_iff_toNat_le,
      UInt8.le_iff_toNat_le]
    exact ⟨h, hf4 (htoNat heq)⟩
  next => exact isContinuationByte_of_toNat h h'

/-! One character of each length. -/

variable (i : Nat) (rest : Bytes)

theorem utf8ErrorAt_one (h : first.toNat < 0x80) :
    utf8ErrorAt i (first :: rest) = utf8ErrorAt (i + 1) rest := by
  have hlt : first < 0x80 := UInt8.lt_iff_toNat_lt.mpr h
  rw [utf8ErrorAt.eq_def]
  simp [hlt]

theorem utf8ErrorAt_two (hlow : 0xC2 ≤ first.toNat) (hhigh : first.toNat ≤ 0xDF)
    (hsecond : isContinuationByte second = true) :
    utf8ErrorAt i (first :: second :: rest) = utf8ErrorAt (i + 2) rest := by
  have hlt : ¬ first < 0x80 := by
    rw [UInt8.lt_iff_toNat_lt]
    show ¬ first.toNat < 0x80
    omega
  have hrange : 0xC2 ≤ first ∧ first ≤ 0xDF :=
    ⟨UInt8.le_iff_toNat_le.mpr hlow, UInt8.le_iff_toNat_le.mpr hhigh⟩
  rw [utf8ErrorAt.eq_def]
  simp [hlt, hrange, hsecond]

theorem utf8ErrorAt_three {third : UInt8} (hlow : 0xE0 ≤ first.toNat) (hhigh : first.toNat < 0xF0)
    (hsecond : isSecondByte first second = true) (hthird : isContinuationByte third = true) :
    utf8ErrorAt i (first :: second :: third :: rest) = utf8ErrorAt (i + 3) rest := by
  have hlt : ¬ first < 0x80 := by
    rw [UInt8.lt_iff_toNat_lt]
    show ¬ first.toNat < 0x80
    omega
  have htwo : ¬ (0xC2 ≤ first ∧ first ≤ 0xDF) := by
    rintro ⟨-, hle⟩
    have hle' : first.toNat ≤ 0xDF := UInt8.le_iff_toNat_le.mp hle
    omega
  have hrange : 0xE0 ≤ first ∧ first ≤ 0xF4 :=
    ⟨UInt8.le_iff_toNat_le.mpr hlow,
      UInt8.le_iff_toNat_le.mpr (show first.toNat ≤ 0xF4 by omega)⟩
  have hthree : first < 0xF0 := UInt8.lt_iff_toNat_lt.mpr hhigh
  rw [utf8ErrorAt.eq_def]
  simp [hlt, htwo, hrange, hsecond, hthird, hthree]

theorem utf8ErrorAt_four {third fourth : UInt8} (hlow : 0xF0 ≤ first.toNat)
    (hhigh : first.toNat ≤ 0xF4) (hsecond : isSecondByte first second = true)
    (hthird : isContinuationByte third = true) (hfourth : isContinuationByte fourth = true) :
    utf8ErrorAt i (first :: second :: third :: fourth :: rest) = utf8ErrorAt (i + 4) rest := by
  have hlt : ¬ first < 0x80 := by
    rw [UInt8.lt_iff_toNat_lt]
    show ¬ first.toNat < 0x80
    omega
  have htwo : ¬ (0xC2 ≤ first ∧ first ≤ 0xDF) := by
    rintro ⟨-, hle⟩
    have hle' : first.toNat ≤ 0xDF := UInt8.le_iff_toNat_le.mp hle
    omega
  have hrange : 0xE0 ≤ first ∧ first ≤ 0xF4 :=
    ⟨UInt8.le_iff_toNat_le.mpr (show 0xE0 ≤ first.toNat by omega),
      UInt8.le_iff_toNat_le.mpr hhigh⟩
  have hthree : ¬ first < 0xF0 := by
    rw [UInt8.lt_iff_toNat_lt]
    exact Nat.not_lt.mpr hlow
  rw [utf8ErrorAt.eq_def]
  simp [hlt, htwo, hrange, hsecond, hthird, hfourth, hthree]

end Characters

theorem toNat_utf8Byte {n : Nat} (h : n < 256) : (UInt8.ofNat n).toNat = n := by
  rw [UInt8.toNat_ofNat', Nat.mod_eq_of_lt h]

/-- What a character is encoded as is passed over. -/
theorem utf8ErrorAt_char (i : Nat) (c : Char) (rest : Bytes) :
    utf8ErrorAt i (String.utf8EncodeChar c ++ rest) =
      utf8ErrorAt (i + (String.utf8EncodeChar c).length) rest := by
  have hvalid : c.val.toNat < 0xD800 ∨ 0xDFFF < c.val.toNat ∧ c.val.toNat < 0x110000 := c.valid
  fun_cases String.utf8EncodeChar c with
  | case1 v h1 =>
    have hfirst : (UInt8.ofNat v).toNat = v := toNat_utf8Byte (by omega)
    exact utf8ErrorAt_one i rest (by omega)
  | case2 v h1 h2 =>
    have hfirst : (UInt8.ofNat (v / 64 % 0x20 + 0xc0)).toNat = v / 64 + 0xc0 := by
      rw [toNat_utf8Byte (by omega)]
      omega
    have hsecond := toNat_utf8Byte (show v % 0x40 + 0x80 < 256 by omega)
    exact utf8ErrorAt_two i rest (by omega) (by omega)
      (isContinuationByte_of_toNat (by omega) (by omega))
  | case3 v h1 h2 h3 =>
    have hv : v = c.val.toNat := rfl
    have hfirst : (UInt8.ofNat (v / 4096 % 0x10 + 0xe0)).toNat = v / 4096 + 0xe0 := by
      rw [toNat_utf8Byte (by omega)]
      omega
    have hsecond := toNat_utf8Byte (show v / 64 % 0x40 + 0x80 < 256 by omega)
    have hthird := toNat_utf8Byte (show v % 0x40 + 0x80 < 256 by omega)
    exact utf8ErrorAt_three i rest (by omega) (by omega)
      (isSecondByte_of_toNat (by omega) (by omega) (by omega) (by omega) (by omega) (by omega))
      (isContinuationByte_of_toNat (by omega) (by omega))
  | case4 v h1 h2 h3 =>
    have hv : v = c.val.toNat := rfl
    have hfirst : (UInt8.ofNat (v / 262144 % 0x08 + 0xf0)).toNat = v / 262144 + 0xf0 := by
      rw [toNat_utf8Byte (by omega)]
      omega
    have hsecond := toNat_utf8Byte (show v / 4096 % 0x40 + 0x80 < 256 by omega)
    have hthird := toNat_utf8Byte (show v / 64 % 0x40 + 0x80 < 256 by omega)
    have hfourth := toNat_utf8Byte (show v % 0x40 + 0x80 < 256 by omega)
    exact utf8ErrorAt_four i rest (by omega) (by omega)
      (isSecondByte_of_toNat (by omega) (by omega) (by omega) (by omega) (by omega) (by omega))
      (isContinuationByte_of_toNat (by omega) (by omega))
      (isContinuationByte_of_toNat (by omega) (by omega))

theorem utf8ErrorAt_chars (chars : List Char) :
    ∀ i, utf8ErrorAt i (chars.flatMap String.utf8EncodeChar) = none := by
  induction chars with
  | nil => exact fun i => by rw [List.flatMap_nil, utf8ErrorAt.eq_def]
  | cons c chars ih =>
    intro i
    rw [List.flatMap_cons, utf8ErrorAt_char]
    exact ih _

theorem replaceMalformed_asBytes (fuel : Nat) (text : String) :
    replaceMalformed fuel (asBytes text) = asBytes text := by
  cases fuel with
  | zero => rfl
  | succ fuel =>
    have hnone : utf8ErrorAt 0 (asBytes text) = none := by
      rw [asBytes_eq_flatMap]
      exact utf8ErrorAt_chars text.toList 0
    rw [replaceMalformed, hnone]

theorem fromUTF8?_asBytes (text : String) :
    String.fromUTF8? (asBytes text).toByteArray = some text := by
  have hbytes : (asBytes text).toByteArray = text.toByteArray := by
    ext1
    rw [asBytes, List.data_toByteArray, Array.toArray_toList]
  rw [hbytes, String.fromUTF8?, dif_pos text.isValidUTF8]
  rfl

/-! Byte order marks. -/

def byteOrderMark : Char := Char.ofNat 0xFEFF

/-- The text without a byte order mark before it. -/
def dropMark (text : String) : String :=
  if text.toList.head? = some byteOrderMark then String.ofList text.toList.tail else text

/-- Only a byte order mark is encoded as one. -/
theorem eq_byteOrderMark {c : Char} {tail rest : Bytes}
    (h : String.utf8EncodeChar c ++ tail = 0xEF :: 0xBB :: 0xBF :: rest) : c = byteOrderMark := by
  have hvalid : c.val.toNat < 0xD800 ∨ 0xDFFF < c.val.toNat ∧ c.val.toNat < 0x110000 := c.valid
  have htoNat {a b : UInt8} (heq : a = b) : a.toNat = b.toNat := congrArg UInt8.toNat heq
  revert h
  fun_cases String.utf8EncodeChar c with
  | case1 v h1 =>
    intro h
    have hfirst := htoNat (List.cons.inj h).1
    rw [toNat_utf8Byte (by omega)] at hfirst
    exact absurd hfirst (show ¬ v = 0xEF by omega)
  | case2 v h1 h2 =>
    intro h
    have hfirst := htoNat (List.cons.inj h).1
    rw [toNat_utf8Byte (by omega)] at hfirst
    exact absurd hfirst (show ¬ v / 64 % 0x20 + 0xc0 = 0xEF by omega)
  | case3 v h1 h2 h3 =>
    intro h
    obtain ⟨hfirst, h⟩ := List.cons.inj h
    obtain ⟨hsecond, h⟩ := List.cons.inj h
    obtain ⟨hthird, -⟩ := List.cons.inj h
    replace hfirst := htoNat hfirst
    replace hsecond := htoNat hsecond
    replace hthird := htoNat hthird
    rw [toNat_utf8Byte (by omega)] at hfirst hsecond hthird
    have hfirst' : v / 4096 % 0x10 + 0xe0 = 0xEF := hfirst
    have hsecond' : v / 64 % 0x40 + 0x80 = 0xBB := hsecond
    have hthird' : v % 0x40 + 0x80 = 0xBF := hthird
    have hv : c.val.toNat = 0xFEFF := show v = 0xFEFF by omega
    apply Char.ext
    rw [← UInt32.toNat_inj, hv]
    rfl
  | case4 v h1 h2 h3 =>
    intro h
    have hfirst := htoNat (List.cons.inj h).1
    rw [toNat_utf8Byte (by omega)] at hfirst
    exact absurd hfirst (show ¬ v / 262144 % 0x08 + 0xf0 = 0xEF by omega)

theorem stripByteOrderMark_of_ne {bytes : Bytes}
    (h : ∀ rest, bytes ≠ 0xEF :: 0xBB :: 0xBF :: rest) : stripByteOrderMark bytes = bytes := by
  unfold stripByteOrderMark
  split
  next rest => exact absurd rfl (h rest)
  next => rfl

theorem stripByteOrderMark_asBytes (text : String) :
    stripByteOrderMark (asBytes text) = asBytes (dropMark text) := by
  rw [dropMark]
  split
  next hmark =>
    obtain ⟨chars, hchars⟩ : ∃ chars, text.toList = byteOrderMark :: chars :=
      ⟨text.toList.tail, List.eq_cons_of_mem_head? hmark⟩
    have hencode : String.utf8EncodeChar byteOrderMark = [0xEF, 0xBB, 0xBF] := rfl
    rw [asBytes_eq_flatMap, asBytes_eq_flatMap, String.toList_ofList, hchars, List.flatMap_cons,
      hencode, List.tail_cons]
    rfl
  next hmark =>
    apply stripByteOrderMark_of_ne
    intro rest heq
    rw [asBytes_eq_flatMap] at heq
    cases hchars : text.toList with
    | nil =>
      rw [hchars] at heq
      cases heq
    | cons c chars =>
      rw [hchars, List.flatMap_cons] at heq
      rw [hchars, List.head?_cons, eq_byteOrderMark heq] at hmark
      exact hmark rfl

theorem decodeText_asBytes (text : String) : decodeText (asBytes text) = dropMark text := by
  rw [decodeText, stripByteOrderMark_asBytes, replaceMalformed_asBytes, fromUTF8?_asBytes]
  rfl

theorem decodeTextFatal_asBytes (context text : String) :
    decodeTextFatal context (asBytes text) = .ok (dropMark text) := by
  rw [decodeTextFatal, stripByteOrderMark_asBytes, fromUTF8?_asBytes]

theorem utf8ByteSize_dropMark_le (text : String) :
    (dropMark text).utf8ByteSize ≤ text.utf8ByteSize := by
  have hstrip (bytes : Bytes) : (stripByteOrderMark bytes).length ≤ bytes.length := by
    unfold stripByteOrderMark
    split
    · simp only [List.length_cons]
      omega
    · exact le_rfl
  rw [← length_asBytes, ← length_asBytes, ← stripByteOrderMark_asBytes]
  exact hstrip _

/-- Exactly the texts that begin with no byte order mark are decoded as they are. -/
theorem dropMark_eq_iff (text : String) :
    dropMark text = text ↔ text.toList.head? ≠ some byteOrderMark := by
  rw [dropMark]
  split
  next hmark =>
    refine iff_of_false (fun heq => ?_) (not_not.mpr hmark)
    have hlength := congrArg (List.length ∘ String.toList) heq
    have hchars := List.eq_cons_of_mem_head? hmark
    rw [Function.comp_apply, Function.comp_apply, String.toList_ofList, hchars, List.tail_cons,
      List.length_cons] at hlength
    omega
  next hmark => exact iff_of_true rfl hmark

end Moqtail.Ts
