import Mathlib

/-! Byte strings read and written most significant byte first, over 64-bit words. -/
namespace Moqtail.Lib

abbrev Bytes := List UInt8

/-- One turn of a big-endian read: `(val << 8) | byte`. -/
def shiftIn (val : UInt64) (b : UInt8) : UInt64 := (val <<< 8) ||| b.toUInt64

/-- The low `n` bytes of `v`, most significant first. -/
def beBytes : Nat → UInt64 → Bytes
  | 0, _ => []
  | n + 1, v => (v >>> UInt64.ofNat (8 * n)).toUInt8 :: beBytes n v

/-- The value of a byte string read most significant byte first. -/
def beNat (bs : Bytes) : Nat := bs.foldl (fun n b => n * 256 + b.toNat) 0

theorem foldl_beNat (bs : Bytes) (n : Nat) :
    bs.foldl (fun n b => n * 256 + b.toNat) n = n * 256 ^ bs.length + beNat bs := by
  induction bs generalizing n with
  | nil => simp [beNat]
  | cons b bs ih =>
    simp only [List.foldl_cons, List.length_cons, beNat, Nat.zero_mul, Nat.zero_add]
    rw [ih (n * 256 + b.toNat), ih b.toNat]
    ring

theorem beNat_cons (b : UInt8) (bs : Bytes) :
    beNat (b :: bs) = b.toNat * 256 ^ bs.length + beNat bs := by
  simp only [beNat, List.foldl_cons, Nat.zero_mul, Nat.zero_add]
  exact foldl_beNat bs b.toNat

theorem beNat_lt (bs : Bytes) : beNat bs < 256 ^ bs.length := by
  induction bs with
  | nil => simp [beNat]
  | cons b bs ih =>
    have hb : b.toNat < 256 := b.toNat_lt
    rw [beNat_cons, List.length_cons, pow_succ]
    nlinarith

theorem shiftIn_toNat (v : UInt64) (b : UInt8) :
    (shiftIn v b).toNat = (v.toNat * 256 + b.toNat) % 2 ^ 64 := by
  have hb : b.toNat < 2 ^ 8 := b.toNat_lt
  have hv : v.toNat < 2 ^ 64 := v.toNat_lt
  unfold shiftIn
  rw [UInt64.toNat_or, UInt64.toNat_shiftLeft, UInt8.toNat_toUInt64]
  have hshift : v.toNat <<< ((8 : UInt64).toNat % 64) % 2 ^ 64 = 2 ^ 8 * (v.toNat % 2 ^ 56) := by
    rw [show (8 : UInt64).toNat % 64 = 8 from rfl, Nat.shiftLeft_eq]
    omega
  rw [hshift, ← Nat.two_pow_add_eq_or_of_lt hb]
  omega

/-- A whole big-endian read, with the wrap-around a 64-bit accumulator has. -/
theorem foldl_shiftIn_toNat (bs : Bytes) (v : UInt64) :
    (bs.foldl shiftIn v).toNat = (v.toNat * 256 ^ bs.length + beNat bs) % 2 ^ 64 := by
  induction bs generalizing v with
  | nil => simp [beNat, Nat.mod_eq_of_lt v.toNat_lt]
  | cons b bs ih =>
    rw [List.foldl_cons, ih, shiftIn_toNat, beNat_cons, List.length_cons, pow_succ,
      Nat.add_mod, Nat.mul_mod, Nat.mod_mod, ← Nat.mul_mod, ← Nat.add_mod]
    congr 1
    ring

@[simp] theorem length_beBytes (n : Nat) (v : UInt64) : (beBytes n v).length = n := by
  induction n with
  | zero => rfl
  | succ n ih => simp [beBytes, ih]

theorem beByte_toNat (n : Nat) (hn : n < 8) (v : UInt64) :
    (v >>> UInt64.ofNat (8 * n)).toUInt8.toNat = v.toNat / 256 ^ n % 256 := by
  rw [UInt64.toNat_toUInt8, UInt64.toNat_shiftRight, UInt64.toNat_ofNat',
    Nat.shiftRight_eq_div_pow]
  have h64 : 8 * n % 2 ^ 64 % 64 = 8 * n := by omega
  rw [h64, pow_mul]
  rfl

theorem beNat_beBytes (n : Nat) (hn : n ≤ 8) (v : UInt64) :
    beNat (beBytes n v) = v.toNat % 256 ^ n := by
  induction n with
  | zero => simp [beBytes, beNat, Nat.mod_one]
  | succ n ih =>
    simp only [beBytes]
    rw [beNat_cons, ih (by omega), length_beBytes, beByte_toNat n (by omega), pow_succ,
      Nat.mod_mul, Nat.add_comm, Nat.mul_comm]

/-- Reading back the eight bytes of a word gives the word. -/
theorem foldl_shiftIn_beBytes (v : UInt64) : (beBytes 8 v).foldl shiftIn 0 = v := by
  apply UInt64.toNat_inj.mp
  have hv : v.toNat < 2 ^ 64 := v.toNat_lt
  rw [foldl_shiftIn_toNat, beNat_beBytes 8 (by omega)]
  simp only [UInt64.toNat_zero, Nat.zero_mul, Nat.zero_add]
  omega

end Moqtail.Lib
