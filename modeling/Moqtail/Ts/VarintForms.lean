import Moqtail.Ts.ByteBuffer

/-! The encodings of a varint. A value has one encoding in each length that holds it. What is written
is the shortest of them, both libraries read all of them, and a part of one is never a value. -/
namespace Moqtail

open Lib

/-- The ones at the top of an encoding in `n` bytes: one fewer than its bytes, then a zero. -/
def viMarker (n : Nat) : Nat := (2 ^ (n - 1) - 1) * 2 ^ (7 * n + 1)

/-- Whether `n` bytes hold the value. Each carries seven bits, but nine carry a whole word. -/
def ViHolds (n : Nat) (v : UInt64) : Prop := 1 ≤ n ∧ n ≤ 9 ∧ (v.toNat < 2 ^ (7 * n) ∨ n = 9)

/-- `e` is the encoding of `v` in `n` bytes. -/
structure ViEncodes (n : Nat) (v : UInt64) (e : Bytes) : Prop where
  holds : ViHolds n v
  length_eq : e.length = n
  beNat_eq : beNat e = viMarker n + v.toNat

/-- The encoding in `n` bytes. -/
def viForm (n : Nat) (v : UInt64) : Bytes :=
  if n = 9 then 0xFF :: beBytes 8 v else beBytes n (UInt64.ofNat (viMarker n + v.toNat))

/-! The first byte tells the length and the bits of the value it carries. -/

private theorem leadingOnes_fin : ∀ ones : Fin 9, ∀ x : Fin 256,
    x.val < 2 ^ (7 - ones.val) → (ones.val = 8 → x.val = 0) →
      leadingOnes (UInt8.ofNat ((2 ^ ones.val - 1) * 2 ^ (8 - ones.val) + x.val)) = ones.val := by
  decide +kernel

private theorem firstByte_split_fin : ∀ x : Fin 256,
    x.val = (2 ^ leadingOnes (UInt8.ofNat x.val) - 1) *
        2 ^ (8 - leadingOnes (UInt8.ofNat x.val)) +
      Ts.ByteBuffer.firstByteValueBits (UInt8.ofNat x.val)
        (leadingOnes (UInt8.ofNat x.val) + 1) := by
  decide +kernel

theorem firstByte_split (first : UInt8) :
    first.toNat = (2 ^ leadingOnes first - 1) * 2 ^ (8 - leadingOnes first) +
      Ts.ByteBuffer.firstByteValueBits first (leadingOnes first + 1) := by
  simpa using firstByte_split_fin ⟨first.toNat, first.toNat_lt⟩

theorem leadingOnes_eq {first : UInt8} {ones x : Nat} (hones : ones ≤ 8) (hx : x < 2 ^ (7 - ones))
    (hx8 : ones = 8 → x = 0) (hfirst : first.toNat = (2 ^ ones - 1) * 2 ^ (8 - ones) + x) :
    leadingOnes first = ones := by
  have hlt := first.toNat_lt
  have h := leadingOnes_fin ⟨ones, by omega⟩ ⟨x, by omega⟩ hx hx8
  rw [← hfirst, UInt8.ofNat_toNat] at h
  exact h

/-- What a read makes of the bytes it takes. -/
theorem getVi_cons (first : UInt8) (more tail : Bytes) (hmore : more.length = leadingOnes first) :
    ∃ v, getVi (first :: more ++ tail) = .ok (v, tail) ∧
      v.toNat = Ts.ByteBuffer.firstByteValueBits first (leadingOnes first + 1) *
        256 ^ leadingOnes first + beNat more := by
  have hones := leadingOnes_le first
  have hlt := Ts.ByteBuffer.value_lt _ hones first more hmore
  simp only [List.cons_append, getVi, Nat.add_sub_cancel, List.length_append]
  rw [if_neg (by omega), List.take_left' hmore, List.drop_left' hmore]
  refine ⟨_, rfl, ?_⟩
  rw [foldl_shiftIn_toNat, ← Ts.ByteBuffer.firstByteValueBits_eq _ hones, hmore,
    Nat.mod_eq_of_lt hlt]

/-! An encoding is determined by its length and its value, and by its bytes. -/

theorem beNat_injective {as bs : Bytes} (hlength : as.length = bs.length)
    (h : beNat as = beNat bs) : as = bs := by
  induction as generalizing bs with
  | nil => exact (List.length_eq_zero_iff.mp hlength.symm).symm
  | cons a as ih =>
    cases bs with
    | nil => cases hlength
    | cons b bs =>
      have htail : as.length = bs.length := by simpa using hlength
      have ha := beNat_lt as
      have hb := beNat_lt bs
      rw [beNat_cons, beNat_cons, htail] at h
      rw [htail] at ha
      generalize 256 ^ bs.length = base at h ha hb
      have hhead : a.toNat = b.toNat := by
        have hdiv := congrArg (· / base) h
        simp only [Nat.mul_comm _ base] at hdiv
        rwa [Nat.mul_add_div (by omega), Nat.mul_add_div (by omega), Nat.div_eq_of_lt ha,
          Nat.div_eq_of_lt hb, Nat.add_zero, Nat.add_zero] at hdiv
      rw [UInt8.toNat_inj.mp hhead, ih htail (by rw [hhead] at h; omega)]

namespace ViEncodes

variable {n m : Nat} {v w : UInt64} {e e' : Bytes}

theorem unique (h : ViEncodes n v e) (h' : ViEncodes n v e') : e = e' := by
  apply beNat_injective
  · rw [h.length_eq, h'.length_eq]
  · rw [h.beNat_eq, h'.beNat_eq]

theorem value_unique (h : ViEncodes n v e) (h' : ViEncodes m w e) : v = w := by
  have hlength : n = m := h.length_eq.symm.trans h'.length_eq
  subst hlength
  have hvalue := h.beNat_eq.symm.trans h'.beNat_eq
  exact UInt64.toNat_inj.mp (by omega)

/-- Nothing shorter than what is written holds the value. -/
theorem minimalViLength_le (h : ViEncodes n v e) : minimalViLength v ≤ n := by
  obtain ⟨hpos, hle, hbits | rfl⟩ := h.holds
  · by_cases h8 : n ≤ 8
    · exact (minimalViLength_le_iff v n hpos h8).mpr hbits
    · have := Moqtail.minimalViLength_le v
      omega
  · exact Moqtail.minimalViLength_le v

end ViEncodes

theorem viHolds_iff (n : Nat) (v : UInt64) : ViHolds n v ↔ minimalViLength v ≤ n ∧ n ≤ 9 := by
  have hpos := minimalViLength_pos v
  have hle := minimalViLength_le v
  unfold ViHolds
  by_cases h8 : 1 ≤ n ∧ n ≤ 8
  · rw [minimalViLength_le_iff v n h8.1 h8.2]
    omega
  · omega

theorem viForm_encodes {n : Nat} {v : UInt64} (h : ViHolds n v) : ViEncodes n v (viForm n v) := by
  have hv := v.toNat_lt
  obtain ⟨hpos, hle, hbits⟩ := h
  by_cases h9 : n = 9
  · subst h9
    refine ⟨⟨hpos, hle, hbits⟩, ?_, ?_⟩
    · simp [viForm]
    · have hfirst : (0xFF : UInt8).toNat = 255 := rfl
      rw [viForm, if_pos rfl, beNat_cons, beNat_beBytes 8 (by omega), length_beBytes, viMarker,
        hfirst]
      omega
  · have hlt : v.toNat < 2 ^ (7 * n) := by tauto
    have htotal : viMarker n + v.toNat < 256 ^ n := by
      unfold viMarker
      interval_cases n <;> omega
    have hword : viMarker n + v.toNat < 2 ^ 64 := by
      apply lt_of_lt_of_le htotal
      calc 256 ^ n ≤ 256 ^ 8 := Nat.pow_le_pow_right (by omega) (by omega)
        _ = 2 ^ 64 := by norm_num
    refine ⟨⟨hpos, hle, hbits⟩, ?_, ?_⟩
    · rw [viForm, if_neg h9, length_beBytes]
    · rw [viForm, if_neg h9, beNat_beBytes n (by omega), UInt64.toNat_ofNat_of_lt' hword,
        Nat.mod_eq_of_lt htotal]

/-! Every encoding is read, and what is read is an encoding. -/

theorem getVi_of_encodes {n : Nat} {v : UInt64} {e : Bytes} (h : ViEncodes n v e) (tail : Bytes) :
    getVi (e ++ tail) = .ok (v, tail) := by
  obtain ⟨⟨hpos, hle, hbits⟩, hlength, hvalue⟩ := h
  obtain ⟨ones, rfl⟩ : ∃ ones, n = ones + 1 := ⟨n - 1, by omega⟩
  cases e with
  | nil => cases hlength
  | cons first more =>
    have hmore : more.length = ones := by simpa using hlength
    have hlow := beNat_lt more
    have hv := v.toNat_lt
    rw [beNat_cons, hmore, viMarker, Nat.add_sub_cancel] at hvalue
    rw [hmore] at hlow
    -- the first byte is the ones and the bits of the value above the other bytes
    have hfirst : first.toNat = (2 ^ ones - 1) * 2 ^ (8 - ones) + v.toNat / 256 ^ ones := by
      have hones : ones ≤ 8 := by omega
      interval_cases ones <;> omega
    have hdiv : v.toNat / 256 ^ ones < 2 ^ (7 - ones) ∧ (ones = 8 → v.toNat / 256 ^ ones = 0) := by
      have hones : ones ≤ 8 := by omega
      interval_cases ones <;> omega
    have hones := leadingOnes_eq (by omega) hdiv.1 hdiv.2 hfirst
    obtain ⟨w, hread, hw⟩ := getVi_cons first more tail (by rw [hones, hmore])
    have hsplit := firstByte_split first
    rw [hones] at hw hsplit
    have hbitsEq : Ts.ByteBuffer.firstByteValueBits first (ones + 1) = v.toNat / 256 ^ ones := by
      omega
    have hrest : beNat more = v.toNat % 256 ^ ones := by
      have hones' : ones ≤ 8 := by omega
      interval_cases ones <;> omega
    have hsame : w = v := by
      apply UInt64.toNat_inj.mp
      rw [hw, hbitsEq, hrest, Nat.mul_comm, Nat.div_add_mod]
    rw [hread, hsame]

/-- The bits of a value: those of the first byte, then eight for each byte after it. -/
theorem viHolds_of_split {first : UInt8} {more : Bytes} {v : UInt64}
    (hmore : more.length = leadingOnes first)
    (hv : v.toNat = Ts.ByteBuffer.firstByteValueBits first (leadingOnes first + 1) *
      256 ^ leadingOnes first + beNat more) : ViHolds (leadingOnes first + 1) v := by
  have hones := leadingOnes_le first
  have hrest := beNat_lt more
  refine ⟨by omega, by omega, ?_⟩
  by_cases h8 : leadingOnes first < 8
  · left
    have hlow := lowBits_lt _ h8 first
    rw [Ts.ByteBuffer.firstByteValueBits_eq _ hones, if_pos (by omega)] at hv
    rw [hmore] at hrest
    generalize (first.toUInt64 &&& ((1 <<< UInt64.ofNat (8 - (leadingOnes first + 1))) - 1)).toNat
      = low at hv hlow
    interval_cases leadingOnes first <;> omega
  · omega

theorem encodes_of_getVi {bytes rest : Bytes} {v : UInt64} (h : getVi bytes = .ok (v, rest)) :
    ∃ n e, bytes = e ++ rest ∧ ViEncodes n v e := by
  cases bytes with
  | nil => cases h
  | cons first tail =>
    have hones := leadingOnes_le first
    by_cases hshort : tail.length < leadingOnes first
    · simp only [getVi, Nat.add_sub_cancel] at h
      rw [if_pos hshort] at h
      cases h
    · have hmore : (tail.take (leadingOnes first)).length = leadingOnes first := by
        rw [List.length_take]
        omega
      obtain ⟨w, hread, hw⟩ := getVi_cons first _ (tail.drop (leadingOnes first)) hmore
      rw [List.cons_append, List.take_append_drop, h] at hread
      cases hread
      refine ⟨leadingOnes first + 1, first :: tail.take (leadingOnes first), ?_,
        viHolds_of_split hmore hw, ?_, ?_⟩
      · rw [List.cons_append, List.take_append_drop]
      · rw [List.length_cons, hmore]
      · have hsplit := firstByte_split first
        rw [beNat_cons, hmore, viMarker, Nat.add_sub_cancel, hw, hsplit, Nat.add_mul, Nat.add_assoc]
        congr 1
        interval_cases leadingOnes first <;> rfl

theorem getVi_eq_ok_iff {bytes rest : Bytes} {v : UInt64} :
    getVi bytes = .ok (v, rest) ↔ ∃ n e, bytes = e ++ rest ∧ ViEncodes n v e := by
  constructor
  · exact encodes_of_getVi
  · rintro ⟨n, e, rfl, h⟩
    exact getVi_of_encodes h rest

/-- What is written is an encoding, in the fewest bytes. -/
theorem putVi_encodes (v : UInt64) : ViEncodes (minimalViLength v) v (putVi v) := by
  have hread := getVi_putVi v []
  obtain ⟨n, e, hbytes, he⟩ := encodes_of_getVi hread
  simp only [List.append_nil] at hbytes
  subst hbytes
  have hlength : n = minimalViLength v := by rw [← he.length_eq, length_putVi]
  rwa [hlength] at he

/-! A read that fails waits for more. -/

theorem getVi_error {bytes : Bytes} {err : ParseError} (h : getVi bytes = .error err) :
    ∃ context needed available, err = .notEnoughBytes context needed available := by
  cases bytes with
  | nil =>
    cases h
    exact ⟨_, _, _, rfl⟩
  | cons first rest =>
    simp only [getVi] at h
    split at h
    · cases h
      exact ⟨_, _, _, rfl⟩
    · cases h

/-- A proper part of an encoding is no encoding and does not start with one. -/
theorem getVi_of_properPrefix {n : Nat} {v : UInt64} {p more : Bytes} (hmore : more ≠ [])
    (h : ViEncodes n v (p ++ more)) :
    ∃ context needed available, getVi p = .error (.notEnoughBytes context needed available) := by
  cases hread : getVi p with
  | error err =>
    obtain ⟨context, needed, available, rfl⟩ := getVi_error hread
    exact ⟨context, needed, available, rfl⟩
  | ok out =>
    obtain ⟨w, rest⟩ := out
    have hwhole := getVi_of_encodes h []
    rw [List.append_nil] at hwhole
    exact absurd hread (getVi_stable.not_ok_of_append hwhole hmore)

/-- The two reads of one byte string: the same value and the same bytes left, or both wait for the
same number of bytes. -/
theorem getVI_same (bytes : Bytes) :
    (∃ v rest, getVi bytes = .ok (v, rest) ∧ Ts.ByteBuffer.getVI bytes = .ok (Ts.ofU64 v, rest)) ∨
      ∃ context context' needed available, ∃ available' : Int,
        getVi bytes = .error (.notEnoughBytes context needed available) ∧
          Ts.ByteBuffer.getVI bytes =
            .error (.notEnoughBytes context' (needed : Nat) available') := by
  cases hread : getVi bytes with
  | ok out =>
    obtain ⟨v, rest⟩ := out
    exact .inl ⟨v, rest, rfl, Ts.ByteBuffer.eq_ok_of_agrees (Ts.ByteBuffer.getVI_agrees _) hread⟩
  | error err =>
    right
    cases bytes with
    | nil =>
      cases hread
      exact ⟨_, _, 1, 0, 0, rfl, rfl⟩
    | cons first rest =>
      simp only [getVi, Nat.add_sub_cancel] at hread
      simp only [Ts.ByteBuffer.getVI, Ts.ByteBuffer.countLeadingOnes_eq, Nat.add_sub_cancel]
      split at hread
      next hshort =>
        cases hread
        rw [if_pos hshort]
        exact ⟨_, _, leadingOnes first + 1, rest.length + 1, (first :: rest).length + 1, rfl, rfl⟩
      · cases hread

theorem getVI_eq_ok_iff {bytes rest : Bytes} {v : UInt64} :
    Ts.ByteBuffer.getVI bytes = .ok (Ts.ofU64 v, rest) ↔ getVi bytes = .ok (v, rest) := by
  obtain ⟨w, left, hrust, hts⟩ | ⟨context, context', needed, available, available', hrust, hts⟩ :=
    getVI_same bytes
  · simp [hrust, hts, UInt64.toNat_inj]
  · simp [hrust, hts]

/-- The varints of both libraries, for one value: the encoding that is written is the shortest, and
it is read back with nothing after it touched. Just the encodings of the value are read as it. A part
of one is read by neither library, which wait for the same number of bytes. -/
theorem varint_codec (v : UInt64) :
    (ViEncodes (minimalViLength v) v (putVi v) ∧
      (∀ n, 1 ≤ n → n ≤ 8 → ((putVi v).length ≤ n ↔ v.toNat < 2 ^ (7 * n))) ∧
      (putVi v).length ≤ 9 ∧ ∀ n e, ViEncodes n v e → (putVi v).length ≤ e.length) ∧
    (∀ tail, getVi (putVi v ++ tail) = .ok (v, tail)) ∧
    (∀ n, (putVi v).length ≤ n → n ≤ 9 → ∃! e, ViEncodes n v e) ∧
    (∀ bytes rest, (getVi bytes = .ok (v, rest) ↔ ∃ n e, bytes = e ++ rest ∧ ViEncodes n v e) ∧
      (Ts.ByteBuffer.getVI bytes = .ok (Ts.ofU64 v, rest) ↔ getVi bytes = .ok (v, rest))) ∧
    (∀ n p more, more ≠ [] → ViEncodes n v (p ++ more) →
      ∃ context context' needed available, ∃ available' : Int,
        getVi p = .error (.notEnoughBytes context needed available) ∧
          Ts.ByteBuffer.getVI p =
            .error (.notEnoughBytes context' (needed : Nat) available')) ∧
    Ts.ByteBuffer.putVI (Ts.ofU64 v) = .ok (putVi v) := by
  refine ⟨⟨putVi_encodes v, ?_, ?_, ?_⟩, getVi_putVi v, ?_, ?_, ?_, Ts.ByteBuffer.putVI_eq v⟩
  · intro n hpos h8
    rw [length_putVi]
    exact minimalViLength_le_iff v n hpos h8
  · rw [length_putVi]
    exact minimalViLength_le v
  · intro n e h
    rw [length_putVi, h.length_eq]
    exact h.minimalViLength_le
  · intro n hmin hle
    rw [length_putVi] at hmin
    have hform := viForm_encodes ((viHolds_iff n v).mpr ⟨hmin, hle⟩)
    exact ⟨viForm n v, hform, fun e h => h.unique hform⟩
  · intro bytes rest
    exact ⟨getVi_eq_ok_iff, getVI_eq_ok_iff⟩
  · intro n p more hmore h
    obtain ⟨context, needed, available, hshort⟩ := getVi_of_properPrefix hmore h
    obtain ⟨w, rest, hrust, _⟩ |
      ⟨context₁, context₂, needed₁, available₁, available₂, hrust, hts⟩ := getVI_same p
    · rw [hshort] at hrust
      cases hrust
    · exact ⟨context₁, context₂, needed₁, available₁, available₂, hrust, hts⟩

end Moqtail
