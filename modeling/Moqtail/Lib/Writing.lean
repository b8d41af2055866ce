import Moqtail.Lib.Agree
import Moqtail.Lib.Codec

/-! Writers that put their parts one after the other, and two of them whose outputs are the same as
long as they fit in a bounded space.

Past the bound each may fail or go on as it likes: what is put into a bounded frame after it is
refused all the same. -/
namespace Moqtail.Lib

section

variable {ε δ α β γ κ : Type}

/-- The parts in turn, up to the first that fails. -/
def writeAll (parts : List (Except ε (List α))) : Except ε (List α) := do
  let parts ← parts.mapM id
  return parts.flatten

theorem writeAll_nil : writeAll ([] : List (Except ε (List α))) = .ok [] := rfl

theorem writeAll_cons (part : Except ε (List α)) (parts : List (Except ε (List α))) :
    writeAll (part :: parts) = do
      let head ← part
      let tail ← writeAll parts
      return head ++ tail := by
  rw [writeAll, List.mapM_cons]
  cases part with
  | error e => rfl
  | ok head =>
    simp only [id, except_ok_bind, writeAll]
    cases parts.mapM id with
    | error e => rfl
    | ok tails => rfl

theorem writeAll_ok_cons (head : List α) (parts : List (Except ε (List α))) :
    writeAll (.ok head :: parts) = (do
      let tail ← writeAll parts
      return head ++ tail) :=
  writeAll_cons (.ok head) parts

theorem writeAll_singleton (part : Except ε (List α)) : writeAll [part] = part := by
  cases part with
  | error e => rfl
  | ok out => simp [writeAll_cons, writeAll_nil]

/-- Two computations with the same results agree. -/
theorem agree_of_ok_iff {x : Except ε α} {y : Except δ α} (h : ∀ a, x = .ok a ↔ y = .ok a) :
    Agree Eq x y := by
  cases x with
  | ok a =>
    rw [(h a).mp rfl]
    exact .ok rfl
  | error e =>
    cases y with
    | ok b => cases (h b).mpr rfl
    | error d => exact .error e d

/-- Up to length `n`, the one computation gives what the other gives. -/
def SameUpTo (n : ℕ) (x : Except ε (List α)) (y : Except δ (List α)) : Prop :=
  ∀ out, out.length ≤ n → (x = .ok out ↔ y = .ok out)

namespace SameUpTo

variable {n : ℕ} {x : Except ε (List α)} {y : Except δ (List α)}

theorem ok (out : List α) : SameUpTo n (.ok out : Except ε (List α)) (.ok out : Except δ (List α)) := by
  intro out' _
  simp

theorem of_agree (h : Agree Eq x y) : SameUpTo n x y := by
  intro out _
  cases h with
  | ok hab => simp [hab]
  | error e d => simp

theorem writeAll {parts : List (Except ε (List α))} {parts' : List (Except δ (List α))}
    (h : List.Forall₂ (SameUpTo n) parts parts') :
    SameUpTo n (writeAll parts) (writeAll parts') := by
  induction h with
  | nil => exact ok []
  | cons hpart _ ih =>
    intro out hlength
    simp only [writeAll_cons, except_bind_eq_ok, except_pure, Except.ok.injEq]
    constructor
    · rintro ⟨head, hhead, tail, htail, rfl⟩
      rw [List.length_append] at hlength
      exact ⟨head, (hpart head (by omega)).mp hhead, tail, (ih tail (by omega)).mp htail, rfl⟩
    · rintro ⟨head, hhead, tail, htail, rfl⟩
      rw [List.length_append] at hlength
      exact ⟨head, (hpart head (by omega)).mpr hhead, tail, (ih tail (by omega)).mpr htail, rfl⟩

/-- What comes after fails on anything past the bound. -/
theorem bind {S : γ → κ → Prop} {f : List α → Except ε γ} {g : List α → Except δ κ}
    (h : SameUpTo n x y) (hshort : ∀ out, out.length ≤ n → Agree S (f out) (g out))
    (hf : ∀ out, n < out.length → ∃ e, f out = .error e)
    (hg : ∀ out, n < out.length → ∃ d, g out = .error d) :
    Agree S (x >>= f) (y >>= g) := by
  have hleft : ∀ e, y = .error e → ∃ d, (x >>= f) = .error d := by
    rintro e rfl
    cases x with
    | error d => exact ⟨d, rfl⟩
    | ok out =>
      rcases Nat.lt_or_ge n out.length with hlong | hle
      · exact hf out hlong
      · cases (h out hle).mp rfl
  cases y with
  | error e =>
    obtain ⟨d, hd⟩ := hleft e rfl
    rw [hd]
    exact .error d e
  | ok out =>
    rcases Nat.lt_or_ge n out.length with hlong | hle
    · obtain ⟨d, hd⟩ := hg out hlong
      rw [except_ok_bind, hd]
      cases x with
      | error e => exact .error e d
      | ok out' =>
        rcases Nat.lt_or_ge n out'.length with hlong' | hle'
        · obtain ⟨e, he⟩ := hf out' hlong'
          rw [except_ok_bind, he]
          exact .error e d
        · cases (h out' hle').mp rfl
          omega
    · rw [(h out hle).mpr rfl]
      exact hshort out hle

end SameUpTo

theorem Agree.bind_sameUpTo {n : ℕ} {R : α → β → Prop} {x : Except ε α} {y : Except δ β}
    {f : α → Except ε (List γ)} {g : β → Except δ (List γ)} (h : Agree R x y)
    (hfg : ∀ a b, R a b → SameUpTo n (f a) (g b)) : SameUpTo n (x >>= f) (y >>= g) := by
  cases h with
  | ok hab => exact hfg _ _ hab
  | error e d =>
    intro out _
    simp

end

end Moqtail.Lib
