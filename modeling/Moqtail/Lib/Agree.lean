import Mathlib

/-! Two implementations of one computation, which need not report the same errors. -/
namespace Moqtail.Lib

variable {ε δ α β γ κ : Type} {R : α → β → Prop} {S : γ → κ → Prop}

/-- Both fail, or both succeed with results that `R` relates. -/
inductive Agree (R : α → β → Prop) : Except ε α → Except δ β → Prop
  | ok {a : α} {b : β} (h : R a b) : Agree R (.ok a) (.ok b)
  | error (e : ε) (d : δ) : Agree R (.error e) (.error d)

namespace Agree

variable {x : Except ε α} {y : Except δ β}

theorem bind {f : α → Except ε γ} {g : β → Except δ κ} (h : Agree R x y)
    (hfg : ∀ a b, x = .ok a → y = .ok b → R a b → Agree S (f a) (g b)) :
    Agree S (x >>= f) (y >>= g) := by
  cases h with
  | ok hab => exact hfg _ _ rfl rfl hab
  | error e d => exact .error e d

theorem imp {R' : α → β → Prop} (h : Agree R x y)
    (hR : ∀ a b, x = .ok a → y = .ok b → R a b → R' a b) : Agree R' x y := by
  cases h with
  | ok hab => exact .ok (hR _ _ rfl rfl hab)
  | error e d => exact .error e d

/-- Two lists, element by element. -/
theorem mapM {f : α → Except ε γ} {g : β → Except δ κ} {as : List α} {bs : List β}
    (h : List.Forall₂ (fun a b => Agree S (f a) (g b)) as bs) :
    Agree (List.Forall₂ S) (as.mapM f) (bs.mapM g) := by
  induction h with
  | nil => exact .ok .nil
  | cons hab _ ih =>
    rw [List.mapM_cons, List.mapM_cons]
    apply hab.bind
    intro c k _ _ hck
    apply ih.bind
    intro cs ks _ _ hrest
    exact .ok (.cons hck hrest)

end Agree

/-- The one computation is the other followed by a conversion that may fail. -/
def Converts (T : β → Option α) (x : Except ε α) (y : Except δ β) : Prop :=
  x.toOption = y.toOption.bind T

theorem Converts.ok {T : β → Option α} {a : α} {b : β} (h : T b = some a) :
    Converts T (.ok a : Except ε α) (.ok b : Except δ β) :=
  h.symm

theorem Agree.bind_converts {x : Except ε α} {y : Except δ β} {f : α → Except ε γ}
    {g : β → Except δ κ} {T : κ → Option γ} (h : Agree R x y)
    (hfg : ∀ a b, x = .ok a → y = .ok b → R a b → Converts T (f a) (g b)) :
    Converts T (x >>= f) (y >>= g) := by
  cases h with
  | ok hab => exact hfg _ _ rfl rfl hab
  | error e d => rfl

/-- A conversion that fails on what the other computation has read fails in the end. -/
theorem Converts.bind {x : Except ε α} {y : Except δ β} {f : α → Except ε γ}
    {g : β → Except δ κ} {T : β → Option α} {U : κ → Option γ} (h : Converts T x y)
    (hsome : ∀ a b, x = .ok a → y = .ok b → T b = some a → Converts U (f a) (g b))
    (hnone : ∀ b c, y = .ok b → T b = none → g b = .ok c → U c = none) :
    Converts U (x >>= f) (y >>= g) := by
  cases y with
  | error d =>
    cases x with
    | error e => rfl
    | ok a => cases h
  | ok b =>
    cases hT : T b with
    | some a =>
      cases x with
      | error e =>
        rw [Converts, Except.toOption, Except.toOption, Option.bind_some, hT] at h
        cases h
      | ok a' =>
        rw [Converts, Except.toOption, Except.toOption, Option.bind_some, hT] at h
        cases h
        exact hsome a b rfl rfl hT
    | none =>
      cases x with
      | ok a' =>
        rw [Converts, Except.toOption, Except.toOption, Option.bind_some, hT] at h
        cases h
      | error e =>
        show none = (g b).toOption.bind U
        cases hg : g b with
        | error d => rfl
        | ok c => exact (hnone b c rfl hT hg).symm

end Moqtail.Lib
