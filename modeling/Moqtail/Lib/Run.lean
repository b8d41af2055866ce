import Mathlib

/-! Runs of a deterministic transition system, and the induction rules for them.

`step s a` is the state after the action `a`, or `none` when `a` is not enabled in `s`.
`Along step P s as` says that every step the actions `as` take from `s` meets `P` in the
state it is taken from. -/
namespace Moqtail.Lib

section Run

variable {σ α : Type} (step : σ → α → Option σ)

def run : σ → List α → Option σ
  | s, [] => some s
  | s, a :: as => (step s a).bind fun s' => run s' as

def Along (P : σ → α → Prop) : σ → List α → Prop
  | _, [] => True
  | s, a :: as => P s a ∧ ∀ s', step s a = some s' → Along P s' as

variable {step}

theorem run_cons_eq_some {s t : σ} {a : α} {as : List α} (h : run step s (a :: as) = some t) :
    ∃ s', step s a = some s' ∧ run step s' as = some t :=
  Option.bind_eq_some_iff.mp h

/-- What every step keeps as long as it meets `P`, a run whose steps all meet `P` keeps. -/
theorem run_invariant {I : σ → Prop} {P : σ → α → Prop}
    (hstep : ∀ s a s', I s → P s a → step s a = some s' → I s') (as : List α) :
    ∀ s t, I s → Along step P s as → run step s as = some t → I t := by
  induction as with
  | nil =>
    intro s t hs _ hrun
    cases Option.some.inj hrun
    exact hs
  | cons a as ih =>
    intro s t hs hall hrun
    obtain ⟨s', hs', hrun'⟩ := run_cons_eq_some hrun
    exact ih s' t (hstep s a s' hs hall.1 hs') (hall.2 s' hs') hrun'

/-- A run of a computable system can be checked step by step. -/
instance decidableAlong (P : σ → α → Prop) [∀ s a, Decidable (P s a)] :
    (s : σ) → (as : List α) → Decidable (Along step P s as)
  | _, [] => .isTrue trivial
  | s, a :: as =>
    match hstep : step s a with
    | none => decidable_of_iff (P s a) ⟨fun h => ⟨h, fun s' hs' => by simp [hstep] at hs'⟩, And.left⟩
    | some s' =>
      have := decidableAlong P s' as
      decidable_of_iff (P s a ∧ Along step P s' as)
        ⟨fun h => ⟨h.1, fun t ht => by rw [hstep] at ht; cases ht; exact h.2⟩,
          fun h => ⟨h.1, h.2 s' hstep⟩⟩

theorem Along.mono {P Q : σ → α → Prop} (h : ∀ s a, P s a → Q s a) (as : List α) :
    ∀ s, Along step P s as → Along step Q s as := by
  induction as with
  | nil => intro s _; trivial
  | cons a as ih =>
    intro s hall
    exact ⟨h s a hall.1, fun s' hs' => ih s' (hall.2 s' hs')⟩

theorem Along.and {P Q : σ → α → Prop} (as : List α) :
    ∀ s, Along step P s as → Along step Q s as → Along step (fun s a => P s a ∧ Q s a) s as := by
  induction as with
  | nil => intro s _ _; trivial
  | cons a as ih =>
    intro s hP hQ
    exact ⟨⟨hP.1, hQ.1⟩, fun s' hs' => ih s' (hP.2 s' hs') (hQ.2 s' hs')⟩

theorem Along.of_forall {P : α → Prop} (as : List α) :
    ∀ s, (∀ a ∈ as, P a) → Along step (fun _ a => P a) s as := by
  induction as with
  | nil => intro s _; trivial
  | cons a as ih =>
    intro s hall
    rw [List.forall_mem_cons] at hall
    exact ⟨hall.1, fun s' _ => ih s' hall.2⟩

/-- Each step of such a run meets `P` in the state the steps before it reach. -/
theorem Along.at {P : σ → α → Prop} {u : σ} {a : α} {later : List α} (earlier : List α) :
    ∀ s, Along step P s (earlier ++ a :: later) → run step s earlier = some u → P u a := by
  induction earlier with
  | nil =>
    intro s hall hrun
    cases Option.some.inj hrun
    exact hall.1
  | cons b earlier ih =>
    intro s hall hrun
    obtain ⟨s', hstep, hrun⟩ := run_cons_eq_some hrun
    exact ih s' (hall.2 s' hstep) hrun

/-- The system with a record of the steps it has taken, which they do not depend on. -/
def watch {η : Type} (step : σ → α → Option σ) (note : σ → η → α → η) (s : σ × η) (a : α) :
    Option (σ × η) :=
  (step s.1 a).map fun s' => (s', note s.1 s.2 a)

theorem watch_eq_some {η : Type} {note : σ → η → α → η} {s t : σ × η} {a : α} :
    watch step note s a = some t ↔ step s.1 a = some t.1 ∧ t.2 = note s.1 s.2 a := by
  obtain ⟨t, noted⟩ := t
  simp [watch, eq_comm]

theorem run_watch {η : Type} (note : σ → η → α → η) (as : List α) :
    ∀ s t noted, run step s as = some t →
      ∃ noted', run (watch step note) (s, noted) as = some (t, noted') := by
  induction as with
  | nil =>
    intro s t noted hrun
    cases Option.some.inj hrun
    exact ⟨noted, rfl⟩
  | cons a as ih =>
    intro s t noted hrun
    obtain ⟨s', hstep, hrun⟩ := run_cons_eq_some hrun
    obtain ⟨noted', hrun'⟩ := ih s' t (note s noted a) hrun
    exact ⟨noted', by simp [run, watch, hstep, hrun']⟩

/-- Steps that each lower a measure come to an end: some run of them is left with none to take. -/
theorem exists_run_to_end {P : α → Prop} (measure : σ → Nat)
    (hlower : ∀ s a s', P a → step s a = some s' → measure s' < measure s) (s : σ) :
    ∃ as t, (∀ a ∈ as, P a) ∧ run step s as = some t ∧ ∀ a, P a → step t a = none := by
  induction h : measure s using Nat.strong_induction_on generalizing s with
  | _ n ih =>
    subst h
    by_cases hleft : ∃ a s', P a ∧ step s a = some s'
    · obtain ⟨a, s', ha, hstep⟩ := hleft
      obtain ⟨as, t, has, hrun, hend⟩ := ih _ (hlower s a s' ha hstep) s' rfl
      refine ⟨a :: as, t, List.forall_mem_cons.mpr ⟨ha, has⟩, ?_, hend⟩
      simp [run, hstep, hrun]
    · refine ⟨[], s, by simp, rfl, fun a ha => ?_⟩
      rw [Option.eq_none_iff_forall_ne_some]
      exact fun s' hstep => hleft ⟨a, s', ha, hstep⟩

/-- No run of such steps is longer than the measure it starts from. -/
theorem run_length_le {P : α → Prop} (measure : σ → Nat)
    (hlower : ∀ s a s', P a → step s a = some s' → measure s' < measure s) (as : List α) :
    ∀ s t, (∀ a ∈ as, P a) → run step s as = some t → as.length + measure t ≤ measure s := by
  induction as with
  | nil =>
    intro s t _ hrun
    cases Option.some.inj hrun
    exact Nat.le_of_eq (Nat.zero_add _)
  | cons a as ih =>
    intro s t has hrun
    rw [List.forall_mem_cons] at has
    obtain ⟨s', hstep, hrest⟩ := run_cons_eq_some hrun
    have hfirst := hlower s a s' has.1 hstep
    have hlater := ih s' t has.2 hrest
    rw [List.length_cons]
    omega

end Run

section Answers

variable {σ τ α β : Type}

/-- What the calls answer in turn, and the state after the last of them. -/
def answers (call : α → σ → β × σ) : List α → σ → List β × σ
  | [], s => ([], s)
  | a :: as, s =>
    let rest := answers call as (call a s).2
    ((call a s).1 :: rest.1, rest.2)

/-- The same answer, and related states after it. -/
def SameAnswer (R : σ → τ → Prop) (r : β × σ) (r' : β × τ) : Prop := r.1 = r'.1 ∧ R r.2 r'.2

/-- Where each call answers the same and keeps the states related, so do all of them. -/
theorem answers_simulates {R : σ → τ → Prop} {call : α → σ → β × σ} {call' : α → τ → β × τ}
    (hcall : ∀ a s t, R s t → SameAnswer R (call a s) (call' a t)) (as : List α) :
    ∀ s t, R s t → SameAnswer R (answers call as s) (answers call' as t) := by
  induction as with
  | nil => exact fun s t hR => ⟨rfl, hR⟩
  | cons a as ih =>
    intro s t hR
    have hfirst := hcall a s t hR
    have hlater := ih _ _ hfirst.2
    exact ⟨congrArg₂ List.cons hfirst.1 hlater.1, hlater.2⟩

end Answers

/-- A party that joins is the last one. -/
theorem getElem?_joined {α : Type} {parties : List α} {joined a : α} {i : Nat}
    (h : (parties ++ [joined])[i]? = some a) :
    parties[i]? = some a ∨ i = parties.length ∧ a = joined := by
  rw [List.getElem?_append] at h
  split at h
  · exact .inl h
  · rw [List.getElem?_singleton] at h
    split at h
    · cases h
      exact .inr ⟨by omega, rfl⟩
    · cases h

/-- A system of many parties of one kind, of which a step changes one: what was counted with the
old party there is counted with the new one. -/
theorem countP_set_add {α : Type} {parties : List α} (p : α → Bool) {i : Nat} {a : α}
    (there : parties[i]? = some a) (a' : α) :
    (parties.set i a').countP p + (p a).toNat = parties.countP p + (p a').toNat := by
  obtain ⟨hlength, rfl⟩ := List.getElem?_eq_some_iff.mp there
  rw [List.countP_set hlength]
  have : p parties[i] = true → 0 < parties.countP p :=
    fun h => List.countP_pos_iff.mpr ⟨_, List.getElem_mem hlength, h⟩
  cases hp : p parties[i] <;> cases p a' <;> simp_all

/-- The same of a sum over the parties. -/
theorem sum_set_add {α : Type} (w : α → Nat) (a' : α) (parties : List α) :
    ∀ {i : Nat} {a : α}, parties[i]? = some a →
      ((parties.set i a').map w).sum + w a = (parties.map w).sum + w a' := by
  induction parties with
  | nil => exact fun there => nomatch there
  | cons first parties ih =>
    intro i a there
    cases i with
    | zero =>
      cases there
      simp only [List.set_cons_zero, List.map_cons, List.sum_cons]
      omega
    | succ i =>
      have hrest := ih there
      simp only [List.set_cons_succ, List.map_cons, List.sum_cons]
      omega

end Moqtail.Lib
