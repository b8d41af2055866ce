import Moqtail.Ssts.Backpressure

/-! The tier as its history of observations makes it. What moves the tier is said in terms of that
history alone: the clear observations at its end, and whether the tier has fallen since the last
clear one. -/
namespace Moqtail.Ssts

/-- An observation, with the tier it found and the tier it left. -/
structure Observed where
  observation : Observation
  before : Nat
  after : Nat
deriving Repr, DecidableEq

def Observed.Clear (e : Observed) : Prop := e.observation.depth ≤ depthTarget

instance (e : Observed) : Decidable e.Clear :=
  inferInstanceAs (Decidable (e.observation.depth ≤ depthTarget))

def Observed.Fell (e : Observed) : Prop := e.after < e.before

/-- How many clear observations there are at the end. -/
def clearRun (log : List Observed) : Nat := (log.reverse.takeWhile fun e => e.Clear).length

/-- The tier has fallen since the last clear observation. -/
def Cooldown (log : List Observed) : Prop :=
  ∃ e ∈ log.reverse.takeWhile fun e => ¬ e.Clear, e.Fell

theorem clearRun_concat (log : List Observed) (e : Observed) :
    clearRun (log ++ [e]) = if e.Clear then clearRun log + 1 else 0 := by
  unfold clearRun
  rw [List.reverse_concat, List.takeWhile_cons]
  by_cases h : e.Clear <;> simp [h]

theorem cooldown_concat (log : List Observed) (e : Observed) :
    Cooldown (log ++ [e]) ↔ ¬ e.Clear ∧ (e.Fell ∨ Cooldown log) := by
  unfold Cooldown
  rw [List.reverse_concat, List.takeWhile_cons]
  by_cases h : e.Clear <;> simp [h]

/-- Each of the last two observations and this one is deeper than the one before it. -/
def Deepening (earlier : List Observed) (e : Observed) : Prop :=
  ∃ front x y, earlier = front ++ [x, y] ∧ x.observation.depth < y.observation.depth ∧
    y.observation.depth < e.observation.depth

/-- What moves the tier, after the observations `earlier`. -/
structure Justified (earlier : List Observed) (e : Observed) : Prop where
  rises : e.before < e.after ↔ e.Clear ∧ upshiftGopStreak ∣ clearRun (earlier ++ [e])
  byOne : e.before < e.after → e.after = e.before + 1
  congested : ¬ e.Clear → ¬ Cooldown earlier → 0 < e.before → e.after + 1 = e.before
  falls : e.Fell → ¬ e.Clear ∧ e.after + 1 = e.before
  cooldown : e.Fell → Cooldown earlier → e.observation.timedOut = true ∨ Deepening earlier e

inductive TierStep where
  | observe (observation : Observation)
  | clampTo (maxIndex : Nat)

/-- The state that some steps lead to, and what was observed on the way. -/
def trace (steps : List TierStep) : TierState × List Observed :=
  steps.foldl (fun (t, log) step =>
    match step with
    | .observe observation =>
      ((t.observe observation).1,
        log ++ [⟨observation, t.currentIndex, (t.observe observation).1.currentIndex⟩])
    | .clampTo maxIndex => (t.clampTo maxIndex, log)) (.new, [])

/-- How the four fields of the state follow from the history. -/
structure Follows (t : TierState) (log : List Observed) : Prop where
  streak : t.clearStreak = clearRun log % upshiftGopStreak
  cooldown : t.postDownshiftDepth.isSome ↔ Cooldown log
  reference : ∀ depth, t.postDownshiftDepth = some depth →
    ∃ front e, log = front ++ [e] ∧ e.observation.depth = depth
  settled : t.postDownshiftDepth = none → t.cooldownHighStreak = 0
  rising : 0 < t.currentIndex → t.cooldownHighStreak = 0 ∨ t.cooldownHighStreak = 1 ∧
    ∃ front x y, log = front ++ [x, y] ∧ x.observation.depth < y.observation.depth
  justified : ∀ earlier e later, log = earlier ++ e :: later → Justified earlier e

theorem Follows.new : Follows .new [] where
  streak := rfl
  cooldown := iff_of_false Bool.false_ne_true fun ⟨_, hmem, _⟩ => nomatch hmem
  reference _ h := nomatch h
  settled _ := rfl
  rising h := absurd h (Nat.lt_irrefl 0)
  justified _ _ _ h := absurd h.symm (by simp)

theorem Follows.clampTo {t : TierState} {log : List Observed} (h : Follows t log)
    (maxIndex : Nat) : Follows (t.clampTo maxIndex) log where
  streak := h.streak
  cooldown := h.cooldown
  reference := h.reference
  settled := h.settled
  rising hpos := h.rising (lt_of_lt_of_le hpos (Nat.min_le_left _ _))
  justified := h.justified

/-- The history with one more observation. -/
theorem justified_concat {log : List Observed} {e : Observed}
    (h : ∀ earlier e' later, log = earlier ++ e' :: later → Justified earlier e')
    (he : Justified log e) :
    ∀ earlier e' later, log ++ [e] = earlier ++ e' :: later → Justified earlier e' := by
  intro earlier e' later heq
  obtain rfl | ⟨later, last, rfl⟩ := later.eq_nil_or_concat'
  · obtain ⟨rfl, heq⟩ := List.append_inj' heq rfl
    obtain rfl : e = e' := by simpa using heq
    exact he
  · rw [← List.cons_append, ← List.append_assoc] at heq
    obtain ⟨heq, -⟩ := List.append_inj' heq rfl
    exact h earlier e' later heq

/-! One observation. -/

namespace TierState

variable {t : TierState} {o : Observation}

theorem observe_of_clear (ho : o.depth ≤ depthTarget)
    (hsettled : t.postDownshiftDepth = none → t.cooldownHighStreak = 0) :
    (t.observe o).1 =
      if t.clearStreak + 1 < upshiftGopStreak then ⟨t.currentIndex, t.clearStreak + 1, none, 0⟩
      else ⟨t.currentIndex + 1, 0, none, 0⟩ := by
  have hhigh : (if t.postDownshiftDepth.isSome then 0 else t.cooldownHighStreak) = 0 := by
    cases hpost : t.postDownshiftDepth with
    | none => exact hsettled hpost
    | some depth => rfl
  rw [observe, if_pos ho]
  simp only [observeClear, hhigh]
  split
  · rfl
  · rfl

theorem observe_of_congested (ho : ¬ o.depth ≤ depthTarget) (hpost : t.postDownshiftDepth = none)
    (hsettled : t.postDownshiftDepth = none → t.cooldownHighStreak = 0) :
    (t.observe o).1 =
      if t.currentIndex = 0 then ⟨0, 0, none, 0⟩ else ⟨t.currentIndex - 1, 0, some o.depth, 0⟩ := by
  have hdeep : ¬ o.depth < downshiftDepth := by
    unfold depthTarget at ho
    unfold downshiftDepth
    omega
  rw [observe, if_neg ho, hpost]
  simp only [observeCongested, hdeep, false_or]
  split
  · next hzero =>
    show (⟨t.currentIndex, 0, t.postDownshiftDepth, t.cooldownHighStreak⟩ : TierState) =
      ⟨0, 0, none, 0⟩
    rw [hzero, hpost, hsettled hpost]
  · rfl

theorem observe_of_cooldown (ho : ¬ o.depth ≤ depthTarget) {reference : Nat}
    (hpost : t.postDownshiftDepth = some reference) :
    (t.observe o).1 =
      if o.timedOut ∧ 0 < t.currentIndex then ⟨t.currentIndex - 1, 0, some o.depth, 0⟩
      else if o.depth ≤ reference then ⟨t.currentIndex, 0, some o.depth, 0⟩
      else if t.cooldownHighStreak + 1 < cooldownHighStreakLimit ∨ t.currentIndex = 0 then
        ⟨t.currentIndex, 0, some o.depth, t.cooldownHighStreak + 1⟩
      else ⟨t.currentIndex - 1, 0, some o.depth, 0⟩ := by
  rw [observe, if_neg ho, hpost]
  simp only [observeCooldown]
  split
  · rfl
  · split
    · rfl
    · split
      · rfl
      · rfl

end TierState

section Observe

variable {t : TierState} {log : List Observed} {o : Observation}

/-- Five clear observations in a row, and five more, and so on. -/
theorem Follows.observe_clear (h : Follows t log) (ho : o.depth ≤ depthTarget) :
    Follows (t.observe o).1 (log ++ [⟨o, t.currentIndex, (t.observe o).1.currentIndex⟩]) := by
  have hclear : ∀ after, (⟨o, t.currentIndex, after⟩ : Observed).Clear := fun _ => ho
  have hstreak : t.clearStreak = clearRun log % 5 := h.streak
  have hnot : ∀ after, ¬ Cooldown (log ++ [⟨o, t.currentIndex, after⟩]) := fun after hcooldown =>
    ((cooldown_concat log _).mp hcooldown).1 (hclear after)
  have hrun : ∀ after, clearRun (log ++ [⟨o, t.currentIndex, after⟩]) = clearRun log + 1 :=
    fun after => (clearRun_concat log _).trans (if_pos (hclear after))
  rw [TierState.observe_of_clear ho h.settled]
  split
  · next hshort =>
    have hshort : t.clearStreak + 1 < 5 := hshort
    refine ⟨?_, iff_of_false Bool.false_ne_true (hnot _), nofun, fun _ => rfl,
      fun _ => Or.inl rfl, justified_concat h.justified ⟨?_, ?_, ?_, ?_, ?_⟩⟩
    · rw [hrun]
      show t.clearStreak + 1 = (clearRun log + 1) % 5
      omega
    · rw [hrun]
      refine iff_of_false (Nat.lt_irrefl _) fun hmultiple => ?_
      have hfive : 5 ∣ clearRun log + 1 := hmultiple.2
      omega
    · exact fun hlt => absurd hlt (Nat.lt_irrefl _)
    · exact fun hcongested => absurd (hclear _) hcongested
    · exact fun hfell => absurd hfell (Nat.lt_irrefl _)
    · exact fun hfell => absurd hfell (Nat.lt_irrefl _)
  · next hlong =>
    have hlong : ¬ t.clearStreak + 1 < 5 := hlong
    have hfive : (clearRun log + 1) % 5 = 0 := by omega
    refine ⟨?_, iff_of_false Bool.false_ne_true (hnot _), nofun, fun _ => rfl,
      fun _ => Or.inl rfl, justified_concat h.justified ⟨?_, ?_, ?_, ?_, ?_⟩⟩
    · rw [hrun]
      exact hfive.symm
    · rw [hrun]
      exact iff_of_true (Nat.lt_succ_self _) ⟨hclear _, Nat.dvd_of_mod_eq_zero hfive⟩
    · exact fun _ => rfl
    · exact fun hcongested => absurd (hclear _) hcongested
    · exact fun hfell => absurd hfell (Nat.not_lt.mpr (Nat.le_succ _))
    · exact fun hfell => absurd hfell (Nat.not_lt.mpr (Nat.le_succ _))

section Congested

variable (ho : ¬ o.depth ≤ depthTarget)

include ho

theorem clearRun_congested (before after : Nat) : clearRun (log ++ [⟨o, before, after⟩]) = 0 :=
  (clearRun_concat log _).trans (if_neg ho)

/-- A congested observation may leave the tier as it is in the cooldown, and at the bottom. -/
theorem justified_hold {tier : Nat} (hheld : Cooldown log ∨ tier = 0) :
    Justified log ⟨o, tier, tier⟩ where
  rises := iff_of_false (Nat.lt_irrefl _) fun h => ho h.1
  byOne h := absurd h (Nat.lt_irrefl _)
  congested _ hnot hpos := by
    rcases hheld with hin | hzero
    · exact absurd hin hnot
    · exact absurd hzero hpos.ne'
  falls h := absurd h (Nat.lt_irrefl _)
  cooldown h := absurd h (Nat.lt_irrefl _)

/-- In the cooldown it lowers the tier for a reason. -/
theorem justified_fall {tier : Nat} (hpos : 0 < tier)
    (hwhy : Cooldown log → o.timedOut = true ∨ Deepening log ⟨o, tier, tier - 1⟩) :
    Justified log ⟨o, tier, tier - 1⟩ where
  rises := iff_of_false (Nat.not_lt.mpr (Nat.sub_le tier 1)) fun h => ho h.1
  byOne h := absurd h (Nat.not_lt.mpr (Nat.sub_le tier 1))
  congested _ _ _ := Nat.sub_add_cancel hpos
  falls _ := ⟨ho, Nat.sub_add_cancel hpos⟩
  cooldown _ := hwhy

theorem Follows.observe_congested (h : Follows t log) (hpost : t.postDownshiftDepth = none) :
    Follows (t.observe o).1 (log ++ [⟨o, t.currentIndex, (t.observe o).1.currentIndex⟩]) := by
  have hnot : ¬ Cooldown log := by
    rw [← h.cooldown, hpost]
    exact Bool.false_ne_true
  rw [TierState.observe_of_congested ho hpost h.settled]
  split
  · next hzero =>
    rw [hzero]
    refine ⟨?_, ?_, nofun, fun _ => rfl, fun _ => Or.inl rfl,
      justified_concat h.justified (justified_hold ho (Or.inr rfl))⟩
    · rw [clearRun_congested ho]
      rfl
    · refine iff_of_false Bool.false_ne_true fun hcooldown => ?_
      rcases ((cooldown_concat log _).mp hcooldown).2 with hfell | hcooldown
      · exact absurd hfell (Nat.lt_irrefl 0)
      · exact hnot hcooldown
  · next hpos =>
    have hpos : 0 < t.currentIndex := Nat.pos_of_ne_zero hpos
    refine ⟨?_, ?_, ?_, nofun, fun _ => Or.inl rfl, justified_concat h.justified
      (justified_fall ho hpos fun hcooldown => absurd hcooldown hnot)⟩
    · rw [clearRun_congested ho]
      rfl
    · exact iff_of_true rfl ((cooldown_concat log _).mpr ⟨ho, Or.inl (Nat.sub_lt hpos one_pos)⟩)
    · intro depth hdepth
      exact ⟨log, _, rfl, Option.some.inj hdepth⟩

/-- The state of a cooldown that goes on, with whatever the observation made of the tier. -/
theorem Follows.in_cooldown (h : Follows t log) (hin : Cooldown log) {after high : Nat}
    (hrising : 0 < after → high = 0 ∨ high = 1 ∧
      ∃ front x y, log ++ [⟨o, t.currentIndex, after⟩] = front ++ [x, y] ∧
        x.observation.depth < y.observation.depth)
    (hjustified : Justified log ⟨o, t.currentIndex, after⟩) :
    Follows ⟨after, 0, some o.depth, high⟩ (log ++ [⟨o, t.currentIndex, after⟩]) where
  streak := by
    rw [clearRun_congested ho]
    rfl
  cooldown := iff_of_true rfl ((cooldown_concat log _).mpr ⟨ho, Or.inr hin⟩)
  reference _ hdepth := ⟨log, _, rfl, Option.some.inj hdepth⟩
  settled := nofun
  rising := hrising
  justified := justified_concat h.justified hjustified

theorem Follows.observe_cooldown (h : Follows t log) {reference : Nat}
    (hpost : t.postDownshiftDepth = some reference) :
    Follows (t.observe o).1 (log ++ [⟨o, t.currentIndex, (t.observe o).1.currentIndex⟩]) := by
  have hin : Cooldown log := by
    rw [← h.cooldown, hpost]
    rfl
  obtain ⟨front, last, hlog, hlast⟩ := h.reference reference hpost
  rw [TierState.observe_of_cooldown ho hpost]
  split
  · next htimeout =>
    exact h.in_cooldown ho hin (fun _ => Or.inl rfl)
      (justified_fall ho htimeout.2 fun _ => Or.inl htimeout.1)
  · split
    · exact h.in_cooldown ho hin (fun _ => Or.inl rfl) (justified_hold ho (Or.inl hin))
    · next hdeeper =>
      split
      · next hfew =>
        refine h.in_cooldown ho hin (fun hpos => Or.inr
          ⟨?_, front, last, ⟨o, t.currentIndex, t.currentIndex⟩, ?_, ?_⟩)
          (justified_hold ho (Or.inl hin))
        · have hfirst := hfew.resolve_right hpos.ne'
          unfold cooldownHighStreakLimit at hfirst
          omega
        · rw [hlog, List.append_assoc]
          rfl
        · rw [hlast]
          exact Nat.not_le.mp hdeeper
      · next hmany =>
        rw [not_or] at hmany
        have hpos : 0 < t.currentIndex := Nat.pos_of_ne_zero hmany.2
        refine h.in_cooldown ho hin (fun _ => Or.inl rfl) (justified_fall ho hpos fun _ => ?_)
        -- the observation before this one was already deeper than its predecessor
        rcases h.rising hpos with hzero | ⟨-, front', x, y, hlog', hxy⟩
        · exact absurd (hzero ▸ Nat.one_lt_two) hmany.1
        · have heq : front' ++ [x] = front ∧ y = last := by
            have hboth : front' ++ [x] ++ [y] = front ++ [last] := by
              rw [List.append_assoc, ← hlog]
              exact hlog'.symm
            obtain ⟨hfront, hsame⟩ := List.append_inj' hboth rfl
            exact ⟨hfront, List.head_eq_of_cons_eq hsame⟩
          refine Or.inr ⟨front', x, y, hlog', hxy, ?_⟩
          rw [heq.2, hlast]
          exact Nat.not_le.mp hdeeper

end Congested

theorem Follows.observe (h : Follows t log) (o : Observation) :
    Follows (t.observe o).1 (log ++ [⟨o, t.currentIndex, (t.observe o).1.currentIndex⟩]) := by
  by_cases ho : o.depth ≤ depthTarget
  · exact h.observe_clear ho
  · cases hpost : t.postDownshiftDepth with
    | none => exact h.observe_congested ho hpost
    | some reference => exact h.observe_cooldown ho hpost

end Observe

/-- Whatever is observed, and however the tier is clamped in between. -/
theorem Follows.trace (steps : List TierStep) : Follows (trace steps).1 (trace steps).2 := by
  induction steps using List.reverseRecOn with
  | nil => exact .new
  | append_singleton steps step ih =>
    unfold Ssts.trace at ih ⊢
    rw [List.foldl_append]
    cases step with
    | observe o => exact ih.observe o
    | clampTo maxIndex => exact ih.clampTo maxIndex

/-! The decisions. -/

def decideAll (inputs : List AbrInput) : TierState :=
  inputs.foldl (fun t input => (t.decide input).1) .new

/-- A decision observes and then clamps. -/
def AbrInput.steps (input : AbrInput) : List TierStep :=
  [.observe input.observation, .clampTo input.maxIndex]

theorem decideAll_eq_trace (inputs : List AbrInput) :
    decideAll inputs = (trace (inputs.flatMap AbrInput.steps)).1 := by
  induction inputs using List.reverseRecOn with
  | nil => rfl
  | append_singleton inputs input ih =>
    unfold decideAll trace at ih ⊢
    rw [List.foldl_append, List.flatMap_append, List.foldl_append, ih]
    rfl

/-- What a set is answered with at a tier. -/
def SetSnapshot.answer (set : SetSnapshot) (tier : Nat) : Option Nat :=
  if set.active ∧ set.members ≠ [] then
    (set.members[min tier (set.members.length - 1)]?).map Prod.snd
  else none

/-- What a decision leaves and answers. A later set of the same ID takes the place of an earlier
one. -/
structure Answered (input : AbrInput) (decision : TierState × Event × Selection) : Prop where
  below : decision.1.currentIndex = 0 ∨
    ∃ set ∈ input.sets, decision.1.currentIndex < set.members.length
  served : ∀ front set rest, input.sets = front ++ set :: rest →
    (∀ other ∈ rest, other.id ≠ set.id) → set.active = true → set.members ≠ [] →
      ∃ member, set.members[min decision.1.currentIndex (set.members.length - 1)]? = some member ∧
        decision.2.2 set.id = some (some member.2)
  unserved : ∀ front set rest, input.sets = front ++ set :: rest →
    (∀ other ∈ rest, other.id ≠ set.id) → (set.active = false ∨ set.members = []) →
      decision.2.2 set.id = some none

/-- A set keeps its answer while others are answered. -/
theorem foldl_update_of_ne {sets : List SetSnapshot} (answer : SetSnapshot → Option Nat) {id : Nat}
    (h : ∀ other ∈ sets, other.id ≠ id) :
    ∀ selection : Selection, (sets.foldl (fun (selection : Selection) set =>
      Function.update selection set.id (some (answer set))) selection) id = selection id := by
  induction sets with
  | nil => exact fun _ => rfl
  | cons set sets ih =>
    intro selection
    rw [List.forall_mem_cons] at h
    rw [List.foldl_cons, ih h.2, Function.update_of_ne h.1.symm]

theorem decide_selection (t : TierState) (input : AbrInput) {front rest : List SetSnapshot}
    {set : SetSnapshot} (hsets : input.sets = front ++ set :: rest)
    (hlast : ∀ other ∈ rest, other.id ≠ set.id) :
    (t.decide input).2.2 set.id = some (set.answer (t.decide input).1.currentIndex) := by
  show (input.sets.foldl (fun (selection : Selection) set => Function.update selection set.id
    (some (set.answer (t.decide input).1.currentIndex))) fun _ => none) set.id = _
  rw [hsets, List.foldl_append, List.foldl_cons,
    foldl_update_of_ne (fun set => set.answer (t.decide input).1.currentIndex) hlast,
    Function.update_self]

theorem currentIndex_decide_le (t : TierState) (input : AbrInput) :
    (t.decide input).1.currentIndex ≤ input.maxIndex := Nat.min_le_right _ _

/-- The top index is that of some ladder. -/
theorem exists_longest {input : AbrInput} (h : 0 < input.maxIndex) :
    ∃ set ∈ input.sets, set.members.length = input.maxIndex + 1 := by
  unfold AbrInput.maxIndex at h ⊢
  cases hmax : (input.sets.map fun set => set.members.length).max? with
  | none =>
    rw [hmax] at h
    exact absurd h (Nat.lt_irrefl 0)
  | some longest =>
    rw [hmax] at h
    obtain ⟨set, hset, hlength⟩ := List.mem_map.mp (List.max?_mem hmax)
    refine ⟨set, hset, hlength.trans ?_⟩
    simp only [Option.getD_some] at h ⊢
    omega

theorem answered (t : TierState) (input : AbrInput) : Answered input (t.decide input) where
  below := by
    have hle := currentIndex_decide_le t input
    by_cases hzero : (t.decide input).1.currentIndex = 0
    · exact Or.inl hzero
    · obtain ⟨set, hset, hlength⟩ := exists_longest (Nat.lt_of_lt_of_le (Nat.pos_of_ne_zero hzero) hle)
      exact Or.inr ⟨set, hset, by omega⟩
  served front set rest hsets hlast hactive hmembers := by
    have hpos := List.length_pos_iff.mpr hmembers
    have hbound : min (t.decide input).1.currentIndex (set.members.length - 1) <
        set.members.length := by omega
    refine ⟨_, List.getElem?_eq_getElem hbound, ?_⟩
    rw [decide_selection t input hsets hlast, SetSnapshot.answer, if_pos ⟨hactive, hmembers⟩,
      List.getElem?_eq_getElem hbound, Option.map_some]
  unserved front set rest hsets hlast hno := by
    rw [decide_selection t input hsets hlast, SetSnapshot.answer, if_neg]
    rintro ⟨hactive, hmembers⟩
    rcases hno with hinactive | hempty
    · rw [hinactive] at hactive
      cases hactive
    · exact hmembers hempty

/-- The tier after any decisions, and after any observations with any clamps between them. -/
theorem tier_follows :
    (∀ inputs input, Answered input ((decideAll inputs).decide input) ∧
      decideAll (inputs ++ [input]) =
        (trace ((inputs ++ [input]).flatMap AbrInput.steps)).1) ∧
      ∀ steps, (∀ earlier e later, (trace steps).2 = earlier ++ e :: later → Justified earlier e) ∧
        ((trace steps).1.postDownshiftDepth.isSome ↔ Cooldown (trace steps).2) := by
  constructor
  · intro inputs input
    exact ⟨answered _ _, decideAll_eq_trace _⟩
  · intro steps
    exact ⟨(Follows.trace steps).justified, (Follows.trace steps).cooldown⟩

end Moqtail.Ssts
