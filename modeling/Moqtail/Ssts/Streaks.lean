import Moqtail.Ssts.GateProgress

/-! What the backpressure streak counts. The algorithm advances its streak each time it is asked,
and the controller asks again for a group it has decided on every tick and every timeout: it drops
the answer, not the change of state. Where no clear observation is of a group that was counted
before, five distinct groups stand behind every upshift. -/
namespace Moqtail.Ssts

open Lib State

/-- What one call of `decide` observed and did. -/
structure Evaluation where
  group : Nat
  clear : Bool
  upshift : Bool
  changed : Bool
deriving Repr, DecidableEq

def Event.isUpshift : Event → Bool
  | .upshift _ _ => true
  | _ => false

def Evaluation.of (t : TierState) (input : AbrInput) : Evaluation where
  group := input.groupId
  clear := decide (input.observation.depth ≤ depthTarget)
  upshift := (t.decide input).2.1.isUpshift
  changed := decide ((t.decide input).1.currentIndex ≠ t.currentIndex)

/-- The groups observed clear since the tier index last changed or an upshift was made. -/
def clearGroups (log : List Evaluation) : Finset Nat :=
  log.foldl (fun groups e =>
    if e.changed ∨ e.upshift then ∅ else if e.clear then insert e.group groups else groups) ∅

/-- Behind every upshift stand five distinct groups observed clear, the last of them when it was
made. -/
def Paced (log : List Evaluation) : Prop :=
  ∀ earlier e rest, log = earlier ++ e :: rest → e.upshift = true →
    e.clear = true ∧ upshiftGopStreak ≤ (insert e.group (clearGroups earlier)).card

theorem clearGroups_concat (log : List Evaluation) (e : Evaluation) :
    clearGroups (log ++ [e]) =
      if e.changed ∨ e.upshift then ∅
      else if e.clear then insert e.group (clearGroups log) else clearGroups log := by
  simp only [clearGroups, List.foldl_append, List.foldl_cons, List.foldl_nil]

theorem Paced.nil : Paced [] := by
  intro earlier e rest h
  exact absurd h.symm (by simp)

theorem Paced.concat {log : List Evaluation} {e : Evaluation} (h : Paced log)
    (he : e.upshift = true → e.clear = true ∧
      upshiftGopStreak ≤ (insert e.group (clearGroups log)).card) : Paced (log ++ [e]) := by
  intro earlier e' rest heq
  obtain rfl | ⟨rest, last, rfl⟩ := rest.eq_nil_or_concat'
  · obtain ⟨rfl, heq⟩ := List.append_inj' heq rfl
    obtain rfl : e = e' := by simpa using heq
    exact he
  · rw [← List.cons_append, ← List.append_assoc] at heq
    obtain ⟨heq, -⟩ := List.append_inj' heq rfl
    exact h earlier e' rest heq

/-! One call of the algorithm. -/

/-- An observation that is not clear ends the streak and makes no upshift. -/
theorem TierState.observe_congested {t : TierState} {observation : Observation}
    (h : ¬ observation.depth ≤ depthTarget) :
    (t.observe observation).1.clearStreak = 0 ∧
      (t.observe observation).2.isUpshift = false := by
  rw [observe, if_neg h]
  split
  · unfold observeCooldown
    grind [Event.isUpshift]
  · unfold observeCongested
    grind [Event.isUpshift]

/-- A clear one makes the streak one longer, or shifts up once that is five. -/
theorem TierState.observe_clear {t : TierState} {observation : Observation}
    (h : observation.depth ≤ depthTarget) :
    if t.clearStreak + 1 < upshiftGopStreak then
      (t.observe observation).1.clearStreak = t.clearStreak + 1 ∧
        (t.observe observation).1.currentIndex = t.currentIndex ∧
        (t.observe observation).2.isUpshift = false
    else
      (t.observe observation).1.clearStreak = 0 ∧
        (t.observe observation).2.isUpshift = true := by
  rw [observe, if_pos h]
  unfold observeClear
  grind [Event.isUpshift]

/-- What the streak owes to the groups behind it. -/
structure Earned (t : TierState) (log : List Evaluation) : Prop where
  paced : Paced log
  streak_le : t.clearStreak ≤ (clearGroups log).card

theorem Earned.new : Earned .new [] := ⟨.nil, Nat.zero_le _⟩

/-- The observation is clear and the state does not count it as it should: its group stands in the
streak already, or the ladders have become too short for the index, which then drops without ending
the streak. -/
def TierState.Miscounts (t : TierState) (log : List Evaluation) (input : AbrInput) : Prop :=
  input.groupId ∈ clearGroups log ∨
    t.clearStreak + 1 < upshiftGopStreak ∧ input.maxIndex < t.currentIndex

theorem Earned.decide {t : TierState} {log : List Evaluation} {input : AbrInput}
    (h : Earned t log)
    (hcounts : input.observation.depth ≤ depthTarget → ¬ t.Miscounts log input) :
    Earned (t.decide input).1 (log ++ [Evaluation.of t input]) := by
  have hstreak : (t.decide input).1.clearStreak = (t.observe input.observation).1.clearStreak := rfl
  have hindex : (t.decide input).1.currentIndex =
      min (t.observe input.observation).1.currentIndex input.maxIndex := rfl
  have hupshift : (Evaluation.of t input).upshift = (t.observe input.observation).2.isUpshift := rfl
  have hlast := clearGroups_concat log (Evaluation.of t input)
  by_cases hclear : input.observation.depth ≤ depthTarget
  · have hmiscounts := hcounts hclear
    unfold TierState.Miscounts at hmiscounts
    push Not at hmiscounts
    obtain ⟨hfresh, hladder⟩ := hmiscounts
    have hcard : (insert input.groupId (clearGroups log)).card = (clearGroups log).card + 1 :=
      Finset.card_insert_of_notMem hfresh
    have hobserve := t.observe_clear hclear
    split at hobserve
    next hshort =>
      obtain ⟨hstreak', hindex', hevent⟩ := hobserve
      have hchanged : (Evaluation.of t input).changed = false := by
        simp [Evaluation.of, hindex, hindex', hladder hshort]
      refine ⟨h.paced.concat ?_, ?_⟩
      · intro hup
        rw [hupshift, hevent] at hup
        cases hup
      · have hclear' : (Evaluation.of t input).clear = true := decide_eq_true hclear
        rw [hlast, hchanged, hupshift, hevent, hclear', hstreak, hstreak']
        simp only [Bool.false_eq_true, or_self, if_false, if_true]
        calc t.clearStreak + 1 ≤ (clearGroups log).card + 1 := Nat.add_le_add_right h.streak_le 1
          _ = (insert input.groupId (clearGroups log)).card := hcard.symm
    next hlong =>
      obtain ⟨hstreak', hevent⟩ := hobserve
      refine ⟨h.paced.concat ?_, ?_⟩
      · intro _
        refine ⟨decide_eq_true hclear, ?_⟩
        have := h.streak_le
        calc upshiftGopStreak ≤ (clearGroups log).card + 1 := by omega
          _ = (insert input.groupId (clearGroups log)).card := hcard.symm
      · rw [hstreak, hstreak']
        exact Nat.zero_le _
  · obtain ⟨hstreak', hevent⟩ := t.observe_congested hclear
    refine ⟨h.paced.concat ?_, ?_⟩
    · intro hup
      rw [hupshift, hevent] at hup
      cases hup
    · rw [hstreak, hstreak']
      exact Nat.zero_le _

/-! The controller, with whatever other algorithms it runs. -/

section Controller

variable {τ : Type}

/-- An algorithm's state: the tier of the backpressure one, the record of its calls, and the state
of any other. -/
structure Watched (τ : Type) where
  tier : TierState
  log : List Evaluation
  other : τ

/-- The backpressure algorithm, with its calls recorded, beside the others. -/
def watched (decideOther : Nat → τ → AbrInput → τ × Selection) (id : Nat) (w : Watched τ)
    (input : AbrInput) : Watched τ × Selection :=
  if id = backpressureAlgorithmId then
    ({ w with
      tier := (backpressure id w.tier input).1
      log := w.log ++ [Evaluation.of w.tier input] }, (backpressure id w.tier input).2)
  else ({ w with other := (decideOther id w.other input).1 }, (decideOther id w.other input).2)

variable {decideOther : Nat → τ → AbrInput → τ × Selection} {s s' : State (Watched τ)} {a : Action}

theorem runAlgorithms_running {σ : Type} {decideWith : Nat → σ → AbrInput → σ × Selection}
    (input : AbrInput) (running : List (Running σ)) : ∀ decisions : Selection,
      (runAlgorithms decideWith input running decisions).1 = running.map fun algorithm =>
        let sets := input.sets.filter fun set => set.algorithmId = algorithm.id
        if sets = [] then algorithm
        else { algorithm with
          state := (decideWith algorithm.id algorithm.state { input with sets := sets }).1 } := by
  induction running with
  | nil => exact fun _ => rfl
  | cons algorithm running ih =>
    intro decisions
    simp only [runAlgorithms, List.map_cons]
    split
    · simp only [ih]
    · simp only [ih]

/-- What the backpressure algorithm is shown of the state: the sets assigned to it. -/
def State.backpressureInput {σ : Type} (s : State σ)
    (group bandwidthEstimateKbps configuredCapKbps : Nat) : AbrInput :=
  { s.abrInput group bandwidthEstimateKbps configuredCapKbps with
    sets := s.decisionSnapshot.filter fun set => set.algorithmId = backpressureAlgorithmId }

/-- The step does not show the backpressure algorithm a clear observation of a group that has its
decision, or one that it miscounts. -/
def State.CountsGroups (s : State (Watched τ)) (a : Action) : Prop :=
  match a, s.stage with
  | .snapshot bandwidth cap, .deciding group _ =>
    (s.backpressureInput group bandwidth cap).sets ≠ [] →
      (s.backpressureInput group bandwidth cap).observation.depth ≤ depthTarget →
        s.decisions group = none ∧
          ∀ algorithm ∈ s.running, algorithm.id = backpressureAlgorithmId →
            ¬ algorithm.state.tier.Miscounts algorithm.state.log
              (s.backpressureInput group bandwidth cap)
  | _, _ => True

instance (t : TierState) (log : List Evaluation) (input : AbrInput) :
    Decidable (t.Miscounts log input) :=
  inferInstanceAs (Decidable (_ ∨ _ ∧ _))

instance (s : State (Watched τ)) : (a : Action) → Decidable (s.CountsGroups a)
  | .snapshot bandwidth cap => by
    unfold State.CountsGroups
    cases s.stage <;> infer_instance
  | .call _ | .streamOpened _ | .streamClosed _ | .streamTimeout _ | .subscribe _ _ | .object _ _
  | .sample _ | .locate _ | .lookUp _ | .ask _ | .wake _ | .giveUp _ | .take | .tick | .check
  | .record | .notify => inferInstanceAs (Decidable True)

/-- Every backpressure algorithm of the connection has earned its streak. -/
def StreaksEarned (s : State (Watched τ)) : Prop :=
  ∀ algorithm ∈ s.running, algorithm.id = backpressureAlgorithmId →
    Earned algorithm.state.tier algorithm.state.log

theorem running_of_moves {σ : Type} {decideWith : Nat → σ → AbrInput → σ × Selection}
    {s s' : State σ} (h : Moves decideWith s a s') :
    s'.running = s.running ∨ ∃ group asked bandwidth cap, a = .snapshot bandwidth cap ∧
      s.stage = .deciding group asked ∧ s.decisionSnapshot ≠ [] ∧
      s'.running = (evaluate decideWith (s.abrInput group bandwidth cap) s.running).1 := by
  cases h
  case evaluated group bandwidth cap asked stage sets =>
    exact .inr ⟨group, asked, bandwidth, cap, rfl, stage, sets, rfl⟩
  all_goals exact .inl rfl

/-- What a step does to one algorithm of the connection that is the backpressure one. -/
theorem backpressure_of_moves (h : Moves (watched decideOther) s a s') {i : Nat}
    {algorithm' : Running (Watched τ)} (hi : s'.running[i]? = some algorithm')
    (hid : algorithm'.id = backpressureAlgorithmId) :
    ∃ algorithm : Running (Watched τ), s.running[i]? = some algorithm ∧
      algorithm.id = backpressureAlgorithmId ∧
      (algorithm' = algorithm ∨ ∃ group asked bandwidth cap, a = .snapshot bandwidth cap ∧
        s.stage = .deciding group asked ∧ (s.backpressureInput group bandwidth cap).sets ≠ [] ∧
        algorithm'.state.tier =
          (algorithm.state.tier.decide (s.backpressureInput group bandwidth cap)).1 ∧
        algorithm'.state.log = algorithm.state.log ++
          [Evaluation.of algorithm.state.tier (s.backpressureInput group bandwidth cap)]) := by
  obtain hrunning | ⟨group, asked, bandwidth, cap, rfl, hstage, -, hrunning⟩ := running_of_moves h
  · exact ⟨algorithm', hrunning ▸ hi, hid, .inl rfl⟩
  · rw [hrunning] at hi
    simp only [evaluate, runAlgorithms_running, List.getElem?_map, Option.map_eq_some_iff] at hi
    obtain ⟨algorithm, hi, hafter⟩ := hi
    split at hafter
    next => exact ⟨algorithm, hi, hafter ▸ hid, .inl hafter.symm⟩
    next hsets =>
      subst hafter
      have hid' : algorithm.id = backpressureAlgorithmId := hid
      refine ⟨algorithm, hi, hid', .inr ⟨group, asked, bandwidth, cap, rfl, hstage, ?_, ?_, ?_⟩⟩
      · rw [hid'] at hsets
        exact hsets
      all_goals
        simp only [watched, hid', if_true]
        rfl

theorem StreaksEarned.step (inv : StreaksEarned s) (ha : s.CountsGroups a)
    (h : Moves (watched decideOther) s a s') : StreaksEarned s' := by
  intro algorithm' hmem hid
  obtain ⟨i, hi⟩ := List.getElem?_of_mem hmem
  obtain ⟨algorithm, hi, hid, rfl | hcall⟩ := backpressure_of_moves h hi hid
  · exact inv _ (List.mem_of_getElem? hi) hid
  · obtain ⟨group, asked, bandwidth, cap, rfl, hstage, hsets, htier, hlog⟩ := hcall
    rw [htier, hlog]
    apply (inv algorithm (List.mem_of_getElem? hi) hid).decide
    intro hclear
    simp only [State.CountsGroups, hstage] at ha
    exact (ha hsets hclear).2 algorithm (List.mem_of_getElem? hi) hid

/-- The algorithms as the connection starts them. -/
def Fresh (running : List (Running (Watched τ))) : Prop :=
  ∀ algorithm ∈ running, algorithm.id = backpressureAlgorithmId →
    algorithm.state.tier = .new ∧ algorithm.state.log = []

/-- Streaks count groups: five distinct ones stand behind every upshift, and a step that evaluates a
group that has its decision advances no streak and shifts nothing up. -/
structure StreaksCountGroups (decideOther : Nat → τ → AbrInput → τ × Selection)
    (running : List (Running (Watched τ))) (actions : List Action) : Prop where
  paced : ∀ s, run (step (watched decideOther)) (initial running) actions = some s →
    ∀ algorithm ∈ s.running, algorithm.id = backpressureAlgorithmId → Paced algorithm.state.log
  again : ∀ earlier a later u u', actions = earlier ++ a :: later →
    run (step (watched decideOther)) (initial running) earlier = some u →
    step (watched decideOther) u a = some u' →
    ∀ group asked, u.stage = .deciding group asked → u.decisions group ≠ none →
      ∀ (i : Nat) (algorithm' : Running (Watched τ)), u'.running[i]? = some algorithm' →
        algorithm'.id = backpressureAlgorithmId →
          ∃ algorithm : Running (Watched τ), u.running[i]? = some algorithm ∧
            algorithm'.state.tier.clearStreak ≤ algorithm.state.tier.clearStreak ∧
            algorithm'.state.log.countP Evaluation.upshift =
              algorithm.state.log.countP Evaluation.upshift

theorem streak_le_of_decided (ha : s.CountsGroups a) (h : Moves (watched decideOther) s a s')
    {group : Nat} {asked : Bool} (hstage : s.stage = .deciding group asked)
    (hdecided : s.decisions group ≠ none) {i : Nat} {algorithm' : Running (Watched τ)}
    (hi : s'.running[i]? = some algorithm') (hid : algorithm'.id = backpressureAlgorithmId) :
    ∃ algorithm : Running (Watched τ), s.running[i]? = some algorithm ∧
      algorithm'.state.tier.clearStreak ≤ algorithm.state.tier.clearStreak ∧
      algorithm'.state.log.countP Evaluation.upshift =
        algorithm.state.log.countP Evaluation.upshift := by
  obtain ⟨algorithm, hi, hid, rfl | hcall⟩ := backpressure_of_moves h hi hid
  · exact ⟨_, hi, le_rfl, rfl⟩
  · obtain ⟨group', asked', bandwidth, cap, rfl, hstage', hsets, htier, hlog⟩ := hcall
    obtain ⟨rfl, rfl⟩ : group = group' ∧ asked = asked' := by simpa using hstage.symm.trans hstage'
    simp only [State.CountsGroups, hstage] at ha
    have hcongested : ¬ (s.backpressureInput group bandwidth cap).observation.depth ≤ depthTarget :=
      fun hclear => hdecided (ha hsets hclear).1
    obtain ⟨hstreak, hevent⟩ := algorithm.state.tier.observe_congested hcongested
    have hstreak' : algorithm'.state.tier.clearStreak = 0 := by
      rw [htier]
      exact hstreak
    have hevent' : (Evaluation.of algorithm.state.tier
        (s.backpressureInput group bandwidth cap)).upshift = false := hevent
    refine ⟨algorithm, hi, by omega, ?_⟩
    rw [hlog, List.countP_append, List.countP_singleton, hevent']
    simp

/-- Streaks count groups in a run none of whose steps shows the algorithm a clear group again, or
ladders shorter than its index. -/
theorem run_streaksCountGroups (running : List (Running (Watched τ))) (hfresh : Fresh running)
    (actions : List Action)
    (hcounts : Along (step (watched decideOther)) State.CountsGroups (initial running) actions) :
    StreaksCountGroups decideOther running actions := by
  have hinitial : StreaksEarned (initial running) := by
    intro algorithm hmem hid
    obtain ⟨htier, hlog⟩ := hfresh algorithm hmem hid
    rw [htier, hlog]
    exact .new
  constructor
  · intro s hrun algorithm hmem hid
    have inv : StreaksEarned s := run_invariant
      (fun _ _ _ inv ha h => inv.step ha (moves_of_step h)) actions _ _ hinitial hcounts hrun
    exact (inv algorithm hmem hid).paced
  · intro earlier a later u u' heq hrun hstep group asked hstage hdecided i algorithm' hi hid
    subst heq
    exact streak_le_of_decided (hcounts.at earlier _ hrun) (moves_of_step hstep) hstage hdecided hi
      hid

end Controller

/-- A connection that runs the backpressure algorithm alone, with its calls recorded. -/
def watchedOnly : List (Running (Watched Unit)) := [⟨backpressureAlgorithmId, .new, [], ()⟩]

/-- No other algorithm answers. -/
def noOther (_ : Nat) (_ : Unit) (_ : AbrInput) : Unit × Selection := ((), fun _ => none)

theorem watchedOnly_fresh : Fresh watchedOnly := by
  simp [Fresh, watchedOnly]

/-- One set of two tracks, whose first group is decided. -/
def firstGroupDecided : List Action :=
  [.call (.assign ⟨⟨[], [1]⟩, 1, 0, 1, backpressureAlgorithmId, 300, 1, 1, 0⟩),
    .call (.assign ⟨⟨[], [2]⟩, 2, 2, 1, backpressureAlgorithmId, 900, 1, 1, 0⟩),
    .subscribe ⟨[], [1]⟩ 1, .object 0 1, .sample 0, .locate 0, .lookUp 0, .ask 0, .take, .check,
    .snapshot 0 0, .record, .notify]

theorem run_streaksCountGroups_firstGroup :
    ((run (step (watched noOther)) (initial watchedOnly) firstGroupDecided).any fun s =>
      s.running.all fun algorithm => algorithm.state.tier.clearStreak = 1) = true ∧
    StreaksCountGroups noOther watchedOnly firstGroupDecided :=
  ⟨by decide +kernel,
    run_streaksCountGroups watchedOnly watchedOnly_fresh firstGroupDecided (by decide +kernel)⟩

/-- Four ticks of the timer, each evaluating the last group once more. -/
def fourTicks : List Action :=
  [.tick, .snapshot 0 0, .record, .tick, .snapshot 0 0, .record, .tick, .snapshot 0 0, .record,
    .tick, .snapshot 0 0, .record]

/-- One group and four ticks of the timer are enough for an upshift. -/
theorem oneGroup_upshifts :
    ¬ ∀ (running : List (Running (Watched Unit))) actions, Fresh running →
      StreaksCountGroups noOther running actions := by
  intro h
  have hrun : ((run (step (watched noOther)) (initial watchedOnly)
      (firstGroupDecided ++ fourTicks)).any fun s => s.running.map (fun algorithm =>
        (algorithm.id, algorithm.state.log)) = [(backpressureAlgorithmId,
          [⟨1, true, false, false⟩, ⟨1, true, false, false⟩, ⟨1, true, false, false⟩,
            ⟨1, true, false, false⟩, ⟨1, true, true, true⟩])]) = true := by decide +kernel
  obtain ⟨s, hs, hfacts⟩ := (Option.any_eq_true _ _).mp hrun
  have hlogs := of_decide_eq_true hfacts
  obtain ⟨algorithm, hmem, hlog⟩ := List.mem_map.mp (hlogs.symm ▸ List.mem_singleton_self _)
  obtain ⟨hid, hlog⟩ := Prod.mk.inj hlog
  have hpaced := (h watchedOnly _ watchedOnly_fresh).paced s hs algorithm hmem hid
  rw [hlog] at hpaced
  exact absurd (hpaced [⟨1, true, false, false⟩, ⟨1, true, false, false⟩, ⟨1, true, false, false⟩,
    ⟨1, true, false, false⟩] ⟨1, true, true, true⟩ [] rfl rfl).2 (by decide)

end Moqtail.Ssts
