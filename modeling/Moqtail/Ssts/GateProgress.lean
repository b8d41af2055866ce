import Moqtail.Ssts.Backpressure
import Moqtail.Ssts.ControllerSteps

/-! Whether the forward gate is answered. A decision is looked up by group alone, while a gate waits
for its own set in that group: a set made after the group was decided has no entry, and a set that
is gone by the time the controller looks leaves its waiters without a notification. Where neither
happens, no gate waits for an answer that exists. -/
namespace Moqtail.Ssts

open Lib State

variable {σ : Type} {decideWith : Nat → σ → AbrInput → σ × Selection} {s s' : State σ} {a : Action}

/-! What a decision says about the sets it was made from. -/

/-- Every set has an answer, and a track selected for a set is one of its members. -/
def Answers (sets : List SetSnapshot) (decisions : Selection) : Prop :=
  (∀ set ∈ sets, decisions set.id ≠ none) ∧
    ∀ setId track, decisions setId = some (some track) →
      ∃ set ∈ sets, set.id = setId ∧ set.hasTrack track = true

theorem hasTrack_of_validated {selection : Selection} {set : SetSnapshot} {track : Nat}
    (h : validated selection set = some track) : set.hasTrack track = true := by
  unfold validated at h
  split at h
  next =>
    split at h
    next htrack => cases h; exact htrack
    next => cases h
  next => cases h
  next => cases h

theorem validate_answers (selection : Selection) (sets : List SetSnapshot) :
    Answers sets (validate selection sets) := by
  unfold validate
  induction sets using List.reverseRecOn with
  | nil => exact ⟨by simp, by simp⟩
  | append_singleton sets set ih =>
    simp only [List.foldl_append, List.foldl_cons, List.foldl_nil]
    constructor
    · intro set' hset'
      rw [Function.update_apply]
      split
      · simp
      next hne =>
        rw [List.mem_append, List.mem_singleton] at hset'
        obtain hset' | rfl := hset'
        · exact ih.1 set' hset'
        · exact absurd rfl hne
    · intro setId track h
      rw [Function.update_apply] at h
      split at h
      next heq =>
        exact ⟨set, by simp, heq.symm, hasTrack_of_validated (Option.some.inj h)⟩
      next =>
        obtain ⟨set', hset', hid, htrack⟩ := ih.2 setId track h
        exact ⟨set', by simp [hset'], hid, htrack⟩

/-- No algorithm can select a track for a set that does not have it. -/
theorem runAlgorithms_selects {input : AbrInput} {running : List (Running σ)} {setId track : Nat} :
    ∀ {decisions : Selection},
      (runAlgorithms decideWith input running decisions).2 setId = some (some track) →
        decisions setId = some (some track) ∨
          ∃ set ∈ input.sets, set.id = setId ∧ set.hasTrack track = true := by
  induction running with
  | nil => exact fun h => .inl h
  | cons algorithm running ih =>
    intro decisions h
    simp only [runAlgorithms] at h
    split at h
    · exact ih h
    · obtain h | h := ih h
      · rw [Option.or_eq_some_iff] at h
        obtain h | ⟨-, h⟩ := h
        · obtain ⟨set, hset, hid, htrack⟩ := (validate_answers _ _).2 setId track h
          exact .inr ⟨set, List.mem_of_mem_filter hset, hid, htrack⟩
        · exact .inl h
      · exact .inr h

theorem foldl_update_none (sets : List SetSnapshot) (decisions : Selection) (setId : Nat) :
    sets.foldl (fun (decisions : Selection) set => Function.update decisions set.id (some none))
        decisions setId =
      if ∃ set ∈ sets, set.id = setId then some none else decisions setId := by
  induction sets using List.reverseRecOn with
  | nil => simp
  | append_singleton sets set ih =>
    have hlast : (∃ set' ∈ sets ++ [set], set'.id = setId) ↔
        setId = set.id ∨ ∃ set' ∈ sets, set'.id = setId := by
      simp only [List.mem_append, List.mem_singleton]
      grind
    simp only [List.foldl_append, List.foldl_cons, List.foldl_nil, Function.update_apply, ih, hlast]
    by_cases h : setId = set.id <;> simp [h]

theorem fillUnowned_eq (sets : List SetSnapshot) (decisions : Selection) (setId : Nat) :
    fillUnowned sets decisions setId =
      (decisions setId).or (if ∃ set ∈ sets, set.id = setId then some none else none) := by
  have hunowned : (∃ set ∈ sets.filter fun set => (decisions set.id).isNone, set.id = setId) ↔
      decisions setId = none ∧ ∃ set ∈ sets, set.id = setId := by
    simp only [List.mem_filter, Option.isNone_iff_eq_none]
    grind
  simp only [fillUnowned, foldl_update_none, hunowned]
  cases decisions setId <;> simp

theorem evaluate_answers (input : AbrInput) (running : List (Running σ)) :
    Answers input.sets (evaluate decideWith input running).2 := by
  constructor
  · intro set hset
    have : ∃ set' ∈ input.sets, set'.id = set.id := ⟨set, hset, rfl⟩
    simp [evaluate, fillUnowned_eq, this]
  · intro setId track h
    simp only [evaluate, fillUnowned_eq, Option.or_eq_some_iff] at h
    obtain h | ⟨-, h⟩ := h
    · obtain h | h := runAlgorithms_selects h
      · cases h
      · exact h
    · split at h <;> cases h

/-! The decisions kept. -/

/-- What holds of the decisions, in whatever order the steps come. -/
structure Decided (s : State σ) : Prop where
  deciding : ∀ group, s.stage = .deciding group true → s.decisions group = none
  recording : ∀ group asked sets decisions, s.stage = .recording group asked sets decisions →
    Answers sets decisions ∧ (asked = true → s.decisions group = none)
  notifying : ∀ group, s.stage = .notifying group true → s.decisions group ≠ none
  answered : ∀ group decisions, s.decisions group = some decisions →
    Answers (s.snapshots group) decisions

theorem Decided.initial (running : List (Running σ)) : Decided (initial running) := by
  constructor <;> simp [State.initial]

theorem Decided.step (inv : Decided s) (h : Moves decideWith s a s') : Decided s' := by
  cases h
  case recorded group asked sets decisions stage vacant =>
    have hanswers := (inv.recording _ _ _ _ stage).1
    have hold := inv.answered
    constructor <;> simp only [keptWith] <;> grind [Function.update_apply]
  case evaluated group bandwidth cap asked stage sets =>
    have hdeciding := inv.deciding
    have hanswers : Answers s.decisionSnapshot
        (evaluate decideWith (s.abrInput group bandwidth cap) s.running).2 :=
      evaluate_answers (s.abrInput group bandwidth cap) s.running
    constructor <;> simp only [restart] <;> grind [inv.answered]
  case takenTimeout | ticked =>
    have hanswered := inv.answered
    cases hlast : s.lastGroup <;> constructor <;> simp only [restart, Option.elim] <;> grind
  all_goals
    have hdeciding := inv.deciding
    have hrecording := inv.recording
    have hnotifying := inv.notifying
    have hanswered := inv.answered
    constructor <;>
      simp only [restart, setStage, setGate, settle, answer, finish, notifyWaiters] <;> grind

/-! The gates. -/

def State.Answered (s : State σ) (group setId : Nat) : Prop :=
  ∃ decisions, s.decisions group = some decisions ∧ decisions setId ≠ none

/-- The controller has a message for the group in hand, or is about to notify. -/
def ControllerStage.attends (stage : ControllerStage) (group : Nat) : Bool :=
  match stage with
  | .idle => false
  | .checking g => g = group
  | .deciding g asked => asked && g = group
  | .recording g asked _ _ => asked && g = group
  | .notifying _ _ => true

/-- The gate waits for a notification about the group. -/
def GateStage.waitsOn (stage : GateStage) (group : Nat) : Bool :=
  match stage with
  | .waiting g false _ => g = group
  | _ => false

/-- A group whose message is done with is answered for every set there is and every set the decision
was made from; and a gate whose set is answered, or gone, is not left waiting with nothing under way
for its group. -/
structure GateServed (s : State σ) : Prop where
  finished : ∀ group, s.finished = some group →
    (∀ setId ∈ s.manager.sets, s.Answered group setId) ∧
      ∀ decisions, s.decisions group = some decisions →
        ∀ set ∈ s.snapshots group, decisions set.id ≠ none
  waiting : ∀ gate ∈ s.gates, ∀ group setId, gate.stage = .waiting group false setId →
    s.Answered group setId ∨ setId ∉ s.manager.sets →
      .newGroup group ∈ s.queue ∨ s.stage.attends group = true

/-- The step is not one that leaves a gate without its answer: at the end of a NewGroup message no
set has come to be since the sets were read for the group, and the controller does not find every
set gone while a gate waits for that message. -/
def State.Serves (s : State σ) (a : Action) : Prop :=
  match a, s.stage with
  | .notify, .notifying group true =>
    ∀ setId ∈ s.manager.sets.keys, setId ∈ (s.snapshots group).map SetSnapshot.id
  | .snapshot _ _, .deciding group true =>
    s.manager.sets.keys = [] → ∀ gate ∈ s.gates, gate.stage.waitsOn group = true →
      .newGroup group ∈ s.queue
  | _, _ => True

theorem notify_ne_waiting (stage : GateStage) (group setId : Nat) :
    stage.notify ≠ .waiting group false setId := by
  cases stage <;> simp [GateStage.notify]

/-- A gate waits only while a message for its group is on its way or in hand. -/
def Attended (s : State σ) : Prop :=
  ∀ (i : Nat) (gate : Gate), s.gates[i]? = some gate → ∀ group setId, gate.stage = .waiting group false setId →
    .newGroup group ∈ s.queue ∨ s.stage.attends group = true

theorem Attended.step (inv : Attended s) (hdecided : Decided s) (ha : s.Serves a)
    (h : Moves decideWith s a s') : Attended s' := by
  have hnew : ∀ name relay, (Gate.new name relay).stage = .idle := fun _ _ => rfl
  unfold Attended at inv ⊢
  cases h
  case notified =>
    intro i gate hgate group setId hstage
    simp only [restart, notifyWaiters, finish, List.getElem?_map, Option.map_eq_some_iff] at hgate
    obtain ⟨gate, -, rfl⟩ := hgate
    exact absurd hstage (notify_ne_waiting _ _ _)
  case noSets group bandwidth cap asked stage sets =>
    have hkeys : s.manager.sets.keys = [] := by
      simpa [decisionSnapshot, AList.keys, List.keys] using sets
    intro i gate hgate group' setId hstage
    simp only [restart, finish] at hgate ⊢
    have hold := inv i gate hgate group' setId hstage
    cases asked with
    | false => simpa [stage, ControllerStage.attends] using hold
    | true =>
      simp only [Serves, stage] at ha
      simp only [stage, ControllerStage.attends, Bool.true_and, decide_eq_true_eq] at hold
      obtain hold | rfl := hold
      · exact .inl hold
      · exact .inl (ha hkeys gate (List.mem_of_getElem? hgate) (by simp [hstage, GateStage.waitsOn]))
  case kept group asked sets decisions stage occupied =>
    have hasked : asked ≠ true := fun h => occupied ((hdecided.recording _ _ _ _ stage).2 h)
    simp only [restart, finish]
    grind [ControllerStage.attends]
  case takenTimeout | ticked =>
    cases hlast : s.lastGroup <;> simp only [restart, Option.elim] <;>
      grind [ControllerStage.attends]
  all_goals
    simp only [restart, setStage, setGate, settle, answer] at *
    grind [ControllerStage.attends]

instance (s : State σ) (a : Action) : Decidable (s.Serves a) := by
  unfold State.Serves
  split <;> infer_instance

/-- What the steps that serve their gates keep. -/
structure Serving (s : State σ) : Prop extends Decided s where
  attended : Attended s
  finished : ∀ group, s.finished = some group →
    (∀ setId ∈ s.manager.sets, s.Answered group setId)

theorem Serving.initial (running : List (Running σ)) : Serving (initial running) :=
  ⟨.initial running, by simp [Attended, State.initial], by simp [State.initial]⟩

theorem Serving.step (inv : Serving s) (ha : s.Serves a) (h : Moves decideWith s a s') :
    Serving s' := by
  refine ⟨inv.toDecided.step h, inv.attended.step inv.toDecided ha h, ?_⟩
  intro group hfinished
  cases h
  case noSets group' bandwidth cap asked stage sets =>
    have hkeys : s.manager.sets.keys = [] := by
      simpa [decisionSnapshot, AList.keys, List.keys] using sets
    intro setId hset
    simp [AList.mem_keys, restart, finish, hkeys] at hset
  case kept group' asked sets decisions stage occupied =>
    have hasked : asked ≠ true := fun h => occupied ((inv.recording _ _ _ _ stage).2 h)
    simp [restart, finish, hasked] at hfinished
  case notified group' asked stage =>
    cases asked with
    | false => simp [finish] at hfinished
    | true =>
      obtain rfl : group' = group := by simpa [finish] using hfinished
      obtain ⟨decisions, hdecisions⟩ := Option.ne_none_iff_exists'.mp (inv.notifying _ stage)
      intro setId hset
      simp only [Serves, stage] at ha
      obtain ⟨set, hmem, rfl⟩ := List.mem_map.mp (ha setId (AList.mem_keys.mp hset))
      exact ⟨decisions, hdecisions, (inv.answered _ _ hdecisions).1 set hmem⟩
  all_goals cases hfinished

/-- In a run whose steps all serve their gates, a NewGroup message that is done with leaves its
group answered for every set, and no gate waits for an answer it could read. -/
theorem run_gateServed (running : List (Running σ)) (actions : List Action) (s : State σ)
    (hserves : Along (step decideWith) State.Serves (initial running) actions)
    (hrun : run (step decideWith) (initial running) actions = some s) : GateServed s := by
  have inv : Serving s := run_invariant
    (fun _ _ _ inv ha h => inv.step ha (moves_of_step h)) actions _ _ (.initial running) hserves hrun
  refine ⟨?_, ?_⟩
  · intro group hfinished
    refine ⟨inv.finished group hfinished, ?_⟩
    intro decisions hdecisions
    exact (inv.answered group decisions hdecisions).1
  · intro gate hgate group setId hstage _
    obtain ⟨i, hi⟩ := List.getElem?_of_mem hgate
    exact inv.attended i gate hi group setId hstage

/-- A subscription to a track of the first set asks for group 7, and is let through. -/
def firstSetAsks : List Action :=
  [.call (.assign ⟨⟨[], [1]⟩, 1, 0, 1, backpressureAlgorithmId, 300, 1, 1, 0⟩),
    .subscribe ⟨[], [1]⟩ 1, .object 0 7, .sample 0, .locate 0, .lookUp 0, .ask 0, .take, .check,
    .snapshot 0 0, .record, .notify, .wake 0, .sample 0, .locate 0, .lookUp 0]

/-- A subscription to a track of the second set asks for the same group. -/
def secondSetAsks : List Action :=
  [.subscribe ⟨[], [2]⟩ 2, .object 1 7, .sample 1, .locate 1, .lookUp 1, .ask 1, .take, .check,
    .notify]

def assignSecondSet : Action :=
  .call (.assign ⟨⟨[], [2]⟩, 2, 2, 2, backpressureAlgorithmId, 300, 1, 1, 0⟩)

/-- The connection's only algorithm, at its lowest tier. -/
def backpressureOnly : List (Running TierState) := [⟨backpressureAlgorithmId, .new⟩]

theorem run_gateServed_oneSet :
    ((run (step backpressure) (initial backpressureOnly) firstSetAsks).any
      fun s => s.forwarded = [⟨7, 0, some 1⟩]) = true ∧
    ∀ s, run (step backpressure) (initial backpressureOnly) firstSetAsks = some s →
      GateServed s :=
  ⟨by decide +kernel, fun s => run_gateServed backpressureOnly firstSetAsks s (by decide +kernel)⟩

/-- A set made after the group was decided is never answered for it: the controller finds the
group's decision, notifies, and the gate finds no entry for its set. -/
theorem lateSet_not_served :
    ¬ ∀ (running : List (Running TierState)) actions s,
      run (step backpressure) (initial running) actions = some s → GateServed s := by
  intro h
  have hrun : ((run (step backpressure) (initial backpressureOnly)
      (firstSetAsks ++ assignSecondSet :: secondSetAsks)).any fun s =>
        s.finished = some 7 ∧ 2 ∈ s.manager.sets.keys ∧
          ((s.decisions 7).bind fun decisions => decisions 2) = none) = true := by decide +kernel
  obtain ⟨s, hs, hfacts⟩ := (Option.any_eq_true _ _).mp hrun
  obtain ⟨hfinished, hset, hnone⟩ := of_decide_eq_true hfacts
  obtain ⟨decisions, hdecisions, hanswer⟩ :=
    ((h _ _ s hs).finished 7 hfinished).1 2 (AList.mem_keys.mpr hset)
  rw [hdecisions] at hnone
  exact hanswer hnone

end Moqtail.Ssts
