import Moqtail.Ssts.GateProgress

/-! A group's decision is final while the group is within the window behind the largest one, and one
track carries it. The gate keeps its answers against an epoch that a decision does not move: a kept
answer is right because the decision it was read from still stands, and because membership has not
changed as long as the epoch has not. -/
namespace Moqtail.Ssts

open Lib State

variable {σ : Type} {decideWith : Nat → σ → AbrInput → σ × Selection} {s s' : State σ} {a : Action}

/-- The group is no further back than decisions are kept. -/
def State.InWindow (s : State σ) (group : Nat) : Prop := s.largestGroup ≤ group + decisionWindow

theorem largestGroup_mono (h : Moves decideWith s a s') : s.largestGroup ≤ s'.largestGroup := by
  cases h <;> simp [restart, setStage, setGate, settle, answer, finish, notifyWaiters]

/-- A decision in the window outlives the step. -/
theorem decisions_kept (h : Moves decideWith s a s') {group : Nat} {decisions : Selection}
    (hdecided : s.decisions group = some decisions) (hwindow : s'.InWindow group) :
    s'.decisions group = some decisions := by
  unfold InWindow at hwindow
  cases h
  case recorded group' asked sets decisions' stage vacant =>
    have hne : group ≠ group' := by
      rintro rfl
      simp [vacant] at hdecided
    have hkept : s.largestGroup - decisionWindow ≤ group := Nat.sub_le_iff_le_add.mpr hwindow
    simp [keptWith, hkept, hne, hdecided]
  all_goals exact hdecided

theorem run_decisions_kept {actions : List Action} :
    ∀ {s t : State σ}, run (step decideWith) s actions = some t →
      s.largestGroup ≤ t.largestGroup ∧ ∀ group decisions, s.decisions group = some decisions →
        t.InWindow group → t.decisions group = some decisions := by
  induction actions with
  | nil =>
    intro s t hrun
    cases Option.some.inj hrun
    exact ⟨le_rfl, fun _ _ h _ => h⟩
  | cons a actions ih =>
    intro s t hrun
    obtain ⟨s', hstep, hrun⟩ := run_cons_eq_some hrun
    have hmoves := moves_of_step hstep
    obtain ⟨hle, hkept⟩ := ih hrun
    refine ⟨(largestGroup_mono hmoves).trans hle, ?_⟩
    intro group decisions hdecided hwindow
    exact hkept group decisions (decisions_kept hmoves hdecided (hle.trans hwindow)) hwindow

/-! The manager, as the gate reads it. -/

namespace SwitchingSetManager

variable {m : SwitchingSetManager} {name : FullTrackName}

theorem Tracked.id_getSetForTrack (h : m.Tracked) :
    (m.getSetForTrack name).map SwitchingSet.id = m.trackToSet name := by
  unfold SwitchingSetManager.getSetForTrack
  cases ht : m.trackToSet name with
  | none => rfl
  | some setId =>
    obtain ⟨set, -, hset, -⟩ := h.find ht
    simp [hset, (h.sets _ _ hset).id_eq]

theorem Tracked.call (h : m.Tracked) (c : Call) : (m.call c).Tracked := by
  cases c with
  | assign a => exact h.assign a
  | release n requestId => exact h.release n requestId
  | remove n => exact h.remove n
  | update n u => exact h.update n u

/-- A call that leaves the epoch leaves the map from tracks. -/
theorem trackToSet_call {c : Call} (h : (m.call c).epoch = m.epoch) :
    (m.call c).trackToSet = m.trackToSet := by
  by_contra hchanged
  have := epoch_lt_of_changes c (.inl hchanged)
  omega

end SwitchingSetManager

/-! The gates' answers. -/

/-- The decision of the group selects this track for the set. -/
def State.Selects (s : State σ) (group setId relayTrackId : Nat) : Prop :=
  ∃ decisions, s.decisions group = some decisions ∧ decisions setId = some (some relayTrackId)

/-- What a gate may have kept or read at an epoch that is still the current one. -/
structure Gate.Current (gate : Gate) (s : State σ) : Prop where
  kept_le : gate.gateEpoch ≤ s.manager.epoch
  sampled_le : ∀ group notified epoch, gate.stage = .sampled group notified epoch →
    epoch ≤ s.manager.epoch
  located_le : ∀ group notified epoch setId, gate.stage = .located group notified epoch setId →
    epoch ≤ s.manager.epoch
  located : ∀ group notified epoch setId, gate.stage = .located group notified epoch setId →
    epoch = s.manager.epoch → s.manager.trackToSet gate.fullTrackName = some setId
  kept : gate.gateEpoch = s.manager.epoch → gate.gateForward = true →
    s.InWindow gate.gateGroup → ∀ setId, s.manager.trackToSet gate.fullTrackName = some setId →
      s.Selects gate.gateGroup setId gate.relayTrackId

/-- Every gate's answers are current, and what was let through was selected. -/
structure Carried (s : State σ) : Prop where
  tracked : s.manager.Tracked
  current : ∀ (i : Nat) (gate : Gate), s.gates[i]? = some gate → gate.Current s
  known : ∀ passed ∈ s.forwarded, passed.gate < s.gates.length
  passed : ∀ passed ∈ s.forwarded, s.InWindow passed.group → ∀ setId, passed.setId = some setId →
    ∀ gate, s.gates[passed.gate]? = some gate → s.Selects passed.group setId gate.relayTrackId

theorem Carried.initial (running : List (Running σ)) : Carried (initial running) := by
  constructor
  · exact SwitchingSetManager.Consistent.new.toTracked
  all_goals simp [State.initial]

/-- What the other parts of a step leave of the gates' answers: membership may change only with
the epoch, and a decision in the window stays. -/
theorem Gate.Current.of_le {gate : Gate} (h : gate.Current s)
    (hepoch : s.manager.epoch ≤ s'.manager.epoch)
    (htrack : s'.manager.epoch = s.manager.epoch → s'.manager.trackToSet = s.manager.trackToSet)
    (hlargest : s.largestGroup ≤ s'.largestGroup)
    (hkept : ∀ group decisions, s.decisions group = some decisions → s'.InWindow group →
      s'.decisions group = some decisions) : gate.Current s' := by
  constructor
  · exact h.kept_le.trans hepoch
  · intro group notified epoch hstage
    exact (h.sampled_le _ _ _ hstage).trans hepoch
  · intro group notified epoch setId hstage
    exact (h.located_le _ _ _ _ hstage).trans hepoch
  · intro group notified epoch setId hstage heq
    have hle := h.located_le _ _ _ _ hstage
    have hsame : s'.manager.epoch = s.manager.epoch := by omega
    rw [htrack hsame]
    exact h.located _ _ _ _ hstage (heq.trans hsame)
  · intro heq hforward hwindow setId hset
    have hle := h.kept_le
    have hsame : s'.manager.epoch = s.manager.epoch := by omega
    rw [htrack hsame] at hset
    obtain ⟨decisions, hdecisions, hselected⟩ :=
      h.kept (heq.trans hsame) hforward (hlargest.trans hwindow) setId hset
    exact ⟨decisions, hkept _ _ hdecisions hwindow, hselected⟩

/-- A step that leaves the gates alone. -/
theorem Carried.of_gates_eq (inv : Carried s) (hgates : s'.gates = s.gates)
    (hforwarded : s'.forwarded = s.forwarded) (htracked : s'.manager.Tracked)
    (hepoch : s.manager.epoch ≤ s'.manager.epoch)
    (htrack : s'.manager.epoch = s.manager.epoch → s'.manager.trackToSet = s.manager.trackToSet)
    (hlargest : s.largestGroup ≤ s'.largestGroup)
    (hkept : ∀ group decisions, s.decisions group = some decisions → s'.InWindow group →
      s'.decisions group = some decisions) : Carried s' := by
  refine ⟨htracked, ?_, ?_, ?_⟩
  · intro i gate hgate
    rw [hgates] at hgate
    exact (inv.current i gate hgate).of_le hepoch htrack hlargest hkept
  · rw [hgates, hforwarded]
    exact inv.known
  · intro passed hpassed hwindow setId hset gate hgate
    rw [hforwarded] at hpassed
    rw [hgates] at hgate
    obtain ⟨decisions, hdecisions, hselected⟩ :=
      inv.passed passed hpassed (hlargest.trans hwindow) setId hset gate hgate
    exact ⟨decisions, hkept _ _ hdecisions hwindow, hselected⟩

theorem Carried.restart (inv : Carried s) : Carried s.restart :=
  inv.of_gates_eq rfl rfl inv.tracked le_rfl (fun _ => rfl) le_rfl fun _ _ h _ => h

/-- A gate moves on, still naming the same track. -/
theorem Carried.setGate (inv : Carried s) {i : Nat} {gate gate' : Gate}
    (there : s.gates[i]? = some gate) (hcurrent : gate'.Current s)
    (hrelay : gate'.relayTrackId = gate.relayTrackId) : Carried (s.setGate i gate') := by
  refine ⟨inv.tracked, ?_, ?_, ?_⟩
  · intro j gate'' hgate
    simp only [State.setGate, List.getElem?_set] at hgate
    split at hgate
    · split at hgate
      · cases hgate
        exact ⟨hcurrent.kept_le, hcurrent.sampled_le, hcurrent.located_le, hcurrent.located,
          hcurrent.kept⟩
      · cases hgate
    · have := inv.current j gate'' hgate
      exact ⟨this.kept_le, this.sampled_le, this.located_le, this.located, this.kept⟩
  · simpa [State.setGate] using inv.known
  · intro passed hpassed hwindow setId hset gate'' hgate
    simp only [State.setGate, List.getElem?_set] at hgate
    split at hgate
    next heq =>
      subst heq
      split at hgate
      · cases hgate
        rw [hrelay]
        exact inv.passed passed hpassed hwindow setId hset gate there
      · cases hgate
    next => exact inv.passed passed hpassed hwindow setId hset gate'' hgate

/-- A gate lets an Object through, which a decision has selected. -/
theorem Carried.answer (inv : Carried s) {i group : Nat} {forward : Bool} {gate : Gate}
    {set : Option Nat} (there : s.gates[i]? = some gate)
    (hselects : forward = true → s.InWindow group → ∀ setId, set = some setId →
      s.Selects group setId gate.relayTrackId) : Carried (s.answer i group forward set) := by
  have hlength : i < s.gates.length := (List.getElem?_eq_some_iff.mp there).1
  unfold State.answer
  split
  next hforward =>
    refine ⟨inv.tracked, ?_, ?_, ?_⟩
    · intro j gate' hgate
      have := inv.current j gate' hgate
      exact ⟨this.kept_le, this.sampled_le, this.located_le, this.located, this.kept⟩
    · intro passed hpassed
      rw [List.mem_append, List.mem_singleton] at hpassed
      obtain hpassed | rfl := hpassed
      · exact inv.known passed hpassed
      · exact hlength
    · intro passed hpassed hwindow setId hset gate' hgate
      rw [List.mem_append, List.mem_singleton] at hpassed
      obtain hpassed | rfl := hpassed
      · exact inv.passed passed hpassed hwindow setId hset gate' hgate
      · obtain rfl : gate = gate' := Option.some.inj (there.symm.trans hgate)
        exact hselects hforward hwindow setId hset
  next => exact inv.of_gates_eq rfl rfl inv.tracked le_rfl (fun _ => rfl) le_rfl fun _ _ h _ => h

theorem notify_sampled {stage : GateStage} {group epoch : Nat} {notified : Bool}
    (h : stage.notify = .sampled group notified epoch) :
    ∃ before, stage = .sampled group before epoch := by
  cases stage <;> simp_all [GateStage.notify]

theorem notify_located {stage : GateStage} {group epoch setId : Nat} {notified : Bool}
    (h : stage.notify = .located group notified epoch setId) :
    ∃ before, stage = .located group before epoch setId := by
  cases stage <;> simp_all [GateStage.notify]

theorem Carried.notifyWaiters (inv : Carried s) : Carried s.notifyWaiters := by
  refine ⟨inv.tracked, ?_, ?_, ?_⟩
  · intro i gate hgate
    simp only [State.notifyWaiters, List.getElem?_map, Option.map_eq_some_iff] at hgate
    obtain ⟨gate, hgate, rfl⟩ := hgate
    have h := inv.current i gate hgate
    refine ⟨h.kept_le, ?_, ?_, ?_, h.kept⟩
    · intro group notified epoch hstage
      obtain ⟨before, hstage⟩ := notify_sampled hstage
      exact h.sampled_le _ _ _ hstage
    · intro group notified epoch setId hstage
      obtain ⟨before, hstage⟩ := notify_located hstage
      exact h.located_le _ _ _ _ hstage
    · intro group notified epoch setId hstage
      obtain ⟨before, hstage⟩ := notify_located hstage
      exact h.located _ _ _ _ hstage
  · simpa [State.notifyWaiters] using inv.known
  · intro passed hpassed hwindow setId hset gate hgate
    simp only [State.notifyWaiters, List.getElem?_map, Option.map_eq_some_iff] at hgate
    obtain ⟨gate, hgate, rfl⟩ := hgate
    exact inv.passed passed hpassed hwindow setId hset gate hgate

/-- A gate that goes back to `idle`, or on to a stage that holds nothing it has read. -/
theorem Gate.Current.setStage {gate : Gate} (h : gate.Current s) {stage : GateStage}
    (hsampled : ∀ group notified epoch, stage ≠ .sampled group notified epoch)
    (hlocated : ∀ group notified epoch setId, stage ≠ .located group notified epoch setId) :
    { gate with stage := stage }.Current s :=
  ⟨h.kept_le, fun group notified epoch heq => absurd heq (hsampled group notified epoch),
    fun group notified epoch setId heq => absurd heq (hlocated group notified epoch setId),
    fun group notified epoch setId heq => absurd heq (hlocated group notified epoch setId), h.kept⟩

/-- A gate that keeps an answer read at `epoch`. -/
theorem Gate.current_settled {gate : Gate} {group epoch : Nat} {forward : Bool}
    (hle : epoch ≤ s.manager.epoch)
    (hkept : epoch = s.manager.epoch → forward = true → s.InWindow group → ∀ setId,
      s.manager.trackToSet gate.fullTrackName = some setId →
        s.Selects group setId gate.relayTrackId) :
    { gate with
      gateEpoch := epoch, gateGroup := group, gateForward := forward, stage := .idle }.Current s := by
  refine ⟨hle, ?_, ?_, ?_, hkept⟩
  all_goals intros; contradiction

theorem Carried.settle (inv : Carried s) {i group epoch : Nat} {forward : Bool} {gate : Gate}
    {set : Option Nat} (there : s.gates[i]? = some gate) (hle : epoch ≤ s.manager.epoch)
    (hkept : epoch = s.manager.epoch → forward = true → s.InWindow group → ∀ setId,
      s.manager.trackToSet gate.fullTrackName = some setId →
        s.Selects group setId gate.relayTrackId)
    (hselects : forward = true → s.InWindow group → ∀ setId, set = some setId →
      s.Selects group setId gate.relayTrackId) :
    Carried (s.settle i gate group epoch forward set) := by
  have hlength : i < s.gates.length := (List.getElem?_eq_some_iff.mp there).1
  exact (inv.setGate there (Gate.current_settled hle hkept) rfl).answer
    (List.getElem?_set_self hlength) hselects

theorem Carried.step (inv : Carried s) (h : Moves decideWith s a s') : Carried s' := by
  have hlargest := largestGroup_mono h
  have hdecisions : ∀ group decisions, s.decisions group = some decisions →
      s'.InWindow group → s'.decisions group = some decisions := fun _ _ => decisions_kept h
  have hidle : ∀ {i : Nat} {gate : Gate} {stage : GateStage}, s.gates[i]? = some gate →
      (∀ group notified epoch, stage ≠ .sampled group notified epoch) →
      (∀ group notified epoch setId, stage ≠ .located group notified epoch setId) →
      Carried (s.restart.setStage i gate stage) := by
    intro i gate stage there hsampled hlocated
    exact inv.restart.setGate there
      ((inv.restart.current i gate there).setStage hsampled hlocated) rfl
  cases h
  case call c =>
    exact inv.of_gates_eq rfl rfl (inv.tracked.call c)
      (SwitchingSetManager.epoch_le_call s.manager c) SwitchingSetManager.trackToSet_call hlargest
      hdecisions
  case streamOpened relayTrackId =>
    obtain ⟨hsets, htrack, -, hepoch⟩ := s.manager.noteStreamOpened_spec relayTrackId
    exact inv.of_gates_eq rfl rfl (inv.tracked.of_eq hsets htrack) hepoch.ge (fun _ => htrack)
      hlargest hdecisions
  case streamClosed relayTrackId =>
    obtain ⟨hsets, htrack, -, hepoch⟩ := s.manager.noteStreamClosed_spec relayTrackId
    exact inv.of_gates_eq rfl rfl (inv.tracked.of_eq hsets htrack) hepoch.ge (fun _ => htrack)
      hlargest hdecisions
  case subscribed fullTrackName relayTrackId =>
    refine ⟨inv.tracked, ?_, ?_, ?_⟩
    · intro i gate hgate
      simp only [List.getElem?_append] at hgate
      split at hgate
      · have := inv.current i gate hgate
        exact ⟨this.kept_le, this.sampled_le, this.located_le, this.located, this.kept⟩
      · obtain rfl := List.mem_singleton.mp (List.mem_of_getElem? hgate)
        refine ⟨Nat.zero_le _, ?_, ?_, ?_, ?_⟩
        all_goals intros; contradiction
    · intro passed hpassed
      have := inv.known passed hpassed
      simp
      omega
    · intro passed hpassed hwindow setId hset gate hgate
      simp only [List.getElem?_append_left (inv.known passed hpassed)] at hgate
      exact inv.passed passed hpassed hwindow setId hset gate hgate
  case cached i group gate there stage hitGroup hitEpoch =>
    apply inv.restart.answer there
    intro hforward hwindow setId hset
    subst hitGroup
    exact (inv.current i gate there).kept hitEpoch hforward hwindow setId hset
  case sampled i group notified gate there stage =>
    have hcurrent := inv.current i gate there
    refine inv.restart.setGate there ⟨hcurrent.kept_le, ?_, ?_, ?_, hcurrent.kept⟩ rfl
    · intro _ _ _ heq
      cases heq
      exact le_rfl
    all_goals intros; contradiction
  case unassigned i group epoch notified gate there stage set =>
    have hnone : s.manager.trackToSet gate.fullTrackName = none := by
      rw [← inv.tracked.id_getSetForTrack, set]
      rfl
    apply inv.restart.settle there ((inv.current i gate there).sampled_le _ _ _ stage)
    · intro _ _ _ setId hset
      exact absurd (hnone.symm.trans hset) (by simp)
    · intro _ _ setId hset
      cases hset
  case located i group epoch notified gate set there stage found =>
    have hcurrent := inv.current i gate there
    have hset : s.manager.trackToSet gate.fullTrackName = some set.id := by
      rw [← inv.tracked.id_getSetForTrack, found]
      rfl
    refine inv.restart.setGate there ⟨hcurrent.kept_le, ?_, ?_, ?_, hcurrent.kept⟩ rfl
    · intros
      contradiction
    · intro _ _ _ _ heq
      cases heq
      exact hcurrent.sampled_le _ _ _ stage
    · intro _ _ _ _ heq _
      cases heq
      exact hset
  case decided i group epoch setId notified gate sets chosen there stage decision answer =>
    have hcurrent := inv.current i gate there
    have hselects : decide (chosen = some gate.relayTrackId) = true →
        s.Selects group setId gate.relayTrackId := by
      intro hforward
      exact ⟨sets, decision, by rw [answer, of_decide_eq_true hforward]⟩
    apply inv.restart.settle there (hcurrent.located_le _ _ _ _ stage)
    · intro hepoch hforward _ setId' hset
      obtain rfl : setId = setId' :=
        Option.some.inj ((hcurrent.located _ _ _ _ stage hepoch).symm.trans hset)
      exact hselects hforward
    · intro hforward _ setId' hset
      cases hset
      exact hselects hforward
  case missed there stage => exact hidle there (by simp) (by simp)
  case undecided there stage none => exact hidle there (by simp) (by simp)
  case woken there stage => exact hidle there (by simp) (by simp)
  case gaveUp there => exact hidle there (by simp) (by simp)
  case asked i group setId notified gate there stage =>
    exact (hidle there (by simp) (by simp)).of_gates_eq rfl rfl inv.tracked le_rfl (fun _ => rfl)
      le_rfl fun _ _ h _ => h
  case notified =>
    exact inv.restart.notifyWaiters.of_gates_eq rfl rfl inv.tracked le_rfl (fun _ => rfl) le_rfl
      fun _ _ h _ => h
  all_goals
    exact inv.of_gates_eq rfl rfl inv.tracked le_rfl (fun _ => rfl) hlargest hdecisions

/-! A set whose membership does not change. -/

/-- The track belongs to the set, and to no other, in the states `s` is compared with. -/
def State.SameMembers (s : State σ) (setId : Nat) (u : State σ) : Prop :=
  ∀ name, u.manager.trackToSet name = some setId ↔ s.manager.trackToSet name = some setId

/-- Only a call to the manager moves a track from set to set. -/
theorem trackToSet_kept (h : Moves decideWith s a s') (hcall : ∀ c, a ≠ .call c) :
    s'.manager.trackToSet = s.manager.trackToSet := by
  cases h
  case call c => exact absurd rfl (hcall c)
  case streamOpened relayTrackId => exact (s.manager.noteStreamOpened_spec relayTrackId).2.1
  case streamClosed relayTrackId => exact (s.manager.noteStreamClosed_spec relayTrackId).2.1
  all_goals rfl

theorem along_sameMembers {setId : Nat} (actions : List Action)
    (hcalls : ∀ a ∈ actions, ∀ c, a ≠ .call c) :
    ∀ u : State σ, u.manager.trackToSet = s.manager.trackToSet →
      Along (step decideWith) (fun u _ => s.SameMembers setId u) u actions := by
  induction actions with
  | nil => intro u _; trivial
  | cons a actions ih =>
    intro u hsame
    rw [List.forall_mem_cons] at hcalls
    refine ⟨fun name => by rw [hsame], fun u' hstep => ih hcalls.2 u' ?_⟩
    exact (trackToSet_kept (moves_of_step hstep) hcalls.1).trans hsame

/-- From `s` on, the gates of the set's tracks look their Objects up in that set. -/
structure Gated (s : State σ) (setId : Nat) (u : State σ) : Prop extends Carried u where
  located : ∀ (i : Nat) (gate : Gate), u.gates[i]? = some gate →
    s.manager.trackToSet gate.fullTrackName = some setId →
      ∀ group notified epoch setId', gate.stage = .located group notified epoch setId' →
        setId' = setId
  before : s.forwarded.length ≤ u.forwarded.length
  passed_in : ∀ passed ∈ u.forwarded.drop s.forwarded.length, ∀ gate,
    u.gates[passed.gate]? = some gate → s.manager.trackToSet gate.fullTrackName = some setId →
      passed.setId = some setId

variable {u u' : State σ} {setId : Nat}

theorem Gated.located_of_moves (inv : Gated s setId u) (hsame : s.SameMembers setId u)
    (h : Moves decideWith u a u') (i : Nat) (gate : Gate) (hgate : u'.gates[i]? = some gate)
    (hname : s.manager.trackToSet gate.fullTrackName = some setId) (group : Nat) (notified : Bool)
    (epoch setId' : Nat) (hstage : gate.stage = .located group notified epoch setId') :
    setId' = setId := by
  have hold := inv.located
  cases h
  case located j group' epoch' notified' gate' set there stage found =>
    have hset : u.manager.trackToSet gate'.fullTrackName = some set.id := by
      rw [← inv.tracked.id_getSetForTrack, found]
      rfl
    have hsame' := hsame gate'.fullTrackName
    simp only [restart, setStage, setGate, List.getElem?_set] at hgate
    grind
  case notified =>
    simp only [restart, finish, notifyWaiters, List.getElem?_map, Option.map_eq_some_iff] at hgate
    obtain ⟨gate, hgate, rfl⟩ := hgate
    obtain ⟨before, hstage⟩ := notify_located hstage
    exact hold i gate hgate hname _ _ _ _ hstage
  case subscribed fullTrackName relayTrackId =>
    simp only [List.getElem?_append] at hgate
    split at hgate
    · exact hold i gate hgate hname _ _ _ _ hstage
    · obtain rfl := List.mem_singleton.mp (List.mem_of_getElem? hgate)
      cases hstage
  all_goals
    simp only [restart, setStage, setGate, settle, answer, finish, List.getElem?_set] at hgate
    grind

/-- One more Object let through by a gate, for the set its track is in. -/
theorem Gated.passed_of_answer (inv : Gated s setId u) {i group : Nat} {forward : Bool}
    {set : Option Nat} {gates : List Gate} {gate : Gate} (there : gates[i]? = some gate)
    (hgates : ∀ (j : Nat) (gate' : Gate), gates[j]? = some gate' →
      ∃ gate : Gate, u.gates[j]? = some gate ∧ gate.fullTrackName = gate'.fullTrackName)
    (hset : s.manager.trackToSet gate.fullTrackName = some setId → set = some setId)
    (passed : Passed) (hpassed : passed ∈ (if forward then u.forwarded ++ [⟨group, i, set⟩]
      else u.forwarded).drop s.forwarded.length) (gate' : Gate)
    (hgate : gates[passed.gate]? = some gate')
    (hname : s.manager.trackToSet gate'.fullTrackName = some setId) :
    passed.setId = some setId := by
  have hold : passed ∈ u.forwarded.drop s.forwarded.length → passed.setId = some setId := by
    intro hpassed
    obtain ⟨gate₀, hgate₀, hname₀⟩ := hgates _ _ hgate
    exact inv.passed_in passed hpassed gate₀ hgate₀ (hname₀ ▸ hname)
  cases forward with
  | false => exact hold hpassed
  | true =>
    rw [if_pos rfl, List.drop_append_of_le_length inv.before, List.mem_append,
      List.mem_singleton] at hpassed
    obtain hpassed | rfl := hpassed
    · exact hold hpassed
    · obtain rfl : gate = gate' := Option.some.inj (there.symm.trans hgate)
      exact hset hname

theorem names_of_set {gates : List Gate} {i : Nat} {gate gate' : Gate}
    (there : gates[i]? = some gate) (hname : gate'.fullTrackName = gate.fullTrackName) (j : Nat)
    (gate'' : Gate) (h : (gates.set i gate')[j]? = some gate'') :
    ∃ gate₀ : Gate, gates[j]? = some gate₀ ∧ gate₀.fullTrackName = gate''.fullTrackName := by
  rw [List.getElem?_set] at h
  split at h
  next heq =>
    subst heq
    split at h
    · cases h
      exact ⟨gate, there, hname.symm⟩
    · cases h
  next => exact ⟨gate'', h, rfl⟩

theorem Gated.passed_of_settle (inv : Gated s setId u) {i group epoch : Nat} {forward : Bool}
    {set : Option Nat} {gate : Gate} (there : u.gates[i]? = some gate)
    (hset : s.manager.trackToSet gate.fullTrackName = some setId → set = some setId)
    (passed : Passed) (hpassed : passed ∈
      (u.restart.settle i gate group epoch forward set).forwarded.drop s.forwarded.length)
    (gate' : Gate)
    (hgate : (u.restart.settle i gate group epoch forward set).gates[passed.gate]? = some gate')
    (hname : s.manager.trackToSet gate'.fullTrackName = some setId) :
    passed.setId = some setId := by
  have hlength : i < u.gates.length := (List.getElem?_eq_some_iff.mp there).1
  have hself : (u.restart.settle i gate group epoch forward set).gates[i]? = some
      { gate with
        gateEpoch := epoch, gateGroup := group, gateForward := forward, stage := .idle } :=
    List.getElem?_set_self hlength
  refine inv.passed_of_answer hself ?_ hset passed hpassed gate' hgate hname
  intro j gate'' h
  exact names_of_set there (by rfl) j gate'' h

theorem Gated.step (inv : Gated s setId u) (hsame : s.SameMembers setId u)
    (h : Moves decideWith u a u') : Gated s setId u' := by
  have hcarried := inv.toCarried.step h
  have hlocated := inv.located_of_moves hsame h
  have hknown : ∀ passed ∈ u.forwarded.drop s.forwarded.length, passed.gate < u.gates.length :=
    fun passed hpassed => inv.known passed (List.mem_of_mem_drop hpassed)
  have hpassed := inv.passed_in
  have hbefore := inv.before
  refine ⟨hcarried, hlocated, ?_, ?_⟩
  · cases h
    all_goals
      simp only [restart, setStage, setGate, settle, answer, finish, notifyWaiters]
      try split
      all_goals first | exact hbefore | (simp only [List.length_append]; omega)
  · cases h
    case cached i group gate there stage hitGroup hitEpoch =>
      apply inv.passed_of_answer there fun j gate' h => ⟨gate', h, rfl⟩
      exact fun hname => (hsame _).mpr hname
    case unassigned i group epoch notified gate there stage set =>
      apply inv.passed_of_settle there
      intro hname
      have hnone : u.manager.trackToSet gate.fullTrackName = none := by
        rw [← inv.tracked.id_getSetForTrack, set]
        rfl
      exact absurd (hnone.symm.trans ((hsame _).mpr hname)) (by simp)
    case decided i group epoch setId' notified gate sets chosen there stage decision answer =>
      apply inv.passed_of_settle there
      exact fun hname => congrArg some (inv.located i gate there hname _ _ _ _ stage)
    all_goals
      simp only [restart, setStage, setGate, finish, notifyWaiters, List.getElem?_set,
        List.getElem?_map, List.getElem?_append]
      grind

/-- No gate of the set's tracks is about to answer from what it read of another set. -/
def State.SettledOn (s : State σ) (setId : Nat) : Prop :=
  ∀ gate ∈ s.gates, s.manager.trackToSet gate.fullTrackName = some setId →
    ∀ group notified epoch setId', gate.stage = .located group notified epoch setId' →
      setId' = setId

/-- Between `s` and `t` the gate, which is one of the set's, let an Object of the group through. -/
def State.LetThrough (s : State σ) (setId : Nat) (t : State σ) (group : Nat) (gate : Gate) : Prop :=
  s.manager.trackToSet gate.fullTrackName = some setId ∧
    ∃ passed ∈ t.forwarded.drop s.forwarded.length,
      passed.group = group ∧ t.gates[passed.gate]? = some gate

theorem Gated.start (inv : Carried s) (hsettled : s.SettledOn setId) : Gated s setId s := by
  refine ⟨inv, ?_, le_rfl, ?_⟩
  · intro i gate hgate
    exact hsettled gate (List.mem_of_getElem? hgate)
  · simp

/-- What the set's gates let through of a group in the window is what its decision selects. -/
theorem Gated.selects (inv : Gated s setId u) {group : Nat} {gate : Gate}
    (hwindow : u.InWindow group) (h : s.LetThrough setId u group gate) :
    u.Selects group setId gate.relayTrackId := by
  obtain ⟨hname, passed, hpassed, rfl, hgate⟩ := h
  exact inv.passed passed (List.mem_of_mem_drop hpassed) hwindow setId
    (inv.passed_in passed hpassed gate hgate hname) gate hgate

/-- A decision stays as long as its group is in the window; it answers every set it was computed
from, with a member of that set where it selects one; and all that the gates of a set let through of
such a group, while the set's membership does not change, belongs to the one track selected. -/
theorem run_singleCarrier (running : List (Running σ)) (actions later : List Action)
    (s t : State σ) (hrun : run (step decideWith) (initial running) actions = some s)
    (hlater : run (step decideWith) s later = some t) :
    (∀ group decisions, s.decisions group = some decisions → t.InWindow group →
      t.decisions group = some decisions) ∧
    (∀ group decisions, t.decisions group = some decisions →
      Answers (t.snapshots group) decisions) ∧
    ∀ setId, Along (step decideWith) (fun u _ => s.SameMembers setId u) s later →
      s.SettledOn setId → ∀ group, t.InWindow group →
        (∀ gate, s.LetThrough setId t group gate → t.Selects group setId gate.relayTrackId) ∧
        ∀ gate gate', s.LetThrough setId t group gate → s.LetThrough setId t group gate' →
          gate.relayTrackId = gate'.relayTrackId ∧
          ((∀ x ∈ t.gates, ∀ y ∈ t.gates, x.relayTrackId = y.relayTrackId →
            x.fullTrackName = y.fullTrackName) → gate.fullTrackName = gate'.fullTrackName) := by
  have hcarried : Carried s := run_invariant (P := fun _ _ => True)
    (fun _ _ _ inv _ h => inv.step (moves_of_step h)) actions _ _ (.initial running)
    (Along.of_forall actions _ fun _ _ => trivial) hrun
  have hdecided : Decided t := by
    have hstep := fun u a u' (inv : Decided u) (_ : True)
      (h : step decideWith u a = some u') => inv.step (moves_of_step h)
    have hs := run_invariant (P := fun _ _ => True) hstep actions _ _ (.initial running)
      (Along.of_forall actions _ fun _ _ => trivial) hrun
    exact run_invariant hstep later _ _ hs (Along.of_forall later _ fun _ _ => trivial) hlater
  refine ⟨(run_decisions_kept hlater).2, hdecided.answered, ?_⟩
  intro setId hsame hsettled group hwindow
  have hgated : Gated s setId t := run_invariant
    (fun _ _ _ inv ha h => inv.step ha (moves_of_step h)) later _ _ (.start hcarried hsettled) hsame
    hlater
  refine ⟨fun gate => hgated.selects hwindow, ?_⟩
  intro gate gate' h h'
  obtain ⟨decisions, hdecisions, hselected⟩ := hgated.selects hwindow h
  obtain ⟨decisions', hdecisions', hselected'⟩ := hgated.selects hwindow h'
  have hrelay : gate.relayTrackId = gate'.relayTrackId := by
    obtain rfl : decisions = decisions' := Option.some.inj (hdecisions.symm.trans hdecisions')
    simpa using hselected.symm.trans hselected'
  refine ⟨hrelay, ?_⟩
  intro hdistinct
  obtain ⟨-, passed, -, -, hgate⟩ := h
  obtain ⟨-, passed', -, -, hgate'⟩ := h'
  exact hdistinct gate (List.mem_of_getElem? hgate) gate' (List.mem_of_getElem? hgate') hrelay

/-- A set of two tracks, at different throughputs. The subscription to the first asks for group 7, and
is let through. -/
def twoTracksAsk : List Action :=
  [.call (.assign ⟨⟨[], [1]⟩, 1, 0, 1, backpressureAlgorithmId, 300, 1, 1, 0⟩),
    .call (.assign ⟨⟨[], [2]⟩, 2, 2, 1, backpressureAlgorithmId, 600, 1, 1, 0⟩),
    .subscribe ⟨[], [1]⟩ 1, .subscribe ⟨[], [2]⟩ 2,
    .object 0 7, .sample 0, .locate 0, .lookUp 0, .ask 0, .take, .check, .snapshot 0 0, .record,
    .notify, .wake 0, .sample 0, .locate 0, .lookUp 0]

/-- Both subscriptions have an Object of the group, twice. -/
def bothHaveObjects : List Action :=
  [.object 0 7, .object 1 7, .sample 1, .locate 1, .lookUp 1, .object 0 7, .object 1 7]

/-- The gate that was let through once lets the later Objects of the group through from its cache,
and that of the other track lets none through: the tracks are still the only ones the decision
selects. -/
theorem run_singleCarrier_twoTracks :
    ∃ s t : State TierState, run (step backpressure) (initial backpressureOnly) twoTracksAsk = some s ∧
      run (step backpressure) s bothHaveObjects = some t ∧
      t.gates.map Gate.relayTrackId = [1, 2] ∧
      t.forwarded.drop s.forwarded.length = [⟨7, 0, some 1⟩, ⟨7, 0, some 1⟩] ∧
      (∀ gate, s.LetThrough 1 t 7 gate → t.Selects 7 1 gate.relayTrackId) ∧
      ∀ gate gate', s.LetThrough 1 t 7 gate → s.LetThrough 1 t 7 gate' →
        gate.relayTrackId = gate'.relayTrackId := by
  have hrun : ((run (step backpressure) (initial backpressureOnly) twoTracksAsk).any fun s =>
      (∀ gate ∈ s.gates, gate.stage = .idle) ∧ (run (step backpressure) s bothHaveObjects).any
        fun t => t.gates.map Gate.relayTrackId = [1, 2] ∧
          t.forwarded.drop s.forwarded.length = [⟨7, 0, some 1⟩, ⟨7, 0, some 1⟩] ∧
          t.largestGroup ≤ 7 + decisionWindow) = true := by
    decide +kernel
  obtain ⟨s, hs, hfacts⟩ := (Option.any_eq_true _ _).mp hrun
  obtain ⟨hidle, hthen⟩ := of_decide_eq_true hfacts
  obtain ⟨t, ht, hfacts⟩ := (Option.any_eq_true _ _).mp hthen
  obtain ⟨hgates, hpassed, hwindow⟩ := of_decide_eq_true hfacts
  have hsettled : s.SettledOn 1 := by
    intro gate hgate _ group notified epoch setId' hstage
    rw [hidle gate hgate] at hstage
    cases hstage
  have hsame : Along (step backpressure) (fun u _ => s.SameMembers 1 u) s bothHaveObjects :=
    along_sameMembers bothHaveObjects (by simp [bothHaveObjects]) s rfl
  obtain ⟨hselects, hcarrier⟩ := (run_singleCarrier backpressureOnly twoTracksAsk bothHaveObjects
    s t hs ht).2.2 1 hsame hsettled 7 hwindow
  exact ⟨s, t, hs, ht, hgates, hpassed, hselects, fun gate gate' h h' => (hcarrier gate gate' h h').1⟩

end Moqtail.Ssts
