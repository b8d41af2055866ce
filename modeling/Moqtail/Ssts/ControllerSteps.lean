import Moqtail.Ssts.Controller
import Moqtail.Lib.Run

/-! What one step of the gates and the controller can do, said once: `Moves` has one constructor for
every branch of `step`, and the invariants are proved by cases on it. -/
namespace Moqtail.Ssts

open State

variable {σ : Type} {decideWith : Nat → σ → AbrInput → σ × Selection}

/-- Every step starts by forgetting what the last one finished. -/
def State.restart (s : State σ) : State σ := { s with finished := none }

/-- What the algorithms are shown. -/
def State.abrInput (s : State σ) (group bandwidthEstimateKbps configuredCapKbps : Nat) : AbrInput where
  groupId := group
  bandwidthEstimateKbps := bandwidthEstimateKbps
  configuredCapKbps := configuredCapKbps
  sets := s.decisionSnapshot
  openStreamsPerSet := s.manager.openStreams
  streamTimeoutsSinceLastDecision := s.streamTimeouts

/-- The decisions once one more is recorded: those of the groups too far back are dropped. -/
def State.keptWith (s : State σ) (group : Nat) (decisions : Selection) : Nat → Option Selection :=
  fun g =>
    if s.largestGroup - decisionWindow ≤ g ∨ g = group then
      Function.update s.decisions group (some decisions) g
    else none

inductive Moves (decideWith : Nat → σ → AbrInput → σ × Selection) (s : State σ) :
    Action → State σ → Prop where
  | call (c : Call) : Moves decideWith s (.call c) { s.restart with manager := s.manager.call c }
  | streamOpened (relayTrackId : Nat) : Moves decideWith s (.streamOpened relayTrackId)
      { s.restart with manager := s.manager.noteStreamOpened relayTrackId }
  | streamClosed (relayTrackId : Nat) : Moves decideWith s (.streamClosed relayTrackId)
      { s.restart with manager := s.manager.noteStreamClosed relayTrackId }
  | timeoutSent (group : Nat) : Moves decideWith s (.streamTimeout group)
      { s.restart with queue := s.queue ++ [.streamTimeout group] }
  | timeoutDropped (group : Nat) : Moves decideWith s (.streamTimeout group) s.restart
  | subscribed (fullTrackName : FullTrackName) (relayTrackId : Nat) :
      Moves decideWith s (.subscribe fullTrackName relayTrackId)
        { s.restart with gates := s.gates ++ [.new fullTrackName relayTrackId] }
  | cached {i group : Nat} {gate : Gate} (there : s.gates[i]? = some gate)
      (stage : gate.stage = .idle) (hitGroup : gate.gateGroup = group)
      (hitEpoch : gate.gateEpoch = s.manager.epoch) : Moves decideWith s (.object i group)
        (s.restart.answer i group gate.gateForward (s.manager.trackToSet gate.fullTrackName))
  | missed {i group : Nat} {gate : Gate} (there : s.gates[i]? = some gate)
      (stage : gate.stage = .idle) : Moves decideWith s (.object i group)
        (s.restart.setStage i gate (.reading group false))
  | sampled {i group : Nat} {notified : Bool} {gate : Gate} (there : s.gates[i]? = some gate)
      (stage : gate.stage = .reading group notified) : Moves decideWith s (.sample i)
        (s.restart.setStage i gate (.sampled group notified s.manager.epoch))
  | unassigned {i group epoch : Nat} {notified : Bool} {gate : Gate}
      (there : s.gates[i]? = some gate) (stage : gate.stage = .sampled group notified epoch)
      (set : s.manager.getSetForTrack gate.fullTrackName = none) : Moves decideWith s (.locate i)
        (s.restart.settle i gate group epoch true none)
  | located {i group epoch : Nat} {notified : Bool} {gate : Gate} {set : SwitchingSet}
      (there : s.gates[i]? = some gate) (stage : gate.stage = .sampled group notified epoch)
      (found : s.manager.getSetForTrack gate.fullTrackName = some set) :
      Moves decideWith s (.locate i)
        (s.restart.setStage i gate (.located group notified epoch set.id))
  | decided {i group epoch setId : Nat} {notified : Bool} {gate : Gate} {sets : Selection}
      {chosen : Option Nat} (there : s.gates[i]? = some gate)
      (stage : gate.stage = .located group notified epoch setId)
      (decision : s.decisions group = some sets) (answer : sets setId = some chosen) :
      Moves decideWith s (.lookUp i) (s.restart.settle i gate group epoch
        (decide (chosen = some gate.relayTrackId)) (some setId))
  | undecided {i group epoch setId : Nat} {notified : Bool} {gate : Gate}
      (there : s.gates[i]? = some gate)
      (stage : gate.stage = .located group notified epoch setId)
      (none : ((s.decisions group).bind fun sets => sets setId) = none) :
      Moves decideWith s (.lookUp i) (s.restart.setStage i gate (.asking group notified setId))
  | asked {i group setId : Nat} {notified : Bool} {gate : Gate} (there : s.gates[i]? = some gate)
      (stage : gate.stage = .asking group notified setId) : Moves decideWith s (.ask i)
        { s.restart.setStage i gate (.waiting group notified setId) with
          queue := s.queue ++ [.newGroup group] }
  | woken {i group setId : Nat} {gate : Gate} (there : s.gates[i]? = some gate)
      (stage : gate.stage = .waiting group true setId) : Moves decideWith s (.wake i)
        (s.restart.setStage i gate (.reading group false))
  | gaveUp {i : Nat} {gate : Gate} (there : s.gates[i]? = some gate) :
      Moves decideWith s (.giveUp i) (s.restart.setStage i gate .idle)
  | takenNewGroup {group : Nat} {queue : List AbrMessage} (stage : s.stage = .idle)
      (head : s.queue = .newGroup group :: queue) : Moves decideWith s .take
        { s.restart with
          queue := queue
          lastGroup := some (max group (s.lastGroup.getD 0))
          largestGroup := max s.largestGroup group
          stage := .checking group }
  | takenTimeout {group : Nat} {queue : List AbrMessage} (stage : s.stage = .idle)
      (head : s.queue = .streamTimeout group :: queue) : Moves decideWith s .take
        { s.restart with
          queue := queue
          largestGroup := max s.largestGroup group
          streamTimeouts := s.streamTimeouts + 1
          stage := s.lastGroup.elim .idle fun group => .deciding group false }
  | ticked (stage : s.stage = .idle) : Moves decideWith s .tick
      { s.restart with stage := s.lastGroup.elim .idle fun group => .deciding group false }
  | alreadyDecided {group : Nat} (stage : s.stage = .checking group)
      (decided : s.decisions group ≠ none) : Moves decideWith s .check
        { s.restart with stage := .notifying group true }
  | notDecided {group : Nat} (stage : s.stage = .checking group)
      (decided : s.decisions group = none) : Moves decideWith s .check
        { s.restart with stage := .deciding group true }
  | noSets {group bandwidth cap : Nat} {asked : Bool} (stage : s.stage = .deciding group asked)
      (sets : s.decisionSnapshot = []) : Moves decideWith s (.snapshot bandwidth cap)
        (s.restart.finish group asked)
  | evaluated {group bandwidth cap : Nat} {asked : Bool} (stage : s.stage = .deciding group asked)
      (sets : s.decisionSnapshot ≠ []) : Moves decideWith s (.snapshot bandwidth cap)
        { s.restart with
          running := (evaluate decideWith (s.abrInput group bandwidth cap) s.running).1
          streamTimeouts := 0
          stage := .recording group asked s.decisionSnapshot
            (evaluate decideWith (s.abrInput group bandwidth cap) s.running).2 }
  | recorded {group : Nat} {asked : Bool} {sets : List SetSnapshot} {decisions : Selection}
      (stage : s.stage = .recording group asked sets decisions)
      (vacant : s.decisions group = none) : Moves decideWith s .record
        { s.restart with
          decisions := s.keptWith group decisions
          snapshots := Function.update s.snapshots group sets
          stage := .notifying group asked }
  | kept {group : Nat} {asked : Bool} {sets : List SetSnapshot} {decisions : Selection}
      (stage : s.stage = .recording group asked sets decisions)
      (occupied : s.decisions group ≠ none) : Moves decideWith s .record
        (s.restart.finish group asked)
  | notified {group : Nat} {asked : Bool} (stage : s.stage = .notifying group asked) :
      Moves decideWith s .notify (s.restart.notifyWaiters.finish group asked)

theorem moves_of_step {s s' : State σ} {a : Action} (h : step decideWith s a = some s') :
    Moves decideWith s a s' := by
  cases a with
  | call c => cases h; exact .call c
  | streamOpened relayTrackId => cases h; exact .streamOpened relayTrackId
  | streamClosed relayTrackId => cases h; exact .streamClosed relayTrackId
  | streamTimeout group =>
    simp only [step, enqueue] at h
    split at h
    · cases h; exact .timeoutSent group
    · cases h; exact .timeoutDropped group
  | subscribe fullTrackName relayTrackId => cases h; exact .subscribed fullTrackName relayTrackId
  | object i group =>
    obtain ⟨gate, there, h⟩ := Option.bind_eq_some_iff.mp h
    unfold State.object at h
    split at h
    next stage =>
      split at h
      next hit => cases h; exact .cached there stage hit.1 hit.2
      next => cases h; exact .missed there stage
    next => cases h
  | sample i =>
    obtain ⟨gate, there, h⟩ := Option.bind_eq_some_iff.mp h
    unfold State.sample at h
    split at h
    next stage => cases h; exact .sampled there stage
    next => cases h
  | locate i =>
    obtain ⟨gate, there, h⟩ := Option.bind_eq_some_iff.mp h
    unfold State.locate at h
    split at h
    next stage =>
      split at h
      next set => cases h; exact .unassigned there stage (Option.map_eq_none_iff.mp set)
      next set =>
        obtain ⟨set, found, rfl⟩ := Option.map_eq_some_iff.mp set
        cases h
        exact .located there stage found
    next => cases h
  | lookUp i =>
    obtain ⟨gate, there, h⟩ := Option.bind_eq_some_iff.mp h
    unfold State.lookUp at h
    split at h
    next stage =>
      split at h
      next decision =>
        obtain ⟨sets, decision, answer⟩ := Option.bind_eq_some_iff.mp decision
        cases h
        exact .decided there stage decision answer
      next decision => cases h; exact .undecided there stage decision
    next => cases h
  | ask i =>
    obtain ⟨gate, there, h⟩ := Option.bind_eq_some_iff.mp h
    unfold State.ask at h
    split at h
    next stage =>
      unfold enqueue at h
      split at h
      · cases h; exact .asked there stage
      · cases h
    next => cases h
  | wake i =>
    obtain ⟨gate, there, h⟩ := Option.bind_eq_some_iff.mp h
    unfold State.wake at h
    split at h
    next stage => cases h; exact .woken there stage
    next => cases h
  | giveUp i =>
    obtain ⟨gate, there, h⟩ := Option.map_eq_some_iff.mp h
    cases h
    exact .gaveUp there
  | take =>
    simp only [step, State.take] at h
    split at h
    next stage head => cases h; exact .takenNewGroup stage head
    next stage head => cases h; exact .takenTimeout stage head
    next => cases h
  | tick =>
    simp only [step, State.tick] at h
    split at h
    next stage => cases h; exact .ticked stage
    next => cases h
  | check =>
    simp only [step, State.check, hasGroupDecision] at h
    split at h
    next group stage =>
      cases decided : s.decisions group with
      | none =>
        simp only [decided, Option.isSome_none, Bool.false_eq_true, if_false] at h
        cases h
        exact .notDecided stage decided
      | some d =>
        simp only [decided, Option.isSome_some, if_true] at h
        cases h
        exact .alreadyDecided stage (by simp [decided])
    next => cases h
  | snapshot bandwidth cap =>
    simp only [step, State.snapshot] at h
    split at h
    next stage =>
      split at h
      next sets => cases h; exact .noSets stage sets
      next sets => cases h; exact .evaluated stage sets
    next => cases h
  | record =>
    simp only [step, State.record] at h
    split at h
    next group asked sets decisions stage =>
      cases vacant : s.decisions group with
      | none =>
        have hrecord : s.restart.recordGroupDecision group sets decisions =
            ({ s.restart with
              decisions := s.keptWith group decisions
              snapshots := Function.update s.snapshots group sets }, true) := by
          have hvacant : s.restart.hasGroupDecision group = false := by
            simp [hasGroupDecision, restart, vacant]
          simp only [recordGroupDecision, hvacant, Bool.false_eq_true, if_false]
          rfl
        rw [← restart, hrecord] at h
        cases h
        exact .recorded stage vacant
      | some d =>
        have hrecord : s.restart.recordGroupDecision group sets decisions = (s.restart, false) := by
          simp [recordGroupDecision, hasGroupDecision, restart, vacant]
        rw [← restart, hrecord] at h
        cases h
        exact .kept stage (by simp [vacant])
    next => cases h
  | notify =>
    simp only [step, State.notify] at h
    split at h
    next stage => cases h; exact .notified stage
    next => cases h

end Moqtail.Ssts
