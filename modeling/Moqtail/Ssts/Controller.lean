import Moqtail.Ssts.Representation

/-! The decision loop of sender-side track switching (`server/ssts/controller.rs`, `server/ssts/mod.rs`)
and the forward gate of each subscription (`ssts_gate_allows`, `resolve_ssts_gate` in
`server/subscription.rs`), on one connection until it closes.

Every point at which another task can run is a step of its own: the controller takes a message,
looks the group up, reads the sets, records and notifies; a gate samples the epoch, reads the
switching sets, reads the decisions, sends, and waits. A receive that takes more than five seconds
is given up wherever it stands. `snapshots`, `forwarded` and `finished` are kept for the statements
and nothing reads them. -/
namespace Moqtail.Ssts

/-! The contract with the algorithms, from `moqtail-ssts`. -/

structure SetSnapshot where
  id : Nat
  algorithmId : Nat
  rank : Nat
  weight : Nat
  active : Bool
  members : List (Nat × Nat)
deriving Repr, DecidableEq

def SetSnapshot.ofSet (set : SwitchingSet) : SetSnapshot where
  id := set.id
  algorithmId := set.algorithmId
  rank := set.rank
  weight := set.weight
  active := set.isActive
  members := set.members.map fun m => (m.throughputThresholdKbps, m.relayTrackId)

def SetSnapshot.hasTrack (set : SetSnapshot) (relayTrackId : Nat) : Bool :=
  set.members.any fun m => m.2 = relayTrackId

/-- The selected track of each set: `some none` selects none. -/
abbrev Selection := Nat → Option (Option Nat)

structure AbrInput where
  groupId : Nat
  bandwidthEstimateKbps : Nat
  configuredCapKbps : Nat
  sets : List SetSnapshot
  openStreamsPerSet : Nat → Option Nat
  streamTimeoutsSinceLastDecision : Nat

def AbrInput.openStreams (input : AbrInput) (setId : Nat) : Nat :=
  (input.openStreamsPerSet setId).getD 0

def AbrInput.activeStreamDepth (input : AbrInput) : Nat :=
  ((input.sets.filter (·.active)).map fun set => input.openStreams set.id).sum

/-- An algorithm the connection runs, with its state. -/
structure Running (σ : Type) where
  id : Nat
  state : σ

/-! The decision for one group. -/

/-- What the host makes of an algorithm's answer for one set. -/
def validated (selection : Selection) (set : SetSnapshot) : Option Nat :=
  match selection set.id with
  | some (some track) => if set.hasTrack track then some track else none
  | some none => none
  | none => none

def validate (selection : Selection) (sets : List SetSnapshot) : Selection :=
  sets.foldl (fun answers set => Function.update answers set.id (some (validated selection set)))
    fun _ => none

section Decide

variable {σ : Type} (decideWith : Nat → σ → AbrInput → σ × Selection)

/-- Each algorithm decides the sets assigned to it. -/
def runAlgorithms (input : AbrInput) :
    List (Running σ) → Selection → List (Running σ) × Selection
  | [], decisions => ([], decisions)
  | algorithm :: running, decisions =>
    let sets := input.sets.filter fun set => set.algorithmId = algorithm.id
    if sets = [] then
      let (running, decisions) := runAlgorithms input running decisions
      (algorithm :: running, decisions)
    else
      let (state, selection) := decideWith algorithm.id algorithm.state { input with sets := sets }
      let answers := validate selection sets
      let (running, decisions) :=
        runAlgorithms input running fun setId => (answers setId).or (decisions setId)
      ({ algorithm with state := state } :: running, decisions)

/-- A set no running algorithm owns forwards nothing. -/
def fillUnowned (sets : List SetSnapshot) (decisions : Selection) : Selection :=
  (sets.filter fun set => (decisions set.id).isNone).foldl
    (fun decisions set => Function.update decisions set.id (some none)) decisions

def evaluate (input : AbrInput) (running : List (Running σ)) : List (Running σ) × Selection :=
  let (running, decisions) := runAlgorithms decideWith input running fun _ => none
  (running, fillUnowned input.sets decisions)

end Decide

/-! The gate and the controller. -/

/-- `ssts_gate_group` while nothing is cached. -/
def sstsGateGroupNone : Nat := 2 ^ 64 - 1

def decisionWindow : Nat := 5

/-- The capacity of the controller's channel. -/
def abrChannelCapacity : Nat := 100

/-- Where `resolve_ssts_gate` stands. `notified` says whether the `Notified` of this turn of
its loop has been woken. -/
inductive GateStage where
  | idle
  | reading (group : Nat) (notified : Bool)
  | sampled (group : Nat) (notified : Bool) (epoch : Nat)
  | located (group : Nat) (notified : Bool) (epoch setId : Nat)
  | asking (group : Nat) (notified : Bool) (setId : Nat)
  | waiting (group : Nat) (notified : Bool) (setId : Nat)
deriving Repr, DecidableEq

def GateStage.notify : GateStage → GateStage
  | .idle => .idle
  | .reading group _ => .reading group true
  | .sampled group _ epoch => .sampled group true epoch
  | .located group _ epoch setId => .located group true epoch setId
  | .asking group _ setId => .asking group true setId
  | .waiting group _ setId => .waiting group true setId

/-- The forward gate of one subscription. -/
structure Gate where
  fullTrackName : FullTrackName
  relayTrackId : Nat
  gateEpoch : Nat
  gateGroup : Nat
  gateForward : Bool
  stage : GateStage
deriving Repr, DecidableEq

def Gate.new (fullTrackName : FullTrackName) (relayTrackId : Nat) : Gate where
  fullTrackName := fullTrackName
  relayTrackId := relayTrackId
  gateEpoch := 0
  gateGroup := sstsGateGroupNone
  gateForward := false
  stage := .idle

inductive AbrMessage where
  | newGroup (group : Nat)
  | streamTimeout (group : Nat)
deriving Repr, DecidableEq

/-- What the controller is doing. `asked` says whether a NewGroup message made it decide, and
not a tick or a timeout. -/
inductive ControllerStage where
  | idle
  | checking (group : Nat)
  | deciding (group : Nat) (asked : Bool)
  | recording (group : Nat) (asked : Bool) (sets : List SetSnapshot) (decisions : Selection)
  | notifying (group : Nat) (asked : Bool)

/-- An Object the gate of a subscription let through, and the set its track was in. -/
structure Passed where
  group : Nat
  gate : Nat
  setId : Option Nat
deriving Repr, DecidableEq

structure State (σ : Type) where
  manager : SwitchingSetManager
  gates : List Gate
  queue : List AbrMessage
  decisions : Nat → Option Selection
  running : List (Running σ)
  lastGroup : Option Nat
  largestGroup : Nat
  streamTimeouts : Nat
  stage : ControllerStage
  snapshots : Nat → List SetSnapshot
  forwarded : List Passed
  finished : Option Nat

inductive Action where
  | call (c : Call)
  | streamOpened (relayTrackId : Nat)
  | streamClosed (relayTrackId : Nat)
  | streamTimeout (group : Nat)
  | subscribe (fullTrackName : FullTrackName) (relayTrackId : Nat)
  | object (gate group : Nat)
  | sample (gate : Nat)
  | locate (gate : Nat)
  | lookUp (gate : Nat)
  | ask (gate : Nat)
  | wake (gate : Nat)
  | giveUp (gate : Nat)
  | take
  | tick
  | check
  | snapshot (bandwidthEstimateKbps configuredCapKbps : Nat)
  | record
  | notify
deriving DecidableEq

namespace State

variable {σ : Type}

def initial (running : List (Running σ)) : State σ where
  manager := .new
  gates := []
  queue := []
  decisions _ := none
  running := running
  lastGroup := none
  largestGroup := 0
  streamTimeouts := 0
  stage := .idle
  snapshots _ := []
  forwarded := []
  finished := none

def setGate (s : State σ) (i : Nat) (gate : Gate) : State σ :=
  { s with gates := s.gates.set i gate }

def setStage (s : State σ) (i : Nat) (gate : Gate) (stage : GateStage) : State σ :=
  s.setGate i { gate with stage := stage }

/-- The gate answers for an Object of the group. -/
def answer (s : State σ) (i group : Nat) (forward : Bool) (setId : Option Nat) : State σ :=
  { s with forwarded := if forward then s.forwarded ++ [⟨group, i, setId⟩] else s.forwarded }

/-- It also keeps the answer, stamped with the epoch sampled before the reads. -/
def settle (s : State σ) (i : Nat) (gate : Gate) (group epoch : Nat) (forward : Bool)
    (setId : Option Nat) : State σ :=
  (s.setGate i { gate with
    gateEpoch := epoch, gateGroup := group, gateForward := forward, stage := .idle }).answer
      i group forward setId

/-- `send`, which waits for room. -/
def enqueue (s : State σ) (message : AbrMessage) : Option (State σ) :=
  if s.queue.length < abrChannelCapacity then some { s with queue := s.queue ++ [message] }
  else none

def hasGroupDecision (s : State σ) (group : Nat) : Bool := (s.decisions group).isSome

/-- `record_group_decision`: a group that has an answer keeps it. -/
def recordGroupDecision (s : State σ) (group : Nat) (sets : List SetSnapshot)
    (decisions : Selection) : State σ × Bool :=
  if s.hasGroupDecision group then (s, false)
  else
    let oldestKept := s.largestGroup - decisionWindow
    ({ s with
      decisions := fun g =>
        if oldestKept ≤ g ∨ g = group then Function.update s.decisions group (some decisions) g
        else none
      snapshots := Function.update s.snapshots group sets }, true)

def decisionSnapshot (s : State σ) : List SetSnapshot :=
  s.manager.sets.entries.map fun entry => SetSnapshot.ofSet entry.2

/-- `notify_waiters`. -/
def notifyWaiters (s : State σ) : State σ :=
  { s with gates := s.gates.map fun gate => { gate with stage := gate.stage.notify } }

/-- The processing of a message or a tick ends. -/
def finish (s : State σ) (group : Nat) (asked : Bool) : State σ :=
  { s with stage := .idle, finished := if asked then some group else none }

/-! A gate's part. -/

def object (s : State σ) (i group : Nat) (gate : Gate) : Option (State σ) :=
  match gate.stage with
  | .idle =>
    if gate.gateGroup = group ∧ gate.gateEpoch = s.manager.epoch then
      some (s.answer i group gate.gateForward (s.manager.trackToSet gate.fullTrackName))
    else some (s.setStage i gate (.reading group false))
  | _ => none

def sample (s : State σ) (i : Nat) (gate : Gate) : Option (State σ) :=
  match gate.stage with
  | .reading group notified => some (s.setStage i gate (.sampled group notified s.manager.epoch))
  | _ => none

def locate (s : State σ) (i : Nat) (gate : Gate) : Option (State σ) :=
  match gate.stage with
  | .sampled group notified epoch =>
    match (s.manager.getSetForTrack gate.fullTrackName).map SwitchingSet.id with
    | none => some (s.settle i gate group epoch true none)
    | some setId => some (s.setStage i gate (.located group notified epoch setId))
  | _ => none

def lookUp (s : State σ) (i : Nat) (gate : Gate) : Option (State σ) :=
  match gate.stage with
  | .located group notified epoch setId =>
    match (s.decisions group).bind fun sets => sets setId with
    | some chosen =>
      some (s.settle i gate group epoch (decide (chosen = some gate.relayTrackId)) (some setId))
    | none => some (s.setStage i gate (.asking group notified setId))
  | _ => none

def ask (s : State σ) (i : Nat) (gate : Gate) : Option (State σ) :=
  match gate.stage with
  | .asking group notified setId =>
    (s.setStage i gate (.waiting group notified setId)).enqueue (.newGroup group)
  | _ => none

def wake (s : State σ) (i : Nat) (gate : Gate) : Option (State σ) :=
  match gate.stage with
  | .waiting group true _ => some (s.setStage i gate (.reading group false))
  | _ => none

/-! The controller's part. -/

def take (s : State σ) : Option (State σ) :=
  match s.stage, s.queue with
  | .idle, .newGroup group :: queue =>
    some { s with
      queue := queue
      lastGroup := some (max group (s.lastGroup.getD 0))
      largestGroup := max s.largestGroup group
      stage := .checking group }
  | .idle, .streamTimeout group :: queue =>
    some { s with
      queue := queue
      largestGroup := max s.largestGroup group
      streamTimeouts := s.streamTimeouts + 1
      stage := s.lastGroup.elim .idle fun group => .deciding group false }
  | _, _ => none

def tick (s : State σ) : Option (State σ) :=
  match s.stage with
  | .idle => some { s with stage := s.lastGroup.elim .idle fun group => .deciding group false }
  | _ => none

def check (s : State σ) : Option (State σ) :=
  match s.stage with
  | .checking group =>
    if s.hasGroupDecision group then some { s with stage := .notifying group true }
    else some { s with stage := .deciding group true }
  | _ => none

def snapshot (decideWith : Nat → σ → AbrInput → σ × Selection) (s : State σ)
    (bandwidthEstimateKbps configuredCapKbps : Nat) : Option (State σ) :=
  match s.stage with
  | .deciding group asked =>
    let sets := s.decisionSnapshot
    if sets = [] then some (s.finish group asked)
    else
      let input : AbrInput :=
        { groupId := group
          bandwidthEstimateKbps := bandwidthEstimateKbps
          configuredCapKbps := configuredCapKbps
          sets := sets
          openStreamsPerSet := s.manager.openStreams
          streamTimeoutsSinceLastDecision := s.streamTimeouts }
      let (running, decisions) := evaluate decideWith input s.running
      some { s with
        running := running
        streamTimeouts := 0
        stage := .recording group asked sets decisions }
  | _ => none

def record (s : State σ) : Option (State σ) :=
  match s.stage with
  | .recording group asked sets decisions =>
    match s.recordGroupDecision group sets decisions with
    | (s, true) => some { s with stage := .notifying group asked }
    | (s, false) => some (s.finish group asked)
  | _ => none

def notify (s : State σ) : Option (State σ) :=
  match s.stage with
  | .notifying group asked => some (s.notifyWaiters.finish group asked)
  | _ => none

end State

open State

/-- One step of the connection. -/
def step {σ : Type} (decideWith : Nat → σ → AbrInput → σ × Selection) (s : State σ) (a : Action) :
    Option (State σ) :=
  let s := { s with finished := none }
  match a with
  | .call c => some { s with manager := s.manager.call c }
  | .streamOpened relayTrackId => some { s with manager := s.manager.noteStreamOpened relayTrackId }
  | .streamClosed relayTrackId => some { s with manager := s.manager.noteStreamClosed relayTrackId }
  -- `try_send`: a timeout that finds no room is dropped
  | .streamTimeout group => some ((s.enqueue (.streamTimeout group)).getD s)
  | .subscribe fullTrackName relayTrackId =>
    some { s with gates := s.gates ++ [.new fullTrackName relayTrackId] }
  | .object i group => s.gates[i]?.bind fun gate => s.object i group gate
  | .sample i => s.gates[i]?.bind fun gate => s.sample i gate
  | .locate i => s.gates[i]?.bind fun gate => s.locate i gate
  | .lookUp i => s.gates[i]?.bind fun gate => s.lookUp i gate
  | .ask i => s.gates[i]?.bind fun gate => s.ask i gate
  | .wake i => s.gates[i]?.bind fun gate => s.wake i gate
  | .giveUp i => s.gates[i]?.map fun gate => s.setStage i gate .idle
  | .take => s.take
  | .tick => s.tick
  | .check => s.check
  | .snapshot bandwidthEstimateKbps configuredCapKbps =>
    s.snapshot decideWith bandwidthEstimateKbps configuredCapKbps
  | .record => s.record
  | .notify => s.notify

end Moqtail.Ssts
