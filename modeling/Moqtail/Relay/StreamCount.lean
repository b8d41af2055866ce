import Moqtail.Relay.Sources

/-! The Stream Count of PUBLISH_DONE, from `server/subscription.rs` and `server/fill.rs`.

A subscription counts a stream when it has handled its header, and a fill fetch stream when the
fill is over. This is the forwarding path with what can also happen to a subscription put around
it: switches, fills, and its end. What ends a subscription is a task of its own or the one that
takes the events, and between two of its steps every other task may move.

Left out are what stops a fill, so that a fill may open its stream and end at any point of a
run, the datagrams, and the place of the publisher's end among the queued events: it can be
taken whenever the task is free. -/
namespace Moqtail

open Lib

/-- The task `open_fill_fetch_stream` starts. -/
structure FillTask where
  /-- It has its send stream, newly opened or found under its key. -/
  hasStream : Bool
  ended : Bool
deriving Repr, DecidableEq

/-- A PUBLISH_DONE, and the streams that were opened when it was sent. -/
structure StreamReport where
  streamCount : Nat
  opened : Nat
deriving Repr, DecidableEq

/-- What is to be done where a subscription, or its part in a switch, ends. -/
inductive EndStep where
  | stopForwarding
  | endDrain
  | resetDataStreams
  | resetStream (streamId : StreamId)
  | sendPublishDone
  | finish
deriving DecidableEq

namespace Ending

/-- What a hard switch to another track does to this subscription. -/
def cutSuspending (publishDone : Bool) : List EndStep :=
  if publishDone then [.stopForwarding, .resetDataStreams, .sendPublishDone]
  else [.stopForwarding, .resetDataStreams]

def finishSoftDrain : List EndStep := [.endDrain]

def cancel : List EndStep := [.resetDataStreams, .finish]

def publisherDisconnected : List EndStep := [.sendPublishDone, .finish]

/-- A REQUEST_UPDATE that fails. -/
def failUpdate : List EndStep := .sendPublishDone :: cancel

/-- The subscriber cannot keep up. -/
def tooFarBehind : List EndStep := [.resetDataStreams, .finish]

end Ending

/-- `ownEnding` is left to the task that takes the events, `endings` to others. All fills of a
subscription use one key, made of its own request. -/
structure Reporting where
  forwarding : Forwarding
  softSuspended : Bool
  publishDoneAtEnd : Bool
  finished : Bool
  ownEnding : List EndStep
  endings : List (List EndStep)
  fills : List FillTask
  fillKeyTaken : Bool
  /-- The fill fetch streams whose header went out. -/
  fillStreams : Nat
  reports : List StreamReport

inductive ReportingAction where
  | forward (action : Action)
  | beginSwitch (filter : Option LocationFilter) (largest : Option Location)
  | suspendAt (boundary : UInt64) (publishDone : Bool)
  | cutSuspending (publishDone : Bool)
  | failUpdate
  | cancel
  | proceedEnding (k : Nat)
  | publisherDisconnected
  | tooFarBehind
  | proceedOwnEnding
  | giveUpOwnEnding
  | openFill
  | openFillStream (i : Nat) (io : Transport)
  | endFill (i : Nat) (ok : Bool)

namespace Delivery

/-- The streams `send_stream_last_object_ids` names. -/
def openIds (d : Delivery) : List StreamId :=
  (d.client.streams.map (·.streamId)).dedup.filter fun streamId =>
    (d.sub.sendStreamLastObjectIds streamId).isSome

end Delivery

/-- The peer takes nothing more of a stream that was reset. -/
def Client.resetStream (client : Client) (streamId : StreamId) : Client :=
  match client.sendStreams streamId with
  | none => client
  | some i =>
    (client.modifyStream i fun stream => { stream with failed := true }).takeStream streamId

namespace Reporting

def init (retainedGroups : Nat) (sub : Subscription) : Reporting where
  forwarding := .init retainedGroups sub
  softSuspended := false
  publishDoneAtEnd := false
  finished := false
  ownEnding := []
  endings := []
  fills := []
  fillKeyTaken := false
  fillStreams := 0
  reports := []

def streamCount (s : Reporting) : Nat := s.forwarding.delivery.sub.openedStreamCount

def opened (s : Reporting) : Nat := s.forwarding.delivery.client.streams.length + s.fillStreams

def setSub (s : Reporting) (sub : Subscription) : Reporting :=
  { s with
    forwarding := { s.forwarding with delivery := { s.forwarding.delivery with sub := sub } } }

def sendPublishDone (s : Reporting) : Reporting :=
  { s with reports := s.reports ++ [⟨s.streamCount, s.opened⟩] }

/-- The ids are forgotten first. -/
def resetDataStreams (s : Reporting) : Reporting × List EndStep :=
  (s.setSub { s.forwarding.delivery.sub with sendStreamLastObjectIds := fun _ => none },
    s.forwarding.delivery.openIds.map .resetStream)

def resetStream (s : Reporting) (streamId : StreamId) : Reporting :=
  let d := s.forwarding.delivery
  { s with
    forwarding := { s.forwarding with
      delivery := { d with client := d.client.resetStream streamId } } }

/-- The open streams are left to a task that closes them. -/
def finish (s : Reporting) : Reporting :=
  if s.finished then s
  else
    let d := s.forwarding.delivery
    let sub := { d.sub with sendStreamLastObjectIds := fun _ => none }
    { s with
      finished := true
      forwarding := { s.forwarding with
        closing := s.forwarding.closing ++ d.openIds
        delivery := { d with sub := sub } } }

def endDrain (s : Reporting) : Reporting × List EndStep :=
  if !s.softSuspended then (s, [])
  else
    ({ s.setSub { s.forwarding.delivery.sub with forward := false } with
        softSuspended := false
        publishDoneAtEnd := false },
      if s.publishDoneAtEnd then [.sendPublishDone, .finish] else [])

/-- One step of an ending, and what it adds to the ones after it. -/
def endStep (s : Reporting) : EndStep → Reporting × List EndStep
  | .stopForwarding => (s.setSub { s.forwarding.delivery.sub with forward := false }, [])
  | .endDrain => s.endDrain
  | .resetDataStreams => s.resetDataStreams
  | .resetStream streamId => (s.resetStream streamId, [])
  | .sendPublishDone => (s.sendPublishDone, [])
  | .finish => (s.finish, [])

def beginSwitch (s : Reporting) (filter : Option LocationFilter) (largest : Option Location) :
    Reporting :=
  let sub := s.forwarding.delivery.sub
  let sub :=
    match filter with
    | some filter => sub.setLocationFilter filter largest
    | none => sub
  { s.setSub { sub with forward := true } with softSuspended := false, publishDoneAtEnd := false }

/-- What a soft switch to another track does to this subscription. -/
def suspendAt (s : Reporting) (boundary : UInt64) (publishDone : Bool) : Reporting :=
  if boundary = 0 then s
  else
    let sub := s.forwarding.delivery.sub
    let endGroup :=
      match sub.endGroup with
      | none => boundary - 1
      | some existing => min existing (boundary - 1)
    let endObject := if some endGroup ≠ sub.endGroup then none else sub.endObject
    { s.setSub { sub with endGroup := some endGroup, endObject := endObject } with
      softSuspended := true
      publishDoneAtEnd := publishDone }

def proceedEnding (s : Reporting) (k : Nat) : Option Reporting :=
  match s.endings[k]? with
  | some (step :: rest) =>
    let (s, more) := s.endStep step
    some { s with endings := s.endings.set k (more ++ rest) }
  | _ => none

def proceedOwnEnding (s : Reporting) : Option Reporting :=
  match s.ownEnding with
  | [] => none
  | step :: rest =>
    let (s, more) := s.endStep step
    some { s with ownEnding := more ++ rest }

/-- The task that takes the events has none in hand. -/
def isFree (s : Reporting) : Bool := s.forwarding.task.isNone && s.ownEnding.isEmpty

/-- The object at the head of the queue is past the end of the subscription. -/
def pastEnd (s : Reporting) (gate : Bool) : Bool :=
  match s.forwarding.queue with
  | .subgroupObject _ object _ :: _ =>
    let sub := s.forwarding.delivery.sub
    sub.verdict gate { object with trackAlias := sub.trackAlias } = .pastEnd
  | _ => false

/-- `receive`: nothing is handled once the subscription has finished. An object past the end may be
the end of a drain. -/
def handle (s : Reporting) (gate : Bool) : Option Reporting :=
  if !s.isFree then none
  else if s.finished then
    match s.forwarding.queue with
    | [] => none
    | _ :: queue => some { s with forwarding := { s.forwarding with queue := queue } }
  else
    (s.forwarding.step (.handle gate)).map fun f =>
      { s with
        forwarding := f
        ownEnding := if s.pastEnd gate && s.softSuspended then Ending.finishSoftDrain else [] }

def endOwn (s : Reporting) (ending : List EndStep) : Option Reporting :=
  if s.isFree && !s.finished then some { s with ownEnding := ending } else none

def endBeside (s : Reporting) (ending : List EndStep) : Reporting :=
  { s with endings := s.endings ++ [ending] }

/-! Fills. -/

def openFill (s : Reporting) : Option Reporting :=
  if s.forwarding.delivery.sub.forward then
    some { s with fills := s.fills ++ [⟨false, false⟩] }
  else none

/-- A fill that gets no stream ends, and is not counted. -/
def openFillStream (s : Reporting) (i : Nat) (io : Transport) : Option Reporting :=
  match s.fills[i]? with
  | none => none
  | some fill =>
    if fill.hasStream || fill.ended then none
    else if s.fillKeyTaken then
      some { s with fills := s.fills.set i { fill with hasStream := true } }
    else if io.openFails || io.write ≠ .ok then
      some { s with fills := s.fills.set i { fill with ended := true } }
    else
      some { s with
        fills := s.fills.set i { fill with hasStream := true }
        fillKeyTaken := true
        fillStreams := s.fillStreams + 1 }

/-- `ok` is that `serve_fetch_stream` returned no error: an error leaves the key in the map, and
the stream uncounted. -/
def endFill (s : Reporting) (i : Nat) (ok : Bool) : Option Reporting :=
  match s.fills[i]? with
  | none => none
  | some fill =>
    if fill.ended then none
    else
      let s := { s with fills := s.fills.set i { fill with ended := true } }
      if ok && fill.hasStream then
        let sub := s.forwarding.delivery.sub
        some { s.setSub { sub with openedStreamCount := sub.openedStreamCount + 1 } with
          fillKeyTaken := false }
      else some s

def step (s : Reporting) : ReportingAction → Option Reporting
  | .forward (.handle gate) => s.handle gate
  | .forward action => (s.forwarding.step action).map fun f => { s with forwarding := f }
  | .beginSwitch filter largest => some (s.beginSwitch filter largest)
  | .suspendAt boundary publishDone => some (s.suspendAt boundary publishDone)
  | .cutSuspending publishDone => some (s.endBeside (Ending.cutSuspending publishDone))
  | .failUpdate => some (s.endBeside Ending.failUpdate)
  | .cancel => some (s.endBeside Ending.cancel)
  | .proceedEnding k => s.proceedEnding k
  | .publisherDisconnected => s.endOwn Ending.publisherDisconnected
  | .tooFarBehind => s.endOwn Ending.tooFarBehind
  | .proceedOwnEnding => s.proceedOwnEnding
  | .giveUpOwnEnding => some { s with ownEnding := [] }
  | .openFill => s.openFill
  | .openFillStream i io => s.openFillStream i io
  | .endFill i ok => s.endFill i ok

/-- Every PUBLISH_DONE told the number of streams there were. -/
def Exact (s : Reporting) : Prop := ∀ report ∈ s.reports, report.streamCount = report.opened

end Reporting

/-! The count of subgroup streams keeps up with the streams. -/

/-- One for a stream that was opened and has its header still to be written. -/
def headsCount (heads : Option Nat) : Nat := heads.isSome.toNat

namespace Delivery

variable {d d' : Delivery} {call : HeaderCall} {io : Transport}

/-- A header call opens a stream of its own and writes the header to it, or gets no stream. -/
def HeaderCounts (d : Delivery) (call : HeaderCall) (io : Transport) : Prop :=
  match call.stage with
  | .opening => (call.header.serialize (some d.sub.trackAlias)).toOption.isSome = true →
      d.client.sendStreams (buildStreamId call.header) = none
  | .writing i _ => d.client.accepts i io.write = true
  | .removing => True

instance (d : Delivery) (call : HeaderCall) (io : Transport) : Decidable (d.HeaderCounts call io) := by
  unfold HeaderCounts
  split <;> infer_instance

/-- From `d` to `d'` as many streams were counted as opened, when one of `heads` still is to be, and
then one of `heads'`. -/
def Level (d d' : Delivery) (heads heads' : Option Nat) : Prop :=
  d'.sub.openedStreamCount + headsCount heads' + d.client.streams.length =
    d.sub.openedStreamCount + headsCount heads + d'.client.streams.length

theorem Level.of_eq {heads heads' : Option Nat}
    (hcount : d'.sub.openedStreamCount = d.sub.openedStreamCount)
    (hlength : d'.client.streams.length = d.client.streams.length)
    (hheads : heads'.isSome = heads.isSome) : d.Level d' heads heads' := by
  unfold Level headsCount
  rw [hcount, hlength, hheads]

def HeaderResult.heads (header : SubgroupHeader) : HeaderResult → Option Nat
  | .goesOn stage => HeaderCall.heads ⟨header, stage⟩
  | _ => none

theorem modifyStream_length (client : Client) (i : Nat) (change : SendStream → SendStream) :
    (client.modifyStream i change).streams.length = client.streams.length := by
  simp [Client.modifyStream]

theorem HeaderStep.level {result : HeaderResult} (hstep : HeaderStep d call io d' result)
    (hcounts : d.HeaderCounts call io) :
    d.Level d' call.heads (HeaderResult.heads call.header result) := by
  unfold HeaderCounts at hcounts
  cases hstep with
  | fails stage why => exact .of_eq rfl rfl (by simp [HeaderCall.heads, stage, HeaderResult.heads])
  | finds stage bytes key =>
    simp only [stage, bytes] at hcounts
    rw [hcounts rfl] at key
    cases key
  | adds stage bytes key =>
    simp only [Level, HeaderCall.heads, stage, HeaderResult.heads, headsCount, Client.addStream,
      List.length_append, List.length_singleton, Option.isSome_none, Option.isSome_some,
      Bool.toNat_true, Bool.toNat_false]
    omega
  | writes stage accepts =>
    simp only [Level, HeaderCall.heads, stage, HeaderResult.heads, headsCount, countStream,
      modifyStream_length, Option.isSome_none, Option.isSome_some, Bool.toNat_true,
      Bool.toNat_false]
  | refuses stage accepts =>
    simp only [stage] at hcounts
    exact absurd hcounts (by simp [accepts])
  | removes stage => exact .of_eq rfl rfl (by simp [HeaderCall.heads, stage, HeaderResult.heads])

theorem ObjectStep.level {active : StreamId → Option SubgroupHeader} {task : EventTask}
    {next : Option EventStage} (hstep : ObjectStep d active task io d' next)
    (hcounts : ∀ call, task.stage = .header call → d.HeaderCounts call io) :
    d.Level d' task.heads (next.bind fun stage => EventTask.heads { task with stage := stage }) := by
  unfold EventTask.heads
  have hreset := d.resetOwn_fields task.headerInfo
  cases hstep with
  | opens stage handles =>
    have hlevel := handles.level (hcounts _ stage)
    simp only [stage]
    exact hlevel
  | opensNone stage handles =>
    have hlevel := handles.level (hcounts _ stage)
    simp only [stage]
    exact hlevel
  | opened stage handles =>
    have hlevel := handles.level (hcounts _ stage)
    simp only [stage]
    exact hlevel
  | codes stage coded =>
    obtain ⟨hclient, -, -, hcount, -⟩ := hreset
    exact .of_eq hcount (by rw [hclient]) (by simp [stage])
  | codesNone stage coded =>
    obtain ⟨hclient, -, -, hcount, -⟩ := hreset
    exact .of_eq hcount (by rw [hclient]) (by simp [stage])
  | writes stage outcome => exact .of_eq rfl (modifyStream_length ..) (by simp [stage])
  | stopped stage outcome => exact .of_eq rfl (modifyStream_length ..) (by simp [stage])
  | releases stage => exact .of_eq rfl rfl (by simp [stage])
  | clearsOwn stage own => exact .of_eq rfl rfl (by simp [stage, HeaderCall.heads])
  | clearsOpen stage own key => exact .of_eq rfl rfl (by simp [stage])
  | clears stage own key => exact .of_eq rfl rfl (by simp [stage])
  | finds stage held => exact .of_eq rfl rfl (by simp [stage, HeaderCall.heads])
  | findsNone stage held => exact .of_eq rfl rfl (by simp [stage])
  | stores stage => exact .of_eq rfl rfl (by simp [stage])

theorem UpdateStep.level {update : UpdateTask} {next : Option UpdateTask}
    (hstep : UpdateStep d io update d' next)
    (hcounts : ∀ streamId call, update = .header streamId call → d.HeaderCounts call io) :
    d.Level d' update.heads (next.bind UpdateTask.heads) := by
  cases hstep with
  | takes pending => exact .of_eq rfl rfl rfl
  | takesNone pending => exact .of_eq rfl rfl rfl
  | opens handles => exact handles.level (hcounts _ _ rfl)
  | opensNone handles => exact handles.level (hcounts _ _ rfl)
  | opened handles => exact handles.level (hcounts _ _ rfl)
  | resets => exact .of_eq rfl rfl rfl

end Delivery

namespace Forwarding

variable {f f' : Forwarding}

/-- The streams that were opened and whose header is still to be written. -/
def heading (f : Forwarding) : Nat :=
  headsCount (f.task.bind EventTask.heads) + headsCount (f.updating.bind UpdateTask.heads)

/-- Every header a step has to do with is that of a stream it opens and counts. -/
def HeaderCounts (f : Forwarding) : Action → Prop
  | .proceed io => ∀ task ∈ f.task, ∀ call ∈ task.headerCall, f.delivery.HeaderCounts call io
  | .proceedUpdate io =>
    ∀ update ∈ f.updating, ∀ call ∈ update.headerCall, f.delivery.HeaderCounts call io
  | .giveUp _ _ => ∀ task ∈ f.task, task.heads = none
  | _ => True

instance (f : Forwarding) : (action : Action) → Decidable (f.HeaderCounts action)
  | .proceed io => inferInstanceAs (Decidable (∀ task ∈ f.task, ∀ call ∈ task.headerCall,
      f.delivery.HeaderCounts call io))
  | .proceedUpdate io => inferInstanceAs (Decidable (∀ update ∈ f.updating,
      ∀ call ∈ update.headerCall, f.delivery.HeaderCounts call io))
  | .giveUp _ _ => inferInstanceAs (Decidable (∀ task ∈ f.task, task.heads = none))
  | .openUpstream _ => inferInstanceAs (Decidable True)
  | .receive _ _ => inferInstanceAs (Decidable True)
  | .closeUpstream _ => inferInstanceAs (Decidable True)
  | .proceedUpstream _ => inferInstanceAs (Decidable True)
  | .subscribe => inferInstanceAs (Decidable True)
  | .handle _ => inferInstanceAs (Decidable True)
  | .giveUpEvent _ => inferInstanceAs (Decidable True)
  | .update _ => inferInstanceAs (Decidable True)
  | .resolveLiveStart _ => inferInstanceAs (Decidable True)
  | .closeStream _ => inferInstanceAs (Decidable True)
  | .finishStream _ => inferInstanceAs (Decidable True)

/-- From `f` to `f'` as many streams were counted as opened, when those still to be are added. -/
def Level (f f' : Forwarding) : Prop :=
  f'.delivery.sub.openedStreamCount + f'.heading + f.delivery.client.streams.length =
    f.delivery.sub.openedStreamCount + f.heading + f'.delivery.client.streams.length

theorem Level.of_eq (hcount : f'.delivery.sub.openedStreamCount = f.delivery.sub.openedStreamCount)
    (hlength : f'.delivery.client.streams.length = f.delivery.client.streams.length)
    (hheading : f'.heading = f.heading) : f.Level f' := by
  unfold Level
  rw [hcount, hlength, hheading]

theorem heading_of_same (htask : f'.task = f.task) (hupdating : f'.updating = f.updating) :
    f'.heading = f.heading := by
  unfold heading
  rw [htask, hupdating]

theorem Level.of_same (hdelivery : f'.delivery = f.delivery) (htask : f'.task = f.task)
    (hupdating : f'.updating = f.updating) : f.Level f' :=
  .of_eq (by rw [hdelivery]) (by rw [hdelivery]) (heading_of_same htask hupdating)

theorem Level.of_sameSubscription (h : f.SameSubscription f') : f.Level f' :=
  .of_same h.delivery h.task h.updating

theorem skip_openedStreamCount (sub : Subscription) (streamId : StreamId)
    (headerInfo : Option SubgroupHeader) (verdict : Verdict) :
    (sub.skip streamId headerInfo verdict).openedStreamCount = sub.openedStreamCount := by
  cases headerInfo <;> cases verdict <;> rfl

theorem step_level {action : Action} (hstep : f.step action = some f')
    (hcounts : f.HeaderCounts action) : f.Level f' := by
  cases action with
  | openUpstream bytes => exact .of_sameSubscription (openUpstream_same hstep)
  | receive u bytes => exact .of_sameSubscription (receive_same hstep)
  | closeUpstream u => exact .of_sameSubscription (closeUpstream_same hstep)
  | proceedUpstream u => exact .of_sameSubscription (proceedUpstream_same hstep)
  | subscribe => exact .of_sameSubscription (subscribe_same hstep)
  | handle gate =>
    obtain ⟨event, queue, hnone, -, rfl⟩ := handle_eq_some hstep
    cases event with
    | streamClosed streamId => exact .of_eq rfl rfl rfl
    | subgroupObject streamId object headerInfo =>
      refine .of_eq (skip_openedStreamCount _ _ _ _) rfl ?_
      simp only [heading, Forwarding.handleEvent, hnone]
      split <;> rfl
  | proceed io =>
    obtain ⟨task, d, next, htask, hobject, rfl⟩ := proceed_eq_some hstep
    have hlevel := hobject.level fun call hcall =>
      hcounts task htask call (by simp [EventTask.headerCall, hcall])
    have hnext : ((next.map fun stage => { task with stage := stage }).bind EventTask.heads) =
        next.bind fun stage => EventTask.heads { task with stage := stage } := by
      cases next <;> rfl
    unfold Delivery.Level at hlevel
    simp only [Level, heading, htask, Option.bind_some, hnext]
    omega
  | giveUpEvent entryDropped =>
    obtain ⟨event, queue, -, -, rfl⟩ := giveUpEvent_eq_some hstep
    cases event with
    | subgroupObject streamId object headerInfo => exact .of_same rfl rfl rfl
    | streamClosed streamId => cases entryDropped <;> exact .of_eq rfl rfl rfl
  | giveUp n fails =>
    obtain ⟨task, htask, rfl⟩ := giveUp_eq_some hstep
    refine .of_eq (by rw [giveUp_sub]) ?_ ?_
    · dsimp only [Delivery.giveUp]
      split
      · exact Delivery.modifyStream_length _ _ _
      · exact Delivery.modifyStream_length _ _ _
      · rfl
    · simp only [heading, htask, Option.bind_some, hcounts task htask]
      rfl
  | update update =>
    obtain ⟨hnone, rfl⟩ := update_eq_some hstep
    obtain ⟨-, -, -, -, hcount⟩ := Delivery.applyUpdate_fields f.delivery.sub update
    refine .of_eq hcount rfl ?_
    simp only [heading, hnone]
    split <;> rfl
  | proceedUpdate io =>
    obtain ⟨update, d, next, hupdating, hupdate, rfl⟩ := proceedUpdate_eq_some hstep
    have hlevel := hupdate.level fun streamId call hcall =>
      hcounts update hupdating call (by simp [UpdateTask.headerCall, hcall])
    unfold Delivery.Level at hlevel
    simp only [Level, heading, hupdating, Option.bind_some]
    omega
  | resolveLiveStart largest =>
    cases hstep
    obtain ⟨start, hsub⟩ := Delivery.resolveLiveStart_fields f.delivery.sub largest
    exact .of_eq (by rw [hsub]) rfl rfl
  | closeStream k =>
    obtain ⟨streamId, -, ⟨-, rfl⟩ | ⟨i, -, rfl⟩⟩ := closeStream_eq_some hstep
    · exact .of_same rfl rfl rfl
    · exact .of_eq rfl rfl rfl
  | finishStream k =>
    obtain ⟨i, -, rfl⟩ := finishStream_eq_some hstep
    exact .of_eq rfl (Delivery.modifyStream_length _ _ _) rfl

end Forwarding

namespace Reporting

variable {s s' : Reporting}

/-- No stream is on its way to be counted. -/
def Settled (s : Reporting) : Prop :=
  s.forwarding.heading = 0 ∧ ∀ fill ∈ s.fills, fill.hasStream = true → fill.ended = true

instance (s : Reporting) : Decidable s.Settled := inferInstanceAs (Decidable (_ ∧ _))

/-- The step is not a PUBLISH_DONE, or no stream is on its way to be counted. -/
def ReportsSettled (s : Reporting) (ending : List EndStep) : Prop :=
  ending.head? = some .sendPublishDone → s.Settled

instance (s : Reporting) (ending : List EndStep) : Decidable (s.ReportsSettled ending) :=
  inferInstanceAs (Decidable (_ → _))

/-- The action counts the streams it opens, and those only: a header is not handled while a
stream is kept under its id, nor does its write fail on a stream that was opened, nor is it given
up; a fill does not find another's stream, nor fail with one; and PUBLISH_DONE waits for the streams
that are opened and not counted yet. -/
def Counts (s : Reporting) : ReportingAction → Prop
  | .forward action => s.forwarding.HeaderCounts action
  | .proceedEnding k => ∀ ending ∈ s.endings[k]?, s.ReportsSettled ending
  | .proceedOwnEnding => s.ReportsSettled s.ownEnding
  | .openFillStream _ _ => s.fillKeyTaken = false
  | .endFill i ok => ok = true ∨ s.fills[i]? = some ⟨false, false⟩
  | _ => True

instance (s : Reporting) (action : ReportingAction) : Decidable (s.Counts action) := by
  unfold Counts
  split <;> infer_instance

/-- Counted are the subgroup streams, but for those that still are to be, and the streams of the
fills that are over. -/
structure Balanced (s : Reporting) : Prop where
  count : s.streamCount + s.forwarding.heading = s.forwarding.delivery.client.streams.length +
    s.fills.countP fun fill => fill.hasStream && fill.ended
  fillStreams : s.fillStreams = s.fills.countP fun fill => fill.hasStream
  exact : s.Exact

theorem Balanced.init (retainedGroups : Nat) (sub : Subscription)
    (hsub : sub.openedStreamCount = 0) : (init retainedGroups sub).Balanced where
  count := hsub
  fillStreams := rfl
  exact := nofun

/-- What leaves the fills and the reports alone and opens what it counts keeps the balance. -/
theorem Balanced.of_level (h : s.Balanced) (hlevel : s.forwarding.Level s'.forwarding)
    (hfills : s'.fills = s.fills) (hstreams : s'.fillStreams = s.fillStreams)
    (hreports : s'.reports = s.reports) : s'.Balanced := by
  refine ⟨?_, by rw [hstreams, hfills, h.fillStreams], ?_⟩
  · have hcount := h.count
    unfold Forwarding.Level at hlevel
    unfold streamCount at *
    rw [hfills]
    omega
  · unfold Exact
    rw [hreports]
    exact h.exact

theorem Balanced.finish (h : s.Balanced) : s.finish.Balanced := by
  unfold Reporting.finish
  split
  · exact h
  · exact h.of_level (.of_eq rfl rfl rfl) rfl rfl rfl

/-- With no stream on its way, the count is the number of streams. -/
theorem Balanced.streamCount_eq_opened (h : s.Balanced) (hsettled : s.Settled) :
    s.streamCount = s.opened := by
  obtain ⟨hheading, hfills⟩ := hsettled
  have hsame : s.fills.countP (fun fill => fill.hasStream && fill.ended) =
      s.fills.countP fun fill => fill.hasStream := by
    apply List.countP_congr
    intro fill hfill
    constructor
    · intro hboth
      exact (Bool.and_eq_true _ _ ▸ hboth).1
    · intro hstream
      rw [hstream, hfills fill hfill hstream]
      rfl
  have hcount := h.count
  rw [hheading, hsame, ← h.fillStreams] at hcount
  exact hcount

theorem Balanced.sendPublishDone (h : s.Balanced) (hsettled : s.Settled) :
    s.sendPublishDone.Balanced := by
  refine ⟨h.count, h.fillStreams, ?_⟩
  intro report hreport
  obtain hold | hnew := List.mem_append.mp hreport
  · exact h.exact report hold
  · rw [List.mem_singleton.mp hnew]
    exact h.streamCount_eq_opened hsettled

theorem resetStream_length (client : Client) (streamId : StreamId) :
    (client.resetStream streamId).streams.length = client.streams.length := by
  unfold Client.resetStream
  split
  · rfl
  · exact Delivery.modifyStream_length _ _ _

theorem Balanced.endStep (h : s.Balanced) {step : EndStep}
    (hsettled : step = .sendPublishDone → s.Settled) : (s.endStep step).1.Balanced := by
  cases step with
  | stopForwarding => exact h.of_level (.of_eq rfl rfl rfl) rfl rfl rfl
  | endDrain =>
    dsimp only [Reporting.endStep, Reporting.endDrain]
    split
    · exact h
    · exact h.of_level (.of_eq rfl rfl rfl) rfl rfl rfl
  | resetDataStreams => exact h.of_level (.of_eq rfl rfl rfl) rfl rfl rfl
  | resetStream streamId =>
    exact h.of_level (.of_eq rfl (resetStream_length _ streamId) rfl) rfl rfl rfl
  | sendPublishDone => exact h.sendPublishDone (hsettled rfl)
  | finish => exact h.finish

theorem Balanced.proceedEnding (h : s.Balanced) {k : Nat}
    (hcounts : ∀ ending ∈ s.endings[k]?, s.ReportsSettled ending)
    (hstep : s.proceedEnding k = some s') : s'.Balanced := by
  unfold Reporting.proceedEnding at hstep
  split at hstep
  · next step rest hget =>
    cases hstep
    have hend : (s.endStep step).1.Balanced := h.endStep fun heq =>
      hcounts (step :: rest) hget (by rw [heq]; rfl)
    exact hend.of_level (.of_eq rfl rfl rfl) rfl rfl rfl
  · cases hstep

theorem Balanced.proceedOwnEnding (h : s.Balanced) (hcounts : s.ReportsSettled s.ownEnding)
    (hstep : s.proceedOwnEnding = some s') : s'.Balanced := by
  unfold Reporting.proceedOwnEnding at hstep
  split at hstep
  · cases hstep
  · next step rest hown =>
    cases hstep
    have hend : (s.endStep step).1.Balanced := h.endStep fun heq =>
      hcounts (by rw [hown, heq]; rfl)
    exact hend.of_level (.of_eq rfl rfl rfl) rfl rfl rfl

theorem Balanced.handle (h : s.Balanced) {gate : Bool} (hstep : s.handle gate = some s') :
    s'.Balanced := by
  unfold Reporting.handle at hstep
  split at hstep
  · cases hstep
  · split at hstep
    · split at hstep
      · cases hstep
      · cases hstep
        exact h.of_level (.of_eq rfl rfl rfl) rfl rfl rfl
    · obtain ⟨f, hf, rfl⟩ := Option.map_eq_some_iff.mp hstep
      exact h.of_level (Forwarding.step_level hf trivial) rfl rfl rfl

theorem Balanced.endOwn (h : s.Balanced) {ending : List EndStep}
    (hstep : s.endOwn ending = some s') : s'.Balanced := by
  unfold Reporting.endOwn at hstep
  split at hstep
  · cases hstep
    exact h.of_level (.of_eq rfl rfl rfl) rfl rfl rfl
  · cases hstep

/-- One fill changes, and the counts follow. -/
theorem Balanced.setFill (h : s.Balanced) {i : Nat} {fill fill' : FillTask}
    (hfill : s.fills[i]? = some fill) (hfills : s'.fills = s.fills.set i fill')
    (hclient : s'.forwarding.delivery.client = s.forwarding.delivery.client)
    (hheading : s'.forwarding.heading = s.forwarding.heading)
    (hreports : s'.reports = s.reports)
    (hcount : s'.streamCount + (fill.hasStream && fill.ended).toNat =
      s.streamCount + (fill'.hasStream && fill'.ended).toNat)
    (hstreams : s'.fillStreams + fill.hasStream.toNat = s.fillStreams + fill'.hasStream.toNat) :
    s'.Balanced := by
  have hover := countP_set_add (fun fill : FillTask => fill.hasStream && fill.ended) hfill fill'
  have hopen := countP_set_add (fun fill : FillTask => fill.hasStream) hfill fill'
  have hold := h.count
  have holdStreams := h.fillStreams
  refine ⟨?_, ?_, ?_⟩
  · rw [hfills, hclient, hheading]
    omega
  · rw [hfills]
    omega
  · unfold Exact
    rw [hreports]
    exact h.exact

theorem Balanced.openFillStream {i : Nat} {io : Transport} (h : s.Balanced)
    (hkey : s.fillKeyTaken = false) (hstep : s.openFillStream i io = some s') : s'.Balanced := by
  unfold Reporting.openFillStream at hstep
  split at hstep
  · cases hstep
  next fill hfill =>
    split at hstep
    · cases hstep
    next hnew =>
      obtain ⟨hstream, hended⟩ : fill.hasStream = false ∧ fill.ended = false := by
        simpa using hnew
      obtain ⟨stream, ended⟩ := fill
      subst hstream hended
      rw [hkey] at hstep
      simp only [Bool.false_eq_true, if_false] at hstep
      split at hstep
      · cases hstep
        exact h.setFill hfill rfl rfl rfl rfl rfl rfl
      · cases hstep
        exact h.setFill hfill rfl rfl rfl rfl rfl rfl

theorem Balanced.endFill {i : Nat} {ok : Bool} (h : s.Balanced)
    (hcounts : s.Counts (.endFill i ok)) (hstep : s.endFill i ok = some s') : s'.Balanced := by
  unfold Reporting.endFill at hstep
  split at hstep
  · cases hstep
  next fill hfill =>
    split at hstep
    · cases hstep
    next hended =>
      obtain ⟨stream, ended⟩ := fill
      have hended : ended = false := by simpa using hended
      subst hended
      dsimp only at hstep
      cases stream with
      | false =>
        simp only [Bool.and_false, Bool.false_eq_true, if_false] at hstep
        cases hstep
        exact h.setFill hfill rfl rfl rfl rfl rfl rfl
      | true =>
        have hok : ok = true := by
          obtain hok | hnone := hcounts
          · exact hok
          · rw [hfill] at hnone
            cases hnone
        subst hok
        simp only [Bool.and_true, if_true] at hstep
        cases hstep
        exact h.setFill hfill rfl rfl rfl rfl rfl rfl

/-- A step of the forwarding path, of which only `handle` is more than that. -/
theorem forward_cases {action : Action} (hstep : s.step (.forward action) = some s') :
    (∃ gate, action = .handle gate ∧ s.handle gate = some s') ∨
      ∃ f, s.forwarding.step action = some f ∧ s' = { s with forwarding := f } := by
  have hmap : (∀ gate, action ≠ .handle gate) →
      (s.forwarding.step action).map (fun f => { s with forwarding := f }) = some s' := by
    intro hne
    cases action with
    | handle gate => exact absurd rfl (hne gate)
    | _ => exact hstep
  by_cases hhandle : ∃ gate, action = .handle gate
  · obtain ⟨gate, rfl⟩ := hhandle
    exact .inl ⟨gate, rfl, hstep⟩
  · obtain ⟨f, hf, rfl⟩ := Option.map_eq_some_iff.mp (hmap fun gate heq => hhandle ⟨gate, heq⟩)
    exact .inr ⟨f, hf, rfl⟩

theorem Balanced.step {action : ReportingAction} (h : s.Balanced)
    (hcounts : s.Counts action) (hstep : s.step action = some s') : s'.Balanced := by
  cases action with
  | forward action =>
    rcases forward_cases hstep with ⟨gate, rfl, hhandle⟩ | ⟨f, hf, rfl⟩
    · exact h.handle hhandle
    · exact h.of_level (Forwarding.step_level hf hcounts) rfl rfl rfl
  | beginSwitch filter largest =>
    cases hstep
    refine h.of_level (.of_eq ?_ rfl rfl) rfl rfl rfl
    cases filter with
    | none => rfl
    | some filter => rfl
  | suspendAt boundary publishDone =>
    cases hstep
    unfold suspendAt
    split
    · exact h
    · exact h.of_level (.of_eq rfl rfl rfl) rfl rfl rfl
  | cutSuspending publishDone =>
    cases hstep
    exact h.of_level (.of_eq rfl rfl rfl) rfl rfl rfl
  | failUpdate =>
    cases hstep
    exact h.of_level (.of_eq rfl rfl rfl) rfl rfl rfl
  | cancel =>
    cases hstep
    exact h.of_level (.of_eq rfl rfl rfl) rfl rfl rfl
  | proceedEnding k => exact h.proceedEnding hcounts hstep
  | publisherDisconnected => exact h.endOwn hstep
  | tooFarBehind => exact h.endOwn hstep
  | proceedOwnEnding => exact h.proceedOwnEnding hcounts hstep
  | giveUpOwnEnding =>
    cases hstep
    exact h.of_level (.of_eq rfl rfl rfl) rfl rfl rfl
  | openFill =>
    change s.openFill = some s' at hstep
    unfold openFill at hstep
    split at hstep
    · cases hstep
      refine ⟨?_, ?_, h.exact⟩
      · rw [List.countP_append]
        exact h.count
      · rw [List.countP_append]
        exact h.fillStreams
    · cases hstep
  | openFillStream i io => exact h.openFillStream hcounts hstep
  | endFill i ok => exact h.endFill hcounts hstep

end Reporting

end Moqtail
