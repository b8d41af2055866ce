import Moqtail.Relay.Forwarding

/-! What one step of each task on the forwarding path can do, branch by branch. -/
namespace Moqtail

open Lib

/-! The streams. -/

namespace SendStream

/-- What anything but the write of an object leaves of a stream. -/
structure Evolves (stream stream' : SendStream) : Prop where
  streamId : stream'.streamId = stream.streamId
  written : stream'.written = stream.written
  ends : stream.isOver = true → stream'.isOver = true

theorem writeAll_evolves (stream : SendStream) (bytes : Bytes) (outcome : WriteOutcome) :
    stream.Evolves (stream.writeAll bytes outcome) := by
  unfold writeAll
  cases hover : stream.isOver with
  | true => exact ⟨rfl, rfl, fun h => h⟩
  | false => cases outcome <;> exact ⟨rfl, rfl, fun h => by simp [hover] at h⟩

theorem writeHeader_evolves (stream : SendStream) (payload : Bytes) (outcome : WriteOutcome) :
    stream.Evolves (stream.writeHeader payload outcome) := by
  have h := stream.writeAll_evolves payload outcome
  exact ⟨h.streamId, h.written, h.ends⟩

theorem giveUp_evolves (stream : SendStream) (bytes : Bytes) (n : Nat) (fails : Bool) :
    stream.Evolves (stream.giveUp bytes n fails) := by
  unfold giveUp
  cases hover : stream.isOver with
  | true => exact ⟨rfl, rfl, fun h => h⟩
  | false => exact ⟨rfl, rfl, fun h => by simp [hover] at h⟩

theorem finished_evolves (stream : SendStream) :
    stream.Evolves { stream with finished := true } :=
  ⟨rfl, rfl, fun _ => by simp [isOver]⟩

theorem writeObject_streamId (stream : SendStream) (object : Object) (bytes : Bytes)
    (outcome : WriteOutcome) : (stream.writeObject object bytes outcome).streamId = stream.streamId :=
  (stream.writeAll_evolves bytes outcome).streamId

/-- A stream that is over is as it was. -/
theorem writeObject_of_isOver {stream : SendStream} (h : stream.isOver = true) (object : Object)
    (bytes : Bytes) (outcome : WriteOutcome) :
    stream.writeObject object bytes outcome = stream := by
  simp [writeObject, writeAll, accepts, h]

theorem giveUp_of_isOver {stream : SendStream} (h : stream.isOver = true) (bytes : Bytes) (n : Nat)
    (fails : Bool) : stream.giveUp bytes n fails = stream := by
  simp [giveUp, h]

end SendStream

namespace Client

variable {client : Client} {i j : Nat} {P Q : SendStream → Prop}

/-- Stream `i` is there, and `P` holds of it. -/
def Has (client : Client) (i : Nat) (P : SendStream → Prop) : Prop :=
  ∃ stream, client.streams[i]? = some stream ∧ P stream

theorem Has.lt (h : client.Has i P) : i < client.streams.length := by
  obtain ⟨stream, hget, -⟩ := h
  exact (List.getElem?_eq_some_iff.mp hget).1

theorem Has.mono (h : client.Has i P) (himp : ∀ stream, P stream → Q stream) : client.Has i Q := by
  obtain ⟨stream, hget, hstream⟩ := h
  exact ⟨stream, hget, himp stream hstream⟩

theorem Has.of_get (h : client.Has i P) {stream : SendStream}
    (hget : client.streams[i]? = some stream) : P stream := by
  obtain ⟨other, hother, hP⟩ := h
  rw [hget, Option.some.injEq] at hother
  exact hother ▸ hP

theorem Has.and (h : client.Has i P) (h' : client.Has i Q) :
    client.Has i fun stream => P stream ∧ Q stream := by
  obtain ⟨stream, hget, hstream⟩ := h
  exact ⟨stream, hget, hstream, h'.of_get hget⟩

theorem Has.modify {change : SendStream → SendStream} (h : client.Has j P)
    (hat : j = i → ∀ stream, P stream → Q (change stream))
    (hother : j ≠ i → ∀ stream, P stream → Q stream) : (client.modifyStream i change).Has j Q := by
  obtain ⟨stream, hget, hstream⟩ := h
  by_cases heq : i = j
  · refine ⟨change stream, ?_, hat heq.symm stream hstream⟩
    simp [modifyStream, hget, heq]
  · refine ⟨stream, ?_, hother (Ne.symm heq) stream hstream⟩
    simp [modifyStream, hget, heq]

/-- What holds of a stream whatever `change` does to it. -/
theorem Has.modify_of (h : client.Has j P) {change : SendStream → SendStream}
    (hchange : ∀ stream, P stream → P (change stream)) : (client.modifyStream i change).Has j P :=
  h.modify (fun _ => hchange) fun _ _ hstream => hstream

theorem Has.modify_ne (h : client.Has j P) (hne : j ≠ i) (change : SendStream → SendStream) :
    (client.modifyStream i change).Has j P :=
  h.modify (fun heq => absurd heq hne) fun _ _ hstream => hstream

theorem Has.take (h : client.Has i P) (streamId : StreamId) : (client.takeStream streamId).Has i P := h

theorem Has.add (h : client.Has i P) (streamId : StreamId) (header : SubgroupHeader) :
    (client.addStream streamId header).Has i P := by
  obtain ⟨stream, hget, hstream⟩ := h
  exact ⟨stream, List.getElem?_append_left (List.getElem?_eq_some_iff.mp hget).1 ▸ hget, hstream⟩

theorem has_added (client : Client) (streamId : StreamId) (header : SubgroupHeader) :
    (client.addStream streamId header).Has client.streams.length
      (· = ⟨streamId, header, false, [], [], false, false, false⟩) :=
  ⟨_, by simp [addStream], rfl⟩

/-- A stream of the changed list was there before, and may have been changed. -/
theorem get_modify {change : SendStream → SendStream} {stream : SendStream}
    (h : (client.modifyStream i change).streams[j]? = some stream) :
    ∃ before, client.streams[j]? = some before ∧
      stream = if i = j then change before else before := by
  simp only [modifyStream, List.getElem?_modify] at h
  obtain ⟨before, hbefore, heq⟩ := Option.map_eq_some_iff.mp h
  exact ⟨before, hbefore, by split at heq <;> simp_all⟩

theorem get_add {streamId : StreamId} {header : SubgroupHeader} {stream : SendStream}
    (h : (client.addStream streamId header).streams[i]? = some stream) :
    client.streams[i]? = some stream ∨ i = client.streams.length ∧
      stream = ⟨streamId, header, false, [], [], false, false, false⟩ := by
  simp only [addStream, List.getElem?_append] at h
  split at h
  · exact .inl h
  · next hlen =>
    obtain ⟨hlt, heq⟩ := List.getElem?_eq_some_iff.mp h
    simp only [List.length_singleton, Nat.lt_one_iff] at hlt
    refine .inr ⟨by omega, ?_⟩
    simpa [hlt] using heq.symm

end Client

/-! The tasks. -/

def EventTask.headerCall (task : EventTask) : Option HeaderCall :=
  match task.stage with
  | .header call => some call
  | _ => none

def UpdateTask.headerCall : UpdateTask → Option HeaderCall
  | .header _ call => some call
  | _ => none

/-- The stream whose header is being written. -/
def HeaderCall.heads (call : HeaderCall) : Option Nat :=
  match call.stage with
  | .writing i _ => some i
  | _ => none

def EventTask.heads (task : EventTask) : Option Nat :=
  match task.stage with
  | .header call => call.heads
  | _ => none

def UpdateTask.heads : UpdateTask → Option Nat
  | .header _ call => call.heads
  | _ => none

namespace Delivery

/-- A step of `handle_header`. -/
inductive HeaderStep (d : Delivery) (call : HeaderCall) (io : Transport) :
    Delivery → HeaderResult → Prop where
  | fails (stage : call.stage = .opening)
      (why : ∀ payload, call.header.serialize (some d.sub.trackAlias) = .ok payload →
        d.client.sendStreams (buildStreamId call.header) = none ∧ io.openFails = true) :
      HeaderStep d call io d .failed
  | finds {payload : Bytes} {i : Nat} (stage : call.stage = .opening)
      (bytes : call.header.serialize (some d.sub.trackAlias) = .ok payload)
      (key : d.client.sendStreams (buildStreamId call.header) = some i) :
      HeaderStep d call io d.countStream (.stream i)
  | adds {payload : Bytes} (stage : call.stage = .opening)
      (bytes : call.header.serialize (some d.sub.trackAlias) = .ok payload)
      (key : d.client.sendStreams (buildStreamId call.header) = none) :
      HeaderStep d call io
        { d with client := d.client.addStream (buildStreamId call.header) call.header }
        (.goesOn (.writing d.client.streams.length payload))
  | writes {i : Nat} {payload : Bytes} (stage : call.stage = .writing i payload)
      (accepts : d.client.accepts i io.write = true) :
      HeaderStep d call io
        { d with
          client := d.client.modifyStream i fun stream =>
            stream.writeHeader payload io.write }.countStream
        (.stream i)
  | refuses {i : Nat} {payload : Bytes} (stage : call.stage = .writing i payload)
      (accepts : d.client.accepts i io.write = false) :
      HeaderStep d call io
        { d with
          client := d.client.modifyStream i fun stream => stream.writeHeader payload io.write }
        (.goesOn .removing)
  | removes (stage : call.stage = .removing) :
      HeaderStep d call io { d with client := d.client.takeStream (buildStreamId call.header) }
        .failed

theorem headerStep (d : Delivery) (call : HeaderCall) (io : Transport) :
    HeaderStep d call io (d.handleHeader call io).1 (d.handleHeader call io).2 := by
  unfold handleHeader
  cases hstage : call.stage with
  | opening =>
    cases hbytes : call.header.serialize (some d.sub.trackAlias) with
    | error e => exact .fails hstage fun payload h => by rw [hbytes] at h; cases h
    | ok payload =>
      cases hkey : d.client.sendStreams (buildStreamId call.header) with
      | some i =>
        simp only [hkey]
        exact .finds hstage hbytes hkey
      | none =>
        simp only [hkey]
        split
        · next hopen => exact .fails hstage fun _ _ => ⟨hkey, hopen⟩
        · exact .adds hstage hbytes hkey
  | writing i payload =>
    dsimp only
    split
    · next haccepts => exact .writes hstage haccepts
    · next haccepts => exact .refuses hstage (Bool.eq_false_iff.mpr haccepts)
  | removing => exact .removes hstage

/-- A step of `handle_track_event` with an object that is admitted. -/
inductive ObjectStep (d : Delivery) (active : StreamId → Option SubgroupHeader) (task : EventTask)
    (io : Transport) : Delivery → Option EventStage → Prop where
  | clearsOwn {header : SubgroupHeader} (stage : task.stage = .clearing)
      (own : task.headerInfo = some header) :
      ObjectStep d active task io d.clearPending (some (.header ⟨header, .opening⟩))
  | clearsOpen {i : Nat} (stage : task.stage = .clearing) (own : task.headerInfo = none)
      (key : d.client.sendStreams task.streamId = some i) :
      ObjectStep d active task io d.clearPending (some (.coding i))
  | clears (stage : task.stage = .clearing) (own : task.headerInfo = none)
      (key : d.client.sendStreams task.streamId = none) :
      ObjectStep d active task io d.clearPending (some .joining)
  | finds {header : SubgroupHeader} (stage : task.stage = .joining)
      (held : (d.sub.skippedStreamHeaders task.streamId).or (active task.streamId) = some header) :
      ObjectStep d active task io (d.dropSkipped task.streamId)
        (some (.header ⟨header.forMidSubgroupStream, .opening⟩))
  | findsNone (stage : task.stage = .joining)
      (held : (d.sub.skippedStreamHeaders task.streamId).or (active task.streamId) = none) :
      ObjectStep d active task io (d.dropSkipped task.streamId) none
  | opens {call : HeaderCall} {d' : Delivery} {next : HeaderStage} (stage : task.stage = .header call)
      (handles : HeaderStep d call io d' (.goesOn next)) :
      ObjectStep d active task io d' (some (.header ⟨call.header, next⟩))
  | opensNone {call : HeaderCall} {d' : Delivery} (stage : task.stage = .header call)
      (handles : HeaderStep d call io d' .failed) : ObjectStep d active task io d' none
  | opened {call : HeaderCall} {d' : Delivery} {i : Nat} (stage : task.stage = .header call)
      (handles : HeaderStep d call io d' (.stream i)) :
      ObjectStep d active task io d' (some (.coding i))
  | codes {i : Nat} {bytes : Bytes} (stage : task.stage = .coding i)
      (coded : task.object.coded
        ((d.resetOwn task.headerInfo).sub.sendStreamLastObjectIds task.streamId).join = some bytes) :
      ObjectStep d active task io (d.resetOwn task.headerInfo) (some (.writing i bytes))
  | codesNone {i : Nat} (stage : task.stage = .coding i)
      (coded : task.object.coded
        ((d.resetOwn task.headerInfo).sub.sendStreamLastObjectIds task.streamId).join = none) :
      ObjectStep d active task io (d.resetOwn task.headerInfo) none
  | writes {i : Nat} {bytes : Bytes} (stage : task.stage = .writing i bytes)
      (outcome : io.write.isStopped = false) :
      ObjectStep d active task io
        { d with client := d.client.writeStreamObject i task.object bytes io.write }
        (some (.storing i))
  | stopped {i : Nat} {bytes : Bytes} (stage : task.stage = .writing i bytes)
      (outcome : io.write.isStopped = true) :
      ObjectStep d active task io
        { d with client := d.client.writeStreamObject i task.object bytes io.write }
        (some (.releasing i))
  | releases {i : Nat} (stage : task.stage = .releasing i) :
      ObjectStep d active task io { d with client := d.client.takeStream task.streamId }
        (some (.storing i))
  | stores {i : Nat} (stage : task.stage = .storing i) :
      ObjectStep d active task io
        { d with sub := d.sub.setLastObjectId task.streamId (some task.object.location.object) } none

theorem objectStep (d : Delivery) (active : StreamId → Option SubgroupHeader) (task : EventTask)
    (io : Transport) :
    ObjectStep d active task io (d.handleObject active task io).1
      (d.handleObject active task io).2 := by
  unfold handleObject
  cases hstage : task.stage with
  | clearing =>
    cases hown : task.headerInfo with
    | some header => exact .clearsOwn hstage hown
    | none =>
      cases hkey : d.client.sendStreams task.streamId with
      | some i => exact .clearsOpen hstage hown hkey
      | none => exact .clears hstage hown hkey
  | joining =>
    dsimp only
    split
    · next hheld => exact .findsNone hstage hheld
    · next header hheld => exact .finds hstage hheld
  | header call =>
    have hstep := d.headerStep call io
    dsimp only
    split
    · next d' next heq =>
      rw [heq] at hstep
      exact .opens hstage hstep
    · next d' heq =>
      rw [heq] at hstep
      exact .opensNone hstage hstep
    · next d' i heq =>
      rw [heq] at hstep
      exact .opened hstage hstep
  | coding i =>
    dsimp only
    split
    · next hcoded => exact .codesNone hstage hcoded
    · next bytes hcoded => exact .codes hstage hcoded
  | writing i bytes =>
    dsimp only
    split
    · next houtcome => exact .stopped hstage houtcome
    · next houtcome => exact .writes hstage (Bool.eq_false_iff.mpr houtcome)
  | releasing i => exact .releases hstage
  | storing i => exact .stores hstage

/-- A step of `update_subscription` past its first. -/
inductive UpdateStep (d : Delivery) (io : Transport) :
    UpdateTask → Delivery → Option UpdateTask → Prop where
  | takes {streamId : StreamId} {header : SubgroupHeader}
      (pending : d.sub.pendingHeader = some (streamId, header)) :
      UpdateStep d io .taking d.clearPending
        (some (.header streamId ⟨header.forMidSubgroupStream, .opening⟩))
  | takesNone (pending : d.sub.pendingHeader = none) :
      UpdateStep d io .taking d.clearPending none
  | opens {streamId : StreamId} {call : HeaderCall} {d' : Delivery} {next : HeaderStage}
      (handles : HeaderStep d call io d' (.goesOn next)) :
      UpdateStep d io (.header streamId call) d' (some (.header streamId ⟨call.header, next⟩))
  | opensNone {streamId : StreamId} {call : HeaderCall} {d' : Delivery}
      (handles : HeaderStep d call io d' .failed) :
      UpdateStep d io (.header streamId call) d' none
  | opened {streamId : StreamId} {call : HeaderCall} {d' : Delivery} {i : Nat}
      (handles : HeaderStep d call io d' (.stream i)) :
      UpdateStep d io (.header streamId call) d' (some (.resetting streamId i))
  | resets {streamId : StreamId} {i : Nat} :
      UpdateStep d io (.resetting streamId i) (d.resetLastObjectId streamId) none

theorem updateStep (d : Delivery) (task : UpdateTask) (io : Transport) :
    UpdateStep d io task (d.openPending task io).1 (d.openPending task io).2 := by
  unfold openPending
  cases task with
  | taking =>
    dsimp only
    split
    · next hpending => exact .takesNone hpending
    · next streamId header hpending => exact .takes hpending
  | header streamId call =>
    have hstep := d.headerStep call io
    dsimp only
    split
    · next d' next heq =>
      rw [heq] at hstep
      exact .opens hstep
    · next d' heq =>
      rw [heq] at hstep
      exact .opensNone hstep
    · next d' i heq =>
      rw [heq] at hstep
      exact .opened hstep
  | resetting streamId i => exact .resets

theorem applyUpdate_fields (sub : Subscription) (update : Update) :
    (applyUpdate sub update).trackAlias = sub.trackAlias ∧
      (applyUpdate sub update).sendStreamLastObjectIds = sub.sendStreamLastObjectIds ∧
      (applyUpdate sub update).pendingHeader = sub.pendingHeader ∧
      (applyUpdate sub update).skippedStreamHeaders = sub.skippedStreamHeaders ∧
      (applyUpdate sub update).openedStreamCount = sub.openedStreamCount := by
  unfold applyUpdate
  cases update.locationFilter <;> exact ⟨rfl, rfl, rfl, rfl, rfl⟩

theorem resolveLiveStart_fields (sub : Subscription) (largest : Option Location) :
    ∃ start, sub.resolveLiveStart largest = { sub with startLocation := start } := by
  unfold Subscription.resolveLiveStart
  cases sub.locationFilter.liveStartLocation largest with
  | none => exact ⟨_, rfl⟩
  | some start => exact ⟨_, rfl⟩

end Delivery

/-- A skipped object leaves its header in one of two places, if it is kept. -/
theorem Subscription.skip_cases (sub : Subscription) (streamId : StreamId)
    (headerInfo : Option SubgroupHeader) (verdict : Verdict) :
    sub.skip streamId headerInfo verdict = sub ∨
      ∃ header, headerInfo = some header ∧
        ((verdict = .beforeStart ∨ verdict = .filteredOut) ∧
          sub.skip streamId headerInfo verdict = { sub with
            skippedStreamHeaders :=
              Function.update sub.skippedStreamHeaders streamId (some header) } ∨
        verdict = .notForwarding ∧
          sub.skip streamId headerInfo verdict =
            { sub with pendingHeader := some (streamId, header) }) := by
  cases headerInfo with
  | none => cases verdict <;> exact .inl rfl
  | some header =>
    cases verdict with
    | gated => exact .inl rfl
    | beforeStart => exact .inr ⟨header, rfl, .inl ⟨.inl rfl, rfl⟩⟩
    | pastEnd => exact .inl rfl
    | notForwarding => exact .inr ⟨header, rfl, .inr ⟨rfl, rfl⟩⟩
    | filteredOut => exact .inr ⟨header, rfl, .inl ⟨.inr rfl, rfl⟩⟩
    | admitted => exact .inl rfl

namespace Forwarding

variable {f f' : Forwarding} {u : Nat}

/-- What the publishers' side leaves as it is: the subscription with its tasks. -/
structure SameSubscription (f f' : Forwarding) : Prop where
  delivery : f'.delivery = f.delivery
  task : f'.task = f.task
  updating : f'.updating = f.updating
  closing : f'.closing = f.closing
  finishing : f'.finishing = f.finishing
  history : f'.history = f.history

theorem SameSubscription.sendEvent (h : f.SameSubscription f') (event : TrackEvent) :
    f.SameSubscription (f'.sendEvent event) := by
  unfold Forwarding.sendEvent
  split
  · exact ⟨h.delivery, h.task, h.updating, h.closing, h.finishing, h.history⟩
  · exact h

theorem sendEvent_fields (f : Forwarding) (event : TrackEvent) :
    (f.sendEvent event).upstream = f.upstream ∧ (f.sendEvent event).track = f.track ∧
      ∀ other ∈ (f.sendEvent event).queue, other ∈ f.queue ∨ other = event := by
  unfold sendEvent
  split
  · exact ⟨rfl, rfl, fun other hmem => by simpa using hmem⟩
  · exact ⟨rfl, rfl, fun other hmem => .inl hmem⟩

theorem openUpstream_eq_some {bytes : Bytes} (hstep : f.openUpstream bytes = some f') :
    ∃ header rest, SubgroupHeader.deserialize bytes = .ok (header, rest) ∧
      f' = { f with upstream := f.upstream ++ [⟨header, none, none, .reading⟩] } := by
  unfold openUpstream at hstep
  split at hstep
  · cases hstep
  · next header rest hdec => exact ⟨header, rest, hdec, (Option.some.inj hstep).symm⟩

/-- What reading an object off upstream stream `u` does. -/
theorem receive_eq_some {bytes : Bytes} (hstep : f.receive u bytes = some f') :
    ∃ stream header object, f.upstream[u]? = some stream ∧ stream.stage = .reading ∧
      stream.readObject bytes = .ok (header, object) ∧
      f' = { f with
        upstream := f.upstream.set u
          { header := header
            previousObjectId := some object.location.object
            streamId := some (stream.streamId.getD (buildStreamId header))
            stage := (f.track.newSubgroupObject (stream.streamId.getD (buildStreamId header)) object
              (if stream.streamId.isNone then some header else none)).2 }
        track := (f.track.newSubgroupObject (stream.streamId.getD (buildStreamId header)) object
          (if stream.streamId.isNone then some header else none)).1 } := by
  unfold receive at hstep
  split at hstep
  · cases hstep
  · next stream hget =>
    split at hstep
    · next hstage =>
      split at hstep
      · cases hstep
      · next header object hread =>
        exact ⟨stream, header, object, hget, hstage, hread, (Option.some.inj hstep).symm⟩
    · cases hstep

/-- What the end of upstream stream `u` does. -/
theorem closeUpstream_eq_some (hstep : f.closeUpstream u = some f') :
    ∃ stream, f.upstream[u]? = some stream ∧ stream.stage = .reading ∧
      ((stream.streamId = none ∧
        f' = { f with upstream := f.upstream.set u { stream with stage := .over } }) ∨
      ∃ streamId, stream.streamId = some streamId ∧
        f' = { f with
          upstream := f.upstream.set u { stream with stage := .sending (.streamClosed streamId) }
          track := { f.track with
            activeSubgroupHeaders :=
              Function.update f.track.activeSubgroupHeaders streamId none } }) := by
  unfold closeUpstream at hstep
  split at hstep
  · cases hstep
  · next stream hget =>
    split at hstep
    · next hstage =>
      refine ⟨stream, hget, hstage, ?_⟩
      split at hstep
      · next hid => exact .inl ⟨hid, (Option.some.inj hstep).symm⟩
      · next streamId hid => exact .inr ⟨streamId, hid, (Option.some.inj hstep).symm⟩
    · cases hstep

/-- Where the reader goes on once it has sent an event. -/
def afterSending : TrackEvent → UpstreamStage
  | .subgroupObject _ _ _ => .reading
  | .streamClosed _ => .over

/-- A later step of the reader: the track keeps a header, or an event is sent. -/
theorem proceedUpstream_eq_some (hstep : f.proceedUpstream u = some f') :
    ∃ stream, f.upstream[u]? = some stream ∧
      ((∃ streamId object header, stream.stage = .keeping streamId object header ∧
        f' = { f with
          upstream := f.upstream.set u
            { stream with stage := .sending (.subgroupObject streamId object (some header)) }
          track := f.track.keepHeader streamId header }) ∨
      ∃ event, stream.stage = .sending event ∧
        f' = sendEvent { f with
          upstream := f.upstream.set u { stream with stage := afterSending event } } event) := by
  unfold proceedUpstream at hstep
  split at hstep
  · cases hstep
  · next stream hget =>
    refine ⟨stream, hget, ?_⟩
    split at hstep
    · next hstage => exact .inl ⟨_, _, _, hstage, (Option.some.inj hstep).symm⟩
    · next hstage => exact .inr ⟨_, hstage, (Option.some.inj hstep).symm⟩
    · next hstage => exact .inr ⟨_, hstage, (Option.some.inj hstep).symm⟩
    · cases hstep

theorem subscribe_eq_some (hstep : f.subscribe = some f') : f' = { f with subscribed := true } := by
  unfold subscribe at hstep
  split at hstep
  · cases hstep
  · exact (Option.some.inj hstep).symm

theorem openUpstream_same {bytes : Bytes} (hstep : f.openUpstream bytes = some f') :
    f.SameSubscription f' := by
  obtain ⟨header, rest, -, rfl⟩ := openUpstream_eq_some hstep
  exact ⟨rfl, rfl, rfl, rfl, rfl, rfl⟩

theorem receive_same {bytes : Bytes} (hstep : f.receive u bytes = some f') :
    f.SameSubscription f' := by
  obtain ⟨stream, header, object, -, -, -, rfl⟩ := receive_eq_some hstep
  exact ⟨rfl, rfl, rfl, rfl, rfl, rfl⟩

theorem closeUpstream_same (hstep : f.closeUpstream u = some f') : f.SameSubscription f' := by
  obtain ⟨stream, -, -, ⟨-, rfl⟩ | ⟨streamId, -, rfl⟩⟩ := closeUpstream_eq_some hstep
  · exact ⟨rfl, rfl, rfl, rfl, rfl, rfl⟩
  · exact ⟨rfl, rfl, rfl, rfl, rfl, rfl⟩

theorem proceedUpstream_same (hstep : f.proceedUpstream u = some f') : f.SameSubscription f' := by
  obtain ⟨stream, -, ⟨streamId, object, header, -, rfl⟩ | ⟨event, -, rfl⟩⟩ :=
    proceedUpstream_eq_some hstep
  · exact ⟨rfl, rfl, rfl, rfl, rfl, rfl⟩
  · refine SameSubscription.sendEvent ?_ event
    exact ⟨rfl, rfl, rfl, rfl, rfl, rfl⟩

theorem subscribe_same (hstep : f.subscribe = some f') : f.SameSubscription f' := by
  cases subscribe_eq_some hstep
  exact ⟨rfl, rfl, rfl, rfl, rfl, rfl⟩

/-- An event is taken when no other is in hand. -/
theorem handle_eq_some {f f' : Forwarding} {gate : Bool} (hstep : f.step (.handle gate) = some f') :
    ∃ event queue, f.task = none ∧ f.queue = event :: queue ∧
      f' = { f with queue := queue }.handleEvent event gate := by
  simp only [step] at hstep
  split at hstep
  · next event queue htask hqueue => exact ⟨event, queue, htask, hqueue, (Option.some.inj hstep).symm⟩
  · cases hstep

theorem giveUpEvent_eq_some {f f' : Forwarding} {entryDropped : Bool}
    (hstep : f.step (.giveUpEvent entryDropped) = some f') :
    ∃ event queue, f.task = none ∧ f.queue = event :: queue ∧
      f' = { f with queue := queue }.giveUpEvent event entryDropped := by
  simp only [step] at hstep
  split at hstep
  · next event queue htask hqueue => exact ⟨event, queue, htask, hqueue, (Option.some.inj hstep).symm⟩
  · cases hstep

/-- A step with the object in hand. -/
theorem proceed_eq_some {f f' : Forwarding} {io : Transport} (hstep : f.step (.proceed io) = some f') :
    ∃ task d next, f.task = some task ∧
      f.delivery.ObjectStep f.track.activeSubgroupHeaders task io d next ∧
      f' = { f with
        delivery := d
        task := next.map fun stage => { task with stage := stage }
        history := f.historyAfter task next } := by
  obtain ⟨task, htask, hf⟩ := Option.map_eq_some_iff.mp hstep
  exact ⟨task, _, _, htask, f.delivery.objectStep _ task io, hf.symm⟩

theorem proceedUpdate_eq_some {f f' : Forwarding} {io : Transport}
    (hstep : f.step (.proceedUpdate io) = some f') :
    ∃ task d next, f.updating = some task ∧ f.delivery.UpdateStep io task d next ∧
      f' = { f with
        delivery := d
        updating := next
        history := f.historyAfterUpdate task next } := by
  obtain ⟨task, htask, hf⟩ := Option.map_eq_some_iff.mp hstep
  exact ⟨task, _, _, htask, f.delivery.updateStep task io, hf.symm⟩

theorem update_eq_some {f f' : Forwarding} {update : Update}
    (hstep : f.step (.update update) = some f') :
    f.updating = none ∧ f' = { f with
      delivery := { f.delivery with sub := Delivery.applyUpdate f.delivery.sub update }
      updating :=
        if update.forward = some true && !f.delivery.sub.forward then some .taking else none } := by
  simp only [step] at hstep
  split at hstep
  · cases hstep
  · next hnone => exact ⟨hnone, (Option.some.inj hstep).symm⟩

theorem closeStream_eq_some {f f' : Forwarding} {k : Nat} (hstep : f.step (.closeStream k) = some f') :
    ∃ streamId, f.closing[k]? = some streamId ∧
      (f.delivery.client.sendStreams streamId = none ∧
          f' = { f with closing := f.closing.eraseIdx k } ∨
        ∃ i, f.delivery.client.sendStreams streamId = some i ∧
          f' = { f with
            closing := f.closing.eraseIdx k
            delivery := { f.delivery with client := f.delivery.client.takeStream streamId }
            finishing := f.finishing ++ [i]
            history := f.history.lose streamId }) := by
  simp only [step] at hstep
  split at hstep
  · cases hstep
  · next streamId hget =>
    refine ⟨streamId, hget, ?_⟩
    cases hkey : f.delivery.client.sendStreams streamId with
    | none => exact .inl ⟨rfl, by simpa [closeStream, hkey] using hstep.symm⟩
    | some i => exact .inr ⟨i, rfl, by simpa [closeStream, hkey] using hstep.symm⟩

theorem finishStream_eq_some {f f' : Forwarding} {k : Nat}
    (hstep : f.step (.finishStream k) = some f') :
    ∃ i, f.finishing[k]? = some i ∧
      f' = { f with
        finishing := f.finishing.eraseIdx k
        delivery := { f.delivery with
          client := f.delivery.client.modifyStream i fun stream =>
            { stream with finished := true } } } := by
  simp only [step] at hstep
  split at hstep
  · cases hstep
  · next i hget => exact ⟨i, hget, (Option.some.inj hstep).symm⟩

theorem giveUp_eq_some {f f' : Forwarding} {n : Nat} {fails : Bool}
    (hstep : f.step (.giveUp n fails) = some f') :
    ∃ task, f.task = some task ∧
      f' = { f with
        delivery := f.delivery.giveUp task n fails
        task := none
        history := f.history.lose task.streamId } := by
  obtain ⟨task, htask, hf⟩ := Option.map_eq_some_iff.mp hstep
  exact ⟨task, htask, hf.symm⟩

/-- An object is read off upstream stream `u`, and `n` steps more are made with it: none for a
duplicate, and two for one with the stream's header. -/
def received (u : Nat) (bytes : Bytes) (n : Nat) : List Action :=
  .receive u bytes :: List.replicate n (.proceedUpstream u)

def ended (u : Nat) : List Action := [.closeUpstream u, .proceedUpstream u]

/-- The next event is taken, and `n` steps are made with its object over a transport that opens and
writes. -/
def handled (n : Nat) : List Action := .handle true :: List.replicate n (.proceed .fine)

end Forwarding

end Moqtail
