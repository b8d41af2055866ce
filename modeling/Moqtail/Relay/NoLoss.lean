import Moqtail.Relay.Sources

/-! No admitted object is lost.

A stream's header comes once, with its first object, and an object without a header can only
be sent while a stream is open under its id or a header for one is at hand. A header that the
subscription was shown stays at hand until some task takes it away, which is recorded as a loss.
`Served` names the steps with an object in hand that cost it its stream. -/
namespace Moqtail

open Lib

/-! The connection while the transport does not fail. -/

namespace SendStream

/-- A stream of `streamId` that takes writes. -/
def LiveFor (streamId : StreamId) (stream : SendStream) : Prop :=
  stream.streamId = streamId ∧ stream.isOver = false

theorem writeAll_ok_isOver (stream : SendStream) (bytes : Bytes) :
    (stream.writeAll bytes .ok).isOver = stream.isOver := by
  unfold writeAll
  split <;> rfl

theorem LiveFor.writeHeader {streamId : StreamId} {stream : SendStream} (h : stream.LiveFor streamId)
    (payload : Bytes) : (stream.writeHeader payload .ok).LiveFor streamId :=
  ⟨(stream.writeHeader_evolves payload .ok).streamId.trans h.1,
    (stream.writeAll_ok_isOver payload).trans h.2⟩

theorem LiveFor.writeObject {streamId : StreamId} {stream : SendStream} (h : stream.LiveFor streamId)
    (object : Object) (bytes : Bytes) : (stream.writeObject object bytes .ok).LiveFor streamId :=
  ⟨(stream.writeObject_streamId object bytes .ok).trans h.1,
    (stream.writeAll_ok_isOver bytes).trans h.2⟩

theorem LiveFor.accepts {streamId : StreamId} {stream : SendStream} (h : stream.LiveFor streamId) :
    stream.accepts .ok = true := by
  simp [SendStream.accepts, h.2]

theorem mem_writeObject {stream : SendStream} {object : Object} (h : object ∈ stream.written)
    (other : Object) (bytes : Bytes) (outcome : WriteOutcome) :
    object ∈ (stream.writeObject other bytes outcome).written := by
  simp only [writeObject]
  split
  · exact List.mem_append_left _ h
  · exact h

end SendStream

namespace Client

variable {client client' client'' : Client}

/-- The object was written on some stream. -/
def Carries (client : Client) (object : Object) : Prop :=
  ∃ stream ∈ client.streams, object ∈ stream.written

theorem carries_iff {object : Object} :
    client.Carries object ↔ ∃ i, client.Has i fun stream => object ∈ stream.written := by
  constructor
  · rintro ⟨stream, hmem, hwritten⟩
    obtain ⟨i, hi⟩ := List.mem_iff_getElem?.mp hmem
    exact ⟨i, stream, hi, hwritten⟩
  · rintro ⟨i, stream, hget, hwritten⟩
    exact ⟨stream, List.mem_of_getElem? hget, hwritten⟩

/-- Every stream that can be found by its key is of that id and takes writes. -/
def Live (client : Client) : Prop :=
  ∀ streamId i, client.sendStreams streamId = some i → client.Has i (SendStream.LiveFor streamId)

/-- A step that costs no stream its place and no object its stream. -/
structure Keeps (client client' : Client) : Prop where
  carries : ∀ object, client.Carries object → client'.Carries object
  has : ∀ streamId i, client.Has i (SendStream.LiveFor streamId) →
    client'.Has i (SendStream.LiveFor streamId)
  ids : ∀ streamId i, client.Has i (fun stream => stream.streamId = streamId) →
    client'.Has i fun stream => stream.streamId = streamId
  keys : ∀ streamId i, client'.sendStreams streamId = some i →
    client.sendStreams streamId = some i ∨
      (client.streams.length = i ∧ client'.Has i (SendStream.LiveFor streamId))

theorem Keeps.live (h : client.Keeps client') (hlive : client.Live) : client'.Live := by
  intro streamId i hkey
  rcases h.keys streamId i hkey with hbefore | ⟨-, hnew⟩
  · exact h.has streamId i (hlive streamId i hbefore)
  · exact hnew

/-- A stream that no key leads to stays so. -/
theorem Keeps.unreachable (h : client.Keeps client') {i : Nat}
    (hi : i < client.streams.length ∧ ∀ streamId, client.sendStreams streamId ≠ some i) :
    i < client'.streams.length ∧ ∀ streamId, client'.sendStreams streamId ≠ some i := by
  obtain ⟨hlt, hkeys⟩ := hi
  refine ⟨(h.ids _ i ⟨_, List.getElem?_eq_getElem hlt, rfl⟩).lt, fun streamId hkey => ?_⟩
  rcases h.keys streamId i hkey with hbefore | ⟨heq, -⟩
  · exact hkeys streamId hbefore
  · omega

theorem Keeps.refl (client : Client) : client.Keeps client :=
  ⟨fun _ h => h, fun _ _ h => h, fun _ _ h => h, fun _ _ h => .inl h⟩

theorem Keeps.take (h : client.Keeps client') (streamId : StreamId) :
    client.Keeps (client'.takeStream streamId) where
  carries := h.carries
  has := h.has
  ids := h.ids
  keys := by
    intro other i hkey
    by_cases heq : other = streamId
    · subst heq
      simp [takeStream] at hkey
    · simp only [takeStream, Function.update_of_ne heq] at hkey
      exact h.keys other i hkey

theorem keeps_add (client : Client) {streamId : StreamId} (header : SubgroupHeader) :
    client.Keeps (client.addStream streamId header) where
  carries := fun _ hcarries =>
    have ⟨i, hi⟩ := carries_iff.mp hcarries
    carries_iff.mpr ⟨i, hi.add streamId header⟩
  has := fun _ _ h => h.add streamId header
  ids := fun _ _ h => h.add streamId header
  keys := by
    intro other i hkey
    by_cases heq : other = streamId
    · subst heq
      simp only [addStream, Function.update_self, Option.some.injEq] at hkey
      subst hkey
      refine .inr ⟨rfl, (client.has_added other header).mono fun stream hstream => ?_⟩
      rw [hstream]
      exact ⟨rfl, rfl⟩
    · simp only [addStream, Function.update_of_ne heq] at hkey
      exact .inl hkey

theorem keeps_modify (client : Client) (i : Nat) {change : SendStream → SendStream}
    (hwritten : ∀ stream object, object ∈ stream.written → object ∈ (change stream).written)
    (hid : ∀ stream : SendStream, (change stream).streamId = stream.streamId)
    (hlive : ∀ stream streamId, stream.LiveFor streamId → (change stream).LiveFor streamId) :
    client.Keeps (client.modifyStream i change) where
  carries := fun object hcarries =>
    have ⟨j, hj⟩ := carries_iff.mp hcarries
    carries_iff.mpr ⟨j, hj.modify_of fun stream => hwritten stream object⟩
  has := fun streamId _ h => h.modify_of fun stream => hlive stream streamId
  ids := fun _ _ h => h.modify_of fun stream hstream => (hid stream).trans hstream
  keys := fun _ _ h => .inl h

theorem keeps_writeHeader (client : Client) (i : Nat) (payload : Bytes) :
    client.Keeps (client.modifyStream i fun stream => stream.writeHeader payload .ok) :=
  client.keeps_modify i
    (fun stream _ h => (stream.writeHeader_evolves payload .ok).written ▸ h)
    (fun stream => (stream.writeHeader_evolves payload .ok).streamId)
    fun _ _ h => h.writeHeader payload

theorem keeps_writeObject (client : Client) (i : Nat) (object : Object) (bytes : Bytes) :
    client.Keeps (client.writeStreamObject i object bytes .ok) :=
  client.keeps_modify i (fun _ _ h => SendStream.mem_writeObject h object bytes .ok)
    (fun stream => stream.writeObject_streamId object bytes .ok)
    fun _ _ h => h.writeObject object bytes

end Client

theorem ViewOf.exists_tryIntoSubgroup {streamId : StreamId} {object : Object} {o : SubgroupObject}
    {hasProperties : Bool} (h : ViewOf streamId object o hasProperties)
    (hbody : ¬ (object.payload = none ∧ object.status = .normal)) :
    object.tryIntoSubgroup = .ok o := by
  have hlen : ¬ o.IsZeroLengthNormal := by
    rintro ⟨hpayload, hstatus⟩
    exact hbody ⟨by rw [h.payload, hpayload], by rw [h.status, hstatus]; rfl⟩
  obtain ⟨id, hid⟩ := Option.isSome_iff_exists.mp h.resolved
  have hconv := SubgroupObject.tryIntoSubgroup_tryFromSubgroup h.readable hlen object.trackAlias
    streamId.groupId id (some object.publisherPriority) object.publisherPriority
  simp only [Object.tryFromSubgroup, except_ok_bind, Option.getD_some] at hconv
  rw [← hconv]
  congr 1
  obtain ⟨trackAlias, location, priority, preference, subgroupId, status, properties, payload⟩ :=
    object
  simp only [Object.mk.injEq, true_and]
  exact ⟨h.location, h.preference, h.subgroupId.trans hid, h.status, h.properties, h.payload⟩

/-- An object that is not a zero-length Normal one can be coded. -/
theorem ViewOf.coded {streamId : StreamId} {object : Object} {o : SubgroupObject}
    {hasProperties : Bool} (h : ViewOf streamId object o hasProperties)
    (hbody : ¬ (object.payload = none ∧ object.status = .normal)) (previous : Option UInt64) :
    object.coded previous ≠ none := by
  have hsome : o.properties.isSome = hasProperties := by
    rw [← h.properties, h.properties_isSome]
  obtain ⟨bytes, hbytes, -⟩ := SubgroupObject.deserialize_serialize o hasProperties h.readable
    previous
  rw [← hsome] at hbytes
  simp [Object.coded, h.exists_tryIntoSubgroup hbody, hbytes, Except.toOption]

namespace Delivery

variable {d d' : Delivery} {call : HeaderCall} {task : EventTask} {update : UpdateTask}
  {active : StreamId → Option SubgroupHeader}

theorem HeaderStep.keeps {result : HeaderResult} (hstep : HeaderStep d call .fine d' result) :
    d.client.Keeps d'.client := by
  cases hstep with
  | fails stage why => exact .refl _
  | finds stage bytes key => exact .refl _
  | adds stage bytes key => exact d.client.keeps_add call.header
  | writes stage accepts => exact d.client.keeps_writeHeader _ _
  | refuses stage accepts => exact d.client.keeps_writeHeader _ _
  | removes stage => exact (Client.Keeps.refl _).take _

/-- A header call ends with a stream that takes writes, unless its stream has been finished
meanwhile. -/
theorem HeaderStep.serves {streamId : StreamId} {result : HeaderResult}
    (hstep : HeaderStep d call .fine d' result) (hlive : d.client.Live)
    (hfor : HeaderFor streamId call.header) (hgoes : call.stage ≠ .removing)
    (hheads : ∀ i payload, call.stage = .writing i payload →
      d.client.Has i (SendStream.LiveFor streamId)) :
    result ≠ .failed ∧ result ≠ .goesOn .removing ∧
      (∀ i payload, result = .goesOn (.writing i payload) →
        d'.client.Has i (SendStream.LiveFor streamId)) ∧
      ∀ i, result = .stream i → d'.client.Has i (SendStream.LiveFor streamId) := by
  have hkeeps := hstep.keeps
  cases hstep with
  | fails stage why =>
    obtain ⟨payload, hpayload, -⟩ := SubgroupHeader.deserialize_serialize call.header hfor.wellFormed
      (some d.sub.trackAlias)
    exact absurd (why payload hpayload).2 (by decide)
  | finds stage bytes key =>
    refine ⟨nofun, nofun, nofun, fun i heq => ?_⟩
    cases heq
    exact hlive _ _ (hfor.streamId ▸ key)
  | adds stage bytes key =>
    refine ⟨nofun, nofun, fun i payload heq => ?_, nofun⟩
    cases heq
    refine (d.client.has_added _ call.header).mono fun stream hstream => ?_
    rw [hstream]
    exact ⟨hfor.streamId, rfl⟩
  | writes stage accepts =>
    refine ⟨nofun, nofun, nofun, fun i heq => ?_⟩
    cases heq
    exact hkeeps.has _ _ (hheads _ _ stage)
  | refuses stage accepts =>
    obtain ⟨stream, hget, hstream⟩ := hheads _ _ stage
    refine absurd ?_ (Bool.eq_false_iff.mp accepts)
    simp only [Client.accepts, hget, Option.any_some]
    exact hstream.accepts
  | removes stage => exact absurd stage hgoes

theorem ObjectStep.keeps {next : Option EventStage} (hstep : ObjectStep d active task .fine d' next) :
    d.client.Keeps d'.client := by
  cases hstep with
  | opens stage handles => exact handles.keeps
  | opensNone stage handles => exact handles.keeps
  | opened stage handles => exact handles.keeps
  | codes stage coded =>
    rw [(d.resetOwn_fields task.headerInfo).1]
    exact .refl _
  | codesNone stage coded =>
    rw [(d.resetOwn_fields task.headerInfo).1]
    exact .refl _
  | writes stage outcome => exact d.client.keeps_writeObject _ _ _
  | stopped stage outcome => cases outcome
  | releases stage => exact (Client.Keeps.refl _).take _
  | _ => exact .refl _

theorem UpdateStep.skippedStreamHeaders {io : Transport} {next : Option UpdateTask}
    (hstep : UpdateStep d io update d' next) :
    d'.sub.skippedStreamHeaders = d.sub.skippedStreamHeaders := by
  have hheader : ∀ {call result}, HeaderStep d call io d' result →
      d'.sub.skippedStreamHeaders = d.sub.skippedStreamHeaders := by
    intro call result handles
    obtain ⟨n, hsub⟩ := handles.sub_eq
    rw [hsub]
  cases hstep with
  | opens handles => exact hheader handles
  | opensNone handles => exact hheader handles
  | opened handles => exact hheader handles
  | _ => rfl

theorem UpdateStep.keeps {next : Option UpdateTask} (hstep : UpdateStep d .fine update d' next) :
    d.client.Keeps d'.client := by
  cases hstep with
  | opens handles => exact handles.keeps
  | opensNone handles => exact handles.keeps
  | opened handles => exact handles.keeps
  | _ => exact .refl _

end Delivery

/-! The whole path. -/

/-- Streams open and writes succeed. -/
def Action.Fine : Action → Prop
  | .proceed io => io = .fine
  | .proceedUpdate io => io = .fine
  | _ => True

instance (action : Action) : Decidable action.Fine := by
  unfold Action.Fine
  split <;> infer_instance

/-- The task has a header in hand that no stream has been opened for. -/
def EventTask.bringsHeader (task : EventTask) : Bool :=
  match task.stage with
  | .clearing => task.headerInfo.isSome
  | .header ⟨_, .opening⟩ => true
  | _ => false

namespace Forwarding

variable {f f' : Forwarding}

/-- Every object that was admitted when it was checked is on some stream, or a task still has it in
hand to write it. -/
def NoLoss (f : Forwarding) : Prop :=
  ∀ object ∈ f.history.admitted, f.delivery.client.Carries object ∨
    ∃ task ∈ f.task, task.object = object ∧ task.isUnwritten = true

/-- The task with an object in hand brings the header of the stream. -/
def Brings (f : Forwarding) (streamId : StreamId) : Prop :=
  ∃ task ∈ f.task, task.streamId = streamId ∧ task.bringsHeader = true

/-- An object without a header has a way to a stream: the stream is open, or its header is kept or
in hand, unless it counts as lost. -/
def Holds (f : Forwarding) (streamId : StreamId) : Prop :=
  (f.delivery.client.sendStreams streamId).isSome = true ∨
    (f.delivery.sub.skippedStreamHeaders streamId).isSome = true ∨
    (∃ header, f.delivery.sub.pendingHeader = some (streamId, header)) ∨
    f.Brings streamId ∨ f.history.headerLost streamId = true

/-- What the object in hand relies on: the stream it goes to takes writes, and there is a way to one
while it has none. -/
structure Awaited (f : Forwarding) (task : EventTask) : Prop where
  body : ¬ (task.object.payload = none ∧ task.object.status = .normal)
  header : ∀ call, task.stage = .header call → call.stage ≠ .removing
  stream : ∀ i, task.stream = some i →
    f.delivery.client.Has i (SendStream.LiveFor task.streamId)
  joining : task.stage = .joining →
    (f.delivery.sub.skippedStreamHeaders task.streamId).isSome = true ∨
      f.history.headerLost task.streamId = true

/-- The object at the head of the queue has this verdict. -/
def HeadHas (f : Forwarding) (P : Object → Verdict → Prop) (gate : Bool) : Prop :=
  match f.queue with
  | .subgroupObject _ object _ :: _ =>
    P object (f.delivery.sub.verdict gate { object with trackAlias := f.delivery.sub.trackAlias })
  | _ => True

/-- An admitted object is not the zero-length Normal one, which is not written at all. -/
def Writable (object : Object) (verdict : Verdict) : Prop :=
  verdict = .admitted → ¬ (object.payload = none ∧ object.status = .normal)

/-- An object for which no stream is open, and whose header was lost, finds one that the
subscription or the track has kept. -/
def FindsHeader (f : Forwarding) (task : EventTask) : Prop :=
  task.stage = .joining → f.history.headerLost task.streamId = true →
    (f.delivery.sub.skippedStreamHeaders task.streamId).isSome = true ∨
      (f.track.activeSubgroupHeaders task.streamId).isSome = true

/-- The steps that cost no admitted object its stream. -/
def Served (f : Forwarding) : Action → Prop
  | .handle gate => f.HeadHas Writable gate
  | .giveUpEvent _ => f.HeadHas (fun _ verdict => verdict ≠ .admitted) true
  | .proceed _ => ∀ task ∈ f.task, f.FindsHeader task
  | .giveUp _ _ => ∀ task ∈ f.task, task.isUnwritten = false
  | .finishStream k => ∀ i ∈ f.finishing[k]?, ∀ task ∈ f.task, task.stream ≠ some i
  | _ => True

instance (f : Forwarding) (P : Object → Verdict → Prop) [∀ object verdict, Decidable (P object verdict)]
    (gate : Bool) : Decidable (f.HeadHas P gate) := by
  unfold HeadHas
  split <;> infer_instance

instance (object : Object) (verdict : Verdict) : Decidable (Writable object verdict) :=
  inferInstanceAs (Decidable (_ → _))

instance (f : Forwarding) (task : EventTask) : Decidable (f.FindsHeader task) :=
  inferInstanceAs (Decidable (_ → _))

instance (f : Forwarding) (action : Action) : Decidable (f.Served action) := by
  unfold Served
  split <;> infer_instance

structure Serving (f : Forwarding) : Prop where
  sources : f.Sources
  live : f.delivery.client.Live
  noLoss : f.NoLoss
  task : ∀ task ∈ f.task, f.Awaited task
  finishing : ∀ i ∈ f.finishing, i < f.delivery.client.streams.length ∧
    ∀ streamId, f.delivery.client.sendStreams streamId ≠ some i
  holds : ∀ streamId, f.Holds streamId

/-! Headers are taken, kept and lost. -/

theorem lose_headerLost {history : History} {streamId other : StreamId}
    (h : history.headerLost other = true) : (history.lose streamId).headerLost other = true := by
  by_cases heq : other = streamId
  · simp [History.lose, heq]
  · simpa [History.lose, Function.update_of_ne heq] using h

theorem lose_self (history : History) (streamId : StreamId) :
    (history.lose streamId).headerLost streamId = true := by
  simp [History.lose]

/-- What is held still is when each way to hold it leads to another one. -/
theorem Holds.imp {streamId : StreamId} (h : f.Holds streamId)
    (hkey : (f.delivery.client.sendStreams streamId).isSome = true → f'.Holds streamId)
    (hskipped : (f.delivery.sub.skippedStreamHeaders streamId).isSome = true → f'.Holds streamId)
    (hpending : ∀ header, f.delivery.sub.pendingHeader = some (streamId, header) →
      f'.Holds streamId)
    (hbrings : f.Brings streamId → f'.Holds streamId)
    (hlost : f.history.headerLost streamId = true → f'.history.headerLost streamId = true) :
    f'.Holds streamId := by
  rcases h with h | h | ⟨header, h⟩ | h | h
  · exact hkey h
  · exact hskipped h
  · exact hpending header h
  · exact hbrings h
  · exact .inr (.inr (.inr (.inr (hlost h))))

theorem holds_key {streamId : StreamId} (h : (f.delivery.client.sendStreams streamId).isSome = true) :
    f.Holds streamId := .inl h

theorem holds_skipped {streamId : StreamId}
    (h : (f.delivery.sub.skippedStreamHeaders streamId).isSome = true) : f.Holds streamId :=
  .inr (.inl h)

theorem holds_pending {streamId : StreamId} (header : SubgroupHeader)
    (h : f.delivery.sub.pendingHeader = some (streamId, header)) : f.Holds streamId :=
  .inr (.inr (.inl ⟨header, h⟩))

theorem holds_brings {streamId : StreamId} (h : f.Brings streamId) : f.Holds streamId :=
  .inr (.inr (.inr (.inl h)))

theorem holds_lost {streamId : StreamId} (h : f.history.headerLost streamId = true) :
    f.Holds streamId :=
  .inr (.inr (.inr (.inr h)))

theorem losePending_lost {streamId : StreamId} (h : f.history.headerLost streamId = true) :
    f.losePending.headerLost streamId = true := by
  unfold losePending
  split
  · exact lose_headerLost h
  · exact h

theorem losePending_self {streamId : StreamId} {header : SubgroupHeader}
    (h : f.delivery.sub.pendingHeader = some (streamId, header)) :
    f.losePending.headerLost streamId = true := by
  unfold losePending
  rw [h]
  exact lose_self _ _

theorem historyAfter_lost {task : EventTask} {next : Option EventStage} {streamId : StreamId}
    (h : f.history.headerLost streamId = true) :
    (f.historyAfter task next).headerLost streamId = true := by
  unfold historyAfter
  cases task.stage with
  | clearing => exact losePending_lost h
  | joining => exact h
  | header call =>
    dsimp only
    split
    · exact lose_headerLost h
    · exact h
  | coding i => cases task.headerInfo <;> exact h
  | writing i bytes => exact h
  | releasing i => exact lose_headerLost h
  | storing i => exact h

theorem historyAfterUpdate_lost {task : UpdateTask} {next : Option UpdateTask}
    {streamId : StreamId} (h : f.history.headerLost streamId = true) :
    (f.historyAfterUpdate task next).headerLost streamId = true := by
  unfold historyAfterUpdate
  cases task with
  | taking => exact losePending_lost h
  | header other call =>
    dsimp only
    split
    · exact lose_headerLost h
    · exact h
  | resetting other i => exact h

/-- A header call opens the stream under its id, or takes it away. -/
theorem headerStep_key {d d' : Delivery} {call : HeaderCall} {io : Transport} {result : HeaderResult}
    (hstep : d.HeaderStep call io d' result) (streamId : StreamId) :
    ((d.client.sendStreams streamId).isSome = true →
      (d'.client.sendStreams streamId).isSome = true ∨
        (result = .failed ∧ streamId = buildStreamId call.header)) ∧
      (result ≠ .failed → call.stage = .opening → streamId = buildStreamId call.header →
        (d'.client.sendStreams streamId).isSome = true) := by
  cases hstep with
  | fails stage why => exact ⟨.inl, fun hne => absurd rfl hne⟩
  | finds stage bytes key =>
    refine ⟨.inl, fun _ _ heq => ?_⟩
    rw [heq]
    exact Option.isSome_iff_exists.mpr ⟨_, key⟩
  | adds stage bytes key =>
    by_cases heq : streamId = buildStreamId call.header
    · simp [Client.addStream, heq]
    · simp only [Client.addStream, Function.update_of_ne heq]
      exact ⟨.inl, fun _ _ hsame => absurd hsame heq⟩
  | writes stage accepts =>
    exact ⟨.inl, fun _ hopening => by rw [stage] at hopening; cases hopening⟩
  | refuses stage accepts =>
    exact ⟨.inl, fun _ hopening => by rw [stage] at hopening; cases hopening⟩
  | removes stage =>
    refine ⟨fun hkey => ?_, fun hne => absurd rfl hne⟩
    by_cases heq : streamId = buildStreamId call.header
    · exact .inr ⟨rfl, heq⟩
    · refine .inl ?_
      simp only [Client.takeStream, Function.update_of_ne heq]
      exact hkey

/-- The object in hand goes on with its header call. -/
theorem Holds.headerStep {task : EventTask} {io : Transport} {d : Delivery} {call : HeaderCall}
    {result : HeaderResult} {next : Option EventStage} {streamId : StreamId} (h : f.Holds streamId)
    (htask : f.task = some task) (hstage : task.stage = .header call)
    (hfor : HeaderFor task.streamId call.header) (hstep : f.delivery.HeaderStep call io d result)
    (hnext : result = .failed → next = none) :
    Holds { f with
      delivery := d
      task := next.map fun stage => { task with stage := stage }
      history := f.historyAfter task next } streamId := by
  obtain ⟨hkept, hopened⟩ := headerStep_key hstep streamId
  obtain ⟨n, hsub⟩ := hstep.sub_eq
  have hfailed : result = .failed → streamId = buildStreamId call.header →
      (f.historyAfter task next).headerLost streamId = true := by
    rintro hres rfl
    simp only [historyAfter, hstage, hnext hres, Option.isNone_none, if_true]
    exact lose_self _ _
  refine h.imp (fun hkey => ?_) (fun hskip => holds_skipped (by rw [hsub]; exact hskip))
    (fun header hpend => holds_pending header (by rw [hsub]; exact hpend)) (fun hbrings => ?_) historyAfter_lost
  · rcases hkept hkey with hkey | ⟨hres, heq⟩
    · exact holds_key hkey
    · exact holds_lost (hfailed hres heq)
  · obtain ⟨other, hother, hid, hhas⟩ := hbrings
    rw [htask, Option.mem_some_iff] at hother
    subst hother
    have hopening : call.stage = .opening := by
      obtain ⟨header, stage⟩ := call
      cases stage with
      | opening => rfl
      | writing i payload => simp [EventTask.bringsHeader, hstage] at hhas
      | removing => simp [EventTask.bringsHeader, hstage] at hhas
    have heq : streamId = buildStreamId call.header := by rw [hfor.streamId, hid]
    by_cases hres : result = .failed
    · exact holds_lost (hfailed hres heq)
    · exact holds_key (hopened hres hopening heq)

theorem brings_iff {task : EventTask} {streamId : StreamId} (htask : f.task = some task) :
    f.Brings streamId ↔ task.streamId = streamId ∧ task.bringsHeader = true := by
  constructor
  · rintro ⟨other, hother, hbrings⟩
    rw [htask, Option.mem_some_iff] at hother
    exact hother ▸ hbrings
  · exact fun hbrings => ⟨task, htask, hbrings⟩

/-- The pending header is cleared when the object goes on. -/
theorem Holds.clearPending {task : EventTask} {next : Option EventStage}
    {streamId : StreamId} (h : f.Holds streamId) (htask : f.task = some task)
    (hstage : task.stage = .clearing)
    (hbrings : task.headerInfo.isSome = true → ∃ stage ∈ next,
      EventTask.bringsHeader { task with stage := stage } = true) :
    Holds { f with
      delivery := f.delivery.clearPending
      task := next.map fun stage => { task with stage := stage }
      history := f.historyAfter task next } streamId := by
  refine h.imp (fun hkey => holds_key hkey) (fun hskip => holds_skipped hskip)
    (fun header hpend => holds_lost ?_) (fun hbringing => ?_) historyAfter_lost
  · simp only [historyAfter, hstage]
    exact losePending_self hpend
  · obtain ⟨hid, hhas⟩ := (brings_iff htask).mp hbringing
    simp only [EventTask.bringsHeader, hstage] at hhas
    obtain ⟨stage, rfl, hnext⟩ := hbrings hhas
    exact holds_brings ⟨_, rfl, hid, hnext⟩

/-- A step that touches no header. -/
theorem Holds.proceed_same {task : EventTask} {d : Delivery}
    {next : Option EventStage} {streamId : StreamId} (h : f.Holds streamId)
    (htask : f.task = some task) (hnone : task.bringsHeader = false)
    (hkeys : d.client.sendStreams = f.delivery.client.sendStreams)
    (hpending : d.sub.pendingHeader = f.delivery.sub.pendingHeader)
    (hskipped : d.sub.skippedStreamHeaders = f.delivery.sub.skippedStreamHeaders) :
    Holds { f with
      delivery := d
      task := next.map fun stage => { task with stage := stage }
      history := f.historyAfter task next } streamId := by
  refine h.imp (fun hkey => holds_key (by rw [hkeys]; exact hkey))
    (fun hskip => holds_skipped (by rw [hskipped]; exact hskip))
    (fun header hpend => holds_pending header (by rw [hpending]; exact hpend)) (fun hbringing => ?_)
    historyAfter_lost
  rw [brings_iff htask, hnone] at hbringing
  exact absurd hbringing.2 (by decide)

/-- The header that is skipped is taken to open a stream with, if there is one. -/
theorem Holds.dropSkipped {task : EventTask} {next : Option EventStage}
    {streamId : StreamId} (h : f.Holds streamId) (htask : f.task = some task)
    (hstage : task.stage = .joining)
    (hnext : (f.delivery.sub.skippedStreamHeaders task.streamId).isSome = true → ∃ stage ∈ next,
      EventTask.bringsHeader { task with stage := stage } = true) :
    Holds { f with
      delivery := f.delivery.dropSkipped task.streamId
      task := next.map fun stage => { task with stage := stage }
      history := f.historyAfter task next } streamId := by
  refine h.imp (fun hkey => holds_key hkey) (fun hskip => ?_)
    (fun header hpend => holds_pending header hpend) (fun hbringing => ?_) historyAfter_lost
  · by_cases heq : streamId = task.streamId
    · obtain ⟨stage, rfl, hbrings⟩ := hnext (heq ▸ hskip)
      exact holds_brings ⟨_, rfl, heq.symm, hbrings⟩
    · exact holds_skipped (by simpa [Delivery.dropSkipped, Function.update_of_ne heq] using hskip)
  · obtain ⟨-, hhas⟩ := (brings_iff htask).mp hbringing
    simp [EventTask.bringsHeader, hstage] at hhas

/-- No step with an object in hand loses a header without a record of it. -/
theorem Holds.proceed {task : EventTask} {io : Transport} {d : Delivery} {next : Option EventStage}
    {streamId : StreamId} (h : f.Holds streamId) (hsources : f.Sources) (htask : f.task = some task)
    (hstep : f.delivery.ObjectStep f.track.activeSubgroupHeaders task io d next) :
    Holds { f with
      delivery := d
      task := next.map fun stage => { task with stage := stage }
      history := f.historyAfter task next } streamId := by
  have hheader := (hsources.task task htask).header
  cases hstep with
  | clearsOwn stage own => exact h.clearPending htask stage fun _ => ⟨_, rfl, rfl⟩
  | clearsOpen stage own key => exact h.clearPending htask stage (by simp [own])
  | clears stage own key => exact h.clearPending htask stage (by simp [own])
  | finds stage held => exact h.dropSkipped htask stage fun _ => ⟨_, rfl, rfl⟩
  | findsNone stage held =>
    rw [Option.or_eq_none_iff] at held
    exact h.dropSkipped htask stage (by simp [held.1])
  | opens stage handles => exact h.headerStep htask stage (hheader _ stage) handles nofun
  | opensNone stage handles => exact h.headerStep htask stage (hheader _ stage) handles fun _ => rfl
  | opened stage handles => exact h.headerStep htask stage (hheader _ stage) handles nofun
  | codes stage coded =>
    obtain ⟨hclient, hpending, hskipped, -⟩ := f.delivery.resetOwn_fields task.headerInfo
    exact h.proceed_same htask (by simp [EventTask.bringsHeader, stage]) (by rw [hclient]) hpending
      hskipped
  | codesNone stage coded =>
    obtain ⟨hclient, hpending, hskipped, -⟩ := f.delivery.resetOwn_fields task.headerInfo
    exact h.proceed_same htask (by simp [EventTask.bringsHeader, stage]) (by rw [hclient]) hpending
      hskipped
  | writes stage outcome =>
    exact h.proceed_same htask (by simp [EventTask.bringsHeader, stage]) rfl rfl rfl
  | stopped stage outcome =>
    exact h.proceed_same htask (by simp [EventTask.bringsHeader, stage]) rfl rfl rfl
  | releases stage =>
    refine h.imp (fun hkey => ?_) (fun hskip => holds_skipped hskip)
      (fun header hpend => holds_pending header hpend) (fun hbringing => ?_) historyAfter_lost
    · by_cases heq : streamId = task.streamId
      · refine holds_lost ?_
        simp only [historyAfter, stage, heq]
        exact lose_self _ _
      · refine holds_key ?_
        simpa [Client.takeStream, Function.update_of_ne heq] using hkey
    · obtain ⟨-, hhas⟩ := (brings_iff htask).mp hbringing
      simp [EventTask.bringsHeader, stage] at hhas
  | stores stage =>
    exact h.proceed_same htask (by simp [EventTask.bringsHeader, stage]) rfl rfl rfl

/-- An update records a header it takes as lost. -/
theorem Holds.proceedUpdate {update : UpdateTask} {io : Transport} {d : Delivery}
    {next : Option UpdateTask} {streamId : StreamId} (h : f.Holds streamId)
    (hstep : f.delivery.UpdateStep io update d next) :
    Holds { f with
      delivery := d
      updating := next
      history := f.historyAfterUpdate update next } streamId := by
  have hheader : ∀ {other call result}, update = .header other call →
      f.delivery.HeaderStep call io d result → (result = .failed → next = none) →
      Holds { f with
        delivery := d
        updating := next
        history := f.historyAfterUpdate update next } streamId := by
    rintro other call result rfl handles hnext
    obtain ⟨n, hsub⟩ := handles.sub_eq
    refine h.imp (fun hkey => ?_) (fun hskip => holds_skipped (by rw [hsub]; exact hskip))
      (fun header hpend => holds_pending header (by rw [hsub]; exact hpend))
      (fun hbrings => holds_brings hbrings) historyAfterUpdate_lost
    rcases (headerStep_key handles streamId).1 hkey with hkey | ⟨hres, rfl⟩
    · exact holds_key hkey
    · refine holds_lost ?_
      simp only [historyAfterUpdate, hnext hres, Option.isNone_none, if_true]
      exact lose_self _ _
  cases hstep with
  | takes pending =>
    exact h.imp (fun hkey => holds_key hkey) (fun hskip => holds_skipped hskip)
      (fun header hpend => holds_lost (losePending_self hpend)) (fun hbrings => holds_brings hbrings)
      historyAfterUpdate_lost
  | takesNone pending =>
    exact h.imp (fun hkey => holds_key hkey) (fun hskip => holds_skipped hskip)
      (fun header hpend => holds_lost (losePending_self hpend)) (fun hbrings => holds_brings hbrings)
      historyAfterUpdate_lost
  | opens handles => exact hheader rfl handles nofun
  | opensNone handles => exact hheader rfl handles fun _ => rfl
  | opened handles => exact hheader rfl handles nofun
  | resets => exact h

/-! An event is taken off the queue. -/

theorem headerLostAfter_of_ne {streamId other : StreamId} {headerInfo : Option SubgroupHeader}
    {verdict : Verdict} (hother : other ≠ streamId ∨ headerInfo = none)
    (h : f.history.headerLost other = true) :
    f.headerLostAfter streamId headerInfo verdict other = true := by
  unfold Forwarding.headerLostAfter
  cases headerInfo with
  | none => exact h
  | some header =>
    have hne : other ≠ streamId := hother.resolve_right (by simp)
    cases verdict with
    | notForwarding =>
      cases f.delivery.sub.pendingHeader with
      | none => simp [Function.update_of_ne hne, h]
      | some pending =>
        by_cases hp : other = pending.1
        · simp [← hp, Function.update_of_ne hne]
        · simp [Function.update_of_ne hne, Function.update_of_ne hp, h]
    | gated => simp [Function.update_of_ne hne, h]
    | beforeStart => simp [Function.update_of_ne hne, h]
    | pastEnd => simp [Function.update_of_ne hne, h]
    | filteredOut => simp [Function.update_of_ne hne, h]
    | admitted => simp [Function.update_of_ne hne, h]

/-- What the check of an object makes of its own header: it is lost, kept in one of two places, or
in hand. -/
theorem holds_ownHeader {streamId : StreamId} {object : Object} {header : SubgroupHeader}
    {queue : List TrackEvent} {gate : Bool} :
    ({ f with queue := queue }.handleEvent
      (.subgroupObject streamId object (some header)) gate).Holds streamId := by
  cases hverdict : f.delivery.sub.verdict gate
      { object with trackAlias := f.delivery.sub.trackAlias } with
  | gated =>
    refine holds_lost ?_
    simp only [Forwarding.handleEvent, hverdict]
    simp [Forwarding.headerLostAfter]
  | beforeStart =>
    refine holds_skipped ?_
    simp only [Forwarding.handleEvent, hverdict]
    simp [Subscription.skip, Subscription.saveSkippedHeader]
  | pastEnd =>
    refine holds_lost ?_
    simp only [Forwarding.handleEvent, hverdict]
    simp [Forwarding.headerLostAfter]
  | notForwarding =>
    refine holds_pending header ?_
    simp only [Forwarding.handleEvent, hverdict]
    rfl
  | filteredOut =>
    refine holds_skipped ?_
    simp only [Forwarding.handleEvent, hverdict]
    simp [Subscription.skip, Subscription.saveSkippedHeader]
  | admitted =>
    refine holds_brings ⟨⟨streamId, { object with trackAlias := f.delivery.sub.trackAlias },
      some header, .clearing⟩, ?_, rfl, rfl⟩
    simp only [Forwarding.handleEvent, hverdict]
    rfl

theorem holds_handleObject {streamId other : StreamId} {object : Object}
    {headerInfo : Option SubgroupHeader} {queue : List TrackEvent} {gate : Bool}
    (hnone : f.task = none) (h : f.Holds other) :
    ({ f with queue := queue }.handleEvent (.subgroupObject streamId object headerInfo) gate).Holds
      other := by
  by_cases hother : other ≠ streamId ∨ headerInfo = none
  · have hlost : ∀ verdict, f.history.headerLost other = true →
        f.headerLostAfter streamId headerInfo verdict other = true :=
      fun _ => headerLostAfter_of_ne hother
    refine h.imp (fun hkey => holds_key hkey) (fun hskip => holds_skipped ?_)
      (fun header hpend => ?_) (fun hbrings => ?_) (hlost _)
    · simp only [Forwarding.handleEvent]
      rcases f.delivery.sub.skip_cases streamId headerInfo (f.delivery.sub.verdict gate
        { object with trackAlias := f.delivery.sub.trackAlias }) with
        heq | ⟨header, hinfo, ⟨-, heq⟩ | ⟨-, heq⟩⟩
      · rw [heq]
        exact hskip
      · rw [heq]
        simpa [Function.update_of_ne (hother.resolve_right (by simp [hinfo]))] using hskip
      · rw [heq]
        exact hskip
    · rcases f.delivery.sub.skip_cases streamId headerInfo (f.delivery.sub.verdict gate
        { object with trackAlias := f.delivery.sub.trackAlias }) with
        heq | ⟨own, hinfo, ⟨-, heq⟩ | ⟨hverdict, heq⟩⟩
      · refine holds_pending header ?_
        simp only [Forwarding.handleEvent, heq]
        exact hpend
      · refine holds_pending header ?_
        simp only [Forwarding.handleEvent, heq]
        exact hpend
      · refine holds_lost ?_
        have hne : other ≠ streamId := hother.resolve_right (by simp [hinfo])
        simp only [Forwarding.handleEvent, hverdict, hinfo, Forwarding.headerLostAfter, hpend]
        simp [Function.update_of_ne hne]
    · obtain ⟨task, htask, -⟩ := hbrings
      rw [hnone] at htask
      cases htask
  · obtain ⟨hsame, hsome⟩ := not_or.mp hother
    obtain ⟨header, rfl⟩ := Option.ne_none_iff_exists'.mp hsome
    rw [not_not] at hsame
    exact hsame ▸ holds_ownHeader

theorem holds_handleEvent {event : TrackEvent} {queue : List TrackEvent} {gate : Bool}
    {other : StreamId} (hnone : f.task = none) (h : f.Holds other) :
    ({ f with queue := queue }.handleEvent event gate).Holds other := by
  cases event with
  | subgroupObject streamId object headerInfo => exact holds_handleObject hnone h
  | streamClosed streamId =>
    by_cases hother : other = streamId
    · exact holds_lost (hother ▸ lose_self f.history streamId)
    · refine h.imp (fun hkey => holds_key hkey)
        (fun hskip => holds_skipped ?_) (fun header hpend => holds_pending header hpend)
        (fun hbrings => holds_brings hbrings) lose_headerLost
      simpa [Forwarding.handleEvent, Delivery.handleStreamClosed, Delivery.dropSkipped,
        Delivery.dropLastObjectId, Function.update_of_ne hother] using hskip

theorem holds_giveUpEvent {event : TrackEvent} {queue : List TrackEvent} {entryDropped : Bool}
    {other : StreamId} (h : f.Holds other) :
    ({ f with queue := queue }.giveUpEvent event entryDropped).Holds other := by
  cases event with
  | subgroupObject streamId object headerInfo =>
    refine h.imp (fun hkey => holds_key hkey) (fun hskip => holds_skipped hskip)
      (fun header hpend => holds_pending header hpend) (fun hbrings => holds_brings hbrings)
      fun hlost => ?_
    simp only [Forwarding.giveUpEvent]
    split
    · exact lose_headerLost hlost
    · exact hlost
  | streamClosed streamId =>
    cases entryDropped with
    | false =>
      exact h.imp (fun hkey => holds_key hkey) (fun hskip => holds_skipped hskip)
        (fun header hpend => holds_pending header hpend) (fun hbrings => holds_brings hbrings)
        lose_headerLost
    | true =>
      exact h.imp (fun hkey => holds_key hkey) (fun hskip => holds_skipped hskip)
        (fun header hpend => holds_pending header hpend) (fun hbrings => holds_brings hbrings)
        lose_headerLost

/-! One served step. -/

theorem historyAfter_admitted (f : Forwarding) (task : EventTask) (next : Option EventStage) :
    (f.historyAfter task next).admitted = f.history.admitted := by
  unfold historyAfter losePending
  cases task.stage with
  | clearing =>
    dsimp only
    split <;> rfl
  | joining => rfl
  | header call =>
    dsimp only
    split <;> rfl
  | coding i => cases task.headerInfo <;> rfl
  | writing i bytes => rfl
  | releasing i => rfl
  | storing i => rfl

theorem historyAfterUpdate_admitted (f : Forwarding) (task : UpdateTask) (next : Option UpdateTask) :
    (f.historyAfterUpdate task next).admitted = f.history.admitted := by
  unfold historyAfterUpdate losePending
  cases task with
  | taking =>
    dsimp only
    split <;> rfl
  | header streamId call =>
    dsimp only
    split <;> rfl
  | resetting streamId i => rfl

theorem stream_of_header {task : EventTask} {call : HeaderCall} {i : Nat} {payload : Bytes}
    (hstage : task.stage = .header call) (hcall : call.stage = .writing i payload) :
    task.stream = some i := by
  obtain ⟨header, stage⟩ := call
  cases hcall
  simp [EventTask.stream, hstage]

/-- What the object in hand relies on after a step of its own. -/
theorem Serving.awaited_proceed (h : f.Serving) {task : EventTask} {d : Delivery}
    {stage : EventStage} (htask : f.task = some task)
    (hstep : f.delivery.ObjectStep f.track.activeSubgroupHeaders task .fine d (some stage)) :
    Awaited { f with
      delivery := d
      task := some { task with stage := stage }
      history := f.historyAfter task (some stage) } { task with stage := stage } := by
  have hawaited := h.task task htask
  have hheader := (h.sources.task task htask).header
  cases hstep with
  | clearsOwn hstage own =>
    refine ⟨hawaited.body, ?_, nofun, nofun⟩
    rintro call ⟨⟩
    exact nofun
  | clearsOpen hstage own key =>
    refine ⟨hawaited.body, nofun, ?_, nofun⟩
    rintro i ⟨⟩
    exact h.live _ _ key
  | clears hstage own key =>
    refine ⟨hawaited.body, nofun, nofun, fun _ => ?_⟩
    simp only [historyAfter, hstage]
    rcases h.holds task.streamId with hkey | hskip | ⟨header, hpend⟩ | hbrings | hlost
    · simp [key] at hkey
    · exact .inl hskip
    · exact .inr (losePending_self hpend)
    · have hhas := ((brings_iff htask).mp hbrings).2
      simp [EventTask.bringsHeader, hstage, own] at hhas
    · exact .inr (losePending_lost hlost)
  | finds hstage held =>
    refine ⟨hawaited.body, ?_, nofun, nofun⟩
    rintro call ⟨⟩
    exact nofun
  | opens hstage handles =>
    obtain ⟨-, hgoes, hwriting, -⟩ := handles.serves h.live (hheader _ hstage)
      (hawaited.header _ hstage) fun i payload hcall =>
        hawaited.stream i (stream_of_header hstage hcall)
    cases handles with
    | adds hcall bytes key =>
      refine ⟨hawaited.body, ?_, ?_, nofun⟩
      · rintro call ⟨⟩
        exact nofun
      · rintro i ⟨⟩
        exact hwriting _ _ rfl
    | refuses hcall accepts => exact absurd rfl hgoes
  | opened hstage handles =>
    obtain ⟨-, -, -, hopened⟩ := handles.serves h.live (hheader _ hstage)
      (hawaited.header _ hstage) fun i payload hcall =>
        hawaited.stream i (stream_of_header hstage hcall)
    refine ⟨hawaited.body, nofun, ?_, nofun⟩
    rintro i ⟨⟩
    exact hopened _ rfl
  | codes hstage coded =>
    refine ⟨hawaited.body, nofun, ?_, nofun⟩
    rintro i ⟨⟩
    dsimp only
    rw [(f.delivery.resetOwn_fields task.headerInfo).1]
    exact hawaited.stream _ (by simp [EventTask.stream, hstage])
  | writes hstage outcome => exact ⟨hawaited.body, nofun, nofun, nofun⟩
  | stopped hstage outcome => cases outcome
  | releases hstage => exact ⟨hawaited.body, nofun, nofun, nofun⟩

/-- The object in hand is written when its task comes to that, and the task does not end before. -/
theorem Serving.carries_proceed (h : f.Serving) {task : EventTask} {d : Delivery}
    {next : Option EventStage} (htask : f.task = some task) (hserved : f.FindsHeader task)
    (hunwritten : task.isUnwritten = true)
    (hstep : f.delivery.ObjectStep f.track.activeSubgroupHeaders task .fine d next) :
    d.client.Carries task.object ∨ ∃ stage, next = some stage ∧
      EventTask.isUnwritten { task with stage := stage } = true := by
  have hawaited := h.task task htask
  have hok := h.sources.task task htask
  obtain ⟨o, hasProperties, hview, -⟩ := hok.event
  cases hstep with
  | findsNone hstage held =>
    rw [Option.or_eq_none_iff] at held
    rcases hawaited.joining hstage with hskip | hlost
    · simp [held.1] at hskip
    · rcases hserved hstage hlost with hskip | hactive
      · simp [held.1] at hskip
      · simp [held.2] at hactive
  | opensNone hstage handles =>
    obtain ⟨hne, -⟩ := handles.serves h.live (hok.header _ hstage) (hawaited.header _ hstage)
      fun i payload hcall => hawaited.stream i (stream_of_header hstage hcall)
    exact absurd rfl hne
  | codesNone hstage coded => exact absurd coded (hview.coded hawaited.body _)
  | stopped hstage outcome => cases outcome
  | releases hstage => simp [EventTask.isUnwritten, hstage] at hunwritten
  | writes hstage outcome =>
    refine .inl ?_
    have hhas := hawaited.stream _ (show task.stream = some _ by simp [EventTask.stream, hstage]; rfl)
    refine Client.carries_iff.mpr ⟨_, hhas.modify (fun _ stream hstream => ?_) fun hne =>
      absurd rfl hne⟩
    have haccepts : stream.accepts Transport.fine.write = true := hstream.accepts
    simp [SendStream.writeObject, haccepts]
  | stores hstage => simp [EventTask.isUnwritten, hstage] at hunwritten
  | _ => exact .inr ⟨_, rfl, rfl⟩

theorem Serving.proceed (h : f.Serving) (hsources : f'.Sources)
    (hserved : f.Served (.proceed .fine)) (hstep : f.step (.proceed .fine) = some f') :
    f'.Serving := by
  obtain ⟨task, d, next, htask, hobject, rfl⟩ := proceed_eq_some hstep
  have hkeeps := hobject.keeps
  refine ⟨hsources, hkeeps.live h.live, fun object hmem => ?_, fun later hlater => ?_,
    fun i hi => hkeeps.unreachable (h.finishing i hi),
    fun streamId => (h.holds streamId).proceed h.sources htask hobject⟩
  · rw [historyAfter_admitted] at hmem
    rcases h.noLoss object hmem with hcarries | ⟨other, hother, rfl, hunwritten⟩
    · exact .inl (hkeeps.carries object hcarries)
    · rw [htask, Option.mem_some_iff] at hother
      subst hother
      rcases h.carries_proceed htask (hserved task htask) hunwritten hobject with
        hcarries | ⟨stage, rfl, hnext⟩
      · exact .inl hcarries
      · exact .inr ⟨_, rfl, rfl, hnext⟩
  · obtain ⟨stage, rfl, rfl⟩ := Option.map_eq_some_iff.mp hlater
    exact h.awaited_proceed htask hobject

/-- Another task moves on. -/
theorem Awaited.goesOn {task : EventTask} (h : f.Awaited task)
    (hhas : ∀ i, task.stream = some i → f.delivery.client.Has i (SendStream.LiveFor task.streamId) →
      f'.delivery.client.Has i (SendStream.LiveFor task.streamId))
    (hskipped : f'.delivery.sub.skippedStreamHeaders = f.delivery.sub.skippedStreamHeaders)
    (hlost : f.history.headerLost task.streamId = true →
      f'.history.headerLost task.streamId = true) : f'.Awaited task where
  body := h.body
  header := h.header
  stream := fun i hi => hhas i hi (h.stream i hi)
  joining := fun hstage => by
    rw [hskipped]
    exact (h.joining hstage).imp_right hlost

theorem Serving.handle (h : f.Serving) {gate : Bool} (hsources : f'.Sources)
    (hserved : f.Served (.handle gate)) (hstep : f.step (.handle gate) = some f') : f'.Serving := by
  obtain ⟨event, queue, hnone, hqueue, rfl⟩ := handle_eq_some hstep
  have hholds : ∀ streamId, ({ f with queue := queue }.handleEvent event gate).Holds streamId :=
    fun streamId => holds_handleEvent hnone (h.holds streamId)
  have hcarried : ∀ object ∈ f.history.admitted, f.delivery.client.Carries object := by
    intro object hmem
    rcases h.noLoss object hmem with hcarries | ⟨task, htask, -⟩
    · exact hcarries
    · rw [hnone] at htask
      cases htask
  cases event with
  | streamClosed streamId =>
    refine ⟨hsources, h.live, fun object hmem => .inl (hcarried object hmem), fun task htask => ?_,
      h.finishing, hholds⟩
    simp only [Forwarding.handleEvent, hnone] at htask
    cases htask
  | subgroupObject streamId object headerInfo =>
    refine ⟨hsources, h.live, fun other hmem => ?_, fun task htask => ?_, h.finishing, hholds⟩
    · simp only [Forwarding.handleEvent] at hmem ⊢
      split at hmem
      · next hadmitted =>
        rw [if_pos hadmitted]
        rcases List.mem_append.mp hmem with hmem | hmem
        · exact .inl (hcarried other hmem)
        · rw [List.mem_singleton] at hmem
          exact .inr ⟨_, rfl, hmem.symm, rfl⟩
      · exact .inl (hcarried other hmem)
    · simp only [Forwarding.handleEvent] at htask
      split at htask
      · next hadmitted =>
        cases htask
        simp only [Served, HeadHas, hqueue] at hserved
        exact ⟨hserved hadmitted, fun _ hstage => (by cases hstage), fun _ hi => (by cases hi),
          fun hstage => (by cases hstage)⟩
      · cases htask

theorem Serving.giveUpEvent (h : f.Serving) {entryDropped : Bool} (hsources : f'.Sources)
    (hserved : f.Served (.giveUpEvent entryDropped))
    (hstep : f.step (.giveUpEvent entryDropped) = some f') : f'.Serving := by
  obtain ⟨event, queue, hnone, hqueue, rfl⟩ := giveUpEvent_eq_some hstep
  have hholds : ∀ streamId,
      ({ f with queue := queue }.giveUpEvent event entryDropped).Holds streamId :=
    fun streamId => holds_giveUpEvent (h.holds streamId)
  have hidle : ∀ task ∈ f.task, False := by simp [hnone]
  cases event with
  | streamClosed streamId =>
    cases entryDropped with
    | false =>
      exact ⟨hsources, h.live, h.noLoss, fun task htask => (hidle task htask).elim, h.finishing,
        hholds⟩
    | true =>
      exact ⟨hsources, h.live, h.noLoss, fun task htask => (hidle task htask).elim, h.finishing,
        hholds⟩
  | subgroupObject streamId object headerInfo =>
    simp only [Served, HeadHas, hqueue] at hserved
    refine ⟨hsources, h.live, fun other hmem => ?_, fun task htask => (hidle task htask).elim,
      h.finishing, hholds⟩
    simp only [Forwarding.giveUpEvent, if_neg hserved] at hmem
    exact h.noLoss other hmem

/-- What is given up is already written. -/
theorem Serving.giveUp (h : f.Serving) {n : Nat} {fails : Bool} (hsources : f'.Sources)
    (hserved : f.Served (.giveUp n fails)) (hstep : f.step (.giveUp n fails) = some f') :
    f'.Serving := by
  obtain ⟨task, htask, rfl⟩ := giveUp_eq_some hstep
  have hwritten := hserved task htask
  have hstage : ∃ i, task.stage = .releasing i ∨ task.stage = .storing i := by
    simp only [EventTask.isUnwritten] at hwritten
    split at hwritten
    · next i hstage => exact ⟨i, .inl hstage⟩
    · next i hstage => exact ⟨i, .inr hstage⟩
    · cases hwritten
  have hdelivery : f.delivery.giveUp task n fails = f.delivery := by
    obtain ⟨i, hstage | hstage⟩ := hstage <;> simp [Delivery.giveUp, hstage]
  refine ⟨hsources, ?_, fun object hmem => ?_, fun _ hnone => (Option.not_mem_none _ hnone).elim, ?_,
    fun streamId => ?_⟩
  · rw [hdelivery]
    exact h.live
  · rw [hdelivery]
    rcases h.noLoss object hmem with hcarries | ⟨other, hother, -, hunwritten⟩
    · exact .inl hcarries
    · rw [htask, Option.mem_some_iff] at hother
      rw [← hother, hwritten] at hunwritten
      cases hunwritten
  · rw [hdelivery]
    exact h.finishing
  · refine (h.holds streamId).imp (fun hkey => holds_key (by rw [hdelivery]; exact hkey))
      (fun hskip => holds_skipped (by rw [hdelivery]; exact hskip))
      (fun header hpend => holds_pending header (by rw [hdelivery]; exact hpend)) (fun hbrings => ?_)
      lose_headerLost
    have hhas := ((brings_iff htask).mp hbrings).2
    obtain ⟨i, hstage | hstage⟩ := hstage <;> simp [EventTask.bringsHeader, hstage] at hhas

theorem Serving.proceedUpdate (h : f.Serving) (hsources : f'.Sources)
    (hstep : f.step (.proceedUpdate .fine) = some f') : f'.Serving := by
  obtain ⟨update, d, next, -, hupdate, rfl⟩ := proceedUpdate_eq_some hstep
  have hkeeps := hupdate.keeps
  have hskipped : d.sub.skippedStreamHeaders = f.delivery.sub.skippedStreamHeaders :=
    hupdate.skippedStreamHeaders
  refine ⟨hsources, hkeeps.live h.live, fun object hmem => ?_, fun task htask => ?_,
    fun i hi => hkeeps.unreachable (h.finishing i hi),
    fun streamId => (h.holds streamId).proceedUpdate hupdate⟩
  · rw [historyAfterUpdate_admitted] at hmem
    exact (h.noLoss object hmem).imp_left (hkeeps.carries object)
  · exact (h.task task htask).goesOn (fun i _ => hkeeps.has _ i) hskipped historyAfterUpdate_lost

/-- A stream that no key leads to is finished, and it is not the one of the object in hand. -/
theorem Serving.finishStream (h : f.Serving) {k : Nat} (hsources : f'.Sources)
    (hserved : f.Served (.finishStream k)) (hstep : f.step (.finishStream k) = some f') :
    f'.Serving := by
  obtain ⟨i, hget, rfl⟩ := finishStream_eq_some hstep
  have hunreachable := (h.finishing i (List.mem_of_getElem? hget)).2
  have hkept : ∀ {j P}, f.delivery.client.Has j P → j ≠ i →
      (f.delivery.client.modifyStream i fun stream => { stream with finished := true }).Has j P :=
    fun hhas hne => hhas.modify_ne hne _
  refine ⟨hsources, ?_, fun object hmem => ?_, fun task htask => ?_, fun j hj => ?_, h.holds⟩
  · intro streamId j hkey
    exact hkept (h.live streamId j hkey) fun heq => hunreachable streamId (heq ▸ hkey)
  · refine (h.noLoss object hmem).imp_left fun hcarries => ?_
    obtain ⟨j, hj⟩ := Client.carries_iff.mp hcarries
    exact Client.carries_iff.mpr ⟨j, hj.modify_of fun _ hwritten => hwritten⟩
  · refine (h.task task htask).goesOn (fun j hj hhas => hkept hhas fun heq => ?_) rfl id
    exact hserved i hget task htask (heq ▸ hj)
  · obtain ⟨hlt, hkeys⟩ := h.finishing j (List.mem_of_mem_eraseIdx hj)
    refine ⟨?_, hkeys⟩
    simpa [Client.modifyStream] using hlt

theorem Serving.closeStream (h : f.Serving) {k : Nat} (hsources : f'.Sources)
    (hstep : f.step (.closeStream k) = some f') : f'.Serving := by
  obtain ⟨streamId, -, ⟨-, rfl⟩ | ⟨i, hkey, rfl⟩⟩ := closeStream_eq_some hstep
  · exact ⟨hsources, h.live, h.noLoss,
      fun task htask => (h.task task htask).goesOn (fun _ _ hhas => hhas) rfl id, h.finishing, h.holds⟩
  · have hkeeps := (Client.Keeps.refl f.delivery.client).take streamId
    refine ⟨hsources, hkeeps.live h.live, h.noLoss, fun task htask => (h.task task htask).goesOn
      (fun _ _ hhas => hhas) rfl lose_headerLost, fun j hj => ?_, fun other => ?_⟩
    rotate_left
    · refine (h.holds other).imp (fun hother => ?_) (fun hskip => holds_skipped hskip)
        (fun header hpend => holds_pending header hpend) (fun hbrings => holds_brings hbrings)
        lose_headerLost
      by_cases heq : other = streamId
      · exact holds_lost (heq ▸ lose_self _ _)
      · exact holds_key (by simpa [Client.takeStream, Function.update_of_ne heq] using hother)
    rcases List.mem_append.mp hj with hj | hj
    · exact hkeeps.unreachable (h.finishing j hj)
    · rw [List.mem_singleton] at hj
      subst hj
      have hhas := h.live streamId j hkey
      refine ⟨hhas.lt, fun other hother => ?_⟩
      by_cases heq : other = streamId
      · subst heq
        simp [Client.takeStream] at hother
      · simp only [Client.takeStream, Function.update_of_ne heq] at hother
        obtain ⟨stream, -, hself, hsame⟩ := hhas.and (h.live other j hother)
        exact heq (hsame.1.symm.trans hself.1)

/-- The publishers' side moves. -/
theorem Serving.of_same (h : f.Serving) (hsources : f'.Sources) (hsame : f.SameSubscription f') :
    f'.Serving := by
  obtain ⟨hdelivery, htask, -, -, hfinishing, hhistory⟩ := hsame
  have hbrings : ∀ streamId, f.Brings streamId → f'.Brings streamId := by
    intro streamId hbrings
    unfold Brings
    rw [htask]
    exact hbrings
  refine ⟨hsources, ?_, fun object hmem => ?_, fun task hmem => ?_, ?_, fun streamId => ?_⟩
  · rw [hdelivery]
    exact h.live
  · rw [hhistory] at hmem
    rw [hdelivery, htask]
    exact h.noLoss object hmem
  · rw [htask] at hmem
    refine (h.task task hmem).goesOn (fun _ _ hhas => ?_) (by rw [hdelivery]) (by rw [hhistory]; exact id)
    rw [hdelivery]
    exact hhas
  · rw [hfinishing, hdelivery]
    exact h.finishing
  · exact (h.holds streamId).imp (fun hkey => holds_key (by rw [hdelivery]; exact hkey))
      (fun hskip => holds_skipped (by rw [hdelivery]; exact hskip))
      (fun header hpend => holds_pending header (by rw [hdelivery]; exact hpend))
      (fun hold => holds_brings (hbrings streamId hold)) (by rw [hhistory]; exact id)

theorem Serving.step {action : Action} (h : f.Serving) (hfine : action.Fine)
    (hserved : f.Served action) (hstep : f.step action = some f') : f'.Serving := by
  have hsources : f'.Sources := h.sources.step hstep
  cases action with
  | openUpstream bytes => exact h.of_same hsources (openUpstream_same hstep)
  | receive u bytes => exact h.of_same hsources (receive_same hstep)
  | closeUpstream u => exact h.of_same hsources (closeUpstream_same hstep)
  | proceedUpstream u => exact h.of_same hsources (proceedUpstream_same hstep)
  | subscribe => exact h.of_same hsources (subscribe_same hstep)
  | handle gate => exact h.handle hsources hserved hstep
  | proceed io =>
    cases (show io = .fine from hfine)
    exact h.proceed hsources hserved hstep
  | giveUpEvent entryDropped => exact h.giveUpEvent hsources hserved hstep
  | giveUp n fails => exact h.giveUp hsources hserved hstep
  | update update =>
    obtain ⟨-, rfl⟩ := update_eq_some hstep
    obtain ⟨-, -, hpending, hskipped, -⟩ := Delivery.applyUpdate_fields f.delivery.sub update
    have hholds : ∀ streamId, f.Holds streamId → Holds { f with
        delivery := { f.delivery with sub := Delivery.applyUpdate f.delivery.sub update }
        updating :=
          if update.forward = some true && !f.delivery.sub.forward then some .taking else none }
        streamId :=
      fun streamId hold => hold.imp (fun hkey => holds_key hkey)
        (fun hskip => holds_skipped (by rw [hskipped]; exact hskip))
        (fun header hpend => holds_pending header (by rw [hpending]; exact hpend))
        (fun hbrings => holds_brings hbrings) id
    exact ⟨hsources, h.live, h.noLoss,
      fun task htask => (h.task task htask).goesOn (fun _ _ hhas => hhas) hskipped id, h.finishing,
      fun streamId => hholds streamId (h.holds streamId)⟩
  | proceedUpdate io =>
    cases (show io = .fine from hfine)
    exact h.proceedUpdate hsources hstep
  | resolveLiveStart largest =>
    cases hstep
    obtain ⟨start, hsub⟩ := Delivery.resolveLiveStart_fields f.delivery.sub largest
    have hholds : ∀ streamId, f.Holds streamId → Holds { f with
        delivery := { f.delivery with sub := f.delivery.sub.resolveLiveStart largest } } streamId := by
      intro streamId hold
      rw [hsub]
      exact hold
    refine ⟨hsources, h.live, h.noLoss, fun task htask => ?_, h.finishing,
      fun streamId => hholds streamId (h.holds streamId)⟩
    exact (h.task task htask).goesOn (fun _ _ hhas => hhas) (by rw [hsub]) id
  | closeStream k => exact h.closeStream hsources hstep
  | finishStream k => exact h.finishStream hsources hserved hstep

theorem Serving.init (retainedGroups : Nat) (trackAlias : UInt64) (forward : Bool)
    (filter : LocationFilter) (rangeFilter : Object → Bool) :
    (Forwarding.init retainedGroups (.new trackAlias forward filter rangeFilter)).Serving where
  sources := Sources.init retainedGroups trackAlias forward filter rangeFilter
  live := nofun
  noLoss := nofun
  task := fun _ hnone => (Option.not_mem_none _ hnone).elim
  finishing := nofun
  holds := fun _ => holds_lost rfl

/-! The object in hand does not stay there. -/

/-- The steps a task still takes, at most. -/
def stepsLeft : EventStage → Nat
  | .clearing => 7
  | .joining => 6
  | .header ⟨_, .opening⟩ => 5
  | .header ⟨_, .writing _ _⟩ => 4
  | .header ⟨_, .removing⟩ => 1
  | .coding _ => 3
  | .writing _ _ => 2
  | .releasing _ => 2
  | .storing _ => 1

theorem stepsLeft_lt {d d' : Delivery} {active : StreamId → Option SubgroupHeader}
    {task : EventTask} {stage : EventStage}
    (hstep : d.ObjectStep active task .fine d' (some stage)) :
    stepsLeft stage < stepsLeft task.stage := by
  cases hstep with
  | opens hstage handles =>
    rw [hstage]
    rename_i call _
    obtain ⟨header, before⟩ := call
    cases handles with
    | adds hcall bytes key =>
      cases hcall
      exact Nat.lt_succ_self 4
    | refuses hcall accepts =>
      cases hcall
      simp [stepsLeft]
  | opened hstage handles =>
    rw [hstage]
    rename_i call _
    obtain ⟨header, before⟩ := call
    cases handles with
    | finds hcall bytes key =>
      cases hcall
      simp [stepsLeft]
    | writes hcall accepts =>
      cases hcall
      simp [stepsLeft]
  | clearsOwn hstage own => simp [hstage, stepsLeft]
  | clearsOpen hstage own key => simp [hstage, stepsLeft]
  | clears hstage own key => simp [hstage, stepsLeft]
  | finds hstage held => simp [hstage, stepsLeft]
  | codes hstage coded => simp [hstage, stepsLeft]
  | writes hstage outcome => simp [hstage, stepsLeft]
  | stopped hstage outcome => cases outcome
  | releases hstage => simp [hstage, stepsLeft]

/-- The task is done with the object in hand after a few more steps of its own. -/
def Ends (f : Forwarding) : Prop :=
  ∃ n ≤ 7, ∃ f', run step f (List.replicate n (.proceed .fine)) = some f' ∧ f'.task = none

theorem exists_run_proceed (n : Nat) : ∀ f : Forwarding,
    (∀ task ∈ f.task, stepsLeft task.stage ≤ n) →
      ∃ m ≤ n, ∃ f', run step f (List.replicate m (.proceed .fine)) = some f' ∧ f'.task = none := by
  induction n with
  | zero =>
    intro f hleft
    refine ⟨0, le_rfl, f, rfl, ?_⟩
    cases htask : f.task with
    | none => rfl
    | some task =>
      have hzero := hleft task htask
      have hpos : 0 < stepsLeft task.stage := by
        unfold stepsLeft
        split <;> decide
      omega
  | succ n ih =>
    intro f hleft
    cases htask : f.task with
    | none => exact ⟨0, Nat.zero_le _, f, rfl, htask⟩
    | some task =>
      have hstep : f.step (.proceed .fine) = some (f.handleObject task .fine) := by
        simp [Forwarding.step, htask]
      obtain ⟨task', d, next, htask', hobject, heq⟩ := proceed_eq_some hstep
      rw [htask, Option.some.injEq] at htask'
      subst htask'
      obtain ⟨m, hm, f', hrun, hdone⟩ := ih (f.handleObject task .fine) fun later hlater => by
        rw [heq] at hlater
        obtain ⟨stage, rfl, rfl⟩ := Option.map_eq_some_iff.mp hlater
        have hlt := stepsLeft_lt hobject
        have hle := hleft task htask
        dsimp only
        omega
      refine ⟨m + 1, by omega, f', ?_, hdone⟩
      simp [List.replicate_succ, run, hstep, hrun]

theorem ends (f : Forwarding) : f.Ends := by
  refine exists_run_proceed 7 f fun task _ => ?_
  unfold stepsLeft
  split <;> decide

/-- In every run whose steps are served, whatever its publishers, no admitted object is lost: it
is on a stream unless its task is yet to write it, and that comes to an end. -/
theorem run_noLoss (retainedGroups : Nat) (trackAlias : UInt64) (forward : Bool)
    (filter : LocationFilter) (rangeFilter : Object → Bool) (actions : List Action)
    (f : Forwarding)
    (hrun : run step (init retainedGroups (.new trackAlias forward filter rangeFilter)) actions =
      some f)
    (hfine : ∀ action ∈ actions, action.Fine)
    (hserved : Along step Served (init retainedGroups (.new trackAlias forward filter rangeFilter))
      actions) : f.NoLoss ∧ f.Ends := by
  have hstep : ∀ s a s', Serving s → a.Fine ∧ Served s a → step s a = some s' → Serving s' :=
    fun _ _ _ h hs hst => h.step hs.1 hs.2 hst
  have hserving := run_invariant hstep actions _ f
    (Serving.init retainedGroups trackAlias forward filter rangeFilter)
    ((Along.of_forall actions _ hfine).and actions _ hserved) hrun
  exact ⟨hserving.noLoss, f.ends⟩

/-- Two publishers of one subgroup, from their headers to the end of both streams: the second one's
first object is a duplicate, its second one is new and goes to the stream the first publisher's
header opened, and both streams are closed behind it. -/
def redundant : List Action :=
  List.flatten [[.subscribe, .openUpstream [0x30, 3, 0], .openUpstream [0x30, 4, 0],
    .receive 0 [0, 1, 0xAA], .receive 1 [0, 1, 0xAA], .proceedUpstream 0, .proceedUpstream 0],
    received 1 [0, 1, 0xBB] 1, ended 0, ended 1, handled 6, handled 4, handled 0, handled 0,
    [.closeStream 0, .finishStream 0, .closeStream 0]]

theorem run_noLoss_redundant :
    ∃ f, run step (init 4 (.new 9 true .none fun _ => true)) redundant = some f ∧
      (f.history.admitted.length, f.queue.length, f.closing.length) = (2, 0, 0) ∧ f.NoLoss := by
  have hadmitted : (run step (init 4 (.new 9 true .none fun _ => true)) redundant).map (fun f =>
      (f.history.admitted.length, f.queue.length, f.closing.length)) = some (2, 0, 0) := by
    decide +kernel
  obtain ⟨f, hrun, hlengths⟩ := Option.map_eq_some_iff.mp hadmitted
  exact ⟨f, hrun, hlengths, (run_noLoss 4 9 true .none (fun _ => true) redundant f hrun
    (by decide +kernel) (by decide +kernel)).1⟩

/-- An admitted Object ID that is on no stream while nothing is in hand. -/
theorem not_noLoss (id : UInt64) (htask : f.task = none)
    (hadmitted : id ∈ f.history.admitted.map (·.location.object))
    (hwritten : ∀ ids ∈ f.delivery.client.streams.map fun stream =>
      stream.written.map (·.location.object), id ∉ ids) : ¬ f.NoLoss := by
  intro h
  obtain ⟨object, hmem, rfl⟩ := List.mem_map.mp hadmitted
  rcases h object hmem with ⟨stream, hstream, hobject⟩ | ⟨task, hhas, -⟩
  · exact hwritten _ (List.mem_map_of_mem hstream) (List.mem_map_of_mem hobject)
  · rw [htask] at hhas
    cases hhas

/-- The first publisher closes its stream between the two objects of the second one. -/
def overtaken : List Action :=
  List.flatten [[.subscribe, .openUpstream [0x30, 3, 0], .openUpstream [0x30, 4, 0],
    .receive 0 [0, 1, 0xAA], .receive 1 [0, 1, 0xAA], .proceedUpstream 0, .proceedUpstream 0], ended 0,
    received 1 [0, 1, 0xBB] 1, handled 6, handled 0, [.closeStream 0, .finishStream 0], handled 2]

/-- The header of the second publisher went with its duplicate, and the shared stream with the
first publisher: its new object is admitted and written nowhere. -/
theorem overtaken_object_lost :
    ¬ ∀ (retainedGroups : Nat) (trackAlias : UInt64) (forward : Bool) (filter : LocationFilter)
      (rangeFilter : Object → Bool) (actions : List Action) (f : Forwarding),
      run step (init retainedGroups (.new trackAlias forward filter rangeFilter)) actions =
        some f → (∀ action ∈ actions, action.Fine) → f.NoLoss := by
  intro h
  have hcounts : (run step (init 4 (.new 9 true .none fun _ => true)) overtaken).map (fun f =>
      (f.history.admitted.map (·.location.object),
        f.delivery.client.streams.map fun stream => stream.written.map (·.location.object),
        f.task)) = some ([0, 1], [[0]], none) := by decide +kernel
  obtain ⟨f, hrun, hf⟩ := Option.map_eq_some_iff.mp hcounts
  simp only [Prod.mk.injEq] at hf
  obtain ⟨hadmitted, hwritten, htask⟩ := hf
  have hlost : ¬ f.NoLoss := by
    refine not_noLoss 1 htask ?_ ?_
    · rw [hadmitted]
      decide
    · rw [hwritten]
      decide
  exact hlost (h 4 9 true .none (fun _ => true) overtaken f hrun (by decide +kernel))

end Forwarding

end Moqtail
