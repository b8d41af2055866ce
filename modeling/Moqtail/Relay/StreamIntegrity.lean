import Moqtail.Relay.StreamReading

/-! What a subscriber reads off the streams the relay opens for it.

The previous Object ID of a stream, the flags of its header and the stream itself are kept in
different maps, and a task that has looked in one of them may find another one changed when it
gets there. The invariant ties the three together, and says of each task what it still relies on
at the place it has come to. `Clean` names the steps that keep the tie. -/
namespace Moqtail

open Lib

/-! What a task relies on. -/

namespace SendStream

/-- Stream `streamId`, with `id` the last Object ID on it if it takes more. -/
def LastIs (streamId : StreamId) (id : Option UInt64) (stream : SendStream) : Prop :=
  stream.streamId = streamId ∧ (stream.isOver = true ∨ stream.lastId = id)

theorem Evolves.lastId {stream stream' : SendStream} (h : stream.Evolves stream') :
    stream'.lastId = stream.lastId := by
  rw [SendStream.lastId, h.written, SendStream.lastId]

theorem LastIs.evolves {streamId : StreamId} {id : Option UInt64} {stream stream' : SendStream}
    (h : stream.LastIs streamId id) (hevolves : stream.Evolves stream') :
    stream'.LastIs streamId id := by
  refine ⟨hevolves.streamId.trans h.1, ?_⟩
  rw [hevolves.lastId]
  exact h.2.imp_left hevolves.ends

/-- An object that was to be written is the last one, if the stream takes more. -/
theorem writeObject_last (stream : SendStream) (object : Object) (bytes : Bytes)
    (outcome : WriteOutcome) : (stream.writeObject object bytes outcome).isOver = true ∨
      (stream.writeObject object bytes outcome).lastId = some object.location.object := by
  cases hover : stream.isOver with
  | true =>
    rw [writeObject_of_isOver hover]
    exact .inl hover
  | false =>
    cases outcome with
    | ok => exact .inr (by simp [writeObject, lastId, accepts, hover])
    | closedOrStopped n =>
      simp only [writeObject, writeAll, hover]
      exact .inl rfl
    | other n =>
      simp only [writeObject, writeAll, hover]
      exact .inl rfl

theorem Follows.evolves {object : Object} {bytes : Bytes} {stream stream' : SendStream}
    (h : stream.Follows object bytes) (hevolves : stream.Evolves stream') :
    stream'.Follows object bytes := by
  unfold Follows
  rw [hevolves.lastId]
  exact h.imp_left hevolves.ends

theorem Awaits.finished {trackAlias : UInt64} {header : SubgroupHeader} {payload : Bytes}
    {stream : SendStream} (h : stream.Awaits trackAlias header payload) :
    { stream with finished := true }.Awaits trackAlias header payload :=
  ⟨h.opened, h.payload, h.unwritten, .inl (by simp [isOver])⟩

/-- An object that fits a stream whose header is still to be written finds it over. -/
theorem Awaits.isOver_of_fits {trackAlias : UInt64} {header : SubgroupHeader} {payload : Bytes}
    {stream : SendStream} (h : stream.Awaits trackAlias header payload) {object : Object}
    (hfits : stream.Fits object) : stream.isOver = true := by
  refine hfits.resolve_right fun hready => ?_
  rw [h.unwritten] at hready
  exact Bool.noConfusion hready.1

end SendStream

namespace Client

variable {client : Client} {trackAlias : UInt64}

/-- Stream `i` of `streamId` has its header still to be written. -/
def AwaitsHeader (client : Client) (trackAlias : UInt64) (streamId : StreamId)
    (header : SubgroupHeader) (i : Nat) (payload : Bytes) : Prop :=
  client.Has i fun stream => stream.streamId = streamId ∧ stream.Awaits trackAlias header payload

def HeaderHolds (client : Client) (trackAlias : UInt64) (streamId : StreamId) (call : HeaderCall) :
    Prop :=
  match call.stage with
  | .opening => True
  | .writing i payload => client.AwaitsHeader trackAlias streamId call.header i payload
  | .removing => True

/-- What a task with an object in hand relies on. -/
def TaskHolds (client : Client) (trackAlias : UInt64) (task : EventTask) : Prop :=
  match task.stage with
  | .clearing => True
  | .joining => True
  | .header call => client.HeaderHolds trackAlias task.streamId call
  | .coding i => client.Has i fun stream => stream.streamId = task.streamId
  | .writing i bytes => client.Has i fun stream =>
      stream.streamId = task.streamId ∧ stream.Follows task.object bytes
  | .releasing i => client.Has i fun stream =>
      stream.LastIs task.streamId (some task.object.location.object)
  | .storing i => client.Has i fun stream =>
      stream.LastIs task.streamId (some task.object.location.object)

/-- What an update relies on. -/
def UpdateHolds (client : Client) (trackAlias : UInt64) : UpdateTask → Prop
  | .taking => True
  | .header streamId call => client.HeaderHolds trackAlias streamId call
  | .resetting streamId i => client.Has i fun stream => stream.streamId = streamId

end Client

namespace Client

variable {client client' : Client} {trackAlias : UInt64} {streamId : StreamId} {call : HeaderCall}
  {task : EventTask} {update : UpdateTask}

/-- A step that works on stream `i` alone, without writing an object to it. -/
structure Evolves (client client' : Client) (i : Option Nat) : Prop where
  has : ∀ {j P}, client.Has j P → (∀ stream stream', P stream → stream.Evolves stream' → P stream') →
    client'.Has j P
  others : ∀ {j P}, client.Has j P → i ≠ some j →
    (∀ stream : SendStream, P stream → P { stream with finished := true }) → client'.Has j P

theorem HeaderHolds.evolves {i : Option Nat} (h : client.HeaderHolds trackAlias streamId call)
    (hevolves : client.Evolves client' i) (hne : ∀ j, call.heads = some j → i ≠ some j) :
    client'.HeaderHolds trackAlias streamId call := by
  unfold HeaderHolds at h ⊢
  cases hstage : call.stage with
  | opening => trivial
  | writing j payload =>
    simp only [hstage] at h ⊢
    exact hevolves.others h (hne j (by rw [HeaderCall.heads, hstage]))
      fun _ hstream => ⟨hstream.1, hstream.2.finished⟩
  | removing => trivial

theorem TaskHolds.evolves {i : Option Nat} (h : client.TaskHolds trackAlias task)
    (hevolves : client.Evolves client' i) (hne : ∀ j, task.heads = some j → i ≠ some j) :
    client'.TaskHolds trackAlias task := by
  unfold TaskHolds at h ⊢
  cases hstage : task.stage with
  | clearing => trivial
  | joining => trivial
  | header call =>
    simp only [hstage] at h ⊢
    exact HeaderHolds.evolves h hevolves fun j hj =>
      hne j (by rw [EventTask.heads, hstage, ← hj])
  | coding j =>
    simp only [hstage] at h ⊢
    exact hevolves.has h fun _ _ hid hstream => hstream.streamId.trans hid
  | writing j bytes =>
    simp only [hstage] at h ⊢
    exact hevolves.has h fun _ _ hfollows hstream =>
      ⟨hstream.streamId.trans hfollows.1, hfollows.2.evolves hstream⟩
  | releasing j =>
    simp only [hstage] at h ⊢
    exact hevolves.has h fun _ _ hlast hstream => hlast.evolves hstream
  | storing j =>
    simp only [hstage] at h ⊢
    exact hevolves.has h fun _ _ hlast hstream => hlast.evolves hstream

theorem UpdateHolds.evolves {i : Option Nat} (h : client.UpdateHolds trackAlias update)
    (hevolves : client.Evolves client' i) (hne : ∀ j, update.heads = some j → i ≠ some j) :
    client'.UpdateHolds trackAlias update := by
  cases update with
  | taking => trivial
  | header streamId call => exact HeaderHolds.evolves h hevolves hne
  | resetting streamId j => exact hevolves.has h fun _ _ hid hstream => hstream.streamId.trans hid

/-- An object is written, whole or in part, to a stream it fits. -/
theorem UpdateHolds.modify {i : Nat} (h : client.UpdateHolds trackAlias update) {object : Object}
    (hfits : client.Has i (SendStream.Fits · object)) {change : SendStream → SendStream}
    (hid : ∀ stream : SendStream, (change stream).streamId = stream.streamId)
    (hover : ∀ stream : SendStream, stream.isOver = true → change stream = stream) :
    (client.modifyStream i change).UpdateHolds trackAlias update := by
  cases update with
  | taking => trivial
  | resetting streamId j => exact Has.modify_of h fun stream hstream => (hid stream).trans hstream
  | header streamId call =>
    simp only [UpdateHolds, HeaderHolds] at h ⊢
    cases hstage : call.stage with
    | opening => trivial
    | writing j payload =>
      simp only [hstage] at h ⊢
      by_cases heq : j = i
      · subst heq
        refine Has.modify (h.and hfits) (fun _ stream hstream => ?_) fun _ _ hstream => hstream.1
        rw [hover stream (hstream.1.2.isOver_of_fits hstream.2)]
        exact hstream.1
      · exact Has.modify_ne h heq change
    | removing => trivial

theorem UpdateHolds.writeStreamObject {i : Nat} (h : client.UpdateHolds trackAlias update)
    {object : Object} (hfits : client.Has i (SendStream.Fits · object)) (bytes : Bytes)
    (outcome : WriteOutcome) :
    (client.writeStreamObject i object bytes outcome).UpdateHolds trackAlias update :=
  h.modify hfits (fun stream => stream.writeObject_streamId object bytes outcome)
    fun _ hover => SendStream.writeObject_of_isOver hover object bytes outcome

theorem HeaderHolds.heads_lt (h : client.HeaderHolds trackAlias streamId call) {i : Nat}
    (hheads : call.heads = some i) : i < client.streams.length := by
  unfold HeaderHolds at h
  unfold HeaderCall.heads at hheads
  split at hheads
  · next hstage =>
    cases hheads
    simp only [hstage] at h
    exact h.lt
  · cases hheads

theorem TaskHolds.heads_lt (h : client.TaskHolds trackAlias task) {i : Nat}
    (hheads : task.heads = some i) : i < client.streams.length := by
  unfold TaskHolds at h
  unfold EventTask.heads at hheads
  split at hheads
  · next hstage =>
    simp only [hstage] at h
    exact HeaderHolds.heads_lt h hheads
  · cases hheads

theorem UpdateHolds.heads_lt (h : client.UpdateHolds trackAlias update) {i : Nat}
    (hheads : update.heads = some i) : i < client.streams.length := by
  cases update with
  | header streamId call => exact HeaderHolds.heads_lt h hheads
  | _ => cases hheads

theorem Evolves.refl (client : Client) : client.Evolves client none :=
  ⟨fun h _ => h, fun h _ _ => h⟩

theorem Evolves.take {i : Option Nat} (h : client.Evolves client' i) (streamId : StreamId) :
    client.Evolves (client'.takeStream streamId) i :=
  ⟨fun hhas hstable => (h.has hhas hstable).take streamId,
    fun hhas hne hstable => (h.others hhas hne hstable).take streamId⟩

theorem evolves_add (client : Client) (streamId : StreamId) (header : SubgroupHeader) :
    client.Evolves (client.addStream streamId header) none :=
  ⟨fun h _ => h.add streamId header, fun h _ _ => h.add streamId header⟩

theorem evolves_modify (client : Client) (i : Nat) {change : SendStream → SendStream}
    (hchange : ∀ stream : SendStream, stream.Evolves (change stream)) :
    client.Evolves (client.modifyStream i change) (some i) :=
  ⟨fun h hstable => h.modify_of fun stream hstream => hstable stream _ hstream (hchange stream),
    fun h hne _ => h.modify_ne (fun heq => hne (congrArg some heq.symm)) change⟩

theorem evolves_finish (client : Client) (i : Nat) :
    client.Evolves (client.modifyStream i fun stream => { stream with finished := true }) none :=
  ⟨fun h hstable => h.modify_of fun stream hstream => hstable stream _ hstream stream.finished_evolves,
    fun h _ hstable => h.modify_of hstable⟩

end Client

/-! The subscription with its send streams. -/

namespace Delivery

variable {d d' : Delivery} {entryOf : StreamId → Option Nat} {streamId : StreamId}
  {call : HeaderCall} {task : EventTask} {update : UpdateTask} {io : Transport}
  {active : StreamId → Option SubgroupHeader}

/-- The previous Object ID the next object of a stream is coded against. -/
def entry (d : Delivery) (streamId : StreamId) : Option UInt64 :=
  (d.sub.sendStreamLastObjectIds streamId).join

/-- Every stream can be read, each key is that of its stream, and so is each entry. -/
structure Inv (d : Delivery) (entryOf : StreamId → Option Nat) : Prop where
  streams : ∀ (i : Nat) (stream : SendStream), d.client.streams[i]? = some stream →
    stream.Inv d.sub.trackAlias
  keys : ∀ streamId i, d.client.sendStreams streamId = some i →
    d.client.Has i fun stream => stream.streamId = streamId
  entries : ∀ streamId i, entryOf streamId = some i →
    d.client.Has i (SendStream.LastIs streamId (d.entry streamId))

/-- A step that leaves the streams, the keys and the entries alone. -/
theorem Inv.of_same (h : d.Inv entryOf) (hclient : d'.client = d.client)
    (halias : d'.sub.trackAlias = d.sub.trackAlias)
    (hentries : d'.sub.sendStreamLastObjectIds = d.sub.sendStreamLastObjectIds) :
    d'.Inv entryOf where
  streams := by rw [hclient, halias]; exact h.streams
  keys := by rw [hclient]; exact h.keys
  entries := by
    simp only [entry, hclient, hentries]
    exact h.entries

theorem Inv.modify (h : d.Inv entryOf) {i : Nat} {change : SendStream → SendStream}
    (hevolves : ∀ stream : SendStream, stream.Evolves (change stream))
    (hinv : ∀ stream : SendStream, d.client.streams[i]? = some stream →
      (change stream).Inv d.sub.trackAlias) :
    Inv { d with client := d.client.modifyStream i change } entryOf where
  streams := by
    intro j stream hget
    obtain ⟨before, hbefore, rfl⟩ := Client.get_modify hget
    split
    · next heq => exact hinv before (heq ▸ hbefore)
    · exact h.streams j before hbefore
  keys := fun other j hkey =>
    (h.keys other j hkey).modify_of fun stream hid => (hevolves stream).streamId.trans hid
  entries := fun other j hentry =>
    (h.entries other j hentry).modify_of fun stream hlast => hlast.evolves (hevolves stream)

theorem Inv.take (h : d.Inv entryOf) (streamId : StreamId) :
    Inv { d with client := d.client.takeStream streamId } entryOf where
  streams := h.streams
  keys := by
    intro other j hkey
    by_cases heq : other = streamId
    · subst heq
      simp [Client.takeStream] at hkey
    · simp only [Client.takeStream, Function.update_of_ne heq] at hkey
      exact h.keys other j hkey
  entries := h.entries

theorem Inv.add (h : d.Inv entryOf) {header : SubgroupHeader} (hheader : HeaderFor streamId header) :
    Inv { d with client := d.client.addStream streamId header } entryOf where
  streams := by
    intro i stream hget
    rcases Client.get_add hget with hbefore | ⟨-, rfl⟩
    · exact h.streams i stream hbefore
    · exact .of_unwritten hheader rfl rfl
  keys := by
    intro other j hkey
    by_cases heq : other = streamId
    · subst heq
      simp only [Client.addStream, Function.update_self, Option.some.injEq] at hkey
      subst hkey
      exact (d.client.has_added other header).mono fun stream hstream => by rw [hstream]
    · simp only [Client.addStream, Function.update_of_ne heq] at hkey
      exact (h.keys other j hkey).add streamId header
  entries := fun other j hentry => (h.entries other j hentry).add streamId header

/-- The entry of `streamId` becomes that of stream `i`, or of none. -/
theorem Inv.noteEntry (h : d.Inv entryOf) (id : Option (Option UInt64)) (i : Option Nat)
    (hi : ∀ j, i = some j → d.client.Has j (SendStream.LastIs streamId id.join)) :
    Inv { d with sub := { d.sub with
        sendStreamLastObjectIds := Function.update d.sub.sendStreamLastObjectIds streamId id } }
      (Function.update entryOf streamId i) where
  streams := h.streams
  keys := h.keys
  entries := by
    intro other j hentry
    by_cases heq : other = streamId
    · subst heq
      simp only [Function.update_self] at hentry
      simpa [entry] using hi j hentry
    · simp only [Function.update_of_ne heq] at hentry
      simpa [entry, Function.update_of_ne heq] using h.entries other j hentry

theorem Inv.dropEntry (h : d.Inv entryOf) :
    (d.dropLastObjectId streamId).Inv (Function.update entryOf streamId none) :=
  h.noteEntry none none fun _ hnone => by cases hnone

/-! `handle_header`. -/

theorem HeaderStep.evolves {result : HeaderResult} (hstep : HeaderStep d call io d' result) :
    d.client.Evolves d'.client call.heads := by
  unfold HeaderCall.heads
  cases hstep with
  | fails stage why => simpa only [stage] using .refl _
  | finds stage bytes key => simpa only [stage] using .refl _
  | adds stage bytes key => simpa only [stage] using d.client.evolves_add _ _
  | writes stage accepts =>
    simp only [stage]
    exact d.client.evolves_modify _ fun stream => stream.writeHeader_evolves _ _
  | refuses stage accepts =>
    simp only [stage]
    exact d.client.evolves_modify _ fun stream => stream.writeHeader_evolves _ _
  | removes stage => simpa only [stage] using (Client.Evolves.refl _).take _

theorem HeaderStep.trackAlias {result : HeaderResult} (hstep : HeaderStep d call io d' result) :
    d'.sub.trackAlias = d.sub.trackAlias := by
  obtain ⟨n, hsub⟩ := hstep.sub_eq
  rw [hsub]

theorem Inv.handleHeader (h : d.Inv entryOf) (hfor : HeaderFor streamId call.header)
    (hholds : d.client.HeaderHolds d.sub.trackAlias streamId call) {result : HeaderResult}
    (hstep : HeaderStep d call io d' result) : d'.Inv entryOf := by
  unfold Client.HeaderHolds at hholds
  have hwrite : ∀ {i payload}, call.stage = .writing i payload →
      Inv { d with client := d.client.modifyStream i fun stream =>
        stream.writeHeader payload io.write } entryOf := by
    intro i payload hstage
    simp only [hstage] at hholds
    exact h.modify (fun stream => stream.writeHeader_evolves payload io.write) fun stream hget =>
      (h.streams i stream hget).writeHeader (hholds.of_get hget).2 io.write
  cases hstep with
  | fails stage why => exact h
  | finds stage bytes key => exact h.of_same rfl rfl rfl
  | adds stage bytes key =>
    rw [hfor.streamId]
    exact h.add hfor
  | writes stage accepts => exact (hwrite stage).of_same rfl rfl rfl
  | refuses stage accepts => exact hwrite stage
  | removes stage => exact h.take _

/-- What the caller goes on with. -/
theorem Inv.handleHeader_result (h : d.Inv entryOf) (hfor : HeaderFor streamId call.header)
    (hholds : d.client.HeaderHolds d.sub.trackAlias streamId call) {result : HeaderResult}
    (hstep : HeaderStep d call io d' result) :
    (∀ next, result = .goesOn next →
      d'.client.HeaderHolds d'.sub.trackAlias streamId ⟨call.header, next⟩) ∧
    ∀ i, result = .stream i → d'.client.Has i fun stream => stream.streamId = streamId := by
  unfold Client.HeaderHolds at hholds
  cases hstep with
  | fails stage why => exact ⟨nofun, nofun⟩
  | finds stage bytes key =>
    refine ⟨nofun, fun i heq => ?_⟩
    cases heq
    exact h.keys _ _ (hfor.streamId ▸ key)
  | adds stage bytes key =>
    refine ⟨fun next heq => ?_, nofun⟩
    cases heq
    refine (d.client.has_added _ call.header).mono fun stream hstream => ?_
    rw [hstream]
    exact ⟨hfor.streamId, rfl, bytes, rfl, .inr rfl⟩
  | writes stage accepts =>
    refine ⟨nofun, fun i heq => ?_⟩
    cases heq
    simp only [stage] at hholds
    exact hholds.modify (fun _ stream hstream =>
      (stream.writeHeader_evolves _ io.write).streamId.trans hstream.1) fun _ _ hstream => hstream.1
  | refuses stage accepts => exact ⟨by rintro _ ⟨⟩; trivial, nofun⟩
  | removes stage => exact ⟨nofun, nofun⟩

/-- A stream opened now is not one that some other task opened before. -/
theorem HeaderStep.heads_eq {next : HeaderStage} (hstep : HeaderStep d call io d' (.goesOn next))
    {i : Nat} (hheads : HeaderCall.heads ⟨call.header, next⟩ = some i) :
    i = d.client.streams.length := by
  cases hstep with
  | adds stage bytes key => exact (Option.some.inj hheads).symm
  | refuses stage accepts => cases hheads

/-! The task with an object in hand. -/

theorem ObjectStep.evolves {next : Option EventStage} (hstep : ObjectStep d active task io d' next)
    (hstage : ∀ i bytes, task.stage ≠ .writing i bytes) : d.client.Evolves d'.client task.heads := by
  unfold EventTask.heads
  cases hstep with
  | clearsOwn stage own => simpa only [stage] using .refl _
  | clearsOpen stage own key => simpa only [stage] using .refl _
  | clears stage own key => simpa only [stage] using .refl _
  | finds stage held => simpa only [stage] using .refl _
  | findsNone stage held => simpa only [stage] using .refl _
  | opens stage handles => simpa only [stage] using handles.evolves
  | opensNone stage handles => simpa only [stage] using handles.evolves
  | opened stage handles => simpa only [stage] using handles.evolves
  | codes stage coded =>
    rw [(d.resetOwn_fields task.headerInfo).1]
    simpa only [stage] using .refl _
  | codesNone stage coded =>
    rw [(d.resetOwn_fields task.headerInfo).1]
    simpa only [stage] using .refl _
  | writes stage outcome => exact absurd stage (hstage _ _)
  | stopped stage outcome => exact absurd stage (hstage _ _)
  | releases stage => simpa only [stage] using (Client.Evolves.refl _).take _
  | stores stage => simpa only [stage] using .refl _

theorem ObjectStep.trackAlias {next : Option EventStage}
    (hstep : ObjectStep d active task io d' next) : d'.sub.trackAlias = d.sub.trackAlias := by
  cases hstep with
  | opens stage handles => exact handles.trackAlias
  | opensNone stage handles => exact handles.trackAlias
  | opened stage handles => exact handles.trackAlias
  | codes stage coded => exact (d.resetOwn_fields task.headerInfo).2.2.2.2
  | codesNone stage coded => exact (d.resetOwn_fields task.headerInfo).2.2.2.2
  | _ => rfl

/-- The object is coded against the last one on stream `i`, unless that takes nothing more. -/
def CodesFor (d : Delivery) (entryOf : StreamId → Option Nat) (task : EventTask) (i : Nat) : Prop :=
  ∀ stream ∈ d.client.streams[i]?, stream.isOver = true ∨
    if task.headerInfo.isSome then stream.written = []
    else entryOf task.streamId = some i ∨ (stream.written = [] ∧ d.entry task.streamId = none)

theorem Inv.follows (h : d.Inv entryOf) (hok : TaskOk task) {i : Nat} {bytes : Bytes}
    (hhas : d.client.Has i fun stream => stream.streamId = task.streamId)
    (hcodes : d.CodesFor entryOf task i)
    (hcoded : task.object.coded
      ((d.resetOwn task.headerInfo).sub.sendStreamLastObjectIds task.streamId).join = some bytes) :
    d.client.Has i fun stream =>
      stream.streamId = task.streamId ∧ stream.Follows task.object bytes := by
  obtain ⟨stream, hget, hid⟩ := hhas
  refine ⟨stream, hget, hid, ?_⟩
  rcases hcodes stream hget with hover | hcodes
  · exact .inl hover
  cases hown : task.headerInfo with
  | some header =>
    have hwritten : stream.written = [] := by simpa [hown] using hcodes
    refine .inr ?_
    simpa [hown, resetOwn, resetLastObjectId, Subscription.setLastObjectId,
      (hok.headerFor hown).streamId, SendStream.lastId, hwritten] using hcoded
  | none =>
    rw [hown] at hcodes hcoded
    rcases hcodes with hentry | ⟨hwritten, hnone⟩
    · refine (h.entries _ _ hentry).of_get hget |>.2.imp_right fun hlast => ?_
      rw [hlast]
      exact hcoded
    · refine .inr ?_
      have hlast : stream.lastId = d.entry task.streamId := by
        rw [SendStream.lastId, hwritten, hnone]
        rfl
      rw [hlast]
      exact hcoded

/-- Stream `i` as the entry under its id has just been reset: it is that stream's if nothing has
been written to it. -/
theorem lastIs_of_reset {i : Nat} {client : Client}
    (hhas : client.Has i fun stream => stream.streamId = streamId) :
    ∀ j, (if client.streams[i]?.any fun stream => stream.written.isEmpty then some i else none) =
      some j → client.Has j (SendStream.LastIs streamId none) := by
  intro j hj
  split at hj
  · next hany =>
    cases hj
    obtain ⟨stream, hget, hid⟩ := hhas
    refine ⟨stream, hget, hid, .inr ?_⟩
    simp only [hget, Option.any_some, List.isEmpty_iff] at hany
    rw [SendStream.lastId, hany]
    rfl
  · cases hj

/-- The object goes to stream `i`, and the entry is that of the object before until it is stored. -/
theorem Inv.writeStreamObject (h : d.Inv entryOf) (hok : TaskOk task) {i : Nat} {bytes : Bytes}
    (hhas : d.client.Has i fun stream =>
      stream.streamId = task.streamId ∧ stream.Follows task.object bytes)
    (hfits : d.client.Has i (SendStream.Fits · task.object)) (outcome : WriteOutcome) :
    Inv { d with client := d.client.writeStreamObject i task.object bytes outcome }
      (Function.update entryOf task.streamId none) := by
  obtain ⟨o, hasProperties, hview, -⟩ := hok.event
  refine ⟨?_, ?_, ?_⟩
  · intro j stream hget
    obtain ⟨before, hbefore, rfl⟩ := Client.get_modify hget
    split
    · next heq =>
      subst heq
      obtain ⟨hid, hfollows⟩ := hhas.of_get hbefore
      exact (h.streams i before hbefore).writeObject (hid ▸ hview) (hfits.of_get hbefore) hfollows
        outcome
    · exact h.streams j before hbefore
  · intro other j hkey
    exact (h.keys other j hkey).modify_of fun stream hid =>
      (stream.writeObject_streamId _ _ _).trans hid
  · intro other j hentry
    by_cases heq : other = task.streamId
    · subst heq
      simp at hentry
    · simp only [Function.update_of_ne heq] at hentry
      refine (h.entries other j hentry).modify_ne ?_ _
      rintro rfl
      obtain ⟨stream, -, hlast, hstream⟩ := (h.entries other j hentry).and hhas
      exact heq (hlast.1.symm.trans hstream.1)

/-- The written object is the last of its stream, if the stream takes more. -/
theorem lastIs_of_write {i : Nat} {bytes : Bytes} {object : Object}
    (hhas : d.client.Has i fun stream =>
      stream.streamId = streamId ∧ stream.Follows object bytes) (outcome : WriteOutcome) :
    (d.client.writeStreamObject i object bytes outcome).Has i
      (SendStream.LastIs streamId (some object.location.object)) := by
  refine hhas.modify (fun _ stream hstream => ?_) fun hne => absurd rfl hne
  exact ⟨(stream.writeObject_streamId _ _ _).trans hstream.1, stream.writeObject_last _ _ _⟩

theorem Inv.giveUp (h : d.Inv entryOf) (hok : TaskOk task)
    (hholds : d.client.TaskHolds d.sub.trackAlias task)
    (hfits : ∀ i bytes, task.stage = .writing i bytes →
      d.client.Has i (SendStream.Fits · task.object)) (n : Nat) (fails : Bool) :
    (d.giveUp task n fails).Inv entryOf := by
  unfold Client.TaskHolds at hholds
  unfold Delivery.giveUp
  split
  · next header i payload hstage =>
    simp only [hstage] at hholds
    exact h.modify (fun stream => stream.giveUp_evolves payload n fails) fun stream hget =>
      (h.streams i stream hget).giveUpHeader (hholds.of_get hget).2 n fails
  · next i bytes hstage =>
    simp only [hstage] at hholds
    obtain ⟨o, hasProperties, hview, -⟩ := hok.event
    refine h.modify (fun stream => stream.giveUp_evolves bytes n fails) fun stream hget => ?_
    obtain ⟨hid, hfollows⟩ := hholds.of_get hget
    exact (h.streams i stream hget).giveUpObject (hid ▸ hview) ((hfits i bytes hstage).of_get hget)
      hfollows n fails
  · exact h

/-- An update goes on as before when the object in hand is given up. -/
theorem updateHolds_giveUp {trackAlias : UInt64} (h : d.client.UpdateHolds trackAlias update)
    (hfits : ∀ i bytes, task.stage = .writing i bytes →
      d.client.Has i (SendStream.Fits · task.object))
    (hapart : ∀ i, task.heads = some i → update.heads ≠ some i) (n : Nat) (fails : Bool) :
    (d.giveUp task n fails).client.UpdateHolds trackAlias update := by
  unfold Delivery.giveUp
  split
  · next header i payload hstage =>
    have hevolves := d.client.evolves_modify i fun stream => stream.giveUp_evolves payload n fails
    refine h.evolves hevolves fun j hj heq => hapart j ?_ hj
    rw [EventTask.heads, hstage]
    exact heq
  · next i bytes hstage =>
    exact h.modify (hfits i bytes hstage) (fun stream => (stream.giveUp_evolves _ _ _).streamId)
      fun stream hover => SendStream.giveUp_of_isOver hover bytes n fails
  · exact h

theorem skip_same (sub : Subscription) (streamId : StreamId) (headerInfo : Option SubgroupHeader)
    (verdict : Verdict) : (sub.skip streamId headerInfo verdict).trackAlias = sub.trackAlias ∧
      (sub.skip streamId headerInfo verdict).sendStreamLastObjectIds =
        sub.sendStreamLastObjectIds := by
  cases headerInfo <;> cases verdict <;> exact ⟨rfl, rfl⟩

end Delivery

/-! The whole path. -/

namespace Forwarding

variable {f f' : Forwarding}

structure Inv (f : Forwarding) : Prop where
  sources : f.Sources
  delivery : f.delivery.Inv f.history.entryOf
  task : ∀ task ∈ f.task, f.delivery.client.TaskHolds f.delivery.sub.trackAlias task
  updating : ∀ update ∈ f.updating,
    f.delivery.client.UpdateHolds f.delivery.sub.trackAlias update
  apart : ∀ task ∈ f.task, ∀ update ∈ f.updating, ∀ i, task.heads = some i →
    update.heads ≠ some i

/-- The objects whose write succeeded are what the subscriber reads off each stream. -/
def StreamIntegrity (f : Forwarding) : Prop :=
  ∀ stream ∈ f.delivery.client.streams, stream.Intact

/-- An object that is being written fits its stream. -/
def FitsAt (f : Forwarding) (task : EventTask) : Prop :=
  match task.stage with
  | .writing i _ => ∀ stream ∈ f.delivery.client.streams[i]?, stream.Fits task.object
  | _ => True

/-- An object that is being coded is coded for the stream it goes to. -/
def CodesAt (f : Forwarding) (task : EventTask) : Prop :=
  match task.stage with
  | .coding i => f.delivery.CodesFor f.history.entryOf task i
  | _ => True

/-- No object is coded or written for a stream that its previous Object ID or its header does not
belong to, nor behind what an abandoned write has left. -/
def Clean (f : Forwarding) : Action → Prop
  | .proceed _ => ∀ task ∈ f.task, f.CodesAt task ∧ f.FitsAt task
  | .giveUp _ _ => ∀ task ∈ f.task, f.FitsAt task
  | _ => True

instance (d : Delivery) (entryOf : StreamId → Option Nat) (task : EventTask) (i : Nat) :
    Decidable (d.CodesFor entryOf task i) :=
  inferInstanceAs (Decidable (∀ stream ∈ d.client.streams[i]?, _ ∨ _))

instance (f : Forwarding) (task : EventTask) : Decidable (f.FitsAt task) := by
  unfold FitsAt
  split <;> infer_instance

instance (f : Forwarding) (task : EventTask) : Decidable (f.CodesAt task) := by
  unfold CodesAt
  split <;> infer_instance

instance (f : Forwarding) : (action : Action) → Decidable (f.Clean action)
  | .proceed _ => inferInstanceAs (Decidable (∀ task ∈ f.task, f.CodesAt task ∧ f.FitsAt task))
  | .giveUp _ _ => inferInstanceAs (Decidable (∀ task ∈ f.task, f.FitsAt task))
  | .openUpstream _ => inferInstanceAs (Decidable True)
  | .receive _ _ => inferInstanceAs (Decidable True)
  | .closeUpstream _ => inferInstanceAs (Decidable True)
  | .proceedUpstream _ => inferInstanceAs (Decidable True)
  | .subscribe => inferInstanceAs (Decidable True)
  | .handle _ => inferInstanceAs (Decidable True)
  | .giveUpEvent _ => inferInstanceAs (Decidable True)
  | .update _ => inferInstanceAs (Decidable True)
  | .proceedUpdate _ => inferInstanceAs (Decidable True)
  | .resolveLiveStart _ => inferInstanceAs (Decidable True)
  | .closeStream _ => inferInstanceAs (Decidable True)
  | .finishStream _ => inferInstanceAs (Decidable True)

theorem Inv.integrity (h : f.Inv) : f.StreamIntegrity := by
  intro stream hmem
  obtain ⟨i, hi⟩ := List.mem_iff_getElem?.mp hmem
  exact (h.delivery.streams i stream hi).intact

theorem FitsAt.has {task : EventTask} (h : f.FitsAt task)
    (hholds : f.delivery.client.TaskHolds f.delivery.sub.trackAlias task) {i : Nat} {bytes : Bytes}
    (hstage : task.stage = .writing i bytes) :
    f.delivery.client.Has i (SendStream.Fits · task.object) := by
  simp only [FitsAt, hstage] at h
  simp only [Client.TaskHolds, hstage] at hholds
  obtain ⟨stream, hget, -⟩ := hholds
  exact ⟨stream, hget, h stream hget⟩

/-- A step of the publishers' side. -/
theorem Inv.of_same (h : f.Inv) (hsources : f'.Sources) (hdelivery : f'.delivery = f.delivery)
    (htask : f'.task = f.task) (hupdating : f'.updating = f.updating)
    (hentryOf : f'.history.entryOf = f.history.entryOf) : f'.Inv where
  sources := hsources
  delivery := by rw [hdelivery, hentryOf]; exact h.delivery
  task := by rw [hdelivery, htask]; exact h.task
  updating := by rw [hdelivery, hupdating]; exact h.updating
  apart := by rw [htask, hupdating]; exact h.apart

theorem Inv.of_sameSubscription (h : f.Inv) (hsources : f'.Sources) (hsame : f.SameSubscription f') :
    f'.Inv :=
  h.of_same hsources hsame.delivery hsame.task hsame.updating (by rw [hsame.history])

theorem Inv.handleEvent (h : f.Inv) {event : TrackEvent} {queue : List TrackEvent} {gate : Bool}
    (hsources : ({ f with queue := queue }.handleEvent event gate).Sources) :
    ({ f with queue := queue }.handleEvent event gate).Inv := by
  cases event with
  | subgroupObject streamId object headerInfo =>
    obtain ⟨halias, hentries⟩ := Delivery.skip_same f.delivery.sub streamId headerInfo
      (f.delivery.sub.verdict gate { object with trackAlias := f.delivery.sub.trackAlias })
    refine ⟨hsources, h.delivery.of_same rfl halias hentries, fun task htask => ?_, ?_,
      fun task htask update hupdate i hi => ?_⟩
    · simp only [Forwarding.handleEvent] at htask
      split at htask
      · cases htask
        trivial
      · cases htask
    · simp only [Forwarding.handleEvent, halias]
      exact h.updating
    · simp only [Forwarding.handleEvent] at htask
      split at htask
      · cases htask
        cases hi
      · cases htask
  | streamClosed streamId =>
    exact ⟨hsources, h.delivery.dropEntry.of_same rfl rfl rfl, h.task, h.updating, h.apart⟩

theorem Inv.giveUpEvent (h : f.Inv) {event : TrackEvent} {queue : List TrackEvent}
    {entryDropped : Bool}
    (hsources : ({ f with queue := queue }.giveUpEvent event entryDropped).Sources) :
    ({ f with queue := queue }.giveUpEvent event entryDropped).Inv := by
  cases event with
  | subgroupObject streamId object headerInfo =>
    refine h.of_same hsources rfl rfl rfl ?_
    simp only [Forwarding.giveUpEvent]
    split <;> rfl
  | streamClosed streamId =>
    cases entryDropped with
    | false => exact h.of_same hsources rfl rfl rfl rfl
    | true => exact ⟨hsources, h.delivery.dropEntry, h.task, h.updating, h.apart⟩

/-! A step with the object in hand. -/

theorem losePending_entryOf (f : Forwarding) : f.losePending.entryOf = f.history.entryOf := by
  unfold losePending
  split <;> rfl

/-- The headers and keys a step takes away do not change whose the entries are. -/
theorem historyAfter_entryOf (f : Forwarding) (task : EventTask) (next : Option EventStage) :
    (f.historyAfter task next).entryOf =
      match task.stage with
      | .coding i =>
        match task.headerInfo with
        | some header => Function.update f.history.entryOf (buildStreamId header) (f.entryAfterReset i)
        | none => f.history.entryOf
      | .writing _ _ => Function.update f.history.entryOf task.streamId none
      | .storing i => Function.update f.history.entryOf task.streamId (some i)
      | _ => f.history.entryOf := by
  unfold historyAfter
  cases task.stage with
  | clearing => exact f.losePending_entryOf
  | joining => rfl
  | header call =>
    dsimp only
    split <;> rfl
  | coding i => cases task.headerInfo <;> rfl
  | writing i bytes => rfl
  | releasing i => rfl
  | storing i => rfl

theorem historyAfterUpdate_entryOf (f : Forwarding) (task : UpdateTask) (next : Option UpdateTask) :
    (f.historyAfterUpdate task next).entryOf =
      match task with
      | .resetting streamId i => Function.update f.history.entryOf streamId (f.entryAfterReset i)
      | _ => f.history.entryOf := by
  unfold historyAfterUpdate
  cases task with
  | taking => exact f.losePending_entryOf
  | header streamId call =>
    dsimp only
    split <;> rfl
  | resetting streamId i => rfl

/-- The entry under the id of an object's own header is reset when the object is coded. -/
theorem Inv.resetOwn (h : f.Inv) {task : EventTask} (htask : f.task = some task) {i : Nat}
    (hstage : task.stage = .coding i) (next : Option EventStage) :
    (f.delivery.resetOwn task.headerInfo).Inv (f.historyAfter task next).entryOf := by
  have hhas := h.task task htask
  simp only [Client.TaskHolds, hstage] at hhas
  simp only [historyAfter_entryOf, hstage]
  cases hown : task.headerInfo with
  | none => exact h.delivery
  | some header =>
    have hfor := (h.sources.task task htask).headerFor hown
    rw [← hfor.streamId] at hhas
    exact h.delivery.noteEntry (some none) _ (Delivery.lastIs_of_reset hhas)

theorem Inv.handleObject (h : f.Inv) {task : EventTask} {io : Transport} {d : Delivery}
    {next : Option EventStage} (htask : f.task = some task) (hcodes : f.CodesAt task)
    (hfits : f.FitsAt task)
    (hstep : f.delivery.ObjectStep f.track.activeSubgroupHeaders task io d next) :
    d.Inv (f.historyAfter task next).entryOf ∧
      ∀ stage, next = some stage →
        d.client.TaskHolds d.sub.trackAlias { task with stage := stage } := by
  have hok := h.sources.task task htask
  have hholds := h.task task htask
  have hreset := fun i hstage => h.resetOwn htask (i := i) hstage next
  -- whether the stream was stopped or not, the object is its last one if it takes more
  have hwrite : ∀ {i bytes}, task.stage = .writing i bytes →
      Delivery.Inv { f.delivery with
        client := f.delivery.client.writeStreamObject i task.object bytes io.write }
        (Function.update f.history.entryOf task.streamId none) ∧
      (f.delivery.client.writeStreamObject i task.object bytes io.write).Has i
        (SendStream.LastIs task.streamId (some task.object.location.object)) := by
    intro i bytes stage
    have hfitting := hfits.has hholds stage
    simp only [Client.TaskHolds, stage] at hholds
    exact ⟨h.delivery.writeStreamObject hok hholds hfitting io.write,
      Delivery.lastIs_of_write hholds io.write⟩
  rw [historyAfter_entryOf] at hreset ⊢
  cases hstep with
  | clearsOwn stage own =>
    simp only [stage]
    exact ⟨h.delivery.of_same rfl rfl rfl, by rintro _ ⟨⟩; trivial⟩
  | clearsOpen stage own key =>
    simp only [stage]
    refine ⟨h.delivery.of_same rfl rfl rfl, ?_⟩
    rintro _ ⟨⟩
    exact h.delivery.keys _ _ key
  | clears stage own key =>
    simp only [stage]
    exact ⟨h.delivery.of_same rfl rfl rfl, by rintro _ ⟨⟩; trivial⟩
  | finds stage held =>
    simp only [stage]
    exact ⟨h.delivery.of_same rfl rfl rfl, by rintro _ ⟨⟩; trivial⟩
  | findsNone stage held =>
    simp only [stage]
    exact ⟨h.delivery.of_same rfl rfl rfl, nofun⟩
  | opens stage handles =>
    have hfor := hok.header _ stage
    simp only [Client.TaskHolds, stage] at hholds
    simp only [stage]
    refine ⟨h.delivery.handleHeader hfor hholds handles, ?_⟩
    rintro _ ⟨⟩
    exact (h.delivery.handleHeader_result hfor hholds handles).1 _ rfl
  | opensNone stage handles =>
    simp only [Client.TaskHolds, stage] at hholds
    simp only [stage]
    exact ⟨h.delivery.handleHeader (hok.header _ stage) hholds handles, nofun⟩
  | opened stage handles =>
    have hfor := hok.header _ stage
    simp only [Client.TaskHolds, stage] at hholds
    simp only [stage]
    refine ⟨h.delivery.handleHeader hfor hholds handles, ?_⟩
    rintro _ ⟨⟩
    exact (h.delivery.handleHeader_result hfor hholds handles).2 _ rfl
  | codes stage coded =>
    refine ⟨hreset _ stage, ?_⟩
    rintro _ ⟨⟩
    simp only [Client.TaskHolds, stage] at hholds
    simp only [CodesAt, stage] at hcodes
    simp only [Client.TaskHolds, (f.delivery.resetOwn_fields task.headerInfo).1]
    exact h.delivery.follows hok hholds hcodes coded
  | codesNone stage coded => exact ⟨hreset _ stage, nofun⟩
  | writes stage outcome =>
    simp only [stage]
    refine ⟨(hwrite stage).1, ?_⟩
    rintro _ ⟨⟩
    exact (hwrite stage).2
  | stopped stage outcome =>
    simp only [stage]
    refine ⟨(hwrite stage).1, ?_⟩
    rintro _ ⟨⟩
    exact (hwrite stage).2
  | releases stage =>
    simp only [Client.TaskHolds, stage] at hholds
    simp only [stage]
    refine ⟨h.delivery.take _, ?_⟩
    rintro _ ⟨⟩
    exact hholds.take _
  | stores stage =>
    simp only [Client.TaskHolds, stage] at hholds
    simp only [stage]
    refine ⟨h.delivery.noteEntry (some (some task.object.location.object)) _ ?_, nofun⟩
    rintro j ⟨⟩
    exact hholds

theorem Inv.proceed (h : f.Inv) {io : Transport} (hclean : f.Clean (.proceed io))
    (hsources : f'.Sources) (hstep : f.step (.proceed io) = some f') : f'.Inv := by
  obtain ⟨task, d, next, htask, hobject, rfl⟩ := proceed_eq_some hstep
  obtain ⟨hcodes, hfits⟩ := hclean task htask
  obtain ⟨hdelivery, hnext⟩ := h.handleObject htask hcodes hfits hobject
  refine ⟨hsources, hdelivery, fun later hlater => ?_, fun update hupdate => ?_,
    fun later hlater update hupdate i hi hheads => ?_⟩
  · obtain ⟨stage, rfl, rfl⟩ := Option.map_eq_some_iff.mp hlater
    exact hnext stage rfl
  · have hholds := h.updating update hupdate
    dsimp only
    rw [hobject.trackAlias]
    by_cases hwriting : ∃ i bytes, task.stage = .writing i bytes
    · obtain ⟨i, bytes, hstage⟩ := hwriting
      have hfitting := hfits.has (h.task task htask) hstage
      cases hobject with
      | writes stage outcome =>
        obtain ⟨rfl, rfl⟩ := EventStage.writing.inj (hstage.symm.trans stage)
        exact hholds.writeStreamObject hfitting bytes io.write
      | stopped stage outcome =>
        obtain ⟨rfl, rfl⟩ := EventStage.writing.inj (hstage.symm.trans stage)
        exact hholds.writeStreamObject hfitting bytes io.write
      | _ => simp_all
    · simp only [not_exists] at hwriting
      exact hholds.evolves (hobject.evolves hwriting) fun j hj heq =>
        h.apart task htask update hupdate j heq hj
  · obtain ⟨stage, rfl, rfl⟩ := Option.map_eq_some_iff.mp hlater
    -- only a stream that was just opened is to get its header next
    cases hobject with
    | opens hstage handles =>
      have hlt := (h.updating update hupdate).heads_lt hheads
      rw [handles.heads_eq hi] at hlt
      exact lt_irrefl _ hlt
    | _ => cases hi

/-! A step of an update. -/

theorem Inv.openPending (h : f.Inv) {update : UpdateTask} {io : Transport} {d : Delivery}
    {next : Option UpdateTask} (hupdating : f.updating = some update)
    (hstep : f.delivery.UpdateStep io update d next) :
    d.Inv (f.historyAfterUpdate update next).entryOf ∧
      (∀ later, next = some later → d.client.UpdateHolds d.sub.trackAlias later) ∧
      d.sub.trackAlias = f.delivery.sub.trackAlias ∧
      f.delivery.client.Evolves d.client update.heads := by
  have hok := h.sources.updating update hupdating
  have hholds := h.updating update hupdating
  rw [historyAfterUpdate_entryOf]
  cases hstep with
  | takes pending =>
    exact ⟨h.delivery.of_same rfl rfl rfl, by rintro _ ⟨⟩; trivial, rfl, .refl _⟩
  | takesNone pending => exact ⟨h.delivery.of_same rfl rfl rfl, nofun, rfl, .refl _⟩
  | opens handles =>
    refine ⟨h.delivery.handleHeader hok hholds handles, ?_, handles.trackAlias, handles.evolves⟩
    rintro _ ⟨⟩
    exact (h.delivery.handleHeader_result hok hholds handles).1 _ rfl
  | opensNone handles =>
    exact ⟨h.delivery.handleHeader hok hholds handles, nofun, handles.trackAlias, handles.evolves⟩
  | opened handles =>
    refine ⟨h.delivery.handleHeader hok hholds handles, ?_, handles.trackAlias, handles.evolves⟩
    rintro _ ⟨⟩
    exact (h.delivery.handleHeader_result hok hholds handles).2 _ rfl
  | resets =>
    exact ⟨h.delivery.noteEntry (some none) _ (Delivery.lastIs_of_reset hholds), nofun, rfl, .refl _⟩

theorem Inv.proceedUpdate (h : f.Inv) {io : Transport} (hsources : f'.Sources)
    (hstep : f.step (.proceedUpdate io) = some f') : f'.Inv := by
  obtain ⟨update, d, next, hupdating, hupdate, rfl⟩ := proceedUpdate_eq_some hstep
  obtain ⟨hdelivery, hnext, halias, hevolves⟩ := h.openPending hupdating hupdate
  refine ⟨hsources, hdelivery, fun task htask => ?_, fun later hlater => hnext later hlater,
    fun task htask later hlater i hi hheads => ?_⟩
  · dsimp only
    rw [halias]
    exact (h.task task htask).evolves hevolves fun j hj => h.apart task htask update hupdating j hj
  · cases hlater
    cases hupdate with
    | opens handles =>
      have hlt := (h.task task htask).heads_lt hi
      rw [handles.heads_eq hheads] at hlt
      exact lt_irrefl _ hlt
    | _ => cases hheads

/-- The other tasks do not write. -/
theorem Inv.of_evolves (h : f.Inv) (hsources : f'.Sources) (hdelivery : f'.delivery.Inv f.history.entryOf)
    (halias : f'.delivery.sub.trackAlias = f.delivery.sub.trackAlias)
    (hevolves : f.delivery.client.Evolves f'.delivery.client none) (htask : f'.task = f.task)
    (hupdating : f'.updating = f.updating) (hentryOf : f'.history.entryOf = f.history.entryOf) :
    f'.Inv where
  sources := hsources
  delivery := by rw [hentryOf]; exact hdelivery
  task := by
    rw [htask, halias]
    exact fun task hmem => (h.task task hmem).evolves hevolves nofun
  updating := by
    rw [hupdating, halias]
    exact fun update hmem => (h.updating update hmem).evolves hevolves nofun
  apart := by rw [htask, hupdating]; exact h.apart

/-- One clean step keeps the invariant. -/
theorem Inv.step {action : Action} (h : f.Inv) (hclean : f.Clean action)
    (hstep : f.step action = some f') : f'.Inv := by
  have hsources := h.sources.step hstep
  cases action with
  | openUpstream bytes => exact h.of_sameSubscription hsources (openUpstream_same hstep)
  | receive u bytes => exact h.of_sameSubscription hsources (receive_same hstep)
  | closeUpstream u => exact h.of_sameSubscription hsources (closeUpstream_same hstep)
  | proceedUpstream u => exact h.of_sameSubscription hsources (proceedUpstream_same hstep)
  | subscribe => exact h.of_sameSubscription hsources (subscribe_same hstep)
  | handle gate =>
    obtain ⟨event, queue, -, -, rfl⟩ := handle_eq_some hstep
    exact h.handleEvent hsources
  | proceed io => exact h.proceed hclean hsources hstep
  | giveUpEvent entryDropped =>
    obtain ⟨event, queue, -, -, rfl⟩ := giveUpEvent_eq_some hstep
    exact h.giveUpEvent hsources
  | giveUp n fails =>
    obtain ⟨task, htask, rfl⟩ := giveUp_eq_some hstep
    have hfits : ∀ i bytes, task.stage = .writing i bytes →
        f.delivery.client.Has i (SendStream.Fits · task.object) :=
      fun _ _ hstage => (hclean task htask).has (h.task task htask) hstage
    refine ⟨hsources, h.delivery.giveUp (h.sources.task task htask) (h.task task htask) hfits n fails,
      fun _ hnone => (Option.not_mem_none _ hnone).elim, fun update hupdate => ?_,
      fun _ hnone => (Option.not_mem_none _ hnone).elim⟩
    dsimp only
    rw [giveUp_sub]
    exact Delivery.updateHolds_giveUp (h.updating update hupdate) hfits
      (h.apart task htask update hupdate) n fails
  | update update =>
    obtain ⟨hnone, rfl⟩ := update_eq_some hstep
    obtain ⟨halias, hentries, -⟩ := Delivery.applyUpdate_fields f.delivery.sub update
    refine ⟨hsources, h.delivery.of_same rfl halias hentries, ?_, fun task htask => ?_,
      fun _ _ task htask _ _ => ?_⟩
    · dsimp only
      rw [halias]
      exact h.task
    · dsimp only at htask
      split at htask
      · cases htask
        trivial
      · cases htask
    · dsimp only at htask
      split at htask
      · cases htask
        intro hheads
        cases hheads
      · cases htask
  | proceedUpdate io => exact h.proceedUpdate hsources hstep
  | resolveLiveStart largest =>
    cases hstep
    obtain ⟨start, hsub⟩ := Delivery.resolveLiveStart_fields f.delivery.sub largest
    refine h.of_evolves hsources ?_ ?_ (.refl _) rfl rfl rfl
    · rw [hsub]
      exact h.delivery.of_same rfl rfl rfl
    · rw [hsub]
  | closeStream k =>
    obtain ⟨streamId, -, ⟨-, rfl⟩ | ⟨i, -, rfl⟩⟩ := closeStream_eq_some hstep
    · exact h.of_same hsources rfl rfl rfl rfl
    · exact h.of_evolves hsources (h.delivery.take streamId) rfl ((Client.Evolves.refl _).take _) rfl
        rfl rfl
  | finishStream k =>
    obtain ⟨i, -, rfl⟩ := finishStream_eq_some hstep
    refine h.of_evolves hsources ?_ rfl (f.delivery.client.evolves_finish i) rfl rfl rfl
    exact h.delivery.modify (fun stream => stream.finished_evolves) fun stream hget =>
      (h.delivery.streams i stream hget).finished

theorem Inv.init (retainedGroups : Nat) (trackAlias : UInt64) (forward : Bool)
    (filter : LocationFilter) (rangeFilter : Object → Bool) :
    (Forwarding.init retainedGroups (.new trackAlias forward filter rangeFilter)).Inv where
  sources := Sources.init retainedGroups trackAlias forward filter rangeFilter
  delivery := ⟨by simp [Forwarding.init], nofun, nofun⟩
  task := fun _ hnone => (Option.not_mem_none _ hnone).elim
  updating := fun _ hnone => (Option.not_mem_none _ hnone).elim
  apart := fun _ hnone => (Option.not_mem_none _ hnone).elim

/-- In every run whose steps are clean, every stream opened so far is intact. -/
theorem run_streamIntegrity (retainedGroups : Nat) (trackAlias : UInt64) (forward : Bool)
    (filter : LocationFilter) (rangeFilter : Object → Bool) (actions : List Action)
    (f : Forwarding)
    (hrun : run step (init retainedGroups (.new trackAlias forward filter rangeFilter)) actions =
      some f)
    (hclean : Along step Clean (init retainedGroups (.new trackAlias forward filter rangeFilter))
      actions) : f.StreamIntegrity := by
  have hstep : ∀ s a s', Inv s → Clean s a → step s a = some s' → Inv s' :=
    fun _ _ _ h hc hs => h.step hc hs
  have hinv := run_invariant hstep actions _ f
    (Inv.init retainedGroups trackAlias forward filter rangeFilter) hclean hrun
  exact hinv.integrity

/-- Objects 0 and 1 of a subgroup, both written to the stream the first one opens. The write of
object 2 is given up after a byte. -/
def twoObjects : List Action :=
  List.flatten [[.subscribe, .openUpstream [0x30, 3, 0]], received 0 [0, 1, 0xAA] 2,
    received 0 [0, 1, 0xBB] 1, received 0 [0, 1, 0xCC] 1, handled 6, handled 4, handled 2,
    [.giveUp 1 false]]

theorem run_streamIntegrity_twoObjects :
    ∃ f, run step (init 4 (.new 9 true .none fun _ => true)) twoObjects = some f ∧
      (f.delivery.client.streams.map fun stream => (stream.written.length, stream.torn)) =
        [(2, true)] ∧ f.StreamIntegrity := by
  have hwritten : (run step (init 4 (.new 9 true .none fun _ => true)) twoObjects).map (fun f =>
      f.delivery.client.streams.map fun stream => (stream.written.length, stream.torn)) =
        some [(2, true)] := by decide +kernel
  obtain ⟨f, hrun, hstreams⟩ := Option.map_eq_some_iff.mp hwritten
  exact ⟨f, hrun, hstreams, run_streamIntegrity 4 9 true .none (fun _ => true) twoObjects f hrun
    (by decide +kernel)⟩

/-- The peer stops the stream of object 0 while object 1 is written, and object 2 opens a new
one. -/
def reopening : List Action :=
  List.flatten [[.subscribe, .openUpstream [0x30, 3, 0]], received 0 [0, 1, 0xAA] 2,
    received 0 [0, 1, 0xBB] 1, received 0 [0, 1, 0xCC] 1, handled 6, handled 2,
    [.proceed ⟨false, .closedOrStopped 0⟩, .proceed .fine, .proceed .fine], handled 7]

/-- Object 2 is coded against object 1, which its stream does not carry, so that its reader
takes it for object 0. -/
theorem reopened_stream_not_intact :
    ¬ ∀ (retainedGroups : Nat) (trackAlias : UInt64) (forward : Bool) (filter : LocationFilter)
      (rangeFilter : Object → Bool) (actions : List Action) (f : Forwarding),
      run step (init retainedGroups (.new trackAlias forward filter rangeFilter)) actions =
        some f → f.StreamIntegrity := by
  intro h
  have hread : (run step (init 4 (.new 9 true .none fun _ => true)) reopening).map (fun f =>
      f.delivery.client.streams.map fun stream =>
        (stream.headerWritten, stream.readIds, stream.written.map (·.location.object))) =
      some [(true, [0], [0]), (true, [0], [2])] := by decide +kernel
  obtain ⟨f, hrun, hstreams⟩ := Option.map_eq_some_iff.mp hread
  have hmem : (true, [0], [2]) ∈ f.delivery.client.streams.map fun stream =>
      (stream.headerWritten, stream.readIds, stream.written.map (·.location.object)) := by
    rw [hstreams]
    simp
  obtain ⟨stream, hstream, heq⟩ := List.mem_map.mp hmem
  obtain ⟨hheader, hids, hwritten⟩ : stream.headerWritten = true ∧ stream.readIds = [0] ∧
      stream.written.map (·.location.object) = [2] := by simpa using heq
  have hintact := h 4 9 true .none (fun _ => true) reopening f hrun stream hstream
  have hsame := hintact.readIds_eq hheader
  rw [hids, hwritten] at hsame
  exact absurd hsame (by decide)

end Forwarding

end Moqtail
