import Moqtail.Relay.ForwardingSteps

/-! Where the headers and objects on the forwarding path come from.

Every object in an event was read off an upstream stream, and every header that is kept
anywhere is the resolved header of the stream it is kept for. This holds in every reachable
state, whatever the transport does. -/
namespace Moqtail

open Lib

/-- A resolved header of the stream `streamId`. -/
structure HeaderFor (streamId : StreamId) (header : SubgroupHeader) : Prop where
  wellFormed : header.WellFormed
  resolved : header.subgroupId.isSome
  streamId : buildStreamId header = streamId

theorem HeaderFor.forMidSubgroupStream {streamId : StreamId} {header : SubgroupHeader}
    (h : HeaderFor streamId header) : HeaderFor streamId header.forMidSubgroupStream where
  wellFormed := (SubgroupHeader.forMidSubgroupStream_wellFormed h.wellFormed h.resolved).1
  resolved := h.resolved
  streamId := h.streamId

/-- `object` is the view of `o`, read with `hasProperties` on the stream `streamId`. -/
structure ViewOf (streamId : StreamId) (object : Object) (o : SubgroupObject)
    (hasProperties : Bool) : Prop where
  readable : o.Readable hasProperties
  location : object.location = ⟨streamId.groupId, o.objectId⟩
  preference : object.forwardingPreference = .subgroup
  subgroupId : object.subgroupId = streamId.subgroupId
  resolved : streamId.subgroupId.isSome
  status : object.status = o.objectStatus.getD .normal
  properties : object.properties = o.properties
  payload : object.payload = o.payload

/-- A header names its stream and, where the Subgroup ID is the first Object ID, comes with
the object that has it. -/
def EventOk : TrackEvent → Prop
  | .subgroupObject streamId object headerInfo =>
    ∃ o hasProperties, ViewOf streamId object o hasProperties ∧
      ∀ header, headerInfo = some header → HeaderFor streamId header ∧
        header.headerType.hasProperties = hasProperties ∧
        (header.headerType.subgroupIdMode = .firstObjectId →
          streamId.subgroupId = some o.objectId)
  | .streamClosed _ => True

theorem ViewOf.properties_isSome {streamId : StreamId} {object : Object} {o : SubgroupObject}
    {hasProperties : Bool} (h : ViewOf streamId object o hasProperties) :
    object.properties.isSome = hasProperties := by
  have hprops := h.readable.properties
  rw [h.properties]
  cases hp : o.properties with
  | none =>
    rw [hp] at hprops
    exact hprops.symm
  | some props =>
    rw [hp] at hprops
    exact hprops.1.symm

theorem ViewOf.tryIntoSubgroup {streamId : StreamId} {object : Object} {o o' : SubgroupObject}
    {hasProperties : Bool} (h : ViewOf streamId object o hasProperties)
    (hinto : object.tryIntoSubgroup = .ok o') : o' = o := by
  obtain ⟨id, hid⟩ := Option.isSome_iff_exists.mp h.resolved
  have hbody := h.readable.body
  obtain ⟨oid, oproperties, ostatus, opayload⟩ := o
  have hloc := h.location
  have hstatus := h.status
  have hprops := h.properties
  have hpayload := h.payload
  simp only at hloc hstatus hprops hpayload hbody
  unfold Object.tryIntoSubgroup at hinto
  rw [if_neg (by simp [h.preference]), h.subgroupId, hid] at hinto
  rw [hstatus, hpayload] at hinto
  cases opayload with
  | some payload =>
    cases ostatus with
    | some status => simp [SubgroupObject.BodyReadable] at hbody
    | none =>
      simp only [Option.getD_none, Except.ok.injEq] at hinto
      rw [← hinto, hloc, hprops]
  | none =>
    cases ostatus with
    | none => simp [SubgroupObject.BodyReadable] at hbody
    | some status =>
      cases status with
      | normal => simp at hinto
      | endOfGroup =>
        simp only [Option.getD_some, Except.ok.injEq] at hinto
        rw [← hinto, hloc, hprops]
      | endOfTrack =>
        simp only [Option.getD_some, Except.ok.injEq] at hinto
        rw [← hinto, hloc, hprops]

theorem ViewOf.withAlias {streamId : StreamId} {object : Object} {o : SubgroupObject}
    {hasProperties : Bool} (h : ViewOf streamId object o hasProperties) (trackAlias : UInt64) :
    ViewOf streamId { object with trackAlias := trackAlias } o hasProperties :=
  ⟨h.readable, h.location, h.preference, h.subgroupId, h.resolved, h.status, h.properties,
    h.payload⟩

/-! The upstream streams. -/

/-- The event a reader has in hand. -/
def UpstreamStage.pending : UpstreamStage → Option TrackEvent
  | .keeping streamId object header => some (.subgroupObject streamId object (some header))
  | .sending event => some event
  | _ => none

/-- An upstream stream: its header is well formed, unresolved until its first object and
resolved from then on. What its reader is about to send is of this stream. -/
structure UpstreamOk (u : UpstreamStream) : Prop where
  wellFormed : u.header.WellFormed
  unresolved : u.streamId = none → u.header.headerType.subgroupIdMode = .firstObjectId →
    u.header.subgroupId = none
  resolved : ∀ streamId, u.streamId = some streamId → HeaderFor streamId u.header
  pending : ∀ event ∈ u.stage.pending, EventOk event ∧ u.streamId = some event.streamId

theorem UpstreamOk.withStage {u : UpstreamStream} (h : UpstreamOk u) {stage : UpstreamStage}
    (hpending : ∀ event ∈ stage.pending, EventOk event ∧ u.streamId = some event.streamId) :
    UpstreamOk { u with stage := stage } :=
  ⟨h.wellFormed, h.unresolved, h.resolved, hpending⟩

/-- What the reader of an upstream stream hands on. -/
theorem UpstreamOk.readObject {u : UpstreamStream} (h : UpstreamOk u) {bytes : Bytes}
    {header : SubgroupHeader} {object : Object} (hread : u.readObject bytes = .ok (header, object)) :
    HeaderFor (u.streamId.getD (buildStreamId header)) header ∧
      EventOk (.subgroupObject (u.streamId.getD (buildStreamId header)) object
        (if u.streamId.isNone then some header else none)) := by
  unfold UpstreamStream.readObject at hread
  obtain ⟨⟨o, left⟩, hdec, hread⟩ := except_bind_eq_ok.mp hread
  simp only [Object.tryFromSubgroup, except_ok_bind, except_pure, Except.ok.injEq,
    Prod.mk.injEq] at hread
  obtain ⟨rfl, rfl⟩ := hread
  have hreadable := SubgroupObject.deserialize_readable hdec
  have htype : (u.resolvedHeader o.objectId).headerType = u.header.headerType := by
    unfold UpstreamStream.resolvedHeader
    split <;> rfl
  have hwf : (u.resolvedHeader o.objectId).WellFormed ∧
      (u.resolvedHeader o.objectId).subgroupId.isSome := by
    unfold UpstreamStream.resolvedHeader
    split
    · next hcond =>
      simp only [Bool.and_eq_true, SubgroupHeaderType.subgroupIdIsFirstObjectId,
        decide_eq_true_eq] at hcond
      exact ⟨⟨fun hz => by simp [hcond.2] at hz, fun _ => rfl, h.wellFormed.priority⟩, rfl⟩
    · next hcond =>
      refine ⟨h.wellFormed, ?_⟩
      cases hmode : u.header.headerType.subgroupIdMode with
      | zero => simp [h.wellFormed.zero hmode]
      | explicit => exact h.wellFormed.explicit hmode
      | firstObjectId =>
        simpa [SubgroupHeaderType.subgroupIdIsFirstObjectId, hmode,
          Option.isSome_iff_ne_none] using hcond
  have hfor : HeaderFor (u.streamId.getD (buildStreamId (u.resolvedHeader o.objectId)))
      (u.resolvedHeader o.objectId) := by
    cases hid : u.streamId with
    | none => exact ⟨hwf.1, hwf.2, rfl⟩
    | some streamId =>
      have hres := h.resolved streamId hid
      have hsame : u.resolvedHeader o.objectId = u.header := by
        unfold UpstreamStream.resolvedHeader
        have hnone : u.header.subgroupId.isNone = false := by
          rw [Option.isNone_eq_false_iff]
          exact hres.resolved
        simp [hnone]
      exact hsame ▸ hres
  have hgroup : (u.resolvedHeader o.objectId).groupId =
      (u.streamId.getD (buildStreamId (u.resolvedHeader o.objectId))).groupId := by
    rw [← hfor.streamId]; rfl
  have hsubgroup : (u.resolvedHeader o.objectId).subgroupId =
      (u.streamId.getD (buildStreamId (u.resolvedHeader o.objectId))).subgroupId := by
    rw [← hfor.streamId]; rfl
  refine ⟨hfor, o, u.header.headerType.hasProperties, ⟨hreadable, ?_, rfl, hsubgroup, ?_, rfl, rfl,
    rfl⟩, ?_⟩
  · simp only [hgroup]
  · rw [← hsubgroup]
    exact hwf.2
  · intro header hheader
    cases hid : u.streamId with
    | some streamId => simp [hid] at hheader
    | none =>
      simp only [hid, Option.isNone_none, if_true, Option.some.injEq] at hheader
      subst hheader
      rw [hid] at hfor
      refine ⟨hfor, by rw [htype], fun hmode => ?_⟩
      rw [htype] at hmode
      have hnone := h.unresolved hid hmode
      simp [buildStreamId, UpstreamStream.resolvedHeader, hnone,
        SubgroupHeaderType.subgroupIdIsFirstObjectId, hmode]

/-! The subscription. -/

namespace Delivery

/-- The headers a subscription keeps are headers of the streams they are kept for. -/
structure HeadersOk (sub : Subscription) : Prop where
  pending : ∀ streamId header, sub.pendingHeader = some (streamId, header) →
    HeaderFor streamId header
  skipped : ∀ streamId header, sub.skippedStreamHeaders streamId = some header →
    HeaderFor streamId header

variable {d d' : Delivery} {active : StreamId → Option SubgroupHeader} {call : HeaderCall}
  {task : EventTask} {io : Transport}

theorem skipped_of_update {skipped : StreamId → Option SubgroupHeader} {streamId other : StreamId}
    {header : SubgroupHeader} (h : Function.update skipped streamId none other = some header) :
    skipped other = some header := by
  by_cases heq : other = streamId
  · subst heq
    simp at h
  · simpa [Function.update_of_ne heq] using h

theorem HeadersOk.clearPending (h : HeadersOk d.sub) : HeadersOk d.clearPending.sub :=
  ⟨nofun, h.skipped⟩

theorem HeadersOk.dropSkipped (h : HeadersOk d.sub) (streamId : StreamId) :
    HeadersOk (d.dropSkipped streamId).sub :=
  ⟨h.pending, fun _ _ hkept => h.skipped _ _ (skipped_of_update hkept)⟩

theorem HeadersOk.skip {sub : Subscription} (h : HeadersOk sub) {streamId : StreamId}
    {headerInfo : Option SubgroupHeader}
    (hheader : ∀ header, headerInfo = some header → HeaderFor streamId header) (verdict : Verdict) :
    HeadersOk (sub.skip streamId headerInfo verdict) := by
  rcases sub.skip_cases streamId headerInfo verdict with
    heq | ⟨header, hinfo, ⟨-, heq⟩ | ⟨-, heq⟩⟩
  · rw [heq]
    exact h
  · rw [heq]
    refine ⟨h.pending, fun other kept hkept => ?_⟩
    by_cases hother : other = streamId
    · subst hother
      simp only [Function.update_self, Option.some.injEq] at hkept
      exact hkept ▸ hheader header hinfo
    · simp only [Function.update_of_ne hother] at hkept
      exact h.skipped other kept hkept
  · rw [heq]
    refine ⟨fun other kept hkept => ?_, h.skipped⟩
    cases hkept
    exact hheader header hinfo

/-- `handle_header` only counts. -/
theorem HeaderStep.sub_eq {result : HeaderResult} (h : HeaderStep d call io d' result) :
    ∃ n, d'.sub = { d.sub with openedStreamCount := n } := by
  cases h <;> exact ⟨_, rfl⟩

theorem HeadersOk.handleHeader {result : HeaderResult} (h : HeadersOk d.sub)
    (hstep : HeaderStep d call io d' result) : HeadersOk d'.sub := by
  obtain ⟨n, hsub⟩ := hstep.sub_eq
  rw [hsub]
  exact ⟨h.pending, h.skipped⟩

theorem resetOwn_fields (d : Delivery) (headerInfo : Option SubgroupHeader) :
    (d.resetOwn headerInfo).client = d.client ∧
      (d.resetOwn headerInfo).sub.pendingHeader = d.sub.pendingHeader ∧
      (d.resetOwn headerInfo).sub.skippedStreamHeaders = d.sub.skippedStreamHeaders ∧
      (d.resetOwn headerInfo).sub.openedStreamCount = d.sub.openedStreamCount ∧
      (d.resetOwn headerInfo).sub.trackAlias = d.sub.trackAlias := by
  cases headerInfo <;> exact ⟨rfl, rfl, rfl, rfl, rfl⟩

theorem HeadersOk.handleObject {next : Option EventStage} (h : HeadersOk d.sub)
    (hstep : ObjectStep d active task io d' next) : HeadersOk d'.sub := by
  have hreset : HeadersOk (d.resetOwn task.headerInfo).sub := by
    obtain ⟨-, hpending, hskipped, -, -⟩ := d.resetOwn_fields task.headerInfo
    exact ⟨fun _ _ hkept => h.pending _ _ (hpending ▸ hkept),
      fun _ _ hkept => h.skipped _ _ (hskipped ▸ hkept)⟩
  cases hstep with
  | clearsOwn stage own => exact h.clearPending
  | clearsOpen stage own key => exact h.clearPending
  | clears stage own key => exact h.clearPending
  | finds stage held => exact h.dropSkipped _
  | findsNone stage held => exact h.dropSkipped _
  | opens stage handles => exact h.handleHeader handles
  | opensNone stage handles => exact h.handleHeader handles
  | opened stage handles => exact h.handleHeader handles
  | codes stage coded => exact hreset
  | codesNone stage coded => exact hreset
  | writes stage outcome => exact h
  | stopped stage outcome => exact h
  | releases stage => exact h
  | stores stage => exact ⟨h.pending, h.skipped⟩

theorem HeadersOk.openPending {updating : UpdateTask} {next : Option UpdateTask}
    (h : HeadersOk d.sub) (hstep : UpdateStep d io updating d' next) : HeadersOk d'.sub := by
  cases hstep with
  | takes pending => exact h.clearPending
  | takesNone pending => exact h.clearPending
  | opens handles => exact h.handleHeader handles
  | opensNone handles => exact h.handleHeader handles
  | opened handles => exact h.handleHeader handles
  | resets => exact ⟨h.pending, h.skipped⟩

/-! The tasks. -/

/-- The object in hand comes from an event, and the header it is handled with is of its stream. -/
structure TaskOk (task : EventTask) : Prop where
  event : EventOk (.subgroupObject task.streamId task.object task.headerInfo)
  header : ∀ call, task.stage = .header call → HeaderFor task.streamId call.header

def UpdateOk : UpdateTask → Prop
  | .header streamId call => HeaderFor streamId call.header
  | _ => True

theorem TaskOk.headerFor (h : TaskOk task) {header : SubgroupHeader}
    (hown : task.headerInfo = some header) : HeaderFor task.streamId header := by
  obtain ⟨o, hasProperties, -, hheader⟩ := h.event
  exact (hheader header hown).1

theorem TaskOk.handleObject {stage : EventStage} (h : TaskOk task) (hheaders : HeadersOk d.sub)
    (hactive : ∀ streamId header, active streamId = some header → HeaderFor streamId header)
    (hstep : ObjectStep d active task io d' (some stage)) :
    TaskOk { task with stage := stage } := by
  refine ⟨h.event, fun call hcall => ?_⟩
  cases hstep with
  | clearsOwn hstage own =>
    cases hcall
    exact h.headerFor own
  | finds hstage held =>
    cases hcall
    rcases Option.or_eq_some_iff.mp held with hkept | ⟨-, hact⟩
    · exact (hheaders.skipped _ _ hkept).forMidSubgroupStream
    · exact (hactive _ _ hact).forMidSubgroupStream
  | opens hstage handles =>
    cases hcall
    have hfor := h.header _ hstage
    exact hfor
  | _ => cases hcall

theorem UpdateOk.openPending {updating next : UpdateTask} (h : UpdateOk updating)
    (hheaders : HeadersOk d.sub) (hstep : UpdateStep d io updating d' (some next)) :
    UpdateOk next := by
  cases hstep with
  | takes pending => exact (hheaders.pending _ _ pending).forMidSubgroupStream
  | opens handles => exact h
  | opened handles => trivial

end Delivery

/-! The whole path. -/

namespace Forwarding

variable {f f' : Forwarding}

structure Sources (f : Forwarding) : Prop where
  active : ∀ streamId header, f.track.activeSubgroupHeaders streamId = some header →
    HeaderFor streamId header
  queue : ∀ event ∈ f.queue, EventOk event
  upstream : ∀ u ∈ f.upstream, UpstreamOk u
  headers : Delivery.HeadersOk f.delivery.sub
  task : ∀ task ∈ f.task, Delivery.TaskOk task
  updating : ∀ task ∈ f.updating, Delivery.UpdateOk task

/-- A step of the publishers' side. -/
theorem Sources.of_same (h : f.Sources) (hsame : f.SameSubscription f')
    (hactive : ∀ streamId header, f'.track.activeSubgroupHeaders streamId = some header →
      HeaderFor streamId header)
    (hqueue : ∀ event ∈ f'.queue, EventOk event) (hupstream : ∀ u ∈ f'.upstream, UpstreamOk u) :
    f'.Sources where
  active := hactive
  queue := hqueue
  upstream := hupstream
  headers := by
    rw [hsame.delivery]
    exact h.headers
  task := by
    rw [hsame.task]
    exact h.task
  updating := by
    rw [hsame.updating]
    exact h.updating

theorem Sources.set (h : f.Sources) {new : UpstreamStream} (hnew : UpstreamOk new) (u : Nat) :
    ∀ v ∈ f.upstream.set u new, UpstreamOk v := by
  intro v hv
  rcases List.mem_or_eq_of_mem_set hv with hmem | rfl
  · exact h.upstream v hmem
  · exact hnew

theorem Sources.openUpstream (h : f.Sources) {bytes : Bytes}
    (hstep : f.openUpstream bytes = some f') : f'.Sources := by
  obtain ⟨header, rest, hdec, rfl⟩ := openUpstream_eq_some hstep
  refine h.of_same (openUpstream_same hstep) h.active h.queue fun u hu => ?_
  rcases List.mem_append.mp hu with hu | hu
  · exact h.upstream u hu
  · cases List.mem_singleton.mp hu
    exact ⟨SubgroupHeader.deserialize_wellFormed hdec,
      fun _ hmode => SubgroupHeader.deserialize_unresolved hdec hmode,
      fun _ hid => (by cases hid), fun _ hnone => (Option.not_mem_none _ hnone).elim⟩

/-- What `new_subgroup_object` makes of an object before anyone is told of it. -/
theorem newSubgroupObject_spec (track : Track) (streamId : StreamId) (object : Object)
    (headerInfo : Option SubgroupHeader) :
    (track.newSubgroupObject streamId object headerInfo).1.activeSubgroupHeaders =
        track.activeSubgroupHeaders ∧
      (track.newSubgroupObject streamId object headerInfo).2 ≠ .over ∧
      ∀ event ∈ (track.newSubgroupObject streamId object headerInfo).2.pending,
        event = .subgroupObject streamId object headerInfo := by
  unfold Track.newSubgroupObject
  dsimp only
  split
  · exact ⟨rfl, by simp, fun _ hnone => (Option.not_mem_none _ hnone).elim⟩
  · cases headerInfo with
    | none => exact ⟨rfl, by simp, fun event hevent => (Option.some.inj hevent).symm⟩
    | some header => exact ⟨rfl, by simp, fun event hevent => (Option.some.inj hevent).symm⟩

theorem Sources.receive (h : f.Sources) {u : Nat} {bytes : Bytes}
    (hstep : f.receive u bytes = some f') : f'.Sources := by
  obtain ⟨stream, header, object, hget, -, hread, rfl⟩ := receive_eq_some hstep
  obtain ⟨hfor, hevent⟩ := (h.upstream stream (List.mem_of_getElem? hget)).readObject hread
  obtain ⟨hactive, -, hpending⟩ := newSubgroupObject_spec f.track
    (stream.streamId.getD (buildStreamId header)) object
    (if stream.streamId.isNone then some header else none)
  refine h.of_same (receive_same hstep) (by rw [hactive]; exact h.active) h.queue (h.set ?_ u)
  refine ⟨hfor.wellFormed, fun hnone => (by cases hnone), fun other heq => ?_, fun event hmem => ?_⟩
  · cases heq
    exact hfor
  · rw [hpending event hmem]
    exact ⟨hevent, rfl⟩

theorem Sources.closeUpstream (h : f.Sources) {u : Nat} (hstep : f.closeUpstream u = some f') :
    f'.Sources := by
  obtain ⟨stream, hget, -, hcases⟩ := closeUpstream_eq_some hstep
  have hok := h.upstream stream (List.mem_of_getElem? hget)
  rcases hcases with ⟨-, rfl⟩ | ⟨streamId, hid, rfl⟩
  · have hover : UpstreamOk { stream with stage := .over } :=
      hok.withStage fun _ hnone => (Option.not_mem_none _ hnone).elim
    exact h.of_same (closeUpstream_same hstep) h.active h.queue (h.set hover u)
  · refine h.of_same (closeUpstream_same hstep) (fun other kept hkept => ?_) h.queue
      (h.set (hok.withStage fun event hevent => ?_) u)
    · exact h.active other kept (Delivery.skipped_of_update hkept)
    · cases hevent
      exact ⟨trivial, hid⟩

theorem Sources.proceedUpstream (h : f.Sources) {u : Nat}
    (hstep : f.proceedUpstream u = some f') : f'.Sources := by
  obtain ⟨stream, hget, hcases⟩ := proceedUpstream_eq_some hstep
  have hok := h.upstream stream (List.mem_of_getElem? hget)
  rcases hcases with ⟨streamId, object, header, hstage, rfl⟩ | ⟨event, hstage, rfl⟩
  · have hpending := hok.pending (.subgroupObject streamId object (some header))
      (by rw [hstage]; rfl)
    obtain ⟨⟨o, hasProperties, -, hheader⟩, -⟩ := hpending
    refine h.of_same (proceedUpstream_same hstep) (fun other kept hkept => ?_) h.queue
      (h.set (hok.withStage fun event hevent => ?_) u)
    · by_cases heq : other = streamId
      · subst heq
        simp only [Track.keepHeader, Function.update_self, Option.some.injEq] at hkept
        exact hkept ▸ (hheader header rfl).1
      · simp only [Track.keepHeader, Function.update_of_ne heq] at hkept
        exact h.active other kept hkept
    · cases hevent
      exact hok.pending _ (by rw [hstage]; rfl)
  · obtain ⟨hupstream, htrack, hqueue⟩ := sendEvent_fields { f with
      upstream := f.upstream.set u { stream with stage := afterSending event } } event
    have hnone : (afterSending event).pending = none := by cases event <;> rfl
    refine h.of_same (proceedUpstream_same hstep) ?_ (fun other hmem => ?_) ?_
    · rw [htrack]
      exact h.active
    · rcases hqueue other hmem with hmem | rfl
      · exact h.queue other hmem
      · exact (hok.pending other (by rw [hstage]; rfl)).1
    · rw [hupstream]
      exact h.set (hok.withStage (by simp [hnone])) u

theorem Sources.handleEvent (h : f.Sources) {event : TrackEvent} {queue : List TrackEvent}
    (hqueue : f.queue = event :: queue) (gate : Bool) :
    ({ f with queue := queue }.handleEvent event gate).Sources := by
  have hevent := h.queue event (hqueue ▸ List.mem_cons_self)
  have hrest : ∀ other ∈ queue, EventOk other :=
    fun other hmem => h.queue other (hqueue ▸ List.mem_cons_of_mem _ hmem)
  cases event with
  | subgroupObject streamId object headerInfo =>
    obtain ⟨o, hasProperties, hview, hheader⟩ := hevent
    refine ⟨h.active, hrest, h.upstream,
      h.headers.skip (fun header hown => (hheader header hown).1) _, ?_, h.updating⟩
    intro task htask
    simp only [Forwarding.handleEvent] at htask
    split at htask
    · cases htask
      exact ⟨⟨o, hasProperties, hview.withAlias _, hheader⟩, nofun⟩
    · cases htask
  | streamClosed streamId =>
    exact ⟨h.active, hrest, h.upstream, ⟨h.headers.pending,
      fun _ _ hkept => h.headers.skipped _ _ (Delivery.skipped_of_update hkept)⟩, h.task, h.updating⟩

theorem Sources.giveUpEvent (h : f.Sources) {event : TrackEvent} {queue : List TrackEvent}
    (hqueue : f.queue = event :: queue) (entryDropped : Bool) :
    ({ f with queue := queue }.giveUpEvent event entryDropped).Sources := by
  have hrest : ∀ other ∈ queue, EventOk other :=
    fun other hmem => h.queue other (hqueue ▸ List.mem_cons_of_mem _ hmem)
  cases event with
  | subgroupObject streamId object headerInfo =>
    exact ⟨h.active, hrest, h.upstream, h.headers, h.task, h.updating⟩
  | streamClosed streamId =>
    cases entryDropped with
    | false => exact ⟨h.active, hrest, h.upstream, h.headers, h.task, h.updating⟩
    | true =>
      exact ⟨h.active, hrest, h.upstream, ⟨h.headers.pending, h.headers.skipped⟩, h.task,
        h.updating⟩

theorem giveUp_sub (d : Delivery) (task : EventTask) (n : Nat) (fails : Bool) :
    (d.giveUp task n fails).sub = d.sub := by
  unfold Delivery.giveUp
  split <;> rfl

theorem Sources.step {action : Action} (h : f.Sources) (hstep : f.step action = some f') :
    f'.Sources := by
  cases action with
  | openUpstream bytes => exact h.openUpstream hstep
  | receive u bytes => exact h.receive hstep
  | closeUpstream u => exact h.closeUpstream hstep
  | proceedUpstream u => exact h.proceedUpstream hstep
  | subscribe =>
    cases subscribe_eq_some hstep
    exact ⟨h.active, h.queue, h.upstream, h.headers, h.task, h.updating⟩
  | handle gate =>
    obtain ⟨event, queue, -, hqueue, rfl⟩ := handle_eq_some hstep
    exact h.handleEvent hqueue gate
  | proceed io =>
    obtain ⟨task, d, next, htask, hobject, rfl⟩ := proceed_eq_some hstep
    refine ⟨h.active, h.queue, h.upstream, h.headers.handleObject hobject, ?_, h.updating⟩
    intro later hlater
    obtain ⟨stage, rfl, rfl⟩ := Option.map_eq_some_iff.mp hlater
    exact (h.task task htask).handleObject h.headers h.active hobject
  | giveUpEvent entryDropped =>
    obtain ⟨event, queue, -, hqueue, rfl⟩ := giveUpEvent_eq_some hstep
    exact h.giveUpEvent hqueue entryDropped
  | giveUp n fails =>
    obtain ⟨task, htask, rfl⟩ := giveUp_eq_some hstep
    refine ⟨h.active, h.queue, h.upstream, ?_, fun _ hnone => (Option.not_mem_none _ hnone).elim,
      h.updating⟩
    rw [giveUp_sub]
    exact h.headers
  | update update =>
    obtain ⟨-, rfl⟩ := update_eq_some hstep
    obtain ⟨-, -, hpending, hskipped, -⟩ := Delivery.applyUpdate_fields f.delivery.sub update
    refine ⟨h.active, h.queue, h.upstream, ⟨fun _ _ hkept => h.headers.pending _ _ (hpending ▸ hkept),
      fun _ _ hkept => h.headers.skipped _ _ (hskipped ▸ hkept)⟩, h.task, ?_⟩
    intro task htask
    dsimp only at htask
    split at htask
    · cases htask
      trivial
    · cases htask
  | proceedUpdate io =>
    obtain ⟨task, d, next, htask, hupdate, rfl⟩ := proceedUpdate_eq_some hstep
    refine ⟨h.active, h.queue, h.upstream, h.headers.openPending hupdate, h.task, ?_⟩
    rintro later rfl
    exact (h.updating task htask).openPending h.headers hupdate
  | resolveLiveStart largest =>
    simp only [Forwarding.step, Option.some.injEq] at hstep
    subst hstep
    obtain ⟨start, hsub⟩ := Delivery.resolveLiveStart_fields f.delivery.sub largest
    refine ⟨h.active, h.queue, h.upstream, ?_, h.task, h.updating⟩
    rw [hsub]
    exact ⟨h.headers.pending, h.headers.skipped⟩
  | closeStream k =>
    obtain ⟨streamId, -, ⟨-, rfl⟩ | ⟨i, -, rfl⟩⟩ := closeStream_eq_some hstep
    · exact ⟨h.active, h.queue, h.upstream, h.headers, h.task, h.updating⟩
    · exact ⟨h.active, h.queue, h.upstream, h.headers, h.task, h.updating⟩
  | finishStream k =>
    obtain ⟨i, -, rfl⟩ := finishStream_eq_some hstep
    exact ⟨h.active, h.queue, h.upstream, h.headers, h.task, h.updating⟩

theorem new_headers (trackAlias : UInt64) (forward : Bool) (filter : LocationFilter)
    (rangeFilter : Object → Bool) :
    (Subscription.new trackAlias forward filter rangeFilter).pendingHeader = none ∧
      ∀ streamId, (Subscription.new trackAlias forward filter rangeFilter).skippedStreamHeaders
        streamId = none := by
  unfold Subscription.new
  simp only [Subscription.setLocationFilter]
  split <;> exact ⟨rfl, fun _ => rfl⟩

theorem Sources.init (retainedGroups : Nat) (trackAlias : UInt64) (forward : Bool)
    (filter : LocationFilter) (rangeFilter : Object → Bool) :
    (Forwarding.init retainedGroups (.new trackAlias forward filter rangeFilter)).Sources where
  active := by simp [Forwarding.init]
  queue := by simp [Forwarding.init]
  upstream := by simp [Forwarding.init]
  headers := by
    obtain ⟨hpending, hskipped⟩ := new_headers trackAlias forward filter rangeFilter
    exact ⟨fun _ _ hkept => by simp [Forwarding.init, hpending] at hkept,
      fun _ _ hkept => by simp [Forwarding.init, hskipped] at hkept⟩
  task := fun _ hnone => (Option.not_mem_none _ hnone).elim
  updating := fun _ hnone => (Option.not_mem_none _ hnone).elim

end Forwarding

end Moqtail
