import Moqtail.Lib.Monitor
import Moqtail.Relay.NoLoss

/-! No admitted object is lost with a single publisher.

Stream ids are used once, so that the end of a stream comes behind all its objects: the task
that closes the stream takes nothing away from an object that is still to be written. Along the
queue this is a monitor, one for each stream id, whose flag the end of the stream clears. What is
left of `Served` are the headers. -/
namespace Moqtail

open Lib

def Action.finishes : Action → Bool
  | .finishStream _ => true
  | _ => false

namespace Forwarding

variable {f f' : Forwarding}

/-- The first object of a stream is not a duplicate, and its stream has an id of its own. -/
def SingleReceive (f : Forwarding) (u : Nat) (bytes : Bytes) : Prop :=
  ∀ stream ∈ f.upstream[u]?, stream.streamId = none →
    ∀ read ∈ (stream.readObject bytes).toOption,
      (f.track.seenObjects.isDuplicate read.2.location).1 = false ∧
        ∀ v ∈ f.upstream, v.streamId ≠ some (buildStreamId read.1)

instance (f : Forwarding) (u : Nat) (bytes : Bytes) : Decidable (f.SingleReceive u bytes) := by
  unfold SingleReceive
  infer_instance

/-- The steps of a single publisher, which opens one stream for a subgroup. -/
def SinglePublisher (f : Forwarding) : Action → Prop
  | .receive u bytes => f.SingleReceive u bytes
  | _ => True

instance (f : Forwarding) (action : Action) : Decidable (f.SinglePublisher action) := by
  unfold SinglePublisher
  split <;> infer_instance

/-- `Served` but for the task that finishes a stream. -/
def KeepsHeaders (f : Forwarding) (action : Action) : Prop :=
  action.finishes = true ∨ f.Served action

instance (f : Forwarding) (action : Action) : Decidable (f.KeepsHeaders action) :=
  inferInstanceAs (Decidable (_ ∨ _))

/-- The event is an object of the stream. -/
def IsObjectOf (streamId : StreamId) : TrackEvent → Prop
  | .subgroupObject id _ _ => id = streamId
  | .streamClosed _ => False

/-- The end of a stream is for good. -/
def closeAfter (streamId : StreamId) : TrackEvent → Option Bool
  | .subgroupObject _ _ _ => none
  | .streamClosed id => if id = streamId then some false else none

/-- No task is about to close the stream or to finish what was open under its id. -/
def StreamOpen (f : Forwarding) (streamId : StreamId) : Prop :=
  streamId ∉ f.closing ∧ ∀ i ∈ f.finishing,
    ¬ f.delivery.client.Has i fun stream => stream.streamId = streamId

/-- Stream ids are used once, so that nothing follows the end of a stream. -/
structure Single (f : Forwarding) : Prop where
  unique : ∀ (i j : Nat) (v w : UpstreamStream) (streamId : StreamId), f.upstream[i]? = some v →
    f.upstream[j]? = some w → v.streamId = some streamId → w.streamId = some streamId → i = j
  accepts : ∀ streamId, Accepts (IsObjectOf streamId) (closeAfter streamId)
    (f.StreamOpen streamId) f.queue
  atEnd : ∀ streamId, (∀ v ∈ f.upstream, v.streamId = some streamId → v.stage ≠ .over) →
    flagAtEnd (closeAfter streamId) (f.StreamOpen streamId) f.queue
  task : ∀ task ∈ f.task, f.StreamOpen task.streamId

/-- Tasks that close fewer streams leave more of them open. -/
theorem StreamOpen.mono {streamId : StreamId} (h : f.StreamOpen streamId)
    (hclosing : ∀ other ∈ f'.closing, other ∈ f.closing)
    (hfinishing : ∀ i ∈ f'.finishing, i ∈ f.finishing)
    (hlt : ∀ i ∈ f.finishing, i < f.delivery.client.streams.length)
    (hids : ∀ other i, f.delivery.client.Has i (fun stream => stream.streamId = other) →
      f'.delivery.client.Has i fun stream => stream.streamId = other) : f'.StreamOpen streamId := by
  refine ⟨fun hmem => h.1 (hclosing streamId hmem), fun i hi hhas => ?_⟩
  have hbefore := List.getElem?_eq_getElem (hlt i (hfinishing i hi))
  obtain ⟨stream, -, hsame, hid⟩ := (hids _ i ⟨_, hbefore, rfl⟩).and hhas
  exact h.2 i (hfinishing i hi) ⟨_, hbefore, hsame.symm.trans hid⟩

/-- A step of the subscription. -/
theorem Single.goesOn (h : f.Single) (hupstream : f'.upstream = f.upstream)
    (hqueue : f'.queue = f.queue)
    (htask : ∀ task ∈ f'.task, ∃ before ∈ f.task, before.streamId = task.streamId)
    (hopen : ∀ streamId, f.StreamOpen streamId → f'.StreamOpen streamId) : f'.Single := by
  refine ⟨?_, fun streamId => ?_, fun streamId hall => ?_, fun task hmem => ?_⟩
  · rw [hupstream]
    exact h.unique
  · rw [hqueue]
    exact (h.accepts streamId).mono _ (hopen streamId)
  · rw [hupstream] at hall
    rw [hqueue]
    exact flagAtEnd_mono _ (hopen streamId) (h.atEnd streamId hall)
  · obtain ⟨before, hbefore, hid⟩ := htask task hmem
    exact hid ▸ hopen _ (h.task before hbefore)

theorem StreamOpen.of_same {streamId : StreamId} (h : f.StreamOpen streamId)
    (hsame : f.SameSubscription f') : f'.StreamOpen streamId := by
  unfold StreamOpen
  rw [hsame.closing, hsame.finishing, hsame.delivery]
  exact h

/-- A step of the publishers' side that sends nothing. -/
theorem Single.of_same (h : f.Single) (hsame : f.SameSubscription f') (hqueue : f'.queue = f.queue)
    (hunique : ∀ (i j : Nat) (v w : UpstreamStream) (streamId : StreamId), f'.upstream[i]? = some v →
      f'.upstream[j]? = some w → v.streamId = some streamId → w.streamId = some streamId → i = j)
    (hend : ∀ streamId, (∀ v ∈ f'.upstream, v.streamId = some streamId → v.stage ≠ .over) →
      ∀ v ∈ f.upstream, v.streamId = some streamId → v.stage ≠ .over) : f'.Single := by
  refine ⟨hunique, fun streamId => ?_, fun streamId hall => ?_, fun task hmem => ?_⟩
  · rw [hqueue]
    exact (h.accepts streamId).mono _ fun hopen => hopen.of_same hsame
  · rw [hqueue]
    exact flagAtEnd_mono _ (fun hopen => hopen.of_same hsame) (h.atEnd streamId (hend streamId hall))
  · rw [hsame.task] at hmem
    exact (h.task task hmem).of_same hsame

theorem Single.sendEvent (h : f.Single) {upstream : List UpstreamStream} {event : TrackEvent}
    (hunique : ∀ (i j : Nat) (v w : UpstreamStream) (streamId : StreamId), upstream[i]? = some v →
      upstream[j]? = some w → v.streamId = some streamId → w.streamId = some streamId → i = j)
    (hneeds : ∀ streamId, IsObjectOf streamId event →
      ∀ v ∈ f.upstream, v.streamId = some streamId → v.stage ≠ .over)
    (hend : ∀ streamId, (∀ v ∈ upstream, v.streamId = some streamId → v.stage ≠ .over) →
      closeAfter streamId event = none ∧
        ∀ v ∈ f.upstream, v.streamId = some streamId → v.stage ≠ .over) :
    ({ f with upstream := upstream }.sendEvent event).Single := by
  unfold Forwarding.sendEvent
  split
  · refine ⟨hunique, ?_, ?_, h.task⟩
    · intro streamId
      exact (h.accepts streamId).append_singleton _
        fun hneed => h.atEnd streamId (hneeds streamId hneed)
    · intro streamId hopen
      obtain ⟨hkeep, hbefore⟩ := hend streamId hopen
      refine (flagAtEnd_append_singleton event f.queue _).mpr ?_
      unfold flagAfter
      rw [hkeep]
      exact h.atEnd streamId hbefore
  · exact ⟨hunique, h.accepts, fun streamId hopen => h.atEnd streamId (hend streamId hopen).2,
      h.task⟩

/-- An upstream stream moves on, and keeps the id it may have. -/
theorem unique_set {upstream : List UpstreamStream} {u : Nat} {stream : UpstreamStream}
    (new : UpstreamStream)
    (hunique : ∀ (i j : Nat) (v w : UpstreamStream) (streamId : StreamId), upstream[i]? = some v →
      upstream[j]? = some w → v.streamId = some streamId → w.streamId = some streamId → i = j)
    (hget : upstream[u]? = some stream)
    (hnew : ∀ streamId, new.streamId = some streamId → stream.streamId = some streamId ∨
      ∀ v ∈ upstream, v.streamId ≠ some streamId) :
    ∀ (i j : Nat) (v w : UpstreamStream) (streamId : StreamId), (upstream.set u new)[i]? = some v →
      (upstream.set u new)[j]? = some w → v.streamId = some streamId →
        w.streamId = some streamId → i = j := by
  have hself : (upstream.set u new)[u]? = some new :=
    List.getElem?_set_self (List.getElem?_eq_some_iff.mp hget).1
  have hone : ∀ (k : Nat) (v : UpstreamStream) (streamId : StreamId), u ≠ k →
      upstream[k]? = some v → v.streamId = some streamId → new.streamId ≠ some streamId := by
    intro k v streamId hk hv hid hnewId
    rcases hnew streamId hnewId with hstream | hfresh
    · exact hk (hunique u k stream v streamId hget hv hstream hid)
    · exact hfresh v (List.mem_of_getElem? hv) hid
  intro i j v w streamId hi hj hv hw
  by_cases hui : u = i
  · subst hui
    rw [hself, Option.some.injEq] at hi
    subst hi
    by_cases huj : u = j
    · exact huj
    · rw [List.getElem?_set_ne huj] at hj
      exact absurd hv (hone j w streamId huj hj hw)
  · rw [List.getElem?_set_ne hui] at hi
    by_cases huj : u = j
    · subst huj
      rw [hself, Option.some.injEq] at hj
      subst hj
      exact absurd hw (hone i v streamId hui hi hv)
    · rw [List.getElem?_set_ne huj] at hj
      exact hunique i j v w streamId hi hj hv hw

/-- Of the streams with the id of `stream` there is only `stream` itself. -/
theorem Single.eq_of_streamId (h : f.Single) {u : Nat} {stream v : UpstreamStream}
    {streamId : StreamId} (hget : f.upstream[u]? = some stream)
    (hid : stream.streamId = some streamId) (hmem : v ∈ f.upstream)
    (hv : v.streamId = some streamId) : v = stream := by
  obtain ⟨i, hi⟩ := List.mem_iff_getElem?.mp hmem
  have hiu := h.unique i u v stream streamId hi hget hv hid
  subst hiu
  rw [hget, Option.some.injEq] at hi
  exact hi.symm

/-- A stream that moves on was not over before. -/
theorem not_over_of_set {upstream : List UpstreamStream} {u : Nat} {stream new : UpstreamStream}
    {streamId : StreamId} (hget : upstream[u]? = some stream) (hstage : stream.stage ≠ .over)
    (hall : ∀ v ∈ upstream.set u new, v.streamId = some streamId → v.stage ≠ .over) :
    ∀ v ∈ upstream, v.streamId = some streamId → v.stage ≠ .over := by
  intro v hmem hv
  obtain ⟨i, hi⟩ := List.mem_iff_getElem?.mp hmem
  by_cases hui : u = i
  · subst hui
    rw [hget, Option.some.injEq] at hi
    exact hi ▸ hstage
  · exact hall v (List.mem_of_getElem? (by rw [List.getElem?_set_ne hui, hi])) hv

theorem Single.openUpstream (h : f.Single) {bytes : Bytes}
    (hstep : f.openUpstream bytes = some f') : f'.Single := by
  obtain ⟨header, rest, -, rfl⟩ := openUpstream_eq_some hstep
  refine h.of_same (openUpstream_same hstep) rfl ?_ fun streamId hall v hmem =>
    hall v (List.mem_append_left _ hmem)
  -- the new stream has no id yet
  have hold : ∀ (i : Nat) (v : UpstreamStream) (streamId : StreamId),
      (f.upstream ++ [⟨header, none, none, .reading⟩])[i]? = some v →
        v.streamId = some streamId → f.upstream[i]? = some v := by
    intro i v streamId hi hv
    rw [List.getElem?_append] at hi
    split at hi
    · exact hi
    · rw [List.mem_singleton.mp (List.mem_of_getElem? hi)] at hv
      cases hv
  exact fun i j v w streamId hi hj hv hw =>
    h.unique i j v w streamId (hold i v streamId hi hv) (hold j w streamId hj hw) hv hw

theorem Single.receive (h : f.Single) {u : Nat} {bytes : Bytes}
    (hsingle : f.SingleReceive u bytes) (hstep : f.receive u bytes = some f') : f'.Single := by
  obtain ⟨stream, header, object, hget, hstage, hread, rfl⟩ := receive_eq_some hstep
  refine h.of_same (receive_same hstep) rfl (unique_set _ h.unique hget fun other hother => ?_)
    fun other => not_over_of_set hget (by simp [hstage])
  cases hid : stream.streamId with
  | none =>
    obtain ⟨-, hfresh⟩ := hsingle stream hget hid (header, object) (by rw [hread]; rfl)
    simp only [hid, Option.getD_none, Option.some.injEq] at hother
    exact .inr (hother ▸ hfresh)
  | some old => exact .inl (by simpa [hid] using hother)

theorem Single.closeUpstream (h : f.Single) {u : Nat} (hstep : f.closeUpstream u = some f') :
    f'.Single := by
  obtain ⟨stream, hget, hstage, ⟨-, rfl⟩ | ⟨streamId, -, rfl⟩⟩ := closeUpstream_eq_some hstep
  · exact h.of_same (closeUpstream_same hstep) rfl
      (unique_set { stream with stage := .over } h.unique hget fun _ hid => .inl hid)
      fun other => not_over_of_set hget (by simp [hstage])
  · exact h.of_same (closeUpstream_same hstep) rfl
      (unique_set { stream with stage := .sending (.streamClosed streamId) } h.unique hget
        fun _ hid => .inl hid)
      fun other => not_over_of_set hget (by simp [hstage])

/-- Only the end of a stream clears its flag, and no other stream has its id. -/
theorem Single.proceedUpstream (h : f.Single) (hsources : f.Sources) {u : Nat}
    (hstep : f.proceedUpstream u = some f') : f'.Single := by
  obtain ⟨stream, hget, hcases⟩ := proceedUpstream_eq_some hstep
  have hmem := List.mem_of_getElem? hget
  rcases hcases with ⟨streamId, object, header, hstage, rfl⟩ | ⟨event, hstage, rfl⟩
  · exact h.of_same (proceedUpstream_same hstep) rfl
      (unique_set { stream with stage := .sending (.subgroupObject streamId object (some header)) }
        h.unique hget fun _ hid => .inl hid)
      fun other => not_over_of_set hget (by simp [hstage])
  · obtain ⟨-, hid⟩ := (hsources.upstream stream hmem).pending event (by rw [hstage]; rfl)
    have hunique := unique_set { stream with stage := afterSending event } h.unique hget
      fun _ hsame => .inl hsame
    refine h.sendEvent hunique (fun other hneed v hv hother => ?_) fun other hall =>
      ⟨?_, not_over_of_set hget (by simp [hstage]) hall⟩
    · cases event with
      | streamClosed streamId => exact hneed.elim
      | subgroupObject streamId object headerInfo =>
        rw [h.eq_of_streamId hget hid hv ((show streamId = other from hneed) ▸ hother), hstage]
        simp
    · cases event with
      | subgroupObject streamId object headerInfo => rfl
      | streamClosed streamId =>
        refine if_neg fun heq => ?_
        have hself : ({ stream with stage := .over } : UpstreamStream) ∈
            f.upstream.set u { stream with stage := .over } :=
          List.mem_of_getElem? (List.getElem?_set_self (List.getElem?_eq_some_iff.mp hget).1)
        exact hall _ hself (heq ▸ hid) rfl

theorem Single.popped (h : f.Single) {event : TrackEvent} {queue : List TrackEvent}
    (hqueue : f.queue = event :: queue) (hupstream : f'.upstream = f.upstream)
    (hrest : f'.queue = queue) (htask : ∀ task ∈ f'.task, f'.StreamOpen task.streamId)
    (hopen : ∀ streamId, flagAfter (closeAfter streamId) (f.StreamOpen streamId) event →
      f'.StreamOpen streamId) : f'.Single := by
  refine ⟨?_, fun streamId => ?_, fun streamId hall => ?_, htask⟩
  · rw [hupstream]
    exact h.unique
  · have hall := h.accepts streamId
    rw [hqueue] at hall
    rw [hrest]
    exact hall.2.mono queue (hopen streamId)
  · rw [hupstream] at hall
    have hend := h.atEnd streamId hall
    rw [hqueue] at hend
    rw [hrest]
    exact flagAtEnd_mono queue (hopen streamId) hend

/-- The end of a stream clears its flag, and its flag alone. -/
theorem flagAfter_closeAfter {streamId other : StreamId} {flag : Prop}
    (h : flagAfter (closeAfter other) flag (.streamClosed streamId)) : other ≠ streamId ∧ flag := by
  unfold flagAfter closeAfter at h
  by_cases heq : streamId = other
  · simp [heq] at h
  · simp only [if_neg heq] at h
    exact ⟨fun hsame => heq hsame.symm, h⟩

theorem Single.handle (h : f.Single) {gate : Bool} (hstep : f.step (.handle gate) = some f') :
    f'.Single := by
  obtain ⟨event, queue, hnone, hqueue, rfl⟩ := handle_eq_some hstep
  cases event with
  | subgroupObject streamId object headerInfo =>
    refine h.popped hqueue rfl rfl (fun task htask => ?_) fun _ hflag => hflag
    have hneed := h.accepts streamId
    rw [hqueue] at hneed
    simp only [Forwarding.handleEvent] at htask
    split at htask
    · cases htask
      exact hneed.1 rfl
    · cases htask
  | streamClosed streamId =>
    refine h.popped hqueue rfl rfl (fun task htask => ?_) fun other hflag => ?_
    · rw [show f.task = some task from htask] at hnone
      cases hnone
    · obtain ⟨hne, hopen⟩ := flagAfter_closeAfter hflag
      refine ⟨?_, hopen.2⟩
      simp only [Forwarding.handleEvent, List.mem_append, List.mem_singleton, not_or]
      exact ⟨hopen.1, hne⟩

theorem Single.giveUpEvent (h : f.Single) {entryDropped : Bool}
    (hstep : f.step (.giveUpEvent entryDropped) = some f') : f'.Single := by
  obtain ⟨event, queue, hnone, hqueue, rfl⟩ := giveUpEvent_eq_some hstep
  have hidle : ∀ task : EventTask, f.task ≠ some task := by simp [hnone]
  cases event with
  | subgroupObject streamId object headerInfo =>
    exact h.popped hqueue rfl rfl (fun task htask => absurd htask (hidle task)) fun _ hflag => hflag
  | streamClosed streamId =>
    cases entryDropped with
    | false =>
      exact h.popped hqueue rfl rfl (fun task htask => absurd htask (hidle task))
        fun _ hflag => (flagAfter_closeAfter hflag).2
    | true =>
      exact h.popped hqueue rfl rfl (fun task htask => absurd htask (hidle task))
        fun _ hflag => (flagAfter_closeAfter hflag).2

theorem Single.closeStream (h : f.Single) (hserving : f.Serving) {k : Nat}
    (hstep : f.step (.closeStream k) = some f') : f'.Single := by
  have hlt := fun i hi => (hserving.finishing i hi).1
  obtain ⟨streamId, hget, ⟨-, rfl⟩ | ⟨i, hkey, rfl⟩⟩ := closeStream_eq_some hstep
  · exact h.goesOn rfl rfl (fun task htask => ⟨task, htask, rfl⟩) fun other hopen =>
      hopen.mono (fun _ hmem => List.mem_of_mem_eraseIdx hmem) (fun _ hmem => hmem) hlt
        fun _ _ hhas => hhas
  · refine h.goesOn rfl rfl (fun task htask => ⟨task, htask, rfl⟩) fun other hopen => ?_
    refine ⟨fun hmem => hopen.1 (List.mem_of_mem_eraseIdx hmem), fun j hj hhas => ?_⟩
    rcases List.mem_append.mp hj with hj | hj
    · exact hopen.2 j hj hhas
    · rw [List.mem_singleton] at hj
      subst hj
      obtain ⟨stream, -, hlive, hid⟩ := (hserving.live streamId j hkey).and hhas
      exact hopen.1 (hlive.1.symm.trans hid ▸ List.mem_of_getElem? hget)

theorem Single.step {action : Action} (h : f.Single) (hserving : f.Serving) (hfine : action.Fine)
    (hsingle : f.SinglePublisher action) (hstep : f.step action = some f') : f'.Single := by
  have hlt := fun i hi => (hserving.finishing i hi).1
  cases action with
  | openUpstream bytes => exact h.openUpstream hstep
  | receive u bytes => exact h.receive hsingle hstep
  | closeUpstream u => exact h.closeUpstream hstep
  | proceedUpstream u => exact h.proceedUpstream hserving.sources hstep
  | subscribe =>
    cases subscribe_eq_some hstep
    exact ⟨h.unique, h.accepts, h.atEnd, h.task⟩
  | handle gate => exact h.handle hstep
  | proceed io =>
    cases (show io = .fine from hfine)
    obtain ⟨task, d, next, htask, hobject, rfl⟩ := proceed_eq_some hstep
    refine h.goesOn rfl rfl (fun later hlater => ?_) fun _ hopen =>
      hopen.mono (fun _ hmem => hmem) (fun _ hmem => hmem) hlt hobject.keeps.ids
    obtain ⟨stage, -, rfl⟩ := Option.map_eq_some_iff.mp hlater
    exact ⟨task, htask, rfl⟩
  | giveUpEvent entryDropped => exact h.giveUpEvent hstep
  | giveUp n fails =>
    obtain ⟨task, -, rfl⟩ := giveUp_eq_some hstep
    refine h.goesOn rfl rfl (fun _ hnone => (Option.not_mem_none _ hnone).elim) fun _ hopen =>
      hopen.mono (fun _ hmem => hmem) (fun _ hmem => hmem) hlt fun other i hhas => ?_
    dsimp only [Delivery.giveUp]
    split
    · exact hhas.modify_of fun stream hid => (stream.giveUp_evolves _ n fails).streamId.trans hid
    · exact hhas.modify_of fun stream hid => (stream.giveUp_evolves _ n fails).streamId.trans hid
    · exact hhas
  | update update =>
    obtain ⟨-, rfl⟩ := update_eq_some hstep
    exact h.goesOn rfl rfl (fun task htask => ⟨task, htask, rfl⟩) fun _ hopen => hopen
  | proceedUpdate io =>
    cases (show io = .fine from hfine)
    obtain ⟨task, d, next, -, hupdate, rfl⟩ := proceedUpdate_eq_some hstep
    exact h.goesOn rfl rfl (fun task htask => ⟨task, htask, rfl⟩) fun _ hopen =>
      hopen.mono (fun _ hmem => hmem) (fun _ hmem => hmem) hlt hupdate.keeps.ids
  | resolveLiveStart largest =>
    cases hstep
    exact h.goesOn rfl rfl (fun task htask => ⟨task, htask, rfl⟩) fun _ hopen => hopen
  | closeStream k => exact h.closeStream hserving hstep
  | finishStream k =>
    obtain ⟨i, -, rfl⟩ := finishStream_eq_some hstep
    exact h.goesOn rfl rfl (fun task htask => ⟨task, htask, rfl⟩) fun _ hopen =>
      hopen.mono (fun _ hmem => hmem) (fun _ hmem => List.mem_of_mem_eraseIdx hmem) hlt
        fun _ _ hhas => hhas.modify_of fun _ hid => hid

/-- With a single publisher only the headers are at stake. -/
theorem Single.served {action : Action} (h : f.Single) (hserving : f.Serving)
    (hkeeps : f.KeepsHeaders action) : f.Served action := by
  refine hkeeps.elim (fun hfinishes => ?_) id
  cases action with
  | finishStream k =>
    intro i hget task htask hstream
    have hhas := (hserving.task task htask).stream i hstream
    exact (h.task task htask).2 i (List.mem_of_getElem? hget) (hhas.mono fun _ hlive => hlive.1)
  | _ => cases hfinishes

theorem Single.init (retainedGroups : Nat) (sub : Subscription) :
    (Forwarding.init retainedGroups sub).Single where
  unique := by simp [Forwarding.init]
  accepts := fun _ => trivial
  atEnd := fun streamId _ => by simp [Forwarding.init, flagAtEnd, StreamOpen]
  task := fun _ hnone => (Option.not_mem_none _ hnone).elim

/-- With a single publisher, an object that is admitted while its header is at hand is
delivered, whatever became of the objects before it. -/
theorem run_noLoss_singlePublisher (retainedGroups : Nat) (trackAlias : UInt64) (forward : Bool)
    (filter : LocationFilter) (rangeFilter : Object → Bool) (actions : List Action)
    (f : Forwarding)
    (hrun : run step (init retainedGroups (.new trackAlias forward filter rangeFilter)) actions =
      some f)
    (hfine : ∀ action ∈ actions, action.Fine)
    (hsingle : Along step SinglePublisher
      (init retainedGroups (.new trackAlias forward filter rangeFilter)) actions)
    (hkeeps : Along step KeepsHeaders
      (init retainedGroups (.new trackAlias forward filter rangeFilter)) actions) :
    f.NoLoss ∧ f.Ends := by
  have hstep : ∀ s a s', (Serving s ∧ Single s) → (a.Fine ∧ SinglePublisher s a) ∧ KeepsHeaders s a →
      step s a = some s' → Serving s' ∧ Single s' :=
    fun _ _ _ h hs hst =>
      ⟨h.1.step hs.1.1 (h.2.served h.1 hs.2) hst, h.2.step h.1 hs.1.1 hs.1.2 hst⟩
  have hinv := run_invariant hstep actions _ f
    ⟨Serving.init retainedGroups trackAlias forward filter rangeFilter, Single.init _ _⟩
    (((Along.of_forall actions _ hfine).and actions _ hsingle).and actions _ hkeeps) hrun
  exact ⟨hinv.1.noLoss, f.ends⟩

/-- The first object of a stream is filtered out, the publisher closes the stream, and only
then is its second object handled, with an update that turns forwarding off and on in between. -/
def skippedFirst : List Action :=
  List.flatten [[.subscribe, .openUpstream [0x30, 3, 0]], received 0 [0, 1, 0xAA] 2,
    received 0 [0, 1, 0xBB] 1, ended 0, handled 0,
    [.update ⟨none, some false, fun object => object.location.object ≠ 0⟩,
      .update ⟨none, some true, fun object => object.location.object ≠ 0⟩, .proceedUpdate .fine],
    handled 7, handled 0, [.closeStream 0, .finishStream 0]]

theorem run_noLoss_skippedFirst :
    ∃ f, run step (init 4 (.new 9 true .none fun object => object.location.object ≠ 0))
        skippedFirst = some f ∧
      (f.history.admitted.length, f.queue.length, f.closing.length) = (1, 0, 0) ∧ f.NoLoss := by
  have hadmitted : (run step (init 4 (.new 9 true .none fun object => object.location.object ≠ 0))
      skippedFirst).map (fun f =>
        (f.history.admitted.length, f.queue.length, f.closing.length)) = some (1, 0, 0) := by
    decide +kernel
  obtain ⟨f, hrun, hlengths⟩ := Option.map_eq_some_iff.mp hadmitted
  exact ⟨f, hrun, hlengths, (run_noLoss_singlePublisher 4 9 true .none _ skippedFirst f hrun
    (by decide +kernel) (by decide +kernel) (by decide +kernel)).1⟩

/-- The same with the first object held back by the SSTS gate. -/
def gatedFirst : List Action :=
  List.flatten [[.subscribe, .openUpstream [0x30, 3, 0]], received 0 [0, 1, 0xAA] 2,
    received 0 [0, 1, 0xBB] 1, ended 0, [.handle false], handled 2]

/-- The gate drops the header with the first object, and the track has forgotten it by the
time the second one is admitted. -/
theorem gatedFirst_object_lost :
    ¬ ∀ (retainedGroups : Nat) (trackAlias : UInt64) (forward : Bool) (filter : LocationFilter)
      (rangeFilter : Object → Bool) (actions : List Action) (f : Forwarding),
      run step (init retainedGroups (.new trackAlias forward filter rangeFilter)) actions =
        some f → (∀ action ∈ actions, action.Fine) →
      Along step SinglePublisher (init retainedGroups (.new trackAlias forward filter rangeFilter))
        actions → f.NoLoss := by
  intro h
  have hcounts : (run step (init 4 (.new 9 true .none fun _ => true)) gatedFirst).map (fun f =>
      (f.history.admitted.map (·.location.object),
        f.delivery.client.streams.map fun stream => stream.written.map (·.location.object),
        f.task)) = some ([1], [], none) := by decide +kernel
  obtain ⟨f, hrun, hf⟩ := Option.map_eq_some_iff.mp hcounts
  simp only [Prod.mk.injEq] at hf
  obtain ⟨hadmitted, hwritten, htask⟩ := hf
  have hlost : ¬ f.NoLoss := by
    refine not_noLoss 1 htask ?_ ?_
    · rw [hadmitted]
      decide
    · rw [hwritten]
      decide
  exact hlost (h 4 9 true .none (fun _ => true) gatedFirst f hrun (by decide +kernel)
    (by decide +kernel))

end Forwarding

end Moqtail
