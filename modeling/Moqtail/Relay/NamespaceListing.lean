import Moqtail.Relay.Announcements

/-! A namespace is listed while some connected client announces it, and its subscribers are told
that it is over when no client does, in every run in which an announcement that is not alone is not
the one to be removed (`keepsAnnouncements`). -/
namespace Moqtail.Announcements

open Lib Message

/-- The steps, by what they do to the announcements and the records. -/
inductive Transition (s : State) : Action → State → Prop
  | opens (connectionId : Nat) (message : PublishNamespace) :
      Transition s (.request connectionId message)
        (s.openStream ⟨connectionId, message.requestId, .publishNamespace, accepted message⟩)
  | opensOther (connectionId : Nat) (requestId : UInt64) :
      Transition s (.requestOther connectionId requestId)
        ((s.openStream ⟨connectionId, requestId, .other, .serving⟩).setRecord connectionId requestId
          none)
  | follows (i : Nat) (stream : RequestStream) (message : PublishNamespace)
      (there : s.streams[i]? = some stream) (hstage : stream.stage = .serving) :
      Transition s (.followUp i message) (s.setStage i stream (accepted message))
  | stores (i : Nat) (stream : RequestStream) (message : PublishNamespace)
      (there : s.streams[i]? = some stream) (hstage : stream.stage = .received message) :
      Transition s (.proceed i) ((s.setStage i stream (.stored message)).setAnnouncements
        (addAnnouncement s.announcements message.trackNamespace stream.connectionId message))
  | records (i : Nat) (stream : RequestStream) (message : PublishNamespace)
      (there : s.streams[i]? = some stream) (hstage : stream.stage = .stored message) :
      Transition s (.proceed i) ((s.setStage i stream (.recorded message)).setRecord
        stream.connectionId message.requestId (some message))
  | serves (i : Nat) (stream : RequestStream) (message : PublishNamespace)
      (there : s.streams[i]? = some stream) (hstage : stream.stage = .recorded message) :
      Transition s (.proceed i) ((s.setStage i stream .serving).announce message.trackNamespace
        stream.connectionId fun suffix => .found ⟨suffix⟩)
  | removes (i : Nat) (stream : RequestStream) (trackNamespace : Tuple)
      (there : s.streams[i]? = some stream) (hstage : stream.stage = .withdrawing trackNamespace)
      (its : (removeAnnouncement s.announcements trackNamespace stream.connectionId).1 = true) :
      Transition s (.proceed i) ((s.setStage i stream (.delisted trackNamespace)).setAnnouncements
        (s.announcements.filter (·.trackNamespace ≠ trackNamespace)))
  | leaves (i : Nat) (stream : RequestStream) (trackNamespace : Tuple)
      (there : s.streams[i]? = some stream) (hstage : stream.stage = .withdrawing trackNamespace)
      (other : ∀ a, s.announcements.find? (·.trackNamespace = trackNamespace) = some a →
        a.connectionId ≠ stream.connectionId) :
      Transition s (.proceed i) (s.leave i stream)
  | tells (i : Nat) (stream : RequestStream) (trackNamespace : Tuple)
      (there : s.streams[i]? = some stream) (hstage : stream.stage = .delisted trackNamespace) :
      Transition s (.proceed i) ((s.leave i stream).announce trackNamespace
        stream.connectionId fun suffix => .done ⟨suffix⟩)
  | withdraws (i : Nat) (stream : RequestStream) (message : PublishNamespace)
      (there : s.streams[i]? = some stream) (hstage : stream.stage = .serving)
      (hkind : stream.kind = .publishNamespace) (hrecord : s.record stream = some message) :
      Transition s (.close i) ((s.setStage i stream (.withdrawing message.trackNamespace)).setRecord
        stream.connectionId stream.requestId none)
  | ends (i : Nat) (stream : RequestStream) (there : s.streams[i]? = some stream)
      (hstage : stream.stage = .serving) (hrecord : s.record stream = none) :
      Transition s (.close i) (s.leave i stream)
  | endsOther (i : Nat) (stream : RequestStream) (there : s.streams[i]? = some stream)
      (hstage : stream.stage = .serving) (hkind : stream.kind = .other) :
      Transition s (.close i) ((s.leave i stream).setRecord stream.connectionId stream.requestId none)
  | abandons (i : Nat) (stream : RequestStream) (there : s.streams[i]? = some stream)
      (hstage : stream.stage = .serving) (gone : s.sender stream ≠ some i) :
      Transition s (.senderGone i) (s.leave i stream)
  | fails (i : Nat) (stream : RequestStream) (there : s.streams[i]? = some stream)
      (hstage : stream.stage = .serving) : Transition s (.fail i) (s.fail i stream)
  | connectionCloses (connectionId : Nat) :
      Transition s (.connectionClosed connectionId) { s with
        announcements := s.announcements.filter (·.connectionId ≠ connectionId)
        closed := s.closed ++ [⟨connectionId,
          (removeAnnouncementsByConnection s.announcements connectionId).1⟩] }
  | tellsWithdrawn (k connectionId : Nat) (trackNamespace : Tuple) (rest : List Tuple)
      (there : s.closed[k]? = some ⟨connectionId, trackNamespace :: rest⟩) :
      Transition s (.tellWithdrawn k) (State.announce
        { s with closed := s.closed.set k ⟨connectionId, rest⟩ } trackNamespace connectionId
          fun suffix => .done ⟨suffix⟩)
  | subscribersChange (subs : List Prefixes.NamespaceSubscriber) :
      Transition s (.subscribersChange subs) { s with namespaceSubscribers := subs }

theorem removeAnnouncement_eq (announcements : List Announcement) (trackNamespace : Tuple)
    (connectionId : Nat) :
    removeAnnouncement announcements trackNamespace connectionId =
        (true, announcements.filter (·.trackNamespace ≠ trackNamespace)) ∧
      (∃ a ∈ announcements, a.trackNamespace = trackNamespace ∧ a.connectionId = connectionId) ∨
    removeAnnouncement announcements trackNamespace connectionId = (false, announcements) ∧
      ∀ a, announcements.find? (·.trackNamespace = trackNamespace) = some a →
        a.connectionId ≠ connectionId := by
  unfold removeAnnouncement
  cases hfind : announcements.find? (·.trackNamespace = trackNamespace) with
  | none => exact .inr ⟨rfl, nofun⟩
  | some a =>
    by_cases hconnection : a.connectionId = connectionId
    · left
      have hnamespace := List.find?_some hfind
      simp only [decide_eq_true_eq] at hnamespace
      exact ⟨if_pos hconnection, a, List.mem_of_find?_eq_some hfind, hnamespace, hconnection⟩
    · right
      refine ⟨if_neg hconnection, fun a' ha' => ?_⟩
      cases ha'
      exact hconnection

theorem proceed_transition {s s' : State} {i : Nat} {stream : RequestStream}
    (there : s.streams[i]? = some stream) (h : proceed s i stream = some s') :
    Transition s (.proceed i) s' := by
  unfold proceed at h
  split at h
  next message hstage =>
    cases h
    exact .stores i stream message there hstage
  next message hstage =>
    cases h
    exact .records i stream message there hstage
  next message hstage =>
    cases h
    exact .serves i stream message there hstage
  next trackNamespace hstage =>
    rcases removeAnnouncement_eq s.announcements trackNamespace stream.connectionId with
      ⟨hremove, -⟩ | ⟨hremove, hother⟩
    · simp only [hremove] at h
      cases h
      exact .removes i stream trackNamespace there hstage (by rw [hremove])
    · simp only [hremove] at h
      cases h
      exact .leaves i stream trackNamespace there hstage hother
  next trackNamespace hstage =>
    cases h
    exact .tells i stream trackNamespace there hstage
  · cases h
  · cases h
  · cases h

theorem Stage.eq_serving {stage : Stage} (h : stage.isServing = true) : stage = .serving := by
  cases stage <;> first | rfl | cases h

theorem step_transition {s s' : State} {a : Action} (h : step s a = some s') :
    Transition s a s' := by
  cases a with
  | request connectionId message =>
    cases h
    exact .opens connectionId message
  | requestOther connectionId requestId =>
    cases h
    exact .opensOther connectionId requestId
  | followUp i message =>
    obtain ⟨stream, there, h⟩ := Option.bind_eq_some_iff.mp h
    split at h
    next hserving =>
      cases h
      exact .follows i stream message there (Stage.eq_serving hserving)
    · cases h
  | proceed i =>
    obtain ⟨stream, there, hproceed⟩ := Option.bind_eq_some_iff.mp h
    exact proceed_transition there hproceed
  | close i =>
    obtain ⟨stream, there, h⟩ := Option.bind_eq_some_iff.mp h
    split at h
    next hserving =>
      cases h
      have hstage := Stage.eq_serving hserving
      unfold cancel
      split
      next message hkind hrecord => exact .withdraws i stream message there hstage hkind hrecord
      next hkind hrecord => exact .ends i stream there hstage hrecord
      next hkind => exact .endsOther i stream there hstage hkind
    · cases h
  | senderGone i =>
    obtain ⟨stream, there, h⟩ := Option.bind_eq_some_iff.mp h
    split at h
    next hgone =>
      cases h
      exact .abandons i stream there (Stage.eq_serving hgone.1) hgone.2
    · cases h
  | fail i =>
    obtain ⟨stream, there, h⟩ := Option.bind_eq_some_iff.mp h
    split at h
    next hserving =>
      cases h
      exact .fails i stream there (Stage.eq_serving hserving)
    · cases h
  | connectionClosed connectionId =>
    simp only [step] at h
    split at h
    · cases h
    · cases h
      exact .connectionCloses connectionId
  | tellWithdrawn k =>
    simp only [step] at h
    split at h
    next connectionId trackNamespace rest there =>
      cases h
      exact .tellsWithdrawn k connectionId trackNamespace rest there
    · cases h
  | subscribersChange subs =>
    cases h
    exact .subscribersChange subs

/-! What a step leaves alone. -/

namespace State

variable {s s' : State} {i : Nat} {stream : RequestStream} {stage : Stage}

theorem setStage_streams_self (there : s.streams[i]? = some stream) :
    (s.setStage i stream stage).streams[i]? = some { stream with stage := stage } := by
  obtain ⟨hlength, -⟩ := List.getElem?_eq_some_iff.mp there
  simp [setStage, hlength]

theorem setStage_streams_of_ne {j : Nat} (hne : j ≠ i) :
    (s.setStage i stream stage).streams[j]? = s.streams[j]? := by
  simp [setStage, Ne.symm hne]

theorem setRecord_record_self (connectionId : Nat) (requestId : UInt64)
    (message : Option PublishNamespace) :
    (s.setRecord connectionId requestId message).inboundRequests connectionId requestId = message := by
  simp [setRecord]

theorem setRecord_record_of_ne {other : RequestStream} {connectionId : Nat} {requestId : UInt64}
    (message : Option PublishNamespace)
    (h : ¬ (other.connectionId = connectionId ∧ other.requestId = requestId)) :
    (s.setRecord connectionId requestId message).record other = s.record other := by
  by_cases hconnection : other.connectionId = connectionId
  · have hid : other.requestId ≠ requestId := fun hid => h ⟨hconnection, hid⟩
    simp [setRecord, record, hconnection, hid]
  · simp [setRecord, record, hconnection]

theorem setSender_sender_self (i : Option Nat) : (s.setSender stream i).sender stream = i := by
  simp [setSender, sender]

theorem setSender_sender_of_ne {other : RequestStream} (i : Option Nat)
    (h : ¬ (other.connectionId = stream.connectionId ∧ other.requestId = stream.requestId)) :
    (s.setSender stream i).sender other = s.sender other := by
  by_cases hconnection : other.connectionId = stream.connectionId
  · have hid : other.requestId ≠ stream.requestId := fun hid => h ⟨hconnection, hid⟩
    simp [setSender, sender, hconnection, hid]
  · simp [setSender, sender, hconnection]

theorem usedId_iff {connectionId : Nat} {requestId : UInt64} :
    s.usedId connectionId requestId = true ↔
      ∃ stream ∈ s.streams, stream.connectionId = connectionId ∧ stream.requestId = requestId := by
  simp [usedId, List.any_eq_true]

theorem announcedOn_eq_some {trackNamespace : Tuple} :
    s.announcedOn stream = some trackNamespace ↔ s.isClosed stream.connectionId = false ∧
      stream.kind = .publishNamespace ∧
        stream.stage.announced (s.record stream) = some trackNamespace := by
  unfold announcedOn
  cases s.isClosed stream.connectionId <;> cases stream.kind <;> simp

/-- The step moves one stream on and changes no record or sender of another one. -/
structure MovesOn (s s' : State) (i : Nat) (stream : RequestStream) (stage : Stage) : Prop where
  there : s.streams[i]? = some stream
  streams : s'.streams = (s.setStage i stream stage).streams
  closed : s'.isClosed = s.isClosed
  records : ∀ (j : Nat) other, j ≠ i → s.streams[j]? = some other → s'.record other = s.record other
  senders : ∀ (j : Nat) other, j ≠ i → s.streams[j]? = some other → s'.sender other = s.sender other

namespace MovesOn

theorem self (h : MovesOn s s' i stream stage) :
    s'.streams[i]? = some { stream with stage := stage } := by
  rw [h.streams, setStage_streams_self h.there]

theorem other (h : MovesOn s s' i stream stage) {j : Nat} (hne : j ≠ i) :
    s'.streams[j]? = s.streams[j]? := by
  rw [h.streams, setStage_streams_of_ne hne]

theorem announces_of_ne (h : MovesOn s s' i stream stage) {j : Nat} (hne : j ≠ i)
    {connectionId : Nat} {trackNamespace : Tuple} :
    s'.Announces j connectionId trackNamespace ↔ s.Announces j connectionId trackNamespace := by
  unfold Announces
  rw [h.other hne]
  apply exists_congr
  intro other
  apply and_congr_right
  intro hother
  rw [announcedOn, announcedOn, h.closed, h.records j other hne hother]

theorem announces_self (h : MovesOn s s' i stream stage) {connectionId : Nat}
    {trackNamespace : Tuple} : s'.Announces i connectionId trackNamespace ↔
      stream.connectionId = connectionId ∧ s.isClosed connectionId = false ∧
        stream.kind = .publishNamespace ∧
          stage.announced (s'.record stream) = some trackNamespace := by
  unfold Announces
  rw [h.self]
  constructor
  · rintro ⟨moved, hmoved, rfl, hon⟩
    cases hmoved
    obtain ⟨hopen, hkind, hon⟩ := announcedOn_eq_some.mp hon
    rw [h.closed] at hopen
    exact ⟨rfl, hopen, hkind, hon⟩
  · rintro ⟨rfl, hopen, hkind, hannounced⟩
    refine ⟨_, rfl, rfl, announcedOn_eq_some.mpr ⟨?_, hkind, hannounced⟩⟩
    rw [h.closed]
    exact hopen

/-- The stream announces what it announced before. -/
theorem announces_iff (h : MovesOn s s' i stream stage)
    (same : stream.kind = .publishNamespace →
      stage.announced (s'.record stream) = stream.stage.announced (s.record stream))
    {j connectionId : Nat} {trackNamespace : Tuple} :
    s'.Announces j connectionId trackNamespace ↔ s.Announces j connectionId trackNamespace := by
  by_cases hji : j = i
  · subst hji
    rw [h.announces_self]
    constructor
    · rintro ⟨rfl, hopen, hkind, hannounced⟩
      rw [same hkind] at hannounced
      exact ⟨stream, h.there, rfl, announcedOn_eq_some.mpr ⟨hopen, hkind, hannounced⟩⟩
    · rintro ⟨stream', hstream', rfl, hon⟩
      cases h.there.symm.trans hstream'
      obtain ⟨hopen, hkind, hannounced⟩ := announcedOn_eq_some.mp hon
      rw [← same hkind] at hannounced
      exact ⟨rfl, hopen, hkind, hannounced⟩
  · exact h.announces_of_ne hji

end MovesOn

end State

/-! Records and senders. -/

/-- The task of the stream has left. -/
def Stage.left : Stage → Bool
  | failed => true
  | ended => true
  | _ => false

/-- Every stream has a Request ID of its own, a PUBLISH_NAMESPACE is served on the stream that it
opened, and as long as a stream's task has not left its sender is there. -/
structure Recorded (s : State) : Prop where
  ids : ∀ (i j : Nat) stream other, s.streams[i]? = some stream → s.streams[j]? = some other →
    stream.connectionId = other.connectionId → stream.requestId = other.requestId → i = j
  message : ∀ (i : Nat) stream message, s.streams[i]? = some stream →
    stream.stage = .received message ∨ stream.stage = .stored message ∨
      stream.stage = .recorded message →
    stream.kind = .publishNamespace ∧ message.requestId = stream.requestId
  record : ∀ (i : Nat) stream message, s.streams[i]? = some stream →
    stream.stage = .recorded message → s.record stream = some message
  known : ∀ connectionId requestId, s.inboundRequests connectionId requestId ≠ none →
    s.usedId connectionId requestId = true
  sender : ∀ (i : Nat) stream, s.streams[i]? = some stream → stream.stage.left = false →
    s.sender stream = some i

namespace Recorded

variable {s s' : State} {i : Nat} {stream : RequestStream} {stage : Stage}

theorem alone (hs : Recorded s) (there : s.streams[i]? = some stream) (j : Nat)
    (other : RequestStream) (hne : j ≠ i) (hj : s.streams[j]? = some other) :
    ¬ (other.connectionId = stream.connectionId ∧ other.requestId = stream.requestId) := by
  rintro ⟨hconnection, hid⟩
  exact hne (hs.ids j i other stream hj there hconnection hid)

/-- What a step of one stream does to the record and the sender under its Request ID, it does to no
other stream's. -/
theorem movesOn_setRecord (hs : Recorded s) (there : s.streams[i]? = some stream)
    {requestId : UInt64} (hid : requestId = stream.requestId) (message : Option PublishNamespace)
    (streams : s'.streams = (s.setStage i stream stage).streams) (closed : s'.isClosed = s.isClosed)
    (records : s'.inboundRequests =
      (s.setRecord stream.connectionId requestId message).inboundRequests)
    (senders : s'.responseSenders = s.responseSenders ∨
      s'.responseSenders = (s.setSender stream none).responseSenders) :
    State.MovesOn s s' i stream stage where
  there := there
  streams := streams
  closed := closed
  records j other hne hj := by
    have hsame := State.setRecord_record_of_ne (s := s) message
      (hid ▸ hs.alone there j other hne hj)
    rw [← hsame, State.record, State.record, records]
  senders j other hne hj := by
    rcases senders with hsenders | hsenders
    · rw [State.sender, State.sender, hsenders]
    · rw [← State.setSender_sender_of_ne (s := s) none (hs.alone there j other hne hj), State.sender,
        State.sender, hsenders]

theorem movesOn_setSender (hs : Recorded s) (there : s.streams[i]? = some stream) :
    State.MovesOn s ((s.setStage i stream stage).setSender stream none) i stream stage :=
  ⟨there, rfl, rfl, fun _ _ _ _ => rfl,
    fun j other hne hj => State.setSender_sender_of_ne none (hs.alone there j other hne hj)⟩

variable (stage) in
theorem movesOn (hs : Recorded s) (h : State.MovesOn s s' i stream stage)
    (hmessage : ∀ message, stage = .received message ∨ stage = .stored message ∨
      stage = .recorded message →
        stream.kind = .publishNamespace ∧ message.requestId = stream.requestId)
    (hrecord : ∀ message, stage = .recorded message → s'.record stream = some message)
    (hknown : ∀ connectionId requestId, s'.inboundRequests connectionId requestId ≠ none →
      s.usedId connectionId requestId = true)
    (hsender : stage.left = false → s'.sender stream = some i) : Recorded s' := by
  have heach : ∀ {j other}, s'.streams[j]? = some other →
      (j = i ∧ other = { stream with stage := stage }) ∨ (j ≠ i ∧ s.streams[j]? = some other) := by
    intro j other hj
    by_cases hji : j = i
    · subst hji
      exact .inl ⟨rfl, (Option.some.inj (h.self.symm.trans hj)).symm⟩
    · exact .inr ⟨hji, h.other hji ▸ hj⟩
  constructor
  · intro j k one other hj hk hconnection hid
    rcases heach hj with ⟨rfl, rfl⟩ | ⟨hji, hj⟩
    · rcases heach hk with ⟨rfl, rfl⟩ | ⟨hki, hk⟩
      · rfl
      · exact hs.ids j k stream other h.there hk hconnection hid
    · rcases heach hk with ⟨rfl, rfl⟩ | ⟨hki, hk⟩
      · exact hs.ids j k one stream hj h.there hconnection hid
      · exact hs.ids j k one other hj hk hconnection hid
  · intro j other message hj hstage
    rcases heach hj with ⟨rfl, rfl⟩ | ⟨-, hj⟩
    · exact hmessage message hstage
    · exact hs.message j other message hj hstage
  · intro j other message hj hstage
    rcases heach hj with ⟨rfl, rfl⟩ | ⟨hji, hj⟩
    · exact hrecord message hstage
    · rw [h.records j other hji hj]
      exact hs.record j other message hj hstage
  · intro connectionId requestId hsome
    obtain ⟨other, hmem, hof⟩ := State.usedId_iff.mp (hknown connectionId requestId hsome)
    obtain ⟨j, hj⟩ := List.getElem?_of_mem hmem
    by_cases hji : j = i
    · subst hji
      cases h.there.symm.trans hj
      exact State.usedId_iff.mpr ⟨_, List.mem_of_getElem? h.self, hof⟩
    · rw [← h.other hji] at hj
      exact State.usedId_iff.mpr ⟨other, List.mem_of_getElem? hj, hof⟩
  · intro j other hj hleft
    rcases heach hj with ⟨rfl, rfl⟩ | ⟨hji, hj⟩
    · exact hsender hleft
    · rw [h.senders j other hji hj]
      exact hs.sender j other hj hleft

theorem leave (hs : Recorded s) (there : s.streams[i]? = some stream) :
    Recorded (s.leave i stream) :=
  hs.movesOn .ended (hs.movesOn_setSender there) nofun nofun hs.known nofun

theorem fail (hs : Recorded s) (there : s.streams[i]? = some stream) :
    Recorded (s.fail i stream) :=
  hs.movesOn .failed (hs.movesOn_setSender there) nofun nofun hs.known nofun

theorem of_streams (hs : Recorded s) (streams : s'.streams = s.streams)
    (records : s'.inboundRequests = s.inboundRequests)
    (senders : s'.responseSenders = s.responseSenders) : Recorded s' := by
  constructor
  · rw [streams]
    exact hs.ids
  · rw [streams]
    exact hs.message
  · intro j other message hj hstage
    rw [streams] at hj
    rw [State.record, records]
    exact hs.record j other message hj hstage
  · intro connectionId requestId hsome
    rw [records] at hsome
    rw [State.usedId, streams]
    exact hs.known connectionId requestId hsome
  · intro j other hj hleft
    rw [streams] at hj
    rw [State.sender, senders]
    exact hs.sender j other hj hleft

/-- A stream opens under a Request ID that no stream of the connection has had. -/
theorem opens (hs : Recorded s) (fresh : s.usedId stream.connectionId stream.requestId = false)
    (hmessage : ∀ message, stream.stage = .received message ∨ stream.stage = .stored message ∨
      stream.stage = .recorded message →
        stream.kind = .publishNamespace ∧ message.requestId = stream.requestId)
    (hstage : ∀ message, stream.stage ≠ .recorded message) : Recorded (s.openStream stream) := by
  have hnew : ∀ other ∈ s.streams,
      ¬ (other.connectionId = stream.connectionId ∧ other.requestId = stream.requestId) := by
    intro other hmem hof
    have hused := State.usedId_iff.mpr ⟨other, hmem, hof⟩
    rw [fresh] at hused
    cases hused
  constructor
  · intro j k one other hj hk hconnection hid
    rcases getElem?_joined hj with hjold | ⟨hjlast, rfl⟩
    · rcases getElem?_joined hk with hkold | ⟨-, rfl⟩
      · exact hs.ids j k one other hjold hkold hconnection hid
      · exact absurd ⟨hconnection, hid⟩ (hnew one (List.mem_of_getElem? hjold))
    · rcases getElem?_joined hk with hkold | ⟨hklast, -⟩
      · exact absurd ⟨hconnection.symm, hid.symm⟩ (hnew other (List.mem_of_getElem? hkold))
      · exact hjlast.trans hklast.symm
  · intro j other message hj hof
    rcases getElem?_joined hj with hj | ⟨-, rfl⟩
    · exact hs.message j other message hj hof
    · exact hmessage message hof
  · intro j other message hj hof
    rcases getElem?_joined hj with hj | ⟨-, rfl⟩
    · exact hs.record j other message hj hof
    · exact absurd hof (hstage message)
  · intro connectionId requestId hsome
    obtain ⟨other, hmem, hof⟩ := State.usedId_iff.mp (hs.known connectionId requestId hsome)
    exact State.usedId_iff.mpr ⟨other, List.mem_append_left _ hmem, hof⟩
  · intro j other hj hleft
    rcases getElem?_joined hj with hj | ⟨rfl, rfl⟩
    · rw [State.openStream, State.setSender_sender_of_ne _ (hnew other (List.mem_of_getElem? hj))]
      exact hs.sender j other hj hleft
    · exact State.setSender_sender_self _

/-- A record is taken away that no stream past its own counts on. -/
theorem setRecord_none (hs : Recorded s) {connectionId : Nat} {requestId : UInt64}
    (idle : ∀ (j : Nat) other message, s.streams[j]? = some other → other.stage = .recorded message →
      ¬ (other.connectionId = connectionId ∧ other.requestId = requestId)) :
    Recorded (s.setRecord connectionId requestId none) := by
  refine ⟨hs.ids, hs.message, fun j other message hj hstage => ?_, fun c r hsome => ?_, hs.sender⟩
  · rw [State.setRecord_record_of_ne _ (idle j other message hj hstage)]
    exact hs.record j other message hj hstage
  · apply hs.known c r
    intro hnone
    by_cases hc : c = connectionId
    · subst hc
      by_cases hr : r = requestId
      · subst hr
        exact hsome (State.setRecord_record_self ..)
      · simp [State.setRecord, hr, hnone] at hsome
    · simp [State.setRecord, hc, hnone] at hsome

end Recorded

theorem accepted_of_reserved {message : PublishNamespace} (h : reserved message = true) :
    accepted message = .serving := if_pos h

theorem accepted_cases (message : PublishNamespace) :
    accepted message = .serving ∨ accepted message = .received message := by
  unfold accepted
  split
  · exact .inl rfl
  · exact .inr rfl

/-- A refused PUBLISH_NAMESPACE that follows changes nothing. -/
theorem setStage_self {s : State} {i : Nat} {stream : RequestStream}
    (there : s.streams[i]? = some stream) : s.setStage i stream stream.stage = s := by
  have hset : s.streams.set i stream = s.streams := by
    apply List.ext_getElem?
    intro j
    rw [List.getElem?_set]
    split
    next hij =>
      subst hij
      rw [there]
      simp [(List.getElem?_eq_some_iff.mp there).1]
    · rfl
  exact congrArg (fun streams => ({ s with streams := streams } : State)) hset

theorem Recorded.transition {s s' : State} {a : Action} (hs : Recorded s)
    (keeps : s.keepsAnnouncements a = true) (h : Transition s a s') : Recorded s' := by
  have hkeep : ∀ (stage : Stage) {s' : State} {i : Nat} {stream : RequestStream},
      s.streams[i]? = some stream → stream.stage.left = false →
      s'.streams = (s.setStage i stream stage).streams → s'.isClosed = s.isClosed →
      s'.inboundRequests = s.inboundRequests → s'.responseSenders = s.responseSenders →
      (∀ message, stage = .received message ∨ stage = .stored message ∨ stage = .recorded message →
        stream.kind = .publishNamespace ∧ message.requestId = stream.requestId) →
      (∀ message, stage ≠ .recorded message) → Recorded s' := by
    intro stage s' i stream there running streams closed records senders hmessage hrecorded
    have hmoves : State.MovesOn s s' i stream stage :=
      ⟨there, streams, closed, fun _ _ _ _ => by rw [State.record, State.record, records],
        fun _ _ _ _ => by rw [State.sender, State.sender, senders]⟩
    refine hs.movesOn stage hmoves hmessage (fun message hstage => absurd hstage (hrecorded message))
      (fun connectionId requestId hsome => hs.known _ _ (records ▸ hsome)) fun _ => ?_
    rw [State.sender, senders]
    exact hs.sender i stream there running
  cases h with
  | opens connectionId message =>
    rw [State.keepsAnnouncements, Bool.not_eq_true'] at keeps
    refine hs.opens keeps (fun m hm => ?_) fun m hm => ?_
    · rcases accepted_cases message with heq | heq
      · rw [heq] at hm
        rcases hm with hm | hm | hm <;> cases hm
      · rw [heq] at hm
        rcases hm with hm | hm | hm <;> cases hm
        exact ⟨rfl, rfl⟩
    · rcases accepted_cases message with heq | heq <;> cases heq.symm.trans hm
  | opensOther connectionId requestId =>
    rw [State.keepsAnnouncements, Bool.not_eq_true'] at keeps
    have hopened : Recorded (s.openStream ⟨connectionId, requestId, .other, .serving⟩) :=
      hs.opens keeps (by rintro m (hm | hm | hm) <;> cases hm) nofun
    refine hopened.setRecord_none fun j other message hj hstage hof => ?_
    rcases getElem?_joined hj with hj | ⟨-, rfl⟩
    · have hused := State.usedId_iff.mpr ⟨other, List.mem_of_getElem? hj, hof⟩
      rw [keeps] at hused
      cases hused
    · cases hstage
  | follows i stream message there hstage =>
    rw [accepted_of_reserved keeps, ← hstage, setStage_self there]
    exact hs
  | stores i stream message there hstage =>
    refine hkeep (.stored message) there (by rw [hstage]; rfl) rfl rfl rfl rfl ?_ nofun
    rintro m (hm | hm | hm) <;> cases hm
    exact hs.message i stream message there (.inl hstage)
  | records i stream message there hstage =>
    obtain ⟨hkind, hid⟩ := hs.message i stream message there (.inr (.inl hstage))
    have hrecord : (s.setRecord stream.connectionId message.requestId (some message)).record stream =
        some message := by
      rw [hid]
      exact State.setRecord_record_self ..
    refine hs.movesOn (.recorded message)
      (hs.movesOn_setRecord there hid (some message) rfl rfl rfl (.inl rfl)) ?_ ?_ ?_ ?_
    · rintro m (hm | hm | hm) <;> cases hm
      exact ⟨hkind, hid⟩
    · intro m hm
      cases hm
      exact hrecord
    · intro c r hsome
      by_cases hof : c = stream.connectionId ∧ r = stream.requestId
      · exact State.usedId_iff.mpr ⟨stream, List.mem_of_getElem? there, hof.1.symm, hof.2.symm⟩
      · apply hs.known c r
        intro hnone
        have hsame : (s.setRecord stream.connectionId message.requestId (some message)).record
            ⟨c, r, .other, .ended⟩ = s.record ⟨c, r, .other, .ended⟩ :=
          State.setRecord_record_of_ne _ (hid ▸ hof)
        exact hsome (hsame.trans hnone)
    · exact fun _ => hs.sender i stream there (by rw [hstage]; rfl)
  | serves i stream message there hstage =>
    refine hkeep .serving there (by rw [hstage]; rfl) rfl rfl rfl rfl ?_ nofun
    rintro m (hm | hm | hm) <;> cases hm
  | removes i stream trackNamespace there hstage its =>
    refine hkeep (.delisted trackNamespace) there (by rw [hstage]; rfl) rfl rfl rfl rfl ?_
      nofun
    rintro m (hm | hm | hm) <;> cases hm
  | leaves i stream trackNamespace there hstage other => exact hs.leave there
  | tells i stream trackNamespace there hstage => exact (hs.leave there).of_streams rfl rfl rfl
  | withdraws i stream message there hstage hkind hrecord =>
    have hmoved : Recorded (s.setStage i stream (.withdrawing message.trackNamespace)) := by
      refine hkeep (.withdrawing message.trackNamespace) there (by rw [hstage]; rfl) rfl
        rfl rfl rfl ?_ nofun
      rintro m (hm | hm | hm) <;> cases hm
    refine hmoved.setRecord_none fun j other m hj hm hof => ?_
    have hji : j = i := by
      have hself : (s.setStage i stream (.withdrawing message.trackNamespace)).streams[i]? =
          some { stream with stage := .withdrawing message.trackNamespace } :=
        State.setStage_streams_self there
      exact hmoved.ids j i other _ hj hself hof.1 hof.2
    subst hji
    rw [State.setStage_streams_self there] at hj
    cases hj
    cases hm
  | ends i stream there hstage hrecord => exact hs.leave there
  | endsOther i stream there hstage hkind =>
    have hleft := hs.leave there
    refine hleft.setRecord_none fun j other m hj hm hof => ?_
    have hself : (s.leave i stream).streams[i]? = some { stream with stage := .ended } :=
      State.setStage_streams_self there
    cases hleft.ids j i other _ hj hself hof.1 hof.2
    cases hself.symm.trans hj
    cases hm
  | abandons i stream there hstage gone =>
    exact absurd (hs.sender i stream there (by rw [hstage]; rfl)) gone
  | fails i stream there hstage => exact hs.fail there
  | connectionCloses => exact hs.of_streams rfl rfl rfl
  | tellsWithdrawn => exact hs.of_streams rfl rfl rfl
  | subscribersChange => exact hs.of_streams rfl rfl rfl

/-! Announcements. -/

/-- The slots are those of the namespaces that are announced, each held by a connection that
announces it, and no one announces what is yet to be told of as over. -/
structure Sound (s : State) : Prop where
  listed : ∀ i connectionId trackNamespace,
    s.Announces i connectionId trackNamespace → s.Listed trackNamespace
  held : ∀ a ∈ s.announcements, ∃ i, s.Announces i a.connectionId a.trackNamespace
  unique : s.announcements.Pairwise fun a b => a.trackNamespace ≠ b.trackNamespace
  quiet : ∀ trackNamespace, s.Pending trackNamespace → ∀ i connectionId,
    ¬ s.Announces i connectionId trackNamespace

namespace Sound

variable {s s' : State} {i : Nat} {stream : RequestStream} {stage : Stage}

theorem find?_eq_some (hs : Sound s) {a : Announcement} (ha : a ∈ s.announcements) :
    s.announcements.find? (·.trackNamespace = a.trackNamespace) = some a := by
  have : Std.Symm fun a b : Announcement => a.trackNamespace ≠ b.trackNamespace :=
    ⟨fun _ _ => Ne.symm⟩
  cases hfind : s.announcements.find? (·.trackNamespace = a.trackNamespace) with
  | none =>
    have := List.find?_eq_none.mp hfind a ha
    simp at this
  | some found =>
    have hnamespace := List.find?_some hfind
    simp only [decide_eq_true_eq] at hnamespace
    by_contra hne
    exact hs.unique.forall (List.mem_of_find?_eq_some hfind) ha
      (fun heq => hne (congrArg some heq)) hnamespace

/-- Nothing of it depends on more than who announces what, the slots and what is pending. -/
theorem of_announces (hs : Sound s)
    (announces : ∀ j connectionId trackNamespace,
      s'.Announces j connectionId trackNamespace ↔ s.Announces j connectionId trackNamespace)
    (announcements : s'.announcements = s.announcements)
    (pending : ∀ trackNamespace, s'.Pending trackNamespace → s.Pending trackNamespace) :
    Sound s' := by
  constructor
  · intro j connectionId trackNamespace hj
    rw [State.Listed, announcements]
    exact hs.listed j connectionId trackNamespace ((announces ..).mp hj)
  · intro a ha
    rw [announcements] at ha
    obtain ⟨j, hj⟩ := hs.held a ha
    exact ⟨j, (announces ..).mpr hj⟩
  · rw [announcements]
    exact hs.unique
  · intro trackNamespace hpending j connectionId hj
    exact hs.quiet trackNamespace (pending _ hpending) j connectionId ((announces ..).mp hj)

/-- A stream is delisted only by the step that makes it so. -/
theorem pending_of_setStage (streams : s'.streams = (s.setStage i stream stage).streams)
    (closed : s'.closed = s.closed) {trackNamespace : Tuple} (h : s'.Pending trackNamespace) :
    stage = .delisted trackNamespace ∨ s.Pending trackNamespace := by
  rcases h with ⟨other, hother, hstage⟩ | hwithdrawn
  · rw [streams] at hother
    rcases List.mem_or_eq_of_mem_set hother with hold | rfl
    · exact .inr (.inl ⟨other, hold, hstage⟩)
    · exact .inl hstage
  · rw [closed] at hwithdrawn
    exact .inr (.inr hwithdrawn)

variable (stage) in
theorem goesOn (hs : Sound s) (h : State.MovesOn s s' i stream stage)
    (same : stream.kind = .publishNamespace →
      stage.announced (s'.record stream) = stream.stage.announced (s.record stream))
    (announcements : s'.announcements = s.announcements) (closed : s'.closed = s.closed)
    (listed : ∀ trackNamespace, stage ≠ .delisted trackNamespace) : Sound s' := by
  refine hs.of_announces (fun j connectionId trackNamespace => h.announces_iff same) announcements
    fun trackNamespace hpending => ?_
  rcases pending_of_setStage h.streams closed hpending with hstage | hpending
  · exact absurd hstage (listed trackNamespace)
  · exact hpending

theorem stores (hs : Sound s) {message : PublishNamespace} (there : s.streams[i]? = some stream)
    (hkind : stream.kind = .publishNamespace) (hstage : stream.stage = .received message)
    (hopen : s.isClosed stream.connectionId = false)
    (settled : ¬ s.Pending message.trackNamespace) :
    Sound ((s.setStage i stream (.stored message)).setAnnouncements
      (addAnnouncement s.announcements message.trackNamespace stream.connectionId message)) := by
  have h : State.MovesOn s ((s.setStage i stream (.stored message)).setAnnouncements
      (addAnnouncement s.announcements message.trackNamespace stream.connectionId message)) i stream
      (.stored message) := ⟨there, rfl, rfl, fun _ _ _ _ => rfl, fun _ _ _ _ => rfl⟩
  have hnew : ∀ a, a ∈ addAnnouncement s.announcements message.trackNamespace stream.connectionId
      message ↔ (a ∈ s.announcements ∧ a.trackNamespace ≠ message.trackNamespace) ∨
        a = ⟨message.trackNamespace, stream.connectionId, message⟩ := by
    intro a
    simp [addAnnouncement]
  constructor
  · intro j connectionId trackNamespace hj
    by_cases hsame : trackNamespace = message.trackNamespace
    · exact ⟨_, (hnew _).mpr (.inr rfl), hsame.symm⟩
    · have hji : j ≠ i := by
        rintro rfl
        obtain ⟨-, -, -, hannounced⟩ := h.announces_self.mp hj
        exact hsame (Option.some.inj hannounced).symm
      obtain ⟨a, ha, rfl⟩ := hs.listed j connectionId trackNamespace ((h.announces_of_ne hji).mp hj)
      exact ⟨a, (hnew a).mpr (.inl ⟨ha, hsame⟩), rfl⟩
  · intro a ha
    rcases (hnew a).mp ha with ⟨hold, -⟩ | rfl
    · obtain ⟨j, hj⟩ := hs.held a hold
      have hji : j ≠ i := by
        rintro rfl
        obtain ⟨stream', hstream', -, hon⟩ := hj
        cases there.symm.trans hstream'
        obtain ⟨-, -, hannounced⟩ := State.announcedOn_eq_some.mp hon
        rw [hstage] at hannounced
        cases hannounced
      exact ⟨j, (h.announces_of_ne hji).mpr hj⟩
    · exact ⟨i, h.announces_self.mpr ⟨rfl, hopen, hkind, rfl⟩⟩
  · refine List.pairwise_append.mpr ⟨hs.unique.sublist List.filter_sublist,
      List.pairwise_singleton _ _, fun a ha b hb => ?_⟩
    cases List.mem_singleton.mp hb
    exact of_decide_eq_true (List.mem_filter.mp ha).2
  · intro trackNamespace hpending j connectionId hj
    rcases pending_of_setStage h.streams rfl hpending with hdelisted | hbefore
    · cases hdelisted
    · by_cases hji : j = i
      · subst hji
        obtain ⟨-, -, -, hannounced⟩ := h.announces_self.mp hj
        cases hannounced
        exact settled hbefore
      · exact hs.quiet trackNamespace hbefore j connectionId ((h.announces_of_ne hji).mp hj)

theorem removes (hs : Sound s) {trackNamespace : Tuple} (there : s.streams[i]? = some stream)
    (hstage : stream.stage = .withdrawing trackNamespace)
    (last : ∀ j connectionId, j ≠ i → ¬ s.Announces j connectionId trackNamespace) :
    Sound ((s.setStage i stream (.delisted trackNamespace)).setAnnouncements
      (s.announcements.filter (·.trackNamespace ≠ trackNamespace))) := by
  have h : State.MovesOn s ((s.setStage i stream (.delisted trackNamespace)).setAnnouncements
      (s.announcements.filter (·.trackNamespace ≠ trackNamespace))) i stream
      (.delisted trackNamespace) := ⟨there, rfl, rfl, fun _ _ _ _ => rfl, fun _ _ _ _ => rfl⟩
  have hother : ∀ {j connectionId t}, State.Announces ((s.setStage i stream
      (.delisted trackNamespace)).setAnnouncements
      (s.announcements.filter (·.trackNamespace ≠ trackNamespace))) j connectionId t →
      t ≠ trackNamespace ∧ s.Announces j connectionId t := by
    intro j connectionId t hj
    have hji : j ≠ i := by
      rintro rfl
      obtain ⟨-, -, -, hannounced⟩ := h.announces_self.mp hj
      cases hannounced
    have hold := (h.announces_of_ne hji).mp hj
    refine ⟨?_, hold⟩
    rintro rfl
    exact last j connectionId hji hold
  constructor
  · intro j connectionId t hj
    obtain ⟨hne, hold⟩ := hother hj
    obtain ⟨a, ha, rfl⟩ := hs.listed j connectionId t hold
    exact ⟨a, List.mem_filter.mpr ⟨ha, decide_eq_true hne⟩, rfl⟩
  · intro a ha
    obtain ⟨hmem, hne⟩ := List.mem_filter.mp ha
    obtain ⟨j, hj⟩ := hs.held a hmem
    have hji : j ≠ i := by
      rintro rfl
      obtain ⟨stream', hstream', -, hon⟩ := hj
      cases there.symm.trans hstream'
      obtain ⟨-, -, hannounced⟩ := State.announcedOn_eq_some.mp hon
      rw [hstage] at hannounced
      exact of_decide_eq_true hne (Option.some.inj hannounced).symm
    exact ⟨j, (h.announces_of_ne hji).mpr hj⟩
  · exact hs.unique.sublist List.filter_sublist
  · intro t hpending j connectionId hj
    obtain ⟨hne, hold⟩ := hother hj
    rcases pending_of_setStage h.streams rfl hpending with hdelisted | hpending
    · cases hdelisted
      exact hne rfl
    · exact hs.quiet t hpending j connectionId hold

theorem leaves (hr : Recorded s) (hs : Sound s) {trackNamespace : Tuple}
    (there : s.streams[i]? = some stream)
    (hstage : stream.stage = .withdrawing trackNamespace)
    (other : ∀ a, s.announcements.find? (·.trackNamespace = trackNamespace) = some a →
      a.connectionId ≠ stream.connectionId) : Sound (s.leave i stream) := by
  have h : State.MovesOn s (s.leave i stream) i stream .ended := hr.movesOn_setSender there
  have hne : ∀ {j connectionId t}, (s.leave i stream).Announces j connectionId t →
      s.Announces j connectionId t := by
    intro j connectionId t hj
    have hji : j ≠ i := by
      rintro rfl
      obtain ⟨-, -, -, hannounced⟩ := h.announces_self.mp hj
      cases hannounced
    exact (h.announces_of_ne hji).mp hj
  constructor
  · exact fun j connectionId t hj => hs.listed j connectionId t (hne hj)
  · intro a ha
    obtain ⟨j, hj⟩ := hs.held a ha
    have hji : j ≠ i := by
      rintro rfl
      obtain ⟨stream', hstream', hconnection, hon⟩ := hj
      cases there.symm.trans hstream'
      obtain ⟨-, -, hannounced⟩ := State.announcedOn_eq_some.mp hon
      rw [hstage] at hannounced
      cases hannounced
      exact other a (hs.find?_eq_some ha) hconnection.symm
    exact ⟨j, (h.announces_of_ne hji).mpr hj⟩
  · exact hs.unique
  · intro t hpending j connectionId hj
    rcases pending_of_setStage h.streams rfl hpending with hdelisted | hpending
    · cases hdelisted
    · exact hs.quiet t hpending j connectionId (hne hj)

/-- A stream opens that announces nothing yet. -/
theorem opens (hs : Sound s) (idle : s.announcedOn stream = none)
    (listed : ∀ trackNamespace, stream.stage ≠ .delisted trackNamespace) :
    Sound (s.openStream stream) := by
  refine hs.of_announces ?_ rfl ?_
  · intro j connectionId trackNamespace
    constructor
    · rintro ⟨other, hother, hconnection, hon⟩
      rcases getElem?_joined hother with hold | ⟨-, rfl⟩
      · exact ⟨other, hold, hconnection, hon⟩
      · cases idle.symm.trans hon
    · rintro ⟨other, hother, hconnection, hon⟩
      refine ⟨other, ?_, hconnection, hon⟩
      obtain ⟨hlength, -⟩ := List.getElem?_eq_some_iff.mp hother
      exact (List.getElem?_append_left hlength).trans hother
  · rintro trackNamespace (⟨other, hother, hstage⟩ | hwithdrawn)
    · rcases List.mem_append.mp hother with hold | hnew
      · exact .inl ⟨other, hold, hstage⟩
      · cases List.mem_singleton.mp hnew
        exact absurd hstage (listed trackNamespace)
    · exact .inr hwithdrawn

/-- A record is taken away on which no announcement counts. -/
theorem setRecord_none (hs : Sound s) {connectionId : Nat} {requestId : UInt64}
    (idle : ∀ (j : Nat) other, s.streams[j]? = some other → other.connectionId = connectionId →
      other.requestId = requestId → other.kind = .other) :
    Sound (s.setRecord connectionId requestId none) := by
  refine hs.of_announces (fun j connectionId' trackNamespace => ?_) rfl fun _ => id
  apply exists_congr
  intro other
  apply and_congr_right
  intro hother
  have hsame : (s.setRecord connectionId requestId none).announcedOn other = s.announcedOn other := by
    by_cases hof : other.connectionId = connectionId ∧ other.requestId = requestId
    · simp [State.announcedOn, idle j other hother hof.1 hof.2]
    · rw [State.announcedOn, State.setRecord_record_of_ne _ hof]
      rfl
  rw [hsame]

theorem connectionCloses (hs : Sound s) {connectionId : Nat}
    (last : ∀ a ∈ s.announcements, a.connectionId = connectionId → ∀ j other,
      other ≠ connectionId → ¬ s.Announces j other a.trackNamespace) :
    Sound { s with
      announcements := s.announcements.filter (·.connectionId ≠ connectionId)
      closed := s.closed ++ [⟨connectionId,
        (removeAnnouncementsByConnection s.announcements connectionId).1⟩] } := by
  have hclosed : ∀ other, State.isClosed { s with
      announcements := s.announcements.filter (·.connectionId ≠ connectionId)
      closed := s.closed ++ [⟨connectionId,
        (removeAnnouncementsByConnection s.announcements connectionId).1⟩] } other =
      (s.isClosed other || decide (connectionId = other)) := by
    intro other
    simp [State.isClosed]
  have hiff : ∀ {j other t}, State.Announces { s with
      announcements := s.announcements.filter (·.connectionId ≠ connectionId)
      closed := s.closed ++ [⟨connectionId,
        (removeAnnouncementsByConnection s.announcements connectionId).1⟩] } j other t ↔
      other ≠ connectionId ∧ s.Announces j other t := by
    intro j other t
    constructor
    · rintro ⟨stream, hstream, rfl, hon⟩
      obtain ⟨hopen, hkind, hannounced⟩ := State.announcedOn_eq_some.mp hon
      rw [hclosed, Bool.or_eq_false_iff, decide_eq_false_iff_not] at hopen
      exact ⟨Ne.symm hopen.2, stream, hstream, rfl,
        State.announcedOn_eq_some.mpr ⟨hopen.1, hkind, hannounced⟩⟩
    · rintro ⟨hne, stream, hstream, rfl, hon⟩
      obtain ⟨hopen, hkind, hannounced⟩ := State.announcedOn_eq_some.mp hon
      refine ⟨stream, hstream, rfl, State.announcedOn_eq_some.mpr ⟨?_, hkind, hannounced⟩⟩
      rw [hclosed, hopen, Bool.false_or, decide_eq_false (Ne.symm hne)]
  constructor
  · intro j other t hj
    obtain ⟨hne, hold⟩ := hiff.mp hj
    obtain ⟨a, ha, rfl⟩ := hs.listed j other t hold
    refine ⟨a, List.mem_filter.mpr ⟨ha, decide_eq_true fun hconnection => ?_⟩, rfl⟩
    exact last a ha hconnection j other hne hold
  · intro a ha
    obtain ⟨hmem, hne⟩ := List.mem_filter.mp ha
    obtain ⟨j, hj⟩ := hs.held a hmem
    exact ⟨j, hiff.mpr ⟨of_decide_eq_true hne, hj⟩⟩
  · exact hs.unique.sublist List.filter_sublist
  · rintro t (hdelisted | ⟨connection, hconnection, ht⟩) j other hj
    · exact hs.quiet t (.inl hdelisted) j other (hiff.mp hj).2
    · obtain ⟨hne, hold⟩ := hiff.mp hj
      rcases List.mem_append.mp hconnection with hbefore | hnew
      · exact hs.quiet t (.inr ⟨connection, hbefore, ht⟩) j other hold
      · cases List.mem_singleton.mp hnew
        obtain ⟨a, ha, rfl⟩ := List.mem_map.mp ht
        obtain ⟨hmem, hholder⟩ := List.mem_filter.mp ha
        exact last a hmem (of_decide_eq_true hholder) j other hne hold

theorem isClosed_set {k connectionId : Nat} {withdrawn rest : List Tuple}
    (there : s.closed[k]? = some ⟨connectionId, withdrawn⟩) (other : Nat) :
    (s.closed.set k ⟨connectionId, rest⟩).any (·.connectionId = other) = s.isClosed other := by
  obtain ⟨hlength, hk⟩ := List.getElem?_eq_some_iff.mp there
  have hids : (s.closed.set k ⟨connectionId, rest⟩).map (·.connectionId) =
      s.closed.map (·.connectionId) := by
    apply List.ext_getElem?
    intro m
    rw [List.getElem?_map, List.getElem?_map, List.getElem?_set]
    split
    next hkm =>
      subst hkm
      rw [there]
      rfl
    · rfl
  have := congrArg (List.any · fun id => decide (id = other)) hids
  simpa only [State.isClosed, List.any_map, Function.comp_def] using this

theorem tellsWithdrawn (hs : Sound s) {k connectionId : Nat} {trackNamespace : Tuple}
    {rest : List Tuple} (there : s.closed[k]? = some ⟨connectionId, trackNamespace :: rest⟩)
    (messageFor : Tuple → Notice) :
    Sound (State.announce { s with closed := s.closed.set k ⟨connectionId, rest⟩ } trackNamespace
      connectionId messageFor) := by
  refine hs.of_announces ?_ rfl ?_
  · intro j other t
    apply exists_congr
    intro stream
    have hsame : State.isClosed (State.announce
        { s with closed := s.closed.set k ⟨connectionId, rest⟩ } trackNamespace connectionId
        messageFor) stream.connectionId = s.isClosed stream.connectionId :=
      isClosed_set there stream.connectionId
    simp only [State.announcedOn, hsame]
    exact Iff.rfl
  · rintro t (hdelisted | ⟨connection, hconnection, ht⟩)
    · exact .inl hdelisted
    · right
      rcases List.mem_or_eq_of_mem_set hconnection with hold | rfl
      · exact ⟨connection, hold, ht⟩
      · exact ⟨_, List.mem_of_getElem? there, List.mem_cons_of_mem _ ht⟩

theorem transition {a : Action} (hr : Recorded s) (hs : Sound s)
    (keeps : s.keepsAnnouncements a = true) (h : Transition s a s') : Sound s' := by
  cases h with
  | opens connectionId message =>
    rw [State.keepsAnnouncements, Bool.not_eq_true'] at keeps
    have hrecord : s.inboundRequests connectionId message.requestId = none := by
      by_contra hsome
      rw [hr.known _ _ hsome] at keeps
      cases keeps
    refine hs.opens ?_ ?_
    · rw [State.announcedOn]
      split
      · rfl
      · rcases accepted_cases message with hstage | hstage
        · rw [hstage, Stage.announced, State.record, hrecord, Option.map_none]
        · rw [hstage, Stage.announced]
    · rintro trackNamespace hdelisted
      rcases accepted_cases message with hstage | hstage <;> cases hstage.symm.trans hdelisted
  | opensOther connectionId requestId =>
    rw [State.keepsAnnouncements, Bool.not_eq_true'] at keeps
    have hopened : Sound (s.openStream ⟨connectionId, requestId, .other, .serving⟩) :=
      hs.opens (by simp [State.announcedOn]) nofun
    refine hopened.setRecord_none fun j other hj hconnection hid => ?_
    rcases getElem?_joined hj with hold | ⟨-, rfl⟩
    · have hused := State.usedId_iff.mpr ⟨other, List.mem_of_getElem? hold, hconnection, hid⟩
      rw [keeps] at hused
      cases hused
    · rfl
  | follows i stream message there hstage =>
    rw [accepted_of_reserved keeps, ← hstage, setStage_self there]
    exact hs
  | stores i stream message there hstage =>
    simp only [State.keepsAnnouncements, there, hstage, Bool.and_eq_true, Bool.not_eq_true',
      Bool.eq_false_iff (b := s.isPending _), ne_eq, State.isPending_iff] at keeps
    obtain ⟨hkind, -⟩ := hr.message i stream message there (.inl hstage)
    exact hs.stores there hkind hstage keeps.1 keeps.2
  | records i stream message there hstage =>
    obtain ⟨-, hid⟩ := hr.message i stream message there (.inr (.inl hstage))
    refine hs.goesOn (.recorded message)
      (hr.movesOn_setRecord there hid (some message) rfl rfl rfl (.inl rfl)) ?_ rfl rfl nofun
    rw [hstage]
    exact fun _ => rfl
  | serves i stream message there hstage =>
    have hrecord := hr.record i stream message there hstage
    refine hs.goesOn .serving ⟨there, rfl, rfl, fun _ _ _ _ => rfl, fun _ _ _ _ => rfl⟩ ?_ rfl rfl
      nofun
    intro _
    have hsame : State.record (State.announce (s.setStage i stream .serving) message.trackNamespace
        stream.connectionId fun suffix => .found ⟨suffix⟩) stream = s.record stream := rfl
    rw [hsame, hrecord, hstage, Stage.announced, Stage.announced, Option.map_some]
  | removes i stream trackNamespace there hstage its =>
    refine hs.removes there hstage fun j connectionId hne hj => ?_
    obtain ⟨other, hother, -, hon⟩ := hj
    simp only [State.keepsAnnouncements, there, hstage, its, Bool.not_true, Bool.false_or,
      Bool.not_eq_true'] at keeps
    have : s.announcedWhere (fun j _ => j ≠ i) trackNamespace = true :=
      State.announcedWhere_iff.mpr ⟨j, other, hother, decide_eq_true hne, hon⟩
    rw [keeps] at this
    cases this
  | leaves i stream trackNamespace there hstage other => exact hs.leaves hr there hstage other
  | tells i stream trackNamespace there hstage =>
    have hleft : State.MovesOn s (s.leave i stream) i stream .ended := hr.movesOn_setSender there
    refine hs.goesOn .ended ⟨there, rfl, rfl, hleft.records, hleft.senders⟩ ?_ rfl rfl nofun
    rw [hstage]
    exact fun _ => rfl
  | withdraws i stream message there hstage hkind hrecord =>
    refine hs.goesOn (.withdrawing message.trackNamespace)
      (hr.movesOn_setRecord there rfl none rfl rfl rfl (.inl rfl)) ?_ rfl rfl nofun
    rw [hstage, hrecord]
    exact fun _ => rfl
  | ends i stream there hstage hrecord =>
    refine hs.goesOn .ended (hr.movesOn_setSender there) ?_ rfl rfl nofun
    rw [hstage, hrecord]
    exact fun _ => rfl
  | endsOther i stream there hstage hkind =>
    refine hs.goesOn .ended (hr.movesOn_setRecord there rfl none rfl rfl rfl (.inr rfl)) ?_ rfl rfl
      nofun
    exact fun hnamespace => absurd (hkind.symm.trans hnamespace) nofun
  | abandons i stream there hstage gone =>
    exact absurd (hr.sender i stream there (by rw [hstage]; rfl)) gone
  | fails i stream there hstage =>
    refine hs.goesOn .failed (hr.movesOn_setSender there) ?_ rfl rfl nofun
    rw [hstage]
    exact fun _ => rfl
  | connectionCloses connectionId =>
    refine hs.connectionCloses fun a ha hconnection j other hne hj => ?_
    obtain ⟨stream, hstream, rfl, hon⟩ := hj
    have hmem : a.trackNamespace ∈
        (removeAnnouncementsByConnection s.announcements connectionId).1 :=
      List.mem_map_of_mem (List.mem_filter.mpr ⟨ha, decide_eq_true hconnection⟩)
    have hnone := List.all_eq_true.mp keeps _ hmem
    have : s.announcedWhere (fun _ stream => stream.connectionId ≠ connectionId)
        a.trackNamespace = true :=
      State.announcedWhere_iff.mpr ⟨j, stream, hstream, decide_eq_true hne, hon⟩
    rw [this] at hnone
    cases hnone
  | tellsWithdrawn k connectionId trackNamespace rest there => exact hs.tellsWithdrawn there _
  | subscribersChange subs => exact hs.of_announces (fun _ _ _ => Iff.rfl) rfl fun _ => id

end Sound

/-- What a step sends, no client announces when it is over, if it tells that it is over. -/
theorem Transition.sends {s s' : State} {a : Action} (hr : Recorded s) (hs : Sound s)
    (h : Transition s a s') :
    ∃ sent, s'.sent = s.sent ++ sent ∧ ∀ d ∈ sent, ∀ trackNamespace,
      d.namespaceDone = some trackNamespace →
      ∀ i connectionId, ¬ s'.Announces i connectionId trackNamespace := by
  cases h with
  | serves i stream message there hstage =>
    refine ⟨_, rfl, fun d hd trackNamespace hdone => ?_⟩
    rw [namespaceDone_of_found hd] at hdone
    cases hdone
  | tells i stream trackNamespace there hstage =>
    refine ⟨_, rfl, fun d hd trackNamespace' hdone => ?_⟩
    rw [namespaceDone_of_mem hd] at hdone
    cases hdone
    intro j connectionId hj
    have hleft : State.MovesOn s (s.leave i stream) i stream .ended := hr.movesOn_setSender there
    have hmoves : State.MovesOn s ((s.leave i stream).announce trackNamespace
        stream.connectionId fun suffix => .done ⟨suffix⟩) i stream .ended :=
      ⟨there, rfl, rfl, hleft.records, hleft.senders⟩
    refine hs.quiet trackNamespace (.inl ⟨stream, List.mem_of_getElem? there, hstage⟩) j
      connectionId ((hmoves.announces_iff ?_).mp hj)
    rw [hstage]
    exact fun _ => rfl
  | tellsWithdrawn k connectionId trackNamespace rest there =>
    refine ⟨_, rfl, fun d hd trackNamespace' hdone => ?_⟩
    rw [namespaceDone_of_mem hd] at hdone
    cases hdone
    have hpending : s.Pending trackNamespace :=
      .inr ⟨_, List.mem_of_getElem? there, List.mem_cons_self ..⟩
    rintro j other ⟨stream, hstream, hconnection, hon⟩
    refine hs.quiet trackNamespace hpending j other ⟨stream, hstream, hconnection, ?_⟩
    have hclosed : State.isClosed (State.announce
        { s with closed := s.closed.set k ⟨connectionId, rest⟩ } trackNamespace connectionId
        fun suffix => .done ⟨suffix⟩) stream.connectionId = s.isClosed stream.connectionId :=
      Sound.isClosed_set there stream.connectionId
    rw [State.announcedOn, hclosed] at hon
    exact hon
  | _ => exact ⟨[], (List.append_nil _).symm, nofun⟩

/-! Runs. -/

theorem recorded_initial : Recorded .initial :=
  ⟨nofun, nofun, nofun, fun _ _ h => absurd rfl h, nofun⟩

theorem sound_initial : Sound .initial := by
  constructor
  · nofun
  · nofun
  · exact List.Pairwise.nil
  · rintro trackNamespace (⟨stream, hstream, -⟩ | ⟨connection, hconnection, -⟩)
    · cases hstream
    · cases hconnection

/-- In every run that removes the announcement of a namespace only when no other stream announces
it, the namespaces listed are those that a connected client announces, and a step tells subscribers
that a namespace is over only if no client announces it any more. -/
theorem listed_iff_announced {actions : List Action} {s : State}
    (keeps : Along step (fun s a => s.keepsAnnouncements a = true) .initial actions)
    (hrun : run step .initial actions = some s) :
    (∀ trackNamespace, s.Listed trackNamespace ↔
      ∃ i connectionId, s.Announces i connectionId trackNamespace) ∧
    ∀ a s', step s a = some s' → ∃ sent, s'.sent = s.sent ++ sent ∧
      ∀ d ∈ sent, ∀ trackNamespace, d.namespaceDone = some trackNamespace →
        ∀ i connectionId, ¬ s'.Announces i connectionId trackNamespace := by
  obtain ⟨hr, hs⟩ : Recorded s ∧ Sound s := by
    refine run_invariant (I := fun s => Recorded s ∧ Sound s) ?_ actions _ _ ?_ keeps hrun
    · rintro s a s' ⟨hr, hs⟩ hkeeps hstep
      have htransition := step_transition hstep
      exact ⟨hr.transition hkeeps htransition, hs.transition hr hkeeps htransition⟩
    · exact ⟨recorded_initial, sound_initial⟩
  refine ⟨fun trackNamespace => ⟨?_, ?_⟩, fun a s' hstep => (step_transition hstep).sends hr hs⟩
  · rintro ⟨a, ha, rfl⟩
    obtain ⟨i, hi⟩ := hs.held a ha
    exact ⟨i, a.connectionId, hi⟩
  · rintro ⟨i, connectionId, hi⟩
    exact hs.listed i connectionId trackNamespace hi

/-- A second client announces a namespace, and the first one withdraws it before the second leaves
with its connection. -/
def takenOver : List Action :=
  let message : PublishNamespace := ⟨0, ⟨[[1], [2]]⟩, []⟩
  [.subscribersChange [⟨⟨[[1]]⟩, 3, .namespaces, [], 0⟩],
    .request 1 message, .proceed 0, .proceed 0, .proceed 0,
    .request 2 message, .proceed 1, .proceed 1, .proceed 1,
    .close 0, .proceed 0, .connectionClosed 2]

theorem listed_iff_announced_takenOver : ∃ s, run step .initial takenOver = some s ∧
    (s.Listed ⟨[[1], [2]]⟩ ↔ ∃ i connectionId, s.Announces i connectionId ⟨[[1], [2]]⟩) := by
  have hrun : run step .initial takenOver = some _ := rfl
  exact ⟨_, hrun, (listed_iff_announced (by decide) hrun).1 ⟨[[1], [2]]⟩⟩

/-- The second client leaves while the first one still announces the namespace. -/
def replaced : List Action :=
  let message : PublishNamespace := ⟨0, ⟨[[1], [2]]⟩, []⟩
  [.subscribersChange [⟨⟨[[1]]⟩, 3, .namespaces, [], 0⟩],
    .request 1 message, .proceed 0, .proceed 0, .proceed 0,
    .request 2 message, .proceed 1, .proceed 1, .proceed 1,
    .close 1, .proceed 1, .proceed 1]

/-- The namespace is not listed then, and its subscriber is told that it is over. -/
theorem not_listed_iff_announced : ¬ ∀ (actions : List Action) (s : State),
    run step .initial actions = some s →
      (∀ trackNamespace, s.Listed trackNamespace ↔
        ∃ i connectionId, s.Announces i connectionId trackNamespace) ∧
      ∀ a s', step s a = some s' → ∃ sent, s'.sent = s.sent ++ sent ∧
        ∀ d ∈ sent, ∀ trackNamespace, d.namespaceDone = some trackNamespace →
          ∀ i connectionId, ¬ s'.Announces i connectionId trackNamespace := by
  intro h
  have hrun : run step .initial replaced = some _ := rfl
  have hlisted := ((h replaced _ hrun).1 ⟨[[1], [2]]⟩).mpr ⟨0, 1, _, rfl, rfl, by decide⟩
  obtain ⟨a, ha, -⟩ := hlisted
  cases ha

end Moqtail.Announcements
