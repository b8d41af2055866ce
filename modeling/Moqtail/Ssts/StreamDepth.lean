import Moqtail.Ssts.TrackNames
import Moqtail.Lib.Run

/-! How many streams a switching set has open, as `server/client.rs` reports them: `open_stream`,
`close_stream`, `release_stream` and `reset_stream` of one connection, with the calls that change
the sets coming in between.

A stream holds a slot of its switching set while it stands in the map of send streams or
`close_stream` waits for it to finish. It is counted by a call of `on_stream_opened` that follows
its insertion in the map, and no longer counted after a call of `on_stream_closed` that follows the
release of its slot; other tasks can run between the two halves of either, so they are steps of
their own. The event task of a subscription drops its `receive` after five seconds, in whatever call
it waits then, so that either half can be the last.

Whether the stream is open is another matter: a fetch finishes its stream before it releases it, and
`reset_stream` resets one that it has released. -/
namespace Moqtail.Ssts

structure SendStreamKey where
  requestId : Nat
  streamId : StreamId
deriving Repr, DecidableEq

/-- How far the `open_stream` that has made a stream is. -/
inductive Opening where
  /-- The stream stands in the map, and `on_stream_opened` is to be called. -/
  | noting
  /-- It is writing the header. -/
  | writing
  /-- It has returned, or been dropped. -/
  | over
deriving Repr, DecidableEq

/-- A unidirectional stream the connection has opened. -/
structure SendStream where
  key : SendStreamKey
  /-- It stands in the map of send streams. -/
  inMap : Bool
  opening : Opening
  /-- `close_stream` took it out of the map and waits for it to finish. -/
  closing : Bool
  /-- It is open: it has neither finished nor been reset or dropped, nor has the peer stopped it. -/
  live : Bool
  /-- The calls of `on_stream_closed` that are on their way for it. -/
  ending : Nat
deriving Repr, DecidableEq

namespace SendStream

def new (key : SendStreamKey) : SendStream where
  key := key
  inMap := true
  opening := .noting
  closing := false
  live := true
  ending := 0

def relayTrackId (stream : SendStream) : Nat := stream.key.streamId.relayTrackId

/-- 1 while the note of its opening is on its way. -/
def beginning (stream : SendStream) : Nat := if stream.opening = .noting then 1 else 0

/-- It holds a slot of its switching set. -/
def slot (stream : SendStream) : Bool := stream.inMap || stream.closing

/-- 1 while it is open without a slot: its reset, or its drop, is on its way. -/
def outlasting (stream : SendStream) : Nat := if stream.live && ! stream.slot then 1 else 0

/-- 1 while it is over and has its slot: its release is on its way. -/
def lingering (stream : SendStream) : Nat := if stream.slot && ! stream.live then 1 else 0

/-- What the count owes to the stream once its opening is noted: 1 while it has its slot, and 1 for
each end of it that is yet to be noted. -/
def held (stream : SendStream) : Nat := stream.slot.toNat + stream.ending

end SendStream

/-- What `MOQTClient` keeps of its send streams and its switching sets. `discardTimeoutMs` is 0 for a
connection that closes its streams gracefully. -/
structure ClientStreams where
  discardTimeoutMs : Nat
  manager : SwitchingSetManager
  streams : List SendStream

inductive StreamAction where
  | openStream (key : SendStreamKey)
  | noteOpened (i : Nat)
  | writeHeader (i : Nat)
  | failHeader (i : Nat)
  /-- The task that is opening the stream is dropped. -/
  | abandonOpening (i : Nat)
  /-- The stream is finished or reset where it stands in the map, or its peer stops it there. -/
  | endInMap (i : Nat)
  | takeStream (i : Nat)
  | finish (i : Nat) (ok : Bool)
  | discard (i : Nat)
  /-- The task that waits for the stream to finish is dropped. -/
  | abandonClosing (i : Nat)
  | releaseStream (i : Nat)
  /-- A stream that has no slot any more is reset, or dropped by the last task that held it. -/
  | letGo (i : Nat)
  | noteClosed (i : Nat)
  /-- The task that is to note the end of the stream is dropped. -/
  | abandonEnding (i : Nat)
  | call (c : Call)
deriving DecidableEq

namespace ClientStreams

def initial (discardTimeoutMs : Nat) : ClientStreams := ⟨discardTimeoutMs, .new, []⟩

def setStream (s : ClientStreams) (i : Nat) (stream : SendStream) : ClientStreams :=
  { s with streams := s.streams.set i stream }

/-- `send_streams.remove` takes out whatever stream stands under the key. -/
def removeKey (s : ClientStreams) (key : SendStreamKey) : ClientStreams :=
  { s with streams := s.streams.map fun stream =>
      if stream.inMap ∧ stream.key = key then { stream with inMap := false } else stream }

/-- The first half of `open_stream`: a key that has its stream keeps it. -/
def openStream (s : ClientStreams) (key : SendStreamKey) : ClientStreams :=
  if s.streams.any fun stream => stream.inMap && decide (stream.key = key) then s
  else { s with streams := s.streams ++ [.new key] }

def noteOpened (s : ClientStreams) (i : Nat) (stream : SendStream) : Option ClientStreams :=
  if stream.opening = .noting then
    some { s.setStream i { stream with opening := .writing } with
      manager := s.manager.noteStreamOpened stream.relayTrackId }
  else none

def writeHeader (s : ClientStreams) (i : Nat) (stream : SendStream) : Option ClientStreams :=
  if stream.opening = .writing then some (s.setStream i { stream with opening := .over }) else none

/-- The header could not be written: the key is removed, and an end is about to be noted, also where
another task has taken the stream out of the map before. -/
def failHeader (s : ClientStreams) (i : Nat) (stream : SendStream) : Option ClientStreams :=
  if stream.opening = .writing then
    some ((s.removeKey stream.key).setStream i
      { stream with inMap := false, opening := .over, ending := stream.ending + 1 })
  else none

def abandonOpening (s : ClientStreams) (i : Nat) (stream : SendStream) : Option ClientStreams :=
  if stream.opening = .over then none else some (s.setStream i { stream with opening := .over })

def endInMap (s : ClientStreams) (i : Nat) (stream : SendStream) : Option ClientStreams :=
  if stream.inMap then some (s.setStream i { stream with live := false }) else none

/-- `take_stream`, where `close_stream` begins. -/
def takeStream (s : ClientStreams) (i : Nat) (stream : SendStream) : Option ClientStreams :=
  if stream.inMap then some (s.setStream i { stream with inMap := false, closing := true })
  else none

/-- `finish` returns. Without a discard timeout a failure is passed on there and then. -/
def finish (s : ClientStreams) (i : Nat) (ok : Bool) (stream : SendStream) : Option ClientStreams :=
  if stream.closing then
    if s.discardTimeoutMs = 0 ∧ ok = false then
      some (s.setStream i { stream with closing := false, live := false })
    else
      some (s.setStream i
        { stream with closing := false, live := false, ending := stream.ending + 1 })
  else none

/-- The discard timeout expires first. The end is noted, and then the stream is reset. -/
def discard (s : ClientStreams) (i : Nat) (stream : SendStream) : Option ClientStreams :=
  if stream.closing ∧ s.discardTimeoutMs ≠ 0 then
    some (s.setStream i { stream with closing := false, ending := stream.ending + 1 })
  else none

def abandonClosing (s : ClientStreams) (i : Nat) (stream : SendStream) : Option ClientStreams :=
  if stream.closing then some (s.setStream i { stream with closing := false }) else none

/-- `release_stream`, by whoever has finished or reset the stream or seen the peer stop it, or is to
reset it. -/
def releaseStream (s : ClientStreams) (i : Nat) (stream : SendStream) : Option ClientStreams :=
  if stream.inMap then
    some (s.setStream i { stream with inMap := false, ending := stream.ending + 1 })
  else none

def letGo (s : ClientStreams) (i : Nat) (stream : SendStream) : Option ClientStreams :=
  if stream.slot then none else some (s.setStream i { stream with live := false })

def noteClosed (s : ClientStreams) (i : Nat) (stream : SendStream) : Option ClientStreams :=
  if stream.ending = 0 then none
  else some { s.setStream i { stream with ending := stream.ending - 1 } with
    manager := s.manager.noteStreamClosed stream.relayTrackId }

def abandonEnding (s : ClientStreams) (i : Nat) (stream : SendStream) : Option ClientStreams :=
  if stream.ending = 0 then none
  else some (s.setStream i { stream with ending := stream.ending - 1 })

def step (s : ClientStreams) : StreamAction → Option ClientStreams
  | .openStream key => some (s.openStream key)
  | .noteOpened i => s.streams[i]?.bind (s.noteOpened i)
  | .writeHeader i => s.streams[i]?.bind (s.writeHeader i)
  | .failHeader i => s.streams[i]?.bind (s.failHeader i)
  | .abandonOpening i => s.streams[i]?.bind (s.abandonOpening i)
  | .endInMap i => s.streams[i]?.bind (s.endInMap i)
  | .takeStream i => s.streams[i]?.bind (s.takeStream i)
  | .finish i ok => s.streams[i]?.bind (s.finish i ok)
  | .discard i => s.streams[i]?.bind (s.discard i)
  | .abandonClosing i => s.streams[i]?.bind (s.abandonClosing i)
  | .releaseStream i => s.streams[i]?.bind (s.releaseStream i)
  | .letGo i => s.streams[i]?.bind (s.letGo i)
  | .noteClosed i => s.streams[i]?.bind (s.noteClosed i)
  | .abandonEnding i => s.streams[i]?.bind (s.abandonEnding i)
  | .call c => some { s with manager := s.manager.call c }

end ClientStreams

namespace SwitchingSetManager

/-- The relay ids of the set's members. -/
def memberIds (m : SwitchingSetManager) (setId : Nat) : List Nat :=
  ((m.sets.lookup setId).map fun set => set.members.map SwitchingSetMember.relayTrackId).getD []

/-- The depth of the set, which has no entry while it is 0. -/
def depth (m : SwitchingSetManager) (setId : Nat) : Nat := (m.openStreams setId).getD 0

end SwitchingSetManager

namespace ClientStreams

/-- What the streams of the set's members come to. -/
def total (s : ClientStreams) (setId : Nat) (w : SendStream → Nat) : Nat :=
  (s.streams.map fun stream =>
    if stream.relayTrackId ∈ s.manager.memberIds setId then w stream else 0).sum

/-- The number of open streams whose relay track is a member of the set. -/
def openStreamsOf (s : ClientStreams) (setId : Nat) : Nat :=
  s.streams.countP fun stream =>
    stream.live && decide (stream.relayTrackId ∈ s.manager.memberIds setId)

/-- The depth of the set is the number of open streams of its members. -/
def Accurate (s : ClientStreams) (setId : Nat) : Prop :=
  s.manager.depth setId = s.openStreamsOf setId

/-- The depth of the set, the openings of its members' streams that are yet to be noted and their
open streams that have lost their slot make up their open streams, the ends that are yet to be noted
and their streams that are over and yet to be released. -/
def Accounted (s : ClientStreams) (setId : Nat) : Prop :=
  s.manager.depth setId + s.total setId SendStream.beginning + s.total setId SendStream.outlasting =
    s.openStreamsOf setId + s.total setId SendStream.ending + s.total setId SendStream.lingering

/-- No note, release or reset of a member's stream is on its way. -/
def Settled (s : ClientStreams) (setId : Nat) : Prop :=
  ∀ stream ∈ s.streams, stream.relayTrackId ∈ s.manager.memberIds setId →
    stream.opening ≠ .noting ∧ stream.ending = 0 ∧ stream.live = stream.slot

instance (s : ClientStreams) (setId : Nat) : Decidable (s.Settled setId) :=
  inferInstanceAs (Decidable (∀ _ ∈ _, _ → _ ∧ _))

end ClientStreams

/-! What keeps it so. -/

namespace SwitchingSetManager

instance (m : SwitchingSetManager) (a : Assignment) : Decidable (m.accepts a) :=
  decidable_of_iff ((m.trackToSet a.fullTrackName).all (· = a.switchingSetId) = true)
    (by cases h : m.trackToSet a.fullTrackName <;> simp [accepts, h])

/-- The track is in a set that has another member, or in none. -/
def OneOfSeveral (m : SwitchingSetManager) (name : FullTrackName) : Prop :=
  (m.getSetForTrack name).all (fun set => set.members.any (·.fullTrackName ≠ name)) = true

instance (m : SwitchingSetManager) (name : FullTrackName) : Decidable (m.OneOfSeveral name) :=
  inferInstanceAs (Decidable (_ = true))

end SwitchingSetManager

/-- Every stream of this relay track has lost its slot and its end been noted, or has its slot and
its opening is yet to be noted. -/
def ClientStreams.Quiet (s : ClientStreams) (relayTrackId : Nat) : Prop :=
  ∀ stream ∈ s.streams, stream.relayTrackId = relayTrackId →
    stream.held = stream.beginning

instance (s : ClientStreams) (relayTrackId : Nat) : Decidable (s.Quiet relayTrackId) :=
  inferInstanceAs (Decidable (∀ _ ∈ _, _))

/-- The track leaves its set, which lives on, only while its relay track is quiet. -/
def ClientStreams.LeavesQuietly (s : ClientStreams) (name : FullTrackName) : Prop :=
  s.manager.OneOfSeveral name → ∀ x ∈ s.manager.memberNamed name, s.Quiet x.relayTrackId

instance (s : ClientStreams) (name : FullTrackName) : Decidable (s.LeavesQuietly name) :=
  inferInstanceAs (Decidable (_ → ∀ _ ∈ _, _))

/-- The stream is of no set's member. -/
def ClientStreams.Unassigned (s : ClientStreams) (stream : SendStream) : Prop :=
  s.manager.relayTrackToSet stream.relayTrackId = none

instance (s : ClientStreams) (stream : SendStream) : Decidable (s.Unassigned stream) :=
  inferInstanceAs (Decidable (_ = _))

/-- The step keeps the count in step with the streams. Of a set's streams none fails to finish on a
connection that closes gracefully, no task is dropped that waits for one to finish or is to note an
opening or an end, an end is noted while the set counts a stream, and a header fails while the
stream is in the map; a change of membership moves no relay track that is not quiet. -/
def ClientStreams.Counts (s : ClientStreams) (a : StreamAction) : Prop :=
  match a with
  | .abandonOpening i => ∀ stream ∈ s.streams[i]?, stream.opening = .noting → s.Unassigned stream
  | .failHeader i => ∀ stream ∈ s.streams[i]?, stream.inMap = true ∨ s.Unassigned stream
  | .finish i ok => ∀ stream ∈ s.streams[i]?, s.discardTimeoutMs = 0 → ok = false →
      s.Unassigned stream
  | .noteClosed i => ∀ stream ∈ s.streams[i]?,
      ∀ setId ∈ s.manager.relayTrackToSet stream.relayTrackId, 0 < s.manager.depth setId
  | .abandonClosing i => ∀ stream ∈ s.streams[i]?, s.Unassigned stream
  | .abandonEnding i => ∀ stream ∈ s.streams[i]?, s.Unassigned stream
  | .call (.assign a) => s.manager.accepts a →
      (s.manager.relayTrackToSet a.relayTrackId = none ∧ s.Quiet a.relayTrackId ∨
        ∃ x ∈ s.manager.memberNamed a.fullTrackName, x.relayTrackId = a.relayTrackId) ∧
      ∀ x ∈ s.manager.memberNamed a.fullTrackName, x.relayTrackId = a.relayTrackId ∨
        s.Quiet x.relayTrackId
  | .call (.remove name) => s.LeavesQuietly name
  | .call (.release name requestId) => ∀ x ∈ s.manager.memberNamed name,
      x.holders = {requestId} → s.LeavesQuietly name
  | _ => True

instance (s : ClientStreams) (a : StreamAction) : Decidable (s.Counts a) := by
  unfold ClientStreams.Counts
  split <;> infer_instance

/-! The manager's count. -/

namespace SwitchingSetManager

variable {m : SwitchingSetManager} {name : FullTrackName} {s : Nat}

theorem Consistent.mem_memberIds (h : m.Consistent) {setId relayTrackId : Nat} :
    relayTrackId ∈ m.memberIds setId ↔ m.relayTrackToSet relayTrackId = some setId := by
  rw [h.relayed]
  unfold memberIds Member
  cases m.sets.lookup setId <;> simp

theorem noteStreamOpened_depth (relayTrackId setId : Nat) :
    (m.noteStreamOpened relayTrackId).depth setId =
      m.depth setId + if m.relayTrackToSet relayTrackId = some setId then 1 else 0 := by
  unfold noteStreamOpened depth
  cases h : m.relayTrackToSet relayTrackId with
  | none => simp
  | some setId' =>
    simp only [Function.update_apply, Option.some.injEq]
    grind

theorem noteStreamClosed_depth (relayTrackId setId : Nat) :
    (m.noteStreamClosed relayTrackId).depth setId =
      m.depth setId - if m.relayTrackToSet relayTrackId = some setId then 1 else 0 := by
  unfold noteStreamClosed depth
  cases h : m.relayTrackToSet relayTrackId with
  | none => simp
  | some setId' =>
    cases hcount : m.openStreams setId' with
    | none =>
      simp only [hcount, Option.some.injEq]
      grind
    | some count =>
      simp only [hcount, Function.update_apply, Option.some.injEq]
      grind

theorem Tracked.oneOfSeveral_iff (h : m.Tracked) (ht : m.trackToSet name = some s) :
    m.OneOfSeveral name ↔ ∃ x, m.Member s x ∧ x.fullTrackName ≠ name := by
  obtain ⟨set, -, hset, -⟩ := h.find ht
  simp [OneOfSeveral, getSetForTrack, ht, hset, member_of_lookup hset]

/-- A set that lives on keeps its depth when a track leaves; one that goes takes it along. -/
theorem Tracked.remove_openStreams (h : m.Tracked) (ht : m.trackToSet name = some s) :
    (m.remove name).openStreams =
      if m.OneOfSeveral name then m.openStreams else Function.update m.openStreams s none := by
  obtain ⟨set, y, hset, hfind, hy, hyname⟩ := h.find ht
  have hempty : (set.members.filter fun member => member.fullTrackName ≠ name) = [] ↔
      ¬ m.OneOfSeveral name := by
    rw [h.oneOfSeveral_iff ht]
    simp [member_of_lookup hset]
  simp only [SwitchingSetManager.remove, ht, bumpEpoch, hset, hfind]
  split
  next hnil => rw [if_neg (hempty.mp hnil)]
  next hnil =>
    rw [if_pos]
    by_contra hnot
    exact hnil (hempty.mpr hnot)

/-- Between `m` and `m'` each set keeps its depth and the relay tracks that are not quiet, or it is
left with neither. -/
def Settles (m m' : SwitchingSetManager) (quiet : Nat → Prop) : Prop :=
  ∀ setId, (m'.depth setId = m.depth setId ∧ ∀ r, ¬ quiet r →
    (m'.relayTrackToSet r = some setId ↔ m.relayTrackToSet r = some setId)) ∨
    (m'.depth setId = 0 ∧ ∀ r, m'.relayTrackToSet r ≠ some setId)

variable {quiet : Nat → Prop}

theorem Settles.of_eq {m' : SwitchingSetManager} (hopen : m'.openStreams = m.openStreams)
    (hrelay : m'.relayTrackToSet = m.relayTrackToSet) : m.Settles m' quiet := by
  intro setId
  refine .inl ⟨?_, ?_⟩
  · simp [depth, hopen]
  · simp [hrelay]

theorem Consistent.remove_settles (h : m.Consistent) (name : FullTrackName)
    (hquiet : m.OneOfSeveral name → ∀ x ∈ m.memberNamed name, quiet x.relayTrackId) :
    m.Settles (m.remove name) quiet := by
  cases ht : m.trackToSet name with
  | none =>
    rw [remove_of_untracked ht]
    exact .of_eq rfl rfl
  | some s =>
    obtain ⟨y, hy, hyname, -, -, -, hrelay, -⟩ := h.remove_spec ht
    have hopen := h.remove_openStreams ht
    have hnamed : m.memberNamed name = some y := h.memberNamed_eq_some.mpr ⟨⟨s, hy⟩, hyname⟩
    intro setId
    by_cases hseveral : m.OneOfSeveral name
    · have hy_quiet := hquiet hseveral y hnamed
      rw [if_pos hseveral] at hopen
      refine .inl ⟨by simp [depth, hopen], ?_⟩
      intro r hr
      have hne : r ≠ y.relayTrackId := by
        rintro rfl
        exact hr hy_quiet
      rw [hrelay, Function.update_of_ne hne]
    · rw [if_neg hseveral] at hopen
      obtain rfl | hne := eq_or_ne setId s
      · refine .inr ⟨by simp [depth, hopen], ?_⟩
        intro r hr
        rw [hrelay, Function.update_apply] at hr
        split at hr
        · cases hr
        next hne =>
          obtain ⟨x, hx, rfl⟩ := (h.relayed r setId).mp hr
          rw [h.oneOfSeveral_iff ht] at hseveral
          have hname : x.fullTrackName = name := by
            by_contra hother
            exact hseveral ⟨x, hx, hother⟩
          exact hne (congrArg _ (h.member_unique hx hy (hname.trans hyname.symm)).2)
      · refine .inl ⟨by simp [depth, hopen, Function.update_of_ne hne], ?_⟩
        intro r _
        rw [hrelay, Function.update_apply]
        split
        next heq =>
          have : m.relayTrackToSet r = some s := (h.relayed r s).mpr ⟨y, hy, heq.symm⟩
          simp [this, Ne.symm hne]
        next => rfl

theorem Consistent.release_settles (h : m.Consistent) (name : FullTrackName) (requestId : Nat)
    (hquiet : ∀ x ∈ m.memberNamed name, x.holders = {requestId} → m.OneOfSeveral name →
      ∀ x ∈ m.memberNamed name, quiet x.relayTrackId) :
    m.Settles (m.release name requestId) quiet := by
  cases ht : m.trackToSet name with
  | none =>
    rw [release_of_untracked ht]
    exact .of_eq rfl rfl
  | some s =>
    obtain ⟨y, released, hy, hyname, htracked, hmember, htrack, hrelay, -, hopen, heq⟩ :=
      h.release_spec requestId ht
    obtain ⟨hdropName, hdropRelay⟩ := modifyNamed_drop name requestId
    have hreleased : released.Consistent :=
      h.describe htracked hdropName hdropRelay hmember hrelay
    have hnamed : m.memberNamed name = some y := h.memberNamed_eq_some.mpr ⟨⟨s, hy⟩, hyname⟩
    rw [heq]
    split
    next hlast =>
      have hholders : y.holders = {requestId} := by
        rw [← Finset.insert_erase hlast.1, hlast.2]
        rfl
      have hsettles : released.Settles (released.remove name) quiet := by
        apply hreleased.remove_settles
        intro hseveral x hx
        rw [hreleased.oneOfSeveral_iff (htrack ▸ ht)] at hseveral
        obtain ⟨z, hz, hzname⟩ := hseveral
        obtain ⟨z, hzmember, rfl⟩ := (hmember s z).mp hz
        have hothers : m.OneOfSeveral name :=
          (h.oneOfSeveral_iff ht).mpr ⟨z, hzmember, hdropName z ▸ hzname⟩
        obtain ⟨⟨s', hx⟩, hxname⟩ := hreleased.memberNamed_eq_some.mp hx
        obtain ⟨x, hxmember, rfl⟩ := (hmember s' x).mp hx
        rw [hdropRelay]
        exact hquiet y hnamed hholders hothers x
          (h.memberNamed_eq_some.mpr ⟨⟨s', hxmember⟩, hdropName x ▸ hxname⟩)
      unfold Settles depth at hsettles ⊢
      rwa [hopen, hrelay] at hsettles
    next => exact .of_eq hopen hrelay

theorem assign_openStreams (a : Assignment) : (m.assign a).2.openStreams = m.openStreams := by
  unfold assign
  split <;> rfl

theorem updateAssignment_spec (u : AssignmentUpdate) :
    (m.updateAssignment name u).2.openStreams = m.openStreams ∧
      (m.updateAssignment name u).2.relayTrackToSet = m.relayTrackToSet := by
  unfold updateAssignment
  split
  · exact ⟨rfl, rfl⟩
  · split <;> exact ⟨rfl, rfl⟩

/-- An accepted assignment whose relay id names no other track. -/
theorem Consistent.assign_settles (h : m.Consistent) (a : Assignment)
    (hnew : m.accepts a → (m.relayTrackToSet a.relayTrackId = none ∧ quiet a.relayTrackId) ∨
      ∃ x ∈ m.memberNamed a.fullTrackName, x.relayTrackId = a.relayTrackId)
    (hold : m.accepts a → ∀ x ∈ m.memberNamed a.fullTrackName,
      x.relayTrackId = a.relayTrackId ∨ quiet x.relayTrackId) :
    m.Settles (m.assign a).2 quiet := by
  by_cases ha : m.accepts a
  · obtain ⟨-, -, -, -, hrelays, -⟩ := h.assign_spec ha
    intro setId
    refine .inl ⟨by simp [depth, assign_openStreams], ?_⟩
    intro r hr
    rw [hrelays]
    obtain rfl | hne := eq_or_ne r a.relayTrackId
    · obtain ⟨-, hquiet⟩ | ⟨x, hx, hrelay⟩ := hnew ha
      · exact absurd hquiet hr
      · -- the track has the id already, and so is in the set of the assignment
        obtain ⟨⟨s, hmember⟩, hname⟩ := h.memberNamed_eq_some.mp hx
        have hs : s = a.switchingSetId := ha s (hname ▸ h.member_trackToSet hmember)
        have : m.relayTrackToSet a.relayTrackId = some s := (h.relayed _ s).mpr ⟨x, hmember, hrelay⟩
        rw [this]
        simp [hs, eq_comm]
    · have hkept : ∀ x, m.memberNamed a.fullTrackName = some x → x.relayTrackId ≠ r := by
        rintro x hx rfl
        obtain heq | hquiet := hold ha x hx
        · exact hne heq
        · exact hr hquiet
      simp [hne]
      exact fun _ => hkept
  · rw [assign_of_refused ha]
    exact .of_eq rfl rfl

end SwitchingSetManager

/-! The streams. -/

/-- An open stream has its slot or outlasts it, and a slot is an open stream's or lingers. -/
theorem SendStream.held_add_outlasting (stream : SendStream) :
    stream.held + stream.outlasting = stream.live.toNat + stream.ending + stream.lingering := by
  unfold held outlasting lingering
  cases stream.live <;> cases stream.slot <;> simp [Nat.add_comm]

/-- A stream that stands in the map is not closing. -/
def SendStream.Sound (stream : SendStream) : Prop := stream.inMap = true → stream.closing = false

namespace ClientStreams

open Lib

variable {s s' : ClientStreams} {a : StreamAction}

/-- The streams of one key stand in the map one at a time. -/
def KeysApart (s : ClientStreams) : Prop :=
  ∀ (i j : Nat) (x y : SendStream), s.streams[i]? = some x → s.streams[j]? = some y →
    x.inMap = true → y.inMap = true → x.key = y.key → i = j

structure Kept (s : ClientStreams) : Prop where
  consistent : s.manager.Consistent
  sound : ∀ stream ∈ s.streams, stream.Sound
  apart : s.KeysApart
  balance : ∀ setId, s.manager.depth setId + s.total setId SendStream.beginning =
    s.total setId SendStream.held

theorem Kept.initial (discardTimeoutMs : Nat) : Kept (initial discardTimeoutMs) where
  consistent := .new
  sound := by simp [ClientStreams.initial]
  apart := by simp [KeysApart, ClientStreams.initial]
  balance := fun _ => rfl

theorem total_held (s : ClientStreams) (setId : Nat) :
    s.total setId SendStream.held + s.total setId SendStream.outlasting =
      s.openStreamsOf setId + s.total setId SendStream.ending +
        s.total setId SendStream.lingering := by
  unfold total openStreamsOf
  induction s.streams with
  | nil => rfl
  | cons stream streams ih =>
    have hstream := stream.held_add_outlasting
    simp only [List.map_cons, List.sum_cons, List.countP_cons]
    by_cases hmember : stream.relayTrackId ∈ s.manager.memberIds setId
    · have hlive :
          (if (stream.live && decide (stream.relayTrackId ∈ s.manager.memberIds setId)) = true
            then 1 else 0) = stream.live.toNat := by
        cases stream.live <;> simp [hmember]
      rw [hlive]
      simp only [hmember, if_true]
      omega
    · simp [hmember]
      omega

theorem Kept.accounted (inv : Kept s) (setId : Nat) : s.Accounted setId := by
  have := inv.balance setId
  have := s.total_held setId
  unfold Accounted
  omega

theorem Settled.total_eq_zero {setId : Nat} (h : s.Settled setId) {w : SendStream → Nat}
    (hw : ∀ stream : SendStream, stream.opening ≠ .noting → stream.ending = 0 →
      stream.live = stream.slot → w stream = 0) :
    s.total setId w = 0 := by
  unfold total
  rw [List.sum_eq_zero_iff]
  intro n hn
  obtain ⟨stream, hstream, rfl⟩ := List.mem_map.mp hn
  split
  next hmember =>
    obtain ⟨hopening, hending, hslot⟩ := h stream hstream hmember
    exact hw stream hopening hending hslot
  next => rfl

theorem Accounted.accurate {setId : Nat} (h : s.Accounted setId) (hsettled : s.Settled setId) :
    s.Accurate setId := by
  have hbeginning : s.total setId SendStream.beginning = 0 :=
    hsettled.total_eq_zero fun _ hopening _ _ => by simp [SendStream.beginning, hopening]
  have houtlasting : s.total setId SendStream.outlasting = 0 :=
    hsettled.total_eq_zero fun _ _ _ hslot => by simp [SendStream.outlasting, hslot]
  have hending : s.total setId SendStream.ending = 0 := hsettled.total_eq_zero fun _ _ h _ => h
  have hlingering : s.total setId SendStream.lingering = 0 :=
    hsettled.total_eq_zero fun _ _ _ hslot => by simp [SendStream.lingering, hslot]
  unfold Accounted at h
  rwa [hbeginning, houtlasting, hending, hlingering] at h

theorem total_setStream {i : Nat} {stream stream' : SendStream}
    (there : s.streams[i]? = some stream) (hkey : stream'.key = stream.key) (setId : Nat)
    (w : SendStream → Nat) :
    (s.setStream i stream').total setId w +
        (if stream.relayTrackId ∈ s.manager.memberIds setId then w stream else 0) =
      s.total setId w +
        if stream.relayTrackId ∈ s.manager.memberIds setId then w stream' else 0 := by
  have hrelay : stream'.relayTrackId = stream.relayTrackId := congrArg (·.streamId.relayTrackId) hkey
  have := sum_set_add (fun stream => if stream.relayTrackId ∈ s.manager.memberIds setId then
    w stream else 0) stream' s.streams there
  rwa [hrelay] at this

/-- Each stream keeps its key, and none enters the map. -/
theorem KeysApart.of_kept (h : s.KeysApart)
    (hold : ∀ (i : Nat) (x : SendStream), s'.streams[i]? = some x →
      ∃ y, s.streams[i]? = some y ∧ x.key = y.key ∧ (x.inMap = true → y.inMap = true)) :
    s'.KeysApart := by
  intro i j x y hx hy hxin hyin heq
  obtain ⟨x', hx', hxkey, hxin'⟩ := hold i x hx
  obtain ⟨y', hy', hykey, hyin'⟩ := hold j y hy
  exact h i j x' y' hx' hy' (hxin' hxin) (hyin' hyin) (hxkey.symm.trans (heq.trans hykey))

theorem KeysApart.setStream (h : s.KeysApart) {i : Nat} {stream stream' : SendStream}
    (there : s.streams[i]? = some stream) (hkey : stream'.key = stream.key)
    (hin : stream'.inMap = true → stream.inMap = true) : (s.setStream i stream').KeysApart := by
  apply h.of_kept
  intro j x hx
  simp only [ClientStreams.setStream, List.getElem?_set] at hx
  split at hx
  next heq =>
    subst heq
    split at hx
    · cases hx
      exact ⟨stream, there, hkey, hin⟩
    · cases hx
  next => exact ⟨x, hx, rfl, id⟩

/-- One stream changes, and the depths follow. -/
theorem Kept.setStream (inv : Kept s) {i : Nat} {stream stream' : SendStream}
    {m : SwitchingSetManager} (there : s.streams[i]? = some stream) (hkey : stream'.key = stream.key)
    (hin : stream'.inMap = true → stream.inMap = true) (hsound : stream'.Sound)
    (hconsistent : m.Consistent) (hmembers : m.memberIds = s.manager.memberIds)
    (hdepth : ∀ setId, m.depth setId +
        (if stream.relayTrackId ∈ s.manager.memberIds setId then
          stream'.beginning + stream.held else 0) =
      s.manager.depth setId +
        if stream.relayTrackId ∈ s.manager.memberIds setId then
          stream.beginning + stream'.held else 0) :
    Kept { s.setStream i stream' with manager := m } := by
  refine ⟨hconsistent, ?_, inv.apart.setStream there hkey hin, ?_⟩
  · intro other hother
    obtain hother | rfl := List.mem_or_eq_of_mem_set hother
    · exact inv.sound other hother
    · exact hsound
  · intro setId
    have htotal : ∀ w, ({ s.setStream i stream' with manager := m } : ClientStreams).total setId w =
        (s.setStream i stream').total setId w := by
      intro w
      simp only [total, hmembers]
      rfl
    have hbeginning := total_setStream there hkey setId SendStream.beginning
    have hheld := total_setStream there hkey setId SendStream.held
    have hdepth := hdepth setId
    have := inv.balance setId
    rw [htotal, htotal]
    change m.depth setId + _ = _
    split at hbeginning
    next hmember =>
      simp only [hmember, if_true] at hheld hdepth
      omega
    next hmember =>
      simp only [hmember, if_false] at hheld hdepth
      omega

/-- The same, where the manager is not told: what the stream owes is settled at once, or no set asks. -/
theorem Kept.setStream_quietly (inv : Kept s) {i : Nat} {stream stream' : SendStream}
    (there : s.streams[i]? = some stream) (hkey : stream'.key = stream.key)
    (hin : stream'.inMap = true → stream.inMap = true) (hsound : stream'.Sound)
    (howed : stream'.beginning + stream.held = stream.beginning + stream'.held ∨
      s.Unassigned stream) : Kept (s.setStream i stream') := by
  apply inv.setStream there hkey hin hsound inv.consistent rfl
  intro setId
  simp only [inv.consistent.mem_memberIds]
  obtain howed | hnone := howed
  · rw [howed]
  · unfold Unassigned at hnone
    simp [hnone]

theorem Kept.noteOpened (inv : Kept s) {i : Nat} {stream : SendStream}
    (there : s.streams[i]? = some stream) (hnoting : stream.opening = .noting) :
    Kept { s.setStream i { stream with opening := .writing } with
      manager := s.manager.noteStreamOpened stream.relayTrackId } := by
  obtain ⟨hsets, htrack, hrelay, -⟩ := s.manager.noteStreamOpened_spec stream.relayTrackId
  have hsound := inv.sound stream (List.mem_of_getElem? there)
  refine inv.setStream there rfl id hsound
    (inv.consistent.of_eq hsets htrack hrelay) ?_ ?_
  · funext setId
    simp [SwitchingSetManager.memberIds, hsets]
  · intro setId
    rw [SwitchingSetManager.noteStreamOpened_depth]
    simp only [inv.consistent.mem_memberIds, SendStream.beginning, SendStream.held, hnoting]
    split
    · simp [SendStream.slot]
      omega
    · rfl

theorem Kept.noteClosed (inv : Kept s) {i : Nat} {stream : SendStream}
    (there : s.streams[i]? = some stream) (hending : stream.ending ≠ 0)
    (hcounted : ∀ setId ∈ s.manager.relayTrackToSet stream.relayTrackId,
      0 < s.manager.depth setId) :
    Kept { s.setStream i { stream with ending := stream.ending - 1 } with
      manager := s.manager.noteStreamClosed stream.relayTrackId } := by
  obtain ⟨hsets, htrack, hrelay, -⟩ := s.manager.noteStreamClosed_spec stream.relayTrackId
  have hsound := inv.sound stream (List.mem_of_getElem? there)
  refine inv.setStream there rfl id hsound
    (inv.consistent.of_eq hsets htrack hrelay) ?_ ?_
  · funext setId
    simp [SwitchingSetManager.memberIds, hsets]
  · intro setId
    rw [SwitchingSetManager.noteStreamClosed_depth]
    simp only [inv.consistent.mem_memberIds]
    split
    next hmember =>
      have := hcounted setId hmember
      simp only [SendStream.beginning, SendStream.held, SendStream.slot]
      omega
    next => rfl

/-- The stream loses its slot and its end is about to be noted. -/
theorem Kept.releaseSlot (inv : Kept s) {i : Nat} {stream : SendStream}
    (there : s.streams[i]? = some stream) (hslot : stream.slot = true) {inMap closing live : Bool}
    (hin : inMap = false) (hclosing : closing = false) :
    Kept (s.setStream i { stream with
      inMap := inMap, closing := closing, live := live, ending := stream.ending + 1 }) := by
  subst hin hclosing
  refine inv.setStream_quietly there rfl (by simp) (by simp [SendStream.Sound]) (.inl ?_)
  simp only [SendStream.beginning, SendStream.held, hslot]
  simp [SendStream.slot]
  omega

/-- A stream that stands in the map is the only one its key removes. -/
theorem Kept.removeKey_eq (inv : Kept s) {i : Nat} {stream : SendStream}
    (there : s.streams[i]? = some stream) (hin : stream.inMap = true) :
    s.removeKey stream.key = s.setStream i { stream with inMap := false } := by
  unfold removeKey ClientStreams.setStream
  congr 1
  apply List.ext_getElem?
  intro j
  rw [List.getElem?_map, List.getElem?_set]
  by_cases heq : i = j
  · subst heq
    have hlength := (List.getElem?_eq_some_iff.mp there).1
    rw [there]
    simp [hin, hlength]
  · cases hj : s.streams[j]? with
    | none => simp [heq]
    | some other =>
      have : ¬ (other.inMap = true ∧ other.key = stream.key) := by
        rintro ⟨hother, hkey⟩
        exact heq (inv.apart i j stream other there hj hin hother hkey.symm)
      simp [heq, this]

/-- Streams no set asks for can be dropped without a note. -/
theorem Kept.removeKey (inv : Kept s) {key : SendStreamKey}
    (hnone : s.manager.relayTrackToSet key.streamId.relayTrackId = none) :
    Kept (s.removeKey key) := by
  have htotal : ∀ setId w, (s.removeKey key).total setId w = s.total setId w := by
    intro setId w
    unfold total ClientStreams.removeKey
    rw [List.map_map]
    refine congrArg List.sum (List.map_congr_left fun stream _ => ?_)
    simp only [Function.comp, inv.consistent.mem_memberIds]
    split
    next hkey =>
      have : s.manager.relayTrackToSet stream.relayTrackId = none := by
        simpa [SendStream.relayTrackId, hkey.2] using hnone
      simp [SendStream.relayTrackId] at this ⊢
      simp [this]
    next => rfl
  refine ⟨inv.consistent, ?_, ?_, ?_⟩
  · intro stream hstream
    obtain ⟨stream, hold, rfl⟩ := List.mem_map.mp hstream
    have hsound := inv.sound stream hold
    split
    next => simp [SendStream.Sound]
    next => exact hsound
  · apply inv.apart.of_kept
    intro i x hx
    simp only [ClientStreams.removeKey, List.getElem?_map, Option.map_eq_some_iff] at hx
    obtain ⟨y, hy, rfl⟩ := hx
    refine ⟨y, hy, ?_⟩
    split
    · exact ⟨rfl, by simp⟩
    · exact ⟨rfl, id⟩
  · intro setId
    rw [htotal, htotal]
    exact inv.balance setId

theorem Kept.failHeader (inv : Kept s) {i : Nat} {stream : SendStream}
    (there : s.streams[i]? = some stream) (hwriting : stream.opening = .writing)
    (hin : stream.inMap = true ∨ s.Unassigned stream) :
    Kept ((s.removeKey stream.key).setStream i { stream with
      inMap := false, opening := .over, ending := stream.ending + 1 }) := by
  have hsound := inv.sound stream (List.mem_of_getElem? there)
  cases hstream : stream.inMap with
  | true =>
    rw [inv.removeKey_eq there hstream]
    simp only [ClientStreams.setStream, List.set_set]
    refine inv.setStream_quietly there rfl (by simp) (by simp [SendStream.Sound]) (.inl ?_)
    simp [SendStream.beginning, SendStream.held, SendStream.slot, hwriting, hstream, hsound hstream]
    omega
  | false =>
    have hnone : s.Unassigned stream := by simpa [hstream] using hin
    have hkept : Kept (s.removeKey stream.key) := inv.removeKey hnone
    have hthere : (s.removeKey stream.key).streams[i]? = some stream := by
      simp [ClientStreams.removeKey, there, hstream]
    exact hkept.setStream_quietly hthere rfl (by simp) (by simp [SendStream.Sound]) (.inr hnone)

theorem Kept.openStream (inv : Kept s) (key : SendStreamKey) : Kept (s.openStream key) := by
  unfold ClientStreams.openStream
  split
  · exact inv
  next hnew =>
    have hfree : ∀ (i : Nat) (x : SendStream), s.streams[i]? = some x → x.inMap = true →
        x.key ≠ key := by
      intro i x hx hin hkey
      apply hnew
      rw [List.any_eq_true]
      exact ⟨x, List.mem_of_getElem? hx, by simp [hin, hkey]⟩
    have hcases : ∀ (i : Nat) (x : SendStream), (s.streams ++ [.new key])[i]? = some x →
        s.streams[i]? = some x ∨ i = s.streams.length ∧ x = .new key := by
      intro i x hx
      exact getElem?_joined hx
    refine ⟨inv.consistent, ?_, ?_, ?_⟩
    · intro stream hstream
      rw [List.mem_append, List.mem_singleton] at hstream
      obtain hstream | rfl := hstream
      · exact inv.sound stream hstream
      · exact fun _ => rfl
    · intro i j x y hx hy hxin hyin heq
      obtain hx | ⟨rfl, rfl⟩ := hcases i x hx
      · obtain hy | ⟨rfl, rfl⟩ := hcases j y hy
        · exact inv.apart i j x y hx hy hxin hyin heq
        · exact absurd heq (hfree i x hx hxin)
      · obtain hy | ⟨rfl, rfl⟩ := hcases j y hy
        · exact absurd heq.symm (hfree j y hy hyin)
        · rfl
    · intro setId
      have := inv.balance setId
      unfold total at this ⊢
      simp only [List.map_append, List.sum_append, List.map_cons, List.map_nil, List.sum_singleton]
      change s.manager.depth setId + (_ + _) = _
      rw [← Nat.add_assoc, this]
      rfl

/-- A closing stream has left the map. -/
theorem Kept.notInMap (inv : Kept s) {i : Nat} {stream : SendStream}
    (there : s.streams[i]? = some stream) (hclosing : stream.closing = true) :
    stream.inMap = false := by
  have hsound := inv.sound stream (List.mem_of_getElem? there)
  cases hin : stream.inMap
  · rfl
  · simp [hsound hin] at hclosing

/-- The task that waited for the stream to finish is over, and no end is noted. -/
theorem Kept.stopClosing (inv : Kept s) {i : Nat} {stream : SendStream} {live : Bool}
    (there : s.streams[i]? = some stream) (hnone : s.Unassigned stream) :
    Kept (s.setStream i { stream with closing := false, live := live }) :=
  inv.setStream_quietly there rfl id (fun _ => rfl) (.inr hnone)

theorem Kept.finish (inv : Kept s) {i : Nat} {ok : Bool} {stream : SendStream}
    (there : s.streams[i]? = some stream)
    (hfails : s.discardTimeoutMs = 0 → ok = false → s.Unassigned stream)
    (h : s.finish i ok stream = some s') : Kept s' := by
  unfold ClientStreams.finish at h
  split at h
  next hclosing =>
    split at h
    next hfailed =>
      cases h
      exact inv.stopClosing there (hfails hfailed.1 hfailed.2)
    next =>
      cases h
      have hslot : stream.slot = true := by simp [SendStream.slot, hclosing]
      exact inv.releaseSlot there hslot (inv.notInMap there hclosing) rfl
  next => cases h

/-- Whether the stream is open is no matter of the count. -/
theorem Kept.setLive (inv : Kept s) {i : Nat} {stream : SendStream} (live : Bool)
    (there : s.streams[i]? = some stream) : Kept (s.setStream i { stream with live := live }) :=
  inv.setStream_quietly there rfl id (inv.sound stream (List.mem_of_getElem? there)) (.inl rfl)

/-- A call that moves no relay track that is not quiet, but by ending its set. -/
theorem Kept.call (inv : Kept s) {m : SwitchingSetManager} (hconsistent : m.Consistent)
    (hsettles : s.manager.Settles m s.Quiet) : Kept { s with manager := m } := by
  refine ⟨hconsistent, inv.sound, inv.apart, ?_⟩
  intro setId
  obtain ⟨hdepth, hkept⟩ | ⟨hdepth, hnone⟩ := hsettles setId
  · -- a stream that joins or leaves the set adds as much to the one total as to the other
    have hsums : ({ s with manager := m } : ClientStreams).total setId SendStream.beginning +
          s.total setId SendStream.held =
        ({ s with manager := m } : ClientStreams).total setId SendStream.held +
          s.total setId SendStream.beginning := by
      unfold total
      simp only [hconsistent.mem_memberIds, inv.consistent.mem_memberIds, ← List.sum_map_add]
      refine congrArg List.sum (List.map_congr_left fun stream hstream => ?_)
      by_cases hquiet : s.Quiet stream.relayTrackId
      · rw [hquiet stream hstream rfl]
      · simp only [hkept stream.relayTrackId hquiet]
        exact Nat.add_comm _ _
    have := inv.balance setId
    change m.depth setId + _ = _
    rw [hdepth]
    omega
  · have hempty : ∀ w, ({ s with manager := m } : ClientStreams).total setId w = 0 := by
      intro w
      simp [total, hconsistent.mem_memberIds, hnone]
    rw [hempty, hempty]
    exact hdepth

theorem Kept.call_counts (inv : Kept s) (c : Call) (ha : s.Counts (.call c)) :
    Kept { s with manager := s.manager.call c } := by
  cases c with
  | assign a =>
    simp only [Counts] at ha
    apply inv.call
    · by_cases haccepts : s.manager.accepts a
      · apply inv.consistent.assign
        intro setId x hx hrelay
        obtain ⟨⟨hnone, -⟩ | ⟨y, hy, hy_relay⟩, -⟩ := ha haccepts
        · have := (inv.consistent.relayed _ setId).mpr ⟨x, hx, hrelay⟩
          exact absurd (hnone.symm.trans this) (by simp)
        · obtain ⟨⟨setId', hy⟩, hname⟩ := inv.consistent.memberNamed_eq_some.mp hy
          exact (inv.consistent.relay_inj _ _ x y hx hy (hrelay.trans hy_relay.symm)).trans hname
      · simp only [SwitchingSetManager.call, SwitchingSetManager.assign_of_refused haccepts]
        exact inv.consistent
    · apply inv.consistent.assign_settles a
      · exact fun h => (ha h).1
      · exact fun h => (ha h).2
  | release name requestId =>
    apply inv.call (inv.consistent.release name requestId)
    exact inv.consistent.release_settles name requestId ha
  | remove name =>
    apply inv.call (inv.consistent.remove name)
    exact inv.consistent.remove_settles name ha
  | update name u =>
    obtain ⟨hopen, hrelay⟩ := s.manager.updateAssignment_spec u
    exact inv.call (inv.consistent.update name u) (.of_eq hopen hrelay)

theorem Kept.step (inv : Kept s) (ha : s.Counts a) (h : s.step a = some s') : Kept s' := by
  have hsound := fun {i : Nat} {stream : SendStream} (there : s.streams[i]? = some stream) =>
    inv.sound stream (List.mem_of_getElem? there)
  cases a with
  | openStream key =>
    cases h
    exact inv.openStream key
  | noteOpened i =>
    obtain ⟨stream, there, h⟩ := Option.bind_eq_some_iff.mp h
    unfold ClientStreams.noteOpened at h
    split at h
    next hnoting =>
      cases h
      exact inv.noteOpened there hnoting
    next => cases h
  | writeHeader i =>
    obtain ⟨stream, there, h⟩ := Option.bind_eq_some_iff.mp h
    unfold writeHeader at h
    split at h
    next hwriting =>
      cases h
      have := hsound there
      refine inv.setStream_quietly there rfl id this (.inl ?_)
      simp [SendStream.beginning, SendStream.held, SendStream.slot, hwriting]
    next => cases h
  | failHeader i =>
    obtain ⟨stream, there, h⟩ := Option.bind_eq_some_iff.mp h
    unfold ClientStreams.failHeader at h
    split at h
    next hwriting =>
      cases h
      exact inv.failHeader there hwriting (ha stream there)
    next => cases h
  | abandonOpening i =>
    obtain ⟨stream, there, h⟩ := Option.bind_eq_some_iff.mp h
    unfold abandonOpening at h
    split at h
    · cases h
    next hover =>
      cases h
      have := hsound there
      refine inv.setStream_quietly there rfl id this ?_
      by_cases hnoting : stream.opening = .noting
      · exact .inr (ha stream there hnoting)
      · left
        simp [SendStream.beginning, SendStream.held, SendStream.slot, hnoting]
  | endInMap i =>
    obtain ⟨stream, there, h⟩ := Option.bind_eq_some_iff.mp h
    unfold endInMap at h
    split at h
    · cases h
      exact inv.setLive false there
    · cases h
  | takeStream i =>
    obtain ⟨stream, there, h⟩ := Option.bind_eq_some_iff.mp h
    unfold takeStream at h
    split at h
    next hin =>
      cases h
      refine inv.setStream_quietly there rfl (by simp) (by simp [SendStream.Sound]) (.inl ?_)
      simp [SendStream.beginning, SendStream.held, SendStream.slot, hin]
    next => cases h
  | finish i ok =>
    obtain ⟨stream, there, h⟩ := Option.bind_eq_some_iff.mp h
    exact inv.finish there (ha stream there) h
  | discard i =>
    obtain ⟨stream, there, h⟩ := Option.bind_eq_some_iff.mp h
    unfold discard at h
    split at h
    next hclosing =>
      cases h
      have hslot : stream.slot = true := by simp [SendStream.slot, hclosing.1]
      exact inv.releaseSlot there hslot (inv.notInMap there hclosing.1) rfl
    next => cases h
  | abandonClosing i =>
    obtain ⟨stream, there, h⟩ := Option.bind_eq_some_iff.mp h
    unfold abandonClosing at h
    split at h
    · cases h
      exact inv.stopClosing there (ha stream there)
    · cases h
  | releaseStream i =>
    obtain ⟨stream, there, h⟩ := Option.bind_eq_some_iff.mp h
    unfold releaseStream at h
    split at h
    next hin =>
      cases h
      have hslot : stream.slot = true := by simp [SendStream.slot, hin]
      exact inv.releaseSlot there hslot rfl (hsound there hin)
    next => cases h
  | letGo i =>
    obtain ⟨stream, there, h⟩ := Option.bind_eq_some_iff.mp h
    unfold letGo at h
    split at h
    · cases h
    · cases h
      exact inv.setLive false there
  | noteClosed i =>
    obtain ⟨stream, there, h⟩ := Option.bind_eq_some_iff.mp h
    unfold ClientStreams.noteClosed at h
    split at h
    · cases h
    next hending =>
      cases h
      exact inv.noteClosed there hending (ha stream there)
  | abandonEnding i =>
    obtain ⟨stream, there, h⟩ := Option.bind_eq_some_iff.mp h
    unfold abandonEnding at h
    split at h
    · cases h
    next =>
      cases h
      have := hsound there
      exact inv.setStream_quietly there rfl id this (.inr (ha stream there))
  | call c =>
    cases h
    exact inv.call_counts c ha

/-- In a run whose steps all keep the count in step with the streams, every set's depth is the
number of its members' open streams but for the notes, releases and resets on their way, and once
none is on its way it is their number. -/
theorem run_accurate (discardTimeoutMs : Nat) (actions : List StreamAction) (s : ClientStreams)
    (hcounts : Along step Counts (initial discardTimeoutMs) actions)
    (hrun : run step (initial discardTimeoutMs) actions = some s) (setId : Nat) :
    s.Accounted setId ∧ (s.Settled setId → s.Accurate setId) := by
  have inv : Kept s := run_invariant (fun _ _ _ inv ha h => inv.step ha h) actions _ _
    (.initial discardTimeoutMs) hcounts hrun
  exact ⟨inv.accounted setId, (inv.accounted setId).accurate⟩

/-- The key of a subgroup stream of relay track 5. -/
def subgroupKey (groupId : Nat) : SendStreamKey := ⟨0, .subgroup, 5, some groupId, some 0, none⟩

/-- Relay track 5 joins set 1, and a stream of it is opened. -/
def openedInSet : List StreamAction :=
  [.call (.assign ⟨⟨[], [1]⟩, 5, 0, 1, 0xff01, 300, 1, 1, 0⟩), .openStream (subgroupKey 7),
    .noteOpened 0, .writeHeader 0]

/-- A second stream whose opening the end of the first overtakes, and a third that is released and
then reset. -/
def finishedInSet : List StreamAction :=
  openedInSet ++ [.openStream (subgroupKey 8), .takeStream 0, .finish 0 true, .noteClosed 0,
    .noteOpened 1, .openStream (subgroupKey 9), .noteOpened 2, .writeHeader 2, .releaseStream 2,
    .noteClosed 2, .letGo 2]

theorem run_accurate_finished :
    ((run step (initial 0) finishedInSet).any fun s => s.manager.openStreams 1 = some 1) = true ∧
    ∀ s, run step (initial 0) finishedInSet = some s →
      s.Accounted 1 ∧ (s.Settled 1 → s.Accurate 1) :=
  ⟨by decide +kernel, fun s hrun => run_accurate 0 finishedInSet s (by decide +kernel) hrun 1⟩

/-- A stream that fails to finish, where no discard timeout is set, is counted for good. -/
theorem failedFinish_not_accurate :
    ¬ ∀ discardTimeoutMs actions s,
      run step (initial discardTimeoutMs) actions = some s → ∀ setId, s.Settled setId →
        s.Accurate setId := by
  intro h
  have hrun : ((run step (initial 0) (openedInSet ++ [.takeStream 0, .finish 0 false])).any fun s =>
      s.manager.depth 1 = 1 ∧ s.openStreamsOf 1 = 0 ∧ s.Settled 1) = true := by
    decide +kernel
  obtain ⟨s, hs, hfacts⟩ := (Option.any_eq_true _ _).mp hrun
  obtain ⟨hdepth, hnone, hsettled⟩ := of_decide_eq_true hfacts
  have := h 0 _ s hs 1 hsettled
  rw [Accurate, hdepth, hnone] at this
  cases this

end ClientStreams

end Moqtail.Ssts
