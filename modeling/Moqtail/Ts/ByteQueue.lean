import Moqtail.Lib.MarkedQueue
import Moqtail.Lib.Run
import Moqtail.Ts.BufferObject

/-! The `ByteBuffer` of the TypeScript library is a queue of bytes.

The object over memory does what the memory that grows does, and that does what a queue does that
can be set back. -/
namespace Moqtail.Ts

open Lib

namespace GrowingBuffer

/-- `constructor` with a size of its own. -/
def ofSize (initialSize : Nat) : GrowingBuffer :=
  ⟨List.replicate initialSize 0, 0, 0, 0, Nat.zero_le _, nothing_le, nothing_le⟩

end GrowingBuffer

namespace BufferObject

/-- `buf` and `view` of the object both see the memory of the other. -/
structure Mirrors (s : BufferObject) (b : GrowingBuffer) : Prop where
  view_eq : s.view = s.buf
  buf_lt : s.buf < s.memory.length
  bytes_eq : s.bytes = b.buf
  length_eq : s.length = b.length
  offset_eq : s.offset = b.offset
  checkpoint_eq : s.checkpoint = b.checkpoint

variable {s : BufferObject} {b : GrowingBuffer}

theorem Mirrors.consistent (h : s.Mirrors b) : s.Consistent where
  view_eq := h.view_eq
  buf_lt := h.buf_lt
  length_le := by
    rw [h.bytes_eq, h.length_eq]
    exact b.length_le
  offset_le := by
    rw [h.offset_eq, h.length_eq]
    exact b.offset_le
  checkpoint_le := by
    rw [h.checkpoint_eq, h.length_eq]
    exact b.checkpoint_le

theorem Mirrors.unread_eq (h : s.Mirrors b) : s.unread = b.unread := by
  rw [unread, h.bytes_eq, h.length_eq, h.offset_eq, GrowingBuffer.unread]

theorem new_mirrors (initialSize : Nat) : (new initialSize).Mirrors (.ofSize initialSize) :=
  ⟨rfl, Nat.zero_lt_one, rfl, rfl, rfl, rfl⟩

/-! Writes. -/

/-- There is room after `ensureCapacity`, and what was in use is as it was. -/
theorem ensureCapacity_eq (h : s.Mirrors b) (add : Nat) :
    ∃ s', s.ensureCapacity add = (.ok (), s') ∧ s'.view = s'.buf ∧ s'.buf < s'.memory.length ∧
      s'.bytes = b.capacityFor add ∧ s'.length = s.length ∧ s'.offset = s.offset ∧
      s'.checkpoint = s.checkpoint := by
  have hlength := b.length_le
  rw [ensureCapacity, GrowingBuffer.capacityFor, h.bytes_eq, h.length_eq]
  dsimp only
  by_cases hroom : b.length + add ≤ b.buf.length
  · rw [if_pos hroom, if_pos hroom]
    exact ⟨s, rfl, h.view_eq, h.buf_lt, h.bytes_eq, h.length_eq, rfl, rfl⟩
  · have hgrown := GrowingBuffer.le_grownSize_of_size (b.length + add) b.buf.length
    rw [if_neg hroom, if_neg hroom]
    generalize GrowingBuffer.grownSize (b.length + add) (b.length + add) (b.buf.length * 2 + 1) =
      newSize at hgrown ⊢
    have htake : (b.buf.take b.length).length = b.length := by
      rw [List.length_take]
      omega
    have hset : arraySet (List.replicate newSize 0) (b.buf.take b.length) 0 =
        .ok (b.buf.take b.length ++ List.replicate (newSize - b.length) 0) := by
      rw [arraySet, htake, List.length_replicate, if_pos (by omega), overwrite, htake, Nat.zero_add,
        List.take_zero, List.nil_append, List.drop_replicate]
    rw [hset]
    refine ⟨_, rfl, rfl, ?_, bytes_renew _ _, h.length_eq, rfl, rfl⟩
    show s.memory.length < (s.memory ++ [_]).length
    rw [List.length_append, List.length_singleton]
    omega

/-- The bytes of one write go into the room made for them. -/
theorem exists_wrote (h : s.Mirrors b) (src : Bytes) :
    ∃ s', s.ensureCapacity src.length = (.ok (), s') ∧ s'.view = s'.buf ∧
      s'.buf < s'.memory.length ∧ s'.length + src.length ≤ s'.bytes.length ∧
      (s'.wrote src).Mirrors (b.putBytes src) := by
  obtain ⟨s', hensure, hview, hbuf, hbytes, hlength, hoffset, hcheckpoint⟩ :=
    ensureCapacity_eq h src.length
  have hroom := b.le_length_capacityFor src.length
  rw [h.length_eq] at hlength
  refine ⟨s', hensure, hview, hbuf, ?_, ?_⟩
  · rw [hbytes, hlength]
    exact hroom
  have hmemory : (s'.wrote src).memory.length = s'.memory.length := List.length_set
  constructor
  · exact hview
  · rw [hmemory]
    exact hbuf
  · have hafter : (s'.wrote src).bytes = overwrite s'.bytes s'.length src := bytes_set hbuf _ _ _ _
    rw [hafter, hbytes, hlength]
    rfl
  · exact congrArg (· + src.length) hlength
  · exact hoffset.trans h.offset_eq
  · exact hcheckpoint.trans h.checkpoint_eq

/-- The operation writes these bytes, or throws and changes nothing. -/
def WritesLike (op : BufferObject → Result Unit × BufferObject) (bytes : Result Bytes) : Prop :=
  ∀ (s : BufferObject) (b : GrowingBuffer), s.Mirrors b →
    (∀ src, bytes = .ok src → ∃ s', op s = (.ok (), s') ∧ s'.Mirrors (b.putBytes src)) ∧
    ∀ e, bytes = .error e → op s = (.error e, s)

theorem putU8_writesLike (v : Int) : WritesLike (putU8 v) (ByteBuffer.putU8 v) := by
  intro s b h
  rw [ByteBuffer.putU8]
  by_cases hrange : v < 0 ∨ v > 0xff
  · rw [if_pos hrange]
    refine ⟨nofun, fun e he => ?_⟩
    cases he
    rw [putU8, if_pos hrange]
  · rw [if_neg hrange]
    refine ⟨fun src hsrc => ?_, nofun⟩
    cases hsrc
    obtain ⟨s', hensure, hview, hbuf, hroom, hwrote⟩ := exists_wrote h [UInt8.ofNat v.toNat]
    refine ⟨_, ?_, hwrote⟩
    rw [List.length_singleton] at hensure
    rw [putU8, if_neg hrange, hensure]
    exact viewSetUint8_next hview hroom _

theorem putU16_writesLike (v : Int) : WritesLike (putU16 v) (ByteBuffer.putU16 v) := by
  intro s b h
  rw [ByteBuffer.putU16]
  by_cases hrange : v < 0 ∨ v > 0xffff
  · rw [if_pos hrange]
    refine ⟨nofun, fun e he => ?_⟩
    cases he
    rw [putU16, if_pos hrange]
  · rw [if_neg hrange]
    refine ⟨fun src hsrc => ?_, nofun⟩
    cases hsrc
    obtain ⟨s', hensure, hview, hbuf, hroom, hwrote⟩ :=
      exists_wrote h [UInt8.ofNat (v.toNat / 256), UInt8.ofNat (v.toNat % 256)]
    refine ⟨_, ?_, hwrote⟩
    have hset : s'.viewSetUint16 s'.length v.toNat = _ := viewSet_eq hview hroom
    rw [List.length_cons, List.length_singleton] at hensure
    rw [putU16, if_neg hrange, hensure]
    dsimp only
    rw [hset]
    rfl

theorem putVI_writesLike (v : Int) : WritesLike (putVI v) (ByteBuffer.putVI v) := by
  intro s b h
  cases hbytes : ByteBuffer.putVI v with
  | error e =>
    refine ⟨nofun, fun e' he => ?_⟩
    cases he
    rw [putVI, hbytes]
  | ok src =>
    refine ⟨fun src' hsrc => ?_, nofun⟩
    cases hsrc
    obtain ⟨u, rfl, rfl⟩ := ByteBuffer.putVI_eq_ok hbytes
    have hviLength : ByteBuffer.viLength (ofU64 u).toNat = (putVi u).length := by
      rw [ofU64, Int.toNat_natCast, ByteBuffer.viLength_eq, length_putVi]
    obtain ⟨s', hensure, hview, hbuf, hroom, hwrote⟩ := exists_wrote h (putVi u)
    refine ⟨_, ?_, hwrote⟩
    rw [putVI, hbytes]
    dsimp only
    rw [hviLength, hensure]
    exact putEach_eq _ s' hview hbuf hroom

theorem putBytes_writesLike (src : Bytes) : WritesLike (putBytes src) (.ok src) := by
  intro s b h
  refine ⟨fun src' hsrc => ?_, nofun⟩
  cases hsrc
  obtain ⟨s', hensure, hview, hbuf, hroom, hwrote⟩ := exists_wrote h src
  refine ⟨_, ?_, hwrote⟩
  rw [putBytes, hensure]
  dsimp only
  rw [bufSet_eq hroom]
  rfl

/-- What is moved to the front is what is not read yet, whether it overlaps where it was or not. -/
theorem commit_mirrors (h : s.Mirrors b) :
    ∃ s', s.commit = (.ok (), s') ∧ s'.Mirrors b.commit := by
  have hlength := b.length_le
  have hunread := h.unread_eq
  rw [commit, GrowingBuffer.commit, h.offset_eq, h.length_eq]
  by_cases hnone : b.offset = 0
  · rw [if_pos hnone, if_pos hnone]
    exact ⟨s, rfl, h⟩
  rw [if_neg hnone, if_neg hnone]
  by_cases hall : b.offset ≥ b.length
  · rw [if_pos hall, if_pos hall]
    refine ⟨s.clear, rfl, rfl, ?_, bytes_renew _ _, rfl, rfl, rfl⟩
    show s.memory.length < (s.memory ++ [[]]).length
    rw [List.length_append, List.length_singleton]
    omega
  rw [if_neg hall, if_neg hall]
  rw [unread, h.offset_eq, h.length_eq] at hunread
  have hsize := b.length_unread
  have hroom : 0 + b.unread.length ≤ s.bytes.length := by
    rw [hsize, h.bytes_eq]
    omega
  rw [hunread, bufSet_eq hroom]
  refine ⟨_, rfl, rfl, ?_, ?_, ?_, rfl, rfl⟩
  · exact Nat.lt_of_lt_of_eq h.buf_lt List.length_set.symm
  · apply (bytes_set h.buf_lt _ (s.length - s.offset) 0 0).trans
    rw [overwrite, List.take_zero, List.nil_append, Nat.zero_add, hsize, h.bytes_eq]
  · dsimp only
    rw [h.length_eq, h.offset_eq]

end BufferObject

/-! What is called. -/

/-- What a call returns. -/
inductive Output where
  | nothing
  | number (v : Int)
  | bytes (bs : Bytes)
deriving DecidableEq

inductive BufferOp where
  | putU8 (v : Int)
  | putU16 (v : Int)
  | putVI (v : Int)
  | putBytes (src : Bytes)
  | getU8
  | getU16
  | getVI
  | getBytes (len : Nat)
  | checkpoint
  | restore
  | commit
deriving DecidableEq

/-- What a call does to a queue: it writes bytes or throws, reads from the front or throws, or sets
the queue back or forth. -/
inductive QueueAction where
  | write (bytes : Result Bytes)
  | read (get : Bytes → Result (Output × Bytes))
  | checkpoint
  | restore
  | commit

/-- The value that is read, as what the call returns. -/
def returned {α β : Type} (output : α → Output) (r : Result α × β) : Result Output × β :=
  (r.1.map output, r.2)

/-- Reads a value as what the call returns. -/
def reading {α : Type} (output : α → Output) (get : Bytes → Result (α × Bytes)) :
    Bytes → Result (Output × Bytes) :=
  fun buf => (get buf).map fun r => (output r.1, r.2)

def BufferOp.action : BufferOp → QueueAction
  | putU8 v => .write (ByteBuffer.putU8 v)
  | putU16 v => .write (ByteBuffer.putU16 v)
  | putVI v => .write (ByteBuffer.putVI v)
  | putBytes src => .write (.ok src)
  | getU8 => .read (reading .number ByteBuffer.getU8)
  | getU16 => .read (reading .number ByteBuffer.getU16)
  | getVI => .read (reading .number ByteBuffer.getVI)
  | getBytes len => .read (reading .bytes (ByteBuffer.getBytes len))
  | checkpoint => .checkpoint
  | restore => .restore
  | commit => .commit

def BufferObject.perform : BufferOp → BufferObject → Result Output × BufferObject
  | .putU8 v, s => returned (fun _ => .nothing) (s.putU8 v)
  | .putU16 v, s => returned (fun _ => .nothing) (s.putU16 v)
  | .putVI v, s => returned (fun _ => .nothing) (s.putVI v)
  | .putBytes src, s => returned (fun _ => .nothing) (s.putBytes src)
  | .getU8, s => returned (fun b => .number b.toNat) s.getU8
  | .getU16, s => returned .number s.getU16
  | .getVI, s => returned .number s.getVI
  | .getBytes len, s => returned .bytes (s.getBytes len)
  | .checkpoint, s => (.ok .nothing, s.setCheckpoint)
  | .restore, s => (.ok .nothing, s.restore)
  | .commit, s => returned (fun _ => .nothing) s.commit

def GrowingBuffer.act : QueueAction → GrowingBuffer → Result Output × GrowingBuffer
  | .write (.ok bytes), b => (.ok .nothing, b.putBytes bytes)
  | .write (.error e), b => (.error e, b)
  | .read get, b => b.read get
  | .checkpoint, b => (.ok .nothing, b.setCheckpoint)
  | .restore, b => (.ok .nothing, b.restore)
  | .commit, b => (.ok .nothing, b.commit)

/-- What has been read are as many bytes as `get` does not leave. -/
def queueAct : QueueAction → MarkedQueue UInt8 → Result Output × MarkedQueue UInt8
  | .write (.ok bytes), q => (.ok .nothing, q.put bytes)
  | .write (.error e), q => (.error e, q)
  | .read get, q =>
    match get q.unread with
    | .ok (output, rest) => (.ok output, q.take (q.unread.length - rest.length))
    | .error e => (.error e, q)
  | .checkpoint, q => (.ok .nothing, q.setMark)
  | .restore, q => (.ok .nothing, q.restore)
  | .commit, q => (.ok .nothing, q.commit)

/-! The object does what the memory that grows does. -/

section Mirrors

variable {s : BufferObject} {b : GrowingBuffer}

/-- The call answers as the other does and leaves the object the mirror of it, and as it was where
it throws. -/
structure Performs (s : BufferObject) (r : Result Output × BufferObject)
    (r' : Result Output × GrowingBuffer) : Prop where
  same : SameAnswer BufferObject.Mirrors r r'
  unchanged : ∀ e s', r = (.error e, s') → s' = s

theorem performs_of_ok {output : Output} {s' : BufferObject} {b' : GrowingBuffer}
    (h : s'.Mirrors b') : Performs s (.ok output, s') (.ok output, b') where
  same := ⟨rfl, h⟩
  unchanged := by
    intro e t hthrows
    cases hthrows

theorem performs_of_error (e : Error) (h : s.Mirrors b) :
    Performs s (.error e, s) (.error e, b) where
  same := ⟨rfl, h⟩
  unchanged := by
    intro e' s' hthrows
    cases hthrows
    rfl

theorem BufferObject.WritesLike.performs {op : BufferObject → Result Unit × BufferObject}
    {bytes : Result Bytes} (hop : BufferObject.WritesLike op bytes) (h : s.Mirrors b) :
    Performs s (returned (fun _ => .nothing) (op s)) (b.act (.write bytes)) := by
  obtain ⟨hok, herror⟩ := hop s b h
  cases bytes with
  | ok src =>
    obtain ⟨s', hs', hmirrors⟩ := hok src rfl
    rw [hs']
    exact performs_of_ok hmirrors
  | error e =>
    rw [herror e rfl]
    exact performs_of_error e h

theorem BufferObject.ReadsLike.performs {α β : Type} {op : BufferObject → Result α × BufferObject}
    {f : α → β} {get : Bytes → Result (β × Bytes)} {output : α → Output} {output' : β → Output}
    (hop : BufferObject.ReadsLike op f get) (houtput : ∀ a, output a = output' (f a))
    (h : s.Mirrors b) :
    Performs s (returned output (op s)) (b.act (.read (reading output' get))) := by
  obtain ⟨hok, herror⟩ := hop s h.consistent
  rw [GrowingBuffer.act, GrowingBuffer.read, reading, ← h.unread_eq]
  cases hget : get s.unread with
  | ok r =>
    obtain ⟨a, hvalue, hs'⟩ := hok r.1 r.2 hget
    have hoffset := congrArg (· - r.2.length) h.length_eq
    have hanswer := (houtput a).trans (congrArg output' hvalue)
    rw [hs']
    simp only [returned, Except.map, hanswer]
    exact performs_of_ok
      ⟨h.view_eq, h.buf_lt, h.bytes_eq, h.length_eq, hoffset, h.checkpoint_eq⟩
  | error e =>
    rw [herror e hget]
    exact performs_of_error e h

theorem perform_performs (op : BufferOp) (h : s.Mirrors b) :
    Performs s (s.perform op) (b.act op.action) := by
  cases op with
  | putU8 v => exact (BufferObject.putU8_writesLike v).performs h
  | putU16 v => exact (BufferObject.putU16_writesLike v).performs h
  | putVI v => exact (BufferObject.putVI_writesLike v).performs h
  | putBytes src => exact (BufferObject.putBytes_writesLike src).performs h
  | getU8 => exact BufferObject.getU8_readsLike.performs (fun _ => rfl) h
  | getU16 => exact BufferObject.getU16_readsLike.performs (fun _ => rfl) h
  | getVI => exact BufferObject.getVI_readsLike.performs (fun _ => rfl) h
  | getBytes len => exact (BufferObject.getBytes_readsLike len).performs (fun _ => rfl) h
  | checkpoint =>
    exact performs_of_ok
      ⟨h.view_eq, h.buf_lt, h.bytes_eq, h.length_eq, h.offset_eq, h.offset_eq⟩
  | restore =>
    exact performs_of_ok
      ⟨h.view_eq, h.buf_lt, h.bytes_eq, h.length_eq, h.checkpoint_eq, h.checkpoint_eq⟩
  | commit =>
    obtain ⟨s', hs', hmirrors⟩ := BufferObject.commit_mirrors h
    show Performs s (returned _ s.commit) _
    rw [hs']
    exact performs_of_ok hmirrors

end Mirrors

/-! The memory that grows does what the queue does. -/

/-- The bytes in use are those that are not gone, and the offset and the checkpoint count from the
first of them. -/
structure GrowingBuffer.Holds (b : GrowingBuffer) (q : MarkedQueue UInt8) : Prop where
  kept_eq : b.buf.take b.length = q.kept
  offset_eq : q.dropped + b.offset = q.position
  checkpoint_eq : q.dropped + b.checkpoint = q.mark

section Holds

variable {b : GrowingBuffer} {q : MarkedQueue UInt8}

theorem GrowingBuffer.Holds.unread_eq (h : b.Holds q) : b.unread = q.unread := by
  have hoffset := h.offset_eq
  rw [q.unread_eq_drop_kept, GrowingBuffer.unread, h.kept_eq]
  congr 1
  omega

theorem GrowingBuffer.Holds.length_eq (h : b.Holds q) :
    q.dropped + b.length = q.written.length := by
  have hkept := congrArg List.length h.kept_eq
  have hlength := b.length_le
  have hdropped := q.dropped_le
  have hmark := q.mark_le
  have hposition := q.position_le
  rw [List.length_take, q.length_kept] at hkept
  omega

theorem putBytes_holds (h : b.Holds q) (src : Bytes) : (b.putBytes src).Holds (q.put src) := by
  have hlength := b.length_le
  have htake : (b.buf.take b.length).length = b.length := by
    rw [List.length_take]
    omega
  refine ⟨?_, h.offset_eq, h.checkpoint_eq⟩
  rw [q.kept_put, ← h.kept_eq]
  show ((b.capacityFor src.length).take b.length ++ src ++
    (b.capacityFor src.length).drop (b.length + src.length)).take (b.length + src.length) = _
  rw [GrowingBuffer.take_capacityFor, List.take_append_of_le_length
    (by rw [List.length_append]; omega), List.take_of_length_le (by rw [List.length_append]; omega)]

theorem commit_holds (h : b.Holds q) : b.commit.Holds q.commit := by
  have hoffset := h.offset_eq
  have hcheckpoint := h.checkpoint_eq
  have hmark := q.mark_le
  have hnothing : b.commit.offset = 0 := b.offset_commit
  have hstart : b.commit.checkpoint = 0 := by
    unfold GrowingBuffer.commit
    split
    · omega
    split <;> rfl
  have hunread : b.commit.unread = q.unread := by rw [b.unread_commit, h.unread_eq]
  rw [GrowingBuffer.unread, hnothing, List.drop_zero] at hunread
  refine ⟨hunread, ?_, ?_⟩
  · rw [hnothing]
    rfl
  · rw [hstart]
    rfl

/-- What is read are the first bytes of what there is. -/
def QueueAction.ReadsFront : QueueAction → Prop
  | .read get => ∀ buf output rest, get buf = .ok (output, rest) → rest.length ≤ buf.length
  | _ => True

theorem reading_le {α : Type} {output : α → Output} {get : Bytes → Result (α × Bytes)}
    (hget : ∀ buf a rest, get buf = .ok (a, rest) → rest.length ≤ buf.length) :
    (QueueAction.read (reading output get)).ReadsFront := by
  intro buf out rest h
  rw [reading] at h
  cases hbuf : get buf with
  | error e =>
    rw [hbuf] at h
    cases h
  | ok r =>
    rw [hbuf] at h
    cases h
    exact hget buf r.1 r.2 hbuf

theorem action_readsFront (op : BufferOp) : op.action.ReadsFront := by
  cases op with
  | getU8 =>
    apply reading_le
    intro buf v rest h
    match buf with
    | b :: rest =>
      cases h
      exact Nat.le_succ _
  | getU16 =>
    apply reading_le
    intro buf v rest h
    match buf with
    | high :: low :: rest =>
      cases h
      exact Nat.le_add_right _ 2
  | getVI =>
    apply reading_le
    intro buf v rest h
    cases buf with
    | nil => cases h
    | cons first left =>
      simp only [ByteBuffer.getVI] at h
      split at h
      · cases h
      · cases h
        rw [List.length_drop, List.length_cons]
        omega
  | getBytes len =>
    apply reading_le
    intro buf v rest h
    rw [ByteBuffer.getBytes] at h
    split at h
    · cases h
    · cases h
      rw [List.length_drop]
      omega
  | _ => exact trivial

theorem act_holds {action : QueueAction} (haction : action.ReadsFront) (h : b.Holds q) :
    SameAnswer GrowingBuffer.Holds (b.act action) (queueAct action q) := by
  have hoffset := h.offset_eq
  have hcheckpoint := h.checkpoint_eq
  cases action with
  | write bytes =>
    cases bytes with
    | ok src => exact ⟨rfl, putBytes_holds h src⟩
    | error e => exact ⟨rfl, h⟩
  | read get =>
    rw [GrowingBuffer.act, GrowingBuffer.read, queueAct, h.unread_eq]
    cases hget : get q.unread with
    | error e => exact ⟨rfl, h⟩
    | ok r =>
      refine ⟨rfl, h.kept_eq, ?_, h.checkpoint_eq⟩
      have hleft := haction q.unread r.1 r.2 hget
      have hlength := h.length_eq
      have hbound := b.offset_le
      rw [q.length_unread] at hleft
      show q.dropped + (b.length - r.2.length) =
        min (q.position + (q.unread.length - r.2.length)) q.written.length
      rw [q.length_unread]
      omega
  | checkpoint => exact ⟨rfl, h.kept_eq, h.offset_eq, h.offset_eq⟩
  | restore => exact ⟨rfl, h.kept_eq, h.checkpoint_eq, h.checkpoint_eq⟩
  | commit => exact ⟨rfl, commit_holds h⟩

end Holds

/-! The object is a queue. -/

/-- The object has the bytes of the queue that are not gone, and its offset and checkpoint count
from the first of them. -/
structure BufferObject.IsQueue (s : BufferObject) (q : MarkedQueue UInt8) : Prop where
  consistent : s.Consistent
  kept_eq : s.bytes.take s.length = q.kept
  unread_eq : s.unread = q.unread
  offset_eq : q.dropped + s.offset = q.position
  checkpoint_eq : q.dropped + s.checkpoint = q.mark

theorem isQueue {s : BufferObject} {b : GrowingBuffer} {q : MarkedQueue UInt8} (hs : s.Mirrors b)
    (hb : b.Holds q) : s.IsQueue q where
  consistent := hs.consistent
  kept_eq := by rw [hs.bytes_eq, hs.length_eq, hb.kept_eq]
  unread_eq := by rw [hs.unread_eq, hb.unread_eq]
  offset_eq := by rw [hs.offset_eq, hb.offset_eq]
  checkpoint_eq := by rw [hs.checkpoint_eq, hb.checkpoint_eq]

theorem ofSize_holds (initialSize : Nat) : (GrowingBuffer.ofSize initialSize).Holds .empty :=
  ⟨rfl, rfl, rfl⟩

/-- After `commit` there is what was not read before, from the first byte on. -/
theorem commit_drops {s : BufferObject} {b : GrowingBuffer} (h : s.Mirrors b) :
    ∃ s', s.commit = (.ok (), s') ∧ s'.bytes.take s'.length = s.unread ∧ s'.offset = 0 := by
  obtain ⟨s', hs', hmirrors⟩ := BufferObject.commit_mirrors h
  have hoffset : s'.offset = 0 := hmirrors.offset_eq.trans b.offset_commit
  have hunread : s'.unread = s.unread := by
    rw [hmirrors.unread_eq, b.unread_commit, h.unread_eq]
  rw [BufferObject.unread, hoffset, List.drop_zero] at hunread
  exact ⟨s', hs', hunread, hoffset⟩

/-- After `ensureCapacity` there is room, and what was in use is in use. -/
theorem ensureCapacity_keeps {s : BufferObject} {b : GrowingBuffer} (h : s.Mirrors b) (add : Nat) :
    ∃ s', s.ensureCapacity add = (.ok (), s') ∧ s'.Consistent ∧
      s'.length + add ≤ s'.bytes.length ∧ s'.length = s.length ∧ s'.offset = s.offset ∧
      s'.checkpoint = s.checkpoint ∧ s'.bytes.take s'.length = s.bytes.take s.length := by
  obtain ⟨s', hs', hview, hbuf, hbytes, hlength, hoffset, hcheckpoint⟩ :=
    BufferObject.ensureCapacity_eq h add
  have hroom := b.le_length_capacityFor add
  rw [← h.length_eq, ← hlength, ← hbytes] at hroom
  have hold := h.consistent
  refine ⟨s', hs', ⟨hview, hbuf, Nat.le_of_add_right_le hroom, ?_, ?_⟩, hroom, hlength, hoffset,
    hcheckpoint, ?_⟩
  · rw [hoffset, hlength]
    exact hold.offset_le
  · rw [hcheckpoint, hlength]
    exact hold.checkpoint_le
  · rw [hlength, hbytes, h.bytes_eq, h.length_eq, GrowingBuffer.take_capacityFor]

/-- Whatever is called, from whatever size, the calls answer as those of the queue do, and the
object is left with what the queue is left with. A call that throws changes nothing then, `commit`
drops what comes before the offset, and growing keeps what is in use. -/
theorem byteBuffer_is_queue (initialSize : Nat) (ops : List BufferOp) :
    let object := answers BufferObject.perform ops (.new initialSize)
    let queue := answers (fun op => queueAct op.action) ops .empty
    object.1 = queue.1 ∧ object.2.IsQueue queue.2 ∧
    (∀ op e s', object.2.perform op = (.error e, s') → s' = object.2) ∧
    (∃ s', object.2.commit = (.ok (), s') ∧ s'.bytes.take s'.length = object.2.unread ∧
      s'.offset = 0) ∧
    ∀ add, ∃ s', object.2.ensureCapacity add = (.ok (), s') ∧ s'.Consistent ∧
      s'.length + add ≤ s'.bytes.length ∧ s'.length = object.2.length ∧
      s'.offset = object.2.offset ∧ s'.checkpoint = object.2.checkpoint ∧
      s'.bytes.take s'.length = object.2.bytes.take object.2.length := by
  intro object queue
  have hobject : SameAnswer BufferObject.Mirrors object
      (answers (fun op : BufferOp => GrowingBuffer.act op.action) ops (.ofSize initialSize)) :=
    answers_simulates (fun op _ _ h => (perform_performs op h).same) ops _ _
      (BufferObject.new_mirrors initialSize)
  have hact : ∀ (op : BufferOp) (b : GrowingBuffer) (q : MarkedQueue UInt8), b.Holds q →
      SameAnswer GrowingBuffer.Holds (b.act op.action) (queueAct op.action q) :=
    fun op _ _ h => act_holds (action_readsFront op) h
  have hqueue : SameAnswer GrowingBuffer.Holds
      (answers (fun op : BufferOp => GrowingBuffer.act op.action) ops (.ofSize initialSize))
      queue :=
    answers_simulates hact ops _ _ (ofSize_holds initialSize)
  exact ⟨hobject.1.trans hqueue.1, isQueue hobject.2 hqueue.2,
    fun op => (perform_performs op hobject.2).unchanged, commit_drops hobject.2,
    ensureCapacity_keeps hobject.2⟩

/-- Written from no memory on, moved, grown and read again. -/
example : (answers BufferObject.perform [.putBytes [1, 2, 3], .getU8, .commit, .getU8,
    .putU16 0x405, .restore, .getBytes 5, .getBytes 4] (.new 0)).1 =
    [.ok .nothing, .ok (.number 1), .ok .nothing, .ok (.number 2), .ok .nothing, .ok .nothing,
      .error (.notEnoughBytes "getBytes" 5 4), .ok (.bytes [2, 3, 4, 5])] := by
  decide

end Moqtail.Ts
