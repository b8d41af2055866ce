import Moqtail.Ts.ByteBuffer

/-! The buffer that a stream is read into, the `ByteBuffer` of `moqtail-ts/src/model/common/byte_buffer.ts`:
memory that is written at its end and read from an offset on. -/
namespace Moqtail.Ts

open Lib

/-- `buf` is the memory, of which `length` bytes are in use. -/
structure GrowingBuffer where
  buf : Bytes
  length : Nat
  offset : Nat
  checkpoint : Nat
  length_le : length ≤ buf.length
  offset_le : offset ≤ length
  checkpoint_le : checkpoint ≤ length
deriving DecidableEq

namespace GrowingBuffer

theorem nothing_le : 0 ≤ 0 := Nat.le_refl 0

def new : GrowingBuffer := ⟨List.replicate 128 0, 0, 0, 0, by simp, nothing_le, nothing_le⟩

/-- The bytes from the offset to the end. -/
def unread (b : GrowingBuffer) : Bytes := (b.buf.take b.length).drop b.offset

def setCheckpoint (b : GrowingBuffer) : GrowingBuffer :=
  { b with checkpoint := b.offset, checkpoint_le := b.offset_le }

def restore (b : GrowingBuffer) : GrowingBuffer :=
  { b with offset := b.checkpoint, offset_le := b.checkpoint_le }

/-- Reads from the offset on, and moves it unless there are not enough bytes. -/
def read {α : Type} (get : Bytes → Result (α × Bytes)) (b : GrowingBuffer) :
    Result α × GrowingBuffer :=
  match get b.unread with
  | .ok (a, rest) =>
    (.ok a, { b with offset := b.length - rest.length, offset_le := Nat.sub_le _ _ })
  | .error e => (.error e, b)

def clear : GrowingBuffer := ⟨[], 0, 0, 0, le_rfl, le_rfl, le_rfl⟩

/-- Moves what is not read yet to the front. -/
def commit (b : GrowingBuffer) : GrowingBuffer :=
  if b.offset = 0 then b
  else if b.offset ≥ b.length then clear
  else
    { buf := b.unread ++ b.buf.drop (b.length - b.offset)
      length := b.length - b.offset
      offset := 0
      checkpoint := 0
      length_le := by
        have hlength := b.length_le
        rw [List.length_append, List.length_drop, unread, List.length_drop, List.length_take]
        omega
      offset_le := Nat.zero_le _
      checkpoint_le := Nat.zero_le _ }

/-- The loop that doubles the size. -/
def grownSize (need : Nat) : Nat → Nat → Nat
  | 0, newSize => newSize
  | fuel + 1, newSize => if newSize < need then grownSize need fuel (newSize * 2) else newSize

theorem le_grownSize (need : Nat) (fuel : Nat) :
    ∀ newSize, need ≤ newSize * 2 ^ fuel → need ≤ grownSize need fuel newSize := by
  induction fuel with
  | zero =>
    intro newSize h
    rwa [pow_zero, mul_one] at h
  | succ fuel ih =>
    intro newSize h
    rw [grownSize]
    split
    · apply ih
      rwa [mul_assoc, ← pow_succ']
    · omega

/-- The loop ends with room for what is needed, also where there was no memory. -/
theorem le_grownSize_of_size (need size : Nat) : need ≤ grownSize need need (size * 2 + 1) := by
  apply le_grownSize
  exact le_trans Nat.lt_two_pow_self.le (Nat.le_mul_of_pos_left _ (Nat.succ_pos _))

/-- `ensureCapacity`: the memory with room for so many more bytes. -/
def capacityFor (b : GrowingBuffer) (add : Nat) : Bytes :=
  let need := b.length + add
  if need ≤ b.buf.length then b.buf
  else
    let newSize := grownSize need need (b.buf.length * 2 + 1)
    b.buf.take b.length ++ List.replicate (newSize - b.length) 0

theorem le_length_capacityFor (b : GrowingBuffer) (add : Nat) :
    b.length + add ≤ (b.capacityFor add).length := by
  have hlength := b.length_le
  unfold capacityFor
  dsimp only
  split
  · assumption
  · have hgrown := le_grownSize_of_size (b.length + add) b.buf.length
    rw [List.length_append, List.length_take, List.length_replicate]
    omega

def putBytes (b : GrowingBuffer) (src : Bytes) : GrowingBuffer where
  buf := (b.capacityFor src.length).take b.length ++ src ++
    (b.capacityFor src.length).drop (b.length + src.length)
  length := b.length + src.length
  offset := b.offset
  checkpoint := b.checkpoint
  length_le := by
    have hle := b.le_length_capacityFor src.length
    rw [List.length_append, List.length_append, List.length_take, List.length_drop]
    omega
  offset_le := le_trans b.offset_le (Nat.le_add_right _ _)
  checkpoint_le := le_trans b.checkpoint_le (Nat.le_add_right _ _)

/-! What there is to read. -/

variable {b : GrowingBuffer}

theorem length_unread : b.unread.length = b.length - b.offset := by
  have hlength := b.length_le
  rw [unread, List.length_drop, List.length_take]
  omega

theorem take_capacityFor (add : Nat) :
    (b.capacityFor add).take b.length = b.buf.take b.length := by
  have hlength := b.length_le
  unfold capacityFor
  dsimp only
  split
  · rfl
  · rw [List.take_append_of_le_length (by rw [List.length_take]; omega), List.take_take, min_self]

theorem unread_putBytes (src : Bytes) : (b.putBytes src).unread = b.unread ++ src := by
  have hlength := b.length_le
  have hoffset := b.offset_le
  have htake : (b.buf.take b.length).length = b.length := by
    rw [List.length_take]
    omega
  show (((b.capacityFor src.length).take b.length ++ src ++
    (b.capacityFor src.length).drop (b.length + src.length)).take (b.length + src.length)).drop
      b.offset = _
  rw [take_capacityFor, List.take_append_of_le_length (by rw [List.length_append]; omega),
    List.take_of_length_le (by rw [List.length_append]; omega),
    List.drop_append_of_le_length (by omega)]
  rfl

theorem unread_commit : b.commit.unread = b.unread := by
  have hlength := b.length_le
  unfold commit
  split
  · rfl
  split
  next hall =>
    have hnil : b.unread = [] := by
      rw [← List.length_eq_zero_iff, length_unread]
      omega
    rw [hnil]
    rfl
  · have hunread := b.length_unread
    show ((b.unread ++ b.buf.drop (b.length - b.offset)).take (b.length - b.offset)).drop 0 = _
    rw [List.drop_zero, List.take_append_of_le_length (by omega), List.take_of_length_le (by omega)]

theorem offset_commit : b.commit.offset = 0 := by
  unfold commit
  split
  · assumption
  split <;> rfl

theorem unread_of_offset_eq (h : b.offset = 0) : b.unread.length = b.length := by
  rw [length_unread, h, Nat.sub_zero]

/-- Reading a front part leaves the rest to read. -/
theorem read_of_ok {α : Type} {get : Bytes → Result (α × Bytes)} {a : α} {front rest : Bytes}
    (hbytes : b.unread = front ++ rest) (hget : get (front ++ rest) = .ok (a, rest)) :
    ∃ b', b.read get = (.ok a, b') ∧ b'.unread = rest ∧ b'.offset = b.offset + front.length ∧
      b'.checkpoint = b.checkpoint ∧ b'.length = b.length ∧ b'.restore = b.restore := by
  have hlength := b.length_le
  have hoffset := b.offset_le
  have hunread := b.length_unread
  rw [hbytes, List.length_append] at hunread
  have hmoved : b.length - rest.length = b.offset + front.length := by omega
  refine ⟨{ b with offset := b.length - rest.length, offset_le := Nat.sub_le _ _ }, ?_, ?_, hmoved,
    rfl, rfl, rfl⟩
  · rw [read, hbytes, hget]
  · show (b.buf.take b.length).drop (b.length - rest.length) = rest
    rw [hmoved, ← List.drop_drop, ← unread, hbytes, List.drop_left]

theorem read_of_error {α : Type} {get : Bytes → Result (α × Bytes)} {e : Error}
    (hget : get b.unread = .error e) : b.read get = (.error e, b) := by
  rw [read, hget]

end GrowingBuffer

end Moqtail.Ts
