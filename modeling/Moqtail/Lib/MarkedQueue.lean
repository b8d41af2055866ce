import Mathlib.Data.List.Basic

/-! Queues that can be set back.

What has been read can be read again from the mark on, until it is dropped. All that was ever put is
kept on record, so that what is left to read is a matter of two numbers. -/
namespace Moqtail.Lib

/-- `written` is all that was ever put. `position` items of it have been read, `restore` goes back
to `mark`, and the first `dropped` items are gone. -/
structure MarkedQueue (α : Type) where
  written : List α
  position : Nat
  mark : Nat
  dropped : Nat
  dropped_le : dropped ≤ mark
  mark_le : mark ≤ position
  position_le : position ≤ written.length

namespace MarkedQueue

variable {α : Type}

def empty : MarkedQueue α := ⟨[], 0, 0, 0, Nat.le_refl 0, Nat.le_refl 0, Nat.le_refl 0⟩

/-- What was written less what was read. -/
def unread (q : MarkedQueue α) : List α := q.written.drop q.position

/-- What is not gone. -/
def kept (q : MarkedQueue α) : List α := q.written.drop q.dropped

def put (items : List α) (q : MarkedQueue α) : MarkedQueue α :=
  { q with
    written := q.written ++ items
    position_le := by
      have := q.position_le
      rw [List.length_append]
      omega }

/-- Reads `n` items, or all there are. -/
def take (n : Nat) (q : MarkedQueue α) : MarkedQueue α :=
  { q with
    position := min (q.position + n) q.written.length
    mark_le := by
      have := q.mark_le
      have := q.position_le
      omega
    position_le := Nat.min_le_right _ _ }

def setMark (q : MarkedQueue α) : MarkedQueue α :=
  { q with
    mark := q.position
    dropped_le := Nat.le_trans q.dropped_le q.mark_le
    mark_le := Nat.le_refl _ }

def restore (q : MarkedQueue α) : MarkedQueue α :=
  { q with
    position := q.mark
    mark_le := Nat.le_refl _
    position_le := Nat.le_trans q.mark_le q.position_le }

/-- What has been read is gone, and there is nothing to go back to. -/
def commit (q : MarkedQueue α) : MarkedQueue α :=
  { q with
    mark := q.position
    dropped := q.position
    dropped_le := Nat.le_refl _
    mark_le := Nat.le_refl _ }

variable (q : MarkedQueue α)

theorem unread_eq_drop_kept : q.unread = q.kept.drop (q.position - q.dropped) := by
  have := q.dropped_le
  have := q.mark_le
  rw [unread, kept, List.drop_drop]
  congr 1
  omega

theorem kept_put (items : List α) : (q.put items).kept = q.kept ++ items := by
  have := q.dropped_le
  have := q.mark_le
  have := q.position_le
  show (q.written ++ items).drop q.dropped = _
  rw [List.drop_append_of_le_length (by omega), kept]

theorem length_unread : q.unread.length = q.written.length - q.position := List.length_drop

theorem length_kept : q.kept.length = q.written.length - q.dropped := List.length_drop

end MarkedQueue

end Moqtail.Lib
