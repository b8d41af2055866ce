import Mathlib

/-! A monitor over a queue of events: a flag that each event may read and set.

`Accepts needs after flag queue` says that, starting from `flag`, every event of the
queue that needs the flag finds it set. `after` is what an event leaves in the flag. A
monitor that only ever needs the flag to be set is monotone in it. -/
namespace Moqtail.Lib

section Monitor

variable {ε : Type} (needs : ε → Prop) (after : ε → Option Bool)

/-- The flag after an event: set, cleared, or as it was. -/
def flagAfter (flag : Prop) (e : ε) : Prop :=
  match after e with
  | some true => True
  | some false => False
  | none => flag

def Accepts : Prop → List ε → Prop
  | _, [] => True
  | flag, e :: queue => (needs e → flag) ∧ Accepts (flagAfter after flag e) queue

/-- The flag at the end of the queue. -/
def flagAtEnd : Prop → List ε → Prop
  | flag, [] => flag
  | flag, e :: queue => flagAtEnd (flagAfter after flag e) queue

variable {needs after}

theorem flagAfter_mono {flag flag' : Prop} (h : flag → flag') (e : ε) :
    flagAfter after flag e → flagAfter after flag' e := by
  unfold flagAfter
  split
  · exact fun _ => trivial
  · exact False.elim
  · exact h

theorem Accepts.mono (queue : List ε) : ∀ {flag flag' : Prop}, (flag → flag') →
    Accepts needs after flag queue → Accepts needs after flag' queue := by
  induction queue with
  | nil => exact fun _ _ => trivial
  | cons e queue ih =>
    intro flag flag' h hacc
    exact ⟨fun he => h (hacc.1 he), ih (flagAfter_mono h e) hacc.2⟩

theorem flagAtEnd_mono (queue : List ε) : ∀ {flag flag' : Prop}, (flag → flag') →
    flagAtEnd after flag queue → flagAtEnd after flag' queue := by
  induction queue with
  | nil => exact fun h => h
  | cons e queue ih => exact fun h => ih (flagAfter_mono h e)

/-- An event can join the end of the queue when the flag the queue leaves is what it
needs. -/
theorem Accepts.append_singleton {e : ε} (queue : List ε) : ∀ {flag : Prop},
    Accepts needs after flag queue → (needs e → flagAtEnd after flag queue) →
      Accepts needs after flag (queue ++ [e]) := by
  induction queue with
  | nil => exact fun _ hneeds => ⟨hneeds, trivial⟩
  | cons d queue ih => exact fun hacc hneeds => ⟨hacc.1, ih hacc.2 hneeds⟩

theorem flagAtEnd_append_singleton (e : ε) (queue : List ε) : ∀ (flag : Prop),
    flagAtEnd after flag (queue ++ [e]) ↔ flagAfter after (flagAtEnd after flag queue) e := by
  induction queue with
  | nil => exact fun _ => Iff.rfl
  | cons d queue ih => exact fun flag => ih (flagAfter after flag d)

end Monitor

end Moqtail.Lib
