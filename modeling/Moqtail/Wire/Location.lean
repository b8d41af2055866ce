import Moqtail.Wire.Varint

/-! Locations, from `model/common/location.rs`: a Group ID and an Object ID, ordered
lexicographically. Proofs compare Locations through `key`, their position in that
order. -/
namespace Moqtail

open Lib

structure Location where
  group : UInt64
  object : UInt64
deriving Repr, DecidableEq

namespace Location

instance : LT Location where
  lt a b := a.group < b.group ∨ (a.group = b.group ∧ a.object < b.object)

instance : LE Location where
  le a b := a.group < b.group ∨ (a.group = b.group ∧ a.object ≤ b.object)

instance (a b : Location) : Decidable (a < b) :=
  inferInstanceAs (Decidable (a.group < b.group ∨ (a.group = b.group ∧ a.object < b.object)))

instance (a b : Location) : Decidable (a ≤ b) :=
  inferInstanceAs (Decidable (a.group < b.group ∨ (a.group = b.group ∧ a.object ≤ b.object)))

/-- `checked_add(1)`. -/
def checkedSucc (v : UInt64) : Option UInt64 :=
  if v.toNat + 1 < 2 ^ 64 then some (v + 1) else none

/-- `checked_sub(1)`. -/
def checkedPred (v : UInt64) : Option UInt64 := if v = 0 then none else some (v - 1)

def next (l : Location) : Option Location :=
  match checkedSucc l.object with
  | some object => some ⟨l.group, object⟩
  | none => (checkedSucc l.group).map fun g => ⟨g, 0⟩

def prev (l : Location) : Option Location :=
  match checkedPred l.object with
  | some object => some ⟨l.group, object⟩
  | none => (checkedPred l.group).map fun g => ⟨g, 0xFFFFFFFFFFFFFFFF⟩

def serialize (l : Location) : Bytes := putVi l.group ++ putVi l.object

def deserialize (bytes : Bytes) : Parse (Location × Bytes) := do
  let (group, bytes) ← getVi bytes
  let (object, bytes) ← getVi bytes
  return (⟨group, object⟩, bytes)

theorem deserialize_reads (l : Location) : Reads deserialize l.serialize l := by
  intro tail
  simp only [deserialize, serialize, List.append_assoc, getVi_putVi, except_ok_bind]
  rfl

theorem deserialize_rewrites {bytes rest : Bytes} {l : Location}
    (h : deserialize bytes = .ok (l, rest)) : l.serialize.length + rest.length ≤ bytes.length := by
  obtain ⟨⟨group, left⟩, hgroup, h⟩ := except_bind_eq_ok.mp h
  obtain ⟨⟨object, left'⟩, hobject, hret⟩ := except_bind_eq_ok.mp h
  cases hret
  have hfirst := (getVi_consumes hgroup).2
  have hsecond := (getVi_consumes hobject).2
  simp only [serialize, List.length_append, length_putVi]
  omega

def key (l : Location) : Nat := l.group.toNat * 2 ^ 64 + l.object.toNat

theorem lt_iff_key {a b : Location} : a < b ↔ a.key < b.key := by
  have ha := a.object.toNat_lt
  have hb := b.object.toNat_lt
  show a.group < b.group ∨ (a.group = b.group ∧ a.object < b.object) ↔ _
  rw [UInt64.lt_iff_toNat_lt, UInt64.lt_iff_toNat_lt, ← UInt64.toNat_inj]
  unfold key
  omega

theorem le_iff_key {a b : Location} : a ≤ b ↔ a.key ≤ b.key := by
  have ha := a.object.toNat_lt
  have hb := b.object.toNat_lt
  show a.group < b.group ∨ (a.group = b.group ∧ a.object ≤ b.object) ↔ _
  rw [UInt64.lt_iff_toNat_lt, UInt64.le_iff_toNat_le, ← UInt64.toNat_inj]
  unfold key
  omega

theorem key_inj {a b : Location} : a.key = b.key ↔ a = b := by
  constructor
  · intro h
    have ha := a.object.toNat_lt
    have hb := b.object.toNat_lt
    unfold key at h
    have hgroup : a.group = b.group := by
      rw [← UInt64.toNat_inj]
      omega
    have hobject : a.object = b.object := by
      rw [← UInt64.toNat_inj]
      omega
    cases a
    cases b
    simp_all
  · exact congrArg key

end Location

end Moqtail
