import Moqtail.Wire.Tuple

/-! Full Track Names, from `model/data/full_track_name.rs`, and the limits on them. -/
namespace Moqtail.Message

open Lib

def maxNamespaceTupleCount : Nat := 32

def maxFullTrackNameLength : Nat := 4096

/-- `ParseError`, with the variant that only names raise. -/
inductive NameError where
  | parse (error : ParseError)
  | trackNameError (context details : String)
deriving Repr, DecidableEq

instance : MonadLift Parse (Except NameError) := ⟨Except.mapError .parse⟩

theorem liftM_parse_ok {α : Type} (a : α) :
    (liftM (Except.ok a : Parse α) : Except NameError α) = .ok a := rfl

structure FullTrackName where
  trackNamespace : Tuple
  name : TupleField
deriving Repr, DecidableEq

namespace FullTrackName

def namespaceLength (trackNamespace : Tuple) : Nat := trackNamespace.serialize.length

def new (trackNamespace : Tuple) (name : TupleField) : Except NameError FullTrackName :=
  if trackNamespace.fields.length > maxNamespaceTupleCount then
    .error (.trackNameError "FullTrackName::new(ns_count)"
      s!"Namespace cannot exceed {maxNamespaceTupleCount} fields")
  else if namespaceLength trackNamespace + name.length > maxFullTrackNameLength then
    .error (.trackNameError "FullTrackName::new(total_length)"
      s!"Total length cannot exceed {maxFullTrackNameLength}")
  else .ok ⟨trackNamespace, name⟩

def serialize (n : FullTrackName) : Bytes := n.trackNamespace.serialize ++ putLengthPrefixed n.name

/-- The checks of `deserialize` stand between the fields it reads. -/
def deserialize (bytes : Bytes) : Except NameError (FullTrackName × Bytes) := do
  let (trackNamespace, bytes) ← Tuple.deserialize bytes
  if trackNamespace.fields.length > maxNamespaceTupleCount then
    throw (.trackNameError "FullTrackName::deserialize(ns_count)"
      s!"Namespace cannot exceed {maxNamespaceTupleCount} fields")
  let (name, bytes) ← getLengthPrefixed "FullTrackName::deserialize(name_length)" bytes
  if namespaceLength trackNamespace + name.length > maxFullTrackNameLength then
    throw (.trackNameError "FullTrackName::deserialize(total_length)"
      s!"Total length cannot exceed {maxFullTrackNameLength}")
  return (⟨trackNamespace, name⟩, bytes)

/-! The limits. -/

/-- What a namespace and a name take, each field after its length and the name without one. -/
def wireLength (trackNamespace : Tuple) (name : TupleField) : Nat :=
  minimalViLength (UInt64.ofNat trackNamespace.fields.length) +
    (trackNamespace.fields.map fun field =>
      minimalViLength (UInt64.ofNat field.length) + field.length).sum + name.length

def WithinLimits (trackNamespace : Tuple) (name : TupleField) : Prop :=
  trackNamespace.fields.length ≤ 32 ∧ wireLength trackNamespace name ≤ 4096

instance (trackNamespace : Tuple) (name : TupleField) :
    Decidable (WithinLimits trackNamespace name) :=
  inferInstanceAs (Decidable (_ ∧ _))

/-- What the library asks of a name: that it can be made, and that it is read back from what it
is written as. -/
def Constructible (n : FullTrackName) : Prop :=
  new n.trackNamespace n.name = .ok n ∧ deserialize n.serialize = .ok (n, [])

theorem wireLength_eq (trackNamespace : Tuple) (name : TupleField) :
    wireLength trackNamespace name = namespaceLength trackNamespace + name.length := by
  have hfields : ∀ fields : List TupleField,
      (fields.map TupleField.serialize).flatten.length =
        (fields.map fun field =>
          minimalViLength (UInt64.ofNat field.length) + field.length).sum := by
    intro fields
    induction fields with
    | nil => rfl
    | cons field fields ih =>
      simp only [List.map_cons, List.flatten_cons, List.length_append, List.sum_cons, ih,
        TupleField.serialize, putLengthPrefixed, length_putVi]
  simp only [wireLength, namespaceLength, Tuple.serialize, List.length_append, length_putVi, hfields]

theorem new_eq_ok_iff (trackNamespace : Tuple) (name : TupleField) :
    new trackNamespace name = .ok ⟨trackNamespace, name⟩ ↔ WithinLimits trackNamespace name := by
  rw [WithinLimits, wireLength_eq]
  unfold new maxNamespaceTupleCount maxFullTrackNameLength
  split
  · next hfields => simp [Nat.not_le.mpr hfields]
  · next hfields =>
    split
    · next hlength => simp [Nat.not_le.mpr hlength]
    · next hlength =>
      simp only [true_iff]
      omega

/-- A name within the limits is written in fewer bytes than could be counted, so that it is read
back. -/
theorem deserialize_serialize {n : FullTrackName} (h : WithinLimits n.trackNamespace n.name) :
    deserialize n.serialize = .ok (n, []) := by
  have hlength := h.2
  rw [wireLength_eq] at hlength
  have hnamespace : n.trackNamespace.serialize.length < 2 ^ 64 := by
    unfold namespaceLength at hlength
    omega
  have hname : n.name.length < 2 ^ 64 := by omega
  have hread := getLengthPrefixed_reads "FullTrackName::deserialize(name_length)" hname []
  rw [List.append_nil] at hread
  have hcount : ¬ n.trackNamespace.fields.length > maxNamespaceTupleCount := Nat.not_lt.mpr h.1
  have htotal : ¬ namespaceLength n.trackNamespace + n.name.length > maxFullTrackNameLength :=
    Nat.not_lt.mpr hlength
  unfold deserialize serialize
  rw [Tuple.deserialize_reads hnamespace, liftM_parse_ok, except_ok_bind]
  dsimp only
  rw [if_neg hcount, hread, liftM_parse_ok, except_ok_bind]
  dsimp only
  rw [if_neg htotal]
  rfl

theorem constructible_iff (n : FullTrackName) :
    n.Constructible ↔ WithinLimits n.trackNamespace n.name := by
  constructor
  · intro h
    exact (new_eq_ok_iff _ _).mp h.1
  · intro h
    exact ⟨(new_eq_ok_iff _ _).mpr h, deserialize_serialize h⟩

end FullTrackName

end Moqtail.Message
