import Moqtail.Wire.KeyValuePair

/-! Track namespaces, from `model/common/tuple.rs`: lists of byte strings, each written after
its length. A `u64` always fits a `usize`. -/
namespace Moqtail

open Lib

/-- A byte string after its length, as names and namespace fields are written. -/
def putLengthPrefixed (value : Bytes) : Bytes := putVi (UInt64.ofNat value.length) ++ value

def getLengthPrefixed (context : String) (bytes : Bytes) : Parse (Bytes × Bytes) := do
  let (length, bytes) ← getVi bytes
  copyToBytes context length.toNat bytes

theorem getLengthPrefixed_reads (context : String) {value : Bytes} (h : value.length < 2 ^ 64) :
    Reads (getLengthPrefixed context) (putLengthPrefixed value) value := by
  intro tail
  simp only [getLengthPrefixed, putLengthPrefixed, List.append_assoc, getVi_putVi, except_ok_bind,
    toNat_ofNat_length h, copyToBytes_append]

theorem getLengthPrefixed_rewrites {context : String} {bytes value rest : Bytes}
    (h : getLengthPrefixed context bytes = .ok (value, rest)) :
    (putLengthPrefixed value).length + rest.length ≤ bytes.length := by
  obtain ⟨⟨length, left⟩, hvi, hcopy⟩ := except_bind_eq_ok.mp h
  obtain ⟨hlength, rfl⟩ := copyToBytes_eq_ok hcopy
  have hconsumed := (getVi_consumes hvi).2
  have hofNat : UInt64.ofNat value.length = length := by rw [hlength, UInt64.ofNat_toNat]
  simp only [putLengthPrefixed, hofNat, List.length_append, length_putVi] at hconsumed ⊢
  omega

abbrev TupleField := Bytes

namespace TupleField

def serialize (field : TupleField) : Bytes := putLengthPrefixed field

def deserialize (bytes : Bytes) : Parse (TupleField × Bytes) :=
  getLengthPrefixed "TupleField::decode" bytes

end TupleField

structure Tuple where
  fields : List TupleField
deriving Repr, DecidableEq

namespace Tuple

/-- The loop over the fields of the front part. -/
def startsWith (t front : Tuple) : Bool := front.fields.isPrefixOf t.fields

def suffix (t front : Tuple) : Option Tuple :=
  if t.startsWith front then some ⟨t.fields.drop front.fields.length⟩ else none

/-- Whether the first field is `.`. -/
def isReservedDot (t : Tuple) : Bool := t.fields.head?.any (· = [0x2E])

/-- Whether the first field is `.session`. -/
def isSessionNamespace (t : Tuple) : Bool :=
  t.fields.head?.any (· = [0x2E, 0x73, 0x65, 0x73, 0x73, 0x69, 0x6F, 0x6E])

def serialize (t : Tuple) : Bytes :=
  putVi (UInt64.ofNat t.fields.length) ++ (t.fields.map TupleField.serialize).flatten

def deserializeField (_ : Unit) (bytes : Bytes) : Parse ((Unit × TupleField) × Bytes) := do
  let (field, bytes) ← TupleField.deserialize bytes
  return (((), field), bytes)

def deserialize (bytes : Bytes) : Parse (Tuple × Bytes) := do
  let (count, bytes) ← getVi bytes
  let (fields, bytes) ← decodeTimes deserializeField count.toNat () bytes
  return (⟨fields⟩, bytes)

theorem startsWith_iff {t front : Tuple} : t.startsWith front = true ↔ front.fields <+: t.fields :=
  List.isPrefixOf_iff_prefix

/-! The codec. -/

theorem fields_reads (fields : List TupleField) :
    (fields.map TupleField.serialize).flatten.length < 2 ^ 64 →
      ReadsTimes deserializeField () fields (fields.map TupleField.serialize).flatten := by
  induction fields with
  | nil => exact fun _ => .nil ()
  | cons field fields ih =>
    intro h
    rw [List.map_cons, List.flatten_cons, List.length_append] at h
    refine .cons (fun tail => ?_) (ih (by omega))
    have hfield : field.length < 2 ^ 64 := by
      simp only [TupleField.serialize, putLengthPrefixed, List.length_append] at h
      omega
    show (getLengthPrefixed _ (putLengthPrefixed field ++ tail) >>= _) = _
    rw [getLengthPrefixed_reads _ hfield, except_ok_bind]
    rfl

/-- Each field takes a byte at least, so their number fits where their bytes do. -/
theorem length_le_flatten (fields : List TupleField) :
    fields.length ≤ (fields.map TupleField.serialize).flatten.length := by
  induction fields with
  | nil => exact le_rfl
  | cons field fields ih =>
    have := minimalViLength_pos (UInt64.ofNat field.length)
    simp only [List.map_cons, List.flatten_cons, List.length_append, List.length_cons,
      TupleField.serialize, putLengthPrefixed, length_putVi]
    omega

theorem deserialize_reads {t : Tuple} (h : t.serialize.length < 2 ^ 64) :
    Reads deserialize t.serialize t := by
  intro tail
  have hcount := length_le_flatten t.fields
  simp only [serialize, List.length_append] at h
  simp only [deserialize, serialize, List.append_assoc, getVi_putVi, except_ok_bind]
  rw [UInt64.toNat_ofNat', Nat.mod_eq_of_lt (by omega), (fields_reads t.fields (by omega)).reads]
  rfl

theorem fields_rewrites (n : Nat) : ∀ (bytes rest : Bytes) (fields : List TupleField),
    decodeTimes deserializeField n () bytes = .ok (fields, rest) →
      fields.length = n ∧
        (fields.map TupleField.serialize).flatten.length + rest.length ≤ bytes.length := by
  induction n with
  | zero =>
    intro bytes rest fields h
    cases h
    exact ⟨rfl, by simp⟩
  | succ n ih =>
    intro bytes rest fields h
    obtain ⟨_, field, left, more, hone, hmore, rfl⟩ := decodeTimes_succ_eq_ok h
    obtain ⟨⟨field', left'⟩, hfield, hret⟩ := except_bind_eq_ok.mp hone
    cases hret
    have hbound := getLengthPrefixed_rewrites hfield
    obtain ⟨hlength, hrest⟩ := ih _ _ _ hmore
    refine ⟨by rw [List.length_cons, hlength], ?_⟩
    simp only [List.map_cons, List.flatten_cons, List.length_append, TupleField.serialize]
    omega

theorem deserialize_rewrites {bytes rest : Bytes} {t : Tuple}
    (h : deserialize bytes = .ok (t, rest)) : t.serialize.length + rest.length ≤ bytes.length := by
  obtain ⟨⟨count, left⟩, hvi, hfields⟩ := except_bind_eq_ok.mp h
  obtain ⟨⟨fields, left'⟩, htimes, hret⟩ := except_bind_eq_ok.mp hfields
  cases hret
  have hcount := (getVi_consumes hvi).2
  obtain ⟨hlength, hbound⟩ := fields_rewrites _ _ _ _ htimes
  have hofNat : UInt64.ofNat fields.length = count := by rw [hlength, UInt64.ofNat_toNat]
  simp only [serialize, hofNat, List.length_append, length_putVi]
  omega

end Tuple

end Moqtail
