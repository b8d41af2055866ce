import Moqtail.Wire.TrackProperty

/-! Properties that are read and then written again, as a relay does with them. -/
namespace Moqtail

open Lib

/-- Properties that pairs are read as and that are written as pairs. What is read of a pair can be
written again, and as that very pair where the Type is not known. -/
structure PropertyCodec (P : Type) where
  read : KeyValuePair → Parse P
  write : P → Parse KeyValuePair
  typeValue : P → UInt64
  isKnown : UInt64 → Bool
  rewrites : ∀ kvp p, kvp.WellFormed → read kvp = .ok p →
    ∃ kvp', write p = .ok kvp' ∧ read kvp' = .ok p ∧ Rewrites kvp kvp'
  getType_of_write : ∀ p kvp, write p = .ok kvp → kvp.getType = typeValue p
  write_unknown : ∀ kvp p, isKnown kvp.getType = false → read kvp = .ok p → write p = .ok kvp

/-- The pair is carried on: its Type, and all of it where the Type is not known. -/
structure Carried (isKnown : UInt64 → Bool) (kvp kvp' : KeyValuePair) : Prop where
  getType : kvp'.getType = kvp.getType
  unknown : isKnown kvp.getType = false → kvp' = kvp

/-- Lists of properties survive forwarding. What is read can be written so that it is read as the
same list, each pair in its place. A list is read back in order of Type just if its properties are
all `Canonical`. -/
structure Forwards {P : Type} (decode : Bytes → Parse (List P)) (encode : List P → Parse Bytes)
    (typeValue : P → UInt64) (isKnown : UInt64 → Bool) (Canonical : P → Prop) : Prop where
  forwarded : ∀ bytes props, decode bytes = .ok props →
    ∃ out kvps kvps', encode props = .ok out ∧ decode out = .ok props ∧
      deserializeKvpListUntilEmpty bytes = .ok kvps ∧
      deserializeKvpListUntilEmpty out = .ok kvps' ∧ List.Forall₂ (Carried isKnown) kvps kvps'
  sorted : ∀ props, (∃ out, encode props = .ok out ∧
      decode out = .ok (props.insertionSort fun a b => typeValue a ≤ typeValue b)) ↔
    ∀ p ∈ props, Canonical p

namespace PropertyCodec

variable {P : Type} (c : PropertyCodec P)

def encode (props : List P) : Parse Bytes := do
  let kvps ← props.mapM c.write
  serializeKvpList kvps

def decode (bytes : Bytes) : Parse (List P) := do
  let kvps ← deserializeKvpListUntilEmpty bytes
  kvps.mapM c.read

/-- Some pair is read as the property. -/
def Readable (p : P) : Prop := ∃ kvp, kvp.WellFormed ∧ c.read kvp = .ok p

theorem readable_of_decode {bytes : Bytes} {props : List P} (h : c.decode bytes = .ok props) :
    ∀ p ∈ props, c.Readable p := by
  obtain ⟨kvps, hkvps, hprops⟩ := except_bind_eq_ok.mp h
  have hfrom := (deserializeKvpsFrom_wellFormed _ _ _ _ hkvps).1
  have hread : List.Forall₂ (fun kvp p => KeyValuePair.WellFormed kvp ∧ c.read kvp = .ok p)
      kvps props :=
    (List.forall₂_and_left _ _).mpr ⟨hfrom.wellFormed, mapM_eq_ok_iff.mp hprops⟩
  exact forall_mem_of_forall₂ (fun kvp p hp => ⟨kvp, hp⟩) hread

theorem forall₂_carried {kvps kvps' : List KeyValuePair} {props : List P}
    (hread : List.Forall₂ (fun kvp p => c.read kvp = .ok p) kvps props) :
    List.Forall₂ (fun p kvp => c.write p = .ok kvp) props kvps' →
      List.Forall₂ Rewrites kvps kvps' → List.Forall₂ (Carried c.isKnown) kvps kvps' := by
  induction hread generalizing kvps' with
  | nil =>
    intro hwrite _
    cases hwrite
    exact .nil
  | @cons kvp p kvps props hp _ ih =>
    intro hwrite hrewrites
    cases hwrite with
    | @cons _ kvp' _ kvps' hp' hwrites =>
      cases hrewrites with
      | cons hone hall =>
        refine .cons ⟨hone.getType, ?_⟩ (ih hwrites hall)
        intro hunknown
        have hsame := c.write_unknown kvp p hunknown hp
        rw [hp'] at hsame
        exact Except.ok.inj hsame

theorem decode_forwarded {bytes : Bytes} {props : List P} (h : c.decode bytes = .ok props) :
    ∃ out kvps kvps', c.encode props = .ok out ∧ c.decode out = .ok props ∧
      deserializeKvpListUntilEmpty bytes = .ok kvps ∧
      deserializeKvpListUntilEmpty out = .ok kvps' ∧ List.Forall₂ (Carried c.isKnown) kvps kvps' := by
  obtain ⟨kvps, hkvps, hprops⟩ := except_bind_eq_ok.mp h
  obtain ⟨hfrom, out, hout, -⟩ := deserializeKvpsFrom_wellFormed _ _ _ _ hkvps
  have hread := mapM_eq_ok_iff.mp hprops
  obtain ⟨kvps', hinto, hback, hall⟩ := forall₂_rewrites c.rewrites hread hfrom.wellFormed
  obtain ⟨hfrom', out', hout', -⟩ := serializeKvpsFrom_rewrites hall 0 out hfrom hout
  have hlist : deserializeKvpListUntilEmpty out' = .ok kvps' :=
    deserializeKvpsFrom_serializeKvpsFrom kvps' 0 out' out'.length hfrom' hout' le_rfl
  refine ⟨out', kvps, kvps', ?_, ?_, hkvps, hlist, ?_⟩
  · rw [encode, hinto, except_ok_bind, serializeKvpList_of_kvpsFrom hfrom', hout']
  · rw [decode, hlist, except_ok_bind, hback]
  · exact c.forall₂_carried hread (mapM_eq_ok_iff.mp hinto) hall

/-- Properties that can be read are written as pairs of their Types, which are read as them. -/
theorem exists_written {props : List P} (h : ∀ p ∈ props, c.Readable p) :
    ∃ kvps, List.Forall₂ (fun p kvp => c.write p = .ok kvp ∧ KeyValuePair.WellFormed kvp ∧
      kvp.getType = c.typeValue p ∧ c.read kvp = .ok p) props kvps := by
  induction props with
  | nil => exact ⟨[], .nil⟩
  | cons p props ih =>
    rw [List.forall_mem_cons] at h
    obtain ⟨⟨kvp, hwf, hread⟩, hrest⟩ := h
    obtain ⟨kvp', hwrite, hback, hrewrites⟩ := c.rewrites kvp p hwf hread
    obtain ⟨kvps, hkvps⟩ := ih hrest
    exact ⟨kvp' :: kvps,
      .cons ⟨hwrite, hrewrites.wellFormed, c.getType_of_write p kvp' hwrite, hback⟩ hkvps⟩

theorem decode_encode_iff (props : List P) : (∃ out, c.encode props = .ok out ∧
      c.decode out = .ok (props.insertionSort fun a b => c.typeValue a ≤ c.typeValue b)) ↔
    ∀ p ∈ props, c.Readable p := by
  constructor
  · rintro ⟨out, -, hdecode⟩ p hp
    exact c.readable_of_decode hdecode p ((List.perm_insertionSort _ _).mem_iff.mpr hp)
  · intro h
    obtain ⟨kvps, hkvps⟩ := c.exists_written h
    have hwf : ∀ kvp ∈ kvps, KeyValuePair.WellFormed kvp :=
      forall_mem_of_forall₂ (fun _ _ hp => hp.2.1) hkvps
    have hsorted : List.Forall₂ _ (props.insertionSort fun a b => c.typeValue a ≤ c.typeValue b)
        (sortByType kvps) :=
      forall₂_insertionSort (fun _ _ _ _ hab hab' => by rw [hab.2.2.1, hab'.2.2.1]) hkvps
    obtain ⟨out, hout⟩ := (kvpsFrom_sortByType hwf).serializes
    have hlist := deserializeKvpListUntilEmpty_of_serialize hwf hout
    refine ⟨out, ?_, ?_⟩
    · rw [encode, mapM_eq_ok_iff.mpr (hkvps.imp fun _ _ hp => hp.1), except_ok_bind]
      exact hout
    · rw [decode, hlist, except_ok_bind, mapM_eq_ok_iff]
      exact hsorted.flip.imp fun _ _ hp => hp.2.2.2

theorem forwards {Canonical : P → Prop} (hcanonical : ∀ p, c.Readable p ↔ Canonical p) :
    Forwards c.decode c.encode c.typeValue c.isKnown Canonical where
  forwarded := fun _ _ h => c.decode_forwarded h
  sorted := fun props => by
    rw [c.decode_encode_iff]
    exact forall₂_congr fun p _ => hcanonical p

end PropertyCodec

/-! Immutable properties, which both codecs have. -/

/-- A container as it is read: in ascending order, not nested, and short enough for one value. -/
def CanonicalContainer (properties : List KeyValuePair) : Prop :=
  KvpsFrom 0 properties ∧
    (∀ inner ∈ properties, inner.getType ≠ TrackPropertyType.immutableProperties.toU64) ∧
    ∀ out, serializeKvpList properties = .ok out → out.length ≤ maxValueLength

theorem canonicalContainer_of_read {value : Bytes} {properties : List KeyValuePair}
    (hmax : value.length ≤ maxValueLength)
    (hlist : deserializeKvpListUntilEmpty value = .ok properties)
    (hany : ¬ (properties.any fun inner =>
      inner.getType = TrackPropertyType.immutableProperties.toU64) = true) :
    CanonicalContainer properties := by
  obtain ⟨hfrom, -⟩ := deserializeKvpsFrom_wellFormed _ _ _ _ hlist
  obtain ⟨out, hout, hlength, -⟩ := deserializeKvpListUntilEmpty_reencodes hlist
  refine ⟨hfrom, ?_, ?_⟩
  · intro inner hmem hnested
    exact hany (List.any_eq_true.mpr ⟨inner, hmem, decide_eq_true hnested⟩)
  · intro out' hout'
    rw [hout] at hout'
    cases hout'
    exact le_trans hlength hmax

/-! The properties of Objects. -/

namespace ObjectProperty

/-- The Types that are not left to an unknown property. -/
def isKnown (typeValue : UInt64) : Bool :=
  [TrackPropertyType.immutableProperties, .priorGroupIdGap, .priorObjectIdGap].any
    fun t => t.toU64 = typeValue

theorem deserialize_of_not_known {kvp : KeyValuePair} (h : isKnown kvp.getType = false) :
    deserialize kvp = .ok (unknown kvp) := by
  unfold deserialize
  cases htype : TrackPropertyType.tryFrom kvp.getType with
  | error e => rfl
  | ok t =>
    rw [TrackPropertyType.toU64_of_tryFrom htype] at h
    cases t with
    | immutableProperties | priorGroupIdGap | priorObjectIdGap => cases h
    | _ => rfl

theorem getType_of_tryIntoKeyValuePair {p : ObjectProperty} {kvp : KeyValuePair}
    (h : p.tryIntoKeyValuePair = .ok kvp) : kvp.getType = p.typeValue := by
  cases p with
  | immutableProperties properties =>
    obtain ⟨value, -, hnew⟩ := except_bind_eq_ok.mp h
    rw [(TrackProperty.tryNewBytes_eq_ok hnew).1]
    rfl
  | priorGroupIdGap | priorObjectIdGap | unknown =>
    cases h
    rfl

/-- What is read of a pair is canonical. -/
theorem canonical_of_deserialize {kvp : KeyValuePair} {p : ObjectProperty} (hwf : kvp.WellFormed)
    (h : deserialize kvp = .ok p) : p.Canonical := by
  by_cases hknown : isKnown kvp.getType = false
  · rw [deserialize_of_not_known hknown] at h
    cases h
    refine ⟨hwf, ?_, ?_, ?_⟩ <;>
      · intro htype
        rw [htype] at hknown
        cases hknown
  · unfold deserialize at h
    split at h
    next htype =>
      -- a Type that is known is one of the table
      have hnone : ∀ t : TrackPropertyType, t.toU64 ≠ kvp.getType := by
        intro t ht
        rw [← ht, TrackPropertyType.tryFrom_toU64] at htype
        cases htype
      exact absurd (List.any_eq_false.mpr fun t _ => by simpa using hnone t) hknown
    next htype =>
      obtain ⟨value, hvalue, h⟩ := except_bind_eq_ok.mp h
      obtain ⟨properties, hlist, hret⟩ := except_bind_eq_ok.mp h
      have hbytes := TrackProperty.kvpBytesValue_eq_ok hvalue
      rw [hbytes] at hwf
      split at hret
      · cases hret
      next hany =>
        cases hret
        exact canonicalContainer_of_read hwf.2 hlist hany
    next htype =>
      obtain ⟨value, -, hret⟩ := except_bind_eq_ok.mp h
      cases hret
      trivial
    next htype =>
      obtain ⟨value, -, hret⟩ := except_bind_eq_ok.mp h
      cases hret
      trivial
    next t himmutable hgroup hobject htype =>
      rw [TrackPropertyType.toU64_of_tryFrom htype] at hknown
      cases t with
      | immutableProperties => exact absurd rfl himmutable
      | priorGroupIdGap => exact absurd rfl hgroup
      | priorObjectIdGap => exact absurd rfl hobject
      | _ => exact absurd rfl hknown

end ObjectProperty

def objectPropertyCodec : PropertyCodec ObjectProperty where
  read := ObjectProperty.deserialize
  write := ObjectProperty.tryIntoKeyValuePair
  typeValue := ObjectProperty.typeValue
  isKnown := ObjectProperty.isKnown
  rewrites := fun _ _ => ObjectProperty.deserialize_rewrites
  getType_of_write := fun _ _ => ObjectProperty.getType_of_tryIntoKeyValuePair
  write_unknown := fun kvp p hunknown hread => by
    rw [ObjectProperty.deserialize_of_not_known hunknown] at hread
    cases hread
    rfl

theorem objectPropertyCodec_readable (p : ObjectProperty) :
    objectPropertyCodec.Readable p ↔ p.Canonical := by
  constructor
  · rintro ⟨kvp, hwf, hread⟩
    exact ObjectProperty.canonical_of_deserialize hwf hread
  · intro h
    obtain ⟨kvp, -, hread, hwf, -⟩ := ObjectProperty.tryIntoKeyValuePair_of_canonical h
    exact ⟨kvp, hwf, hread⟩

/-! The properties of tracks. -/

namespace TrackProperty

/-- The Types that are not left to an unknown property. -/
def isKnown (typeValue : UInt64) : Bool :=
  match TrackPropertyType.tryFrom typeValue with
  | .ok t => isTrackScope t
  | .error _ => false

/-- The one form in which a property is read. -/
def Canonical : TrackProperty → Prop
  | immutableProperties properties => CanonicalContainer properties
  | p => p.WellFormed

theorem getType_of_tryIntoKeyValuePair {p : TrackProperty} {kvp : KeyValuePair}
    (h : p.tryIntoKeyValuePair = .ok kvp) : kvp.getType = p.typeValue := by
  cases p with
  | immutableProperties properties =>
    obtain ⟨value, -, hnew⟩ := except_bind_eq_ok.mp h
    rw [(tryNewBytes_eq_ok hnew).1]
    rfl
  | _ =>
    cases h
    rfl

theorem write_of_not_known {kvp : KeyValuePair} {p : TrackProperty}
    (h : isKnown kvp.getType = false) (hread : deserialize kvp = .ok p) :
    p.tryIntoKeyValuePair = .ok kvp := by
  unfold isKnown at h
  cases htype : TrackPropertyType.tryFrom kvp.getType with
  | error e =>
    simp only [deserialize, htype, Except.ok.injEq] at hread
    subst hread
    split <;> rfl
  | ok t =>
    rw [htype] at h
    cases t with
    | priorGroupIdGap | priorObjectIdGap =>
      simp only [deserialize, htype, Except.ok.injEq] at hread
      subst hread
      rfl
    | _ => cases h

theorem canonical_of_deserialize {kvp : KeyValuePair} {p : TrackProperty} (hwf : kvp.WellFormed)
    (h : deserialize kvp = .ok p) : p.Canonical := by
  have hrewritten := rewritten_of_deserialize hwf h
  cases p with
  | immutableProperties properties =>
    have hall := hrewritten.wellFormed
    have hsorted : sortByType properties = properties := by
      have hcanonical := hrewritten.canonical
      injection hcanonical
    obtain ⟨kvp', hinto, -⟩ := hrewritten.writes
    obtain ⟨value, hvalue, hnew⟩ := except_bind_eq_ok.mp hinto
    refine ⟨?_, fun inner hmem => (hall inner hmem).2, ?_⟩
    · rw [← hsorted]
      exact kvpsFrom_sortByType fun inner hmem => (hall inner hmem).1
    · intro out hout
      rw [hvalue] at hout
      cases hout
      exact (tryNewBytes_eq_ok hnew).2
  | _ => exact hrewritten.wellFormed

theorem Canonical.wellFormed {p : TrackProperty} (h : p.Canonical) : p.WellFormed := by
  cases p with
  | immutableProperties properties =>
    exact fun inner hmem => ⟨h.1.wellFormed inner hmem, h.2.1 inner hmem⟩
  | _ => exact h

theorem Canonical.canonical_eq {p : TrackProperty} (h : p.Canonical) : p.canonical = p := by
  cases p with
  | immutableProperties properties =>
    exact congrArg immutableProperties (sortByType_of_kvpsFrom h.1)
  | _ => rfl

theorem Canonical.writes {p : TrackProperty} (h : p.Canonical) :
    ∃ kvp, p.tryIntoKeyValuePair = .ok kvp := by
  cases p with
  | immutableProperties properties =>
    obtain ⟨value, hvalue, -⟩ := h.1.roundTrips
    rw [tryIntoKeyValuePair, hvalue, except_ok_bind, KeyValuePair.tryNewBytes_of_odd (by decide)]
    exact ⟨_, KeyValuePair.newBytes_of_le (h.2.2 value hvalue)⟩
  | _ => exact ⟨_, rfl⟩

/-- A canonical property can be written, and is read back the same. -/
theorem readable_of_canonical {p : TrackProperty} (h : p.Canonical) :
    ∃ kvp, kvp.WellFormed ∧ deserialize kvp = .ok p := by
  obtain ⟨kvp, hinto⟩ := h.writes
  obtain ⟨hkvp, -, hread⟩ := deserialize_of_tryIntoKeyValuePair h.wellFormed hinto
  rw [h.canonical_eq] at hread
  exact ⟨kvp, hkvp, hread⟩

end TrackProperty

def trackPropertyCodec : PropertyCodec TrackProperty where
  read := TrackProperty.deserialize
  write := TrackProperty.tryIntoKeyValuePair
  typeValue := TrackProperty.typeValue
  isKnown := TrackProperty.isKnown
  rewrites := fun _ _ => TrackProperty.rewrites_of_deserialize
  getType_of_write := fun _ _ => TrackProperty.getType_of_tryIntoKeyValuePair
  write_unknown := fun _ _ => TrackProperty.write_of_not_known

theorem trackPropertyCodec_readable (p : TrackProperty) :
    trackPropertyCodec.Readable p ↔ p.Canonical := by
  constructor
  · rintro ⟨kvp, hwf, hread⟩
    exact TrackProperty.canonical_of_deserialize hwf hread
  · exact TrackProperty.readable_of_canonical

/-- The properties of Objects and those of tracks survive forwarding. -/
theorem properties_forward :
    Forwards deserializeObjectProperties serializeObjectProperties ObjectProperty.typeValue
      ObjectProperty.isKnown ObjectProperty.Canonical ∧
    Forwards deserializeTrackProperties serializeTrackProperties TrackProperty.typeValue
      TrackProperty.isKnown TrackProperty.Canonical :=
  ⟨objectPropertyCodec.forwards objectPropertyCodec_readable,
    trackPropertyCodec.forwards trackPropertyCodec_readable⟩

/-- A gap that is kept as a pair of a Type not known is read back as the gap. -/
theorem knownAsUnknown_not_readBack :
    ¬ ∀ props : List ObjectProperty, ∃ out, serializeObjectProperties props = .ok out ∧
      deserializeObjectProperties out =
        .ok (props.insertionSort fun a b => a.typeValue ≤ b.typeValue) := by
  intro h
  obtain ⟨out, hout, hread⟩ := h [.unknown (.varInt 0x3C 5)]
  cases hout
  cases hread

end Moqtail
