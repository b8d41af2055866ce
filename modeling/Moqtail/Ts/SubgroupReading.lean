import Moqtail.Ts.SubgroupStream
import Moqtail.Wire.PartialReads

/-! A subgroup stream of the TypeScript library, read by the Rust library.

The reader takes the fields it is to expect from the header and from the payload length, the writer
those that the Object has. An Object of which the two say different things is not read back, and
from there on the reader is behind: it still wants fields that nothing was written for. -/
namespace Moqtail.Ts

open Lib

/-- Objects until nothing is left. -/
def readAll (hasProperties : Bool) (previous : Option UInt64) (bytes : Bytes) :
    Parse (List Moqtail.SubgroupObject × Bytes) :=
  decodeAll (fun _ o => some o.objectId)
    (fun previous bytes => Moqtail.SubgroupObject.deserialize bytes previous hasProperties)
    bytes.length previous bytes

/-- The order they are written in. -/
def MoqtObject.sortedProperties (o : MoqtObject) : List KeyValuePair :=
  (o.properties.getD []).insertionSort fun a b => a.typeValue ≤ b.typeValue

/-- The properties that the Rust library makes of pairs. -/
def readProperties (kvps : List KeyValuePair) : Option (List ObjectProperty) := do
  let kvps ← kvps.mapM KeyValuePair.toRust
  (kvps.mapM ObjectProperty.deserialize).toOption

/-- The Object that was read is the one that was written: an absent status is Normal, and an absent
payload and absent properties are empty ones. -/
structure SameObject (o : MoqtObject) (o' : Moqtail.SubgroupObject) : Prop where
  objectId : ofU64 o'.objectId = o.objectId
  properties : readProperties o.sortedProperties = some (o'.properties.getD [])
  status : o'.objectStatus.getD .normal = o.objectStatus
  payload : o'.payload.getD [] = (o.payload.map (·.bytes)).getD []

/-- Types and values are words, a type has the parity of its value's encoding, and the Rust library
knows what to make of each pair. -/
def ReadableProperties (kvps : List KeyValuePair) : Prop :=
  ∃ kvps' : List Moqtail.KeyValuePair, kvps = kvps'.map .ofRust ∧ (∀ kvp ∈ kvps', kvp.WellFormed) ∧
    ∃ properties, kvps'.mapM ObjectProperty.deserialize = .ok properties

/-- The fields that are written of the Object are those that a reader expects under the header. -/
structure Carried (hasProperties : Bool) (o : MoqtObject) : Prop where
  objectId : 0 ≤ o.objectId ∧ o.objectId < 2 ^ 64
  hasProperties : o.hasProperties = hasProperties
  payload : o.objectStatus = .normal → ∀ payload, o.payload = some payload → payload.bytes ≠ []
  properties : ReadableProperties o.sortedProperties
  fits : ∀ ext, serializeKvpList (o.properties.getD []) = .ok ext → ext.length < 2 ^ 64

/-! What is written of an Object. -/

theorem objectStatusValue_eq (status : ObjectStatus) : objectStatusValue status = ofU64 status.toU64 := by
  cases status <;> rfl

namespace MoqtObject

/-- The payload field, or the status in its place. -/
def body (o : MoqtObject) : Bytes :=
  match o.payload with
  | some payload => putVi (UInt64.ofNat payload.bytes.length) ++ payload.bytes
  | none => putVi 0 ++ putVi o.objectStatus.toU64

/-- The properties field, where there is one. -/
def Writes (o : MoqtObject) (out : Bytes) : Prop :=
  (o.hasProperties = false ∧ out = []) ∨
    ∃ ext, o.hasProperties = true ∧ serializeKvpList (o.properties.getD []) = .ok ext ∧
      ext.length < 2 ^ 64 ∧ out = putVi (UInt64.ofNat ext.length) ++ ext

theorem payload_length_lt (payload : Uint8Array) : payload.bytes.length < 2 ^ 64 := by
  have := payload.length_le
  unfold maxSafeInteger at this
  omega

theorem hasProperties_eq_false {o : MoqtObject} : o.hasProperties = false ↔ o.properties.getD [] = [] := by
  unfold hasProperties
  cases o.properties with
  | none => simp
  | some properties => simp

theorem hasProperties_normalize (o : MoqtObject) :
    normalizeProperties o.properties =
      if o.hasProperties then some (o.properties.getD []) else none := by
  unfold normalizeProperties hasProperties
  cases o.properties with
  | none => rfl
  | some properties => cases properties <;> rfl

/-- The object that is serialized, field by field. -/
theorem tryInto_eq {o : MoqtObject} (h : o.objectForwardingPreference = .subgroup) :
    ∃ s, o.tryIntoSubgroupObject = .ok s ∧ s.objectId = o.objectId ∧
      s.properties = normalizeProperties o.properties ∧ s.serializeBody = .ok o.body := by
  have hpreference : ¬ o.objectForwardingPreference ≠ .subgroup := fun hne => hne h
  have hstatus : ∀ status : ObjectStatus,
      (SubgroupObject.newWithStatus o.objectId o.properties status).serializeBody =
        .ok (putVi 0 ++ putVi status.toU64) := by
    intro status
    have hzero : (0 : Int) = ofU64 0 := rfl
    simp only [SubgroupObject.serializeBody, SubgroupObject.newWithStatus, Option.map_some,
      Option.getD_some, objectStatusValue_eq]
    rw [hzero, ByteBuffer.putVI_eq, ByteBuffer.putVI_eq]
    rfl
  unfold tryIntoSubgroupObject body
  rw [if_neg hpreference]
  cases hpayload : o.payload with
  | none =>
    cases hs : o.objectStatus <;> exact ⟨_, rfl, rfl, rfl, hstatus _⟩
  | some payload =>
    have hnormal : o.objectStatus = .normal := by
      by_contra hne
      have hnone := o.payload_none hne
      rw [hpayload] at hnone
      cases hnone
    rw [hnormal]
    exact ⟨_, rfl, rfl, rfl, ByteBuffer.putLengthPrefixedBytes_eq (payload_length_lt payload)⟩

theorem writes_of_serializeProperties {o : MoqtObject} {s : SubgroupObject} {out : Bytes}
    (hs : s.properties = normalizeProperties o.properties) (h : s.serializeProperties = .ok out) :
    o.Writes out := by
  unfold SubgroupObject.serializeProperties at h
  rw [hs, hasProperties_normalize] at h
  cases hp : o.hasProperties with
  | false =>
    rw [hp] at h
    cases h
    exact .inl ⟨hp, rfl⟩
  | true =>
    rw [hp] at h
    obtain ⟨ext, hext, hout⟩ := except_bind_eq_ok.mp h
    exact .inr ⟨ext, hp, hext, ByteBuffer.length_lt_of_putLengthPrefixedBytes hout,
      ByteBuffer.putLengthPrefixedBytes_eq_ok hout⟩

theorem serializeProperties_of_writes {o : MoqtObject} {s : SubgroupObject} {out : Bytes}
    (hs : s.properties = normalizeProperties o.properties) (h : o.Writes out) :
    s.serializeProperties = .ok out := by
  unfold SubgroupObject.serializeProperties
  rw [hs, hasProperties_normalize]
  obtain ⟨hp, rfl⟩ | ⟨ext, hp, hext, hfits, rfl⟩ := h
  · rw [hp]
    rfl
  · rw [hp, if_pos rfl]
    dsimp only
    rw [hext, except_ok_bind, ByteBuffer.putLengthPrefixedBytes_eq hfits]

end MoqtObject

/-- One Object of a stream, after the last one. -/
def sendOne (last : Option Int) (o : MoqtObject) : Result Bytes := do
  let object ← o.tryIntoSubgroupObject
  SendStream.write last object

/-- The ID of an Object goes out as a word, which comes to the ID again. -/
def DeltaOf (last : Option UInt64) (objectId : Int) (delta : UInt64) : Prop :=
  match last with
  | none => objectId = ofU64 delta
  | some last => objectId = ofU64 last + ofU64 delta + 1

theorem sendOne_eq_ok {o : MoqtObject} {last : Option UInt64} {out : Bytes}
    (hsubgroup : o.objectForwardingPreference = .subgroup)
    (h : sendOne (last.map ofU64) o = .ok out) :
    ∃ delta properties, DeltaOf last o.objectId delta ∧ o.Writes properties ∧
      out = putVi delta ++ properties ++ o.body := by
  obtain ⟨s, hs, hid, hproperties, hbody⟩ := MoqtObject.tryInto_eq hsubgroup
  rw [sendOne, hs, except_ok_bind] at h
  have hfields : ∀ objectIdDelta : Int,
      (do
        let delta ← ByteBuffer.putVI objectIdDelta
        let properties ← s.serializeProperties
        let body ← s.serializeBody
        return delta ++ properties ++ body) = .ok out →
      ∃ (delta : UInt64) (properties : Bytes), objectIdDelta = ofU64 delta ∧
        o.Writes properties ∧ out = putVi delta ++ properties ++ o.body := by
    intro objectIdDelta hser
    obtain ⟨delta, hdelta, hser⟩ := except_bind_eq_ok.mp hser
    obtain ⟨properties, hprops, hser⟩ := except_bind_eq_ok.mp hser
    rw [hbody] at hser
    cases hser
    obtain ⟨d, hd, rfl⟩ := ByteBuffer.putVI_eq_ok hdelta
    exact ⟨d, properties, hd, MoqtObject.writes_of_serializeProperties hproperties hprops, rfl⟩
  cases last with
  | none =>
    obtain ⟨delta, properties, hdelta, hwrites, hout⟩ := hfields s.objectId h
    exact ⟨delta, properties, hid ▸ hdelta, hwrites, hout⟩
  | some last =>
    unfold SendStream.write at h
    rw [Option.map_some] at h
    dsimp only at h
    split at h
    · cases h
    · obtain ⟨delta, properties, hdelta, hwrites, hout⟩ := hfields (s.objectId - ofU64 last - 1) h
      refine ⟨delta, properties, ?_, hwrites, hout⟩
      show o.objectId = ofU64 last + ofU64 delta + 1
      rw [← hid, ← hdelta]
      omega

theorem writeAll_cons_eq_ok {o : MoqtObject} {objects : List MoqtObject} {last : Option Int}
    {out : Bytes} (h : SendStream.writeAll last (o :: objects) = .ok out) :
    ∃ head tail, sendOne last o = .ok head ∧
      SendStream.writeAll (some o.objectId) objects = .ok tail ∧ out = head ++ tail := by
  obtain ⟨head, hhead, h⟩ := except_bind_eq_ok.mp h
  obtain ⟨tail, htail, h⟩ := except_bind_eq_ok.mp h
  cases h
  exact ⟨head, tail, hhead, htail, rfl⟩

/-! What is read of an Object. -/

/-- The Objects are read one after the other, each as it was written, to the last byte. -/
def ReadsBack (hasProperties : Bool) : Option UInt64 → Bytes → List MoqtObject → Prop
  | _, bytes, [] => bytes = []
  | previous, bytes, o :: objects => ∃ o' rest,
    Moqtail.SubgroupObject.deserialize bytes previous hasProperties = .ok (o', rest) ∧
      SameObject o o' ∧ ReadsBack hasProperties (some o'.objectId) rest objects

theorem readsBack_iff_decodeAll (hasProperties : Bool) (objects : List MoqtObject) :
    ∀ (fuel : Nat) (previous : Option UInt64) (bytes : Bytes), bytes.length ≤ fuel →
      ((∃ objects', decodeAll (fun _ (o : Moqtail.SubgroupObject) => some o.objectId)
          (fun previous bytes => Moqtail.SubgroupObject.deserialize bytes previous hasProperties) fuel
          previous bytes = .ok (objects', []) ∧ List.Forall₂ SameObject objects objects') ↔
        ReadsBack hasProperties previous bytes objects) := by
  induction objects with
  | nil =>
    intro fuel previous bytes hfuel
    constructor
    · rintro ⟨objects', hread, hsame⟩
      cases hsame
      cases bytes with
      | nil => rfl
      | cons b bytes =>
        cases fuel with
        | zero => simp at hfuel
        | succ fuel =>
          obtain ⟨⟨o', rest⟩, -, hread⟩ := except_bind_eq_ok.mp hread
          obtain ⟨⟨others, left⟩, -, hret⟩ := except_bind_eq_ok.mp hread
          cases hret
    · rintro rfl
      refine ⟨[], ?_, .nil⟩
      cases fuel <;> rfl
  | cons o objects ih =>
    intro fuel previous bytes hfuel
    constructor
    · rintro ⟨objects', hread, hsame⟩
      cases hsame with
      | @cons _ o' _ others hone hrest =>
        cases fuel with
        | zero => cases hread
        | succ fuel =>
          unfold decodeAll at hread
          split at hread
          · cases hread
          · obtain ⟨⟨first, rest⟩, hfirst, hread⟩ := except_bind_eq_ok.mp hread
            obtain ⟨⟨items, left⟩, hitems, hret⟩ := except_bind_eq_ok.mp hread
            cases hret
            have hless := (Moqtail.SubgroupObject.deserialize_progressive previous hasProperties).takes
              _ _ _ hfirst
            refine ⟨o', rest, hfirst, hone, (ih fuel _ rest (by omega)).mp ⟨others, hitems, hrest⟩⟩
    · rintro ⟨o', rest, hfirst, hone, hback⟩
      have hless := (Moqtail.SubgroupObject.deserialize_progressive previous hasProperties).takes
        _ _ _ hfirst
      cases fuel with
      | zero => omega
      | succ fuel =>
        obtain ⟨others, hitems, hrest⟩ := (ih fuel _ rest (by omega)).mpr hback
        refine ⟨o' :: others, ?_, .cons hone hrest⟩
        have hne : bytes.isEmpty = false := by
          cases bytes with
          | nil => simp at hless
          | cons b bytes => rfl
        unfold decodeAll
        rw [hne]
        simp only [Bool.false_eq_true, if_false, hfirst, except_ok_bind, hitems]
        rfl

theorem deserialize_eq_ok {bytes rest : Bytes} {previous : Option UInt64} {hasProperties : Bool}
    {o' : Moqtail.SubgroupObject}
    (h : Moqtail.SubgroupObject.deserialize bytes previous hasProperties = .ok (o', rest)) :
    ∃ delta left left', Moqtail.getVi bytes = .ok (delta, left) ∧
      Moqtail.SubgroupObject.deserializeProperties hasProperties left = .ok (o'.properties, left') ∧
      Moqtail.SubgroupObject.deserializeBody left' = .ok ((o'.objectStatus, o'.payload), rest) ∧
      o'.objectId = Moqtail.SubgroupObject.objectIdFrom delta previous := by
  obtain ⟨⟨delta, left⟩, hdelta, h⟩ := except_bind_eq_ok.mp h
  obtain ⟨⟨properties, left'⟩, hproperties, h⟩ := except_bind_eq_ok.mp h
  obtain ⟨⟨⟨status, payload⟩, left''⟩, hbody, h⟩ := except_bind_eq_ok.mp h
  cases h
  exact ⟨delta, left, left', hdelta, hproperties, hbody, rfl⟩

theorem toU64_of_tryFrom {raw : UInt64} {status : ObjectStatus}
    (h : ObjectStatus.tryFrom raw = .ok status) : raw = status.toU64 := by
  unfold ObjectStatus.tryFrom at h
  repeat' split at h
  all_goals first
    | (cases h; assumption)
    | cases h

/-- A body of no payload: a length of zero and the status. -/
theorem deserializeBody_empty {bytes rest : Bytes} {status : Option ObjectStatus}
    {payload : Option Bytes} (hpayload : payload.getD [] = [])
    (h : Moqtail.SubgroupObject.deserializeBody bytes = .ok ((status, payload), rest)) :
    ∃ left, Moqtail.getVi bytes = .ok (0, left) ∧
      Moqtail.getVi left = .ok ((status.getD .normal).toU64, rest) := by
  obtain ⟨⟨length, left⟩, hlength, h⟩ := except_bind_eq_ok.mp h
  dsimp only at h
  split at h
  next hzero =>
    subst hzero
    obtain ⟨⟨raw, left'⟩, hraw, h⟩ := except_bind_eq_ok.mp h
    obtain ⟨st, hst, h⟩ := except_bind_eq_ok.mp h
    cases h
    have hstatus : raw = st.toU64 := toU64_of_tryFrom hst
    rw [hstatus] at hraw
    exact ⟨left, hlength, hraw⟩
  next hne =>
    obtain ⟨⟨value, left'⟩, hcopy, h⟩ := except_bind_eq_ok.mp h
    cases h
    have hvalue := (copyToBytes_eq_ok hcopy).1
    have hnil : value = [] := hpayload
    rw [hnil] at hvalue
    exact absurd (UInt64.toNat_inj.mp hvalue.symm) hne

theorem deserializeKvps_ne_nil {bytes : Bytes} {properties : List ObjectProperty}
    (hbytes : bytes ≠ []) (h : deserializeObjectProperties bytes = .ok properties) :
    properties ≠ [] := by
  rintro rfl
  obtain ⟨kvps, hkvps, h⟩ := except_bind_eq_ok.mp h
  have hnil := mapM_eq_ok_iff.mp h
  cases hnil
  cases bytes with
  | nil => exact hbytes rfl
  | cons b bytes =>
    obtain ⟨⟨kvp, rest⟩, -, hkvps⟩ := except_bind_eq_ok.mp hkvps
    obtain ⟨items, -, hret⟩ := except_bind_eq_ok.mp hkvps
    cases hret

/-- No properties read: nothing, or a length of zero. -/
theorem deserializeProperties_empty {hasProperties : Bool} {bytes rest : Bytes}
    {properties : Option (List ObjectProperty)} (hproperties : properties.getD [] = [])
    (h : Moqtail.SubgroupObject.deserializeProperties hasProperties bytes = .ok (properties, rest)) :
    if hasProperties then Moqtail.getVi bytes = .ok (0, rest) else bytes = rest := by
  unfold Moqtail.SubgroupObject.deserializeProperties at h
  cases hasProperties with
  | false =>
    cases h
    rfl
  | true =>
    obtain ⟨⟨extLen, left⟩, hlen, h⟩ := except_bind_eq_ok.mp h
    dsimp only at h
    split at h
    next hpos =>
      obtain ⟨⟨ext, left'⟩, hcopy, h⟩ := except_bind_eq_ok.mp h
      obtain ⟨headers, hheaders, h⟩ := except_bind_eq_ok.mp h
      cases h
      have hext : ext ≠ [] := by
        rintro rfl
        have hlength := (copyToBytes_eq_ok hcopy).1
        simp only [List.length_nil] at hlength
        omega
      have hread := except_mapError_eq_ok.mp hheaders
      exact absurd hproperties (deserializeKvps_ne_nil hext hread)
    next hzero =>
      cases h
      have hnil : extLen = 0 := UInt64.toNat_inj.mp (by simpa using hzero)
      rw [if_pos rfl, hlen, hnil]

/-! A reader that is behind. -/

/-- So many zeros come first. -/
def ReadsZeros : Nat → Bytes → Bytes → Prop
  | 0, bytes, rest => bytes = rest
  | n + 1, bytes, rest => ∃ left, Moqtail.getVi bytes = .ok (0, left) ∧ ReadsZeros n left rest

theorem ReadsZeros.trans {m n : Nat} {bytes left rest : Bytes} (h : ReadsZeros m bytes left)
    (h' : ReadsZeros n left rest) : ReadsZeros (m + n) bytes rest := by
  induction m generalizing bytes with
  | zero =>
    cases h
    rwa [Nat.zero_add]
  | succ m ih =>
    obtain ⟨next, hzero, hrest⟩ := h
    rw [Nat.add_right_comm]
    exact ⟨next, hzero, ih hrest⟩

theorem ReadsZeros.one {bytes rest : Bytes} (h : Moqtail.getVi bytes = .ok (0, rest)) :
    ReadsZeros 1 bytes rest :=
  ⟨rest, h, rfl⟩

/-- What was written first is one of them. -/
theorem ReadsZeros.of_putVi {n : Nat} {v : UInt64} {tail rest : Bytes}
    (h : ReadsZeros (n + 1) (putVi v ++ tail) rest) : v = 0 ∧ ReadsZeros n tail rest := by
  obtain ⟨left, hzero, hrest⟩ := h
  rw [getVi_putVi] at hzero
  cases hzero
  exact ⟨rfl, hrest⟩

theorem not_readsZeros_nil {n : Nat} {rest : Bytes} : ¬ ReadsZeros (n + 1) [] rest := by
  rintro ⟨left, hzero, -⟩
  cases hzero

/-- An Object that has neither properties nor a payload takes the fields for them all the same. -/
theorem readsZeros_of_empty {o : MoqtObject} {o' : Moqtail.SubgroupObject} {left left' rest : Bytes}
    {hasProperties : Bool} (hsame : SameObject o o') (hnone : o.hasProperties = false)
    (hempty : ∀ payload, o.payload = some payload → payload.bytes = [])
    (hproperties : Moqtail.SubgroupObject.deserializeProperties hasProperties left =
      .ok (o'.properties, left'))
    (hbody : Moqtail.SubgroupObject.deserializeBody left' =
      .ok ((o'.objectStatus, o'.payload), rest)) :
    ∃ last, ReadsZeros (hasProperties.toNat + 1) left last ∧
      Moqtail.getVi last = .ok (o.objectStatus.toU64, rest) := by
  have hnoProperties : o'.properties.getD [] = [] := by
    have hread := hsame.properties
    rw [MoqtObject.sortedProperties, MoqtObject.hasProperties_eq_false.mp hnone] at hread
    exact (Option.some.inj hread).symm
  have hnoPayload : o'.payload.getD [] = [] := by
    rw [hsame.payload]
    cases hp : o.payload with
    | none => rfl
    | some payload => exact hempty payload hp
  obtain ⟨last, hlength, hstatus⟩ := deserializeBody_empty hnoPayload hbody
  rw [hsame.status] at hstatus
  refine ⟨last, ?_, hstatus⟩
  have hfield := deserializeProperties_empty hnoProperties hproperties
  cases hasProperties with
  | false =>
    have hsameBytes : left = left' := hfield
    rw [hsameBytes]
    exact .one hlength
  | true => exact ⟨left', hfield, .one hlength⟩

theorem length_ne_zero {ext : Bytes} (hne : ext ≠ []) (hfits : ext.length < 2 ^ 64) :
    UInt64.ofNat ext.length ≠ 0 := by
  intro hzero
  have hlength := toNat_ofNat_length hfits
  rw [hzero] at hlength
  exact hne (List.length_eq_zero_iff.mp hlength.symm)

theorem serializeKvpList_ne_nil {kvps : List KeyValuePair} {out : Bytes} (hne : kvps ≠ [])
    (h : serializeKvpList kvps = .ok out) : out ≠ [] := by
  unfold serializeKvpList at h
  have hsorted : (kvps.insertionSort fun a b => a.typeValue ≤ b.typeValue) ≠ [] := by
    intro hnil
    have hlength := List.length_insertionSort (fun a b : KeyValuePair => a.typeValue ≤ b.typeValue) kvps
    rw [hnil] at hlength
    exact hne (List.length_eq_zero_iff.mp hlength.symm)
  cases hcases : kvps.insertionSort fun a b => a.typeValue ≤ b.typeValue with
  | nil => exact absurd hcases hsorted
  | cons kvp rest =>
    rw [hcases] at h
    obtain ⟨head, hhead, h⟩ := except_bind_eq_ok.mp h
    obtain ⟨tail, -, hret⟩ := except_bind_eq_ok.mp h
    cases hret
    unfold KeyValuePair.serializeDelta at hhead
    split at hhead
    · cases hhead
    · obtain ⟨delta, hdelta, hhead⟩ := except_bind_eq_ok.mp hhead
      obtain ⟨value, -, hret⟩ := except_bind_eq_ok.mp hhead
      cases hret
      obtain ⟨d, -, rfl⟩ := ByteBuffer.putVI_eq_ok hdelta
      have hpos := minimalViLength_pos d
      intro hnil
      have hlength := congrArg List.length hnil
      simp only [List.length_append, length_putVi, List.length_nil] at hlength
      omega

/-- A properties field does not start with a zero. -/
theorem MoqtObject.Writes.empty_of_zero {o : MoqtObject} {properties tail rest : Bytes} {n : Nat}
    (h : o.Writes properties) (hzero : ReadsZeros (n + 1) (properties ++ tail) rest) :
    o.hasProperties = false ∧ properties = [] := by
  obtain ⟨hnone, rfl⟩ | ⟨ext, hsome, hext, hfits, rfl⟩ := h
  · exact ⟨hnone, rfl⟩
  · rw [List.append_assoc] at hzero
    have hne : o.properties.getD [] ≠ [] := by
      intro hnil
      rw [MoqtObject.hasProperties_eq_false.mpr hnil] at hsome
      cases hsome
    exact absurd hzero.of_putVi.1 (length_ne_zero (serializeKvpList_ne_nil hne hext) hfits)

/-- Neither does a payload field. -/
theorem MoqtObject.body_of_zero {o : MoqtObject} {tail rest : Bytes} {n : Nat}
    (hzero : ReadsZeros (n + 1) (o.body ++ tail) rest) :
    (∀ payload, o.payload = some payload → payload.bytes = []) ∧
      ((∃ payload, o.payload = some payload ∧ o.objectStatus = .normal ∧ ReadsZeros n tail rest) ∨
        (o.payload = none ∧ ReadsZeros n (putVi o.objectStatus.toU64 ++ tail) rest)) := by
  unfold MoqtObject.body at hzero
  cases hp : o.payload with
  | some payload =>
    rw [hp] at hzero
    dsimp only at hzero
    rw [List.append_assoc] at hzero
    obtain ⟨hlength, hrest⟩ := hzero.of_putVi
    have hnil : payload.bytes = [] := by
      by_contra hne
      exact length_ne_zero hne (MoqtObject.payload_length_lt payload) hlength
    have hnormal : o.objectStatus = .normal := by
      by_contra hne
      have hnone := o.payload_none hne
      rw [hp] at hnone
      cases hnone
    rw [hnil, List.nil_append] at hrest
    refine ⟨?_, .inl ⟨payload, rfl, hnormal, hrest⟩⟩
    rintro _ ⟨⟩
    exact hnil
  | none =>
    rw [hp] at hzero
    dsimp only at hzero
    rw [List.append_assoc] at hzero
    exact ⟨nofun, .inr ⟨rfl, hzero.of_putVi.2⟩⟩

/-- An Object that takes the place of zeros leaves the reader behind by one field at least. -/
theorem readsZeros_past {o : MoqtObject} {o' : Moqtail.SubgroupObject} {hasProperties : Bool}
    {left left' rest tail : Bytes} {n : Nat} (hsame : SameObject o o')
    (hnone : o.hasProperties = false) (hzero : ReadsZeros (n + 1) (o.body ++ tail) left)
    (hproperties : Moqtail.SubgroupObject.deserializeProperties hasProperties left =
      .ok (o'.properties, left'))
    (hbody : Moqtail.SubgroupObject.deserializeBody left' =
      .ok ((o'.objectStatus, o'.payload), rest)) :
    ∃ m, ReadsZeros (m + 1) tail rest := by
  obtain ⟨hempty, hcases⟩ := MoqtObject.body_of_zero hzero
  obtain ⟨last, hlast, hstatus⟩ := readsZeros_of_empty hsame hnone hempty hproperties hbody
  obtain ⟨payload, -, hnormal, hrest⟩ | ⟨-, hrest⟩ := hcases
  · rw [hnormal] at hstatus
    exact ⟨_, (hrest.trans hlast).trans (.one hstatus)⟩
  · have hfirst := hrest.trans hlast
    rw [← Nat.add_assoc] at hfirst
    obtain ⟨hstatusZero, hmore⟩ := hfirst.of_putVi
    rw [hstatusZero] at hstatus
    exact ⟨_, hmore.trans (.one hstatus)⟩

/-- The reader never catches up. -/
theorem not_readsBack_of_zeros (hasProperties : Bool) (objects : List MoqtObject) :
    ∀ (last : UInt64) (out rest : Bytes) (n : Nat),
      (∀ o ∈ objects, o.objectForwardingPreference = .subgroup) →
      SendStream.writeAll (some (ofU64 last)) objects = .ok out → ReadsZeros (n + 1) out rest →
        ¬ ReadsBack hasProperties (some last) rest objects := by
  induction objects with
  | nil =>
    intro last out rest n _ hout hzeros _
    cases hout
    exact not_readsZeros_nil hzeros
  | cons o objects ih =>
    rintro last out rest n hsubgroup hout hzeros ⟨o', left, hread, hsame, hback⟩
    obtain ⟨head, tail, hhead, htail, rfl⟩ := writeAll_cons_eq_ok hout
    obtain ⟨delta, properties, hdelta, hwrites, rfl⟩ :
        ∃ delta properties, DeltaOf (some last) o.objectId delta ∧ o.Writes properties ∧
          head = putVi delta ++ properties ++ o.body :=
      sendOne_eq_ok (hsubgroup o List.mem_cons_self) hhead
    rw [List.append_assoc, List.append_assoc] at hzeros
    obtain ⟨hdeltaZero, hzeros⟩ := hzeros.of_putVi
    obtain ⟨delta', b, b', hdelta', hproperties, hbody, hid⟩ := deserialize_eq_ok hread
    -- the next ID is the one after `last`, so the reader's delta is a zero as well
    have hnext : delta' = 0 := by
      have hid' := hsame.objectId
      have hobjectId : o.objectId = ofU64 last + ofU64 delta + 1 := hdelta
      have hsum : o'.objectId = last + delta' + 1 := hid
      rw [hobjectId, hsum, hdeltaZero] at hid'
      apply UInt64.toNat_inj.mp
      have hlt := last.toNat_lt
      have hlt' := delta'.toNat_lt
      dsimp only [ofU64] at hid'
      rw [UInt64.toNat_add, UInt64.toNat_add] at hid'
      simp only [UInt64.reduceToNat] at hid' ⊢
      omega
    rw [hnext] at hdelta'
    have hbehind := hzeros.trans (.one hdelta')
    obtain ⟨hnone, rfl⟩ := hwrites.empty_of_zero hbehind
    rw [List.nil_append] at hbehind
    obtain ⟨m, hmore⟩ := readsZeros_past hsame hnone hbehind hproperties hbody
    have hlast : o.objectId = ofU64 o'.objectId := hsame.objectId.symm
    rw [hlast] at htail
    exact ih o'.objectId tail left m (fun o ho => hsubgroup o (List.mem_cons_of_mem _ ho)) htail hmore
      hback

/-! Objects that are read back. -/

theorem deserialize_eq_unknown {kvp kvp' : Moqtail.KeyValuePair}
    (h : ObjectProperty.deserialize kvp = .ok (.unknown kvp')) : kvp = kvp' := by
  unfold ObjectProperty.deserialize at h
  split at h
  · cases h
    rfl
  · obtain ⟨value, -, h⟩ := except_bind_eq_ok.mp h
    obtain ⟨kvps, -, h⟩ := except_bind_eq_ok.mp h
    dsimp only at h
    split at h
    · cases h
    · cases h
  · obtain ⟨value, -, h⟩ := except_bind_eq_ok.mp h
    cases h
  · obtain ⟨value, -, h⟩ := except_bind_eq_ok.mp h
    cases h
  · cases h
    rfl

/-- The encoding has the parity that the Type tells of. -/
def FollowsParity : Moqtail.KeyValuePair → Prop
  | .varInt typeValue _ => typeValue % 2 = 0
  | .bytes typeValue _ => typeValue % 2 ≠ 0

theorem followsParity_of_wellFormed {kvp : Moqtail.KeyValuePair} (h : kvp.WellFormed) :
    FollowsParity kvp := by
  cases kvp with
  | varInt typeValue value => exact h
  | bytes typeValue value => exact h.1

/-- A property that is known has the encoding of its Type. -/
theorem followsParity_of_known {kvp : Moqtail.KeyValuePair} {p : ObjectProperty}
    (h : ObjectProperty.deserialize kvp = .ok p) : p = .unknown kvp ∨ FollowsParity kvp := by
  have hcase := h
  unfold ObjectProperty.deserialize at hcase
  split at hcase
  · cases hcase
    exact .inl rfl
  · next htype =>
    have htype' := TrackPropertyType.toU64_of_tryFrom htype
    obtain ⟨value, hvalue, -⟩ := except_bind_eq_ok.mp hcase
    cases kvp with
    | varInt typeValue v => cases hvalue
    | bytes typeValue v =>
      right
      show typeValue % 2 ≠ 0
      have htype'' : typeValue = 0x0B := htype'
      rw [htype'']
      decide
  · next htype =>
    have htype' := TrackPropertyType.toU64_of_tryFrom htype
    obtain ⟨value, hvalue, -⟩ := except_bind_eq_ok.mp hcase
    cases kvp with
    | bytes typeValue v => cases hvalue
    | varInt typeValue v =>
      right
      show typeValue % 2 = 0
      have htype'' : typeValue = 0x3C := htype'
      rw [htype'']
      decide
  · next htype =>
    have htype' := TrackPropertyType.toU64_of_tryFrom htype
    obtain ⟨value, hvalue, -⟩ := except_bind_eq_ok.mp hcase
    cases kvp with
    | bytes typeValue v => cases hvalue
    | varInt typeValue v =>
      right
      show typeValue % 2 = 0
      have htype'' : typeValue = 0x3E := htype'
      rw [htype'']
      decide
  · cases hcase
    exact .inl rfl

theorem readableProperties_of_read {o : MoqtObject} {ext : Bytes}
    {properties : List ObjectProperty}
    (hread : deserializeObjectProperties ext = .ok properties)
    (hsame : readProperties o.sortedProperties = some properties) :
    ReadableProperties o.sortedProperties := by
  obtain ⟨kvps, hkvps, htyped⟩ := Option.bind_eq_some_iff.mp hsame
  have hwritten := KeyValuePair.mapM_toRust_eq_some hkvps
  have htyped' : kvps.mapM ObjectProperty.deserialize = .ok properties := by
    cases hcases : kvps.mapM ObjectProperty.deserialize with
    | error e =>
      rw [hcases] at htyped
      cases htyped
    | ok props =>
      rw [hcases] at htyped
      exact congrArg _ (Option.some.inj htyped)
  refine ⟨kvps, hwritten, fun kvp hmem => ?_, properties, htyped'⟩
  -- the pair that was read in its place has the encoding of its Type
  obtain ⟨read, hread, hreadTyped⟩ := except_bind_eq_ok.mp hread
  obtain ⟨p, hp, hone⟩ := exists_of_forall₂ (mapM_eq_ok_iff.mp htyped') kvp hmem
  obtain ⟨other, hother, hotherTyped⟩ :=
    exists_of_forall₂ (mapM_eq_ok_iff.mp hreadTyped).flip p hp
  have hwf := (deserializeKvpsFrom_wellFormed _ _ _ _ hread).1.wellFormed other hother
  have hparity : FollowsParity kvp := by
    rcases followsParity_of_known hone with rfl | hparity
    · rw [deserialize_eq_unknown hotherTyped] at hwf
      exact followsParity_of_wellFormed hwf
    · exact hparity
  have hmade : (KeyValuePair.ofRust kvp).Made := by
    have hin : KeyValuePair.ofRust kvp ∈ o.properties.getD [] := by
      have hsorted : KeyValuePair.ofRust kvp ∈ o.sortedProperties := by
        rw [hwritten]
        exact List.mem_map_of_mem hmem
      exact (List.mem_insertionSort _).mp hsorted
    cases hprops : o.properties with
    | none =>
      rw [hprops] at hin
      cases hin
    | some kvps =>
      rw [hprops] at hin
      exact o.made kvps hprops _ hin
  cases kvp with
  | varInt typeValue value => exact hparity
  | bytes typeValue value =>
    refine ⟨hparity, ?_⟩
    have hlength := hmade value rfl
    unfold maxValueLength at hlength
    unfold Moqtail.maxValueLength
    omega

/-- The body is read to its end, or its payload is an empty one. -/
theorem body_read {o : MoqtObject} {o' : Moqtail.SubgroupObject} {tail rest : Bytes}
    (hsame : SameObject o o')
    (h : Moqtail.SubgroupObject.deserializeBody (o.body ++ tail) =
      .ok ((o'.objectStatus, o'.payload), rest)) :
    (rest = tail ∧ ∀ payload, o.payload = some payload → payload.bytes ≠ []) ∨
      ReadsZeros 1 tail rest := by
  have hpayload := hsame.payload
  have hstatus := hsame.status
  unfold MoqtObject.body at h
  cases hp : o.payload with
  | none =>
    rw [hp] at h hpayload
    obtain ⟨left, hlength, hraw⟩ := deserializeBody_empty hpayload h
    dsimp only at hlength
    rw [List.append_assoc, getVi_putVi] at hlength
    cases hlength
    rw [getVi_putVi] at hraw
    exact .inl ⟨(Prod.mk.inj (Except.ok.inj hraw)).2.symm, nofun⟩
  | some payload =>
    rw [hp] at h hpayload
    have hnormal : o.objectStatus = .normal := by
      by_contra hne
      have hnone := o.payload_none hne
      rw [hp] at hnone
      cases hnone
    by_cases hnil : payload.bytes = []
    · right
      rw [Option.map_some, Option.getD_some, hnil] at hpayload
      obtain ⟨left, hlength, hraw⟩ := deserializeBody_empty hpayload h
      dsimp only at hlength
      rw [hnil, List.append_nil, getVi_putVi] at hlength
      rw [← (Prod.mk.inj (Except.ok.inj hlength)).2, hstatus, hnormal] at hraw
      exact .one hraw
    · left
      have hne := length_ne_zero hnil (MoqtObject.payload_length_lt payload)
      have hlength := toNat_ofNat_length (MoqtObject.payload_length_lt payload)
      dsimp only at h
      simp only [Moqtail.SubgroupObject.deserializeBody, List.append_assoc, getVi_putVi,
        except_ok_bind, hne, if_false, hlength, copyToBytes_append, except_pure] at h
      refine ⟨(Prod.mk.inj (Except.ok.inj h)).2.symm, ?_⟩
      rintro _ ⟨⟩
      exact hnil

/-- What one Object takes of the stream, if the reader is not left behind. -/
theorem carried_of_read {o : MoqtObject} {o' : Moqtail.SubgroupObject} {hasProperties : Bool}
    {previous : Option UInt64} {delta : UInt64} {properties tail rest : Bytes}
    (hwrites : o.Writes properties)
    (hread : Moqtail.SubgroupObject.deserialize (putVi delta ++ properties ++ o.body ++ tail) previous
      hasProperties = .ok (o', rest))
    (hsame : SameObject o o') (hahead : ∀ m, ¬ ReadsZeros (m + 1) tail rest) :
    rest = tail ∧ Carried hasProperties o := by
  obtain ⟨delta', left, left', hdelta, hproperties, hbody, -⟩ := deserialize_eq_ok hread
  rw [List.append_assoc, List.append_assoc, getVi_putVi] at hdelta
  cases hdelta
  have hrange : 0 ≤ o.objectId ∧ o.objectId < 2 ^ 64 := by
    have hlt := o'.objectId.toNat_lt
    rw [← hsame.objectId]
    dsimp only [ofU64]
    omega
  obtain ⟨hnone, rfl⟩ | ⟨ext, hsome, hext, hfits, rfl⟩ := hwrites
  · have hsorted : o.sortedProperties = [] := by
      rw [MoqtObject.sortedProperties, MoqtObject.hasProperties_eq_false.mp hnone]
      rfl
    cases hasProperties with
    | true =>
      exfalso
      have hnoProperties : o'.properties.getD [] = [] := by
        have hp := hsame.properties
        rw [hsorted] at hp
        exact (Option.some.inj hp).symm
      have hfield := deserializeProperties_empty hnoProperties hproperties
      rw [if_pos rfl] at hfield
      obtain ⟨hempty, -⟩ := MoqtObject.body_of_zero (.one hfield)
      obtain ⟨last, hlast, hstatus⟩ := readsZeros_of_empty hsame hnone hempty hproperties hbody
      obtain ⟨-, ⟨payload, -, hnormal, hrest⟩ | ⟨-, hrest⟩⟩ := MoqtObject.body_of_zero hlast
      · rw [hnormal] at hstatus
        exact hahead _ (hrest.trans (.one hstatus))
      · obtain ⟨hzero, hrest⟩ := hrest.of_putVi
        rw [hzero] at hstatus
        exact hahead _ (hrest.trans (.one hstatus))
    | false =>
      rw [← (Prod.mk.inj (Except.ok.inj hproperties)).2, List.nil_append] at hbody
      rcases body_read hsame hbody with ⟨rfl, hpayload⟩ | hzeros
      · refine ⟨rfl, ⟨hrange, hnone, fun _ => hpayload, ?_, ?_⟩⟩
        · rw [hsorted]
          exact ⟨[], rfl, by simp, [], rfl⟩
        · intro ext hext
          rw [MoqtObject.hasProperties_eq_false.mp hnone] at hext
          cases hext
          simp
      · exact absurd hzeros (hahead 0)
  · cases hasProperties with
    | false =>
      -- the reader knows of no properties, though there are some
      exfalso
      have hnoProperties : o'.properties = none :=
        (Prod.mk.inj (Except.ok.inj hproperties)).1.symm
      have hp := hsame.properties
      rw [hnoProperties] at hp
      obtain ⟨kvps, hkvps, htyped⟩ := Option.bind_eq_some_iff.mp hp
      have hsorted : o.sortedProperties = [] := by
        cases hcases : kvps.mapM ObjectProperty.deserialize with
        | error e =>
          rw [hcases] at htyped
          cases htyped
        | ok props =>
          rw [hcases] at htyped
          cases htyped
          have hnil := mapM_eq_ok_iff.mp hcases
          cases hnil
          exact KeyValuePair.mapM_toRust_eq_some hkvps
      have hnone : o.hasProperties = false := by
        rw [MoqtObject.hasProperties_eq_false, ← List.length_eq_zero_iff,
          ← List.length_insertionSort fun a b : KeyValuePair => a.typeValue ≤ b.typeValue]
        exact List.length_eq_zero_iff.mpr hsorted
      rw [hsome] at hnone
      cases hnone
    | true =>
      have hlength := toNat_ofNat_length hfits
      have hne : o.properties.getD [] ≠ [] := by
        intro hnil
        rw [MoqtObject.hasProperties_eq_false.mpr hnil] at hsome
        cases hsome
      have hpos : ext.length > 0 := List.length_pos_iff.mpr (serializeKvpList_ne_nil hne hext)
      simp only [Moqtail.SubgroupObject.deserializeProperties, if_true, List.append_assoc,
        getVi_putVi, except_ok_bind, hlength, copyToBytes_append] at hproperties
      rw [if_pos hpos] at hproperties
      obtain ⟨headers, hheaders, hret⟩ := except_bind_eq_ok.mp hproperties
      obtain ⟨hheadersEq, hleft⟩ := Prod.mk.inj (Except.ok.inj hret)
      have hlist := except_mapError_eq_ok.mp hheaders
      have hp := hsame.properties
      rw [← hheadersEq, Option.getD_some] at hp
      rw [← hleft] at hbody
      rcases body_read hsame hbody with ⟨rfl, hpayload⟩ | hzeros
      · refine ⟨rfl, ⟨hrange, hsome, fun _ => hpayload, readableProperties_of_read hlist hp, ?_⟩⟩
        intro ext' hext'
        rw [hext] at hext'
        cases hext'
        exact hfits
      · exact absurd hzeros (hahead 0)

theorem carried_of_readsBack (hasProperties : Bool) (objects : List MoqtObject) :
    ∀ (previous : Option UInt64) (out : Bytes),
      (∀ o ∈ objects, o.objectForwardingPreference = .subgroup) →
      SendStream.writeAll (previous.map ofU64) objects = .ok out →
      ReadsBack hasProperties previous out objects → ∀ o ∈ objects, Carried hasProperties o := by
  induction objects with
  | nil => simp
  | cons o objects ih =>
    rintro previous out hsubgroup hout ⟨o', rest, hread, hsame, hback⟩
    obtain ⟨head, tail, hhead, htail, rfl⟩ := writeAll_cons_eq_ok hout
    obtain ⟨delta, properties, -, hwrites, rfl⟩ :=
      sendOne_eq_ok (hsubgroup o List.mem_cons_self) hhead
    have hothers : ∀ o ∈ objects, o.objectForwardingPreference = .subgroup :=
      fun o ho => hsubgroup o (List.mem_cons_of_mem _ ho)
    rw [← hsame.objectId] at htail
    have hahead : ∀ m, ¬ ReadsZeros (m + 1) tail rest := fun m hzeros =>
      not_readsBack_of_zeros hasProperties objects _ _ _ m hothers htail hzeros hback
    obtain ⟨rfl, hcarried⟩ := carried_of_read hwrites hread hsame hahead
    rw [List.forall_mem_cons]
    exact ⟨hcarried, ih (some o'.objectId) rest hothers htail hback⟩

/-! Objects that a header carries are read back. -/

theorem kvpsFrom_of_sorted {kvps : List Moqtail.KeyValuePair} :
    ∀ {prevType : UInt64}, (∀ kvp ∈ kvps, kvp.WellFormed) →
      kvps.Pairwise (fun a b => a.getType ≤ b.getType) → (∀ kvp ∈ kvps, prevType ≤ kvp.getType) →
        KvpsFrom prevType kvps := by
  induction kvps with
  | nil => exact fun _ _ _ => trivial
  | cons kvp rest ih =>
    intro prevType hwf hsorted hle
    rw [List.forall_mem_cons] at hwf hle
    rw [List.pairwise_cons] at hsorted
    exact ⟨hwf.1, hle.1, ih hwf.2 hsorted.2 hsorted.1⟩

theorem properties_read {o : MoqtObject} {hasProperties : Bool} (h : Carried hasProperties o) :
    ∃ out properties, o.Writes out ∧ readProperties o.sortedProperties = some (properties.getD []) ∧
      Reads (Moqtail.SubgroupObject.deserializeProperties hasProperties) out properties := by
  cases hasProperties with
  | false =>
    refine ⟨[], none, .inl ⟨h.hasProperties, rfl⟩, ?_, fun tail => rfl⟩
    rw [MoqtObject.sortedProperties, MoqtObject.hasProperties_eq_false.mp h.hasProperties]
    rfl
  | true =>
    obtain ⟨kvps, hkvps, hwf, properties, hproperties⟩ := h.properties
    have hsorted : kvps.Pairwise fun a b => a.getType ≤ b.getType := by
      have hpairwise := List.pairwise_insertionSort
        (fun a b : KeyValuePair => a.typeValue ≤ b.typeValue) (o.properties.getD [])
      rw [← MoqtObject.sortedProperties, hkvps, List.pairwise_map] at hpairwise
      refine hpairwise.imp fun {a b} hle => ?_
      rw [KeyValuePair.typeValue_ofRust, KeyValuePair.typeValue_ofRust] at hle
      rw [UInt64.le_iff_toNat_le]
      dsimp only [ofU64] at hle
      omega
    have hfrom : KvpsFrom 0 kvps := kvpsFrom_of_sorted hwf hsorted fun _ _ => UInt64.zero_le
    obtain ⟨ext, hext⟩ := hfrom.serializes
    have hwritten : serializeKvpList (o.properties.getD []) = .ok ext := by
      rw [serializeKvpList, ← MoqtObject.sortedProperties, hkvps]
      exact KeyValuePair.serializeKvpsFrom_of_kvpsFrom kvps 0 ext hfrom hext
    have hfits := h.fits ext hwritten
    have hlength := toNat_ofNat_length hfits
    have hne : ext ≠ [] := by
      apply serializeKvpList_ne_nil _ hwritten
      intro hnil
      have hnone := h.hasProperties
      rw [MoqtObject.hasProperties_eq_false.mpr hnil] at hnone
      cases hnone
    have hpos : ext.length > 0 := List.length_pos_iff.mpr hne
    have hread : deserializeObjectProperties ext = .ok properties := by
      have hlist := deserializeKvpsFrom_serializeKvpsFrom kvps 0 ext ext.length hfrom hext le_rfl
      rw [deserializeObjectProperties, Moqtail.deserializeKvpListUntilEmpty, hlist]
      exact hproperties
    refine ⟨_, some properties, .inr ⟨ext, h.hasProperties, hwritten, hfits, rfl⟩, ?_, fun tail => ?_⟩
    · rw [readProperties, hkvps, KeyValuePair.mapM_toRust_ofRust]
      show (kvps.mapM ObjectProperty.deserialize).toOption = _
      rw [hproperties]
      rfl
    · simp only [Moqtail.SubgroupObject.deserializeProperties, if_true, List.append_assoc,
        getVi_putVi, except_ok_bind, hlength, copyToBytes_append]
      rw [if_pos hpos, hread]
      rfl

theorem body_reads {o : MoqtObject} {hasProperties : Bool} (h : Carried hasProperties o) :
    ∃ status payload, status.getD .normal = o.objectStatus ∧
      payload.getD [] = (o.payload.map (·.bytes)).getD [] ∧
      Reads Moqtail.SubgroupObject.deserializeBody o.body (status, payload) := by
  cases hp : o.payload with
  | none =>
    refine ⟨some o.objectStatus, none, rfl, rfl, fun tail => ?_⟩
    unfold MoqtObject.body
    rw [hp]
    simp only [Moqtail.SubgroupObject.deserializeBody, List.append_assoc, getVi_putVi,
      except_ok_bind, if_true, ObjectStatus.tryFrom_toU64, except_pure]
  | some payload =>
    have hnormal : o.objectStatus = .normal := by
      by_contra hne
      have hnone := o.payload_none hne
      rw [hp] at hnone
      cases hnone
    have hne := length_ne_zero (h.payload hnormal payload hp) (MoqtObject.payload_length_lt payload)
    have hlength := toNat_ofNat_length (MoqtObject.payload_length_lt payload)
    refine ⟨none, some payload.bytes, hnormal.symm, rfl, fun tail => ?_⟩
    unfold MoqtObject.body
    rw [hp]
    simp only [Moqtail.SubgroupObject.deserializeBody, List.append_assoc, getVi_putVi,
      except_ok_bind, hne, if_false, hlength, copyToBytes_append, except_pure]

theorem sendOne_reads {o : MoqtObject} {hasProperties : Bool} {previous : Option UInt64}
    (hsubgroup : o.objectForwardingPreference = .subgroup) (h : Carried hasProperties o)
    (hlater : ∀ last, previous = some last → ofU64 last < o.objectId) :
    ∃ out o', sendOne (previous.map ofU64) o = .ok out ∧ SameObject o o' ∧ ∀ tail,
      Moqtail.SubgroupObject.deserialize (out ++ tail) previous hasProperties = .ok (o', tail) := by
  obtain ⟨s, hs, hsid, hsproperties, hsbody⟩ := MoqtObject.tryInto_eq hsubgroup
  obtain ⟨properties, read, hwrites, hproperties, hreadProperties⟩ := properties_read h
  obtain ⟨status, payload, hstatus, hpayload, hbody⟩ := body_reads h
  obtain ⟨n, hn⟩ := Int.eq_ofNat_of_zero_le h.objectId.1
  have hlt : n < 2 ^ 64 := by
    have := h.objectId.2
    omega
  have hid : ofU64 (UInt64.ofNat n) = o.objectId := by
    rw [hn]
    exact congrArg Nat.cast (UInt64.toNat_ofNat_of_lt' hlt)
  generalize UInt64.ofNat n = id at hid
  let delta := Moqtail.SubgroupObject.objectIdDelta id previous
  have hfields : ∀ objectIdDelta : Int, objectIdDelta = ofU64 delta →
      (do
        let delta ← ByteBuffer.putVI objectIdDelta
        let properties ← s.serializeProperties
        let body ← s.serializeBody
        return delta ++ properties ++ body) = .ok (putVi delta ++ properties ++ o.body) := by
    rintro _ rfl
    rw [MoqtObject.serializeProperties_of_writes hsproperties hwrites, hsbody, ByteBuffer.putVI_eq]
    rfl
  refine ⟨putVi delta ++ properties ++ o.body, ⟨id, read, status, payload⟩, ?_,
    ⟨hid, hproperties, hstatus, hpayload⟩, fun tail => ?_⟩
  · rw [sendOne, hs, except_ok_bind]
    cases previous with
    | none => exact hfields s.objectId (hsid.trans hid.symm)
    | some last =>
      have hless := hlater last rfl
      have hordered : ¬ s.objectId ≤ ofU64 last := by
        rw [hsid]
        omega
      rw [Option.map_some, SendStream.write, if_neg hordered]
      apply hfields (s.objectId - ofU64 last - 1)
      have hsub : (id - last - 1).toNat = id.toNat - last.toNat - 1 := by
        apply sub_toNat_of_lt
        rw [UInt64.lt_iff_toNat_lt]
        rw [← hid] at hless
        exact Int.ofNat_lt.mp hless
      show s.objectId - ofU64 last - 1 = ofU64 (id - last - 1)
      rw [hsid, ← hid] at *
      dsimp only [ofU64] at hless ⊢
      omega
  · simp only [Moqtail.SubgroupObject.deserialize, List.append_assoc, getVi_putVi, except_ok_bind]
    rw [hreadProperties, except_ok_bind, hbody, except_ok_bind]
    simp only [delta, Moqtail.SubgroupObject.objectIdFrom_objectIdDelta, except_pure]

theorem readsBack_of_carried (hasProperties : Bool) (objects : List MoqtObject) :
    ∀ previous : Option UInt64, (∀ o ∈ objects, o.objectForwardingPreference = .subgroup) →
      (∀ o ∈ objects, ∀ last, previous = some last → ofU64 last < o.objectId) →
      objects.Pairwise (fun o o' => o.objectId < o'.objectId) →
      (∀ o ∈ objects, Carried hasProperties o) →
        ∃ out, SendStream.writeAll (previous.map ofU64) objects = .ok out ∧
          ReadsBack hasProperties previous out objects := by
  induction objects with
  | nil => exact fun _ _ _ _ _ => ⟨[], rfl, rfl⟩
  | cons o objects ih =>
    intro previous hsubgroup hlater hincreasing hcarried
    rw [List.forall_mem_cons] at hsubgroup hlater hcarried
    rw [List.pairwise_cons] at hincreasing
    obtain ⟨head, o', hhead, hsame, hread⟩ := sendOne_reads hsubgroup.1 hcarried.1 hlater.1
    have hlater' : ∀ later ∈ objects, ∀ last, some o'.objectId = some last →
        ofU64 last < later.objectId := by
      rintro later hmem _ ⟨⟩
      rw [hsame.objectId]
      exact hincreasing.1 later hmem
    obtain ⟨tail, htail, hback⟩ := ih (some o'.objectId) hsubgroup.2 hlater' hincreasing.2 hcarried.2
    rw [Option.map_some, hsame.objectId] at htail
    refine ⟨head ++ tail, ?_, o', tail, hread tail, hsame, hback⟩
    rw [sendOne] at hhead
    rw [SendStream.writeAll, encodeAll]
    rw [hhead, except_ok_bind, ← SendStream.writeAll, htail]
    rfl

/-! The header of a stream. -/

theorem SubgroupHeaderType.hasProperties_fromProperties (hasProperties : Bool)
    (subgroupIdMode : SubgroupIdMode) (containsEndOfGroup hasDefaultPriority firstObject : Bool) :
    SubgroupHeaderType.hasProperties (SubgroupHeaderType.fromProperties hasProperties subgroupIdMode
      containsEndOfGroup hasDefaultPriority firstObject) = hasProperties := by
  cases subgroupIdMode <;> revert hasProperties containsEndOfGroup hasDefaultPriority firstObject <;>
    decide

theorem hasProperties_subgroupHeaderFor (o : MoqtObject) (subgroupId trackAlias priority : Int)
    (firstObject : Bool) :
    SubgroupHeaderType.hasProperties
      (subgroupHeaderFor o subgroupId trackAlias priority firstObject).type = o.hasProperties := by
  unfold subgroupHeaderFor
  dsimp only
  split
  · exact SubgroupHeaderType.hasProperties_fromProperties _ _ _ _ _
  · exact SubgroupHeaderType.hasProperties_fromProperties _ _ _ _ _

/-- A stream gets the header of its first Object. -/
def HeaderOf (header : SubgroupHeader) (objects : List MoqtObject) : Prop :=
  ∀ first, objects.head? = some first → ∃ subgroupId trackAlias priority firstObject,
    header = subgroupHeaderFor first subgroupId trackAlias priority firstObject

/-- The Objects of a stream are read back as they were given to it exactly when the properties are
on all of them or on none, as the first one has it, no payload is an empty array, and the other
library can read the properties. -/
theorem subgroup_reads_back_iff (header : SubgroupHeader) (objects : List MoqtObject)
    (hsubgroup : ∀ o ∈ objects, o.objectForwardingPreference = .subgroup)
    (hincreasing : objects.Pairwise fun o o' => o.objectId < o'.objectId)
    (hheader : HeaderOf header objects) :
    (∃ out objects', SendStream.writeAll none objects = .ok out ∧
      readAll (SubgroupHeaderType.hasProperties header.type) none out = .ok (objects', []) ∧
      List.Forall₂ SameObject objects objects') ↔
    ∀ first, objects.head? = some first → ∀ o ∈ objects, Carried first.hasProperties o := by
  have hflag : ∀ first, objects.head? = some first →
      SubgroupHeaderType.hasProperties header.type = first.hasProperties := by
    intro first hfirst
    obtain ⟨subgroupId, trackAlias, priority, firstObject, rfl⟩ := hheader first hfirst
    exact hasProperties_subgroupHeaderFor first subgroupId trackAlias priority firstObject
  generalize SubgroupHeaderType.hasProperties header.type = hasProperties at hflag
  constructor
  · rintro ⟨out, objects', hout, hread, hsame⟩ first hfirst
    have hback := (readsBack_iff_decodeAll hasProperties objects out.length none out le_rfl).mp
      ⟨objects', hread, hsame⟩
    rw [← hflag first hfirst]
    exact carried_of_readsBack hasProperties objects none out hsubgroup hout hback
  · intro hcarried
    have hall : ∀ o ∈ objects, Carried hasProperties o := by
      intro o ho
      cases objects with
      | nil => cases ho
      | cons first objects => exact hflag first rfl ▸ hcarried first rfl o ho
    obtain ⟨out, hout, hback⟩ := readsBack_of_carried hasProperties objects none hsubgroup
      (fun _ _ _ hnone => by cases hnone) hincreasing hall
    obtain ⟨objects', hread, hsame⟩ :=
      (readsBack_iff_decodeAll hasProperties objects out.length none out le_rfl).mpr hback
    exact ⟨out, objects', hout, hread, hsame⟩

/-- An Object without properties. -/
def MoqtObject.plain (objectId : Int) (payload : Uint8Array) : MoqtObject where
  location := (0, objectId)
  publisherPriority := 0
  objectForwardingPreference := .subgroup
  subgroupId := some 0
  objectStatus := .normal
  properties := none
  payload := some payload
  payload_none := fun hne => absurd rfl hne
  made := fun _ hnone => by cases hnone

theorem MoqtObject.carried_plain (objectId : Int) (payload : Uint8Array)
    (hid : 0 ≤ objectId ∧ objectId < 2 ^ 64) (hpayload : payload.bytes ≠ []) :
    Carried false (.plain objectId payload) where
  objectId := hid
  hasProperties := rfl
  payload := by
    rintro - _ ⟨⟩
    exact hpayload
  properties := ⟨[], rfl, fun _ hmem => absurd hmem List.not_mem_nil, [], rfl⟩
  fits := by
    rintro ext hext
    cases hext
    decide

/-- Two Objects of one byte each. -/
theorem subgroup_reads_back_iff_plain :
    let byte : Uint8Array := ⟨[7], by decide⟩
    let objects : List MoqtObject := [.plain 0 byte, .plain 5 byte]
    let header := subgroupHeaderFor (.plain 0 byte) 0 1 0 true
    ∃ out objects', SendStream.writeAll none objects = .ok out ∧
      readAll (SubgroupHeaderType.hasProperties header.type) none out = .ok (objects', []) ∧
      List.Forall₂ SameObject objects objects' := by
  intro byte objects header
  apply (subgroup_reads_back_iff header objects ?_ ?_ ?_).mpr
  · rintro _ ⟨⟩ o ho
    rw [List.mem_cons, List.mem_singleton] at ho
    obtain rfl | rfl := ho <;> exact MoqtObject.carried_plain _ _ (by decide) (by decide)
  · intro o ho
    rw [List.mem_cons, List.mem_singleton] at ho
    obtain rfl | rfl := ho <;> rfl
  · rw [List.pairwise_pair]
    decide
  · rintro _ ⟨⟩
    exact ⟨0, 1, 0, true, rfl⟩

/-- An empty array is a payload to the writer, so no status follows its length. -/
theorem not_subgroup_reads_back :
    ¬ ∀ (header : SubgroupHeader) (objects : List MoqtObject),
      (∀ o ∈ objects, o.objectForwardingPreference = .subgroup) →
      (objects.Pairwise fun o o' => o.objectId < o'.objectId) → HeaderOf header objects →
      ∃ out objects', SendStream.writeAll none objects = .ok out ∧
        readAll (SubgroupHeaderType.hasProperties header.type) none out = .ok (objects', []) ∧
        List.Forall₂ SameObject objects objects' := by
  intro hall
  let empty : MoqtObject := .plain 0 ⟨[], by decide⟩
  obtain ⟨out, objects', hout, hread, -⟩ := hall (subgroupHeaderFor empty 0 1 0 true) [empty]
    (by
      rintro o ho
      rw [List.mem_singleton] at ho
      subst ho
      rfl)
    (List.pairwise_singleton _ _)
    (by
      rintro _ ⟨⟩
      exact ⟨0, 1, 0, true, rfl⟩)
  have hbytes : SendStream.writeAll none [empty] = .ok [0, 0] := by decide
  rw [hbytes] at hout
  cases hout
  -- the reader wants the status that the second byte leaves out
  have hfails : (readAll false none [0, 0]).toOption = none := by decide
  rw [hasProperties_subgroupHeaderFor] at hread
  have hread : readAll false none [0, 0] = .ok (objects', []) := hread
  rw [hread] at hfails
  cases hfails

end Moqtail.Ts
