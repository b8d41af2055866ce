import Moqtail.Ts.FetchWriting
import Moqtail.Wire.PartialReads

/-! The FETCH codecs of the two libraries against each other.

What the TypeScript library reads off a FETCH stream, the Rust library reads too, from the same
bytes, unless the properties that the one keeps as pairs are none that the other can read. -/
namespace Moqtail.Ts

open Lib

theorem checkedAdd_eq_toU64 (a b : UInt64) : checkedAdd a b = toU64 (ofU64 a + ofU64 b) := by
  unfold checkedAdd
  split
  next hfits =>
    symm
    rw [toU64_eq_some, ofU64, ofU64, ofU64, UInt64.toNat_add, Nat.mod_eq_of_lt hfits]
    push_cast
    rfl
  next hwraps =>
    symm
    rw [toU64_eq_none, ofU64, ofU64, maxU64]
    omega

theorem checkedSub_eq_toU64 (a b : UInt64) : checkedSub a b = toU64 (ofU64 a - ofU64 b) := by
  unfold checkedSub
  split
  next hle =>
    have hle' := UInt64.le_iff_toNat_le.mp hle
    symm
    rw [toU64_eq_some, ofU64, ofU64, ofU64, UInt64.toNat_sub_of_le _ _ hle]
    omega
  next hlt =>
    have hlt' := UInt64.lt_iff_toNat_lt.mp (UInt64.not_le.mp hlt)
    symm
    rw [toU64_eq_none, ofU64, ofU64]
    omega

/-- The properties as the Rust library reads them off the pairs, where it can. -/
def propertiesToRust : Option (List KeyValuePair) → Option (Option (List ObjectProperty))
  | none => some none
  | some kvps => do
    let kvps ← kvps.mapM KeyValuePair.toRust
    let properties ← (kvps.mapM ObjectProperty.deserialize).toOption
    return some properties

theorem propertiesToRust_ofRust (kvps : List Moqtail.KeyValuePair) :
    propertiesToRust (some (kvps.map KeyValuePair.ofRust)) =
      (kvps.mapM ObjectProperty.deserialize).toOption.map some := by
  rw [propertiesToRust, KeyValuePair.mapM_toRust_ofRust]
  show ((kvps.mapM ObjectProperty.deserialize).toOption.bind fun p => some (some p)) = _
  cases kvps.mapM ObjectProperty.deserialize <;> rfl

/-- The entry as the Rust library has it, if its properties are any to that library. -/
def FetchObject.toRust : FetchObject → Option Moqtail.FetchObject
  | .object p => do
    let properties ← propertiesToRust p.properties
    let groupId ← toU64 p.groupId
    let subgroupId ← toU64 p.subgroupId
    let objectId ← toU64 p.objectId
    let publisherPriority ← toU8 p.publisherPriority
    return .object ⟨groupId, subgroupId, objectId, publisherPriority, p.forwardingPreference,
      properties, p.payload⟩
  | .endOfRange kind groupId objectId => do
    let group ← toU64 groupId
    let object ← toU64 objectId
    return .endOfRange kind ⟨group, object⟩

namespace FetchFlags

private theorem ofNumber_fin : ∀ n : Fin 128,
    ofNumber n.val = ofRust (Moqtail.FetchFlags.ofU8 (UInt8.ofNat n.val)) := by
  decide +kernel

theorem ofNumber_ofU64 {flagsRaw : UInt64} (h : flagsRaw < 128) :
    ofNumber (ofU64 flagsRaw).toNat = ofRust (Moqtail.FetchFlags.ofU8 flagsRaw.toUInt8) := by
  have hlt : flagsRaw.toNat < 128 := UInt64.lt_iff_toNat_lt.mp h
  have hbyte : UInt8.ofNat flagsRaw.toNat = flagsRaw.toUInt8 := by
    apply UInt8.toNat_inj.mp
    rw [UInt8.toNat_ofNat', UInt64.toNat_toUInt8]
  rw [ofU64, Int.toNat_natCast, ← hbyte]
  exact ofNumber_fin ⟨flagsRaw.toNat, hlt⟩

end FetchFlags

namespace FetchObject

open ByteBuffer (ReadsAs getVI_agrees getNumberVI_bind_agrees getBytes_agrees)

variable (flags : Moqtail.FetchFlags) (prev : Option Moqtail.FetchObjectContext)

theorem deserializeKind_agrees (flagsRaw : UInt64) :
    Agree (fun kind kind' => kind' = kind) (EndOfRangeKind.ofFlagValue flagsRaw)
      (deserializeKind (ofU64 flagsRaw)) := by
  have hvalue : ∀ v : UInt64, ofU64 flagsRaw = ofU64 v ↔ flagsRaw = v := fun v => ofU64_inj
  have h8c : ofU64 flagsRaw = 0x8c ↔ flagsRaw = 0x8C := hvalue 0x8C
  have h10c : ofU64 flagsRaw = 0x10c ↔ flagsRaw = 0x10C := hvalue 0x10C
  have h20c : ofU64 flagsRaw = 0x20c ↔ flagsRaw = 0x20C := hvalue 0x20C
  simp only [EndOfRangeKind.ofFlagValue, deserializeKind, h8c, h10c, h20c]
  split
  · exact .ok rfl
  · split
    · exact .ok rfl
    · split
      · exact .ok rfl
      · exact .error _ _

theorem checkFirst_agrees : Agree (fun _ _ => True) (Moqtail.FetchObject.checkFirst flags prev)
    (checkFirst (.ofRust flags) (prev.map .ofRust)) := by
  cases prev with
  | some pc => exact .ok trivial
  | none =>
    obtain ⟨mode, objectId, groupId, priority, properties, datagram⟩ := flags
    cases objectId <;> cases groupId <;> cases priority <;> cases datagram <;> cases mode <;>
      first
      | exact .ok trivial
      | exact .error _ _

/-- A sum or difference that both check to be a word. -/
theorem okOr_agrees {x : Int} {o : Option UInt64} {c : Prop} [Decidable c] (e : ParseError)
    (e' : Error) (rest : Bytes) (ho : o = toU64 x) (hc : c ↔ toU64 x = none) :
    Agree (ReadsAs ofU64)
      (do let v ← okOr o e; return (v, rest) : Parse (UInt64 × Bytes))
      (if c then .error e' else return (x, rest) : Result (Int × Bytes)) := by
  subst ho
  cases hx : toU64 x with
  | none =>
    rw [if_pos (hc.mpr hx)]
    exact .error _ _
  | some v =>
    rw [if_neg (by rw [hc, hx]; simp)]
    exact .ok ⟨toU64_eq_some.mp hx, rfl⟩

theorem checkedAdd_bind_succ (a b : UInt64) :
    ((checkedAdd a b).bind fun v => checkedAdd v 1) = toU64 (ofU64 a + ofU64 b + 1) := by
  have hone : ofU64 1 = 1 := rfl
  rw [checkedAdd_eq_toU64]
  cases h : toU64 (ofU64 a + ofU64 b) with
  | some v => rw [Option.bind_some, checkedAdd_eq_toU64, hone, toU64_eq_some.mp h]
  | none =>
    symm
    have hout := toU64_eq_none.mp h
    rw [Option.bind_none, toU64_eq_none]
    dsimp only [ofU64, maxU64] at hout ⊢
    omega

theorem checkedAdd_one_bind_sub (a b : UInt64) :
    ((checkedAdd b 1).bind fun step => checkedSub a step) = toU64 (ofU64 a - (ofU64 b + 1)) := by
  have hone : ofU64 1 = 1 := rfl
  have ha := a.toNat_lt
  rw [checkedAdd_eq_toU64, hone]
  cases h : toU64 (ofU64 b + 1) with
  | some v => rw [Option.bind_some, checkedSub_eq_toU64, toU64_eq_some.mp h]
  | none =>
    symm
    have hout := toU64_eq_none.mp h
    rw [Option.bind_none, toU64_eq_none]
    dsimp only [ofU64, maxU64] at hout ⊢
    omega

theorem deserializeGroupId_agrees (groupOrder : GroupOrder) (buf : Bytes) :
    Agree (ReadsAs ofU64) (Moqtail.FetchObject.deserializeGroupId flags prev groupOrder buf)
      (deserializeGroupId (.ofRust flags) (prev.map .ofRust) groupOrder buf) := by
  unfold Moqtail.FetchObject.deserializeGroupId deserializeGroupId
  have hflag : (FetchFlags.ofRust flags).hasGroupId = flags.hasGroupId := rfl
  rw [hflag]
  split
  · apply (getVI_agrees buf).bind
    rintro ⟨delta, rest'⟩ ⟨delta', rest⟩ - - ⟨hdelta, hrest⟩
    dsimp only at hdelta hrest
    subst hdelta hrest
    cases prev with
    | none => exact .ok ⟨rfl, rfl⟩
    | some pc =>
      cases groupOrder with
      | descending =>
        exact okOr_agrees _ _ _ (checkedAdd_one_bind_sub pc.groupId delta) toU64_eq_none.symm
      | ascending =>
        exact okOr_agrees _ _ _ (checkedAdd_bind_succ pc.groupId delta) toU64_eq_none.symm
      | original =>
        exact okOr_agrees _ _ _ (checkedAdd_bind_succ pc.groupId delta) toU64_eq_none.symm
  · cases prev with
    | none => exact .error _ _
    | some pc => exact .ok ⟨rfl, rfl⟩

/-- The Subgroup ID that would follow the largest one is asked for. -/
def WrapsSubgroupId (flags : Moqtail.FetchFlags) (prev : Option Moqtail.FetchObjectContext) : Prop :=
  flags.isDatagram = false ∧ flags.subgroupMode = .priorPlusOne ∧
    prev.bind (·.subgroupId) = some 0xFFFFFFFFFFFFFFFF

theorem deserializeSubgroupId_agrees (h : ¬ WrapsSubgroupId flags prev) (buf : Bytes) :
    Agree (ReadsAs ofU64) (Moqtail.FetchObject.deserializeSubgroupId flags prev buf)
      (deserializeSubgroupId (.ofRust flags) (prev.map .ofRust) buf) := by
  have hprior : (prev.map FetchObjectContext.ofRust).bind (·.subgroupId) =
      (prev.bind (·.subgroupId)).map ofU64 := by
    cases prev <;> rfl
  obtain ⟨mode, objectId, groupId, priority, properties, datagram⟩ := flags
  cases datagram with
  | true => exact .ok ⟨rfl, rfl⟩
  | false =>
    unfold Moqtail.FetchObject.deserializeSubgroupId deserializeSubgroupId
    rw [hprior]
    cases mode with
    | zero => exact .ok ⟨rfl, rfl⟩
    | prior =>
      cases prev.bind (·.subgroupId) with
      | none => exact .error _ _
      | some s => exact .ok ⟨rfl, rfl⟩
    | priorPlusOne =>
      cases hs : prev.bind (·.subgroupId) with
      | none => exact .error _ _
      | some s =>
        have hne : s.toNat ≠ 2 ^ 64 - 1 := by
          intro hmax
          have hs' : s = 0xFFFFFFFFFFFFFFFF := UInt64.toNat_inj.mp hmax
          exact h ⟨rfl, rfl, by rw [hs, hs']⟩
        have hlt := s.toNat_lt
        refine .ok ⟨?_, rfl⟩
        show (s.toNat : Int) + 1 = ((s + 1).toNat : Int)
        rw [UInt64.toNat_add]
        simp only [UInt64.reduceToNat]
        omega
    | present => exact getVI_agrees buf

theorem deserializeObjectId_agrees (buf : Bytes) :
    Agree (ReadsAs ofU64) (Moqtail.FetchObject.deserializeObjectId flags prev buf)
      (deserializeObjectId (.ofRust flags) (prev.map .ofRust) buf) := by
  have hout : ∀ a b : UInt64, ofU64 a + ofU64 b > maxU64 ↔ toU64 (ofU64 a + ofU64 b) = none := by
    intro a b
    rw [toU64_eq_none]
    dsimp only [ofU64]
    omega
  unfold Moqtail.FetchObject.deserializeObjectId deserializeObjectId
  have hflag : (FetchFlags.ofRust flags).hasObjectId = flags.hasObjectId := rfl
  have hgroup : (FetchFlags.ofRust flags).hasGroupId = flags.hasGroupId := rfl
  rw [hflag, hgroup]
  split
  · apply (getVI_agrees buf).bind
    rintro ⟨delta, rest'⟩ ⟨delta', rest⟩ - - ⟨hdelta, hrest⟩
    dsimp only at hdelta hrest
    subst hdelta hrest
    cases prev with
    | none => exact .ok ⟨rfl, rfl⟩
    | some pc =>
      dsimp only [Option.map_some]
      split
      · exact .ok ⟨rfl, rfl⟩
      · exact okOr_agrees _ _ _ (checkedAdd_eq_toU64 pc.objectId delta) (hout pc.objectId delta)
  · cases prev with
    | none => exact .error _ _
    | some pc =>
      exact okOr_agrees _ _ _ (checkedAdd_eq_toU64 pc.objectId 1) (hout pc.objectId 1)

theorem deserializePriority_agrees (buf : Bytes) :
    Agree (ReadsAs ofU8) (Moqtail.FetchObject.deserializePriority flags prev buf)
      (deserializePriority (.ofRust flags) (prev.map .ofRust) buf) := by
  have hprior : (prev.map FetchObjectContext.ofRust).bind (·.publisherPriority) =
      (prev.bind (·.publisherPriority)).map ofU8 := by
    cases prev <;> rfl
  unfold Moqtail.FetchObject.deserializePriority deserializePriority
  have hflag : (FetchFlags.ofRust flags).hasPriority = flags.hasPriority := rfl
  rw [hflag, hprior]
  split
  · cases buf with
    | nil => exact .error _ _
    | cons b rest => exact .ok ⟨rfl, rfl⟩
  · cases prev.bind (·.publisherPriority) with
    | none => exact .error _ _
    | some priority => exact .ok ⟨rfl, rfl⟩

/-- A length, and that many bytes: where the length is more than a `number` holds, more than the
buffer has left. -/
theorem lengthPrefixed_agrees (context : String) {buf : Bytes} (hbuf : buf.length ≤ maxSafeInteger) :
    Agree (ReadsAs id)
      (do let (len, buf) ← Moqtail.getVi buf; copyToBytes context len.toNat buf)
      (do let (len, buf) ← ByteBuffer.getNumberVI buf; ByteBuffer.getBytes len buf) := by
  apply getNumberVI_bind_agrees
  · intro len rest _ _
    exact getBytes_agrees context len.toNat rest
  · intro len rest hlen hlarge
    have hless := (getVi_consumes hlen).1
    have hshort : rest.length < len.toNat := by
      dsimp only [ofU64] at hlarge
      omega
    exact ⟨_, if_pos hshort⟩

theorem deserializePayload_agrees {buf : Bytes} (hbuf : buf.length ≤ maxSafeInteger) :
    Agree (ReadsAs id) (Moqtail.FetchObject.deserializePayload buf) (deserializePayload buf) :=
  lengthPrefixed_agrees _ hbuf

theorem deserializeProperties_converts {buf : Bytes} (hbuf : buf.length ≤ maxSafeInteger) :
    Converts (fun r => (propertiesToRust r.1).map (·, r.2))
      (Moqtail.FetchObject.deserializeProperties flags buf)
      (deserializeProperties (.ofRust flags) buf) := by
  unfold Moqtail.FetchObject.deserializeProperties deserializeProperties
  have hflag : (FetchFlags.ofRust flags).hasProperties = flags.hasProperties := rfl
  rw [hflag]
  split
  · have hext := lengthPrefixed_agrees "FetchObject::deserialize(properties)" hbuf
    have hkvps := hext.bind_converts (f := fun r => do
        let headers ← (deserializeObjectProperties r.1).mapError fun _ =>
          .protocolViolation "FetchObject::deserialize(properties)" "cannot parse object properties"
        return (some headers, r.2))
      (g := fun r => do
        let properties ← deserializeKvpListUntilEmpty r.1
        return (some properties, r.2))
      (T := fun r => (propertiesToRust r.1).map (·, r.2)) ?_
    · simpa only [bind_assoc] using hkvps
    · rintro ⟨ext, rest'⟩ ⟨ext', rest⟩ - - ⟨hext, hrest⟩
      dsimp only [id] at hext hrest
      subst hext hrest
      dsimp only
      have hlist := KeyValuePair.deserializeKvpListUntilEmpty_agrees ext'
      rw [deserializeObjectProperties]
      generalize Moqtail.deserializeKvpListUntilEmpty ext' = x at hlist ⊢
      generalize deserializeKvpListUntilEmpty ext' = y at hlist ⊢
      cases hlist with
      | error e d => rfl
      | @ok kvps kvps' hsame =>
        subst hsame
        show _ = (propertiesToRust (some (kvps.map KeyValuePair.ofRust))).map (·, rest)
        rw [propertiesToRust_ofRust, except_ok_bind]
        cases kvps.mapM ObjectProperty.deserialize <;> rfl
  · rfl

/-- The bytes ask for the Subgroup ID after the largest one. -/
def AsksToWrap (prev : Option Moqtail.FetchObjectContext) (bytes : Bytes) : Prop :=
  ∃ flagsRaw rest, Moqtail.getVi bytes = .ok (flagsRaw, rest) ∧ flagsRaw < 128 ∧
    WrapsSubgroupId (Moqtail.FetchFlags.ofU8 flagsRaw.toUInt8) prev

theorem shrinks_of_partial {α : Type} {dec : Decoder ParseError α} (h : Partial dec)
    {bytes rest : Bytes} {a : α} (hok : dec bytes = .ok (a, rest))
    (hbytes : bytes.length ≤ maxSafeInteger) : rest.length ≤ maxSafeInteger := by
  have hle := h.shrinks _ _ _ hok
  omega

theorem toRust_endOfRange (kind : EndOfRangeKind) (group object : UInt64) :
    toRust (.endOfRange kind (ofU64 group) (ofU64 object)) = some (.endOfRange kind ⟨group, object⟩) := by
  simp [toRust]

theorem toRust_object {p : Moqtail.FetchObjectPayload} {properties : Option (List KeyValuePair)}
    {properties' : Option (List ObjectProperty)}
    (h : propertiesToRust properties = some properties') :
    toRust (.object (.ofRust p properties)) = some (.object { p with properties := properties' }) := by
  simp [toRust, FetchObjectPayload.ofRust, h]

theorem toRust_object_none {p : FetchObjectPayload} (h : propertiesToRust p.properties = none) :
    toRust (.object p) = none := by
  simp [toRust, h]

theorem deserialize_converts (groupOrder : GroupOrder) {bytes : Bytes}
    (hbytes : bytes.length ≤ maxSafeInteger) (hwraps : ¬ AsksToWrap prev bytes) :
    Converts (fun r => (toRust r.1).map (·, r.2)) (Moqtail.FetchObject.deserialize prev groupOrder bytes)
      (deserialize (prev.map .ofRust) groupOrder bytes) := by
  unfold Moqtail.FetchObject.deserialize deserialize
  apply (getVI_agrees bytes).bind_converts
  rintro ⟨flagsRaw, b'⟩ ⟨flagsRaw', b⟩ hraw - ⟨hflagsRaw, hb⟩
  dsimp only at hflagsRaw hb
  subst hflagsRaw hb
  have hlen := shrinks_of_partial getVi_incremental hraw hbytes
  have hiff : ofU64 flagsRaw ≥ 128 ↔ flagsRaw ≥ 128 := by
    have h128 : (128 : UInt64).toNat = 128 := rfl
    rw [ge_iff_le, ge_iff_le, UInt64.le_iff_toNat_le, h128]
    exact Int.ofNat_le (m := 128)
  dsimp only
  by_cases hmarker : flagsRaw ≥ 128
  · rw [if_pos hmarker, if_pos (hiff.mpr hmarker)]
    apply (deserializeKind_agrees flagsRaw).bind_converts
    rintro kind kind' - - rfl
    apply (getVI_agrees b).bind_converts
    rintro ⟨group, b₁'⟩ ⟨group', b₁⟩ - - ⟨hgroup, hb₁⟩
    dsimp only at hgroup hb₁
    subst hgroup hb₁
    apply (getVI_agrees b₁).bind_converts
    rintro ⟨object, b₂'⟩ ⟨object', b₂⟩ - - ⟨hobject, hb₂⟩
    dsimp only at hobject hb₂
    subst hobject hb₂
    rw [except_pure, except_pure]
    apply Converts.ok
    rw [toRust_endOfRange, Option.map_some]
  · rw [if_neg hmarker, if_neg (hiff.not.mpr hmarker)]
    have hsmall : flagsRaw < 128 := UInt64.not_le.mp hmarker
    rw [FetchFlags.ofNumber_ofU64 hsmall]
    have hfits : ¬ WrapsSubgroupId (Moqtail.FetchFlags.ofU8 flagsRaw.toUInt8) prev :=
      fun h => hwraps ⟨flagsRaw, b, hraw, hsmall, h⟩
    generalize Moqtail.FetchFlags.ofU8 flagsRaw.toUInt8 = flags at hfits ⊢
    apply (checkFirst_agrees flags prev).bind_converts
    rintro - - - - -
    apply (deserializeGroupId_agrees flags prev groupOrder b).bind_converts
    rintro ⟨group, b₁'⟩ ⟨group', b₁⟩ hgroupId - ⟨hgroup, hb₁⟩
    dsimp only at hgroup hb₁
    subst hgroup hb₁
    have hlen₁ := shrinks_of_partial (Moqtail.FetchObject.deserializeGroupId_incremental flags prev groupOrder) hgroupId hlen
    apply (deserializeSubgroupId_agrees flags prev hfits b₁).bind_converts
    rintro ⟨subgroup, b₂'⟩ ⟨subgroup', b₂⟩ hsubgroupId - ⟨hsubgroup, hb₂⟩
    dsimp only at hsubgroup hb₂
    subst hsubgroup hb₂
    have hlen₂ := shrinks_of_partial (Moqtail.FetchObject.deserializeSubgroupId_incremental flags prev) hsubgroupId hlen₁
    apply (deserializeObjectId_agrees flags prev b₂).bind_converts
    rintro ⟨object, b₃'⟩ ⟨object', b₃⟩ hobjectId - ⟨hobject, hb₃⟩
    dsimp only at hobject hb₃
    subst hobject hb₃
    have hlen₃ := shrinks_of_partial (Moqtail.FetchObject.deserializeObjectId_incremental flags prev) hobjectId hlen₂
    apply (deserializePriority_agrees flags prev b₃).bind_converts
    rintro ⟨priority, b₄'⟩ ⟨priority', b₄⟩ hpriorityRead - ⟨hpriority, hb₄⟩
    dsimp only at hpriority hb₄
    subst hpriority hb₄
    have hlen₄ := shrinks_of_partial (Moqtail.FetchObject.deserializePriority_incremental flags prev) hpriorityRead hlen₃
    have hdatagram : (FetchFlags.ofRust flags).isDatagram = flags.isDatagram := rfl
    rw [hdatagram]
    apply (deserializeProperties_converts flags hlen₄).bind
    · rintro ⟨properties, b₅'⟩ ⟨properties', b₅⟩ hpropertiesRead - hproperties
      obtain ⟨p, hp, hpair⟩ := Option.map_eq_some_iff.mp hproperties
      cases hpair
      have hlen₅ := shrinks_of_partial (Moqtail.FetchObject.deserializeProperties_incremental flags)
        hpropertiesRead hlen₄
      apply (deserializePayload_agrees hlen₅).bind_converts
      rintro ⟨payload, b₆'⟩ ⟨payload', b₆⟩ - - ⟨hpayload, hb₆⟩
      dsimp only [id] at hpayload hb₆
      subst hpayload hb₆
      have hentry := toRust_object (p := ⟨group, if flags.isDatagram then object else subgroup, object,
        priority, if flags.isDatagram then .datagram else .subgroup, properties, payload'⟩) hp
      rw [FetchObjectPayload.ofRust, apply_ite ofU64] at hentry
      rw [except_pure, except_pure]
      apply Converts.ok
      dsimp only
      rw [hentry, Option.map_some]
    · rintro ⟨properties', b₅⟩ ⟨e, rest⟩ - hproperties hok
      obtain ⟨⟨payload, b₆⟩, -, hret⟩ := except_bind_eq_ok.mp hok
      cases hret
      have hnone : propertiesToRust properties' = none := by simpa using hproperties
      dsimp only
      rw [toRust_object_none hnone]
      rfl

/-- The entries of a stream of the Rust library from a context on. -/
def serializeAllRust (groupOrder : GroupOrder) (prev : Option Moqtail.FetchObjectContext)
    (entries : List Moqtail.FetchObject) : Parse Bytes :=
  encodeAll (fun prev e => some (Moqtail.FetchObject.nextContext e prev))
    (fun prev e => e.serialize prev groupOrder) prev entries

/-- Both write the same bytes for the same entries, and read the same entry off the same bytes:
what the Rust library reads is what the TypeScript library reads with its properties read on. -/
theorem codecs_agree (groupOrder : GroupOrder) (prev : Option Moqtail.FetchObjectContext) :
    (∀ (entries : List Moqtail.FetchObject) (entries' : List FetchObject) (out out' : Bytes),
      entries.mapM FetchObject.ofRust = .ok entries' →
      serializeAllRust groupOrder prev entries = .ok out →
      serializeAll groupOrder (prev.map .ofRust) entries' = .ok out' → out = out') ∧
    (∀ buf : Uint8Array, ¬ AsksToWrap prev buf.bytes →
      (Moqtail.FetchObject.deserialize prev groupOrder buf.bytes).toOption =
        (deserialize (prev.map .ofRust) groupOrder buf.bytes).toOption.bind fun (t, rest) =>
          t.toRust.map fun e => (e, rest)) := by
  constructor
  · intro entries entries' out out' hentries hout hout'
    have hsame := serializeAll_ofRust (mapM_eq_ok_iff.mp hentries) prev out' hout'
    exact Except.ok.inj (hout.symm.trans hsame)
  · intro buf hwraps
    exact deserialize_converts prev groupOrder buf.length_le hwraps

/-- An Object with a property after a marker, out and in again. -/
theorem codecs_agree_marker :
    (serializeAllRust .ascending none [.endOfRange .unknown ⟨2, 3⟩,
        .object ⟨2, 1, 4, 128, .subgroup, some [.priorGroupIdGap 2], [7]⟩]).toOption =
      (serializeAll .ascending none [.endOfRange .unknown 2 3,
        .object ⟨2, 1, 4, 128, .subgroup, some [⟨0x3C, .bigint 2⟩], [7]⟩]).toOption ∧
    (Moqtail.FetchObject.deserialize (some ⟨2, none, 3, none⟩) .ascending
        [0x33, 1, 128, 2, 0x3C, 2, 1, 7]).toOption =
      (deserialize (some ⟨2, none, 3, none⟩) .ascending
        [0x33, 1, 128, 2, 0x3C, 2, 1, 7]).toOption.bind fun (t, rest) =>
          t.toRust.map fun e => (e, rest) := by
  constructor
  · obtain ⟨out, hout⟩ : ∃ out, serializeAllRust .ascending none [.endOfRange .unknown ⟨2, 3⟩,
        .object ⟨2, 1, 4, 128, .subgroup, some [.priorGroupIdGap 2], [7]⟩] = .ok out := ⟨_, rfl⟩
    obtain ⟨out', hout'⟩ : ∃ out', serializeAll .ascending none [.endOfRange .unknown 2 3,
        .object ⟨2, 1, 4, 128, .subgroup, some [⟨0x3C, .bigint 2⟩], [7]⟩] = .ok out' := ⟨_, rfl⟩
    have hsame := (codecs_agree .ascending none).1 _ _ out out' rfl hout hout'
    rw [hout, hout', hsame]
    rfl
  · apply (codecs_agree .ascending (some ⟨2, none, 3, none⟩)).2
      ⟨[0x33, 1, 128, 2, 0x3C, 2, 1, 7], by decide⟩
    rintro ⟨flagsRaw, rest, hread, -, -, hmode, -⟩
    cases hread
    revert hmode
    decide

/-- Immutable Properties whose value is no list of pairs: the Rust library reads no Object, the
TypeScript library one that holds the value. -/
theorem not_decoders_agree : ¬ ∀ (groupOrder : GroupOrder)
    (prev : Option Moqtail.FetchObjectContext) (buf : Uint8Array),
    Agree (fun r r' => r'.2 = r.2 ∧ r'.1.toRust = some r.1)
      (Moqtail.FetchObject.deserialize prev groupOrder buf.bytes)
      (deserialize (prev.map .ofRust) groupOrder buf.bytes) := by
  intro h
  have hagree := h .ascending none ⟨[0x3C, 0, 0, 128, 3, 0x0B, 1, 2, 0], by decide⟩
  have hrust : ∃ e, Moqtail.FetchObject.deserialize none .ascending
      [0x3C, 0, 0, 128, 3, 0x0B, 1, 2, 0] = .error e := ⟨_, rfl⟩
  have hts : ∃ r, deserialize none .ascending [0x3C, 0, 0, 128, 3, 0x0B, 1, 2, 0] = .ok r :=
    ⟨_, rfl⟩
  obtain ⟨e, he⟩ := hrust
  obtain ⟨r, hr⟩ := hts
  simp only [Option.map_none, he, hr] at hagree
  cases hagree

end FetchObject

end Moqtail.Ts
