import Moqtail.Transport.RecvDataStream
import Moqtail.Ts.FetchAgreement
import Moqtail.Ts.RecvStream
import Moqtail.Ts.SubgroupReading

/-! A data stream, read by both libraries.

What the Rust library's read task takes off a stream, the TypeScript library takes off it too, in
whatever pieces it comes to either. Only the Rust library refuses streams on account of what the
Objects in them say. -/
namespace Moqtail

/-! IDs that have not passed the largest word. -/

namespace DataStreamItem

def objectId : DataStreamItem → UInt64
  | .object o => o.location.object
  | .endOfRange _ location => location.object

/-- The Subgroup ID that the next Object may refer to, which of a datagram is its Object ID. -/
def subgroupIdOrObjectId : DataStreamItem → Option UInt64
  | .object o => some (o.subgroupId.getD o.location.object)
  | .endOfRange _ _ => none

end DataStreamItem

/-- The Object IDs of a subgroup ascend, and on a FETCH stream no Object has the Subgroup ID behind
which the next one would start over. -/
def Unwrapped (headerInfo : Option HeaderInfo) (items : List DataStreamItem) : Prop :=
  match headerInfo with
  | some (.fetch _ _) => ∀ item ∈ items, item.subgroupIdOrObjectId ≠ some 0xFFFFFFFFFFFFFFFF
  | some (.subgroup _) => items.Pairwise fun a b => a.objectId < b.objectId
  | none => True

end Moqtail

namespace Moqtail.Ts

open Lib

/-! Headers. -/

namespace SubgroupHeaderType

private theorem bits_fin : ∀ x : Fin 256,
    ∀ h : UInt8.ofNat x.val &&& 0x80 = 0 ∧ UInt8.ofNat x.val &&& 0x10 ≠ 0 ∧
      UInt8.ofNat x.val &&& 0x06 ≠ 0x06,
      let t : Moqtail.SubgroupHeaderType := ⟨UInt8.ofNat x.val, h⟩
      hasProperties x.val = t.hasProperties ∧ hasExplicitSubgroupId x.val = t.hasExplicitSubgroupId ∧
        isSubgroupIdZero x.val = t.subgroupIdIsZero ∧
        isSubgroupIdFirstObjectId x.val = t.subgroupIdIsFirstObjectId ∧
        hasDefaultPriority x.val = t.hasDefaultPriority ∧ tryFrom x.val = .ok x.val ∧
        (x.val % 2 ^ 32) &&& 0x10 ≠ 0 ∧ (x.val % 2 ^ 32) &&& 0x80 = 0 ∧ x.val ≠ 0x05 := by
  decide +kernel

variable (t : Moqtail.SubgroupHeaderType)

theorem bits_value :
    hasProperties t.value.toNat = t.hasProperties ∧
    hasExplicitSubgroupId t.value.toNat = t.hasExplicitSubgroupId ∧
    isSubgroupIdZero t.value.toNat = t.subgroupIdIsZero ∧
    isSubgroupIdFirstObjectId t.value.toNat = t.subgroupIdIsFirstObjectId ∧
    hasDefaultPriority t.value.toNat = t.hasDefaultPriority ∧
    tryFrom t.value.toNat = .ok t.value.toNat ∧ (t.value.toNat % 2 ^ 32) &&& 0x10 ≠ 0 ∧
    (t.value.toNat % 2 ^ 32) &&& 0x80 = 0 ∧ t.value.toNat ≠ 0x05 := by
  obtain ⟨value, hvalid⟩ := t
  have hbits := bits_fin ⟨value.toNat, value.toNat_lt⟩
  simp only [UInt8.ofNat_toNat] at hbits
  exact hbits hvalid

theorem value_of_tryNew {value : UInt64} {t : Moqtail.SubgroupHeaderType}
    (h : Moqtail.SubgroupHeaderType.tryNew value = .ok t) : value.toNat = t.value.toNat := by
  unfold Moqtail.SubgroupHeaderType.tryNew at h
  split at h
  · cases h
  next hsmall =>
    split at h
    · cases h
    · split at h
      · cases h
      · cases h
        have hlt : value.toNat < 256 := by
          have := (not_or.mp hsmall).1
          omega
        rw [UInt64.toNat_toUInt8, Nat.mod_eq_of_lt hlt]

end SubgroupHeaderType

/-- The header in the types of the Rust library, without the request it belongs to. -/
def SubgroupHeader.ofRust (h : Moqtail.SubgroupHeader) : SubgroupHeader where
  type := h.headerType.value.toNat
  trackAlias := ofU64 h.trackAlias
  groupId := ofU64 h.groupId
  subgroupId := h.subgroupId.map ofU64
  publisherPriority := h.publisherPriority.map ofU8

def Header.ofRust : HeaderInfo → Header
  | .fetch header _ => .fetch ⟨ofU64 header.requestId⟩
  | .subgroup header => .subgroup (.ofRust header)

namespace SubgroupHeader

theorem readSubgroupId_agrees (t : Moqtail.SubgroupHeaderType) (buf : Bytes) :
    Agree (ByteBuffer.ReadsAs (·.map ofU64)) (Moqtail.SubgroupHeader.deserializeSubgroupId t buf)
      (readSubgroupId t.value.toNat buf) := by
  obtain ⟨-, hexplicit, hzero, -⟩ := SubgroupHeaderType.bits_value t
  unfold Moqtail.SubgroupHeader.deserializeSubgroupId readSubgroupId
  rw [hexplicit, hzero]
  split
  · apply (ByteBuffer.getVI_agrees buf).bind
    rintro ⟨id, rest⟩ ⟨id', rest'⟩ - - ⟨hid, hrest⟩
    dsimp only at hid hrest
    subst hid hrest
    exact .ok ⟨rfl, rfl⟩
  · split
    · exact .ok ⟨rfl, rfl⟩
    · exact .ok ⟨rfl, rfl⟩

theorem readPriority_agrees (t : Moqtail.SubgroupHeaderType) (buf : Bytes) :
    Agree (ByteBuffer.ReadsAs (·.map ofU8)) (Moqtail.SubgroupHeader.deserializePriority t buf)
      (readPriority t.value.toNat buf) := by
  obtain ⟨-, -, -, -, hdefault, -⟩ := SubgroupHeaderType.bits_value t
  unfold Moqtail.SubgroupHeader.deserializePriority readPriority
  rw [hdefault]
  split
  · exact .ok ⟨rfl, rfl⟩
  · cases buf with
    | nil => exact .error _ _
    | cons b rest => exact .ok ⟨rfl, rfl⟩

/-- A header that the Rust library reads. -/
theorem deserialize_ofRust {buf rest : Bytes} {h : Moqtail.SubgroupHeader}
    (hread : Moqtail.SubgroupHeader.deserialize buf = .ok (h, rest)) :
    Header.deserialize buf = .ok (.subgroup (.ofRust h), rest) := by
  obtain ⟨⟨value, b₁⟩, hvalue, hread⟩ := except_bind_eq_ok.mp hread
  obtain ⟨t, ht, hread⟩ := except_bind_eq_ok.mp hread
  obtain ⟨⟨trackAlias, b₂⟩, halias, hread⟩ := except_bind_eq_ok.mp hread
  obtain ⟨⟨groupId, b₃⟩, hgroup, hread⟩ := except_bind_eq_ok.mp hread
  obtain ⟨⟨subgroupId, b₄⟩, hsubgroup, hread⟩ := except_bind_eq_ok.mp hread
  obtain ⟨⟨priority, b₅⟩, hpriority, hret⟩ := except_bind_eq_ok.mp hread
  cases hret
  have htype : ofU64 value = (t.value.toNat : Int) :=
    congrArg Nat.cast (SubgroupHeaderType.value_of_tryNew ht)
  obtain ⟨-, -, -, -, -, htry, hrequired, hinvalid, hfetch⟩ := SubgroupHeaderType.bits_value t
  have hlt := t.value.toNat_lt
  have hnumber : ByteBuffer.getNumberVI buf = .ok ((t.value.toNat : Int), b₁) := by
    rw [ByteBuffer.getNumberVI, ByteBuffer.eq_ok_of_agrees (ByteBuffer.getVI_agrees buf) hvalue,
      except_ok_bind]
    dsimp only
    rw [htype, if_neg (by unfold maxSafeInteger; omega)]
    rfl
  have hheader : deserialize buf = .ok (.ofRust ⟨t, trackAlias, groupId, subgroupId, priority⟩, rest) := by
    rw [deserialize, hnumber, except_ok_bind]
    dsimp only
    rw [htry, except_ok_bind, ByteBuffer.eq_ok_of_agrees (ByteBuffer.getVI_agrees b₁) halias,
      except_ok_bind]
    dsimp only
    rw [ByteBuffer.eq_ok_of_agrees (ByteBuffer.getVI_agrees b₂) hgroup, except_ok_bind]
    dsimp only
    rw [ByteBuffer.eq_ok_of_agrees (readSubgroupId_agrees t b₃) hsubgroup, except_ok_bind]
    dsimp only
    rw [ByteBuffer.eq_ok_of_agrees (readPriority_agrees t b₄) hpriority]
    rfl
  rw [Header.deserialize, hnumber, except_ok_bind]
  dsimp only
  rw [Header.deserializeOf, if_neg (by omega), Int.toNat_natCast, if_pos ⟨hrequired, hinvalid⟩,
    Header.deserializeSubgroup, hheader]
  rfl

end SubgroupHeader

theorem Header.deserialize_ofRust {pendingFetches : UInt64 → Option GroupOrder} {buf rest : Bytes}
    {info : HeaderInfo} (h : RecvDataStream.readHeader pendingFetches buf = .ok (info, rest)) :
    Header.deserialize buf = .ok (.ofRust info, rest) := by
  cases buf with
  | nil => cases h
  | cons b buf =>
    by_cases hb : b = 0x05
    · subst hb
      rw [RecvDataStream.readHeader_fetch] at h
      obtain ⟨⟨requestId, left⟩, hid, hret⟩ := except_bind_eq_ok.mp h
      cases hret
      have hid' := ByteBuffer.eq_ok_of_agrees (ByteBuffer.getVI_agrees buf) (except_mapError_eq_ok.mp hid)
      have htype : ByteBuffer.getVI (5 :: buf) = .ok (5, buf) := rfl
      have hnumber : ByteBuffer.getNumberVI (5 :: buf) = .ok (5, buf) := rfl
      rw [Header.deserialize, hnumber, except_ok_bind]
      dsimp only
      rw [Header.deserializeOf, if_pos rfl, Header.deserializeFetch, FetchHeader.deserialize, htype,
        except_ok_bind]
      dsimp only
      rw [if_neg (not_not_intro rfl), hid']
      rfl
    · rw [RecvDataStream.readHeader, if_neg (by simpa using hb)] at h
      obtain ⟨⟨header, left⟩, hheader, hret⟩ := except_bind_eq_ok.mp h
      cases hret
      exact SubgroupHeader.deserialize_ofRust (except_mapError_eq_ok.mp hheader)

/-! Objects of a subgroup. -/

theorem ByteBuffer.getNumberVI_ofRust {buf rest : Bytes} {v : UInt64}
    (h : Moqtail.getVi buf = .ok (v, rest)) (hsmall : ofU64 v ≤ maxSafeInteger) :
    getNumberVI buf = .ok (ofU64 v, rest) := by
  rw [getNumberVI, eq_ok_of_agrees (getVI_agrees buf) h, except_ok_bind]
  dsimp only
  rw [if_neg (not_lt_of_ge hsmall)]
  rfl

/-- So many bytes as there are: their number is one that a `number` holds. -/
theorem ByteBuffer.getBytes_ofRust {context : String} {buf value rest : Bytes} {len : UInt64}
    (hbuf : (buf.length : Int) ≤ maxSafeInteger)
    (h : copyToBytes context len.toNat buf = .ok (value, rest)) :
    ofU64 len ≤ maxSafeInteger ∧ getBytes (ofU64 len) buf = .ok (value, rest) := by
  refine ⟨?_, eq_ok_of_agrees (getBytes_agrees context len.toNat buf) h⟩
  obtain ⟨hlen, rfl⟩ := copyToBytes_eq_ok h
  rw [List.length_append] at hbuf
  dsimp only [ofU64]
  omega

/-- The pairs of a property list that the Rust library reads. -/
theorem deserializeKvpList_ofRust {ext : Bytes} {properties : List ObjectProperty}
    (h : deserializeObjectProperties ext = .ok properties) :
    ∃ kvps, deserializeKvpListUntilEmpty ext = .ok kvps ∧ readProperties kvps = some properties := by
  obtain ⟨kvps, hkvps, hproperties⟩ := except_bind_eq_ok.mp h
  have hagrees := KeyValuePair.deserializeKvpListUntilEmpty_agrees ext
  rw [hkvps] at hagrees
  generalize deserializeKvpListUntilEmpty ext = result at hagrees
  cases hagrees with
  | ok hsame =>
    subst hsame
    refine ⟨_, rfl, ?_⟩
    rw [readProperties, KeyValuePair.mapM_toRust_ofRust]
    show (kvps.mapM ObjectProperty.deserialize).toOption = _
    rw [hproperties]
    rfl

namespace SubgroupObject

/-- The Object is the one that the Rust library reads: absent properties are empty ones. -/
structure IsRead (o : Moqtail.SubgroupObject) (o' : SubgroupObject) : Prop where
  objectId : o'.objectId = ofU64 o.objectId
  properties : readProperties (o'.properties.getD []) = some (o.properties.getD [])
  objectStatus : o'.objectStatus = o.objectStatus
  payload : o'.payload = o.payload

theorem getD_normalizeProperties (properties : Option (List KeyValuePair)) :
    (normalizeProperties properties).getD [] = properties.getD [] := by
  cases properties with
  | none => rfl
  | some kvps => cases kvps <;> rfl

theorem deserializeProperties_ofRust {hasProperties : Bool} {buf rest : Bytes}
    {properties : Option (List ObjectProperty)} (hbuf : (buf.length : Int) ≤ maxSafeInteger)
    (h : Moqtail.SubgroupObject.deserializeProperties hasProperties buf = .ok (properties, rest)) :
    ∃ properties', deserializeProperties hasProperties buf = .ok (properties', rest) ∧
      readProperties (properties'.getD []) = some (properties.getD []) := by
  unfold Moqtail.SubgroupObject.deserializeProperties at h
  unfold deserializeProperties
  cases hasProperties with
  | false =>
    cases h
    exact ⟨none, rfl, rfl⟩
  | true =>
    simp only [if_true] at h ⊢
    obtain ⟨⟨extLen, left⟩, hlen, h⟩ := except_bind_eq_ok.mp h
    have hleft := FetchObject.shrinks_of_partial getVi_incremental hlen hbuf
    simp only at h
    split at h
    · obtain ⟨⟨ext, left'⟩, hext, h⟩ := except_bind_eq_ok.mp h
      obtain ⟨headers, hheaders, hret⟩ := except_bind_eq_ok.mp h
      cases hret
      obtain ⟨hsmall, hbytes⟩ := ByteBuffer.getBytes_ofRust hleft hext
      obtain ⟨kvps, hkvps, hread⟩ := deserializeKvpList_ofRust (except_mapError_eq_ok.mp hheaders)
      refine ⟨some kvps, ?_, hread⟩
      rw [ByteBuffer.getNumberVI_ofRust hlen hsmall, except_ok_bind]
      dsimp only
      rw [hbytes, except_ok_bind]
      dsimp only
      rw [hkvps]
      rfl
    next hzero =>
      cases h
      have hlen0 : extLen = 0 := UInt64.toNat_inj.mp (Nat.eq_zero_of_not_pos hzero)
      subst hlen0
      refine ⟨some [], ?_, rfl⟩
      rw [ByteBuffer.getNumberVI_ofRust hlen (by decide), except_ok_bind]
      rfl

theorem statusFrom_ofRust {raw : UInt64} {status : ObjectStatus}
    (h : Moqtail.ObjectStatus.tryFrom raw = .ok status) : statusFrom (ofU64 raw) = .ok status := by
  have hiff : ∀ v : UInt64, ofU64 raw = ofU64 v ↔ raw = v := fun v => ofU64_inj
  have h0 : ofU64 0 = 0x0 := rfl
  have h3 : ofU64 3 = 0x3 := rfl
  have h4 : ofU64 4 = 0x4 := rfl
  unfold Moqtail.ObjectStatus.tryFrom at h
  unfold statusFrom
  simp only [← h0, ← h3, ← h4, hiff]
  split at h
  · cases h
    rw [if_pos (by assumption)]
  · rw [if_neg (by assumption)]
    split at h
    · cases h
      rw [if_pos (by assumption)]
    · rw [if_neg (by assumption)]
      split at h
      · cases h
        rw [if_pos (by assumption)]
      · cases h

theorem deserializeBody_ofRust {buf rest : Bytes} {body : Option ObjectStatus × Option Bytes}
    (hbuf : (buf.length : Int) ≤ maxSafeInteger)
    (h : Moqtail.SubgroupObject.deserializeBody buf = .ok (body, rest)) :
    deserializeBody buf = .ok (body, rest) := by
  unfold Moqtail.SubgroupObject.deserializeBody at h
  obtain ⟨⟨payloadLen, left⟩, hlen, h⟩ := except_bind_eq_ok.mp h
  have hleft := FetchObject.shrinks_of_partial getVi_incremental hlen hbuf
  simp only at h
  unfold deserializeBody
  split at h
  next hzero =>
    subst hzero
    obtain ⟨⟨raw, left'⟩, hraw, h⟩ := except_bind_eq_ok.mp h
    obtain ⟨status, hstatus, hret⟩ := except_bind_eq_ok.mp h
    cases hret
    have hzero : ofU64 0 = 0 := rfl
    rw [ByteBuffer.getNumberVI_ofRust hlen (by decide), except_ok_bind]
    dsimp only
    rw [if_pos hzero, ByteBuffer.eq_ok_of_agrees (ByteBuffer.getVI_agrees left) hraw, except_ok_bind]
    dsimp only
    rw [statusFrom_ofRust hstatus]
    rfl
  next hne =>
    obtain ⟨⟨payload, left'⟩, hpayload, hret⟩ := except_bind_eq_ok.mp h
    cases hret
    obtain ⟨hsmall, hbytes⟩ := ByteBuffer.getBytes_ofRust hleft hpayload
    have hne' : ofU64 payloadLen ≠ 0 := fun hzero => hne (ofU64_inj.mp hzero)
    rw [ByteBuffer.getNumberVI_ofRust hlen hsmall, except_ok_bind]
    dsimp only
    rw [if_neg hne', hbytes]
    rfl

/-- The ID after an ID that is smaller has not passed the largest word. -/
theorem objectIdFrom_ofRust {delta : UInt64} {previous : Option UInt64}
    (h : ∀ p, previous = some p → p < Moqtail.SubgroupObject.objectIdFrom delta previous) :
    objectIdFrom (ofU64 delta) (previous.map ofU64) =
      ofU64 (Moqtail.SubgroupObject.objectIdFrom delta previous) := by
  cases previous with
  | none => rfl
  | some p =>
    have hlt := UInt64.lt_iff_toNat_lt.mp (h p rfl)
    have hp := p.toNat_lt
    have hdelta := delta.toNat_lt
    simp only [Moqtail.SubgroupObject.objectIdFrom, UInt64.toNat_add] at hlt
    simp only [objectIdFrom, Option.map_some, Moqtail.SubgroupObject.objectIdFrom, ofU64,
      UInt64.toNat_add]
    have hone : (1 : UInt64).toNat = 1 := rfl
    rw [hone] at hlt ⊢
    omega

theorem deserialize_ofRust {hasProperties : Bool} {previous : Option UInt64} {buf rest : Bytes}
    {o : Moqtail.SubgroupObject} (hbuf : (buf.length : Int) ≤ maxSafeInteger)
    (h : Moqtail.SubgroupObject.deserialize buf previous hasProperties = .ok (o, rest))
    (hid : ∀ p, previous = some p → p < o.objectId) :
    ∃ o', deserialize hasProperties (previous.map ofU64) buf = .ok (o', rest) ∧ IsRead o o' := by
  obtain ⟨⟨delta, b₁⟩, hdelta, h⟩ := except_bind_eq_ok.mp h
  obtain ⟨⟨properties, b₂⟩, hproperties, h⟩ := except_bind_eq_ok.mp h
  obtain ⟨⟨⟨objectStatus, payload⟩, b₃⟩, hbody, hret⟩ := except_bind_eq_ok.mp h
  cases hret
  have h₁ := FetchObject.shrinks_of_partial getVi_incremental hdelta hbuf
  have h₂ := FetchObject.shrinks_of_partial
    (Moqtail.SubgroupObject.deserializeProperties_incremental hasProperties) hproperties h₁
  obtain ⟨properties', hproperties', hread⟩ := deserializeProperties_ofRust h₁ hproperties
  refine ⟨⟨_, normalizeProperties properties', objectStatus, payload⟩, ?_, objectIdFrom_ofRust hid,
    ?_, rfl, rfl⟩
  · rw [deserialize, ByteBuffer.eq_ok_of_agrees (ByteBuffer.getVI_agrees buf) hdelta, except_ok_bind]
    dsimp only
    rw [hproperties', except_ok_bind]
    dsimp only
    rw [deserializeBody_ofRust h₂ hbody]
    rfl
  · rw [getD_normalizeProperties]
    exact hread

end SubgroupObject

/-! Entries of a FETCH stream. -/

namespace FetchObject

theorem deserializeGroupId_order {flags : FetchFlags} {prev : Option FetchObjectContext}
    {order order' : GroupOrder} (horder : order = .descending ↔ order' = .descending) {buf : Bytes}
    {r : Int × Bytes} (h : deserializeGroupId flags prev order buf = .ok r) :
    deserializeGroupId flags prev order' buf = .ok r := by
  unfold deserializeGroupId at h ⊢
  split at h
  · obtain ⟨⟨delta, left⟩, hdelta, h⟩ := except_bind_eq_ok.mp h
    rw [if_pos (by assumption), hdelta, except_ok_bind]
    cases prev with
    | none => exact h
    | some pc =>
      simp only [horder] at h
      dsimp only
      generalize (if order' = .descending then pc.groupId - (delta + 1) else pc.groupId + delta + 1) =
        groupId at h ⊢
      split at h
      · cases h
      · rw [if_neg (by assumption)]
        exact h
  · rw [if_neg (by assumption)]
    exact h

/-- The order counts only as descending or not. -/
theorem deserialize_order {prev : Option FetchObjectContext} {order order' : GroupOrder}
    (horder : order = .descending ↔ order' = .descending) {buf : Bytes} {r : FetchObject × Bytes}
    (h : deserialize prev order buf = .ok r) : deserialize prev order' buf = .ok r := by
  unfold deserialize at h ⊢
  obtain ⟨⟨flagsRaw, left⟩, hflags, h⟩ := except_bind_eq_ok.mp h
  rw [hflags, except_ok_bind]
  dsimp only at h ⊢
  split at h
  · rw [if_pos (by assumption)]
    exact h
  · obtain ⟨u, hfirst, h⟩ := except_bind_eq_ok.mp h
    obtain ⟨group, hgroup, h⟩ := except_bind_eq_ok.mp h
    rw [if_neg (by assumption), hfirst, except_ok_bind, deserializeGroupId_order horder hgroup,
      except_ok_bind]
    exact h

theorem subgroupId_of_datagram {prev : Option Moqtail.FetchObjectContext} {order : GroupOrder}
    {buf rest : Bytes} {p : Moqtail.FetchObjectPayload}
    (h : Moqtail.FetchObject.deserialize prev order buf = .ok (.object p, rest))
    (hdatagram : p.forwardingPreference ≠ .subgroup) : p.subgroupId = p.objectId := by
  unfold Moqtail.FetchObject.deserialize at h
  obtain ⟨⟨flagsRaw, b⟩, -, h⟩ := except_bind_eq_ok.mp h
  dsimp only at h
  split at h
  · obtain ⟨kind, -, h⟩ := except_bind_eq_ok.mp h
    obtain ⟨group, -, h⟩ := except_bind_eq_ok.mp h
    obtain ⟨object, -, h⟩ := except_bind_eq_ok.mp h
    cases h
  · obtain ⟨u, -, h⟩ := except_bind_eq_ok.mp h
    obtain ⟨group, -, h⟩ := except_bind_eq_ok.mp h
    obtain ⟨subgroup, -, h⟩ := except_bind_eq_ok.mp h
    obtain ⟨object, -, h⟩ := except_bind_eq_ok.mp h
    obtain ⟨priority, -, h⟩ := except_bind_eq_ok.mp h
    obtain ⟨properties, -, h⟩ := except_bind_eq_ok.mp h
    obtain ⟨payload, -, hret⟩ := except_bind_eq_ok.mp h
    cases hret
    cases hflag : (Moqtail.FetchFlags.ofU8 flagsRaw.toUInt8).isDatagram with
    | true => rfl
    | false => simp [hflag] at hdatagram

/-- An entry that the Rust library reads, unless it takes the Subgroup ID behind the largest word. -/
theorem deserialize_ofRust {prev : Option Moqtail.FetchObjectContext} {order : GroupOrder}
    {buf rest : Bytes} {e : Moqtail.FetchObject} (hbuf : (buf.length : Int) ≤ maxSafeInteger)
    (hprev : ∀ pc, prev = some pc → pc.subgroupId ≠ some 0xFFFFFFFFFFFFFFFF)
    (h : Moqtail.FetchObject.deserialize prev order buf = .ok (e, rest)) :
    ∃ t, deserialize (prev.map .ofRust) order buf = .ok (t, rest) ∧ t.toRust = some e := by
  have hwraps : ¬ AsksToWrap prev buf := by
    rintro ⟨flagsRaw, left, -, -, -, -, hmax⟩
    cases prev with
    | none => cases hmax
    | some pc => exact hprev pc rfl hmax
  have hconverts := deserialize_converts prev order hbuf hwraps
  rw [h, Converts] at hconverts
  cases hts : deserialize (prev.map .ofRust) order buf with
  | error err =>
    rw [hts] at hconverts
    cases hconverts
  | ok r =>
    obtain ⟨t, left⟩ := r
    rw [hts] at hconverts
    obtain ⟨e', he', hpair⟩ := Option.map_eq_some_iff.mp hconverts.symm
    cases hpair
    exact ⟨t, rfl, he'⟩

/-- The Object is the one that the Rust library reads: an empty payload is none. -/
structure IsRead (o : Moqtail.Object) (p : FetchObjectPayload) : Prop where
  groupId : p.groupId = ofU64 o.location.group
  objectId : p.objectId = ofU64 o.location.object
  subgroupId : o.subgroupId.map ofU64 =
    if p.forwardingPreference = .subgroup then some p.subgroupId else none
  publisherPriority : p.publisherPriority = ofU8 o.publisherPriority
  forwardingPreference : p.forwardingPreference = o.forwardingPreference
  properties : propertiesToRust p.properties = some o.properties
  status : o.status = .normal
  payload : o.payload = if p.payload.isEmpty then none else some p.payload

theorem isRead_of_tryFromFetch {p : Moqtail.FetchObjectPayload} {o : Moqtail.Object}
    {properties : Option (List KeyValuePair)} (h : Moqtail.Object.tryFromFetch p 0 = .ok o)
    (hproperties : propertiesToRust properties = some p.properties) :
    IsRead o (.ofRust p properties) := by
  cases h
  exact
    { groupId := rfl
      objectId := rfl
      subgroupId := apply_ite (Option.map ofU64) _ _ _
      publisherPriority := rfl
      forwardingPreference := rfl
      properties := hproperties
      status := rfl
      payload := rfl }

theorem ofU8_of_toU8 {x : Int} {v : UInt8} (h : toU8 x = some v) : x = ofU8 v := by
  unfold toU8 at h
  split at h
  next hrange =>
    cases h
    have hlt : x.toNat < 256 := by omega
    rw [ofU8, UInt8.toNat_ofNat_of_lt' hlt]
    omega
  · cases h

theorem of_toRust_object {t : FetchObject} {p : Moqtail.FetchObjectPayload}
    (h : t.toRust = some (.object p)) : ∃ properties, propertiesToRust properties = some p.properties ∧
      t = .object (.ofRust p properties) := by
  cases t with
  | endOfRange kind group object =>
    simp [toRust, Option.bind_eq_some_iff] at h
  | object q =>
    simp only [toRust, Option.bind_eq_bind, Option.bind_eq_some_iff, Option.pure_def,
      Option.some.injEq, Moqtail.FetchObject.object.injEq] at h
    obtain ⟨properties, hproperties, group, hgroup, subgroup, hsubgroup, object, hobject, priority,
      hpriority, rfl⟩ := h
    obtain ⟨g, s, o, pr, pref, props, payload⟩ := q
    dsimp only at *
    refine ⟨props, hproperties, ?_⟩
    rw [toU64_eq_some.mp hgroup, toU64_eq_some.mp hsubgroup, toU64_eq_some.mp hobject,
      ofU8_of_toU8 hpriority]
    rfl

theorem of_toRust_endOfRange {t : FetchObject} {kind : EndOfRangeKind} {location : Moqtail.Location}
    (h : t.toRust = some (.endOfRange kind location)) :
    t = .endOfRange kind (ofU64 location.group) (ofU64 location.object) := by
  cases t with
  | object q =>
    simp [toRust, Option.bind_eq_some_iff] at h
  | endOfRange kind' group object =>
    simp only [toRust, Option.bind_eq_bind, Option.bind_eq_some_iff, Option.pure_def,
      Option.some.injEq, Moqtail.FetchObject.endOfRange.injEq] at h
    obtain ⟨g, hg, o, ho, rfl, rfl⟩ := h
    rw [toU64_eq_some.mp hg, toU64_eq_some.mp ho]

theorem nextContext_of_toRust {t : FetchObject} {e : Moqtail.FetchObject} (h : t.toRust = some e)
    (prev : Option Moqtail.FetchObjectContext) :
    t.nextContext (prev.map .ofRust) = .ofRust (e.nextContext prev) := by
  cases e with
  | object p =>
    obtain ⟨properties, -, rfl⟩ := of_toRust_object h
    rfl
  | endOfRange kind location =>
    cases of_toRust_endOfRange h
    cases prev <;> rfl

end FetchObject

/-! The two readers. -/

/-- The fields that the application makes an Object of, from the header and the Object of a
subgroup. -/
structure SubgroupObject.IsReadUnder (header : SubgroupHeader) (o : Moqtail.Object)
    (s : SubgroupObject) : Prop where
  trackAlias : header.trackAlias = ofU64 o.trackAlias
  groupId : header.groupId = ofU64 o.location.group
  objectId : s.objectId = ofU64 o.location.object
  subgroupId : header.subgroupId = o.subgroupId.map ofU64
  publisherPriority : header.publisherPriority.getD 128 = ofU8 o.publisherPriority
  forwardingPreference : o.forwardingPreference = .subgroup
  properties : readProperties (s.properties.getD []) = some (o.properties.getD [])
  status : s.objectStatus.getD .normal = o.status
  payload : s.payload = o.payload

/-- What the one library hands on is what the other does. -/
def SameItem (header : Header) : DataStreamItem → StreamObject → Prop
  | .object o, .fetch (.object p) => (∃ h, header = .fetch h) ∧ FetchObject.IsRead o p
  | .endOfRange kind location, .fetch entry =>
    (∃ h, header = .fetch h) ∧
      entry = .endOfRange kind (ofU64 location.group) (ofU64 location.object)
  | .object o, .subgroup s => ∃ h, header = .subgroup h ∧ s.IsReadUnder h o
  | _, _ => False

/-- The readers are at the same place of the same stream, and nothing has wrapped. -/
structure Follows (s : RecvDataStream) (bytes : Bytes) (t : RecvStream) : Prop where
  small : (bytes.length : Int) ≤ maxSafeInteger
  header : ∃ info, s.headerInfo = some info ∧ t.header = .ofRust info
  order : ∀ header request, s.headerInfo = some (.fetch header request) →
    (RecvDataStream.fetchGroupOrder request = .descending ↔ t.groupOrder = .descending)
  previous : t.previousObjectId = s.previousObjectId.map ofU64
  context : t.fetchPrevCtx = s.prevCtx.map .ofRust
  latest : ∀ p, s.previousObjectId = some p → ∃ item ∈ s.items, item.objectId = p
  unwrapped : ∀ pc, s.prevCtx = some pc → pc.subgroupId ≠ some 0xFFFFFFFFFFFFFFFF
  named : ∀ h, s.headerInfo = some (.subgroup h) → s.items ≠ [] →
    (h.subgroupId.isNone && h.headerType.subgroupIdIsFirstObjectId) = false
  items : List.Forall₂ (SameItem t.header) s.items t.enqueued

namespace Follows

variable {s s' : RecvDataStream} {t : RecvStream} {bytes rest : Bytes}

/-- What the Rust library takes a FETCH stream's entry as. -/
theorem fetch {header : Moqtail.FetchHeader} {request : Option GroupOrder} (h : Follows s bytes t)
    (hheader : s.headerInfo = some (.fetch header request))
    (hgood : Unwrapped s'.headerInfo s'.items)
    (hread : s.readObject (.fetch header request) bytes = .ok (s', rest)) :
    ∃ t', t.parse bytes = .ok (t', rest) ∧ Follows s' rest t' := by
  obtain ⟨⟨entry, left⟩, hentry, hread⟩ := except_bind_eq_ok.mp hread
  obtain ⟨s₁, htake, hret⟩ := except_bind_eq_ok.mp hread
  cases hret
  have hentry := except_mapError_eq_ok.mp hentry
  obtain ⟨e, he, hrust⟩ := FetchObject.deserialize_ofRust h.small h.unwrapped hentry
  have hlen := FetchObject.shrinks_of_partial
    (Moqtail.FetchObject.deserialize_progressive _ _).toIncremental hentry h.small
  obtain ⟨info, hinfo, htheader⟩ := h.header
  cases hheader.symm.trans hinfo
  have hparse : t.parse bytes = .ok (t.enqueue (.fetch e), rest) := by
    have horder := FetchObject.deserialize_order (h.order header request hheader) he
    rw [← h.context] at horder
    rw [RecvStream.parse, RecvStream.deserializeObject, htheader]
    simp only [Header.ofRust, horder, except_ok_bind, except_pure]
  refine ⟨_, hparse, ?_⟩
  have hcontext := FetchObject.nextContext_of_toRust hrust s.prevCtx
  rw [← h.context] at hcontext
  unfold RecvDataStream.takeFetchObject at htake
  cases entry with
  | endOfRange kind location =>
    cases htake
    cases FetchObject.of_toRust_endOfRange hrust
    exact
      { small := hlen
        header := ⟨_, hheader, htheader⟩
        order := h.order
        previous := h.previous
        context := congrArg some hcontext
        latest := fun p hp => by
          obtain ⟨item, hitem, hid⟩ := h.latest p hp
          exact ⟨item, List.mem_append_left _ hitem, hid⟩
        unwrapped := fun pc hpc => by
          cases hpc
          cases hprev : s.prevCtx with
          | none => simp [Moqtail.FetchObject.nextContext]
          | some pc => exact h.unwrapped pc hprev
        named := fun h' hh' => by
          cases hheader.symm.trans hh'
        items := List.rel_append h.items (.cons ⟨⟨_, htheader⟩, rfl⟩ .nil) }
  | object p =>
    obtain ⟨priorities, -, htake⟩ := except_bind_eq_ok.mp htake
    obtain ⟨object, hobject, htake⟩ := except_bind_eq_ok.mp htake
    cases htake
    obtain ⟨properties, hproperties, rfl⟩ := FetchObject.of_toRust_object hrust
    have hread := FetchObject.isRead_of_tryFromFetch (except_mapError_eq_ok.mp hobject) hproperties
    cases hobject
    rw [hheader] at hgood
    exact
      { small := hlen
        header := ⟨_, hheader, htheader⟩
        order := h.order
        previous := h.previous
        context := congrArg some hcontext
        latest := fun q hq => by
          obtain ⟨item, hitem, hid⟩ := h.latest q hq
          exact ⟨item, List.mem_append_left _ hitem, hid⟩
        unwrapped := fun pc hpc => by
          cases hpc
          have hlast := hgood _ (List.mem_append_right _ List.mem_cons_self)
          have hdatagram := FetchObject.subgroupId_of_datagram hentry
          simp only [DataStreamItem.subgroupIdOrObjectId, Moqtail.FetchObject.nextContext] at hlast ⊢
          by_cases hpref : p.forwardingPreference = .subgroup
          · rwa [if_pos hpref] at hlast
          · rw [if_neg hpref] at hlast
            rw [hdatagram hpref]
            exact hlast
        named := fun h' hh' => by
          cases hheader.symm.trans hh'
        items := List.rel_append h.items (.cons ⟨⟨_, htheader⟩, hread⟩ .nil) }

/-- The header after an Object, which may have named the subgroup. -/
theorem resolveSubgroupId_ofRust (h : Moqtail.SubgroupHeader) (id : UInt64) :
    (SubgroupHeader.ofRust h).resolveSubgroupId (ofU64 id) = .ofRust
      (if h.subgroupId.isNone && h.headerType.subgroupIdIsFirstObjectId then
        { h with subgroupId := some id } else h) := by
  obtain ⟨-, -, -, hfirst, -⟩ := SubgroupHeaderType.bits_value h.headerType
  obtain ⟨type, trackAlias, groupId, subgroupId, priority⟩ := h
  rw [SubgroupHeader.resolveSubgroupId]
  simp only [SubgroupHeader.ofRust, hfirst]
  cases subgroupId <;> cases type.subgroupIdIsFirstObjectId <;> rfl

theorem subgroup {header : Moqtail.SubgroupHeader} (h : Follows s bytes t)
    (hheader : s.headerInfo = some (.subgroup header)) (hgood : Unwrapped s'.headerInfo s'.items)
    (hread : s.readObject (.subgroup header) bytes = .ok (s', rest)) :
    ∃ t', t.parse bytes = .ok (t', rest) ∧ Follows s' rest t' := by
  obtain ⟨⟨o, left⟩, ho, hread⟩ := except_bind_eq_ok.mp hread
  obtain ⟨s₁, htake, hret⟩ := except_bind_eq_ok.mp hread
  cases hret
  have ho := except_mapError_eq_ok.mp ho
  have hlen := FetchObject.shrinks_of_partial
    (Moqtail.SubgroupObject.deserialize_progressive _ _).toIncremental ho h.small
  obtain ⟨info, hinfo, htheader⟩ := h.header
  cases hheader.symm.trans hinfo
  obtain ⟨object, hobject, htake⟩ := except_bind_eq_ok.mp htake
  cases hobject
  cases htake
  have hids := List.pairwise_append.mp hgood
  have hid : ∀ p, s.previousObjectId = some p → p < o.objectId := by
    intro p hp
    obtain ⟨item, hitem, rfl⟩ := h.latest p hp
    exact hids.2.2 item hitem _ List.mem_cons_self
  obtain ⟨o', ho', hisread⟩ := SubgroupObject.deserialize_ofRust h.small ho hid
  obtain ⟨hproperties, -⟩ := SubgroupHeaderType.bits_value header.headerType
  have hparse : t.parse bytes = .ok (t.enqueue (.subgroup o'), rest) := by
    rw [← h.previous, ← hproperties] at ho'
    rw [RecvStream.parse, RecvStream.deserializeObject, htheader]
    simp only [Header.ofRust, SubgroupHeader.ofRust, ho', except_ok_bind, except_pure]
  have hresolved := resolveSubgroupId_ofRust header o.objectId
  refine ⟨_, hparse, ?_⟩
  simp only [RecvStream.enqueue, htheader, Header.ofRust, hisread.objectId, hresolved]
  generalize hnamed : (if header.subgroupId.isNone && header.headerType.subgroupIdIsFirstObjectId then
    { header with subgroupId := some o.objectId } else header) = header'
  refine
    { small := hlen
      header := ⟨_, rfl, rfl⟩
      order := fun header request hfetch => by cases hfetch
      previous := rfl
      context := h.context
      latest := fun p hp => by
        cases hp
        exact ⟨_, List.mem_append_right _ List.mem_cons_self, rfl⟩
      unwrapped := h.unwrapped
      named := fun h' hh' _ => by
        cases hh'
        rw [← hnamed]
        split
        · rfl
        next hnot => exact Bool.eq_false_of_not_eq_true hnot
      items := List.rel_append ?_ (.cons ⟨.ofRust header', rfl, ?_⟩ .nil) }
  · cases hitems : s.items with
    | nil =>
      have hnil := h.items
      rw [hitems] at hnil
      rw [List.forall₂_nil_left_iff.mp hnil]
      exact .nil
    | cons item items =>
      have hsame := h.named header hheader (by rw [hitems]; exact List.cons_ne_nil _ _)
      rw [hsame] at hnamed
      cases hnamed
      have hold := h.items
      rwa [htheader, hitems] at hold
  · exact
      { trackAlias := rfl
        groupId := rfl
        objectId := hisread.objectId
        subgroupId := rfl
        publisherPriority := by
          show (header'.publisherPriority.map ofU8).getD 128 = ofU8 (header'.publisherPriority.getD 128)
          cases header'.publisherPriority <;> rfl
        forwardingPreference := rfl
        properties := hisread.properties
        status := congrArg (·.getD .normal) hisread.objectStatus
        payload := hisread.payload }

/-- One step of the Rust library's reader is one of the other. -/
theorem parse {pendingFetches : UInt64 → Option GroupOrder} (h : Follows s bytes t)
    (hgood : Unwrapped s'.headerInfo s'.items)
    (hparse : RecvDataStream.parse pendingFetches s bytes = .ok (s', rest)) :
    ∃ t', t.parse bytes = .ok (t', rest) ∧ Follows s' rest t' := by
  obtain ⟨info, hinfo, -⟩ := h.header
  rw [RecvDataStream.parse, hinfo] at hparse
  cases info with
  | fetch header request => exact h.fetch hinfo hgood hparse
  | subgroup header => exact h.subgroup hinfo hgood hparse

end Follows

/-- Once there is an item, the header is what it stays. -/
theorem Follows.resolveSubgroupId_eq {s : RecvDataStream} {bytes : Bytes} {t : RecvStream}
    (h : Follows s bytes t) (hitems : s.items ≠ []) (firstObjectId : Int) :
    t.header.resolveSubgroupId firstObjectId = t.header := by
  obtain ⟨info, hinfo, htheader⟩ := h.header
  rw [htheader]
  cases info with
  | fetch header request => rfl
  | subgroup header =>
    have hnamed := h.named header hinfo hitems
    obtain ⟨-, -, -, hfirst, -⟩ := SubgroupHeaderType.bits_value header.headerType
    refine congrArg Header.subgroup (if_neg ?_)
    rintro ⟨hnone, hmode⟩
    have hid : header.subgroupId = none := Option.map_eq_none_iff.mp hnone
    rw [hid, ← hfirst] at hnamed
    exact Bool.eq_false_iff.mp hnamed hmode

/-- What has not wrapped had not before. -/
theorem unwrapped_of_parse {pendingFetches : UInt64 → Option GroupOrder} {s s' : RecvDataStream}
    {bytes rest : Bytes} (hparse : RecvDataStream.parse pendingFetches s bytes = .ok (s', rest))
    (hgood : Unwrapped s'.headerInfo s'.items) : Unwrapped s.headerInfo s.items := by
  rw [RecvDataStream.parse] at hparse
  cases hinfo : s.headerInfo with
  | none => trivial
  | some info =>
    rw [hinfo] at hparse
    cases info with
    | fetch header request =>
      obtain ⟨⟨entry, left⟩, -, hparse⟩ := except_bind_eq_ok.mp hparse
      obtain ⟨s₁, htake, hret⟩ := except_bind_eq_ok.mp hparse
      cases hret
      cases entry with
      | endOfRange kind location =>
        cases htake
        rw [hinfo] at hgood
        exact fun item hitem => hgood item (List.mem_append_left _ hitem)
      | object p =>
        obtain ⟨priorities, -, htake⟩ := except_bind_eq_ok.mp htake
        obtain ⟨object, hobject, htake⟩ := except_bind_eq_ok.mp htake
        cases htake
        rw [hinfo] at hgood
        exact fun item hitem => hgood item (List.mem_append_left _ hitem)
    | subgroup header =>
      obtain ⟨⟨o, left⟩, -, hparse⟩ := except_bind_eq_ok.mp hparse
      obtain ⟨s₁, htake, hret⟩ := except_bind_eq_ok.mp hparse
      cases hret
      obtain ⟨object, hobject, htake⟩ := except_bind_eq_ok.mp htake
      cases htake
      exact (List.pairwise_append.mp hgood).1

/-- The reads of the Rust library, all in one. -/
theorem readPieces_eq (pendingFetches : UInt64 → Option GroupOrder) (pieces : List Bytes) :
    RecvDataStream.readPieces pendingFetches pieces =
      RecvDataStream.feed pendingFetches (.new, []) pieces.flatten := by
  have hparse := RecvDataStream.parse_tried pendingFetches
  have hall : pieces.foldlM (RecvDataStream.feed pendingFetches) (.new, []) =
      RecvDataStream.feed pendingFetches (.new, []) pieces.flatten :=
    foldlM_feed hparse pieces (.new, []) rfl
  rw [RecvDataStream.readPieces, hall]
  cases hfeed : RecvDataStream.feed pendingFetches (.new, []) pieces.flatten with
  | error e => rfl
  | ok reader => exact feed_nil_of_feed hparse hfeed

/-- The reads of the Rust library that come as far as the header. -/
theorem readPieces_of_header {pendingFetches : UInt64 → Option GroupOrder} {pieces : List Bytes}
    (h : (endState (RecvDataStream.readPieces pendingFetches pieces)).headerInfo ≠ none) :
    ∃ info rest, RecvDataStream.readHeader pendingFetches pieces.flatten = .ok (info, rest) ∧
      RecvDataStream.readPieces pendingFetches pieces =
        drain (·.error.isNotEnoughBytes) (RecvDataStream.parse pendingFetches) rest.length
          { RecvDataStream.new with headerInfo := some info } rest := by
  rw [readPieces_eq, RecvDataStream.feed, Lib.feed, List.nil_append] at h ⊢
  cases hbytes : pieces.flatten with
  | nil =>
    rw [hbytes] at h
    exact absurd rfl h
  | cons b bytes =>
    rw [hbytes] at h
    simp only [List.length_cons, drain, List.isEmpty_cons, Bool.false_eq_true, if_false,
      RecvDataStream.parse, RecvDataStream.new] at h ⊢
    cases hheader : RecvDataStream.readHeader pendingFetches (b :: bytes) with
    | error e =>
      rw [hheader] at h
      simp only [except_error_bind] at h
      split at h <;> exact absurd rfl h
    | ok p =>
      obtain ⟨info, rest⟩ := p
      have hless := (RecvDataStream.readHeader_tried pendingFetches).takes _ _ _ hheader
      refine ⟨info, rest, rfl, ?_⟩
      simp only [except_ok_bind, except_pure]
      rw [List.length_cons] at hless
      exact drain_of_le (RecvDataStream.parse_tried pendingFetches) _ _ _ _ (by omega) le_rfl

theorem follows_opened {pendingFetches : UInt64 → Option GroupOrder}
    {resolveGroupOrder : Header → GroupOrder}
    (horder : ∀ requestId, RecvDataStream.fetchGroupOrder (pendingFetches requestId) = .descending ↔
      resolveGroupOrder (.fetch ⟨ofU64 requestId⟩) = .descending)
    {bytes rest : Bytes} (hsmall : (bytes.length : Int) ≤ maxSafeInteger) {info : HeaderInfo}
    (hheader : RecvDataStream.readHeader pendingFetches bytes = .ok (info, rest)) :
    Follows { RecvDataStream.new with headerInfo := some info } rest
      (.opened resolveGroupOrder (.ofRust info)) where
  small := by
    have hless := (RecvDataStream.readHeader_tried pendingFetches).shrinks _ _ _ hheader
    omega
  header := ⟨info, rfl, rfl⟩
  order header request hinfo := by
    cases hinfo
    cases bytes with
    | nil => cases hheader
    | cons b bytes =>
      by_cases hb : b = 0x05
      · subst hb
        rw [RecvDataStream.readHeader_fetch] at hheader
        obtain ⟨⟨requestId, left⟩, -, hret⟩ := except_bind_eq_ok.mp hheader
        cases hret
        exact horder requestId
      · rw [RecvDataStream.readHeader, if_neg (by simpa using hb)] at hheader
        obtain ⟨⟨header, left⟩, -, hret⟩ := except_bind_eq_ok.mp hheader
        cases hret
  previous := rfl
  context := rfl
  latest p hp := by cases hp
  unwrapped pc hpc := by cases hpc
  named h _ hitems := absurd rfl hitems
  items := .nil

theorem endState_read (pendingFetches : UInt64 → Option GroupOrder) (pieces : List Bytes) :
    (RecvDataStream.read pendingFetches pieces).headerInfo =
        (endState (RecvDataStream.readPieces pendingFetches pieces)).headerInfo ∧
      (RecvDataStream.read pendingFetches pieces).items =
        (endState (RecvDataStream.readPieces pendingFetches pieces)).items := by
  unfold RecvDataStream.read
  split <;>
  next heq =>
    rw [heq]
    exact ⟨rfl, rfl⟩

theorem readPieces_of_result {pendingFetches : UInt64 → Option GroupOrder} {pieces : List Bytes}
    (h : (RecvDataStream.read pendingFetches pieces).result = .ok ()) :
    ∃ s, RecvDataStream.readPieces pendingFetches pieces = .ok (s, []) := by
  unfold RecvDataStream.read at h
  split at h
  next s rest heq =>
    dsimp only at h
    split at h
    next hempty => exact ⟨s, heq.trans (by rw [List.isEmpty_iff.mp hempty])⟩
    · cases h
  · cases h

/-- Where the Rust library's reader stops, the other has come as well. -/
theorem Follows.exists_drain {pendingFetches : UInt64 → Option GroupOrder} {s : RecvDataStream}
    {bytes : Bytes} {t : RecvStream} (h : Follows s bytes t)
    {result : Except (RecvDataStream × ReadError) (RecvDataStream × Bytes)}
    (hresult : result = drain (·.error.isNotEnoughBytes) (RecvDataStream.parse pendingFetches)
      bytes.length s bytes)
    (hgood : Unwrapped (endState result).headerInfo (endState result).items) :
    ∃ fuel t' left, Follows (endState result) left t' ∧ RecvStream.feed (t, bytes) [] =
        drain Error.isNotEnoughBytes RecvStream.parse fuel t' left ∧
      ∀ s' rest, result = .ok (s', rest) → left = rest := by
  subst hresult
  rw [RecvStream.feed, Lib.feed, List.append_nil]
  have hback : ∀ (s : RecvDataStream) (bytes : Bytes) (s' : RecvDataStream) (rest : Bytes),
      RecvDataStream.parse pendingFetches s bytes = .ok (s', rest) →
        Unwrapped s'.headerInfo s'.items → Unwrapped s.headerInfo s.items :=
    fun _ _ _ _ => unwrapped_of_parse
  exact exists_drain_of_drain hback (fun _ _ _ _ _ hR hG => hR.parse hG) bytes.length s bytes t h hgood

/-- Where the Rust library's reader stops, the other has handed on the same, and reads on from there. -/
theorem exists_conclude_of_read {pendingFetches : UInt64 → Option GroupOrder}
    {resolveGroupOrder : Header → GroupOrder}
    (horder : ∀ requestId, RecvDataStream.fetchGroupOrder (pendingFetches requestId) = .descending ↔
      resolveGroupOrder (.fetch ⟨ofU64 requestId⟩) = .descending)
    {pieces pieces' : List Bytes} (hsame : pieces.flatten = pieces'.flatten)
    (hsmall : (pieces.flatten.length : Int) ≤ maxSafeInteger) {info : HeaderInfo}
    (hinfo : (RecvDataStream.read pendingFetches pieces).headerInfo = some info)
    (hids : Unwrapped (some info) (RecvDataStream.read pendingFetches pieces).items) :
    ∃ fuel t left, t.header = .ofRust info ∧
      List.Forall₂ (SameItem (.ofRust info)) (RecvDataStream.read pendingFetches pieces).items
        t.enqueued ∧
      ((RecvDataStream.read pendingFetches pieces).items ≠ [] →
        ∀ firstObjectId, t.header.resolveSubgroupId firstObjectId = t.header) ∧
      RecvStream.receive resolveGroupOrder (pieces'.map .value ++ [.done]) =
        RecvStream.conclude (drain Error.isNotEnoughBytes RecvStream.parse fuel t left) [.done] ∧
      ∀ s rest, RecvDataStream.readPieces pendingFetches pieces = .ok (s, rest) → left = rest := by
  obtain ⟨hheader, hitems⟩ := endState_read pendingFetches pieces
  rw [hheader] at hinfo
  rw [hitems] at hids ⊢
  obtain ⟨info₁, rest, hread, hdrain⟩ := readPieces_of_header (by rw [hinfo]; exact Option.some_ne_none _)
  rw [← hinfo] at hids
  obtain ⟨fuel, t, left, hfollows, hts, hleft⟩ :=
    (follows_opened horder hsmall hread).exists_drain hdrain hids
  obtain ⟨info', hinfo', htheader⟩ := hfollows.header
  cases hinfo.symm.trans hinfo'
  have hsameItems := hfollows.items
  rw [htheader] at hsameItems
  have hlast : RecvStream.Stops [.done] := fun bytes reads h => by cases h
  have hreceive : RecvStream.receive resolveGroupOrder (pieces'.map .value ++ [.done]) =
      RecvStream.conclude (drain Error.isNotEnoughBytes RecvStream.parse fuel t left) [.done] := by
    rw [RecvStream.receive_eq_receiveWhole _ _ hlast, ← hsame, RecvStream.receiveWhole,
      Header.deserialize_ofRust hread]
    exact congrArg (RecvStream.conclude · _) hts
  exact ⟨fuel, t, left, htheader, hsameItems, hfollows.resolveSubgroupId_eq, hreceive, hleft⟩

/-- A stream that the Rust library takes to its end is over for the other with the same Objects. -/
theorem exists_receive_of_read {pendingFetches : UInt64 → Option GroupOrder}
    {resolveGroupOrder : Header → GroupOrder}
    (horder : ∀ requestId, RecvDataStream.fetchGroupOrder (pendingFetches requestId) = .descending ↔
      resolveGroupOrder (.fetch ⟨ofU64 requestId⟩) = .descending)
    {pieces pieces' : List Bytes} (hsame : pieces.flatten = pieces'.flatten)
    (hsmall : (pieces.flatten.length : Int) ≤ maxSafeInteger) {info : HeaderInfo}
    (hinfo : (RecvDataStream.read pendingFetches pieces).headerInfo = some info)
    (hids : Unwrapped (some info) (RecvDataStream.read pendingFetches pieces).items)
    (hresult : (RecvDataStream.read pendingFetches pieces).result = .ok ()) :
    ∃ objects, RecvStream.receive resolveGroupOrder (pieces'.map .value ++ [.done]) =
        ⟨some (.ofRust info), objects, some .fin⟩ ∧
      List.Forall₂ (SameItem (.ofRust info)) (RecvDataStream.read pendingFetches pieces).items
        objects := by
  obtain ⟨fuel, t, left, htheader, hsameItems, -, hreceive, hleft⟩ :=
    exists_conclude_of_read horder hsame hsmall hinfo hids
  obtain ⟨s, hs⟩ := readPieces_of_result hresult
  have hnil := hleft s [] hs
  subst hnil
  refine ⟨t.enqueued, ?_, hsameItems⟩
  rw [hreceive, drain_nil, ← htheader]
  rfl

/-- One stream, in whatever pieces it comes to the one library and the other: the header and what the
Rust library hands on, the TypeScript library hands on, in the same order; and a stream that the Rust
library takes to its end is over for the other, with the same header and nothing else on it. Where
the Rust library refuses a first Object that names the subgroup, the other's header may have the
name. -/
theorem data_streams_agree (pendingFetches : UInt64 → Option GroupOrder)
    (resolveGroupOrder : Header → GroupOrder)
    (horder : ∀ requestId, RecvDataStream.fetchGroupOrder (pendingFetches requestId) = .descending ↔
      resolveGroupOrder (.fetch ⟨ofU64 requestId⟩) = .descending)
    {pieces pieces' : List Bytes} (hsame : pieces.flatten = pieces'.flatten)
    (hsmall : (pieces.flatten.length : Int) ≤ maxSafeInteger) {info : HeaderInfo}
    (hinfo : (RecvDataStream.read pendingFetches pieces).headerInfo = some info)
    (hids : Unwrapped (some info) (RecvDataStream.read pendingFetches pieces).items) :
    ((∃ header, (RecvStream.receive resolveGroupOrder (pieces'.map .value ++ [.done])).header =
          some header ∧
        (header = .ofRust info ∨ (RecvDataStream.read pendingFetches pieces).items = [] ∧
          ∃ firstObjectId, header = (Header.ofRust info).resolveSubgroupId firstObjectId)) ∧
      ∃ front, front <+:
          (RecvStream.receive resolveGroupOrder (pieces'.map .value ++ [.done])).objects ∧
        List.Forall₂ (SameItem (.ofRust info)) (RecvDataStream.read pendingFetches pieces).items
          front) ∧
    ((RecvDataStream.read pendingFetches pieces).result = .ok () →
      ∃ objects, RecvStream.receive resolveGroupOrder (pieces'.map .value ++ [.done]) =
          ⟨some (.ofRust info), objects, some .fin⟩ ∧
        List.Forall₂ (SameItem (.ofRust info)) (RecvDataStream.read pendingFetches pieces).items
          objects) := by
  constructor
  · obtain ⟨fuel, t, left, htheader, hsameItems, hnamed, hreceive, -⟩ :=
      exists_conclude_of_read horder hsame hsmall hinfo hids
    rw [hreceive]
    constructor
    · refine ⟨_, RecvStream.header_conclude _ _, ?_⟩
      rcases RecvStream.header_endState fuel t left with hkept | ⟨firstObjectId, hresolved⟩
      · exact .inl (hkept.trans htheader)
      · by_cases hnone : (RecvDataStream.read pendingFetches pieces).items = []
        · exact .inr ⟨hnone, firstObjectId, by rw [hresolved, htheader]⟩
        · exact .inl (by rw [hresolved, hnamed hnone, htheader])
    · refine ⟨t.enqueued, ?_, hsameItems⟩
      rw [RecvStream.objects_conclude]
      exact RecvStream.enqueued_endState fuel t left
  · exact exists_receive_of_read horder hsame hsmall hinfo hids

/-- A subgroup of two Objects, the second with a property, cut otherwise for the one library than
for the other. -/
theorem data_streams_agree_subgroup : ∃ objects,
    RecvStream.receive (fun _ => .original)
        ([[0x13, 7], [3, 128, 5, 0, 1, 9, 0, 2, 0x3C, 2, 0, 3]].map .value ++ [.done]) =
      ⟨some (.subgroup ⟨0x13, 7, 3, some 5, some 128⟩), objects, some .fin⟩ ∧
    objects.length = 2 := by
  have hread : RecvDataStream.read (fun _ => none)
        [[0x13, 7, 3, 128, 5, 0, 1, 9, 0, 2], [0x3C, 2, 0, 3]] =
      ⟨some (.subgroup ⟨.fromProperties true .firstObjectId false false false, 7, 3, some 5, some 128⟩),
        [.object ⟨7, ⟨3, 5⟩, 128, .subgroup, some 5, .normal, some [], some [9]⟩,
          .object ⟨7, ⟨3, 6⟩, 128, .subgroup, some 5, .endOfGroup, some [.priorGroupIdGap 2], none⟩],
        .ok (), false⟩ := by
    rfl
  have hids : Unwrapped (RecvDataStream.read (fun _ => none)
      [[0x13, 7, 3, 128, 5, 0, 1, 9, 0, 2], [0x3C, 2, 0, 3]]).headerInfo
      (RecvDataStream.read (fun _ => none)
        [[0x13, 7, 3, 128, 5, 0, 1, 9, 0, 2], [0x3C, 2, 0, 3]]).items := by
    rw [hread]
    exact List.pairwise_pair.mpr (by decide)
  have hsame : [[0x13, 7, 3, 128, 5, 0, 1, 9, 0, 2], [0x3C, 2, 0, 3]].flatten =
      ([[0x13, 7], [3, 128, 5, 0, 1, 9, 0, 2, 0x3C, 2, 0, 3]].flatten : Bytes) := rfl
  have hagree := data_streams_agree (fun _ => none) (fun _ => .original) (fun _ => by decide) hsame
    (by decide) (congrArg ReadOutcome.headerInfo hread) hids
  obtain ⟨objects, hreceive, hitems⟩ := hagree.2 (congrArg ReadOutcome.result hread)
  rw [hread] at hitems
  exact ⟨objects, hreceive, hitems.length_eq.symm⟩

end Moqtail.Ts
