import Moqtail.Ts.FetchObject

/-! What the TypeScript library writes of an entry on a FETCH stream, the Rust library writes as
well, byte for byte. -/
namespace Moqtail.Ts

open Lib

/-! The Rust library's values in the types of this one. -/

def toU8 (v : Int) : Option UInt8 :=
  if 0 ≤ v ∧ v < 2 ^ 8 then some (UInt8.ofNat v.toNat) else none

@[simp] theorem toU8_ofU8 (v : UInt8) : toU8 (ofU8 v) = some v := by
  have hlt := v.toNat_lt
  have hrange : 0 ≤ ofU8 v ∧ ofU8 v < 2 ^ 8 := by
    rw [ofU8]
    omega
  rw [toU8, if_pos hrange, ofU8, Int.toNat_natCast, UInt8.ofNat_toNat]

def FetchObjectContext.ofRust (pc : Moqtail.FetchObjectContext) : FetchObjectContext :=
  ⟨ofU64 pc.groupId, pc.subgroupId.map ofU64, ofU64 pc.objectId, pc.publisherPriority.map ofU8⟩

namespace FetchObjectContext

variable (pc : Moqtail.FetchObjectContext)

@[simp] theorem groupId_ofRust : (ofRust pc).groupId = ofU64 pc.groupId := rfl

@[simp] theorem subgroupId_ofRust : (ofRust pc).subgroupId = pc.subgroupId.map ofU64 := rfl

@[simp] theorem objectId_ofRust : (ofRust pc).objectId = ofU64 pc.objectId := rfl

@[simp] theorem publisherPriority_ofRust :
    (ofRust pc).publisherPriority = pc.publisherPriority.map ofU8 := rfl

end FetchObjectContext

def FetchFlags.ofRust (f : Moqtail.FetchFlags) : FetchFlags :=
  ⟨f.subgroupMode.toU8.toNat, f.hasObjectId, f.hasGroupId, f.hasPriority, f.hasProperties,
    f.isDatagram⟩

/-- Properties as the pairs that they are written as. -/
def propertiesOfRust : Option (List ObjectProperty) → Parse (Option (List KeyValuePair))
  | none => .ok none
  | some properties => do
    let kvps ← properties.mapM ObjectProperty.tryIntoKeyValuePair
    return some (kvps.map KeyValuePair.ofRust)

def FetchObjectPayload.ofRust (p : Moqtail.FetchObjectPayload)
    (properties : Option (List KeyValuePair)) : FetchObjectPayload :=
  ⟨ofU64 p.groupId, ofU64 p.subgroupId, ofU64 p.objectId, ofU8 p.publisherPriority,
    p.forwardingPreference, properties, p.payload⟩

def FetchObject.ofRust : Moqtail.FetchObject → Parse FetchObject
  | .object p => do
    let properties ← propertiesOfRust p.properties
    return .object (.ofRust p properties)
  | .endOfRange kind location =>
    .ok (.endOfRange kind (ofU64 location.group) (ofU64 location.object))

theorem FetchObject.nextContext_ofRust {e : Moqtail.FetchObject} {t : FetchObject}
    (h : FetchObject.ofRust e = .ok t) (prev : Option Moqtail.FetchObjectContext) :
    t.nextContext (prev.map .ofRust) = .ofRust (e.nextContext prev) := by
  cases e with
  | object p =>
    obtain ⟨properties, -, hret⟩ := except_bind_eq_ok.mp h
    cases hret
    rfl
  | endOfRange kind location =>
    cases h
    cases prev <;> rfl

/-! Writing. -/

namespace FetchFlags

theorem toNumber_ofRust (f : Moqtail.FetchFlags) : (ofRust f).toNumber = f.toU8.toNat := by
  obtain ⟨mode, objectId, groupId, priority, properties, datagram⟩ := f
  cases mode <;> cases objectId <;> cases groupId <;> cases priority <;> cases properties <;>
    cases datagram <;> rfl

end FetchFlags

namespace FetchObjectPayload

variable {p : Moqtail.FetchObjectPayload} {properties : Option (List KeyValuePair)}
  {prev : Option Moqtail.FetchObjectContext} {groupOrder : GroupOrder}

theorem groupId_ofRust : (ofRust p properties).groupId = ofU64 p.groupId := rfl

theorem subgroupId_ofRust : (ofRust p properties).subgroupId = ofU64 p.subgroupId := rfl

theorem objectId_ofRust : (ofRust p properties).objectId = ofU64 p.objectId := rfl

theorem publisherPriority_ofRust :
    (ofRust p properties).publisherPriority = ofU8 p.publisherPriority := rfl

/-- A difference that is not negative is the one that `checked_sub` finds. -/
theorem checkedSub_of_nonneg {a b : UInt64} (h : ¬ ofU64 a - ofU64 b < 0) :
    ∃ d, Moqtail.checkedSub a b = some d ∧ ofU64 a - ofU64 b = ofU64 d := by
  rw [ofU64, ofU64] at h
  have hle : b ≤ a := by
    rw [UInt64.le_iff_toNat_le]
    omega
  refine ⟨a - b, by rw [checkedSub, if_pos hle], ?_⟩
  rw [ofU64, ofU64, ofU64, UInt64.toNat_sub_of_le _ _ hle,
    Int.ofNat_sub (UInt64.le_iff_toNat_le.mp hle)]

theorem checkedSub_one_of_nonneg {a b : UInt64} (h : ¬ ofU64 a - ofU64 b - 1 < 0) :
    ∃ d, (Moqtail.checkedSub a b).bind (Moqtail.checkedSub · 1) = some d ∧
      ofU64 a - ofU64 b - 1 = ofU64 d := by
  have hone : ofU64 1 = 1 := rfl
  obtain ⟨d, hd, hdelta⟩ := checkedSub_of_nonneg (a := a) (b := b) (by omega)
  rw [hdelta, ← hone] at h ⊢
  obtain ⟨d', hd', hdelta'⟩ := checkedSub_of_nonneg h
  exact ⟨d', by rw [hd, Option.bind_some, hd'], hdelta'⟩

/-- A difference is written by both, or the TypeScript library refuses it. -/
theorem delta_ofRust {x : Int} {c : Option UInt64} {delta : Option Int} {e : ParseError}
    {e' : Error} (hx : ¬ x < 0 → ∃ d, c = some d ∧ x = ofU64 d)
    (h : (if x < 0 then .error e' else .ok (some x) : Result (Option Int)) = .ok delta) :
    ∃ d, (do let delta ← okOr c e; return some delta : Parse (Option UInt64)) = .ok d ∧
      delta = d.map ofU64 := by
  split at h
  · cases h
  next hnonneg =>
    obtain ⟨d, rfl, hdelta⟩ := hx hnonneg
    cases h
    exact ⟨some d, rfl, congrArg some hdelta⟩

theorem groupDelta_ofRust {delta : Option Int}
    (h : (ofRust p properties).groupDelta (prev.map .ofRust) groupOrder = .ok delta) :
    ∃ d, p.groupDelta prev groupOrder = .ok d ∧ delta = d.map ofU64 := by
  cases prev with
  | none =>
    cases h
    exact ⟨_, rfl, rfl⟩
  | some pc =>
    rw [Option.map_some, groupDelta] at h
    unfold Moqtail.FetchObjectPayload.groupDelta
    dsimp only at h ⊢
    rw [FetchObjectContext.groupId_ofRust, groupId_ofRust] at h
    by_cases hsame : pc.groupId = p.groupId
    · rw [if_pos (ofU64_inj.mpr hsame)] at h
      cases h
      exact ⟨none, if_pos hsame, rfl⟩
    · rw [if_neg (ofU64_inj.not.mpr hsame)] at h
      rw [if_neg hsame]
      cases groupOrder with
      | descending => exact delta_ofRust checkedSub_one_of_nonneg h
      | ascending => exact delta_ofRust checkedSub_one_of_nonneg h
      | original => exact delta_ofRust checkedSub_one_of_nonneg h

/-- The next ID is the same to both, unless it would be one past the largest. -/
theorem succ_eq_iff {a b : UInt64} (h : b ≠ 0) : ofU64 a + 1 = ofU64 b ↔ a + 1 = b := by
  have hb : b.toNat ≠ 0 := fun hzero => h (UInt64.toNat_inj.mp hzero)
  have ha := a.toNat_lt
  have hlt := b.toNat_lt
  rw [← UInt64.toNat_inj, UInt64.toNat_add, ofU64, ofU64]
  simp only [UInt64.reduceToNat]
  omega

theorem objectDelta_ofRust {groupDelta : Option UInt64} {delta : Option Int}
    (h : (ofRust p properties).objectDelta (prev.map .ofRust) (groupDelta.map ofU64) = .ok delta) :
    ∃ d, p.objectDelta prev groupDelta = .ok d ∧ delta = d.map ofU64 := by
  cases prev with
  | none =>
    cases h
    exact ⟨_, rfl, rfl⟩
  | some pc =>
    rw [Option.map_some, objectDelta] at h
    unfold Moqtail.FetchObjectPayload.objectDelta
    dsimp only at h ⊢
    rw [FetchObjectContext.objectId_ofRust, objectId_ofRust, Option.isSome_map] at h
    by_cases hgroup : groupDelta.isSome
    · rw [if_pos hgroup] at h
      cases h
      exact ⟨_, if_pos hgroup, rfl⟩
    · rw [if_neg hgroup] at h
      rw [if_neg hgroup]
      by_cases hzero : p.objectId = 0
      · -- only a prior Object ID of 0 leaves a difference that can be written
        rw [hzero] at h ⊢
        have hpast : ¬ ofU64 pc.objectId + 1 = ofU64 0 := by
          show ¬ (pc.objectId.toNat : Int) + 1 = 0
          omega
        rw [if_neg hpast] at h
        split at h
        · cases h
        next hnonneg =>
          obtain ⟨d, hd, hdelta⟩ := checkedSub_of_nonneg hnonneg
          have hprior : pc.objectId = 0 := by
            apply UInt64.toNat_inj.mp
            have hzero' : ofU64 0 = 0 := rfl
            rw [hzero', ofU64] at hnonneg
            show pc.objectId.toNat = 0
            omega
          cases h
          refine ⟨some d, ?_, congrArg some hdelta⟩
          rw [hd, hprior]
          rfl
      · by_cases hnext : pc.objectId + 1 = p.objectId
        · rw [if_pos ((succ_eq_iff hzero).mpr hnext)] at h
          cases h
          exact ⟨none, if_pos hnext, rfl⟩
        · rw [if_neg ((succ_eq_iff hzero).not.mpr hnext)] at h
          rw [if_neg hnext]
          exact delta_ofRust checkedSub_of_nonneg h

theorem map_eq_some_iff_of_inj {α β : Type} {f : α → β} (hf : ∀ a b, f a = f b ↔ a = b)
    (o : Option α) (a : α) : o.map f = some (f a) ↔ o = some a := by
  cases o with
  | none => simp
  | some b => simp [hf]

theorem hasPriority_ofRust :
    (ofRust p properties).hasPriority (prev.map .ofRust) = p.hasPriority prev := by
  cases prev with
  | none => rfl
  | some pc =>
    have hsame := map_eq_some_iff_of_inj (fun _ _ => ofU8_inj) pc.publisherPriority
      p.publisherPriority
    simp only [hasPriority, Moqtail.FetchObjectPayload.hasPriority, Option.map_some,
      FetchObjectContext.ofRust, ofRust, ne_eq, hsame]

theorem subgroupMode_ofRust :
    (ofRust p properties).subgroupMode (prev.map .ofRust) = (p.subgroupMode prev).toU8.toNat := by
  unfold subgroupMode Moqtail.FetchObjectPayload.subgroupMode
  have hiff : (ofRust p properties).isDatagram ∨ (ofRust p properties).subgroupId = 0 ↔
      p.isDatagram ∨ p.subgroupId = 0 :=
    or_congr Iff.rfl (ofU64_inj (v := p.subgroupId) (w := 0))
  by_cases hmode : p.isDatagram ∨ p.subgroupId = 0
  · rw [if_pos hmode, if_pos (hiff.mpr hmode)]
    rfl
  · rw [if_neg hmode, if_neg (hiff.not.mpr hmode)]
    have hne : p.subgroupId ≠ 0 := fun h => hmode (.inr h)
    cases prev with
    | none => rfl
    | some pc =>
      rw [Option.map_some]
      dsimp only
      rw [FetchObjectContext.subgroupId_ofRust, subgroupId_ofRust]
      have hnext : (pc.subgroupId.map ofU64).map (· + 1) = some (ofU64 p.subgroupId) ↔
          pc.subgroupId.map (· + 1) = some p.subgroupId := by
        cases pc.subgroupId with
        | none => simp
        | some s => simpa using succ_eq_iff hne
      simp only [map_eq_some_iff_of_inj (fun _ _ => ofU64_inj), hnext]
      split
      · rfl
      · split <;> rfl

theorem putOptional_ofRust (field : Option UInt64) :
    putOptional (field.map ofU64) = .ok (Moqtail.FetchObjectPayload.putOptional field) := by
  cases field with
  | none => rfl
  | some v => exact ByteBuffer.putVI_eq v

theorem putU8_ofU8 (v : UInt8) : ByteBuffer.putU8 (ofU8 v) = .ok [v] := by
  have hlt := v.toNat_lt
  have hrange : ¬ (ofU8 v < 0 ∨ ofU8 v > 0xff) := by
    rw [ofU8]
    omega
  rw [ByteBuffer.putU8, if_neg hrange, ofU8, Int.toNat_natCast, UInt8.ofNat_toNat]

theorem serializePriority_ofRust :
    (ofRust p properties).serializePriority (prev.map .ofRust) =
      .ok (if p.hasPriority prev then [p.publisherPriority] else []) := by
  rw [serializePriority, hasPriority_ofRust, publisherPriority_ofRust, putU8_ofU8]
  split <;> rfl

theorem hasProperties_ofRust (h : propertiesOfRust p.properties = .ok properties) :
    (ofRust p properties).hasProperties = p.hasProperties := by
  unfold hasProperties Moqtail.FetchObjectPayload.hasProperties
  cases hprops : p.properties with
  | none =>
    rw [hprops] at h
    cases h
    rfl
  | some props =>
    rw [hprops] at h
    obtain ⟨kvps, hkvps, hret⟩ := except_bind_eq_ok.mp h
    cases hret
    have hall := mapM_eq_ok_iff.mp hkvps
    cases hall with
    | nil => rfl
    | cons hone hrest => rfl

theorem serializeProperties_ofRust {out : Bytes}
    (h : propertiesOfRust p.properties = .ok properties)
    (hout : (ofRust p properties).serializeProperties = .ok out) :
    p.serializeProperties = .ok out := by
  unfold serializeProperties at hout
  unfold Moqtail.FetchObjectPayload.serializeProperties
  rw [hasProperties_ofRust h] at hout
  split at hout
  next hpresent =>
    rw [if_pos hpresent]
    cases hprops : p.properties with
    | none =>
      rw [Moqtail.FetchObjectPayload.hasProperties, hprops] at hpresent
      cases hpresent
    | some props =>
      rw [hprops] at h
      obtain ⟨kvps, hkvps, hret⟩ := except_bind_eq_ok.mp h
      cases hret
      obtain ⟨ext, hext, hprefixed⟩ := except_bind_eq_ok.mp hout
      have hlist : Moqtail.serializeKvpList kvps = .ok ext :=
        KeyValuePair.serializeKvpList_ofRust hext
      rw [ByteBuffer.putLengthPrefixedBytes_eq_ok hprefixed, Option.getD_some,
        serializeObjectProperties, hkvps, except_ok_bind, hlist]
      rfl
  next habsent =>
    rw [if_neg habsent]
    cases hout
    rfl

theorem serialize_ofRust {out : Bytes} (h : propertiesOfRust p.properties = .ok properties)
    (hout : (ofRust p properties).serialize (prev.map .ofRust) groupOrder = .ok out) :
    p.serialize prev groupOrder = .ok out := by
  unfold serialize at hout
  obtain ⟨delta, hgroup', hout⟩ := except_bind_eq_ok.mp hout
  obtain ⟨groupDelta, hgroup, rfl⟩ := groupDelta_ofRust hgroup'
  obtain ⟨delta', hobject', hout⟩ := except_bind_eq_ok.mp hout
  obtain ⟨objectDelta, hobject, rfl⟩ := objectDelta_ofRust hobject'
  have hdatagram : (ofRust p properties).isDatagram = p.isDatagram := rfl
  let flags : Moqtail.FetchFlags := ⟨p.subgroupMode prev, objectDelta.isSome, groupDelta.isSome,
    p.hasPriority prev, p.hasProperties, p.isDatagram⟩
  have hflags : FetchFlags.mk (p.subgroupMode prev).toU8.toNat (objectDelta.map ofU64).isSome
      (groupDelta.map ofU64).isSome (p.hasPriority prev) p.hasProperties p.isDatagram =
        .ofRust flags := by
    rw [Option.isSome_map, Option.isSome_map]
    rfl
  have hnumber : (((FetchFlags.ofRust flags).toNumber : Nat) : Int) =
      ofU64 flags.toU8.toUInt64 := by
    rw [FetchFlags.toNumber_ofRust, ofU64, UInt8.toNat_toUInt64]
  have hmode : (p.subgroupMode prev).toU8.toNat = 0b11 ↔ p.subgroupMode prev = .present := by
    cases p.subgroupMode prev <;> decide
  have hsubgroup : (if (!p.isDatagram && (p.subgroupMode prev).toU8.toNat = 0b11) = true then
      some (ofU64 p.subgroupId) else none) = (if (!p.isDatagram &&
        p.subgroupMode prev = .present) = true then some p.subgroupId else none).map ofU64 := by
    simp only [hmode]
    split <;> rfl
  simp only [subgroupMode_ofRust, hasPriority_ofRust, hasProperties_ofRust h, hdatagram, hflags,
    hnumber, ByteBuffer.putVI_eq, except_ok_bind, putOptional_ofRust, subgroupId_ofRust,
    hsubgroup, serializePriority_ofRust] at hout
  obtain ⟨ext, hext, hout⟩ := except_bind_eq_ok.mp hout
  obtain ⟨payload, hpayload, hout⟩ := except_bind_eq_ok.mp hout
  have hpayload' : payload = putVi (UInt64.ofNat p.payload.length) ++ p.payload :=
    ByteBuffer.putLengthPrefixedBytes_eq_ok hpayload
  have hput : ∀ (c : Prop) [Decidable c] (v : UInt64),
      Moqtail.FetchObjectPayload.putOptional (if c then some v else none) =
        if c then putVi v else [] := by
    intro c _ v
    split <;> rfl
  cases hout
  rw [Moqtail.FetchObjectPayload.serialize, hgroup, except_ok_bind, hobject, except_ok_bind,
    serializeProperties_ofRust h hext, except_ok_bind, hpayload', hput]
  rfl

end FetchObjectPayload

namespace FetchObject

theorem endOfRangeValue_eq (kind : EndOfRangeKind) :
    endOfRangeValue kind = ofU64 kind.asFlagValue := by
  cases kind <;> rfl

theorem serialize_ofRust {e : Moqtail.FetchObject} {t : FetchObject}
    {prev : Option Moqtail.FetchObjectContext} {groupOrder : GroupOrder} {out : Bytes}
    (h : FetchObject.ofRust e = .ok t)
    (hout : t.serialize (prev.map .ofRust) groupOrder = .ok out) :
    e.serialize prev groupOrder = .ok out := by
  cases e with
  | object p =>
    obtain ⟨properties, hproperties, hret⟩ := except_bind_eq_ok.mp h
    cases hret
    exact FetchObjectPayload.serialize_ofRust hproperties hout
  | endOfRange kind location =>
    cases h
    simp only [serialize, endOfRangeValue_eq, ByteBuffer.putVI_eq, except_ok_bind] at hout
    cases hout
    rfl

theorem serializeAll_ofRust {groupOrder : GroupOrder} {entries : List Moqtail.FetchObject}
    {entries' : List FetchObject}
    (h : List.Forall₂ (fun e t => FetchObject.ofRust e = .ok t) entries entries') :
    ∀ (prev : Option Moqtail.FetchObjectContext) (out : Bytes),
      serializeAll groupOrder (prev.map .ofRust) entries' = .ok out →
        encodeAll (fun prev e => some (Moqtail.FetchObject.nextContext e prev))
          (fun prev e => e.serialize prev groupOrder) prev entries = .ok out := by
  induction h with
  | nil =>
    intro prev out hout
    cases hout
    rfl
  | @cons e t entries entries' hone hrest ih =>
    intro prev out hout
    obtain ⟨head, hhead, hout⟩ := except_bind_eq_ok.mp hout
    obtain ⟨tail, htail, hout⟩ := except_bind_eq_ok.mp hout
    dsimp only at htail
    rw [nextContext_ofRust hone prev] at htail
    have hrest := ih (some (e.nextContext prev)) tail htail
    cases hout
    rw [encodeAll, serialize_ofRust hone hhead, except_ok_bind, hrest]
    rfl

end FetchObject

end Moqtail.Ts
