import Moqtail.Wire.FetchObject

/-! Which additions and subtractions of the object codecs are checked, and which are not.

The codecs of `subgroup_object.rs` and `fetch_object.rs` compute some IDs with `checked_add` and
`checked_sub`, and some with plain `+` and `-`. A plain operation that leaves the range of a
`u64` panics in a build with overflow checks and wraps in one without. Here the codecs are
written for a build with the checks; a run of theirs that panics is `none`. -/
namespace Moqtail

open Lib

/-- What runs in a build with overflow checks. -/
abbrev Checked := ExceptT ParseError Option

/-- The plain sum of a build with overflow checks. -/
def plainAdd (a b : UInt64) : Option UInt64 := checkedAdd a b

/-- The plain difference of a build with overflow checks. -/
def plainSub (a b : UInt64) : Option UInt64 := checkedSub a b

namespace SubgroupObject

def objectIdDeltaChecked (objectId : UInt64) : Option UInt64 → Option UInt64
  | some previous => do plainSub (← plainSub objectId previous) 1
  | none => some objectId

def objectIdFromChecked (delta : UInt64) : Option UInt64 → Option UInt64
  | some previous => do plainAdd (← plainAdd previous delta) 1
  | none => some delta

def serializeChecked (o : SubgroupObject) (previousObjectId : Option UInt64)
    (hasProperties : Bool) : Checked Bytes := do
  let delta ← objectIdDeltaChecked o.objectId previousObjectId
  let properties ← o.serializeProperties hasProperties
  return putVi delta ++ properties ++ o.serializeBody

def deserializeChecked (bytes : Bytes) (previousObjectId : Option UInt64) (hasProperties : Bool) :
    Checked (SubgroupObject × Bytes) := do
  let (delta, bytes) ← getVi bytes
  let objectId ← objectIdFromChecked delta previousObjectId
  let (properties, bytes) ← deserializeProperties hasProperties bytes
  let ((objectStatus, payload), bytes) ← deserializeBody bytes
  return (⟨objectId, properties, objectStatus, payload⟩, bytes)

end SubgroupObject

namespace FetchObjectPayload

def objectDeltaChecked (p : FetchObjectPayload) (prev : Option FetchObjectContext)
    (groupDelta : Option UInt64) : Checked (Option UInt64) :=
  match prev with
  | none => return some p.objectId
  | some pc =>
    if groupDelta.isSome then return some p.objectId
    else do
      let next ← plainAdd pc.objectId 1
      if next = p.objectId then return none
      else
        let delta ← okOr (checkedSub p.objectId pc.objectId)
          (.protocolViolation "FetchObject::serialize"
            s!"object id not monotonic: prior={pc.objectId} current={p.objectId}")
        return some delta

def subgroupModeChecked (p : FetchObjectPayload) (prev : Option FetchObjectContext) :
    Option FetchSubgroupMode :=
  if p.isDatagram ∨ p.subgroupId = 0 then some .zero
  else
    match prev with
    | some pc =>
      if pc.subgroupId = some p.subgroupId then some .prior
      else
        match pc.subgroupId with
        | some prior => do
          let next ← plainAdd prior 1
          return if next = p.subgroupId then .priorPlusOne else .present
        | none => some .present
    | none => some .present

def serializeChecked (p : FetchObjectPayload) (prev : Option FetchObjectContext)
    (groupOrder : GroupOrder) : Checked Bytes := do
  let groupDelta ← p.groupDelta prev groupOrder
  let objectDelta ← p.objectDeltaChecked prev groupDelta
  let subgroupMode ← p.subgroupModeChecked prev
  let flags : FetchFlags := ⟨subgroupMode, objectDelta.isSome, groupDelta.isSome,
    p.hasPriority prev, p.hasProperties, p.isDatagram⟩
  let properties ← p.serializeProperties
  return putVi flags.toU8.toUInt64 ++ putOptional groupDelta ++
    (if !p.isDatagram && subgroupMode = .present then putVi p.subgroupId else []) ++
    putOptional objectDelta ++ (if p.hasPriority prev then [p.publisherPriority] else []) ++
    properties ++ (putVi (UInt64.ofNat p.payload.length) ++ p.payload)

end FetchObjectPayload

namespace FetchObject

def deserializeSubgroupIdChecked (flags : FetchFlags) (prev : Option FetchObjectContext)
    (bytes : Bytes) : Checked (UInt64 × Bytes) :=
  if flags.isDatagram then return (0, bytes)
  else
    match flags.subgroupMode with
    | .zero => return (0, bytes)
    | .prior => do
      let subgroupId ← okOr (prev.bind (·.subgroupId))
        (violation "subgroup_id inherited but no prior object")
      return (subgroupId, bytes)
    | .priorPlusOne => do
      let subgroupId ← okOr (prev.bind (·.subgroupId))
        (violation "subgroup_id inherited but no prior object")
      let next ← plainAdd subgroupId 1
      return (next, bytes)
    | .present => getVi bytes

def deserializeChecked (prev : Option FetchObjectContext) (groupOrder : GroupOrder)
    (bytes : Bytes) : Checked (FetchObject × Bytes) := do
  let (flagsRaw, bytes) ← getVi bytes
  if flagsRaw ≥ 128 then
    let kind ← EndOfRangeKind.ofFlagValue flagsRaw
    let (groupId, bytes) ← getVi bytes
    let (objectId, bytes) ← getVi bytes
    return (.endOfRange kind ⟨groupId, objectId⟩, bytes)
  else
    let flags := FetchFlags.ofU8 flagsRaw.toUInt8
    checkFirst flags prev
    let (groupId, bytes) ← deserializeGroupId flags prev groupOrder bytes
    let (subgroupId, bytes) ← deserializeSubgroupIdChecked flags prev bytes
    let (objectId, bytes) ← deserializeObjectId flags prev bytes
    let (publisherPriority, bytes) ← deserializePriority flags prev bytes
    let (properties, bytes) ← deserializeProperties flags bytes
    let (payload, bytes) ← deserializePayload bytes
    return (.object {
      groupId := groupId
      subgroupId := if flags.isDatagram then objectId else subgroupId
      objectId := objectId
      publisherPriority := publisherPriority
      forwardingPreference := if flags.isDatagram then .datagram else .subgroup
      properties := properties
      payload := payload }, bytes)

end FetchObject

/-! What the codecs owe their callers. -/

/-- A build with overflow checks does not panic, one without returns the same, and what does not
fit is an error. -/
structure Sound {α : Type} (checked : Checked α) (release : Parse α) (unfit : Prop) : Prop where
  agrees : checked.run = some release
  rejects : unfit → ∃ e, release = .error e

namespace SubgroupObject

/-- The Object ID would be larger than 2^64 - 1. -/
def IdExceeds (bytes : Bytes) (previous : Option UInt64) : Prop :=
  ∃ delta rest id, getVi bytes = .ok (delta, rest) ∧ previous = some id ∧
    2 ^ 64 ≤ id.toNat + delta.toNat + 1

end SubgroupObject

namespace FetchObject

/-- Reading has come past the Group ID. -/
def ReadsGroup (prev : Option FetchObjectContext) (groupOrder : GroupOrder) (bytes : Bytes)
    (flags : FetchFlags) (rest : Bytes) : Prop :=
  ∃ flagsRaw left groupId, getVi bytes = .ok (flagsRaw, left) ∧ flagsRaw < 128 ∧
    flags = FetchFlags.ofU8 flagsRaw.toUInt8 ∧ checkFirst flags prev = .ok () ∧
    deserializeGroupId flags prev groupOrder left = .ok (groupId, rest)

/-- The Subgroup ID is one above a prior one of 2^64 - 1. -/
def SubgroupIdExceeds (prev : Option FetchObjectContext) (groupOrder : GroupOrder)
    (bytes : Bytes) : Prop :=
  ∃ flags rest, ReadsGroup prev groupOrder bytes flags rest ∧ flags.isDatagram = false ∧
    flags.subgroupMode = .priorPlusOne ∧ ∃ prior, prev.bind (·.subgroupId) = some prior ∧
      2 ^ 64 ≤ prior.toNat + 1

/-- The Object ID would be larger than 2^64 - 1. -/
def ObjectIdExceeds (prev : Option FetchObjectContext) (groupOrder : GroupOrder)
    (bytes : Bytes) : Prop :=
  ∃ flags rest subgroupId left pc, ReadsGroup prev groupOrder bytes flags rest ∧
    deserializeSubgroupId flags prev rest = .ok (subgroupId, left) ∧ prev = some pc ∧
    ((flags.hasObjectId = false ∧ 2 ^ 64 ≤ pc.objectId.toNat + 1) ∨
      (flags.hasObjectId = true ∧ flags.hasGroupId = false ∧
        ∃ delta rest, getVi left = .ok (delta, rest) ∧ 2 ^ 64 ≤ pc.objectId.toNat + delta.toNat))

end FetchObject

namespace FetchObjectPayload

/-- A delta would be negative. -/
def Backwards (p : FetchObjectPayload) (prev : Option FetchObjectContext)
    (groupOrder : GroupOrder) : Prop :=
  ∃ pc, prev = some pc ∧ (¬ groupOrder.Monotone pc.groupId p.groupId ∨
    (pc.groupId = p.groupId ∧ p.objectId < pc.objectId))

/-- The Object ID or the Subgroup ID is compared with the successor of 2^64 - 1. -/
def NextExceeds (p : FetchObjectPayload) (prev : Option FetchObjectContext)
    (groupOrder : GroupOrder) : Prop :=
  ∃ pc, prev = some pc ∧ groupOrder.Monotone pc.groupId p.groupId ∧
    ((pc.groupId = p.groupId ∧ 2 ^ 64 ≤ pc.objectId.toNat + 1) ∨
      ((pc.groupId = p.groupId → pc.objectId ≤ p.objectId) ∧ p.isDatagram = false ∧
        p.subgroupId ≠ 0 ∧ ∃ prior, pc.subgroupId = some prior ∧ prior ≠ p.subgroupId ∧
          2 ^ 64 ≤ prior.toNat + 1))

end FetchObjectPayload

/-! Steps of a checked run. -/

section Steps

variable {α β : Type}

@[simp] theorem checked_ok_bind (a : α) (f : α → Checked β) :
    (liftM (Except.ok a : Parse α) >>= f : Checked β).run = (f a).run := rfl

@[simp] theorem checked_error_bind (e : ParseError) (f : α → Checked β) :
    (liftM (Except.error e : Parse α) >>= f : Checked β).run = some (.error e) := rfl

@[simp] theorem checked_some_bind (a : α) (f : α → Checked β) :
    (liftM (some a : Option α) >>= f : Checked β).run = (f a).run := rfl

@[simp] theorem checked_none_bind (f : α → Checked β) :
    (liftM (none : Option α) >>= f : Checked β).run = none := rfl

@[simp] theorem checked_pure (a : α) : (pure a : Checked α).run = some (.ok a) := rfl

@[simp] theorem checked_ok (x : Parse α) : (liftM x : Checked α).run = some x := by
  cases x <;> rfl

theorem checked_bind_of_run {x : Checked α} {r : Parse α} (h : x.run = some r) (f : α → Checked β) :
    (x >>= f).run = (liftM r >>= f : Checked β).run := by
  rw [ExceptT.run_bind, h]
  cases r <;> rfl

theorem checked_bind_of_panic {x : Checked α} (h : x.run = none) (f : α → Checked β) :
    (x >>= f).run = none := by
  rw [ExceptT.run_bind, h]
  rfl

/-- A run of steps that agree with those of the other build agrees with its run. -/
theorem checked_bind_agrees {x : Checked α} {r : Parse α} {f : α → Checked β} {g : α → Parse β}
    (h : x.run = some r) (hnext : ∀ a, r = .ok a → (f a).run = some (g a)) :
    (x >>= f).run = some (r >>= g) := by
  rw [checked_bind_of_run h]
  cases r with
  | error e => rfl
  | ok a => exact hnext a rfl

end Steps

theorem plainAdd_eq_none {a b : UInt64} : plainAdd a b = none ↔ 2 ^ 64 ≤ a.toNat + b.toNat := by
  unfold plainAdd checkedAdd
  split <;> simp <;> omega

theorem plainAdd_of_lt {a b : UInt64} (h : a.toNat + b.toNat < 2 ^ 64) :
    plainAdd a b = some (a + b) := if_pos h

theorem plainSub_of_le {a b : UInt64} (h : b ≤ a) : plainSub a b = some (a - b) := if_pos h

/-! Objects of a subgroup. -/

namespace SubgroupObject

theorem objectIdFromChecked_eq_none {delta : UInt64} {previous : Option UInt64} :
    objectIdFromChecked delta previous = none ↔
      ∃ id, previous = some id ∧ 2 ^ 64 ≤ id.toNat + delta.toNat + 1 := by
  cases previous with
  | none => simp [objectIdFromChecked]
  | some id =>
    have hone : (1 : UInt64).toNat = 1 := rfl
    simp only [objectIdFromChecked, Option.some.injEq, exists_eq_left']
    by_cases hsum : id.toNat + delta.toNat < 2 ^ 64
    · rw [plainAdd_of_lt hsum]
      show plainAdd (id + delta) 1 = none ↔ _
      rw [plainAdd_eq_none, UInt64.toNat_add, Nat.mod_eq_of_lt hsum, hone]
    · rw [plainAdd_eq_none.mpr (by omega)]
      exact ⟨fun _ => by omega, fun _ => rfl⟩

theorem objectIdFromChecked_agrees {delta id : UInt64} {previous : Option UInt64}
    (h : objectIdFromChecked delta previous = some id) : objectIdFrom delta previous = id := by
  cases previous with
  | none => exact Option.some.inj h
  | some prior =>
    simp only [objectIdFromChecked, plainAdd, checkedAdd] at h
    split at h
    · simp at h
      exact h.2
    · cases h

theorem deserialize_sound (bytes : Bytes) (previous : Option UInt64) (hasProperties : Bool) :
    Sound (deserializeChecked bytes previous hasProperties)
      (deserialize bytes previous hasProperties) (IdExceeds bytes previous) ↔
        ¬ IdExceeds bytes previous := by
  constructor
  · rintro ⟨hagrees, -⟩ ⟨delta, rest, id, hvi, rfl, hexceeds⟩
    have hnone : objectIdFromChecked delta (some id) = none :=
      objectIdFromChecked_eq_none.mpr ⟨id, rfl, hexceeds⟩
    simp [deserializeChecked, hvi, hnone] at hagrees
  · intro hfits
    refine ⟨?_, fun h => absurd h hfits⟩
    unfold deserializeChecked deserialize
    refine checked_bind_agrees (checked_ok _) fun ⟨delta, rest⟩ hvi => ?_
    cases hid : objectIdFromChecked delta previous with
    | none =>
      obtain ⟨id, hprevious, hexceeds⟩ := objectIdFromChecked_eq_none.mp hid
      exact absurd ⟨delta, rest, id, hvi, hprevious, hexceeds⟩ hfits
    | some id =>
      simp only [hid, checked_some_bind, objectIdFromChecked_agrees hid]
      refine checked_bind_agrees (checked_ok _) fun ⟨properties, rest⟩ _ => ?_
      exact checked_bind_agrees (checked_ok _) fun ⟨⟨status, payload⟩, rest⟩ _ => rfl

theorem objectIdDeltaChecked_of_lt {objectId id : UInt64} (h : id < objectId) :
    objectIdDeltaChecked objectId (some id) = some (objectIdDelta objectId (some id)) := by
  have hlt := UInt64.lt_iff_toNat_lt.mp h
  have hle := UInt64.le_of_lt h
  have hone : (1 : UInt64) ≤ objectId - id := by
    rw [UInt64.le_iff_toNat_le, UInt64.toNat_sub_of_le _ _ hle]
    show 1 ≤ objectId.toNat - id.toNat
    omega
  rw [objectIdDeltaChecked, plainSub_of_le hle]
  exact plainSub_of_le hone

theorem objectIdDeltaChecked_of_le {objectId id : UInt64} (h : objectId ≤ id) :
    objectIdDeltaChecked objectId (some id) = none := by
  show (plainSub objectId id).bind (plainSub · 1) = none
  unfold plainSub checkedSub
  by_cases heq : id ≤ objectId
  · have hsame : objectId - id = 0 := by
      rw [UInt64.le_antisymm h heq, UInt64.sub_self]
    rw [if_pos heq, hsame]
    decide
  · rw [if_neg heq]
    rfl

theorem serialize_sound (o : SubgroupObject) (previous : Option UInt64) (hasProperties : Bool) :
    Sound (o.serializeChecked previous hasProperties) (o.serialize previous hasProperties)
        (∃ id, previous = some id ∧ o.objectId ≤ id) ↔
      ∀ id, previous = some id → id < o.objectId := by
  constructor
  · rintro ⟨hagrees, -⟩ id rfl
    by_contra hle
    have hnone := objectIdDeltaChecked_of_le (UInt64.not_lt.mp hle)
    simp [serializeChecked, hnone] at hagrees
  · intro hincreases
    constructor
    · have hdelta : objectIdDeltaChecked o.objectId previous =
          some (objectIdDelta o.objectId previous) := by
        cases previous with
        | none => rfl
        | some id => exact objectIdDeltaChecked_of_lt (hincreases id rfl)
      simp only [serializeChecked, hdelta, checked_some_bind]
      exact checked_bind_agrees (checked_ok _) fun properties _ => rfl
    · rintro ⟨id, hprevious, hle⟩
      exact absurd (hincreases id hprevious) (UInt64.not_lt.mpr hle)

end SubgroupObject

/-! Entries of a FETCH stream. -/

namespace FetchObject

theorem deserializeSubgroupId_agrees {flags : FetchFlags} {prev : Option FetchObjectContext}
    (bytes : Bytes)
    (h : ¬ (flags.isDatagram = false ∧ flags.subgroupMode = .priorPlusOne ∧
      ∃ prior, prev.bind (·.subgroupId) = some prior ∧ 2 ^ 64 ≤ prior.toNat + 1)) :
    (deserializeSubgroupIdChecked flags prev bytes).run =
      some (deserializeSubgroupId flags prev bytes) := by
  unfold deserializeSubgroupIdChecked deserializeSubgroupId
  cases hdatagram : flags.isDatagram with
  | true => rfl
  | false =>
    cases hmode : flags.subgroupMode with
    | zero => rfl
    | prior => exact checked_bind_agrees (checked_ok _) fun subgroupId _ => rfl
    | present => exact checked_ok _
    | priorPlusOne =>
      refine checked_bind_agrees (checked_ok _) fun prior hprior => ?_
      have hsome : prev.bind (·.subgroupId) = some prior := by
        cases hp : prev.bind (·.subgroupId) <;> simp_all [okOr]
      have hadd : plainAdd prior 1 = some (prior + 1) := by
        refine plainAdd_of_lt (Nat.lt_of_not_le fun hle => h ⟨hdatagram, hmode, prior, hsome, hle⟩)
      simp only [hadd, checked_some_bind]
      rfl

theorem deserializeSubgroupId_panics {flags : FetchFlags} {prev : Option FetchObjectContext}
    {bytes : Bytes} {prior : UInt64} (hdatagram : flags.isDatagram = false)
    (hmode : flags.subgroupMode = .priorPlusOne) (hprior : prev.bind (·.subgroupId) = some prior)
    (htop : 2 ^ 64 ≤ prior.toNat + 1) :
    (deserializeSubgroupIdChecked flags prev bytes).run = none := by
  have hadd : plainAdd prior 1 = none := plainAdd_eq_none.mpr htop
  simp [deserializeSubgroupIdChecked, hdatagram, hmode, hprior, okOr, hadd]

theorem deserialize_rejects {prev : Option FetchObjectContext} {groupOrder : GroupOrder}
    {bytes : Bytes} (h : ObjectIdExceeds prev groupOrder bytes) :
    ∃ e, deserialize prev groupOrder bytes = .error e := by
  obtain ⟨flags, rest, subgroupId, left, pc, ⟨flagsRaw, b, groupId, hvi, hlt, rfl, hfirst, hgroup⟩,
    hsubgroup, hprev, hexceeds⟩ := h
  have hobject : ∃ e, deserializeObjectId (FetchFlags.ofU8 flagsRaw.toUInt8) prev left = .error e := by
    have hone : (1 : UInt64).toNat = 1 := rfl
    obtain ⟨habsent, htop⟩ | ⟨hpresent, hnoGroup, delta, r, hdelta, htop⟩ := hexceeds
    · have hadd : checkedAdd pc.objectId 1 = none := if_neg (by omega)
      simp [deserializeObjectId, habsent, hprev, okOr, hadd]
    · have hadd : checkedAdd pc.objectId delta = none := if_neg (by omega)
      simp [deserializeObjectId, hpresent, hnoGroup, hprev, hdelta, okOr, hadd]
  obtain ⟨e, he⟩ := hobject
  refine ⟨e, ?_⟩
  have hge : ¬ flagsRaw ≥ 128 := UInt64.not_le.mpr hlt
  simp [deserialize, hvi, hge, hfirst, hgroup, hsubgroup, he]

theorem deserialize_sound (prev : Option FetchObjectContext) (groupOrder : GroupOrder)
    (bytes : Bytes) :
    Sound (deserializeChecked prev groupOrder bytes) (deserialize prev groupOrder bytes)
        (ObjectIdExceeds prev groupOrder bytes ∨ SubgroupIdExceeds prev groupOrder bytes) ↔
      ¬ SubgroupIdExceeds prev groupOrder bytes := by
  constructor
  · rintro ⟨hagrees, -⟩ ⟨flags, rest, ⟨flagsRaw, b, groupId, hvi, hlt, rfl, hfirst, hgroup⟩,
      hdatagram, hmode, prior, hprior, htop⟩
    have hge : ¬ flagsRaw ≥ 128 := UInt64.not_le.mpr hlt
    simp only [deserializeChecked, hvi, checked_ok_bind, hge, if_false, hfirst, hgroup] at hagrees
    rw [checked_bind_of_panic (deserializeSubgroupId_panics hdatagram hmode hprior htop)] at hagrees
    cases hagrees
  · intro hfits
    refine ⟨?_, fun h => deserialize_rejects (h.resolve_right hfits)⟩
    unfold deserializeChecked deserialize
    refine checked_bind_agrees (checked_ok _) fun ⟨flagsRaw, left⟩ hvi => ?_
    by_cases hge : flagsRaw ≥ 128
    · simp only [hge, if_true]
      refine checked_bind_agrees (checked_ok _) fun kind _ => ?_
      refine checked_bind_agrees (checked_ok _) fun ⟨groupId, rest⟩ _ => ?_
      exact checked_bind_agrees (checked_ok _) fun ⟨objectId, rest⟩ _ => rfl
    · simp only [hge, if_false]
      refine checked_bind_agrees (checked_ok _) fun _ hfirst => ?_
      refine checked_bind_agrees (checked_ok _) fun ⟨groupId, rest⟩ hgroup => ?_
      have hreads : ReadsGroup prev groupOrder bytes (FetchFlags.ofU8 flagsRaw.toUInt8) rest :=
        ⟨flagsRaw, left, groupId, hvi, UInt64.not_le.mp hge, rfl, hfirst, hgroup⟩
      have hsubgroup := deserializeSubgroupId_agrees rest fun ⟨hdatagram, hmode, htop⟩ =>
        hfits ⟨_, rest, hreads, hdatagram, hmode, htop⟩
      refine checked_bind_agrees hsubgroup fun ⟨subgroupId, rest⟩ _ => ?_
      refine checked_bind_agrees (checked_ok _) fun ⟨objectId, rest⟩ _ => ?_
      refine checked_bind_agrees (checked_ok _) fun ⟨priority, rest⟩ _ => ?_
      refine checked_bind_agrees (checked_ok _) fun ⟨properties, rest⟩ _ => ?_
      exact checked_bind_agrees (checked_ok _) fun ⟨payload, rest⟩ _ => rfl

end FetchObject

namespace FetchObjectPayload

theorem groupDelta_rejects {p : FetchObjectPayload} {pc : FetchObjectContext}
    {groupOrder : GroupOrder} (h : ¬ groupOrder.Monotone pc.groupId p.groupId) :
    ∃ e, p.groupDelta (some pc) groupOrder = .error e := by
  have hne : pc.groupId ≠ p.groupId := by
    intro heq
    cases groupOrder <;> exact h (heq ▸ UInt64.le_refl _)
  cases groupOrder with
  | descending =>
    have hsub : checkedSub pc.groupId p.groupId = none := if_neg h
    simp [groupDelta, hne, hsub, okOr]
  | ascending | original =>
    have hsub : checkedSub p.groupId pc.groupId = none := if_neg h
    simp [groupDelta, hne, hsub, okOr]

theorem objectDelta_rejects {p : FetchObjectPayload} {pc : FetchObjectContext}
    (htop : pc.objectId.toNat + 1 < 2 ^ 64) (h : p.objectId < pc.objectId) :
    ∃ e, p.objectDelta (some pc) none = .error e := by
  have hlt := UInt64.lt_iff_toNat_lt.mp h
  have hone : (1 : UInt64).toNat = 1 := rfl
  have hne : pc.objectId + 1 ≠ p.objectId := by
    intro heq
    have := congrArg UInt64.toNat heq
    rw [UInt64.toNat_add, hone, Nat.mod_eq_of_lt htop] at this
    omega
  have hsub : checkedSub p.objectId pc.objectId = none := if_neg (UInt64.not_le.mpr h)
  simp [objectDelta, hne, hsub, okOr]

theorem objectDelta_agrees (p : FetchObjectPayload) (prev : Option FetchObjectContext)
    (groupDelta : Option UInt64)
    (h : ∀ pc, prev = some pc → groupDelta = none → pc.objectId.toNat + 1 < 2 ^ 64) :
    (p.objectDeltaChecked prev groupDelta).run = some (p.objectDelta prev groupDelta) := by
  cases prev with
  | none => rfl
  | some pc =>
    cases groupDelta with
    | some delta => rfl
    | none =>
      have hadd : plainAdd pc.objectId 1 = some (pc.objectId + 1) := plainAdd_of_lt (h pc rfl rfl)
      simp only [objectDeltaChecked, objectDelta, Option.isSome_none, Bool.false_eq_true, if_false,
        hadd, checked_some_bind]
      split
      · rfl
      · exact checked_bind_agrees (checked_ok _) fun delta _ => rfl

theorem subgroupMode_agrees {p : FetchObjectPayload} {prev : Option FetchObjectContext}
    (h : ∀ pc prior, prev = some pc → p.isDatagram = false → p.subgroupId ≠ 0 →
      pc.subgroupId = some prior → prior ≠ p.subgroupId → prior.toNat + 1 < 2 ^ 64) :
    p.subgroupModeChecked prev = some (p.subgroupMode prev) := by
  unfold subgroupModeChecked subgroupMode
  by_cases hzero : p.isDatagram ∨ p.subgroupId = 0
  · rw [if_pos hzero, if_pos hzero]
  · rw [if_neg hzero, if_neg hzero]
    have hne := not_or.mp hzero
    cases prev with
    | none => rfl
    | some pc =>
      cases hprior : pc.subgroupId with
      | none => simp [hprior]
      | some prior =>
        by_cases heq : prior = p.subgroupId
        · simp [hprior, heq]
        · have hadd : plainAdd prior 1 = some (prior + 1) :=
            plainAdd_of_lt (h pc prior rfl (by simpa using hne.1) hne.2 hprior heq)
          simp [hprior, heq, hadd, apply_ite some]

theorem subgroupMode_panics {p : FetchObjectPayload} {pc : FetchObjectContext} {prior : UInt64}
    (hdatagram : p.isDatagram = false) (hne : p.subgroupId ≠ 0)
    (hprior : pc.subgroupId = some prior) (hother : prior ≠ p.subgroupId)
    (htop : 2 ^ 64 ≤ prior.toNat + 1) : p.subgroupModeChecked (some pc) = none := by
  have hadd : plainAdd prior 1 = none := plainAdd_eq_none.mpr htop
  simp [subgroupModeChecked, hdatagram, hne, hprior, hother, hadd]

theorem groupDelta_of_monotone {p : FetchObjectPayload} {pc : FetchObjectContext}
    {groupOrder : GroupOrder} (h : groupOrder.Monotone pc.groupId p.groupId) :
    ∃ delta, p.groupDelta (some pc) groupOrder = .ok delta ∧
      (delta = none ↔ pc.groupId = p.groupId) := by
  obtain ⟨delta, hdelta, hnone, -⟩ := p.groupDelta_reads (some pc) groupOrder
    fun _ heq => Option.some.inj heq ▸ h
  refine ⟨delta, hdelta, fun hd => ?_, fun heq => ?_⟩
  · obtain ⟨pc', hpc, heq⟩ := hnone hd
    exact Option.some.inj hpc ▸ heq
  · simpa [groupDelta, heq] using hdelta.symm

theorem serialize_panics {p : FetchObjectPayload} {prev : Option FetchObjectContext}
    {groupOrder : GroupOrder} (h : p.NextExceeds prev groupOrder) :
    (p.serializeChecked prev groupOrder).run = none := by
  obtain ⟨pc, rfl, hmono, hexceeds⟩ := h
  obtain ⟨groupDelta, hgroup, hsame⟩ := groupDelta_of_monotone hmono
  simp only [serializeChecked, hgroup, checked_ok_bind]
  by_cases htop : pc.groupId = p.groupId ∧ 2 ^ 64 ≤ pc.objectId.toNat + 1
  · have hadd : plainAdd pc.objectId 1 = none := plainAdd_eq_none.mpr htop.2
    have hpanics : (p.objectDeltaChecked (some pc) groupDelta).run = none := by
      simp [objectDeltaChecked, hsame.mpr htop.1, hadd]
    exact checked_bind_of_panic hpanics _
  · obtain ⟨hle, hdatagram, hne, prior, hprior, hother, hlast⟩ := hexceeds.resolve_left htop
    have hobject := objectDelta_agrees p (some pc) groupDelta
      fun _ heq hnone => by
        cases Option.some.inj heq
        exact Nat.lt_of_not_le fun hge => htop ⟨hsame.mp hnone, hge⟩
    obtain ⟨objectDelta, hdelta, -⟩ := p.objectDelta_reads (some pc) groupDelta
      fun _ heq hnone => Option.some.inj heq ▸ hle (hsame.mp hnone)
    rw [checked_bind_of_run hobject, hdelta, checked_ok_bind,
      subgroupMode_panics hdatagram hne hprior hother hlast, checked_none_bind]

theorem serialize_sound (p : FetchObjectPayload) (prev : Option FetchObjectContext)
    (groupOrder : GroupOrder) :
    Sound (p.serializeChecked prev groupOrder) (p.serialize prev groupOrder)
        (p.Backwards prev groupOrder) ↔
      ¬ p.NextExceeds prev groupOrder := by
  constructor
  · rintro ⟨hagrees, -⟩ hexceeds
    rw [serialize_panics hexceeds] at hagrees
    cases hagrees
  · intro hfits
    constructor
    · unfold serializeChecked serialize
      refine checked_bind_agrees (checked_ok _) fun groupDelta hgroup => ?_
      have hnext : ∀ pc, prev = some pc → groupOrder.Monotone pc.groupId p.groupId ∧
          (groupDelta = none ↔ pc.groupId = p.groupId) := by
        rintro pc rfl
        by_cases hmono : groupOrder.Monotone pc.groupId p.groupId
        · obtain ⟨delta, hdelta, hsame⟩ := groupDelta_of_monotone hmono
          cases hdelta.symm.trans hgroup
          exact ⟨hmono, hsame⟩
        · obtain ⟨e, he⟩ := groupDelta_rejects hmono
          cases he.symm.trans hgroup
      have htop : ∀ pc, prev = some pc → groupDelta = none → pc.objectId.toNat + 1 < 2 ^ 64 := by
        intro pc hprev hnone
        obtain ⟨hmono, hsame⟩ := hnext pc hprev
        exact Nat.lt_of_not_le fun hge => hfits ⟨pc, hprev, hmono, Or.inl ⟨hsame.mp hnone, hge⟩⟩
      refine checked_bind_agrees (objectDelta_agrees p _ _ htop) fun objectDelta hobject => ?_
      have hmode : p.subgroupModeChecked prev = some (p.subgroupMode prev) := by
        refine subgroupMode_agrees fun pc prior hprev hdatagram hne hprior hother => ?_
        obtain ⟨hmono, hsame⟩ := hnext pc hprev
        refine Nat.lt_of_not_le fun hge =>
          hfits ⟨pc, hprev, hmono, Or.inr ⟨fun heq => ?_, hdatagram, hne, prior, hprior, hother, hge⟩⟩
        by_contra hback
        obtain ⟨e, he⟩ := objectDelta_rejects (htop pc hprev (hsame.mpr heq)) (UInt64.not_le.mp hback)
        rw [hprev, hsame.mpr heq] at hobject
        cases he.symm.trans hobject
      simp only [hmode, checked_some_bind]
      exact checked_bind_agrees (checked_ok _) fun properties _ => rfl
    · rintro ⟨pc, rfl, hback⟩
      by_cases hmono : groupOrder.Monotone pc.groupId p.groupId
      · obtain ⟨hsame, hlt⟩ := hback.resolve_left (not_not.mpr hmono)
        have hgroup : p.groupDelta (some pc) groupOrder = .ok none := by simp [groupDelta, hsame]
        obtain ⟨e, he⟩ := objectDelta_rejects
          (Nat.lt_of_not_le fun hge => hfits ⟨pc, rfl, hmono, Or.inl ⟨hsame, hge⟩⟩) hlt
        exact ⟨e, by simp [serialize, hgroup, he]⟩
      · obtain ⟨e, he⟩ := groupDelta_rejects hmono
        exact ⟨e, by simp [serialize, he]⟩

end FetchObjectPayload

/-- Each codec keeps its promise except where a plain operation of its leaves the range. -/
theorem objectCodecs_sound_iff (bytes : Bytes) (previous : Option UInt64) (hasProperties : Bool)
    (prev : Option FetchObjectContext) (groupOrder : GroupOrder) (o : SubgroupObject)
    (p : FetchObjectPayload) :
    (Sound (SubgroupObject.deserializeChecked bytes previous hasProperties)
        (SubgroupObject.deserialize bytes previous hasProperties)
        (SubgroupObject.IdExceeds bytes previous) ↔
      ¬ SubgroupObject.IdExceeds bytes previous) ∧
    (Sound (FetchObject.deserializeChecked prev groupOrder bytes)
        (FetchObject.deserialize prev groupOrder bytes)
        (FetchObject.ObjectIdExceeds prev groupOrder bytes ∨
          FetchObject.SubgroupIdExceeds prev groupOrder bytes) ↔
      ¬ FetchObject.SubgroupIdExceeds prev groupOrder bytes) ∧
    (Sound (o.serializeChecked previous hasProperties) (o.serialize previous hasProperties)
        (∃ id, previous = some id ∧ o.objectId ≤ id) ↔
      ∀ id, previous = some id → id < o.objectId) ∧
    (Sound (p.serializeChecked prev groupOrder) (p.serialize prev groupOrder)
        (p.Backwards prev groupOrder) ↔
      ¬ p.NextExceeds prev groupOrder) :=
  ⟨SubgroupObject.deserialize_sound bytes previous hasProperties,
    FetchObject.deserialize_sound prev groupOrder bytes,
    SubgroupObject.serialize_sound o previous hasProperties,
    FetchObjectPayload.serialize_sound p prev groupOrder⟩

/-- An object after the one with the largest Object ID, a subgroup after the one with the largest
Subgroup ID, an object written after itself, and one written after the largest Object ID. -/
theorem objectCodecs_not_sound :
    ¬ Sound (SubgroupObject.deserializeChecked [0, 0, 0] (some 0xFFFFFFFFFFFFFFFF) false)
      (SubgroupObject.deserialize [0, 0, 0] (some 0xFFFFFFFFFFFFFFFF) false)
      (SubgroupObject.IdExceeds [0, 0, 0] (some 0xFFFFFFFFFFFFFFFF)) ∧
    ¬ Sound (FetchObject.deserializeChecked (some ⟨0, some 0xFFFFFFFFFFFFFFFF, 0, some 0⟩)
        .ascending [2, 0])
      (FetchObject.deserialize (some ⟨0, some 0xFFFFFFFFFFFFFFFF, 0, some 0⟩) .ascending [2, 0])
      (FetchObject.ObjectIdExceeds (some ⟨0, some 0xFFFFFFFFFFFFFFFF, 0, some 0⟩) .ascending [2, 0] ∨
        FetchObject.SubgroupIdExceeds (some ⟨0, some 0xFFFFFFFFFFFFFFFF, 0, some 0⟩) .ascending
          [2, 0]) ∧
    ¬ Sound (SubgroupObject.serializeChecked ⟨5, none, some .normal, none⟩ (some 5) false)
      (SubgroupObject.serialize ⟨5, none, some .normal, none⟩ (some 5) false)
      (∃ id, some 5 = some id ∧ (5 : UInt64) ≤ id) ∧
    ¬ Sound (FetchObjectPayload.serializeChecked ⟨0, 0, 0, 0, .subgroup, none, []⟩
        (some ⟨0, some 0, 0xFFFFFFFFFFFFFFFF, some 0⟩) .ascending)
      (FetchObjectPayload.serialize ⟨0, 0, 0, 0, .subgroup, none, []⟩
        (some ⟨0, some 0, 0xFFFFFFFFFFFFFFFF, some 0⟩) .ascending)
      (FetchObjectPayload.Backwards ⟨0, 0, 0, 0, .subgroup, none, []⟩
        (some ⟨0, some 0, 0xFFFFFFFFFFFFFFFF, some 0⟩) .ascending) := by
  refine ⟨?_, ?_, ?_, ?_⟩
  all_goals
    rintro ⟨hagrees, -⟩
    exact absurd hagrees (by decide)

end Moqtail
