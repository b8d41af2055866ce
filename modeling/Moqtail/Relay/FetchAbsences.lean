import Moqtail.Relay.FetchHonesty

/-! What an upstream FETCH response shows not to exist. A response is followed entry by entry: the
spans marked so far cover what it has passed over, but for the Objects and for what an Unknown or
Timed Out marker left open. -/
namespace Moqtail

namespace Location

theorem key_lt (l : Location) : l.key < 2 ^ 128 := by
  have hgroup := l.group.toNat_lt
  have hobject := l.object.toNat_lt
  unfold key
  omega

theorem checkedPred_eq_some {v p : UInt64} (h : checkedPred v = some p) : p.toNat + 1 = v.toNat := by
  unfold checkedPred at h
  split at h
  · cases h
  · next hne =>
    cases h
    have hpos : 0 < v.toNat := Nat.pos_of_ne_zero fun hzero => hne (UInt64.toNat_inj.mp hzero)
    have hpred := FetchState.toNat_sub_one hpos
    omega

theorem checkedPred_eq_none {v : UInt64} (h : checkedPred v = none) : v.toNat = 0 := by
  unfold checkedPred at h
  split at h
  · next heq => exact congrArg UInt64.toNat heq
  · cases h

/-- `next` is the successor in the order of Locations. -/
theorem next_key (l : Location) :
    match l.next with
    | some n => n.key = l.key + 1
    | none => l.key + 1 = 2 ^ 128 := by
  unfold next
  cases hobject : checkedSucc l.object with
  | some object =>
    have hsucc := CachedGroup.checkedSucc_eq_some hobject
    show l.group.toNat * 2 ^ 64 + object.toNat = l.group.toNat * 2 ^ 64 + l.object.toNat + 1
    omega
  | none =>
    have hlast := CachedGroup.checkedSucc_eq_none hobject
    cases hgroup : checkedSucc l.group with
    | some group =>
      have hsucc := CachedGroup.checkedSucc_eq_some hgroup
      show group.toNat * 2 ^ 64 + 0 = l.group.toNat * 2 ^ 64 + l.object.toNat + 1
      omega
    | none =>
      have hlast' := CachedGroup.checkedSucc_eq_none hgroup
      show l.group.toNat * 2 ^ 64 + l.object.toNat + 1 = 2 ^ 128
      omega

/-- `prev` is the predecessor. -/
theorem prev_key (l : Location) :
    match l.prev with
    | some p => p.key + 1 = l.key
    | none => l.key = 0 := by
  unfold prev
  cases hobject : checkedPred l.object with
  | some object =>
    have hpred := checkedPred_eq_some hobject
    show l.group.toNat * 2 ^ 64 + object.toNat + 1 = l.group.toNat * 2 ^ 64 + l.object.toNat
    omega
  | none =>
    have hfirst := checkedPred_eq_none hobject
    cases hgroup : checkedPred l.group with
    | some group =>
      have hpred := checkedPred_eq_some hgroup
      show group.toNat * 2 ^ 64 + 18446744073709551615 + 1 = l.group.toNat * 2 ^ 64 + l.object.toNat
      omega
    | none =>
      have hfirst' := checkedPred_eq_none hgroup
      show l.group.toNat * 2 ^ 64 + l.object.toNat = 0
      omega

theorem max_le_iff {a b l : Location} : max a b ≤ l ↔ a ≤ l ∧ b ≤ l := by
  unfold max
  split
  · next hle =>
    simp only [le_iff_key] at hle ⊢
    omega
  · next hle =>
    simp only [le_iff_key] at hle ⊢
    omega

theorem le_min_iff {a b l : Location} : l ≤ min a b ↔ l ≤ a ∧ l ≤ b := by
  unfold min
  split
  · next hle =>
    simp only [le_iff_key] at hle ⊢
    omega
  · next hle =>
    simp only [le_iff_key] at hle ⊢
    omega

theorem toNat_maxId : maxId.toNat = 2 ^ 64 - 1 := rfl

end Location

theorem deliveryPos_ascending (l : Location) : deliveryPos false l = l.key := rfl

/-- The places of a descending delivery: groups downwards, and Object IDs upwards in each. -/
theorem deliveryPos_descending_lt_iff {l l' : Location} :
    deliveryPos true l < deliveryPos true l' ↔
      l'.group.toNat < l.group.toNat ∨ (l.group = l'.group ∧ l.object.toNat < l'.object.toNat) := by
  have hgroup := l.group.toNat_lt
  have hgroup' := l'.group.toNat_lt
  have hobject := l.object.toNat_lt
  have hobject' := l'.object.toNat_lt
  have hplace : groupPos true l.group + l.group.toNat = 2 ^ 64 - 1 := by
    show 2 ^ 64 - 1 - l.group.toNat + _ = _
    omega
  have hplace' : groupPos true l'.group + l'.group.toNat = 2 ^ 64 - 1 := by
    show 2 ^ 64 - 1 - l'.group.toNat + _ = _
    omega
  rw [← UInt64.toNat_inj]
  unfold deliveryPos
  omega

/-- No two Locations are delivered at one place. -/
theorem deliveryPos_inj {descending : Bool} {l l' : Location}
    (h : deliveryPos descending l = deliveryPos descending l') : l = l' := by
  cases descending with
  | false => exact Location.key_inj.mp h
  | true =>
    have hlt := deliveryPos_descending_lt_iff.not.mp h.not_lt
    have hgt := deliveryPos_descending_lt_iff.not.mp h.not_gt
    have hgroup : l.group = l'.group := UInt64.toNat_inj.mp (by omega)
    have hobject : l.object = l'.object := by
      rw [← UInt64.toNat_inj]
      simp only [hgroup, true_and] at hlt hgt
      omega
    cases l
    cases l'
    simp_all

/-! Spans. -/

/-- Some of the spans has the Location. -/
def Covers (spans : List Span) (l : Location) : Prop := ∃ span ∈ spans, span.1 ≤ l ∧ l ≤ span.2

section Covers

variable {l : Location}

@[simp] theorem covers_nil : ¬ Covers [] l := by simp [Covers]

@[simp] theorem covers_singleton (first last : Location) :
    Covers [(first, last)] l ↔ first ≤ l ∧ l ≤ last := by
  simp [Covers]

@[simp] theorem covers_append (spans spans' : List Span) :
    Covers (spans ++ spans') l ↔ Covers spans l ∨ Covers spans' l := by
  simp [Covers, or_and_right, exists_or]

theorem covers_ite {P : Prop} [Decidable P] (span : Span) :
    Covers (if P then [span] else []) l ↔ P ∧ span.1 ≤ l ∧ l ≤ span.2 := by
  split
  · next h => simp [Covers, h]
  · next h => simp [h]

end Covers

namespace ResponseAbsences

variable {a : ResponseAbsences} {l upTo last : Location}

/-- The Location is one that the response can carry. -/
def Carries (a : ResponseAbsences) (l : Location) : Prop := a.start ≤ l ∧ l ≤ a.end_

def pos (a : ResponseAbsences) (l : Location) : Nat := deliveryPos a.descending l

/-- The Location is delivered after the last entry. -/
def Ahead (a : ResponseAbsences) (l : Location) : Prop := ∀ last, a.last = some last → a.pos last < a.pos l

theorem covers_clip (spans : List Span) : Covers (a.clip spans) l ↔ a.Carries l ∧ Covers spans l := by
  constructor
  · rintro ⟨span, hmem, hlo, hhi⟩
    obtain ⟨other, hother, rfl⟩ := List.mem_map.mp (List.mem_filter.mp hmem).1
    rw [Location.max_le_iff] at hlo
    rw [Location.le_min_iff] at hhi
    exact ⟨⟨hlo.2, hhi.2⟩, other, hother, hlo.1, hhi.1⟩
  · rintro ⟨⟨hstart, hend⟩, span, hmem, hlo, hhi⟩
    have hlo' := Location.max_le_iff.mpr ⟨hlo, hstart⟩
    have hhi' := Location.le_min_iff.mpr ⟨hhi, hend⟩
    refine ⟨_, List.mem_filter.mpr ⟨List.mem_map_of_mem hmem, ?_⟩, hlo', hhi'⟩
    rw [decide_eq_true_iff]
    rw [Location.le_iff_key] at hlo' hhi' ⊢
    exact hlo'.trans hhi'

/-- No span is empty or leaves what the response can carry. -/
theorem clip_bounds {spans : List Span} {span : Span} (h : span ∈ a.clip spans) :
    span.1 ≤ span.2 ∧ a.start ≤ span.1 ∧ span.2 ≤ a.end_ := by
  obtain ⟨hmem, hle⟩ := List.mem_filter.mp h
  obtain ⟨other, -, rfl⟩ := List.mem_map.mp hmem
  refine ⟨by simpa using hle, ?_, ?_⟩
  · have hself := (Location.le_iff_key (a := Location.max other.1 a.start)).mpr le_rfl
    exact (Location.max_le_iff.mp hself).2
  · have hself := (Location.le_iff_key (b := Location.min other.2 a.end_)).mpr le_rfl
    exact (Location.le_min_iff.mp hself).2

theorem covers_spanOf_next (last : Location) (end_ : Option Location) :
    Covers (spanOf last.next end_) l ↔ ∃ e, end_ = some e ∧ last.key < l.key ∧ l ≤ e := by
  have hnext := last.next_key
  have hl := l.key_lt
  unfold spanOf
  cases hn : last.next with
  | none =>
    rw [hn] at hnext
    simp only at hnext
    simp only [covers_nil, false_iff, not_exists, not_and]
    omega
  | some n =>
    rw [hn] at hnext
    simp only at hnext
    cases end_ with
    | none => simp
    | some e =>
      simp only [covers_singleton, Option.some_inj, exists_eq_left', Location.le_iff_key, hnext]
      omega

theorem le_prev_iff {upTo : Location} : (∃ e, upTo.prev = some e ∧ l ≤ e) ↔ l.key < upTo.key := by
  have hprev := upTo.prev_key
  cases hp : upTo.prev with
  | none =>
    rw [hp] at hprev
    simp only at hprev
    simp only [reduceCtorEq, false_and, exists_false, false_iff]
    omega
  | some p =>
    rw [hp] at hprev
    simp only at hprev
    simp only [Option.some_inj, exists_eq_left', Location.le_iff_key]
    omega

theorem covers_spanOf (last upTo : Location) :
    Covers (spanOf last.next upTo.prev) l ↔ last.key < l.key ∧ l.key < upTo.key := by
  rw [covers_spanOf_next, ← @le_prev_iff l upTo]
  constructor
  · rintro ⟨e, he, hlt, hle⟩
    exact ⟨hlt, e, he, hle⟩
  · rintro ⟨hlt, e, he, hle⟩
    exact ⟨e, he, hlt, hle⟩

theorem covers_headOf : Covers (headOf upTo) l ↔ l.group = upTo.group ∧ l.object < upTo.object := by
  unfold headOf
  rw [covers_ite, Location.le_iff_key, Location.le_iff_key, gt_iff_lt, UInt64.lt_iff_toNat_lt,
    UInt64.lt_iff_toNat_lt, ← UInt64.toNat_inj]
  have hl := l.object.toNat_lt
  have hupTo := upTo.object.toNat_lt
  have hpred := FetchState.toNat_sub_one (v := upTo.object)
  unfold Location.key
  show _ ∧ upTo.group.toNat * 2 ^ 64 + 0 ≤ _ ∧ _ ↔ _
  show 0 < upTo.object.toNat ∧ _ ↔ _
  simp only
  omega

/-- The rest of a group, up to what the response can carry of it. -/
theorem covers_restOf (hend : l ≤ a.end_) :
    Covers (a.restOf last) l ↔ l.group = last.group ∧ last.object.toNat < l.object.toNat := by
  have hl := l.object.toNat_lt
  unfold restOf
  rw [covers_ite, Location.le_iff_key, Location.le_iff_key, UInt64.lt_iff_toNat_lt,
    ← UInt64.toNat_inj]
  rw [Location.le_iff_key] at hend
  -- what the response can carry of the group is enough for `l`
  have hgroupEnd : l.group.toNat = last.group.toNat →
      l.object.toNat ≤ (a.groupEnd last.group).toNat := by
    intro hgroup
    unfold groupEnd
    unfold Location.key at hend
    split
    · next heq =>
      rw [← UInt64.toNat_inj] at heq
      omega
    · rw [Location.toNat_maxId]
      omega
  have hlast := last.object.toNat_lt
  have hbound := (a.groupEnd last.group).toNat_lt
  have hsucc : last.object.toNat < (a.groupEnd last.group).toNat →
      (last.object + 1).toNat = last.object.toNat + 1 := fun hlt =>
    CachedGroup.toNat_add_one (UInt64.lt_iff_toNat_lt.mpr hlt)
  unfold Location.key
  simp only
  constructor
  · rintro ⟨hlt, hlo, hhi⟩
    rw [hsucc hlt] at hlo
    omega
  · rintro ⟨hgroup, hlt⟩
    have hle := hgroupEnd hgroup
    rw [hsucc (by omega)]
    omega

theorem first_le_iff {group : UInt64} :
    (⟨group, 0⟩ : Location) ≤ l ↔ group.toNat ≤ l.group.toNat := by
  have hl := l.object.toNat_lt
  rw [Location.le_iff_key]
  show group.toNat * 2 ^ 64 + 0 ≤ l.group.toNat * 2 ^ 64 + l.object.toNat ↔ _
  omega

theorem le_last_iff {group : UInt64} :
    l ≤ (⟨group, maxId⟩ : Location) ↔ l.group.toNat ≤ group.toNat := by
  have hl := l.object.toNat_lt
  rw [Location.le_iff_key]
  show l.group.toNat * 2 ^ 64 + l.object.toNat ≤ group.toNat * 2 ^ 64 + (2 ^ 64 - 1) ↔ _
  omega

theorem ahead_ascending (hdesc : a.descending = false) (hlast : a.last = some last) :
    a.Ahead l ↔ last.key < l.key := by
  simp [Ahead, hlast, pos, hdesc, deliveryPos_ascending]

theorem ahead_descending (hdesc : a.descending = true) (hlast : a.last = some last) :
    a.Ahead l ↔ l.group.toNat < last.group.toNat ∨
      (last.group = l.group ∧ last.object.toNat < l.object.toNat) := by
  simp [Ahead, hlast, pos, hdesc, deliveryPos_descending_lt_iff]

theorem ahead_of_none (hlast : a.last = none) : a.Ahead l := by simp [Ahead, hlast]

/-- The spans before an entry are what lies between the last one and it. -/
theorem covers_between (hahead : a.Ahead upTo) :
    Covers (a.between upTo) l ↔ a.Carries l ∧ a.Ahead l ∧ a.pos l < a.pos upTo := by
  unfold between
  cases hdesc : a.descending with
  | false =>
    simp only [Bool.not_false, if_true]
    rw [covers_clip]
    refine and_congr_right fun hcarries => ?_
    rw [pos, pos, hdesc, deliveryPos_ascending, deliveryPos_ascending]
    cases hlast : a.last with
    | none =>
      rw [iff_true_intro (ahead_of_none hlast), true_and, ← le_prev_iff]
      unfold spanOf
      cases upTo.prev with
      | none => simp
      | some e => simp [hcarries.1]
    | some last => rw [covers_spanOf, ahead_ascending hdesc hlast]
  | true =>
    simp only [Bool.not_true, Bool.false_eq_true, if_false]
    have hl := l.group.toNat_lt
    have hupTo := upTo.group.toNat_lt
    have hobject := l.object.toNat_lt
    have hobject' := upTo.object.toNat_lt
    rw [pos, pos, hdesc, deliveryPos_descending_lt_iff]
    cases hlast : a.last with
    | none =>
      -- the groups above that of the entry, from the highest down, and the start of its own
      simp only
      rw [covers_clip, covers_append, covers_headOf, covers_ite]
      refine and_congr_right fun hcarries => ?_
      have hend := Location.group_le hcarries.2
      have hsucc : upTo.group.toNat < a.end_.group.toNat →
          (upTo.group + 1).toNat = upTo.group.toNat + 1 := fun hlt =>
        CachedGroup.toNat_add_one (UInt64.lt_iff_toNat_lt.mpr hlt)
      simp only [iff_true_intro (ahead_of_none hlast), true_and, UInt64.lt_iff_toNat_lt, first_le_iff,
        iff_true_intro hcarries.2, and_true]
      refine or_congr_left ⟨fun h => ?_, fun h => ?_⟩
      · rw [hsucc h.1] at h
        omega
      · rw [hsucc (by omega)]
        omega
    | some last =>
      rw [ahead_descending hdesc hlast] at hahead ⊢
      simp only
      split
      · next hsame =>
        rw [covers_clip, covers_spanOf]
        refine and_congr_right fun hcarries => ?_
        have hlast' := last.object.toNat_lt
        rw [← UInt64.toNat_inj] at hsame
        rw [← UInt64.toNat_inj, ← UInt64.toNat_inj]
        unfold Location.key
        omega
      · next hother =>
        -- the rest of the last group, the groups skipped and the start of the group of the entry
        rw [covers_clip, covers_append, covers_append, covers_headOf, covers_ite]
        refine and_congr_right fun hcarries => ?_
        have hlower : upTo.group.toNat < last.group.toNat :=
          hahead.resolve_right fun h => hother h.1
        have hsucc : (upTo.group + 1).toNat = upTo.group.toNat + 1 :=
          CachedGroup.toNat_add_one (UInt64.lt_iff_toNat_lt.mpr hlower)
        have hpred : (last.group - 1).toNat = last.group.toNat - 1 :=
          FetchState.toNat_sub_one (by omega)
        simp only [covers_restOf hcarries.2, first_le_iff, le_last_iff, UInt64.lt_iff_toNat_lt, hsucc,
          hpred, ← UInt64.toNat_inj]
        omega

theorem onEnd_covers (closedCleanly : Bool) :
    Covers (a.onEnd closedCleanly) l ↔
      (closedCleanly = true ∧ a.fetchOk = true) ∧ a.Carries l ∧ a.Ahead l := by
  unfold onEnd
  by_cases hover : closedCleanly && a.fetchOk
  · rw [if_neg (by simp [hover]), iff_true_intro (Bool.and_eq_true_iff.mp hover), true_and]
    cases hlast : a.last with
    | none =>
      simp only
      rw [covers_clip, covers_singleton]
      exact and_congr_right fun hcarries =>
        iff_of_true hcarries (ahead_of_none hlast)
    | some last =>
      cases hdesc : a.descending with
      | false =>
        simp only
        rw [covers_clip, covers_spanOf_next, ahead_ascending hdesc hlast]
        refine and_congr_right fun hcarries => ?_
        simp [hcarries.2]
      | true =>
        simp only
        rw [covers_clip, covers_append, covers_ite, ahead_descending hdesc hlast]
        refine and_congr_right fun hcarries => ?_
        have hstart := Location.group_le hcarries.1
        have hpred : 0 < last.group.toNat → (last.group - 1).toNat = last.group.toNat - 1 :=
          FetchState.toNat_sub_one
        simp only [covers_restOf hcarries.2, le_last_iff, UInt64.lt_iff_toNat_lt,
          iff_true_intro hcarries.1, true_and, eq_comm (a := l.group)]
        rw [or_comm]
        refine or_congr_left ⟨fun h => ?_, fun h => ?_⟩
        · rw [hpred (by omega)] at h
          omega
        · rw [hpred (by omega)]
          omega
  · have hopen : (closedCleanly && a.fetchOk) = false := by simpa using hover
    rw [hopen]
    simp only [Bool.not_false, if_true, covers_nil, false_iff, not_and]
    exact fun h => absurd (Bool.and_eq_true_iff.mpr h) hover

/-! A whole response. -/

def onEntry (a : ResponseAbsences) : FetchObject → ResponseAbsences × List Span
  | .object o => a.onObject o.location
  | .endOfRange kind location => a.onMarker kind location

/-- The spans of the entries, one after the other. -/
def onEntries : ResponseAbsences → List FetchObject → ResponseAbsences × List Span
  | a, [] => (a, [])
  | a, entry :: entries =>
    let (a, spans) := a.onEntry entry
    let (a, more) := onEntries a entries
    (a, spans ++ more)

/-- What `FETCH_OK` leaves to be followed. -/
def accepted (start end_ : Location) (groupOrder : GroupOrder) (endLocation : Option Location) :
    ResponseAbsences :=
  match endLocation with
  | some endLocation => (new start end_ groupOrder).onFetchOk endLocation
  | none => new start end_ groupOrder

/-- The spans of a response that starts with FETCH_OK, if that comes at all. -/
def ofResponse (start end_ : Location) (groupOrder : GroupOrder) (endLocation : Option Location)
    (entries : List FetchObject) (closedCleanly : Bool) : List Span :=
  let (a, spans) := (accepted start end_ groupOrder endLocation).onEntries entries
  spans ++ a.onEnd closedCleanly

/-- The entries come in delivery order. -/
def InOrder (a : ResponseAbsences) (entries : List FetchObject) : Prop :=
  (entries.map fun entry => a.pos entry.location).Pairwise (· < ·)

/-- A response has neither an Object there nor a marker that leaves the Location open. -/
def Lacks (a : ResponseAbsences) (entries : List FetchObject) (l : Location) : Prop :=
  (∀ o, .object o ∈ entries → o.location ≠ l) ∧ ¬ MarkedUnknown a.descending entries l

/-- The Location is delivered up to the last entry. -/
def Reached (a : ResponseAbsences) (entries : List FetchObject) (l : Location) : Prop :=
  ∃ entry ∈ entries, a.pos l ≤ a.pos entry.location

theorem onEntries_cons (a : ResponseAbsences) (entry : FetchObject) (entries : List FetchObject) :
    a.onEntries (entry :: entries) = (((a.onEntry entry).1.onEntries entries).1,
      (a.onEntry entry).2 ++ ((a.onEntry entry).1.onEntries entries).2) := rfl

theorem onEntry_fst (a : ResponseAbsences) (entry : FetchObject) :
    (a.onEntry entry).1 = { a with last := some entry.location } := by
  cases entry <;> rfl

/-- The spans of one entry. -/
theorem covers_onEntry {entry : FetchObject} (hahead : a.Ahead entry.location) :
    Covers (a.onEntry entry).2 l ↔ a.Carries l ∧ a.Ahead l ∧ a.pos l ≤ a.pos entry.location ∧
      ¬ entry.Unsure ∧ ∀ o, entry = .object o → o.location ≠ l := by
  have hlt_iff : ∀ upTo, a.pos l < a.pos upTo ↔ a.pos l ≤ a.pos upTo ∧ upTo ≠ l := by
    intro upTo
    rw [lt_iff_le_and_ne]
    refine and_congr_right fun _ => not_congr ⟨fun h => (deliveryPos_inj h).symm, fun h => ?_⟩
    rw [h]
  cases entry with
  | object o =>
    have hahead : a.Ahead o.location := hahead
    show Covers (a.between o.location) l ↔ _
    rw [covers_between hahead]
    simp only [FetchObject.location, hlt_iff, FetchObject.Unsure, not_false_eq_true, true_and,
      FetchObject.object.injEq, forall_eq']
  | endOfRange kind location =>
    have hahead : a.Ahead location := hahead
    have hboth : Covers (a.between location ++ [(location, location)]) l ↔
        (a.Carries l ∧ a.Ahead l ∧ a.pos l < a.pos location) ∨ l = location := by
      rw [covers_append, covers_between hahead, covers_singleton, ← Location.key_inj,
        Location.le_iff_key, Location.le_iff_key, Nat.le_antisymm_iff, and_comm (a := l.key ≤ _)]
    show Covers (if kind = .nonExistent then a.clip (a.between location ++ [(location, location)])
      else []) l ↔ _
    split
    · next hkind =>
      rw [covers_clip, hboth]
      simp only [FetchObject.Unsure, hkind, ne_eq, not_true_eq_false, not_false_eq_true,
        reduceCtorEq, false_implies, implies_true, and_true, FetchObject.location]
      refine and_congr_right fun hcarries => ⟨?_, ?_⟩
      · rintro (⟨-, hl, hlt⟩ | rfl)
        · exact ⟨hl, hlt.le⟩
        · exact ⟨hahead, le_rfl⟩
      · rintro ⟨hl, hle⟩
        rcases Nat.lt_or_eq_of_le hle with hlt | heq
        · exact Or.inl ⟨hcarries, hl, hlt⟩
        · exact Or.inr (deliveryPos_inj heq)
    · next hkind =>
      simp [FetchObject.Unsure, hkind]

variable {entry : FetchObject} {entries : List FetchObject}

theorem markedUnknown_cons_of_le (hle : a.pos l ≤ a.pos entry.location) :
    MarkedUnknown a.descending (entry :: entries) l ↔ entry.Unsure := by
  constructor
  · rintro ⟨before, marker, after, hsplit, hunsure, -, hbefore⟩
    cases before with
    | nil =>
      rw [List.nil_append, List.cons.injEq] at hsplit
      exact hsplit.1 ▸ hunsure
    | cons first before =>
      rw [List.cons_append, List.cons.injEq] at hsplit
      have hlt := hbefore first List.mem_cons_self
      rw [← hsplit.1] at hlt
      exact absurd hle (not_le.mpr hlt)
  · exact fun hunsure => ⟨[], entry, entries, rfl, hunsure, hle, fun _ h => absurd h List.not_mem_nil⟩

theorem markedUnknown_cons_of_lt (hlt : a.pos entry.location < a.pos l) :
    MarkedUnknown a.descending (entry :: entries) l ↔ MarkedUnknown a.descending entries l := by
  constructor
  · rintro ⟨before, marker, after, hsplit, hunsure, hle, hbefore⟩
    cases before with
    | nil =>
      rw [List.nil_append, List.cons.injEq] at hsplit
      rw [← hsplit.1] at hle
      exact absurd hle (not_le.mpr hlt)
    | cons first before =>
      rw [List.cons_append, List.cons.injEq] at hsplit
      exact ⟨before, marker, after, hsplit.2, hunsure, hle,
        fun earlier h => hbefore earlier (List.mem_cons_of_mem _ h)⟩
  · rintro ⟨before, marker, after, rfl, hunsure, hle, hbefore⟩
    refine ⟨entry :: before, marker, after, rfl, hunsure, hle, ?_⟩
    rw [List.forall_mem_cons]
    exact ⟨hlt, hbefore⟩

/-- A Location up to the next entry is lacking unless that is its Object or leaves it open. -/
theorem lacks_cons_of_le (hle : a.pos l ≤ a.pos entry.location)
    (hlater : ∀ later ∈ entries, a.pos entry.location < a.pos later.location) :
    a.Lacks (entry :: entries) l ↔
      ¬ entry.Unsure ∧ ∀ o, entry = .object o → o.location ≠ l := by
  unfold Lacks
  rw [markedUnknown_cons_of_le hle, and_comm]
  refine and_congr_right fun _ => ⟨fun h o ho => h o (ho ▸ List.mem_cons_self), fun h o ho => ?_⟩
  rcases List.mem_cons.mp ho with heq | hmem
  · exact h o heq.symm
  · rintro rfl
    have hlt : a.pos entry.location < a.pos o.location := hlater (.object o) hmem
    exact absurd hle (not_le.mpr hlt)

/-- An entry says nothing of the Locations after it. -/
theorem lacks_cons_of_lt (hlt : a.pos entry.location < a.pos l) :
    a.Lacks (entry :: entries) l ↔ a.Lacks entries l := by
  unfold Lacks
  rw [markedUnknown_cons_of_lt hlt]
  refine and_congr_left fun _ => ⟨fun h o ho => h o (List.mem_cons_of_mem _ ho), fun h o ho => ?_⟩
  rcases List.mem_cons.mp ho with heq | hmem
  · rintro rfl
    rw [← heq] at hlt
    exact absurd hlt (lt_irrefl _)
  · exact h o hmem

theorem reached_cons : a.Reached (entry :: entries) l ↔
    a.pos l ≤ a.pos entry.location ∨ a.Reached entries l := by
  simp [Reached]

theorem inOrder_cons (h : a.InOrder (entry :: entries)) :
    (∀ later ∈ entries, a.pos entry.location < a.pos later.location) ∧ a.InOrder entries := by
  have hpair := List.pairwise_cons.mp h
  exact ⟨fun later hmem => hpair.1 _ (List.mem_map_of_mem hmem), hpair.2⟩

theorem ahead_last_iff (last : Location) :
    ({ a with last := some last } : ResponseAbsences).Ahead l ↔ a.pos last < a.pos l := by
  simp [Ahead, pos]

/-- The spans of the entries cover what they lack, up to the last of them. -/
theorem covers_onEntries (horder : a.InOrder entries)
    (hahead : ∀ entry ∈ entries, a.Ahead entry.location) :
    Covers (a.onEntries entries).2 l ↔
      a.Carries l ∧ a.Ahead l ∧ a.Reached entries l ∧ a.Lacks entries l := by
  induction entries generalizing a with
  | nil => simp [onEntries, Reached]
  | cons entry entries ih =>
    obtain ⟨hlater, horder'⟩ := inOrder_cons horder
    rw [List.forall_mem_cons] at hahead
    have hrest : Covers (onEntries { a with last := some entry.location } entries).2 l ↔
        a.Carries l ∧ a.pos entry.location < a.pos l ∧ a.Reached entries l ∧ a.Lacks entries l := by
      rw [ih (a := { a with last := some entry.location }) horder' fun later hmem => (ahead_last_iff _).mpr (hlater later hmem), ahead_last_iff]
      rfl
    rw [onEntries_cons, onEntry_fst, covers_append, covers_onEntry hahead.1, hrest, reached_cons]
    by_cases hle : a.pos l ≤ a.pos entry.location
    · rw [lacks_cons_of_le hle hlater]
      simp only [iff_true_intro hle, iff_false_intro (not_lt.mpr hle), true_and, true_or, false_and,
        and_false, or_false]
    · have hlt := not_le.mp hle
      rw [lacks_cons_of_lt hlt]
      have hl : a.Ahead l := fun last hlast => (hahead.1 last hlast).trans hlt
      simp only [iff_true_intro hlt, iff_false_intro hle, iff_true_intro hl, true_and, false_and,
        and_false, false_or]

/-- What is left after the entries is what they have not reached. -/
theorem ahead_onEntries (horder : a.InOrder entries)
    (hahead : ∀ entry ∈ entries, a.Ahead entry.location) :
    (a.onEntries entries).1.Ahead l ↔ a.Ahead l ∧ ¬ a.Reached entries l := by
  induction entries generalizing a with
  | nil => simp [onEntries, Reached]
  | cons entry entries ih =>
    obtain ⟨hlater, horder'⟩ := inOrder_cons horder
    rw [List.forall_mem_cons] at hahead
    have hrest : (onEntries { a with last := some entry.location } entries).1.Ahead l ↔
        a.pos entry.location < a.pos l ∧ ¬ a.Reached entries l := by
      rw [ih (a := { a with last := some entry.location }) horder' fun later hmem => (ahead_last_iff _).mpr (hlater later hmem), ahead_last_iff]
      rfl
    rw [onEntries_cons, onEntry_fst, reached_cons, not_or, not_le]
    refine hrest.trans ⟨fun h => ⟨fun last hlast => ?_, h⟩, fun h => h.2⟩
    exact (hahead.1 last hlast).trans h.1

theorem onEntries_fst (a : ResponseAbsences) (entries : List FetchObject) :
    (a.onEntries entries).1.start = a.start ∧ (a.onEntries entries).1.end_ = a.end_ ∧
      (a.onEntries entries).1.fetchOk = a.fetchOk := by
  induction entries generalizing a with
  | nil => exact ⟨rfl, rfl, rfl⟩
  | cons entry entries ih =>
    rw [onEntries_cons, onEntry_fst]
    exact ih _

/-- What no entry has reached, none has. -/
theorem lacks_of_not_reached (h : ¬ a.Reached entries l) : a.Lacks entries l := by
  refine ⟨fun o ho => ?_, ?_⟩
  · rintro rfl
    exact h ⟨_, ho, le_rfl⟩
  · rintro ⟨before, marker, after, rfl, -, hle, -⟩
    exact h ⟨marker, List.mem_append_right _ List.mem_cons_self, hle⟩

/-- The Locations that a response can carry: a descending one across groups carries each group
whole, and an End Location that is said cuts it short. -/
def deliverable (start end_ : Location) (groupOrder : GroupOrder) (endLocation : Option Location) :
    Location × Location :=
  (deliveredStart start end_ groupOrder,
    match endLocation with
    | some endLocation => Location.min end_ endLocation
    | none => end_)

theorem carries_accepted (start end_ : Location) (groupOrder : GroupOrder)
    (endLocation : Option Location) :
    (accepted start end_ groupOrder endLocation).start =
        (deliverable start end_ groupOrder endLocation).1 ∧
      (accepted start end_ groupOrder endLocation).end_ =
        (deliverable start end_ groupOrder endLocation).2 := by
  cases endLocation with
  | none => exact ⟨rfl, rfl⟩
  | some endLocation =>
    refine ⟨rfl, ?_⟩
    show (if endLocation < end_ then endLocation else end_) = Location.min end_ endLocation
    unfold Location.min
    split
    · next hlt =>
      rw [if_neg]
      rw [Location.lt_iff_key] at hlt
      rw [Location.le_iff_key]
      omega
    · next hge =>
      rw [if_pos]
      rw [Location.lt_iff_key] at hge
      rw [Location.le_iff_key]
      omega

theorem accepted_last (start end_ : Location) (groupOrder : GroupOrder)
    (endLocation : Option Location) : (accepted start end_ groupOrder endLocation).last = none := by
  cases endLocation <;> rfl

theorem accepted_fetchOk (start end_ : Location) (groupOrder : GroupOrder)
    (endLocation : Option Location) :
    (accepted start end_ groupOrder endLocation).fetchOk = true ↔ endLocation ≠ none := by
  cases endLocation <;> simp [accepted, new, onFetchOk]

/-- The span is not empty, and the response can carry all of it. -/
def Fits (a : ResponseAbsences) (span : Span) : Prop :=
  span.1 ≤ span.2 ∧ a.start ≤ span.1 ∧ span.2 ≤ a.end_

theorem between_fits {span : Span} (h : span ∈ a.between upTo) : a.Fits span := by
  unfold between at h
  split at h
  · exact clip_bounds h
  · split at h
    · split at h
      · exact clip_bounds h
      · exact clip_bounds h
    · exact clip_bounds h

theorem onEntry_fits {span : Span} (h : span ∈ (a.onEntry entry).2) : a.Fits span := by
  cases entry with
  | object o => exact between_fits h
  | endOfRange kind location =>
    have h : span ∈ if kind = .nonExistent then
      a.clip (a.between location ++ [(location, location)]) else [] := h
    split at h
    · exact clip_bounds h
    · exact absurd h List.not_mem_nil

theorem onEntries_fits {span : Span} (h : span ∈ (a.onEntries entries).2) : a.Fits span := by
  induction entries generalizing a with
  | nil => exact absurd h List.not_mem_nil
  | cons entry entries ih =>
    rw [onEntries_cons] at h
    rcases List.mem_append.mp h with h | h
    · exact onEntry_fits h
    · have hfits := ih h
      rw [onEntry_fst] at hfits
      exact hfits

theorem onEnd_fits {span : Span} {closedCleanly : Bool} (h : span ∈ a.onEnd closedCleanly) :
    a.Fits span := by
  unfold onEnd at h
  split at h
  · exact absurd h List.not_mem_nil
  · split at h
    · exact clip_bounds h
    · exact clip_bounds h
    · exact clip_bounds h

/-- The spans of a response cover what it lacks of what it can carry: all of it if the response was
whole, and otherwise as far as its entries reach. None of the spans is empty or goes beyond. -/
theorem covers_ofResponse (start end_ : Location) (groupOrder : GroupOrder)
    (endLocation : Option Location) (entries : List FetchObject) (closedCleanly : Bool)
    (horder : (accepted start end_ groupOrder endLocation).InOrder entries) :
    (∀ l, Covers (ofResponse start end_ groupOrder endLocation entries closedCleanly) l ↔
      ((deliverable start end_ groupOrder endLocation).1 ≤ l ∧
        l ≤ (deliverable start end_ groupOrder endLocation).2) ∧
      (accepted start end_ groupOrder endLocation).Lacks entries l ∧
      ((closedCleanly = true ∧ endLocation ≠ none) ∨
        (accepted start end_ groupOrder endLocation).Reached entries l)) ∧
    ∀ span ∈ ofResponse start end_ groupOrder endLocation entries closedCleanly,
      span.1 ≤ span.2 ∧ (deliverable start end_ groupOrder endLocation).1 ≤ span.1 ∧
        span.2 ≤ (deliverable start end_ groupOrder endLocation).2 := by
  obtain ⟨hstart, hend⟩ := carries_accepted start end_ groupOrder endLocation
  have hlast := accepted_last start end_ groupOrder endLocation
  have hok := accepted_fetchOk start end_ groupOrder endLocation
  unfold ofResponse
  rw [← hstart, ← hend, ← hok]
  generalize accepted start end_ groupOrder endLocation = a at horder hlast ⊢
  have hahead : ∀ entry ∈ entries, a.Ahead entry.location := fun entry _ => ahead_of_none hlast
  obtain ⟨hstart', hend', hok'⟩ := onEntries_fst a entries
  constructor
  · intro l
    show Covers ((a.onEntries entries).2 ++ (a.onEntries entries).1.onEnd closedCleanly) l ↔
      a.Carries l ∧ _
    have hcarries : (a.onEntries entries).1.Carries l ↔ a.Carries l := by
      unfold Carries
      rw [hstart', hend']
    rw [covers_append, covers_onEntries horder hahead, onEnd_covers, hok',
      ahead_onEntries horder hahead, hcarries]
    simp only [iff_true_intro (ahead_of_none hlast), true_and]
    by_cases hreached : a.Reached entries l
    · simp only [hreached, not_true_eq_false, true_and, and_false, or_false, or_true, and_true]
    · simp only [hreached, iff_true_intro (lacks_of_not_reached hreached), false_and,
        false_or, or_false, not_false_eq_true, and_true, true_and, and_comm]
  · intro span hspan
    rcases List.mem_append.mp hspan with hspan | hspan
    · exact onEntries_fits hspan
    · have hfits := onEnd_fits hspan
      rwa [Fits, hstart', hend'] at hfits

/-- Objects of two groups, with a marker that leaves the start of the lower one open. -/
def twoGroups : List FetchObject :=
  [.object ⟨9, 0, 1, 128, .subgroup, none, []⟩, .endOfRange .unknown ⟨7, 4⟩,
    .endOfRange .nonExistent ⟨7, 8⟩]

theorem covers_ofResponse_twoGroups :
    (∀ l, Covers (ofResponse ⟨5, 3⟩ ⟨9, 2⟩ .descending (some ⟨9, 2⟩) twoGroups true) l ↔
      ((⟨5, 0⟩ : Location) ≤ l ∧ l ≤ (⟨9, 2⟩ : Location)) ∧
      (accepted ⟨5, 3⟩ ⟨9, 2⟩ .descending (some ⟨9, 2⟩)).Lacks twoGroups l ∧
      ((true = true ∧ some (⟨9, 2⟩ : Location) ≠ none) ∨
        (accepted ⟨5, 3⟩ ⟨9, 2⟩ .descending (some ⟨9, 2⟩)).Reached twoGroups l)) ∧
    ∀ span ∈ ofResponse ⟨5, 3⟩ ⟨9, 2⟩ .descending (some ⟨9, 2⟩) twoGroups true,
      span.1 ≤ span.2 ∧ (⟨5, 0⟩ : Location) ≤ span.1 ∧ span.2 ≤ (⟨9, 2⟩ : Location) :=
  covers_ofResponse ⟨5, 3⟩ ⟨9, 2⟩ .descending (some ⟨9, 2⟩) twoGroups true (by
    unfold InOrder
    decide)

/-- A descending response that brings nothing shows all of its lowest group to be absent, before
the Start Location too. -/
theorem deliveredStart_covered :
    ¬ ∀ (start end_ : Location) (groupOrder : GroupOrder) (endLocation : Option Location)
      (entries : List FetchObject) (closedCleanly : Bool), start ≤ end_ →
      (accepted start end_ groupOrder endLocation).InOrder entries →
      (∀ entry ∈ entries, start ≤ entry.location ∧ entry.location ≤ end_) →
      ∀ l, Covers (ofResponse start end_ groupOrder endLocation entries closedCleanly) l ↔
        (start ≤ l ∧ l ≤ (deliverable start end_ groupOrder endLocation).2) ∧
        (accepted start end_ groupOrder endLocation).Lacks entries l ∧
        ((closedCleanly = true ∧ endLocation ≠ none) ∨
          (accepted start end_ groupOrder endLocation).Reached entries l) := by
  intro h
  have hcovers := h ⟨5, 3⟩ ⟨9, 2⟩ .descending (some ⟨9, 2⟩) [] true (by decide) List.Pairwise.nil
    (fun _ hentry => absurd hentry List.not_mem_nil) ⟨5, 0⟩
  have hspan : Covers (ofResponse ⟨5, 3⟩ ⟨9, 2⟩ .descending (some ⟨9, 2⟩) [] true) ⟨5, 0⟩ :=
    ⟨(⟨5, 0⟩, ⟨9, 2⟩), by decide, by decide, by decide⟩
  exact absurd (hcovers.mp hspan).1.1 (by decide)

end ResponseAbsences

end Moqtail
