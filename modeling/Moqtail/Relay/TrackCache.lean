import Moqtail.Wire.FetchObject

/-! What the relay holds of a group, from `server/track_cache.rs`.

The cache keeps the Objects of a group and, apart from them, ranges of Locations known to
hold none. `objectsIfComplete` hands a group out only when the two account for every Location
asked for. -/
namespace Moqtail

open Lib

/-- The largest Group or Object ID, which also stands for the whole of a group. -/
def maxId : UInt64 := 0xFFFFFFFFFFFFFFFF

theorem le_maxId (id : UInt64) : id ≤ maxId := by
  rw [UInt64.le_iff_toNat_le]
  have h := id.toNat_lt
  show id.toNat ≤ 18446744073709551615
  omega

/-- Inclusive ranges, in the order of their starts. -/
structure AbsentRanges where
  ranges : List (Location × Location)

namespace AbsentRanges

def Holds (a : AbsentRanges) (l : Location) : Prop := ∃ r ∈ a.ranges, r.1 ≤ l ∧ l ≤ r.2

/-- The end of the range holding `l`, if one does. -/
def endContaining (a : AbsentRanges) (l : Location) : Option Location :=
  match (a.ranges.filter fun r => r.1 ≤ l).getLast? with
  | some (_, e) => if l ≤ e then some e else none
  | none => none

theorem endContaining_eq_some {a : AbsentRanges} {l e : Location}
    (h : a.endContaining l = some e) : ∃ s, (s, e) ∈ a.ranges ∧ s ≤ l ∧ l ≤ e := by
  unfold endContaining at h
  split at h
  · next s e' hlast =>
    split at h
    · next hle =>
      cases h
      have hmem := List.mem_filter.mp (List.mem_of_getLast? hlast)
      exact ⟨s, hmem.1, by simpa using hmem.2, hle⟩
    · cases h
  · cases h

/-- Everything from a Location to the end of the range that holds it is absent. -/
theorem holds_of_endContaining {a : AbsentRanges} {l e : Location}
    (h : a.endContaining l = some e) {l' : Location} (hle : l ≤ l') (hend : l' ≤ e) :
    a.Holds l' := by
  obtain ⟨s, hmem, hs, -⟩ := endContaining_eq_some h
  rw [Location.le_iff_key] at hs hle
  exact ⟨(s, e), hmem, Location.le_iff_key.mpr (hs.trans hle), hend⟩

end AbsentRanges

/-- What the cache holds of `group` at one moment. -/
structure CachedGroup (group : UInt64) where
  objects : List FetchObjectPayload
  absent : AbsentRanges
  inGroup : ∀ o ∈ objects, o.groupId = group
  sorted : (objects.map (·.objectId)).Pairwise (· < ·)

namespace CachedGroup

variable {group : UInt64}

def empty (group : UInt64) : CachedGroup group := ⟨[], ⟨[]⟩, by simp, by simp⟩

/-- The objects from `lo` to `hi`. The group is sorted, so they are contiguous. -/
def wanted (c : CachedGroup group) (lo hi : UInt64) : List FetchObjectPayload :=
  (c.objects.dropWhile fun o => o.objectId < lo).takeWhile fun o => o.objectId ≤ hi

/-- Whether each ID from `cursor` to `hi` is absent or at the head of `held`. The cursor moves
on by at least one, so that it is past `hi` when a fuel of `hi + 1 - cursor` is used up. -/
def accounts (a : AbsentRanges) (group hi : UInt64) : Nat → UInt64 → List UInt64 → Bool
  | 0, _, _ => true
  | fuel + 1, cursor, held =>
    if cursor ≤ hi then
      match a.endContaining ⟨group, cursor⟩ with
      | some e =>
        if e.group > group || e.object ≥ hi then true
        else accounts a group hi fuel (e.object + 1) held
      | none =>
        match held with
        | id :: held =>
          if id = cursor then
            match Location.checkedSucc cursor with
            | some next => accounts a group hi fuel next held
            | none => true
          else false
        | [] => false
    else true

def objectsIfComplete (c : CachedGroup group) (lo hi : UInt64) :
    Option (List FetchObjectPayload) :=
  let wanted := c.wanted lo hi
  if accounts c.absent group hi (hi.toNat + 1 - lo.toNat) lo (wanted.map (·.objectId)) then
    some wanted
  else none

theorem toNat_add_one {v hi : UInt64} (h : v < hi) : (v + 1).toNat = v.toNat + 1 := by
  have hhi := hi.toNat_lt
  rw [UInt64.lt_iff_toNat_lt] at h
  rw [UInt64.toNat_add, UInt64.toNat_one, Nat.mod_eq_of_lt (by omega)]

theorem checkedSucc_eq_some {v next : UInt64} (h : Location.checkedSucc v = some next) :
    next.toNat = v.toNat + 1 := by
  unfold Location.checkedSucc at h
  split at h
  · next hlt =>
    cases h
    rw [UInt64.toNat_add, UInt64.toNat_one, Nat.mod_eq_of_lt (by omega)]
  · cases h

theorem checkedSucc_eq_none {v : UInt64} (h : Location.checkedSucc v = none) :
    v.toNat + 1 = 2 ^ 64 := by
  have hv := v.toNat_lt
  unfold Location.checkedSucc at h
  split at h
  · cases h
  · omega

/-- From the cursor to the end of the range it is in, all of the group is absent. -/
theorem holds_below_end {a : AbsentRanges} {cursor id : UInt64} {e : Location}
    (hend : a.endContaining ⟨group, cursor⟩ = some e) (hlo : cursor ≤ id)
    (hle : e.group > group ∨ id ≤ e.object) : a.Holds ⟨group, id⟩ := by
  refine AbsentRanges.holds_of_endContaining hend (Or.inr ⟨rfl, hlo⟩) ?_
  obtain ⟨-, -, -, hcursor⟩ := AbsentRanges.endContaining_eq_some hend
  rcases hle with hgroup | hobject
  · exact Or.inl hgroup
  · rcases hcursor with hgroup | ⟨hgroup, -⟩
    · exact Or.inl hgroup
    · exact Or.inr ⟨hgroup, hobject⟩

theorem cursor_le_end {a : AbsentRanges} {cursor : UInt64} {e : Location}
    (hend : a.endContaining ⟨group, cursor⟩ = some e) (hgroup : ¬ e.group > group) :
    cursor ≤ e.object := by
  obtain ⟨-, -, -, hle⟩ := AbsentRanges.endContaining_eq_some hend
  exact (hle.resolve_left hgroup).2

/-- What the loop accounts for, it has found absent or held. -/
theorem accounts_sound (a : AbsentRanges) (group hi : UInt64) :
    ∀ (fuel : Nat) (cursor : UInt64) (held : List UInt64), hi.toNat + 1 - cursor.toNat ≤ fuel →
      accounts a group hi fuel cursor held = true → ∀ id, cursor ≤ id → id ≤ hi →
        id ∈ held ∨ a.Holds ⟨group, id⟩ := by
  intro fuel
  induction fuel with
  | zero =>
    intro cursor held hfuel _ id hlo hhi
    rw [UInt64.le_iff_toNat_le] at hlo hhi
    omega
  | succ fuel ih =>
    intro cursor held hfuel hacc id hlo hhi
    unfold accounts at hacc
    rw [if_pos (UInt64.le_trans hlo hhi)] at hacc
    split at hacc
    · next e hend =>
      split at hacc
      · next hpast =>
        -- the range reaches to the end of what is asked for
        simp only [Bool.or_eq_true, decide_eq_true_eq, ge_iff_le] at hpast
        refine Or.inr (holds_below_end hend hlo ?_)
        exact hpast.imp_right fun hobject => UInt64.le_trans hhi hobject
      · next hpast =>
        simp only [Bool.or_eq_true, decide_eq_true_eq, not_or, ge_iff_le] at hpast
        have hbelow : e.object < hi := UInt64.not_le.mp hpast.2
        have hcursor := cursor_le_end hend hpast.1
        have hsucc := toNat_add_one hbelow
        by_cases hid : id ≤ e.object
        · exact Or.inr (holds_below_end hend hlo (Or.inr hid))
        · rw [UInt64.le_iff_toNat_le] at hid hcursor
          refine ih (e.object + 1) held (by omega) hacc id ?_ hhi
          rw [UInt64.le_iff_toNat_le]
          omega
    · split at hacc
      · next first rest =>
        split at hacc
        · next heq =>
          subst heq
          by_cases hid : id = first
          · exact Or.inl (by simp [hid])
          · have hne : id.toNat ≠ first.toNat := fun h => hid (UInt64.toNat_inj.mp h)
            have hbound := id.toNat_lt
            rw [UInt64.le_iff_toNat_le] at hlo
            split at hacc
            · next next hnext =>
              have hsucc := checkedSucc_eq_some hnext
              refine (ih next rest (by omega) hacc id ?_ hhi).imp_left (List.mem_cons_of_mem _)
              rw [UInt64.le_iff_toNat_le]
              omega
            · next hnone =>
              have hlast := checkedSucc_eq_none hnone
              omega
        · cases hacc
      · cases hacc

/-- A group that is handed out is accounted for, Location by Location. -/
theorem objectsIfComplete_sound {c : CachedGroup group} {lo hi : UInt64}
    {objects : List FetchObjectPayload} (h : c.objectsIfComplete lo hi = some objects) {id : UInt64}
    (hlo : lo ≤ id) (hhi : id ≤ hi) :
    (∃ o ∈ objects, o.location = ⟨group, id⟩) ∨ c.absent.Holds ⟨group, id⟩ := by
  unfold objectsIfComplete at h
  simp only at h
  split at h
  · next hacc =>
    cases h
    refine (accounts_sound c.absent group hi _ lo _ le_rfl hacc id hlo hhi).imp_left fun hmem => ?_
    obtain ⟨o, ho, hid⟩ := List.mem_map.mp hmem
    have hcached : o ∈ c.objects :=
      (List.dropWhile_sublist _).mem ((List.takeWhile_sublist _).mem ho)
    exact ⟨o, ho, by rw [FetchObjectPayload.location, c.inGroup o hcached, hid]⟩
  · cases h

theorem objectsIfComplete_inGroup {c : CachedGroup group} {lo hi : UInt64}
    {objects : List FetchObjectPayload} (h : c.objectsIfComplete lo hi = some objects)
    {o : FetchObjectPayload} (ho : o ∈ objects) : o.groupId = group := by
  unfold objectsIfComplete at h
  simp only at h
  split at h
  · cases h
    exact c.inGroup o ((List.dropWhile_sublist _).mem ((List.takeWhile_sublist _).mem ho))
  · cases h

end CachedGroup

end Moqtail
