import Moqtail.Ssts.Membership

/-! The representation invariant of a `SwitchingSetManager` over every sequence of calls: its
three maps, the member lists and the holders of each member agree, and the epoch counts the
changes. -/
namespace Moqtail.Ssts

inductive Call where
  | assign (a : Assignment)
  | release (name : FullTrackName) (requestId : Nat)
  | remove (name : FullTrackName)
  | update (name : FullTrackName) (u : AssignmentUpdate)
deriving DecidableEq

namespace SwitchingSetManager

variable {m : SwitchingSetManager} {s : Nat} {name : FullTrackName} {x : SwitchingSetMember}
  {calls : List Call} {c : Call} {r : Nat}

def call (m : SwitchingSetManager) : Call → SwitchingSetManager
  | .assign a => (m.assign a).2
  | .release name requestId => m.release name requestId
  | .remove name => m.remove name
  | .update name u => (m.updateAssignment name u).2

def afterCalls (calls : List Call) : SwitchingSetManager := calls.foldl call new

@[simp]
theorem afterCalls_concat : afterCalls (calls ++ [c]) = (afterCalls calls).call c := by
  simp [afterCalls]

/-- Whatever the relay ids, the sets and the map from tracks stay in step. -/
theorem tracked_afterCalls (calls : List Call) : (afterCalls calls).Tracked := by
  induction calls using List.reverseRecOn with
  | nil => exact Consistent.new.toTracked
  | append_singleton calls c ih =>
    rw [afterCalls_concat]
    cases c with
    | assign a => exact ih.assign a
    | release n requestId => exact ih.release n requestId
    | remove n => exact ih.remove n
    | update n u => exact ih.update n u

/-- The request assigned the track, the track has been in a set ever since, and the request
has not been released. -/
def HeldBy (calls : List Call) (name : FullTrackName) (r : Nat) : Prop :=
  ∃ earlier a later, calls = earlier ++ Call.assign a :: later ∧
    ((afterCalls earlier).assign a).1 = .ok () ∧ a.fullTrackName = name ∧ a.requestId = r ∧
    Call.release name r ∉ later ∧
    ∀ k, (afterCalls (earlier ++ Call.assign a :: later.take k)).trackToSet name ≠ none

theorem HeldBy.tracked (h : HeldBy calls name r) : (afterCalls calls).trackToSet name ≠ none := by
  obtain ⟨earlier, a, later, rfl, -, -, -, -, hthere⟩ := h
  simpa using hthere later.length

theorem heldBy_concat : HeldBy (calls ++ [c]) name r ↔
    ((afterCalls calls).call c).trackToSet name ≠ none ∧
      ((HeldBy calls name r ∧ c ≠ .release name r) ∨
        ∃ a, c = .assign a ∧ ((afterCalls calls).assign a).1 = .ok () ∧
          a.fullTrackName = name ∧ a.requestId = r) := by
  constructor
  · intro h
    refine ⟨by simpa using h.tracked, ?_⟩
    obtain ⟨earlier, a, later, heq, hok, hname, hr, hnot, hthere⟩ := h
    obtain rfl | ⟨later', c', rfl⟩ := List.eq_nil_or_concat later
    · obtain ⟨rfl, hc⟩ := List.append_inj' heq rfl
      exact .inr ⟨a, List.singleton_inj.mp hc, hok, hname, hr⟩
    · simp only [List.concat_eq_append] at *
      rw [← List.cons_append, ← List.append_assoc] at heq
      obtain ⟨rfl, hc⟩ := List.append_inj' heq rfl
      obtain rfl := List.singleton_inj.mp hc
      refine .inl ⟨⟨earlier, a, later', rfl, hok, hname, hr, by grind, ?_⟩, by grind⟩
      intro k
      have := hthere (min k later'.length)
      rwa [List.take_append_of_le_length (Nat.min_le_right _ _), ← List.take_take,
        List.take_length] at this
  · rintro ⟨hthere, ⟨⟨earlier, a, later, rfl, hok, hname, hr, hnot, hbefore⟩, hne⟩ |
      ⟨a, rfl, hok, hname, hr⟩⟩
    · refine ⟨earlier, a, later ++ [c], by simp, hok, hname, hr, by grind, ?_⟩
      intro k
      obtain hk | hk := Nat.lt_or_ge later.length k
      · rw [List.take_of_length_le (by simp; omega)]
        rw [← afterCalls_concat] at hthere
        simpa using hthere
      · rw [List.take_append_of_le_length hk]
        exact hbefore k
    · refine ⟨calls, a, [], rfl, hok, hname, hr, List.not_mem_nil, ?_⟩
      intro k
      rw [← afterCalls_concat] at hthere
      simpa using hthere

/-- Distinct tracks carry distinct relay ids. -/
def DistinctRelayIds (calls : List Call) : Prop :=
  ∀ a b, Call.assign a ∈ calls → Call.assign b ∈ calls → a.relayTrackId = b.relayTrackId →
    a.fullTrackName = b.fullTrackName

/-- `Consistent`, and what the members owe to the calls that made them. -/
structure Owed (m : SwitchingSetManager) (calls : List Call) : Prop where
  consistent : m.Consistent
  assigned : ∀ s x, m.Member s x → ∃ a, Call.assign a ∈ calls ∧
    a.fullTrackName = x.fullTrackName ∧ a.relayTrackId = x.relayTrackId
  nonempty : ∀ s x, m.Member s x → x.holders.Nonempty
  held : ∀ s x, m.Member s x → ∀ r, r ∈ x.holders ↔ HeldBy calls x.fullTrackName r

theorem Owed.assign {a : Assignment} (h : (afterCalls calls).Owed calls)
    (hdistinct : DistinctRelayIds (calls ++ [.assign a])) :
    (afterCalls (calls ++ [.assign a])).Owed (calls ++ [.assign a]) := by
  have hconsistent : (afterCalls (calls ++ [.assign a])).Consistent := by
    rw [afterCalls_concat]
    apply h.consistent.assign
    intro s x hx hrelay
    obtain ⟨b, hb, hname, hid⟩ := h.assigned s x hx
    rw [← hname]
    exact hdistinct b a (by simp [hb]) (by simp) (hid.trans hrelay)
  by_cases ha : (afterCalls calls).accepts a
  · obtain ⟨hok, hmember, -, -, -, -⟩ := h.consistent.assign_spec ha
    have hthere := fun s x (hx : (afterCalls (calls ++ [.assign a])).Member s x) =>
      hconsistent.member_trackToSet hx
    have hnamed : ∀ x, (afterCalls calls).memberNamed a.fullTrackName = some x ↔ _ :=
      fun x => h.consistent.memberNamed_eq_some
    simp only [afterCalls_concat, call] at hconsistent hthere ⊢
    refine ⟨hconsistent, ?_, ?_, ?_⟩
    · intro s x hx
      obtain ⟨hx, -⟩ | ⟨-, rfl⟩ := (hmember s x).mp hx
      · obtain ⟨b, hb, h⟩ := h.assigned s x hx
        exact ⟨b, by simp [hb], h⟩
      · exact ⟨a, by simp, rfl, rfl⟩
    · intro s x hx
      obtain ⟨hx, -⟩ | ⟨-, rfl⟩ := (hmember s x).mp hx
      · exact h.nonempty s x hx
      · exact Finset.insert_nonempty _ _
    · intro s x hx r
      rw [heldBy_concat]
      simp only [call, hthere s x hx]
      obtain ⟨hx, hne⟩ | ⟨-, rfl⟩ := (hmember s x).mp hx
      · have := h.held s x hx r
        grind
      · cases hold : (afterCalls calls).memberNamed a.fullTrackName with
        | none =>
          have : ¬ HeldBy calls a.fullTrackName r := by
            intro hheld
            obtain ⟨s', hs'⟩ := Option.ne_none_iff_exists'.mp hheld.tracked
            obtain ⟨y, hy, hname⟩ := (h.consistent.tracked _ _).mp hs'
            exact h.consistent.memberNamed_eq_none.mp hold s' y hy hname
          simp [SwitchingSetManager.assigned, Assignment.member, this, hok, eq_comm]
        | some y =>
          obtain ⟨⟨s', hy⟩, hname⟩ := (hnamed y).mp hold
          have := h.held s' y hy r
          rw [hname] at this
          simp [SwitchingSetManager.assigned, Assignment.member, this, hok, eq_comm, or_comm]
  · have hsame : afterCalls (calls ++ [.assign a]) = afterCalls calls := by
      simp [call, assign_of_refused ha]
    rw [hsame] at hconsistent ⊢
    refine ⟨hconsistent, ?_, h.nonempty, ?_⟩
    · intro s x hx
      obtain ⟨b, hb, h⟩ := h.assigned s x hx
      exact ⟨b, by simp [hb], h⟩
    · intro s x hx r
      rw [heldBy_concat, h.held s x hx]
      have hthere := hconsistent.member_trackToSet hx
      simp [call, assign_of_refused ha, hthere]

/-- A call other than an assignment, which leaves the members it keeps as they were up to
`f`, and their holders as the history has them. -/
theorem Owed.describe (h : (afterCalls calls).Owed calls) {f : SwitchingSetMember → SwitchingSetMember}
    (hcall : ∀ a, c ≠ .assign a)
    (hconsistent : (afterCalls (calls ++ [c])).Consistent)
    (hmember : ∀ s x, (afterCalls (calls ++ [c])).Member s x →
      ∃ y, (afterCalls calls).Member s y ∧ x = f y ∧ (f y).holders.Nonempty)
    (hname : ∀ y, (f y).fullTrackName = y.fullTrackName)
    (hrelay : ∀ y, (f y).relayTrackId = y.relayTrackId)
    (hholders : ∀ y r, r ∈ (f y).holders ↔ r ∈ y.holders ∧ c ≠ .release y.fullTrackName r) :
    (afterCalls (calls ++ [c])).Owed (calls ++ [c]) := by
  refine ⟨hconsistent, ?_, ?_, ?_⟩
  · intro s x hx
    obtain ⟨y, hy, rfl, -⟩ := hmember s x hx
    obtain ⟨a, ha, haname, hid⟩ := h.assigned s y hy
    exact ⟨a, by simp [ha], haname.trans (hname y).symm, hid.trans (hrelay y).symm⟩
  · intro s x hx
    obtain ⟨y, -, rfl, hne⟩ := hmember s x hx
    exact hne
  · intro s x hx r
    have hthere := hconsistent.member_trackToSet hx
    obtain ⟨y, hy, rfl, -⟩ := hmember s x hx
    rw [afterCalls_concat] at hthere
    rw [heldBy_concat, hholders, h.held s y hy, hname] at *
    simp only [hthere]
    grind

theorem Owed.remove (h : (afterCalls calls).Owed calls) (n : FullTrackName) :
    (afterCalls (calls ++ [.remove n])).Owed (calls ++ [.remove n]) := by
  have hconsistent := h.consistent.remove n
  apply h.describe (f := id)
  · intro a ha
    cases ha
  · simpa [call] using hconsistent
  · intro s x hx
    rw [afterCalls_concat] at hx
    suffices hold : (afterCalls calls).Member s x from ⟨x, hold, rfl, h.nonempty s x hold⟩
    cases ht : (afterCalls calls).trackToSet n with
    | none => rwa [call, remove_of_untracked ht] at hx
    | some s' =>
      obtain ⟨-, -, -, hmember, -⟩ := h.consistent.remove_spec ht
      exact ((hmember s x).mp hx).1
  · exact fun _ => rfl
  · exact fun _ => rfl
  · simp

theorem Owed.update (h : (afterCalls calls).Owed calls) (n : FullTrackName)
    (u : AssignmentUpdate) :
    (afterCalls (calls ++ [.update n u])).Owed (calls ++ [.update n u]) := by
  cases ht : (afterCalls calls).trackToSet n with
  | none =>
    have hsame : afterCalls (calls ++ [.update n u]) = afterCalls calls := by
      simp [call, updateAssignment_of_untracked u ht]
    apply h.describe (f := id)
    · intro a ha
      cases ha
    · exact hsame ▸ h.consistent
    · intro s x hx
      rw [hsame] at hx
      exact ⟨x, hx, rfl, h.nonempty s x hx⟩
    · exact fun _ => rfl
    · exact fun _ => rfl
    · simp
  | some s' =>
    obtain ⟨-, hmember, -⟩ := h.consistent.update_spec u ht
    have hconsistent := h.consistent.update n u
    obtain ⟨hname, hrelay, hholders⟩ := modifyNamed_rethreshold n u.throughputThresholdKbps
    apply h.describe (f := modifyNamed n (rethreshold u.throughputThresholdKbps))
    · intro a ha
      cases ha
    · simpa [call] using hconsistent
    · intro s x hx
      rw [afterCalls_concat] at hx
      obtain ⟨y, hy, rfl⟩ := (hmember s x).mp hx
      exact ⟨y, hy, rfl, hholders y ▸ h.nonempty s y hy⟩
    · exact hname
    · exact hrelay
    · intro y r
      simp [hholders y]

theorem Owed.release (h : (afterCalls calls).Owed calls) (n : FullTrackName) (requestId : Nat) :
    (afterCalls (calls ++ [.release n requestId])).Owed (calls ++ [.release n requestId]) := by
  have hconsistent := h.consistent.release n requestId
  obtain ⟨hname, hrelay⟩ := modifyNamed_drop n requestId
  apply h.describe (f := modifyNamed n (drop requestId))
  · intro a ha
    cases ha
  · simpa [call] using hconsistent
  · intro s x hx
    rw [afterCalls_concat, call] at hx
    cases ht : (afterCalls calls).trackToSet n with
    | none =>
      rw [release_of_untracked ht] at hx
      have hkept : modifyNamed n (drop requestId) x = x := by
        apply if_neg
        rintro rfl
        simp [h.consistent.member_trackToSet hx] at ht
      exact ⟨x, hx, hkept.symm, hkept.symm ▸ h.nonempty s x hx⟩
    | some s' =>
      obtain ⟨y, released, hy, rfl, hreleased, hmember, htrack, -, -, -, heq⟩ :=
        h.consistent.release_spec requestId ht
      -- what is kept is a member of `released` that still has a holder
      have hkept : released.Member s x ∧
          (x.fullTrackName = y.fullTrackName → (y.holders.erase requestId).Nonempty) := by
        rw [heq] at hx
        split at hx
        next hlast =>
          rw [← htrack] at ht
          obtain ⟨-, -, -, hremoved, -⟩ := hreleased.remove_spec ht
          have := (hremoved s x).mp hx
          exact ⟨this.1, fun hname => absurd hname this.2⟩
        next hlast =>
          refine ⟨hx, fun _ => ?_⟩
          by_cases hheld : requestId ∈ y.holders
          · exact Finset.nonempty_iff_ne_empty.mpr fun hnone => hlast ⟨hheld, hnone⟩
          · rw [Finset.erase_eq_of_notMem hheld]
            exact h.nonempty s' y hy
      obtain ⟨z, hz, rfl⟩ := (hmember s x).mp hkept.1
      refine ⟨z, hz, rfl, ?_⟩
      have hz' := hkept.2
      rw [hname z] at hz'
      by_cases hsame : z.fullTrackName = y.fullTrackName
      · obtain ⟨-, rfl⟩ := h.consistent.member_unique hz hy hsame
        simpa [modifyNamed, drop] using hz' rfl
      · simpa [modifyNamed, hsame] using h.nonempty s z hz
  · exact hname
  · exact hrelay
  · intro y r
    unfold modifyNamed
    split
    next hname => subst hname; simp [drop]; grind
    next hname => grind

theorem owed_afterCalls (calls : List Call) (hdistinct : DistinctRelayIds calls) :
    (afterCalls calls).Owed calls := by
  induction calls using List.reverseRecOn with
  | nil => exact ⟨.new, by simp [Member, afterCalls, new], by simp [Member, afterCalls, new],
      by simp [Member, afterCalls, new]⟩
  | append_singleton calls c ih =>
    have hbefore : (afterCalls calls).Owed calls :=
      ih fun a b ha hb => hdistinct a b (by simp [ha]) (by simp [hb])
    cases c with
    | assign a => exact hbefore.assign hdistinct
    | release n requestId => exact hbefore.release n requestId
    | remove n => exact hbefore.remove n
    | update n u => exact hbefore.update n u

/-! The epoch. -/

/-- A set as the forward gate and the algorithms can tell it from another. -/
def withoutHolders (set : SwitchingSet) : SwitchingSet :=
  { set with members := set.members.map fun x => { x with holders := ∅ } }

/-- Membership or a property of a set differs. -/
def Changes (m m' : SwitchingSetManager) : Prop :=
  m'.trackToSet ≠ m.trackToSet ∨ m'.relayTrackToSet ≠ m.relayTrackToSet ∨
    ∃ s, (m'.sets.lookup s).map withoutHolders ≠ (m.sets.lookup s).map withoutHolders

theorem epoch_remove (ht : m.trackToSet name = some s) : (m.remove name).epoch = m.epoch + 1 := by
  simp only [SwitchingSetManager.remove, ht, bumpEpoch]
  cases m.sets.lookup s with
  | none => rfl
  | some set =>
    cases hfind : findMember name set.members with
    | none =>
      simp only [hfind]
      split <;> rfl
    | some x =>
      simp only [hfind]
      split <;> rfl

theorem map_modifyMember_drop (requestId : Nat) (members : List SwitchingSetMember) :
    (modifyMember name (drop requestId) members).map (fun x => { x with holders := ∅ }) =
      members.map fun x => { x with holders := ∅ } := by
  induction members with
  | nil => rfl
  | cons y members ih =>
    unfold modifyMember
    split
    · rfl
    · simpa using ih

theorem epoch_lt_release {requestId : Nat} (h : Changes m (m.release name requestId)) :
    m.epoch < (m.release name requestId).epoch := by
  have hsame : ¬ Changes m m := by simp [Changes]
  revert h
  cases ht : m.trackToSet name with
  | none => simp [SwitchingSetManager.release, ht, hsame]
  | some s =>
    cases hset : m.sets.lookup s with
    | none => simp [SwitchingSetManager.release, ht, hset, hsame]
    | some set =>
      cases hfind : findMember name set.members with
      | none => simp [SwitchingSetManager.release, ht, hset, hfind, hsame]
      | some y =>
        simp only [SwitchingSetManager.release, ht, hset, hfind]
        split
        · intro _
          refine (Nat.lt_succ_self m.epoch).trans_eq (Eq.symm ?_)
          apply epoch_remove
          exact ht
        · -- only the holders of the member changed
          rintro (h | h | ⟨s', h⟩)
          · exact absurd rfl h
          · exact absurd rfl h
          · refine absurd ?_ h
            simp only [lookup_insert_eq]
            split
            next heq =>
              subst heq
              simp only [hset, Option.map_some, withoutHolders]
              exact congrArg (fun l => some { set with members := l }) (map_modifyMember_drop _ _)
            next => rfl

theorem epoch_lt_of_changes (c : Call) (h : Changes m (m.call c)) : m.epoch < (m.call c).epoch := by
  have hsame : ¬ Changes m m := by simp [Changes]
  cases c with
  | release n requestId => exact epoch_lt_release h
  | assign a =>
    revert h
    simp only [call, SwitchingSetManager.assign]
    split
    · exact fun h => absurd h hsame
    · exact fun _ => Nat.lt_succ_self m.epoch
  | remove n =>
    cases ht : m.trackToSet n with
    | none =>
      rw [call, remove_of_untracked ht] at h
      exact absurd h hsame
    | some s => exact (epoch_remove ht).symm ▸ Nat.lt_succ_self m.epoch
  | update n u =>
    revert h
    simp only [call, SwitchingSetManager.updateAssignment]
    cases m.trackToSet n with
    | none => exact fun h => absurd h hsame
    | some s =>
      dsimp only
      cases m.sets.lookup s with
      | none => exact fun h => absurd h hsame
      | some set => exact fun _ => Nat.lt_succ_self m.epoch

theorem epoch_le_remove (m : SwitchingSetManager) (name : FullTrackName) :
    m.epoch ≤ (m.remove name).epoch := by
  cases ht : m.trackToSet name with
  | none => rw [remove_of_untracked ht]
  | some s => exact (Nat.le_succ m.epoch).trans_eq (epoch_remove ht).symm

theorem epoch_le_call (m : SwitchingSetManager) (c : Call) : m.epoch ≤ (m.call c).epoch := by
  cases c with
  | assign a =>
    simp only [call, SwitchingSetManager.assign]
    split
    · exact le_rfl
    · exact Nat.le_succ m.epoch
  | remove n => exact epoch_le_remove m n
  | release n requestId =>
    simp only [call, SwitchingSetManager.release]
    cases m.trackToSet n with
    | none => exact le_rfl
    | some s =>
      dsimp only
      cases m.sets.lookup s with
      | none => exact le_rfl
      | some set =>
        dsimp only
        cases findMember n set.members with
        | none => exact le_rfl
        | some y =>
          dsimp only
          split
          · refine le_trans ?_ (epoch_le_remove _ n)
            exact le_rfl
          · exact le_rfl
  | update n u =>
    simp only [call, SwitchingSetManager.updateAssignment]
    cases m.trackToSet n with
    | none => exact le_rfl
    | some s =>
      dsimp only
      cases m.sets.lookup s with
      | none => exact le_rfl
      | some set => exact Nat.le_succ m.epoch

/-- What the manager's parts say about each other and about the calls made. -/
structure Represents (m : SwitchingSetManager) (calls : List Call) : Prop where
  sets : ∀ s set, m.sets.lookup s = some set → set.WellFormed s
  trackToSet : ∀ n s, m.trackToSet n = some s ↔
    ∃ set, m.sets.lookup s = some set ∧ set.members.countP (·.fullTrackName = n) = 1
  oneSet : ∀ s s' x y, m.Member s x → m.Member s' y → x.fullTrackName = y.fullTrackName → s = s'
  relayTrackToSet : ∀ r s, m.relayTrackToSet r = some s ↔
    ∃ x, m.Member s x ∧ x.relayTrackId = r
  holders : ∀ s x, m.Member s x → x.holders.Nonempty ∧
    ∀ r, r ∈ x.holders ↔ HeldBy calls x.fullTrackName r

theorem countP_fullTrackName {members : List SwitchingSetMember} (hnodup : (names members).Nodup) :
    members.countP (·.fullTrackName = name) = 1 ↔ ∃ x ∈ members, x.fullTrackName = name := by
  have hcount : members.countP (·.fullTrackName = name) = (names members).count name := by
    simp only [names, List.count, List.countP_map]
    apply List.countP_congr
    simp
  have hmem : name ∈ names members ↔ ∃ x ∈ members, x.fullTrackName = name := List.mem_map
  rw [hcount, ← hmem, List.Nodup.count hnodup]
  split <;> simp_all

/-- After any calls in which distinct tracks carry distinct relay ids, the maps, the member
lists and the holders agree, a refused assignment changes nothing, and a call that changes
membership or a set property moves the epoch on. -/
theorem afterCalls_represents (calls : List Call) (hdistinct : DistinctRelayIds calls) :
    (afterCalls calls).Represents calls ∧
      (∀ a e, ((afterCalls calls).assign a).1 = .error e →
        ((afterCalls calls).assign a).2 = afterCalls calls) ∧
      ∀ c, Changes (afterCalls calls) ((afterCalls calls).call c) →
        (afterCalls calls).epoch < ((afterCalls calls).call c).epoch := by
  have h := owed_afterCalls calls hdistinct
  refine ⟨⟨h.consistent.sets, ?_, ?_, h.consistent.relayed, ?_⟩, ?_, epoch_lt_of_changes⟩
  · intro n s
    rw [h.consistent.tracked]
    constructor
    · rintro ⟨x, ⟨set, hset, hx⟩, hname⟩
      exact ⟨set, hset, (countP_fullTrackName (h.consistent.sets s set hset).nodup).mpr
        ⟨x, hx, hname⟩⟩
    · rintro ⟨set, hset, hcount⟩
      obtain ⟨x, hx, hname⟩ :=
        (countP_fullTrackName (h.consistent.sets s set hset).nodup).mp hcount
      exact ⟨x, ⟨set, hset, hx⟩, hname⟩
  · intro s s' x y hx hy hname
    exact (h.consistent.member_unique hx hy hname).1
  · intro s x hx
    exact ⟨h.nonempty s x hx, h.held s x hx⟩
  · intro a e he
    by_cases ha : (afterCalls calls).accepts a
    · simp [(h.consistent.assign_spec ha).1] at he
    · rw [assign_of_refused ha]

/-- A track assigned by two requests, re-assigned under another relay id, raised above the
other member of its set and released by one of its holders. -/
def reassigned : List Call :=
  [.assign ⟨⟨[], [1]⟩, 10, 0, 5, 0, 300, 1, 1, 0⟩, .assign ⟨⟨[], [2]⟩, 20, 2, 5, 0, 700, 1, 2, 0⟩,
    .assign ⟨⟨[], [1]⟩, 11, 4, 5, 0, 300, 1, 2, 0⟩, .update ⟨[], [1]⟩ ⟨none, some 900, none, none, none⟩,
    .release ⟨[], [1]⟩ 0]

theorem afterCalls_represents_reassigned :
    DistinctRelayIds reassigned ∧ (afterCalls reassigned).trackToSet ⟨[], [1]⟩ = some 5 ∧
      (afterCalls reassigned).relayTrackToSet 10 = none ∧
      (afterCalls reassigned).Represents reassigned := by
  have hdistinct : DistinctRelayIds reassigned := by
    intro a b ha hb
    simp only [reassigned, List.mem_cons, Call.assign.injEq, reduceCtorEq, List.not_mem_nil,
      or_false] at ha hb
    obtain rfl | rfl | rfl := ha <;> obtain rfl | rfl | rfl := hb <;> decide
  exact ⟨hdistinct, by decide, by decide, (afterCalls_represents reassigned hdistinct).1⟩

end SwitchingSetManager

end Moqtail.Ssts
