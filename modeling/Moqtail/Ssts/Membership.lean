import Moqtail.Ssts.SwitchingSet

/-! The operations of a `SwitchingSetManager` on its maps and member lists taken together.
`Member s x` says that `x` is a member of the set `s`: each operation is described by what it
does to that relation, and that it keeps the maps `Consistent` with it follows. -/
namespace Moqtail.Ssts

variable {name : FullTrackName} {members : List SwitchingSetMember} {x : SwitchingSetMember}

/-! Member lists. -/

def names (members : List SwitchingSetMember) : List FullTrackName :=
  members.map SwitchingSetMember.fullTrackName

@[simp]
theorem mem_sortMembers : x ∈ sortMembers members ↔ x ∈ members := List.mem_insertionSort _

theorem sortMembers_sorted (members : List SwitchingSetMember) :
    (sortMembers members).Pairwise fun a b =>
      a.throughputThresholdKbps ≤ b.throughputThresholdKbps := by
  have htotal : Std.Total fun a b : SwitchingSetMember =>
      a.throughputThresholdKbps ≤ b.throughputThresholdKbps := ⟨fun a b => Nat.le_total _ _⟩
  have htrans : IsTrans SwitchingSetMember fun a b =>
      a.throughputThresholdKbps ≤ b.throughputThresholdKbps := ⟨fun a b c => Nat.le_trans⟩
  exact List.pairwise_insertionSort _ members

theorem names_sortMembers_nodup (members : List SwitchingSetMember) :
    (names (sortMembers members)).Nodup ↔ (names members).Nodup :=
  ((List.perm_insertionSort _ members).map _).nodup_iff

theorem findMember_eq_none :
    findMember name members = none ↔ ∀ x ∈ members, x.fullTrackName ≠ name := by
  simp [findMember]

theorem findMember_some (h : findMember name members = some x) :
    x ∈ members ∧ x.fullTrackName = name :=
  ⟨List.mem_of_find?_eq_some h, by simpa using List.find?_some h⟩

theorem eq_of_fullTrackName_eq {y : SwitchingSetMember} (hnodup : (names members).Nodup)
    (hx : x ∈ members) (hy : y ∈ members) (h : x.fullTrackName = y.fullTrackName) : x = y :=
  List.inj_on_of_nodup_map hnodup hx hy h

theorem names_modifyMember {f : SwitchingSetMember → SwitchingSetMember}
    (hf : ∀ y, y.fullTrackName = name → (f y).fullTrackName = name) :
    names (modifyMember name f members) = names members := by
  induction members with
  | nil => rfl
  | cons y members ih =>
    unfold modifyMember
    split
    next h => simp [names, hf y h, h]
    next h => simpa [names] using ih

theorem mem_modifyMember {f : SwitchingSetMember → SwitchingSetMember}
    (hnodup : (names members).Nodup) :
    x ∈ modifyMember name f members ↔
      (x ∈ members ∧ x.fullTrackName ≠ name) ∨
        ∃ y ∈ members, y.fullTrackName = name ∧ x = f y := by
  induction members with
  | nil => simp [modifyMember]
  | cons y members ih =>
    have hy : y.fullTrackName ∉ names members := (List.nodup_cons.mp hnodup).1
    have hne : ∀ z ∈ members, z.fullTrackName ≠ y.fullTrackName :=
      fun z hz heq => hy (heq ▸ List.mem_map_of_mem hz)
    unfold modifyMember
    split
    next h => subst h; grind
    next h =>
      have := ih (List.nodup_cons.mp hnodup).2
      grind

structure SwitchingSet.WellFormed (set : SwitchingSet) (s : Nat) : Prop where
  id_eq : set.id = s
  nonempty : set.members ≠ []
  nodup : (names set.members).Nodup
  sorted : set.members.Pairwise fun a b =>
    a.throughputThresholdKbps ≤ b.throughputThresholdKbps

/-- The change that `modifyMember` makes, as a change to each member. -/
def modifyNamed (name : FullTrackName) (f : SwitchingSetMember → SwitchingSetMember)
    (x : SwitchingSetMember) : SwitchingSetMember :=
  if x.fullTrackName = name then f x else x

theorem mem_modifyMember_iff {f : SwitchingSetMember → SwitchingSetMember}
    (hnodup : (names members).Nodup) :
    x ∈ modifyMember name f members ↔ ∃ y ∈ members, x = modifyNamed name f y := by
  rw [mem_modifyMember hnodup]
  simp only [modifyNamed]
  grind

namespace SwitchingSetManager

variable {m : SwitchingSetManager} {s s' : Nat} {set : SwitchingSet}

def Member (m : SwitchingSetManager) (s : Nat) (x : SwitchingSetMember) : Prop :=
  ∃ set, m.sets.lookup s = some set ∧ x ∈ set.members

theorem lookup_insert_eq (sets : AList fun _ : Nat => SwitchingSet) :
    (sets.insert s set).lookup s' = if s' = s then some set else sets.lookup s' := by
  split
  next h => subst h; exact AList.lookup_insert sets
  next h => exact AList.lookup_insert_ne h

theorem lookup_erase_eq (sets : AList fun _ : Nat => SwitchingSet) :
    (sets.erase s).lookup s' = if s' = s then none else sets.lookup s' := by
  split
  next h => subst h; exact AList.lookup_erase s' sets
  next h => exact AList.lookup_erase_ne h

theorem member_of_insert {m' : SwitchingSetManager} (h : m'.sets = m.sets.insert s set) :
    m'.Member s' x ↔ if s' = s then x ∈ set.members else m.Member s' x := by
  simp only [Member, h, lookup_insert_eq]
  split <;> simp

theorem member_of_erase {m' : SwitchingSetManager} (h : m'.sets = m.sets.erase s) :
    m'.Member s' x ↔ s' ≠ s ∧ m.Member s' x := by
  simp only [Member, h, lookup_erase_eq]
  split <;> simp_all

/-- Where `s` is a set, its members are those of the list found there. -/
theorem member_of_lookup (h : m.sets.lookup s = some set) : m.Member s x ↔ x ∈ set.members := by
  simp [Member, h]

/-- The sets are in order, and the map from tracks follows their members. -/
structure Tracked (m : SwitchingSetManager) : Prop where
  sets : ∀ s set, m.sets.lookup s = some set → set.WellFormed s
  tracked : ∀ n s, m.trackToSet n = some s ↔ ∃ x, m.Member s x ∧ x.fullTrackName = n

/-- So does the map from relay ids, which name one track each. -/
structure Consistent (m : SwitchingSetManager) : Prop extends m.Tracked where
  relayed : ∀ r s, m.relayTrackToSet r = some s ↔ ∃ x, m.Member s x ∧ x.relayTrackId = r
  relay_inj : ∀ s s' x y, m.Member s x → m.Member s' y → x.relayTrackId = y.relayTrackId →
    x.fullTrackName = y.fullTrackName

theorem Consistent.new : Consistent new := by
  constructor
  · constructor <;> simp [Member, SwitchingSetManager.new]
  all_goals simp [Member, SwitchingSetManager.new]

theorem Tracked.member_trackToSet (h : m.Tracked) (hx : m.Member s x) :
    m.trackToSet x.fullTrackName = some s :=
  (h.tracked _ _).mpr ⟨x, hx, rfl⟩

theorem Tracked.member_unique (h : m.Tracked) {y : SwitchingSetMember}
    (hx : m.Member s x) (hy : m.Member s' y) (hname : x.fullTrackName = y.fullTrackName) :
    s = s' ∧ x = y := by
  have hs := h.member_trackToSet hx
  have hs' := h.member_trackToSet hy
  rw [hname, hs'] at hs
  cases Option.some.inj hs
  obtain ⟨set, hset, hx⟩ := hx
  obtain ⟨set', hset', hy⟩ := hy
  cases Option.some.inj (hset.symm.trans hset')
  exact ⟨rfl, eq_of_fullTrackName_eq (h.sets s set hset).nodup hx hy hname⟩

/-- A track named by the map has its member, and it is the one `find` finds. -/
theorem Tracked.find (h : m.Tracked) (ht : m.trackToSet name = some s) :
    ∃ set x, m.sets.lookup s = some set ∧ findMember name set.members = some x ∧
      m.Member s x ∧ x.fullTrackName = name := by
  obtain ⟨x, ⟨set, hset, hx⟩, hname⟩ := (h.tracked name s).mp ht
  cases hfind : findMember name set.members with
  | none => exact absurd hname (findMember_eq_none.mp hfind x hx)
  | some y =>
    obtain ⟨hy, hyname⟩ := findMember_some hfind
    exact ⟨set, y, hset, hfind, ⟨set, hset, hy⟩, hyname⟩

/-! `remove`. -/

theorem remove_of_untracked (ht : m.trackToSet name = none) : m.remove name = m := by
  simp [remove, ht]

theorem Tracked.remove_spec (h : m.Tracked) (ht : m.trackToSet name = some s) :
    ∃ y, m.Member s y ∧ y.fullTrackName = name ∧
      (∀ s' x, (m.remove name).Member s' x ↔ m.Member s' x ∧ x.fullTrackName ≠ name) ∧
      (∀ s' set', (m.remove name).sets.lookup s' = some set' → set'.WellFormed s') ∧
      (m.remove name).trackToSet = Function.update m.trackToSet name none ∧
      (m.remove name).relayTrackToSet = Function.update m.relayTrackToSet y.relayTrackId none ∧
      (m.remove name).epoch = m.epoch + 1 := by
  obtain ⟨set, y, hset, hfind, hy, hyname⟩ := h.find ht
  have hwf := h.sets s set hset
  have hother : ∀ s' x, s' ≠ s → m.Member s' x → x.fullTrackName ≠ name := by
    intro s' x hne hx hname
    exact hne (h.member_unique hx hy (hname.trans hyname.symm)).1
  refine ⟨y, hy, hyname, ?_⟩
  simp only [remove, ht, bumpEpoch, hset, hfind]
  split
  next hempty =>
    refine ⟨?_, ?_, rfl, rfl, rfl⟩
    · intro s' x
      have hall : ∀ x ∈ set.members, x.fullTrackName = name := by simpa using hempty
      rw [member_of_erase rfl]
      obtain rfl | hne := eq_or_ne s' s
      · simpa [member_of_lookup hset] using hall x
      · simpa [hne] using hother s' x hne
    · intro s' set' hset'
      simp only [lookup_erase_eq] at hset'
      split at hset'
      · cases hset'
      · exact h.sets s' set' hset'
  next hempty =>
    refine ⟨?_, ?_, rfl, rfl, rfl⟩
    · intro s' x
      rw [member_of_insert rfl]
      obtain rfl | hne := eq_or_ne s' s
      · simp [member_of_lookup hset]
      · simpa [hne] using hother s' x hne
    · intro s' set' hset'
      simp only [lookup_insert_eq] at hset'
      split at hset'
      next heq =>
        subst heq
        cases hset'
        refine ⟨hwf.id_eq, hempty, ?_, hwf.sorted.filter _⟩
        exact hwf.nodup.sublist (List.filter_sublist.map _)
      next => exact h.sets s' set' hset'

theorem Tracked.remove (h : m.Tracked) (name : FullTrackName) : (m.remove name).Tracked := by
  cases ht : m.trackToSet name with
  | none => rwa [remove_of_untracked ht]
  | some s =>
    obtain ⟨-, -, -, hmember, hsets, htrack, -⟩ := h.remove_spec ht
    refine ⟨hsets, ?_⟩
    intro n s'
    have := h.tracked n s'
    rw [htrack]
    grind [Function.update_apply]

theorem Consistent.remove (h : m.Consistent) (name : FullTrackName) :
    (m.remove name).Consistent := by
  cases ht : m.trackToSet name with
  | none => rwa [remove_of_untracked ht]
  | some s =>
    obtain ⟨y, hy, hyname, hmember, -, -, hrelay, -⟩ := h.remove_spec ht
    refine ⟨h.toTracked.remove name, ?_, ?_⟩
    · intro r s'
      have := h.relayed r s'
      rw [hrelay]
      have := h.relay_inj
      have := @h.member_unique
      grind [Function.update_apply]
    · intro s₁ s₂ x₁ x₂ h₁ h₂
      exact h.relay_inj s₁ s₂ x₁ x₂ ((hmember s₁ x₁).mp h₁).1 ((hmember s₂ x₂).mp h₂).1

/-! `release` and `update_assignment` change members where they stand. -/

/-- Changing how each member is described, but not its name. -/
theorem Tracked.describe (h : m.Tracked) {m' : SwitchingSetManager}
    {f : SwitchingSetMember → SwitchingSetMember}
    (hname : ∀ y, (f y).fullTrackName = y.fullTrackName)
    (hmember : ∀ s x, m'.Member s x ↔ ∃ y, m.Member s y ∧ x = f y)
    (hsets : ∀ s set, m'.sets.lookup s = some set → set.WellFormed s)
    (htrack : m'.trackToSet = m.trackToSet) : m'.Tracked := by
  refine ⟨hsets, ?_⟩
  intro n s
  rw [htrack, h.tracked n s]
  constructor
  · rintro ⟨y, hy, rfl⟩
    exact ⟨f y, (hmember s _).mpr ⟨y, hy, rfl⟩, hname y⟩
  · rintro ⟨x, hx, rfl⟩
    obtain ⟨y, hy, rfl⟩ := (hmember s x).mp hx
    exact ⟨y, hy, (hname y).symm⟩

/-- Nor its relay id. -/
theorem Consistent.describe (h : m.Consistent) {m' : SwitchingSetManager} (htracked : m'.Tracked)
    {f : SwitchingSetMember → SwitchingSetMember}
    (hname : ∀ y, (f y).fullTrackName = y.fullTrackName)
    (hrelay : ∀ y, (f y).relayTrackId = y.relayTrackId)
    (hmember : ∀ s x, m'.Member s x ↔ ∃ y, m.Member s y ∧ x = f y)
    (hrelays : m'.relayTrackToSet = m.relayTrackToSet) : m'.Consistent := by
  refine ⟨htracked, ?_, ?_⟩
  · intro r s
    rw [hrelays, h.relayed r s]
    constructor
    · rintro ⟨y, hy, rfl⟩
      exact ⟨f y, (hmember s _).mpr ⟨y, hy, rfl⟩, hrelay y⟩
    · rintro ⟨x, hx, rfl⟩
      obtain ⟨y, hy, rfl⟩ := (hmember s x).mp hx
      exact ⟨y, hy, (hrelay y).symm⟩
  · intro s₁ s₂ x₁ x₂ h₁ h₂ heq
    obtain ⟨y₁, hy₁, rfl⟩ := (hmember s₁ x₁).mp h₁
    obtain ⟨y₂, hy₂, rfl⟩ := (hmember s₂ x₂).mp h₂
    rw [hname, hname]
    exact h.relay_inj s₁ s₂ y₁ y₂ hy₁ hy₂ (by rwa [hrelay, hrelay] at heq)

/-- Members of other sets have other names, so a change by name within one set is a change
by name everywhere. -/
theorem Tracked.member_modify (h : m.Tracked) {m' : SwitchingSetManager}
    {f : SwitchingSetMember → SwitchingSetMember} {y : SwitchingSetMember}
    (hset : m.sets.lookup s = some set) (hy : m.Member s y) {set' : SwitchingSet}
    (hsets : m'.sets = m.sets.insert s set')
    (hmembers : ∀ x, x ∈ set'.members ↔ ∃ z ∈ set.members, x = modifyNamed y.fullTrackName f z)
    (s' : Nat) (x : SwitchingSetMember) :
    m'.Member s' x ↔ ∃ z, m.Member s' z ∧ x = modifyNamed y.fullTrackName f z := by
  rw [member_of_insert hsets]
  obtain rfl | hne := eq_or_ne s' s
  · simp [hmembers, member_of_lookup hset]
  · have hkeeps : ∀ z, m.Member s' z → modifyNamed y.fullTrackName f z = z := by
      intro z hz
      exact if_neg fun hname => hne (h.member_unique hz hy hname).1
    simp only [hne, if_false]
    constructor
    · intro hx
      exact ⟨x, hx, (hkeeps x hx).symm⟩
    · rintro ⟨z, hz, rfl⟩
      rwa [hkeeps z hz]

theorem WellFormed.modify {f : SwitchingSetMember → SwitchingSetMember}
    (h : set.WellFormed s) (hname : ∀ y, (f y).fullTrackName = y.fullTrackName)
    (hthreshold : ∀ y, (f y).throughputThresholdKbps = y.throughputThresholdKbps) :
    SwitchingSet.WellFormed { set with members := modifyMember name f set.members } s := by
  have hnames : names (modifyMember name f set.members) = names set.members :=
    names_modifyMember fun y hy => (hname y).trans hy
  have hthresholds : (modifyMember name f set.members).map
      SwitchingSetMember.throughputThresholdKbps =
        set.members.map SwitchingSetMember.throughputThresholdKbps := by
    generalize set.members = members
    induction members with
    | nil => rfl
    | cons y members ih =>
      unfold modifyMember
      split
      · simp [hthreshold]
      · simpa using ih
  refine ⟨h.id_eq, ?_, ?_, ?_⟩
  · intro hnil
    apply h.nonempty
    have : names set.members = [] := by rw [← hnames]; simpa [names] using hnil
    simpa [names] using this
  · exact hnames ▸ h.nodup
  · have := h.sorted
    rw [← List.pairwise_map] at this ⊢
    rwa [hthresholds]

/-- Taking a holder away leaves the member in place unless it was the last. -/
def drop (requestId : Nat) (x : SwitchingSetMember) : SwitchingSetMember :=
  { x with holders := x.holders.erase requestId }

theorem modifyNamed_drop (name : FullTrackName) (requestId : Nat) :
    (∀ y, (modifyNamed name (drop requestId) y).fullTrackName = y.fullTrackName) ∧
      ∀ y, (modifyNamed name (drop requestId) y).relayTrackId = y.relayTrackId := by
  constructor
  all_goals
    intro y
    unfold modifyNamed
    split <;> rfl

theorem release_of_untracked {requestId : Nat} (ht : m.trackToSet name = none) :
    m.release name requestId = m := by
  simp [release, ht]

/-- `release` takes the holder away, and then the track if that left the member with none. -/
theorem Tracked.release_spec (h : m.Tracked) (requestId : Nat)
    (ht : m.trackToSet name = some s) :
    ∃ y released, m.Member s y ∧ y.fullTrackName = name ∧ released.Tracked ∧
      (∀ s' x, released.Member s' x ↔
        ∃ z, m.Member s' z ∧ x = modifyNamed name (drop requestId) z) ∧
      released.trackToSet = m.trackToSet ∧ released.relayTrackToSet = m.relayTrackToSet ∧
      released.epoch = m.epoch ∧ released.openStreams = m.openStreams ∧
      m.release name requestId =
        if requestId ∈ y.holders ∧ y.holders.erase requestId = ∅ then released.remove name
        else released := by
  obtain ⟨set, y, hset, hfind, hy, rfl⟩ := h.find ht
  refine ⟨y, { m with
    sets := m.sets.insert s { set with
      members := modifyMember y.fullTrackName (drop requestId) set.members } },
    hy, rfl, ?_, ?_, rfl, rfl, rfl, rfl, ?_⟩
  · apply h.describe (modifyNamed_drop y.fullTrackName requestId).1
    · exact h.member_modify hset hy rfl fun x => mem_modifyMember_iff (h.sets s set hset).nodup
    · intro s' set' hset'
      simp only [lookup_insert_eq] at hset'
      split at hset'
      next heq =>
        subst heq
        cases hset'
        exact WellFormed.modify (h.sets s' set hset) (fun _ => rfl) (fun _ => rfl)
      next => exact h.sets s' set' hset'
    · rfl
  · exact h.member_modify hset hy rfl fun x => mem_modifyMember_iff (h.sets s set hset).nodup
  · simp only [release, ht, hset, hfind]
    rfl

theorem Tracked.release (h : m.Tracked) (name : FullTrackName) (requestId : Nat) :
    (m.release name requestId).Tracked := by
  cases ht : m.trackToSet name with
  | none => rwa [release_of_untracked ht]
  | some s =>
    obtain ⟨y, released, -, -, hreleased, -, -, -, -, -, heq⟩ := h.release_spec requestId ht
    rw [heq]
    split
    · exact hreleased.remove name
    · exact hreleased

theorem Consistent.release (h : m.Consistent) (name : FullTrackName) (requestId : Nat) :
    (m.release name requestId).Consistent := by
  cases ht : m.trackToSet name with
  | none => rwa [release_of_untracked ht]
  | some s =>
    obtain ⟨y, released, -, -, htracked, hmember, -, hrelays, -, -, heq⟩ :=
      h.release_spec requestId ht
    have hreleased : released.Consistent :=
      h.describe htracked (modifyNamed_drop name requestId).1 (modifyNamed_drop name requestId).2
        hmember hrelays
    rw [heq]
    split
    · exact hreleased.remove name
    · exact hreleased

/-- The threshold an update leaves a member with. -/
def rethreshold (threshold : Option Nat) (x : SwitchingSetMember) : SwitchingSetMember :=
  { x with throughputThresholdKbps := threshold.getD x.throughputThresholdKbps }

theorem modifyNamed_rethreshold (name : FullTrackName) (threshold : Option Nat) :
    (∀ y, (modifyNamed name (rethreshold threshold) y).fullTrackName = y.fullTrackName) ∧
      (∀ y, (modifyNamed name (rethreshold threshold) y).relayTrackId = y.relayTrackId) ∧
      ∀ y, (modifyNamed name (rethreshold threshold) y).holders = y.holders := by
  refine ⟨?_, ?_, ?_⟩
  all_goals
    intro y
    unfold modifyNamed
    split <;> rfl

theorem mem_updatedMembers (name : FullTrackName) (threshold : Option Nat)
    (hnodup : (names members).Nodup) (x : SwitchingSetMember) :
    x ∈ updatedMembers name threshold members ↔
      ∃ y ∈ members, x = modifyNamed name (rethreshold threshold) y := by
  have hkeeps : (∀ y ∈ members, modifyNamed name (rethreshold threshold) y = y) →
      (x ∈ members ↔ ∃ y ∈ members, x = modifyNamed name (rethreshold threshold) y) := by grind
  cases threshold with
  | none =>
    apply hkeeps
    intro y hy
    simp [modifyNamed, rethreshold]
  | some threshold =>
    cases hfind : findMember name members with
    | none =>
      simp only [updatedMembers, hfind]
      apply hkeeps
      intro y hy
      exact if_neg (findMember_eq_none.mp hfind y hy)
    | some member =>
      simp only [updatedMembers, hfind]
      split
      next => rw [mem_sortMembers, mem_modifyMember_iff hnodup]; rfl
      next heq =>
        apply hkeeps
        intro y hy
        obtain ⟨hmember, hname⟩ := findMember_some hfind
        unfold modifyNamed
        split
        next hyname =>
          obtain rfl := eq_of_fullTrackName_eq hnodup hmember hy (hname.trans hyname.symm)
          cases member
          simp_all [rethreshold]
        next => rfl

theorem names_updatedMembers_perm (name : FullTrackName) (threshold : Option Nat)
    (members : List SwitchingSetMember) :
    (names (updatedMembers name threshold members)).Perm (names members) := by
  unfold updatedMembers
  split
  · split
    · refine ((List.perm_insertionSort _ _).map _).trans (.of_eq ?_)
      exact names_modifyMember fun y hy => hy
    · exact .refl _
  · exact .refl _

theorem updatedMembers_sorted {threshold : Option Nat}
    (hsorted : members.Pairwise fun a b =>
      a.throughputThresholdKbps ≤ b.throughputThresholdKbps) :
    (updatedMembers name threshold members).Pairwise fun a b =>
      a.throughputThresholdKbps ≤ b.throughputThresholdKbps := by
  unfold updatedMembers
  split
  · split
    · exact sortMembers_sorted _
    · exact hsorted
  · exact hsorted

theorem updateAssignment_of_untracked (u : AssignmentUpdate) (ht : m.trackToSet name = none) :
    m.updateAssignment name u = (.error .trackNotInSet, m) := by
  simp [updateAssignment, ht]

theorem Tracked.update_spec (h : m.Tracked) (u : AssignmentUpdate)
    (ht : m.trackToSet name = some s) :
    (m.updateAssignment name u).2.Tracked ∧
      (∀ s' x, (m.updateAssignment name u).2.Member s' x ↔
        ∃ z, m.Member s' z ∧ x = modifyNamed name (rethreshold u.throughputThresholdKbps) z) ∧
      (m.updateAssignment name u).2.trackToSet = m.trackToSet ∧
      (m.updateAssignment name u).2.relayTrackToSet = m.relayTrackToSet ∧
      (m.updateAssignment name u).2.epoch = m.epoch + 1 := by
  obtain ⟨set, y, hset, -, hy, rfl⟩ := h.find ht
  have hwf := h.sets s set hset
  simp only [updateAssignment, ht, hset, bumpEpoch]
  have hperm := names_updatedMembers_perm y.fullTrackName u.throughputThresholdKbps set.members
  have hmembers := mem_updatedMembers y.fullTrackName u.throughputThresholdKbps hwf.nodup
  refine ⟨?_, h.member_modify hset hy rfl hmembers, trivial, trivial, trivial⟩
  apply h.describe (modifyNamed_rethreshold y.fullTrackName u.throughputThresholdKbps).1
  · exact h.member_modify hset hy rfl hmembers
  · intro s' set' hset'
    simp only [lookup_insert_eq] at hset'
    split at hset'
    next heq =>
      subst heq
      cases hset'
      refine ⟨hwf.id_eq, ?_, hperm.nodup_iff.mpr hwf.nodup, updatedMembers_sorted hwf.sorted⟩
      intro hnil
      apply hwf.nonempty
      have : names set.members = [] := (hperm.symm.trans (by simp_all [names])).eq_nil
      simpa [names] using this
    next => exact h.sets s' set' hset'
  · rfl

theorem Tracked.update (h : m.Tracked) (name : FullTrackName) (u : AssignmentUpdate) :
    (m.updateAssignment name u).2.Tracked := by
  cases ht : m.trackToSet name with
  | none => rwa [updateAssignment_of_untracked u ht]
  | some s => exact (h.update_spec u ht).1

theorem Consistent.update (h : m.Consistent) (name : FullTrackName) (u : AssignmentUpdate) :
    (m.updateAssignment name u).2.Consistent := by
  cases ht : m.trackToSet name with
  | none => rwa [updateAssignment_of_untracked u ht]
  | some s =>
    obtain ⟨htracked, hmember, -, hrelays, -⟩ := h.update_spec u ht
    obtain ⟨hname, hrelay, -⟩ := modifyNamed_rethreshold name u.throughputThresholdKbps
    exact h.describe htracked hname hrelay hmember hrelays

/-! `assign`. -/

/-- An assignment is accepted unless the track is in another set. -/
def accepts (m : SwitchingSetManager) (a : Assignment) : Prop :=
  ∀ s, m.trackToSet a.fullTrackName = some s → s = a.switchingSetId

theorem assign_of_refused {a : Assignment} (h : ¬ m.accepts a) :
    m.assign a = (.error .trackInDifferentSet, m) := by
  have : (m.trackToSet a.fullTrackName).any (· ≠ a.switchingSetId) = true := by
    simpa [accepts, Option.any_eq_true] using h
  rw [assign, if_pos this]

/-- The member an accepted assignment leaves: it joins the holders the track had. -/
def assigned (a : Assignment) (existing : Option SwitchingSetMember) : SwitchingSetMember :=
  { a.member with holders := insert a.requestId ((existing.map (·.holders)).getD ∅) }

/-- The member of that name, in whichever set it is. -/
def memberNamed (m : SwitchingSetManager) (name : FullTrackName) : Option SwitchingSetMember :=
  (m.getSetForTrack name).bind fun set => findMember name set.members

theorem Tracked.memberNamed_eq_some (h : m.Tracked) :
    m.memberNamed name = some x ↔ (∃ s, m.Member s x) ∧ x.fullTrackName = name := by
  constructor
  · intro hx
    obtain ⟨set, hset, hfind⟩ := Option.bind_eq_some_iff.mp hx
    obtain ⟨s, -, hlookup⟩ := Option.bind_eq_some_iff.mp hset
    obtain ⟨hmem, hname⟩ := findMember_some hfind
    exact ⟨⟨s, set, hlookup, hmem⟩, hname⟩
  · rintro ⟨⟨s, hx⟩, rfl⟩
    have ht := h.member_trackToSet hx
    obtain ⟨set, y, hset, hfind, hy, hname⟩ := h.find ht
    cases (h.member_unique hy hx hname).2
    simp [memberNamed, getSetForTrack, ht, hset, hfind]

theorem Tracked.memberNamed_eq_none (h : m.Tracked) :
    m.memberNamed name = none ↔ ∀ s x, m.Member s x → x.fullTrackName ≠ name := by
  rw [← not_iff_not, ← ne_eq, Option.ne_none_iff_exists']
  simp only [h.memberNamed_eq_some]
  push Not
  grind

/-- The list an assignment is made in: the members of its set, if there is one. -/
theorem Tracked.assignedSet_spec (h : m.Tracked) {a : Assignment} (ha : m.accepts a) :
    (m.assignedSet a).id = a.switchingSetId ∧ (names (m.assignedSet a).members).Nodup ∧
      (∀ x, x ∈ (m.assignedSet a).members ↔ m.Member a.switchingSetId x) ∧
      findMember a.fullTrackName (m.assignedSet a).members = m.memberNamed a.fullTrackName := by
  have hmem : ∀ x, x ∈ (m.assignedSet a).members ↔ m.Member a.switchingSetId x := by
    intro x
    simp only [assignedSet, Member]
    cases m.sets.lookup a.switchingSetId <;> simp
  refine ⟨?_, ?_, hmem, ?_⟩
  · simp only [assignedSet]
    cases hset : m.sets.lookup a.switchingSetId with
    | none => rfl
    | some set => exact (h.sets _ set hset).id_eq
  · simp only [assignedSet]
    cases hset : m.sets.lookup a.switchingSetId with
    | none => exact List.nodup_nil
    | some set => exact (h.sets _ set hset).nodup
  · cases hnamed : m.memberNamed a.fullTrackName with
    | none =>
      rw [findMember_eq_none]
      intro x hx
      exact h.memberNamed_eq_none.mp hnamed _ x ((hmem x).mp hx)
    | some x =>
      obtain ⟨⟨s, hx⟩, hname⟩ := h.memberNamed_eq_some.mp hnamed
      obtain rfl := ha s (hname ▸ h.member_trackToSet hx)
      cases hfind : findMember a.fullTrackName (m.assignedSet a).members with
      | none => exact absurd hname (findMember_eq_none.mp hfind x ((hmem x).mpr hx))
      | some y =>
        obtain ⟨hy, hyname⟩ := findMember_some hfind
        rw [(h.member_unique ((hmem y).mp hy) hx (hyname.trans hname.symm)).2]

theorem mem_assignedMembers {a : Assignment} (hnodup : (names members).Nodup) :
    x ∈ assignedMembers a members ↔
      (x ∈ members ∧ x.fullTrackName ≠ a.fullTrackName) ∨
        x = assigned a (findMember a.fullTrackName members) := by
  unfold assignedMembers
  cases hfind : findMember a.fullTrackName members with
  | none =>
    have := findMember_eq_none.mp hfind
    have hnew : assigned a none = a.member := rfl
    simp only [List.mem_append, List.mem_singleton, hnew]
    grind
  | some y =>
    obtain ⟨hy, hname⟩ := findMember_some hfind
    simp only [mem_modifyMember hnodup]
    have hunique : ∀ z ∈ members, z.fullTrackName = a.fullTrackName → z = y :=
      fun z hz hzname => eq_of_fullTrackName_eq hnodup hz hy (hzname.trans hname.symm)
    have : assigned a (some y) =
        { a.member with holders := a.member.holders ∪ y.holders } := by
      simp [assigned, Assignment.member]
    grind

theorem names_assignedMembers_nodup {a : Assignment} (hnodup : (names members).Nodup) :
    (names (assignedMembers a members)).Nodup := by
  unfold assignedMembers
  cases hfind : findMember a.fullTrackName members with
  | none =>
    have := findMember_eq_none.mp hfind
    simp only [names, List.map_append, List.map_singleton]
    refine List.nodup_append.mpr ⟨hnodup, List.nodup_singleton _, ?_⟩
    intro n hn n' hn'
    obtain ⟨x, hx, rfl⟩ := List.mem_map.mp hn
    rw [List.mem_singleton.mp hn']
    exact this x hx
  | some y =>
    have hnames : names (modifyMember a.fullTrackName (fun existing =>
        { a.member with holders := a.member.holders ∪ existing.holders }) members) =
          names members := names_modifyMember fun _ _ => rfl
    exact hnames ▸ hnodup

theorem Tracked.assign_spec (h : m.Tracked) {a : Assignment} (ha : m.accepts a) :
    (m.assign a).1 = .ok () ∧
      (∀ s x, (m.assign a).2.Member s x ↔
        (m.Member s x ∧ x.fullTrackName ≠ a.fullTrackName) ∨
          (s = a.switchingSetId ∧ x = assigned a (m.memberNamed a.fullTrackName))) ∧
      (∀ s set, (m.assign a).2.sets.lookup s = some set → set.WellFormed s) ∧
      (m.assign a).2.trackToSet =
        Function.update m.trackToSet a.fullTrackName (some a.switchingSetId) ∧
      (∀ r s, (m.assign a).2.relayTrackToSet r = some s ↔
        (r = a.relayTrackId ∧ s = a.switchingSetId) ∨
          (r ≠ a.relayTrackId ∧ m.relayTrackToSet r = some s ∧
            ∀ x, m.memberNamed a.fullTrackName = some x → x.relayTrackId ≠ r)) ∧
      (m.assign a).2.epoch = m.epoch + 1 := by
  have haccepts : ¬ (m.trackToSet a.fullTrackName).any (· ≠ a.switchingSetId) = true := by
    simpa [accepts, Option.any_eq_true] using ha
  obtain ⟨hid, hnodup, hmem, hfind⟩ := h.assignedSet_spec ha
  have hmembers : ∀ x, x ∈ assignedMembers a (m.assignedSet a).members ↔
      (m.Member a.switchingSetId x ∧ x.fullTrackName ≠ a.fullTrackName) ∨
        x = assigned a (m.memberNamed a.fullTrackName) := by
    intro x
    rw [mem_assignedMembers hnodup, hmem, hfind]
  have hother : ∀ s x, s ≠ a.switchingSetId → m.Member s x →
      x.fullTrackName ≠ a.fullTrackName := by
    intro s x hne hx hname
    exact hne (ha s (hname ▸ h.member_trackToSet hx))
  simp only [SwitchingSetManager.assign, if_neg haccepts]
  refine ⟨trivial, ?_, ?_, trivial, ?_, trivial⟩
  · intro s x
    rw [member_of_insert rfl]
    obtain rfl | hne := eq_or_ne s a.switchingSetId
    · simp [hmembers]
    · simpa [hne] using hother s x hne
  · intro s set hset
    simp only [lookup_insert_eq] at hset
    split at hset
    next heq =>
      subst heq
      cases hset
      have hin : assigned a (m.memberNamed a.fullTrackName) ∈
          sortMembers (assignedMembers a (m.assignedSet a).members) :=
        mem_sortMembers.mpr ((hmembers _).mpr (.inr rfl))
      exact ⟨hid, List.ne_nil_of_mem hin,
        (names_sortMembers_nodup _).mpr (names_assignedMembers_nodup hnodup),
        sortMembers_sorted _⟩
    next => exact h.sets s set hset
  · intro r s
    rw [hfind]
    cases hnamed : m.memberNamed a.fullTrackName with
    | none =>
      simp only [Option.map_none]
      grind [Function.update_apply]
    | some x =>
      simp only [Option.map_some]
      grind [Function.update_apply]

theorem Tracked.assign (h : m.Tracked) (a : Assignment) : (m.assign a).2.Tracked := by
  by_cases ha : m.accepts a
  · obtain ⟨-, hmember, hsets, htrack, -⟩ := h.assign_spec ha
    have hname : (assigned a (m.memberNamed a.fullTrackName)).fullTrackName = a.fullTrackName :=
      rfl
    refine ⟨hsets, ?_⟩
    intro n s
    rw [htrack]
    have := h.tracked n s
    grind [Function.update_apply]
  · rwa [assign_of_refused ha]

/-- An assignment keeps the relay ids in step as long as no other track has its own. -/
theorem Consistent.assign (h : m.Consistent) (a : Assignment)
    (hrelay : ∀ s x, m.Member s x → x.relayTrackId = a.relayTrackId →
      x.fullTrackName = a.fullTrackName) : (m.assign a).2.Consistent := by
  by_cases ha : m.accepts a
  · obtain ⟨-, hmember, -, -, hrelays, -⟩ := h.assign_spec ha
    have hname : (assigned a (m.memberNamed a.fullTrackName)).fullTrackName = a.fullTrackName :=
      rfl
    have hid : (assigned a (m.memberNamed a.fullTrackName)).relayTrackId = a.relayTrackId := rfl
    refine ⟨h.toTracked.assign a, ?_, ?_⟩
    · intro r s
      rw [hrelays, h.relayed r s]
      have hnamed : ∀ x, m.memberNamed a.fullTrackName = some x ↔ _ :=
        fun x => h.memberNamed_eq_some
      have := h.relay_inj
      grind
    · intro s₁ s₂ x₁ x₂ h₁ h₂
      have := h.relay_inj s₁ s₂ x₁ x₂
      grind
  · rwa [assign_of_refused ha]

/-! The notes about streams leave the sets alone. -/

theorem noteStreamOpened_spec (relayTrackId : Nat) :
    (m.noteStreamOpened relayTrackId).sets = m.sets ∧
      (m.noteStreamOpened relayTrackId).trackToSet = m.trackToSet ∧
      (m.noteStreamOpened relayTrackId).relayTrackToSet = m.relayTrackToSet ∧
      (m.noteStreamOpened relayTrackId).epoch = m.epoch := by
  unfold noteStreamOpened
  split <;> exact ⟨rfl, rfl, rfl, rfl⟩

theorem noteStreamClosed_spec (relayTrackId : Nat) :
    (m.noteStreamClosed relayTrackId).sets = m.sets ∧
      (m.noteStreamClosed relayTrackId).trackToSet = m.trackToSet ∧
      (m.noteStreamClosed relayTrackId).relayTrackToSet = m.relayTrackToSet ∧
      (m.noteStreamClosed relayTrackId).epoch = m.epoch := by
  unfold noteStreamClosed
  split
  · exact ⟨rfl, rfl, rfl, rfl⟩
  · split <;> exact ⟨rfl, rfl, rfl, rfl⟩

theorem Tracked.of_eq {m' : SwitchingSetManager} (h : m.Tracked) (hsets : m'.sets = m.sets)
    (htrack : m'.trackToSet = m.trackToSet) : m'.Tracked := by
  constructor
  · rw [hsets]
    exact h.sets
  · intro n s
    simp only [Member, hsets, htrack]
    exact h.tracked n s

theorem Consistent.of_eq {m' : SwitchingSetManager} (h : m.Consistent) (hsets : m'.sets = m.sets)
    (htrack : m'.trackToSet = m.trackToSet) (hrelay : m'.relayTrackToSet = m.relayTrackToSet) :
    m'.Consistent := by
  refine ⟨h.toTracked.of_eq hsets htrack, ?_, ?_⟩
  all_goals simp only [Member, hsets, hrelay]
  · exact h.relayed
  · exact h.relay_inj

end SwitchingSetManager

end Moqtail.Ssts
