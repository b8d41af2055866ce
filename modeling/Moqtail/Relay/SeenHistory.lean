import Moqtail.Relay.SeenObjects

/-! What duplicate detection remembers of a history of calls. A slot holds the newest group that
came to it, the inline bitmap every id of that group, and the window the ids less than `4096` below
the highest one. -/
namespace Moqtail

theorem testBit_setBit (words i j : Nat) :
    (setBit words i).testBit j = (decide (i = j) || words.testBit j) := by
  rw [setBit, Nat.testBit_or, Nat.one_shiftLeft, Nat.testBit_two_pow, Bool.or_comm]

theorem testBit_clearBit (words i j : Nat) :
    (clearBit words i).testBit j = (decide (i ≠ j) && words.testBit j) := by
  unfold clearBit
  by_cases hij : i = j
  · subst hij
    split
    · next hset => simp [Nat.one_shiftLeft, hset]
    · next hclear => simpa using hclear
  · split
    · simp [Nat.one_shiftLeft, hij]
    · simp [hij]

theorem testBit_foldl_clearBit (f : Nat → Nat) (l : List Nat) (words j : Nat) :
    (l.foldl (fun words i => clearBit words (f i)) words).testBit j =
      (words.testBit j && l.all fun i => decide (f i ≠ j)) := by
  induction l generalizing words with
  | nil => simp
  | cons i l ih =>
    rw [List.foldl_cons, ih, testBit_clearBit, List.all_cons, Bool.and_comm (decide _), Bool.and_assoc]

/-! The window. -/

section Window

variable {high id x : UInt64} {words : Nat}

theorem toNat_mod_windowBits (id : UInt64) : (id % windowBits).toNat = id.toNat % 4096 :=
  UInt64.toNat_mod ..

theorem windowBits_le_sub_iff (h : high ≤ id) :
    id - high ≥ windowBits ↔ high.toNat + 4096 ≤ id.toNat := by
  have hle : high.toNat ≤ id.toNat := h
  rw [ge_iff_le, UInt64.le_iff_toNat_le, UInt64.toNat_sub_of_le _ _ h]
  show 4096 ≤ _ ↔ _
  omega

/-- Sliding keeps the ids that stay in the window. -/
theorem slideWindow_kept (hid : high < id) (hx : x ≤ high) (h : id.toNat < x.toNat + 4096) :
    (slideWindow high words id).testBit (x.toNat % 4096) = words.testBit (x.toNat % 4096) := by
  have hlt : high.toNat < id.toNat := hid
  have hle : x.toNat ≤ high.toNat := hx
  have hnarrow : ¬ id - high ≥ windowBits := by
    rw [windowBits_le_sub_iff (UInt64.le_of_lt hid)]
    omega
  rw [slideWindow, if_neg hnarrow, testBit_foldl_clearBit, UInt64.toNat_sub_of_le _ _ (UInt64.le_of_lt hid)]
  have hall : (List.range (id.toNat - high.toNat)).all
      (fun i => decide ((high.toNat + 1 + i) % windowBits.toNat ≠ x.toNat % 4096)) = true := by
    rw [List.all_eq_true]
    intro i hi
    rw [List.mem_range] at hi
    show decide ((high.toNat + 1 + i) % 4096 ≠ x.toNat % 4096) = true
    rw [decide_eq_true_iff]
    omega
  rw [hall, Bool.and_true]

/-- Sliding clears the positions of the ids that enter the window. -/
theorem slideWindow_entered (hx : high < x) (hid : x ≤ id) (h : id.toNat < x.toNat + 4096) :
    (slideWindow high words id).testBit (x.toNat % 4096) = false := by
  have hlt : high.toNat < x.toNat := hx
  have hle : x.toNat ≤ id.toNat := hid
  have hlt' : high < id := UInt64.lt_of_lt_of_le hx hid
  unfold slideWindow
  split
  · exact Nat.zero_testBit _
  · rw [testBit_foldl_clearBit, UInt64.toNat_sub_of_le _ _ (UInt64.le_of_lt hlt'), Bool.and_eq_false_iff]
    right
    rw [List.all_eq_false]
    refine ⟨x.toNat - high.toNat - 1, List.mem_range.mpr (by omega), ?_⟩
    have hpos : high.toNat + 1 + (x.toNat - high.toNat - 1) = x.toNat := by omega
    rw [hpos]
    simp [windowBits]

/-- The ids less than `4096` below the highest one have the bits of those that came. -/
structure WindowHolds (ids : Set UInt64) (high : UInt64) (words : Nat) : Prop where
  newest : ∀ id ∈ ids, id ≤ high
  bit_iff : ∀ id ≤ high, high.toNat < id.toNat + 4096 →
    (words.testBit (id.toNat % 4096) = true ↔ id ∈ ids)

def GroupBits.Holds (ids : Set UInt64) : GroupBits → Prop
  | .inline words => (∀ id ∈ ids, id < inlineBits) ∧
      ∀ id < inlineBits, words.testBit id.toNat = true ↔ id ∈ ids
  | .window high words => WindowHolds ids high words ∧ high ∈ ids

/-- No id that came is `4096` or more above this one. -/
def Within (ids : Set UInt64) (id : UInt64) : Prop := ∀ other ∈ ids, other.toNat < id.toNat + 4096

variable {ids : Set UInt64}

theorem WindowHolds.slide (h : WindowHolds ids high words) (hid : high < id) :
    (GroupBits.window id (setBit (slideWindow high words id) (id % windowBits).toNat)).Holds
      (insert id ids) := by
  refine ⟨⟨?_, ?_⟩, Set.mem_insert _ _⟩
  · rintro other (rfl | hother)
    · exact UInt64.le_refl _
    · exact UInt64.le_trans (h.newest other hother) (UInt64.le_of_lt hid)
  · intro other hle hin
    have hle' : other.toNat ≤ id.toNat := hle
    rw [testBit_setBit, toNat_mod_windowBits, Set.mem_insert_iff]
    by_cases hsame : other = id
    · simp [hsame]
    · have hne : other.toNat ≠ id.toNat := fun heq => hsame (UInt64.toNat_inj.mp heq)
      have hpos : id.toNat % 4096 ≠ other.toNat % 4096 := by omega
      rw [decide_eq_false hpos, Bool.false_or, or_iff_right hsame]
      by_cases hold : other ≤ high
      · rw [slideWindow_kept hid hold hin]
        have hlt : high.toNat < id.toNat := hid
        exact h.bit_iff other hold (by omega)
      · have hnew := UInt64.not_le.mp hold
        rw [slideWindow_entered hnew hle hin]
        simpa using fun hmem => hold (h.newest other hmem)

theorem WindowHolds.set (h : WindowHolds ids high words) (hid : id ≤ high)
    (hin : high.toNat < id.toNat + 4096) :
    WindowHolds (insert id ids) high (setBit words (id.toNat % 4096)) where
  newest := by
    rintro other (rfl | hother)
    · exact hid
    · exact h.newest other hother
  bit_iff other hle hother := by
    have hid' : id.toNat ≤ high.toNat := hid
    have hle' : other.toNat ≤ high.toNat := hle
    rw [testBit_setBit, Set.mem_insert_iff]
    by_cases hsame : other = id
    · simp [hsame]
    · have hne : other.toNat ≠ id.toNat := fun heq => hsame (UInt64.toNat_inj.mp heq)
      have hpos : id.toNat % 4096 ≠ other.toNat % 4096 := by omega
      rw [decide_eq_false hpos, Bool.false_or, or_iff_right hsame]
      exact h.bit_iff other hle hother

/-- What the window answers, and that it holds the id afterwards. -/
theorem windowTestAndSet_holds (h : WindowHolds ids high words) (htop : high ∈ ids ∨ high < id) :
    ((windowTestAndSet high words id).1 = true ↔ id ∈ ids ∧ Within ids id) ∧
      (windowTestAndSet high words id).2.Holds (insert id ids) := by
  unfold windowTestAndSet
  by_cases hnew : id > high
  · rw [if_pos hnew]
    refine ⟨?_, h.slide hnew⟩
    have hnot : id ∉ ids := fun hmem => absurd (h.newest id hmem) (UInt64.not_le.mpr hnew)
    simp [hnot]
  · have hle : id ≤ high := UInt64.not_lt.mp hnew
    have hhigh : high ∈ ids := htop.resolve_right hnew
    have hwithin : Within ids id ↔ high.toNat < id.toNat + 4096 := by
      constructor
      · exact fun hall => hall high hhigh
      · intro hlt other hother
        have hother' : other.toNat ≤ high.toNat := h.newest other hother
        omega
    rw [if_neg hnew]
    by_cases hfar : id.toNat + 4096 ≤ high.toNat
    · rw [if_pos ((windowBits_le_sub_iff hle).mpr hfar)]
      refine ⟨?_, ⟨?_, ?_⟩, Set.mem_insert_of_mem _ hhigh⟩
      · simpa [hwithin] using fun _ => hfar
      · rintro other (rfl | hother)
        · exact hle
        · exact h.newest other hother
      · intro other hother hin
        have hne : other ≠ id := fun heq => by rw [heq] at hin; omega
        rw [Set.mem_insert_iff, or_iff_right hne]
        exact h.bit_iff other hother hin
    · rw [if_neg fun hwide => hfar ((windowBits_le_sub_iff hle).mp hwide)]
      have hin : high.toNat < id.toNat + 4096 := Nat.not_le.mp hfar
      simp only [toNat_mod_windowBits]
      refine ⟨?_, h.set hle hin, Set.mem_insert_of_mem _ hhigh⟩
      rw [h.bit_iff id hle hin, hwithin, and_iff_left hin]

end Window

/-! One group. -/

namespace GroupBits

variable {ids : Set UInt64} {id : UInt64} {words : Nat} {bits : GroupBits}

theorem lt_inlineBits_iff : id < inlineBits ↔ id.toNat < 256 := UInt64.lt_iff_toNat_lt

theorem Holds.set (h : (inline words).Holds ids) (hid : id < inlineBits) :
    (inline (setBit words id.toNat)).Holds (insert id ids) := by
  refine ⟨?_, fun other hother => ?_⟩
  · rintro other (rfl | hother)
    · exact hid
    · exact h.1 other hother
  · rw [testBit_setBit, Bool.or_eq_true, decide_eq_true_eq, UInt64.toNat_inj, h.2 other hother,
      Set.mem_insert_iff, eq_comm]

/-- Every recorded id lands inside the window. -/
theorem Holds.promote (h : (inline words).Holds ids) :
    WindowHolds ids (GroupBits.promote words).1 (GroupBits.promote words).2 := by
  have hhigh : (GroupBits.promote words).1.toNat = 255 := rfl
  constructor
  · intro other hother
    rw [UInt64.le_iff_toNat_le, hhigh]
    have hlt := lt_inlineBits_iff.mp (h.1 other hother)
    omega
  · intro other hother _
    rw [UInt64.le_iff_toNat_le, hhigh] at hother
    have hpos : other.toNat % 4096 = other.toNat := Nat.mod_eq_of_lt (by omega)
    have hlt : other.toNat < inlineBits.toNat := Nat.lt_succ_of_le hother
    show (words % 2 ^ inlineBits.toNat).testBit (other.toNat % 4096) = true ↔ _
    rw [hpos, Nat.testBit_mod_two_pow, decide_eq_true hlt, Bool.true_and]
    exact h.2 other (lt_inlineBits_iff.mpr hlt)

/-- What the bitmap of a group answers, and that it holds the id afterwards. -/
theorem testAndSet_holds (h : bits.Holds ids) (id : UInt64) :
    ((bits.testAndSet id).1 = true ↔ id ∈ ids ∧ Within ids id) ∧
      (bits.testAndSet id).2.Holds (insert id ids) := by
  cases bits with
  | inline words =>
    unfold testAndSet
    by_cases hid : id < inlineBits
    · have hwithin : Within ids id := by
        intro other hother
        have hlt := lt_inlineBits_iff.mp (h.1 other hother)
        omega
      simp only [if_pos hid]
      refine ⟨?_, h.set hid⟩
      rw [h.2 id hid, and_iff_left hwithin]
    · simp only [if_neg hid]
      apply windowTestAndSet_holds h.promote
      right
      rw [lt_inlineBits_iff] at hid
      have hhigh : (GroupBits.promote words).1.toNat = 255 := rfl
      rw [UInt64.lt_iff_toNat_lt, hhigh]
      omega
  | window high words => exact windowTestAndSet_holds h.1 (Or.inl h.2)

end GroupBits

theorem GroupState.new_holds (group firstObject : UInt64) :
    (GroupState.new group firstObject).bits.Holds {firstObject} := by
  unfold GroupState.new
  by_cases hinline : firstObject < inlineBits
  · have hempty : (GroupBits.inline 0).Holds ∅ :=
      ⟨fun id hid => absurd hid (Set.notMem_empty id), fun id _ => by simp⟩
    simp only [if_pos hinline]
    simpa using (GroupBits.testAndSet_holds hempty firstObject).2
  · -- the window starts at its first id, whose bit is the only one that is set
    simp only [if_neg hinline, GroupBits.testAndSet, windowTestAndSet]
    have hnot : ¬ firstObject > firstObject := UInt64.lt_irrefl _
    have hnear : ¬ firstObject - firstObject ≥ windowBits := by
      rw [windowBits_le_sub_iff (UInt64.le_refl _)]
      omega
    rw [if_neg hnot, if_neg hnear]
    refine ⟨⟨?_, ?_⟩, Set.mem_singleton _⟩
    · rintro other rfl
      exact UInt64.le_refl _
    · intro other hle hin
      have hle' : other.toNat ≤ firstObject.toNat := hle
      rw [testBit_setBit, toNat_mod_windowBits, Nat.zero_testBit, Bool.or_false, decide_eq_true_eq,
        Set.mem_singleton_iff, ← UInt64.toNat_inj]
      omega

/-! The ring. -/

namespace SeenObjects

/-- The ring after some calls. -/
def after (retainedGroups : Nat) (history : List Location) : SeenObjects :=
  history.foldl (fun seen location => (seen.isDuplicate location).2) (new retainedGroups)

/-- What detection is to recognise: a Location that came before, while no newer group took its slot
and no id of its group came that is `4096` or more above. -/
def Remembered (retainedGroups : Nat) (history : List Location) (location : Location) : Prop :=
  location ∈ history ∧
    (¬ ∃ other ∈ history, location.group < other.group ∧
      other.group.toNat % retainedGroups = location.group.toNat % retainedGroups) ∧
    ¬ ∃ other ∈ history, other.group = location.group ∧
      location.object.toNat + 4096 ≤ other.object.toNat

/-- The Object IDs of a group that came. -/
def objectsOf (history : List Location) (group : UInt64) : Set UInt64 := {o | ⟨group, o⟩ ∈ history}

/-- A slot holds the newest of the groups that came to it. -/
def SlotHolds (n : Nat) (history : List Location) (k : Nat) : Option GroupState → Prop
  | none => ∀ location ∈ history, location.group.toNat % n ≠ k
  | some state => state.group.toNat % n = k ∧
      (∀ location ∈ history, location.group.toNat % n = k → location.group ≤ state.group) ∧
      (objectsOf history state.group).Nonempty ∧ state.bits.Holds (objectsOf history state.group)

variable {n k : Nat} {history : List Location} {location : Location} {slot : Option GroupState}

theorem objectsOf_append_self (history : List Location) (location : Location) :
    objectsOf (history ++ [location]) location.group =
      insert location.object (objectsOf history location.group) := by
  ext o
  simp only [objectsOf, Set.mem_ofPred_eq, Set.mem_insert_iff, List.mem_append, List.mem_singleton]
  rw [or_comm]
  exact or_congr_left ⟨fun h => congrArg Location.object h, fun h => by rw [h]⟩

theorem objectsOf_append_of_ne {group : UInt64} (h : location.group ≠ group) :
    objectsOf (history ++ [location]) group = objectsOf history group := by
  ext o
  simp only [objectsOf, Set.mem_ofPred_eq, List.mem_append, List.mem_singleton]
  exact or_iff_left fun heq => h (congrArg Location.group heq).symm

/-- Calls for other slots change nothing. -/
theorem SlotHolds.other (h : SlotHolds n history k slot) (hother : location.group.toNat % n ≠ k) :
    SlotHolds n (history ++ [location]) k slot := by
  cases slot with
  | none =>
    intro l hl
    rcases List.mem_append.mp hl with hl | hl
    · exact h l hl
    · rw [List.mem_singleton.mp hl]
      exact hother
  | some state =>
    obtain ⟨hslot, hnewest, hsome, hbits⟩ := h
    have hne : location.group ≠ state.group := fun heq => hother (heq ▸ hslot)
    refine ⟨hslot, ?_, ?_, ?_⟩
    · intro l hl hlk
      rcases List.mem_append.mp hl with hl | hl
      · exact hnewest l hl hlk
      · exact absurd hlk (List.mem_singleton.mp hl ▸ hother)
    · rw [objectsOf_append_of_ne hne]
      exact hsome
    · rw [objectsOf_append_of_ne hne]
      exact hbits

/-- A group that takes a slot over, where none or only older ones came. -/
theorem slotHolds_new (hslot : location.group.toNat % n = k)
    (hnewest : ∀ l ∈ history, l.group.toNat % n = k → l.group < location.group) :
    SlotHolds n (history ++ [location]) k (some (.new location.group location.object)) := by
  have hnone : objectsOf history location.group = ∅ := by
    ext o
    refine iff_of_false (fun hmem => ?_) (Set.notMem_empty o)
    exact absurd (hnewest _ hmem hslot) (UInt64.lt_irrefl _)
  have hobjects : objectsOf (history ++ [location]) location.group = {location.object} := by
    rw [objectsOf_append_self, hnone, insert_empty_eq]
  refine ⟨hslot, ?_, ?_, ?_⟩
  · intro l hl hlk
    rcases List.mem_append.mp hl with hl | hl
    · exact UInt64.le_of_lt (hnewest l hl hlk)
    · rw [List.mem_singleton.mp hl]
      exact UInt64.le_refl _
  · show (objectsOf (history ++ [location]) location.group).Nonempty
    rw [hobjects]
    exact Set.singleton_nonempty _
  · show GroupBits.Holds (objectsOf (history ++ [location]) location.group) _
    rw [hobjects]
    exact GroupState.new_holds ..

theorem not_remembered_of_not_mem (h : location ∉ history) : ¬ Remembered n history location :=
  fun hremembered => h hremembered.1

theorem within_iff : Within (objectsOf history location.group) location.object ↔
    ¬ ∃ other ∈ history, other.group = location.group ∧
      location.object.toNat + 4096 ≤ other.object.toNat := by
  constructor
  · rintro h ⟨other, hmem, hgroup, hfar⟩
    have hlt := h other.object (hgroup ▸ hmem)
    omega
  · intro h other hother
    by_contra hfar
    exact h ⟨⟨location.group, other⟩, hother, rfl, Nat.not_lt.mp hfar⟩

/-- What a slot answers, and that it holds the call afterwards. -/
theorem askSlot_holds (h : SlotHolds n history (location.group.toNat % n) slot) :
    ((askSlot slot location).1 = true ↔ Remembered n history location) ∧
      SlotHolds n (history ++ [location]) (location.group.toNat % n) (askSlot slot location).2 := by
  cases slot with
  | none =>
    refine ⟨?_, slotHolds_new rfl fun l hl hlk => absurd hlk (h l hl)⟩
    exact iff_of_false Bool.false_ne_true (not_remembered_of_not_mem fun hmem => h location hmem rfl)
  | some state =>
    obtain ⟨hslot, hnewest, hsome, hbits⟩ := h
    unfold askSlot
    by_cases hsame : state.group = location.group
    · -- the slot describes this group, and no newer one came to it
      rw [hsame] at hnewest hbits
      obtain ⟨hanswer, hholds⟩ := GroupBits.testAndSet_holds hbits location.object
      have hnone : ¬ ∃ other ∈ history, location.group < other.group ∧
          other.group.toNat % n = location.group.toNat % n := by
        rintro ⟨other, hmem, hlt, hslot⟩
        exact UInt64.not_lt.mpr (hnewest other hmem hslot) hlt
      rw [← objectsOf_append_self] at hholds
      simp only [if_pos hsame]
      refine ⟨?_, hslot, ?_, ?_, ?_⟩
      · rw [hanswer, within_iff, Remembered, and_iff_right hnone]
        rfl
      · intro l hl hlk
        rw [hsame]
        rcases List.mem_append.mp hl with hl | hl
        · exact hnewest l hl hlk
        · rw [List.mem_singleton.mp hl]
          exact UInt64.le_refl _
      · rw [hsame, objectsOf_append_self]
        exact Set.insert_nonempty ..
      · rw [hsame]
        exact hholds
    · simp only [if_neg hsame]
      by_cases hnewer : location.group > state.group
      · -- a newer group takes the slot over
        simp only [if_pos hnewer]
        have holder : ∀ l ∈ history, l.group.toNat % n = location.group.toNat % n →
            l.group < location.group := fun l hl hlk =>
          UInt64.lt_of_le_of_lt (hnewest l hl hlk) hnewer
        refine ⟨iff_of_false Bool.false_ne_true (not_remembered_of_not_mem fun hmem => ?_),
          slotHolds_new rfl holder⟩
        exact UInt64.lt_irrefl _ (holder location hmem rfl)
      · -- an older group leaves the slot to the newer one
        simp only [if_neg hnewer]
        have holder : location.group < state.group :=
          UInt64.lt_of_le_of_ne (UInt64.not_lt.mp hnewer) (Ne.symm hsame)
        refine ⟨iff_of_false Bool.false_ne_true fun hremembered => ?_, hslot, ?_, ?_, ?_⟩
        · obtain ⟨o, ho⟩ := hsome
          exact hremembered.2.1 ⟨_, ho, holder, hslot⟩
        · intro l hl hlk
          rcases List.mem_append.mp hl with hl | hl
          · exact hnewest l hl hlk
          · rw [List.mem_singleton.mp hl]
            exact UInt64.le_of_lt holder
        · rw [objectsOf_append_of_ne (Ne.symm hsame)]
          exact hsome
        · rw [objectsOf_append_of_ne (Ne.symm hsame)]
          exact hbits

/-- Every slot holds what came to it. -/
structure Holds (n : Nat) (history : List Location) (seen : SeenObjects) : Prop where
  length : seen.slots.length = n
  slot : ∀ k < n, SlotHolds n history k (seen.slots.getD k none)

variable {seen : SeenObjects}

theorem new_holds (n : Nat) : Holds n [] (new n) where
  length := List.length_replicate
  slot k hk := by
    rw [new, List.getD_replicate _ hk]
    exact fun l hl => absurd hl List.not_mem_nil

theorem Holds.isDuplicate (h : Holds n history seen) (location : Location) :
    ((seen.isDuplicate location).1 = true ↔ 0 < n ∧ Remembered n history location) ∧
      Holds n (history ++ [location]) (seen.isDuplicate location).2 := by
  unfold SeenObjects.isDuplicate
  by_cases hempty : seen.slots.isEmpty
  · have hzero : n = 0 := by
      rw [← h.length, List.length_eq_zero_iff]
      exact List.isEmpty_iff.mp hempty
    rw [if_pos hempty]
    refine ⟨iff_of_false Bool.false_ne_true fun hpos => absurd hzero hpos.1.ne', h.length, ?_⟩
    intro k hk
    omega
  · have hpos : 0 < n := by
      rw [← h.length, List.length_pos_iff]
      simpa using hempty
    have hindex : location.group.toNat % n < n := Nat.mod_lt _ hpos
    rw [if_neg hempty, h.length, and_iff_right hpos]
    obtain ⟨hanswer, hslot⟩ := askSlot_holds (h.slot _ hindex)
    refine ⟨hanswer, by simpa using h.length, fun k hk => ?_⟩
    rw [List.getD_eq_getElem?_getD, List.getElem?_set]
    by_cases hk' : location.group.toNat % n = k
    · subst hk'
      rw [if_pos rfl, if_pos (h.length ▸ hk)]
      exact hslot
    · rw [if_neg hk', ← List.getD_eq_getElem?_getD]
      exact (h.slot k hk).other hk'

theorem after_holds (n : Nat) (history : List Location) : Holds n history (after n history) := by
  induction history using List.reverseRecOn with
  | nil => exact new_holds n
  | append_singleton history location ih =>
    rw [after, List.foldl_append]
    exact (ih.isDuplicate location).2

/-- Detection is exact within the ring and the window. -/
theorem isDuplicate_after_iff (n : Nat) (history : List Location) (location : Location) :
    ((after n history).isDuplicate location).1 = true ↔ 0 < n ∧ Remembered n history location :=
  ((after_holds n history).isDuplicate location).1

end SeenObjects

end Moqtail
