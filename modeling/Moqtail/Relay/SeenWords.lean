import Moqtail.Relay.SeenHistory

/-! Duplicate detection over words. The bitmaps of `server/seen_objects.rs` are arrays of `u64`,
four of them inline and 64 in a window. Each of them stands for a number, and every call answers
what it answers over the numbers. -/
namespace Moqtail.Words

variable {n : Nat}

def bitIsSet (words : Vector UInt64 n) (index : UInt64) : Bool :=
  words[(index >>> 6).toNat]?.getD 0 &&& (1 <<< (index &&& 63)) ≠ 0

def setBit (words : Vector UInt64 n) (index : UInt64) : Vector UInt64 n :=
  words.setIfInBounds (index >>> 6).toNat
    (words[(index >>> 6).toNat]?.getD 0 ||| (1 <<< (index &&& 63)))

def clearBit (words : Vector UInt64 n) (index : UInt64) : Vector UInt64 n :=
  words.setIfInBounds (index >>> 6).toNat
    (words[(index >>> 6).toNat]?.getD 0 &&& ~~~ (1 <<< (index &&& 63)))

def slideWindow (high : UInt64) (words : Vector UInt64 64) (id : UInt64) : Vector UInt64 64 :=
  if id - high ≥ windowBits then Vector.replicate 64 0
  else
    (List.range (id - high).toNat).foldl
      (fun words i => clearBit words ((high + 1 + UInt64.ofNat i) % windowBits)) words

inductive GroupBits where
  | inline (words : Vector UInt64 4)
  | window (high : UInt64) (words : Vector UInt64 64)

def windowTestAndSet (high : UInt64) (words : Vector UInt64 64) (id : UInt64) : Bool × GroupBits :=
  if id > high then
    (false, .window id (setBit (slideWindow high words id) (id % windowBits)))
  else if high - id ≥ windowBits then
    (false, .window high words)
  else
    let index := id % windowBits
    (bitIsSet words index, .window high (setBit words index))

namespace GroupBits

def promote (words : Vector UInt64 4) : UInt64 × Vector UInt64 64 :=
  (inlineBits - 1, (List.range inlineBits.toNat).foldl (fun window i =>
    if bitIsSet words (UInt64.ofNat i) then setBit window (UInt64.ofNat i % windowBits) else window)
    (Vector.replicate 64 0))

def testAndSet (bits : GroupBits) (id : UInt64) : Bool × GroupBits :=
  match bits with
  | inline words =>
    if id < inlineBits then
      (bitIsSet words id, inline (setBit words id))
    else
      let (high, words) := promote words
      windowTestAndSet high words id
  | window high words => windowTestAndSet high words id

end GroupBits

structure GroupState where
  group : UInt64
  bits : GroupBits

def GroupState.new (group firstObject : UInt64) : GroupState :=
  let bits := if firstObject < inlineBits then .inline (Vector.replicate 4 0)
    else .window firstObject (Vector.replicate 64 0)
  ⟨group, (GroupBits.testAndSet bits firstObject).2⟩

structure SeenObjects where
  slots : List (Option GroupState)

namespace SeenObjects

def new (retainedGroups : Nat) : SeenObjects := ⟨List.replicate retainedGroups none⟩

def askSlot (slot : Option GroupState) (location : Location) : Bool × Option GroupState :=
  match slot with
  | some state =>
    if state.group = location.group then
      let (seen, bits) := state.bits.testAndSet location.object
      (seen, some { state with bits := bits })
    else if location.group > state.group then
      (false, some (.new location.group location.object))
    else
      (false, some state)
  | none => (false, some (.new location.group location.object))

def isDuplicate (seen : SeenObjects) (location : Location) : Bool × SeenObjects :=
  if seen.slots.isEmpty then (false, seen)
  else
    let index := location.group.toNat % seen.slots.length
    let (answer, slot) := askSlot (seen.slots.getD index none) location
    (answer, ⟨seen.slots.set index slot⟩)

/-- The ring after some calls. -/
def after (retainedGroups : Nat) (history : List Location) : SeenObjects :=
  history.foldl (fun seen location => (seen.isDuplicate location).2) (new retainedGroups)

end SeenObjects

/-! Bits of words. -/

theorem toNat_index (index : UInt64) : (index >>> 6).toNat = index.toNat / 64 := by
  rw [UInt64.toNat_shiftRight, Nat.shiftRight_eq_div_pow]
  rfl

theorem toNat_mask (index : UInt64) :
    ((1 : UInt64) <<< (index &&& 63)).toNat = 2 ^ (index.toNat % 64) := by
  have hoffset : (index &&& 63).toNat % 64 = index.toNat % 64 := by
    rw [UInt64.toNat_and]
    show (index.toNat &&& 2 ^ 6 - 1) % 64 = _
    rw [Nat.and_two_pow_sub_one_eq_mod]
    exact Nat.mod_mod _ _
  have hlt : 2 ^ (index.toNat % 64) < 2 ^ 64 :=
    Nat.pow_lt_pow_right (by decide) (Nat.mod_lt _ (by decide))
  rw [UInt64.toNat_shiftLeft, hoffset]
  show 1 <<< (index.toNat % 64) % 2 ^ 64 = _
  rw [Nat.one_shiftLeft, Nat.mod_eq_of_lt hlt]

theorem bitIsSet_eq (words : Vector UInt64 n) (index : UInt64) :
    bitIsSet words index =
      (words[index.toNat / 64]?.getD 0).toNat.testBit (index.toNat % 64) := by
  have hne : ∀ word : UInt64, word &&& (1 <<< (index &&& 63)) ≠ 0 ↔
      word.toNat.testBit (index.toNat % 64) = true := by
    intro word
    rw [ne_eq, ← UInt64.toNat_inj, UInt64.toNat_and, toNat_mask, Nat.and_two_pow]
    cases word.toNat.testBit (index.toNat % 64) <;> simp
  unfold bitIsSet
  rw [toNat_index, Bool.eq_iff_iff, decide_eq_true_iff, hne]

variable {words : Vector UInt64 n} {i : UInt64}

theorem index_eq_iff (i j : UInt64) :
    i = j ↔ i.toNat / 64 = j.toNat / 64 ∧ i.toNat % 64 = j.toNat % 64 := by
  rw [← UInt64.toNat_inj]
  omega

theorem bitIsSet_setBit (hi : i.toNat < 64 * n) (j : UInt64) :
    bitIsSet (setBit words i) j = (decide (i = j) || bitIsSet words j) := by
  have hword : i.toNat / 64 < n := by omega
  rw [bitIsSet_eq, bitIsSet_eq, setBit, toNat_index, Vector.getElem?_setIfInBounds]
  by_cases hsame : i.toNat / 64 = j.toNat / 64
  · rw [if_pos hsame, if_pos hword, Option.getD_some, UInt64.toNat_or, Nat.testBit_or, toNat_mask,
      Nat.testBit_two_pow, hsame, Bool.or_comm]
    simp only [index_eq_iff i j, hsame, true_and]
  · rw [if_neg hsame]
    simp [index_eq_iff i j, hsame]

theorem bitIsSet_clearBit (hi : i.toNat < 64 * n) (j : UInt64) :
    bitIsSet (clearBit words i) j = (decide (i ≠ j) && bitIsSet words j) := by
  have hword : i.toNat / 64 < n := by omega
  rw [bitIsSet_eq, bitIsSet_eq, clearBit, toNat_index, Vector.getElem?_setIfInBounds]
  by_cases hsame : i.toNat / 64 = j.toNat / 64
  · have hbound : 2 ^ (i.toNat % 64) < 2 ^ 64 :=
      Nat.pow_lt_pow_right (by decide) (Nat.mod_lt _ (by decide))
    have hnot : (~~~ ((1 : UInt64) <<< (i &&& 63))).toNat.testBit (j.toNat % 64) =
        ! decide (i.toNat % 64 = j.toNat % 64) := by
      rw [UInt64.toNat_not, toNat_mask, Nat.sub_sub, Nat.add_comm 1]
      show (2 ^ 64 - (2 ^ (i.toNat % 64) + 1)).testBit _ = _
      rw [Nat.testBit_two_pow_sub_succ hbound, Nat.testBit_two_pow]
      simp [Nat.mod_lt]
    rw [if_pos hsame, if_pos hword, Option.getD_some, UInt64.toNat_and, Nat.testBit_and, hnot, hsame,
      Bool.and_comm]
    simp only [index_eq_iff i j, hsame, true_and, ne_eq, decide_not]
  · rw [if_neg hsame]
    simp [index_eq_iff i j, hsame]

theorem bitIsSet_replicate (n : Nat) (j : UInt64) :
    bitIsSet (Vector.replicate n 0) j = false := by
  rw [bitIsSet_eq, Vector.getElem?_replicate]
  split <;> simp

/-! Words for a number. -/

/-- The words hold the bits of the number. -/
def Packs (words : Vector UInt64 n) (number : Nat) : Prop :=
  ∀ i : UInt64, i.toNat < 64 * n → bitIsSet words i = number.testBit i.toNat

namespace Packs

variable {number : Nat}

theorem zero (n : Nat) : Packs (Vector.replicate n 0) 0 := by
  intro i _
  rw [bitIsSet_replicate, Nat.zero_testBit]

theorem set (h : Packs words number) (hi : i.toNat < 64 * n) :
    Packs (setBit words i) (Moqtail.setBit number i.toNat) := by
  intro j hj
  rw [bitIsSet_setBit hi, testBit_setBit, h j hj]
  simp only [← UInt64.toNat_inj]

theorem clear (h : Packs words number) (hi : i.toNat < 64 * n) :
    Packs (clearBit words i) (Moqtail.clearBit number i.toNat) := by
  intro j hj
  rw [bitIsSet_clearBit hi, testBit_clearBit, h j hj]
  simp only [ne_eq, ← UInt64.toNat_inj]

theorem foldl_clear {f : Nat → UInt64} {g : Nat → Nat} {l : List Nat} (h : Packs words number)
    (hf : ∀ i ∈ l, (f i).toNat = g i) (hg : ∀ i ∈ l, g i < 64 * n) :
    Packs (l.foldl (fun words i => clearBit words (f i)) words)
      (l.foldl (fun number i => Moqtail.clearBit number (g i)) number) := by
  induction l generalizing words number with
  | nil => exact h
  | cons i l ih =>
    rw [List.forall_mem_cons] at hf hg
    rw [List.foldl_cons, List.foldl_cons, ← hf.1]
    exact ih (h.clear (hf.1 ▸ hg.1)) hf.2 hg.2

end Packs

theorem toNat_mod_lt (id : UInt64) : (id % windowBits).toNat < 64 * 64 := by
  rw [toNat_mod_windowBits]
  exact Nat.mod_lt _ (by decide)

section Window

variable {high id : UInt64} {words : Vector UInt64 64} {number : Nat}

theorem Packs.slide (h : Packs words number) (hid : high < id) :
    Packs (slideWindow high words id) (Moqtail.slideWindow high number id) := by
  unfold slideWindow Moqtail.slideWindow
  split
  · exact Packs.zero 64
  · apply h.foldl_clear
    · intro i hi
      rw [List.mem_range, UInt64.toNat_sub_of_le _ _ (UInt64.le_of_lt hid)] at hi
      have hlt := id.toNat_lt
      have hi' : (UInt64.ofNat i).toNat = i := UInt64.toNat_ofNat_of_lt' (by show i < 2 ^ 64; omega)
      have hsum : (high + 1 + UInt64.ofNat i).toNat = high.toNat + 1 + i := by
        rw [UInt64.toNat_add, UInt64.toNat_add, hi']
        show ((high.toNat + 1) % 2 ^ 64 + i) % 2 ^ 64 = _
        omega
      rw [UInt64.toNat_mod, hsum]
    · exact fun i _ => Nat.mod_lt _ (by decide)

end Window

/-- Moving the inline words into a window copies their bits. -/
theorem bitIsSet_promote (words : Vector UInt64 4) (m : Nat) (hm : m ≤ 256) (j : UInt64)
    (hj : j.toNat < 4096) :
    bitIsSet ((List.range m).foldl (fun window i =>
      if bitIsSet words (UInt64.ofNat i) then setBit window (UInt64.ofNat i % windowBits) else window)
      (Vector.replicate 64 0)) j = (decide (j.toNat < m) && bitIsSet words j) := by
  induction m with
  | zero => simp [bitIsSet_replicate]
  | succ m ih =>
    have htoNat : (UInt64.ofNat m).toNat = m := UInt64.toNat_ofNat_of_lt' (by show m < 2 ^ 64; omega)
    have hpos : UInt64.ofNat m % windowBits = UInt64.ofNat m := by
      rw [← UInt64.toNat_inj, toNat_mod_windowBits, htoNat]
      exact Nat.mod_eq_of_lt (by omega)
    rw [List.range_succ, List.foldl_append, List.foldl_cons, List.foldl_nil, hpos]
    split
    · next hset =>
      rw [bitIsSet_setBit (by omega), ih (by omega)]
      by_cases hjm : UInt64.ofNat m = j
      · subst hjm
        simp [hset, htoNat]
      · have hne : j.toNat ≠ m := fun heq => hjm (UInt64.toNat_inj.mp (htoNat.trans heq.symm))
        have hlt : j.toNat < m + 1 ↔ j.toNat < m := by omega
        simp [hjm, hlt]
    · next hclear =>
      rw [ih (by omega)]
      by_cases hjm : UInt64.ofNat m = j
      · subst hjm
        simp [hclear]
      · have hne : j.toNat ≠ m := fun heq => hjm (UInt64.toNat_inj.mp (htoNat.trans heq.symm))
        have hlt : j.toNat < m + 1 ↔ j.toNat < m := by omega
        simp [hlt]

namespace GroupBits

/-- The bitmap of words stands for the bitmap that is a number. -/
def Packs : GroupBits → Moqtail.GroupBits → Prop
  | .inline words, .inline number => Words.Packs words number
  | .window high words, .window high' number => high = high' ∧ Words.Packs words number
  | _, _ => False

variable {id : UInt64}

theorem promote_packs {words : Vector UInt64 4} {number : Nat} (h : Words.Packs words number) :
    (promote words).1 = (Moqtail.GroupBits.promote number).1 ∧
      Words.Packs (promote words).2 (Moqtail.GroupBits.promote number).2 := by
  refine ⟨rfl, fun j hj => ?_⟩
  show bitIsSet (promote words).2 j = (number % 2 ^ inlineBits.toNat).testBit j.toNat
  rw [Nat.testBit_mod_two_pow, promote, bitIsSet_promote words inlineBits.toNat (by decide) j hj]
  by_cases hlt : j.toNat < inlineBits.toNat
  · rw [h j hlt]
  · rw [decide_eq_false hlt, Bool.false_and, Bool.false_and]

theorem windowTestAndSet_packs {high : UInt64} {words : Vector UInt64 64} {number : Nat}
    (h : Words.Packs words number) (id : UInt64) :
    (windowTestAndSet high words id).1 = (Moqtail.windowTestAndSet high number id).1 ∧
      (windowTestAndSet high words id).2.Packs (Moqtail.windowTestAndSet high number id).2 := by
  have hindex := toNat_mod_lt id
  unfold windowTestAndSet Moqtail.windowTestAndSet
  split
  · next hnew => exact ⟨rfl, rfl, (h.slide hnew).set hindex⟩
  · split
    · exact ⟨rfl, rfl, h⟩
    · exact ⟨h _ hindex, rfl, h.set hindex⟩

theorem testAndSet_packs {bits : GroupBits} {bits' : Moqtail.GroupBits} (h : bits.Packs bits')
    (id : UInt64) :
    (bits.testAndSet id).1 = (bits'.testAndSet id).1 ∧
      (bits.testAndSet id).2.Packs (bits'.testAndSet id).2 := by
  match bits, bits', h with
  | .window high words, .window _ number, ⟨rfl, h⟩ => exact windowTestAndSet_packs h id
  | .inline words, .inline number, h =>
    unfold testAndSet Moqtail.GroupBits.testAndSet
    by_cases hid : id < inlineBits
    · have hindex : id.toNat < 64 * 4 := GroupBits.lt_inlineBits_iff.mp hid
      simp only [if_pos hid]
      exact ⟨h id hindex, h.set hindex⟩
    · simp only [if_neg hid]
      exact windowTestAndSet_packs (promote_packs h).2 id

end GroupBits

theorem GroupState.new_packs (group firstObject : UInt64) :
    (GroupState.new group firstObject).group = (Moqtail.GroupState.new group firstObject).group ∧
      (GroupState.new group firstObject).bits.Packs (Moqtail.GroupState.new group firstObject).bits := by
  refine ⟨rfl, ?_⟩
  unfold GroupState.new Moqtail.GroupState.new
  by_cases hinline : firstObject < inlineBits
  · have hempty : (GroupBits.inline (Vector.replicate 4 0)).Packs (.inline 0) := Packs.zero 4
    simp only [if_pos hinline]
    exact (GroupBits.testAndSet_packs hempty firstObject).2
  · have hempty : (GroupBits.window firstObject (Vector.replicate 64 0)).Packs
        (.window firstObject 0) := ⟨rfl, Packs.zero 64⟩
    simp only [if_neg hinline]
    exact (GroupBits.testAndSet_packs hempty firstObject).2

/-! The ring. -/

namespace SeenObjects

def SlotPacks : Option GroupState → Option Moqtail.GroupState → Prop
  | none, none => True
  | some state, some state' => state.group = state'.group ∧ state.bits.Packs state'.bits
  | _, _ => False

theorem askSlot_packs {slot : Option GroupState} {slot' : Option Moqtail.GroupState}
    (h : SlotPacks slot slot') (location : Location) :
    (askSlot slot location).1 = (Moqtail.SeenObjects.askSlot slot' location).1 ∧
      SlotPacks (askSlot slot location).2 (Moqtail.SeenObjects.askSlot slot' location).2 := by
  match slot, slot', h with
  | none, none, _ => exact ⟨rfl, GroupState.new_packs ..⟩
  | some state, some state', ⟨hgroup, hbits⟩ =>
    unfold askSlot Moqtail.SeenObjects.askSlot
    by_cases hsame : state'.group = location.group
    · simp only [hgroup, if_pos hsame]
      have htest := GroupBits.testAndSet_packs hbits location.object
      exact ⟨htest.1, rfl, htest.2⟩
    · by_cases hnewer : location.group > state'.group
      · simp only [hgroup, if_neg hsame, if_pos hnewer]
        exact ⟨trivial, GroupState.new_packs ..⟩
      · simp only [hgroup, if_neg hsame, if_neg hnewer]
        exact ⟨trivial, hgroup, hbits⟩

structure Packs (seen : SeenObjects) (seen' : Moqtail.SeenObjects) : Prop where
  length : seen.slots.length = seen'.slots.length
  slot : ∀ k, SlotPacks (seen.slots.getD k none) (seen'.slots.getD k none)

variable {seen : SeenObjects} {seen' : Moqtail.SeenObjects}

/-- A call over words answers what it answers over numbers. -/
theorem Packs.isDuplicate (h : Packs seen seen') (location : Location) :
    (seen.isDuplicate location).1 = (seen'.isDuplicate location).1 ∧
      Packs (seen.isDuplicate location).2 (seen'.isDuplicate location).2 := by
  have hempty : seen.slots.isEmpty = seen'.slots.isEmpty := by
    rw [Bool.eq_iff_iff, List.isEmpty_iff_length_eq_zero, List.isEmpty_iff_length_eq_zero, h.length]
  unfold SeenObjects.isDuplicate Moqtail.SeenObjects.isDuplicate
  rw [hempty, h.length]
  split
  · exact ⟨rfl, h⟩
  · have hask := askSlot_packs (h.slot (location.group.toNat % seen'.slots.length)) location
    refine ⟨hask.1, by simpa using h.length, fun k => ?_⟩
    simp only [List.getD_eq_getElem?_getD, List.getElem?_set, h.length]
    split
    · split
      · exact hask.2
      · trivial
    · simpa only [List.getD_eq_getElem?_getD] using h.slot k

theorem after_packs (n : Nat) (history : List Location) :
    Packs (after n history) (Moqtail.SeenObjects.after n history) := by
  induction history using List.reverseRecOn with
  | nil =>
    refine ⟨by simp [after, Moqtail.SeenObjects.after, new, Moqtail.SeenObjects.new], fun k => ?_⟩
    simp only [after, Moqtail.SeenObjects.after, new, Moqtail.SeenObjects.new, List.foldl_nil,
      List.getD_eq_getElem?_getD, List.getElem?_replicate]
    split <;> trivial
  | append_singleton history location ih =>
    rw [after, Moqtail.SeenObjects.after, List.foldl_append, List.foldl_append]
    exact (ih.isDuplicate location).2

/-- Detection is exact within the ring and the window, whatever came before. -/
theorem isDuplicate_iff (n : Nat) (history : List Location) (location : Location) :
    ((after n history).isDuplicate location).1 = true ↔
      0 < n ∧ location ∈ history ∧
        (¬ ∃ other ∈ history, location.group < other.group ∧
          other.group.toNat % n = location.group.toNat % n) ∧
        ¬ ∃ other ∈ history, other.group = location.group ∧
          location.object.toNat + 4096 ≤ other.object.toNat := by
  rw [((after_packs n history).isDuplicate location).1]
  exact Moqtail.SeenObjects.isDuplicate_after_iff n history location

end SeenObjects

end Moqtail.Words
