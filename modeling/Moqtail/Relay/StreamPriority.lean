import Moqtail.Wire.FetchObject

/-! Stream priorities of the relay, from `compute_stream_priority` in `server/utils.rs`.

The `i64` arithmetic stays below 2^33, so it is exact here; the `as i32` at the end keeps the low 32
bits. -/
namespace Moqtail

/-- `as i32`. -/
def asI32 (x : Int) : Int := x.bmod (2 ^ 32)

def bandSize : Int := 65536

def i32Min : Int := -2 ^ 31

/-- `band_min` of a pair of priorities: the lower a priority value, the higher its band. -/
def bandMin (subPrio pubPrio : UInt8) : Int :=
  let priorityIndex : Int := (255 - subPrio.toNat) * 256 + (255 - pubPrio.toNat)
  i32Min + priorityIndex * bandSize

/-- `group_slot`. -/
def groupSlot (groupId : UInt64) : Int := (groupId % 65536).toNat

/-- The `i64` that is cast in the end. -/
def widePriority (subPrio pubPrio : UInt8) (groupOrder : GroupOrder) (groupId : UInt64) : Int :=
  match groupOrder with
  | .ascending | .original => bandMin subPrio pubPrio + bandSize - 1 - groupSlot groupId
  | .descending => bandMin subPrio pubPrio + groupSlot groupId

def computeStreamPriority (subPrio pubPrio : UInt8) (groupOrder : GroupOrder) (groupId : UInt64) :
    Int :=
  asI32 (widePriority subPrio pubPrio groupOrder groupId)

/-- What a stream is scheduled by. -/
structure StreamParameters where
  subPrio : UInt8
  pubPrio : UInt8
  groupOrder : GroupOrder
  groupId : UInt64
deriving Repr, DecidableEq

namespace StreamParameters

def widePriority (s : StreamParameters) : Int :=
  Moqtail.widePriority s.subPrio s.pubPrio s.groupOrder s.groupId

def priority (s : StreamParameters) : Int :=
  computeStreamPriority s.subPrio s.pubPrio s.groupOrder s.groupId

def bandMin (s : StreamParameters) : Int := Moqtail.bandMin s.subPrio s.pubPrio

/-- The priority values alone put `s` above `t`. -/
def Outranks (s t : StreamParameters) : Prop :=
  s.subPrio < t.subPrio ∨ s.subPrio = t.subPrio ∧ s.pubPrio < t.pubPrio

/-- Only their Groups tell the streams apart, by orders that go the same way. -/
def SameScale (s t : StreamParameters) : Prop :=
  s.subPrio = t.subPrio ∧ s.pubPrio = t.pubPrio ∧
    (s.groupOrder = .descending ↔ t.groupOrder = .descending)

/-- The order that the function documents, of two streams. -/
structure Documented (s t : StreamParameters) : Prop where
  inRange : i32Min ≤ s.widePriority ∧ s.widePriority < 2 ^ 31 ∧ s.priority = s.widePriority
  outranks : s.Outranks t → t.priority < s.priority
  ascending : s.SameScale t → s.groupOrder ≠ .descending → s.groupId < t.groupId →
    t.priority < s.priority
  descending : s.SameScale t → s.groupOrder = .descending → s.groupId < t.groupId →
    s.priority < t.priority

/-! A stream has its place in the band of its priorities. -/

theorem groupSlot_nonneg (groupId : UInt64) : 0 ≤ groupSlot groupId := by
  unfold groupSlot
  omega

theorem groupSlot_lt (groupId : UInt64) : groupSlot groupId < bandSize := by
  have h : (groupId % 65536).toNat = groupId.toNat % 65536 := rfl
  unfold groupSlot bandSize
  omega

theorem groupSlot_lt_iff (g h : UInt64) : groupSlot g < groupSlot h ↔ g % 65536 < h % 65536 := by
  rw [UInt64.lt_iff_toNat_lt]
  unfold groupSlot
  omega

/-- Where a stream is in its band. -/
theorem widePriority_mem_band (s : StreamParameters) :
    s.bandMin ≤ s.widePriority ∧ s.widePriority < s.bandMin + bandSize := by
  have hnonneg := groupSlot_nonneg s.groupId
  have hlt := groupSlot_lt s.groupId
  unfold widePriority Moqtail.widePriority bandMin
  cases s.groupOrder <;> dsimp only <;> omega

/-- All bands lie in the range of an `i32`. -/
theorem bandMin_range (s : StreamParameters) :
    i32Min ≤ s.bandMin ∧ s.bandMin + bandSize ≤ 2 ^ 31 := by
  have hsub := s.subPrio.toNat_lt
  have hpub := s.pubPrio.toNat_lt
  unfold bandMin Moqtail.bandMin i32Min bandSize
  dsimp only
  omega

theorem priority_eq (s : StreamParameters) : s.priority = s.widePriority := by
  obtain ⟨hmin, hmax⟩ := s.bandMin_range
  obtain ⟨hlow, hhigh⟩ := s.widePriority_mem_band
  unfold i32Min at hmin
  apply Int.bmod_eq_of_le_mul_two
  · show -((2 ^ 32 : Nat) : Int) ≤ s.widePriority * 2
    omega
  · show s.widePriority * 2 < ((2 ^ 32 : Nat) : Int)
    omega

/-- Bands do not overlap: the higher one starts where the lower one ends, or above. -/
theorem bandMin_of_outranks {s t : StreamParameters} (h : s.Outranks t) :
    t.bandMin + bandSize ≤ s.bandMin := by
  have hs := s.pubPrio.toNat_lt
  have ht := t.pubPrio.toNat_lt
  unfold bandMin Moqtail.bandMin bandSize
  dsimp only
  rcases h with hsub | ⟨hsub, hpub⟩
  · rw [UInt8.lt_iff_toNat_lt] at hsub
    omega
  · rw [UInt8.lt_iff_toNat_lt] at hpub
    rw [hsub]
    omega

theorem priority_lt_of_outranks {s t : StreamParameters} (h : s.Outranks t) :
    t.priority < s.priority := by
  have hbands := bandMin_of_outranks h
  have hs := s.widePriority_mem_band
  have ht := t.widePriority_mem_band
  rw [priority_eq, priority_eq]
  omega

/-! Within a band the slots decide. -/

theorem bandMin_eq {s t : StreamParameters} (h : s.SameScale t) : s.bandMin = t.bandMin := by
  unfold bandMin
  rw [h.1, h.2.1]

theorem widePriority_of_descending {s : StreamParameters} (h : s.groupOrder = .descending) :
    s.widePriority = s.bandMin + groupSlot s.groupId := by
  unfold widePriority Moqtail.widePriority
  rw [h]
  rfl

theorem widePriority_of_ne_descending {s : StreamParameters} (h : s.groupOrder ≠ .descending) :
    s.widePriority = s.bandMin + bandSize - 1 - groupSlot s.groupId := by
  unfold widePriority Moqtail.widePriority
  cases horder : s.groupOrder with
  | descending => exact absurd horder h
  | ascending => rfl
  | original => rfl

theorem priority_lt_iff_of_descending {s t : StreamParameters} (h : s.SameScale t)
    (hs : s.groupOrder = .descending) :
    s.priority < t.priority ↔ s.groupId % 65536 < t.groupId % 65536 := by
  have ht : t.groupOrder = .descending := h.2.2.mp hs
  rw [priority_eq, priority_eq, widePriority_of_descending hs, widePriority_of_descending ht,
    bandMin_eq h, ← groupSlot_lt_iff]
  omega

theorem priority_lt_iff_of_ne_descending {s t : StreamParameters} (h : s.SameScale t)
    (hs : s.groupOrder ≠ .descending) :
    t.priority < s.priority ↔ s.groupId % 65536 < t.groupId % 65536 := by
  have ht : t.groupOrder ≠ .descending := fun ht => hs (h.2.2.mpr ht)
  rw [priority_eq, priority_eq, widePriority_of_ne_descending hs, widePriority_of_ne_descending ht,
    bandMin_eq h, ← groupSlot_lt_iff]
  omega

/-- The documented order holds of two streams exactly where Groups on one scale have their slots in
the order of their ids. -/
theorem documented_iff (s t : StreamParameters) :
    s.Documented t ↔ (s.SameScale t → s.groupId < t.groupId →
      s.groupId % 65536 < t.groupId % 65536) := by
  constructor
  · intro h hscale hgroup
    by_cases horder : s.groupOrder = .descending
    · exact (priority_lt_iff_of_descending hscale horder).mp (h.descending hscale horder hgroup)
    · exact (priority_lt_iff_of_ne_descending hscale horder).mp (h.ascending hscale horder hgroup)
  · intro hslots
    have hband := s.widePriority_mem_band
    have hrange := s.bandMin_range
    refine ⟨⟨by omega, by omega, s.priority_eq⟩, priority_lt_of_outranks, ?_, ?_⟩
    · intro hscale horder hgroup
      exact (priority_lt_iff_of_ne_descending hscale horder).mpr (hslots hscale hgroup)
    · intro hscale horder hgroup
      exact (priority_lt_iff_of_descending hscale horder).mpr (hslots hscale hgroup)

/-- Group 65536 starts the slots again, and an ascending stream of it is sent before Group 65535. -/
theorem consecutiveGroups_not_documented :
    ¬ Documented ⟨128, 128, .ascending, 65535⟩ ⟨128, 128, .ascending, 65536⟩ := by
  intro h
  have hlt := h.ascending ⟨rfl, rfl, Iff.rfl⟩ (by decide) (by decide)
  exact absurd hlt (by decide)

/-- Groups of one block of 65536 are in the documented order. -/
theorem documented_of_same_block {s t : StreamParameters}
    (h : s.groupId / 65536 = t.groupId / 65536) : s.Documented t := by
  rw [documented_iff]
  intro _ hgroup
  have hs : (s.groupId % 65536).toNat = s.groupId.toNat % 65536 := rfl
  have ht : (t.groupId % 65536).toNat = t.groupId.toNat % 65536 := rfl
  have hsize : (65536 : UInt64).toNat = 65536 := rfl
  have hblock := congrArg UInt64.toNat h
  rw [UInt64.toNat_div, UInt64.toNat_div, hsize] at hblock
  rw [UInt64.lt_iff_toNat_lt] at hgroup ⊢
  omega

end StreamParameters

end Moqtail
