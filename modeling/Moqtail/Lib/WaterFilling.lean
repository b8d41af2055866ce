import Mathlib

/-! Water filling: items draw from one pool at a common rate per unit of weight, and an item that
has reached its cap draws no more.

The rate is what the items at their caps leave of the pool, over the weight of the others. It is
kept as a fraction, so that it is unbounded where every item is at its cap. -/
namespace Moqtail.Lib

/-- `amount / weight`, unbounded where `weight` is zero. -/
structure Rate (K : Type*) where
  amount : K
  weight : K

section WaterFilling

variable {ι K : Type*} [DecidableEq ι] [CommSemiring K]

theorem sum_sdiff_of_subset {items full full' : Finset ι} (weight : ι → K) (hsub : full ⊆ full')
    (h' : full' ⊆ items) :
    ∑ j ∈ items \ full, weight j = ∑ j ∈ items \ full', weight j + ∑ i ∈ full' \ full, weight i := by
  rw [← Finset.sum_union]
  · congr 1
    ext i
    simp only [Finset.mem_sdiff, Finset.mem_union]
    have := @hsub i
    have := @h' i
    tauto
  · rw [Finset.disjoint_left]
    intro i hi hi'
    simp only [Finset.mem_sdiff] at hi hi'
    exact hi.2 hi'.1

variable [LinearOrder K] [IsStrictOrderedRing K]

namespace Rate

/-- At this rate an item of weight `w` draws `t` at least. -/
def Covers (r : Rate K) (w t : K) : Prop := t * r.weight ≤ w * r.amount

/-- The rate `r` is at most `r'`. -/
def AtMost (r r' : Rate K) : Prop := r.amount * r'.weight ≤ r'.amount * r.weight

/-- What some items take, at most what the rate gives them, and their weight can be taken out of
a rate: the others draw no less. -/
theorem atMost_of_removed {amount weight taken w : K}
    (h : taken * (weight + w) ≤ w * (amount + taken)) :
    (⟨amount + taken, weight + w⟩ : Rate K).AtMost ⟨amount, weight⟩ := by
  have hcross : taken * weight ≤ w * amount := by
    rw [mul_add, mul_add, mul_comm taken w] at h
    exact le_of_add_le_add_right h
  calc (amount + taken) * weight = amount * weight + taken * weight := add_mul ..
    _ ≤ amount * weight + w * amount := add_le_add_right hcross _
    _ = amount * (weight + w) := by ring

variable [CanonicallyOrderedAdd K]

theorem Covers.mono {r r' : Rate K} {w t : K} (h : r.Covers w t) (hle : r.AtMost r')
    (hpos : 0 < r.weight) : r'.Covers w t := by
  refine le_of_mul_le_mul_right ?_ hpos
  calc t * r'.weight * r.weight = t * r.weight * r'.weight := by ring
    _ ≤ w * r.amount * r'.weight := mul_le_mul_left h _
    _ = w * (r.amount * r'.weight) := by ring
    _ ≤ w * (r'.amount * r.weight) := mul_le_mul_right hle _
    _ = w * r'.amount * r.weight := by ring

end Rate

/-- The items `full` are at their caps, and no others reach theirs. An item that is not `limited`
has no cap. -/
structure Filling (limited : ι → Prop) (weight cap : ι → K) (items full : Finset ι) (pool left : K) :
    Prop where
  subset : full ⊆ items
  balance : left + ∑ i ∈ full, cap i = pool
  full_iff : ∀ i ∈ items, i ∈ full ↔
    limited i ∧ (⟨left, ∑ j ∈ items \ full, weight j⟩ : Rate K).Covers (weight i) (cap i)

namespace Filling

variable {limited : ι → Prop} {weight cap : ι → K} {items full full' : Finset ι}
  {pool pool' left left' : K}

/-- The rate at which the items below their caps draw. -/
def rate (_ : Filling limited weight cap items full pool left) : Rate K :=
  ⟨left, ∑ j ∈ items \ full, weight j⟩

/-- What items at their caps take in all is at most what the rate gives them. -/
theorem sum_cap_le (h : Filling limited weight cap items full pool left) {part : Finset ι}
    (hpart : part ⊆ full) :
    (∑ i ∈ part, cap i) * ∑ j ∈ items \ full, weight j ≤ (∑ i ∈ part, weight i) * left := by
  rw [Finset.sum_mul, Finset.sum_mul]
  exact Finset.sum_le_sum fun i hi =>
    ((h.full_iff i (h.subset (hpart hi))).mp (hpart hi)).2

variable [CanonicallyOrderedAdd K]

/-- With a larger pool, the items at their caps stay there. -/
theorem full_subset (h : Filling limited weight cap items full pool left)
    (h' : Filling limited weight cap items full' pool' left') (hpool : pool ≤ pool') :
    full ⊆ full' := by
  by_contra hsub
  obtain ⟨d, hd, hd'⟩ := Finset.not_subset.mp hsub
  have hreach := ((h.full_iff d (h.subset hd)).mp hd)
  have hshort : weight d * left' < cap d * ∑ j ∈ items \ full', weight j := by
    have hnot := fun hcovers => hd' ((h'.full_iff d (h.subset hd)).mpr ⟨hreach.1, hcovers⟩)
    exact not_le.mp hnot
  -- the rate of the second filling is the lower one, so that its full items are full in the first
  have hback : full' ⊆ full := by
    intro i hi
    obtain ⟨hlimited, hcovers⟩ := (h'.full_iff i (h'.subset hi)).mp hi
    refine (h.full_iff i (h'.subset hi)).mpr ⟨hlimited, ?_⟩
    refine le_of_mul_le_mul_right ?_ (lt_of_le_of_lt zero_le hshort)
    calc cap i * (∑ j ∈ items \ full, weight j) * (cap d * ∑ j ∈ items \ full', weight j)
        = cap i * (∑ j ∈ items \ full', weight j) * (cap d * ∑ j ∈ items \ full, weight j) := by ring
      _ ≤ weight i * left' * (weight d * left) := mul_le_mul' hcovers hreach.2
      _ = weight i * left * (weight d * left') := by ring
      _ ≤ weight i * left * (cap d * ∑ j ∈ items \ full', weight j) :=
        mul_le_mul_right hshort.le _
  have hparts : ∑ i ∈ full, cap i = ∑ i ∈ full', cap i + ∑ i ∈ full \ full', cap i := by
    rw [add_comm, Finset.sum_sdiff hback]
  -- what the other items of the first take must come out of what the second has left
  have htaken : left + ∑ i ∈ full \ full', cap i ≤ left' := by
    have hle := h.balance.le.trans (hpool.trans h'.balance.ge)
    rw [hparts, add_left_comm, add_comm left'] at hle
    exact le_of_add_le_add_left hle
  have hfits := h.sum_cap_le (Finset.sdiff_subset (s := full) (t := full'))
  have hexceeds : (∑ i ∈ full \ full', weight i) * left' <
      (∑ i ∈ full \ full', cap i) * ∑ j ∈ items \ full', weight j := by
    rw [Finset.sum_mul, Finset.sum_mul]
    refine Finset.sum_lt_sum (fun i hi => ?_) ⟨d, Finset.mem_sdiff.mpr ⟨hd, hd'⟩, hshort⟩
    obtain ⟨hi, hi'⟩ := Finset.mem_sdiff.mp hi
    have hlimited := ((h.full_iff i (h.subset hi)).mp hi).1
    exact (not_le.mp fun hcovers =>
      hi' ((h'.full_iff i (h.subset hi)).mpr ⟨hlimited, hcovers⟩)).le
  refine absurd hexceeds (not_lt.mpr ?_)
  rw [sum_sdiff_of_subset weight hback h.subset, mul_add]
  calc (∑ i ∈ full \ full', cap i) * (∑ j ∈ items \ full, weight j) +
        (∑ i ∈ full \ full', cap i) * (∑ i ∈ full \ full', weight i)
      ≤ (∑ i ∈ full \ full', weight i) * left +
        (∑ i ∈ full \ full', cap i) * (∑ i ∈ full \ full', weight i) := add_le_add_left hfits _
    _ = (∑ i ∈ full \ full', weight i) * (left + ∑ i ∈ full \ full', cap i) := by ring
    _ ≤ (∑ i ∈ full \ full', weight i) * left' := mul_le_mul_right htaken _

/-- With a larger pool, the others draw at no lower a rate. -/
theorem rate_atMost (h : Filling limited weight cap items full pool left)
    (h' : Filling limited weight cap items full' pool' left') (hpool : pool ≤ pool') :
    h.rate.AtMost h'.rate := by
  have hsub := h.full_subset h' hpool
  have hleft : left ≤ left' + ∑ i ∈ full' \ full, cap i := by
    have hle := h.balance.le.trans (hpool.trans h'.balance.ge)
    rw [← Finset.sum_sdiff hsub, ← add_assoc] at hle
    exact le_of_add_le_add_right hle
  have hfits := h'.sum_cap_le (Finset.sdiff_subset (s := full') (t := full))
  show left * ∑ j ∈ items \ full', weight j ≤ left' * ∑ j ∈ items \ full, weight j
  rw [sum_sdiff_of_subset weight hsub h'.subset]
  calc left * ∑ j ∈ items \ full', weight j
      ≤ (left' + ∑ i ∈ full' \ full, cap i) * ∑ j ∈ items \ full', weight j :=
        mul_le_mul_left hleft _
    _ = left' * (∑ j ∈ items \ full', weight j) +
        (∑ i ∈ full' \ full, cap i) * ∑ j ∈ items \ full', weight j := add_mul ..
    _ ≤ left' * (∑ j ∈ items \ full', weight j) + (∑ i ∈ full' \ full, weight i) * left' :=
        add_le_add_right hfits _
    _ = left' * (∑ j ∈ items \ full', weight j + ∑ i ∈ full' \ full, weight i) := by ring

end Filling

end WaterFilling

end Moqtail.Lib
