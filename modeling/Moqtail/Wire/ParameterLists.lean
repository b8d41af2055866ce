import Moqtail.Wire.ControlRoundTrip

/-! What is written of a list of parameters, and what of it the reader takes.

The writer sorts by Type, and neither asks for what message the parameters are nor looks into an
authorization token or at the weight of a SWITCHING_SET_ASSIGNMENT. The reader does. -/
namespace Moqtail

open Lib

/-- In ascending order of Type, and within one Type in the order there was. -/
structure StablySorted (params sorted : List MessageParameter) : Prop where
  perm : sorted.Perm params
  ascending : sorted.Pairwise fun p q => p.typeValue ≤ q.typeValue
  stable : ∀ t : UInt64,
    (sorted.filter fun p => p.typeValue = t) = params.filter fun p => p.typeValue = t

theorem stablySorted_sortParameters (params : List MessageParameter) :
    StablySorted params (sortParameters params) where
  perm := List.perm_insertionSort _ params
  ascending := List.pairwise_insertionSort (fun p q => p.typeValue ≤ q.typeValue) params
  stable t := by
    -- parameters of one Type are in order already, so sorting keeps them as they are
    have hone : (params.filter fun p => p.typeValue = t).Pairwise
        fun p q => p.typeValue ≤ q.typeValue := by
      apply List.pairwise_of_forall_mem_list
      intro p hp q hq
      have hpt : p.typeValue = t := by simpa using (List.mem_filter.mp hp).2
      have hqt : q.typeValue = t := by simpa using (List.mem_filter.mp hq).2
      rw [hpt, hqt]
      exact UInt64.le_refl t
    have hsub : (params.filter fun p => p.typeValue = t).Sublist (sortParameters params) :=
      List.sublist_insertionSort hone List.filter_sublist
    have hkept := hsub.filter fun p => p.typeValue = t
    rw [List.filter_filter] at hkept
    simp only [Bool.and_self] at hkept
    have hperm := (List.perm_insertionSort (fun p q => p.typeValue ≤ q.typeValue) params).filter
      fun p => p.typeValue = t
    exact (hkept.eq_of_length hperm.length_eq.symm).symm

namespace MessageParameter

variable {p p' : MessageParameter} {kvp : KeyValuePair} {msgType : ControlMessageType}

/-- Nothing but a token and an assignment can be ill-formed. -/
theorem not_wellFormed (h : ¬ p.WellFormed) :
    (∃ token, p = authorizationToken token) ∨
      ∃ setId algorithmId threshold weight activate rank,
        p = switchingSetAssignment setId algorithmId threshold weight activate rank := by
  cases p with
  | authorizationToken token => exact .inl ⟨token, rfl⟩
  | switchingSetAssignment setId algorithmId threshold weight activate rank =>
    exact .inr ⟨_, _, _, _, _, _, rfl⟩
  | _ => exact absurd trivial h

theorem wellFormed_of_canonical (h : p.canonical.WellFormed) : p.WellFormed := by
  cases p with
  | fillParameters parameters => trivial
  | _ => exact h

/-- The pair of a parameter, well-formed or not, fits its Type. -/
theorem fits_of_toKeyValuePair (h : toKeyValuePair p = .ok kvp) :
    kvp.Fits ∧ kvp.getType = p.typeValue := by
  by_cases hwf : p.WellFormed
  · have hcarries := carries_of_toKeyValuePair hwf h
    exact ⟨hcarries.fits, hcarries.getType⟩
  · obtain ⟨token, rfl⟩ | ⟨setId, algorithmId, threshold, weight, activate, rank, rfl⟩ :=
      not_wellFormed hwf
    · obtain ⟨payload, -, hnew⟩ := except_bind_eq_ok.mp h
      rw [KeyValuePair.tryNewBytes_of_odd (by decide)] at hnew
      obtain ⟨hlength, rfl⟩ := KeyValuePair.newBytes_eq_ok.mp hnew
      exact ⟨(KeyValuePair.fits_bytes_iff (by decide)).mpr hlength, rfl⟩
    · rw [toKeyValuePair, toKeyValuePairWith, KeyValuePair.tryNewBytes_of_odd (by decide)] at h
      obtain ⟨hlength, rfl⟩ := KeyValuePair.newBytes_eq_ok.mp h
      exact ⟨(KeyValuePair.fits_bytes_iff (by decide)).mpr hlength, rfl⟩

/-- What is read of a pair of a parameter is allowed where the parameter is, even if the two
differ. -/
theorem isValidFor_of_deserialize (h : toKeyValuePair p = .ok kvp) (hread : deserialize kvp = .ok p') :
    p'.isValidFor msgType = p.isValidFor msgType := by
  by_cases hwf : p.WellFormed
  · have hcarries := carries_of_toKeyValuePair hwf h
    have hsame : p' = p.canonical := Except.ok.inj (hread.symm.trans hcarries.reads)
    rw [hsame, isValidFor_canonical]
  · obtain ⟨token, rfl⟩ | ⟨setId, algorithmId, threshold, weight, activate, rank, rfl⟩ :=
      not_wellFormed hwf
    · obtain ⟨payload, -, hnew⟩ := except_bind_eq_ok.mp h
      rw [KeyValuePair.tryNewBytes_of_odd (by decide)] at hnew
      obtain ⟨-, rfl⟩ := KeyValuePair.newBytes_eq_ok.mp hnew
      obtain ⟨token', -, hret⟩ := except_bind_eq_ok.mp hread
      cases hret
      rfl
    · rw [toKeyValuePair, toKeyValuePairWith, KeyValuePair.tryNewBytes_of_odd (by decide)] at h
      obtain ⟨-, rfl⟩ := KeyValuePair.newBytes_eq_ok.mp h
      -- the weight is one that the reader refuses
      replace hwf : ¬ (1 ≤ weight ∧ weight ≤ 10) := hwf
      simp only [deserialize, deserializeWith, deserializeBytes, deserializeSwitchingSetAssignment,
        MessageParameterType.tryFrom_toU64, List.append_assoc, getVi_putVi, except_ok_bind] at hread
      rw [if_pos hwf] at hread
      cases hread

end MessageParameter

/-- A turn of the reader takes what was written of one parameter, or refuses it. -/
theorem readMessageParameter_of_written {msgType : ControlMessageType} {prevType typeValue : UInt64}
    {kvp : KeyValuePair} {p p' : MessageParameter} {value tail rest : Bytes}
    (hpair : MessageParameter.toKeyValuePair p = .ok kvp) (hle : prevType ≤ kvp.getType)
    (hvalue : serializeParameterValue kvp = .ok value)
    (h : readMessageParameter msgType prevType (putVi (kvp.getType - prevType) ++ value ++ tail) =
      .ok ((typeValue, p'), rest)) :
    typeValue = kvp.getType ∧ rest = tail ∧ p.isValidFor msgType = true := by
  have hfits := (MessageParameter.fits_of_toKeyValuePair hpair).1
  simp only [readMessageParameter, List.append_assoc, getVi_putVi, except_ok_bind, nextType_sub hle,
    hfits.reads hvalue tail] at h
  obtain ⟨q, hq, h⟩ := except_bind_eq_ok.mp h
  split at h
  · cases h
  next hvalid =>
    cases h
    rw [← MessageParameter.isValidFor_of_deserialize hpair hq]
    exact ⟨rfl, rfl, not_not.mp hvalid⟩

/-- A list that was written is read to its end only if the message may carry each parameter. -/
theorem isValidFor_of_decodeTimes {msgType : ControlMessageType} {kvps : List KeyValuePair}
    {params : List MessageParameter}
    (h : List.Forall₂ (fun kvp p => MessageParameter.toKeyValuePair p = .ok kvp) kvps params) :
    ∀ (prevType : UInt64) (out tail rest : Bytes) (read : List MessageParameter),
      serializeParametersFrom prevType kvps = .ok out →
        decodeTimes (readMessageParameter msgType) params.length prevType (out ++ tail) =
            .ok (read, rest) →
          ∀ p ∈ params, p.isValidFor msgType = true := by
  induction h with
  | nil =>
    intro prevType out tail rest read _ _ p hp
    cases hp
  | @cons kvp p kvps params hpair _ ih =>
    intro prevType out tail rest read hout hread
    obtain ⟨hle, value, more, hvalue, hmore, rfl⟩ := serializeParametersFrom_cons_eq_ok hout
    obtain ⟨typeValue, p', left, others, hone, hothers, rfl⟩ := decodeTimes_succ_eq_ok hread
    rw [List.append_assoc] at hone
    obtain ⟨rfl, rfl, hvalid⟩ := readMessageParameter_of_written hpair hle hvalue hone
    rw [List.forall_mem_cons]
    exact ⟨hvalid, ih _ _ _ _ _ hmore hothers⟩

namespace Message

variable {alloc : Allocator} {count : UInt64} {msgType : ControlMessageType}
  {params : List MessageParameter} {bytes out tail rest : Bytes}

theorem deserializeMessageParameters_of_room (hroom : count.toNat ≤ alloc.reservable) :
    deserializeMessageParameters alloc bytes count msgType =
      liftM (decodeTimes (readMessageParameter msgType) count.toNat 0 bytes) := by
  rw [deserializeMessageParameters, if_neg (not_lt.mpr hroom)]

/-- What the reader takes, the message may carry. -/
theorem parametersFor_of_deserialize
    (h : deserializeMessageParameters alloc bytes count msgType = .ok (params, rest)) :
    ParametersFor msgType params := by
  unfold deserializeMessageParameters at h
  split at h
  · cases h
  · exact (readMessageParameters_rewrites (lift_eq_ok.mp h)).2.1

/-- What was written is read back just if the reader takes each parameter of the list. -/
theorem deserializeMessageParameters_eq_ok_iff (hout : serializeMessageParameters params = .ok out)
    (hcount : count.toNat = params.length) (hroom : params.length ≤ alloc.reservable) :
    deserializeMessageParameters alloc (out ++ tail) count msgType =
        .ok (canonicalParameters params, tail) ↔ ParametersFor msgType params := by
  constructor
  · intro hread p hp
    have hgood := parametersFor_of_deserialize hread
    have hmem : p.canonical ∈ canonicalParameters params :=
      List.mem_map_of_mem ((List.mem_insertionSort _).mpr hp)
    obtain ⟨hwf, hvalid⟩ := hgood _ hmem
    rw [p.isValidFor_canonical] at hvalid
    exact ⟨MessageParameter.wellFormed_of_canonical hwf, hvalid⟩
  · intro hgood
    have hreads := (readMessageParameters_reads hgood hout).2 tail
    rw [deserializeMessageParameters_of_room (hcount ▸ hroom), hcount, hreads]
    rfl

/-- A list with a parameter that the message may not carry is refused. -/
theorem deserializeMessageParameters_refuses (hout : serializeMessageParameters params = .ok out)
    (hcount : count.toNat = params.length) (hroom : params.length ≤ alloc.reservable)
    {p : MessageParameter} (hp : p ∈ params) (hvalid : p.isValidFor msgType = false) :
    ∃ e, deserializeMessageParameters alloc (out ++ tail) count msgType = .error (.parse e) := by
  rw [deserializeMessageParameters_of_room (hcount ▸ hroom)]
  cases hread : decodeTimes (readMessageParameter msgType) count.toNat 0 (out ++ tail) with
  | error e => exact ⟨e, rfl⟩
  | ok result =>
    obtain ⟨kvps, hkvps, hfrom⟩ := except_bind_eq_ok.mp hout
    have hpairs : List.Forall₂ (fun p kvp => MessageParameter.toKeyValuePair p = .ok kvp ∧
        kvp.getType = p.typeValue) params kvps :=
      (mapM_eq_ok_iff.mp hkvps).imp fun _ _ h =>
        ⟨h, (MessageParameter.fits_of_toKeyValuePair h).2⟩
    have hsorted := forall₂_sort (fun _ _ h => h.2) hpairs
    rw [hcount, ← (stablySorted_sortParameters params).perm.length_eq] at hread
    have hall := isValidFor_of_decodeTimes (hsorted.flip.imp fun _ _ h => h.1) 0 out tail _ _ hfrom
      hread p ((List.mem_insertionSort _).mpr hp)
    rw [hvalid] at hall
    cases hall

/-- The list codec. A list that is written comes back sorted just if its tokens and weights are in
form and the message may carry all of it, and is refused if the message may not. Whatever the bytes,
the reader takes nothing the message may not carry. -/
theorem messageParameters_codec (alloc : Allocator) (msgType : ControlMessageType) :
    (∀ params, StablySorted params (sortParameters params)) ∧
    (∀ params out tail (count : UInt64), serializeMessageParameters params = .ok out →
      count.toNat = params.length → params.length ≤ alloc.reservable →
        (deserializeMessageParameters alloc (out ++ tail) count msgType =
            .ok ((sortParameters params).map MessageParameter.canonical, tail) ↔
          ∀ p ∈ params, p.WellFormed ∧ p.isValidFor msgType = true) ∧
        ((∃ p ∈ params, p.isValidFor msgType = false) →
          ∃ e, deserializeMessageParameters alloc (out ++ tail) count msgType =
            .error (.parse e))) ∧
    ∀ bytes (count : UInt64) params rest,
      deserializeMessageParameters alloc bytes count msgType = .ok (params, rest) →
        ∀ p ∈ params, p.isValidFor msgType = true := by
  refine ⟨stablySorted_sortParameters, ?_, ?_⟩
  · intro params out tail count hout hcount hroom
    refine ⟨deserializeMessageParameters_eq_ok_iff hout hcount hroom, ?_⟩
    rintro ⟨p, hp, hvalid⟩
    exact deserializeMessageParameters_refuses hout hcount hroom hp hvalid
  · intro bytes count params rest hread p hp
    exact (parametersFor_of_deserialize hread p hp).2

/-- A SUBSCRIBE with parameters out of order, a list in its FILL_PARAMETERS and trailing bytes. -/
def unsortedParameters : List MessageParameter :=
  [.fillParameters [.groupOrder .descending, .fillTimeout 5], .forward true, .subscriberPriority 7,
    .subscriberPriority 3]

theorem messageParameters_codec_subscribe : ∃ out,
    serializeMessageParameters unsortedParameters = .ok out ∧
      deserializeMessageParameters ⟨65535, le_rfl⟩ (out ++ [9]) 4 .subscribe =
        .ok ([.forward true, .subscriberPriority 7, .subscriberPriority 3,
          .fillParameters [.fillTimeout 5, .groupOrder .descending]], [9]) := by
  have hout : serializeMessageParameters unsortedParameters =
      .ok [0x10, 1, 0x10, 7, 0, 3, 3, 5, 2, 0x0a, 5, 0x18, 2] := rfl
  have hgood : ∀ p ∈ unsortedParameters, p.WellFormed ∧ p.isValidFor .subscribe = true := by
    simp [unsortedParameters, MessageParameter.WellFormed, MessageParameter.isValidFor]
  exact ⟨_, hout, ((messageParameters_codec ⟨65535, le_rfl⟩ .subscribe).2.1 _ _ [9] 4 hout rfl
    (by decide)).1.mpr hgood⟩

/-- A weight of zero is written, and no reader takes it. -/
theorem zeroWeight_not_readBack : ¬ ∀ (alloc : Allocator) (msgType : ControlMessageType)
    (params : List MessageParameter) (out tail : Bytes) (count : UInt64),
      (∀ p ∈ params, p.isValidFor msgType = true) → serializeMessageParameters params = .ok out →
        count.toNat = params.length → params.length ≤ alloc.reservable →
          deserializeMessageParameters alloc (out ++ tail) count msgType =
            .ok ((sortParameters params).map MessageParameter.canonical, tail) := by
  intro h
  have hread := h ⟨65535, le_rfl⟩ .subscribe [.switchingSetAssignment 7 0 100 0 2 1]
    [0x41, 6, 7, 0, 100, 0, 2, 1] [] 1 (by decide) rfl rfl (by decide)
  cases hread

end Message

end Moqtail
