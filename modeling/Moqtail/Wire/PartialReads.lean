import Moqtail.Lib.Incremental
import Moqtail.Wire.FetchObject

/-! The decoders of the data streams, tried on a part of the bytes.

Each of them answers `NotEnoughBytes` exactly where more bytes could matter. Properties are
parsed only when all of their bytes are there, and then what is wrong with them is a protocol
violation, also when the field they end in is too short. -/
namespace Moqtail

open Lib

/-- What is read from a part of the bytes is what is read from all of them. -/
abbrev Partial {α : Type} (dec : Decoder ParseError α) : Prop :=
  Incremental ParseError.isNotEnoughBytes dec

theorem getVi_incremental : Partial getVi where
  stable := getVi_stable
  shrinks bytes rest v h := le_of_lt (getVi_consumes h).1
  fails bytes tail e h hshort := by
    cases bytes with
    | nil =>
      cases h
      cases hshort
    | cons first rest =>
      simp only [getVi] at h
      split at h
      · cases h
        cases hshort
      · cases h

theorem copyToBytes_incremental (context : String) (len : Nat) : Partial (copyToBytes context len) where
  stable := copyToBytes_stable context len
  shrinks bytes rest value h := by
    obtain ⟨-, rfl⟩ := copyToBytes_eq_ok h
    simp
  fails bytes tail e h hshort := by
    unfold copyToBytes at h
    split at h
    · cases h
      cases hshort
    · cases h

/-- A byte of its own. -/
theorem getByte_incremental {α : Type} (f : UInt8 → α) (context : String) :
    Partial fun bytes =>
      match bytes with
      | [] => (.error (.notEnoughBytes context 1 0) : Parse (α × Bytes))
      | b :: rest => .ok (f b, rest) where
  stable bytes a rest tail h := by
    cases bytes with
    | nil => cases h
    | cons b bytes =>
      cases h
      rfl
  shrinks bytes rest a h := by
    cases bytes with
    | nil => cases h
    | cons b bytes =>
      cases h
      exact Nat.le_succ _
  fails bytes tail e h hshort := by
    cases bytes with
    | nil =>
      cases h
      cases hshort
    | cons b bytes => cases h

theorem getVi_progressive : Progressive ParseError.isNotEnoughBytes getVi where
  toIncremental := getVi_incremental
  takes _ _ _ h := (getVi_consumes h).1

/-! Subgroup streams. -/

namespace SubgroupHeader

theorem deserializeSubgroupId_incremental (t : SubgroupHeaderType) :
    Partial (deserializeSubgroupId t) := by
  unfold deserializeSubgroupId
  refine .ite (.bind getVi_incremental fun id => .ok _) ?_
  exact .ite (.ok _) (.ok _)

theorem deserializePriority_incremental (t : SubgroupHeaderType) : Partial (deserializePriority t) := by
  unfold deserializePriority
  exact .ite (.ok _) (getByte_incremental some _)

theorem deserialize_progressive : Progressive ParseError.isNotEnoughBytes deserialize := by
  unfold deserialize
  refine .bind getVi_progressive fun typeValue => ?_
  refine .bind_result fun headerType => ?_
  refine .bind getVi_incremental fun trackAlias => ?_
  refine .bind getVi_incremental fun groupId => ?_
  refine .bind (deserializeSubgroupId_incremental headerType) fun subgroupId => ?_
  exact .bind (deserializePriority_incremental headerType) fun priority => .ok _

end SubgroupHeader

namespace SubgroupObject

theorem deserializeProperties_incremental (hasProperties : Bool) :
    Partial (deserializeProperties hasProperties) := by
  unfold deserializeProperties
  refine .ite (.bind getVi_incremental fun extLen => ?_) (.ok _)
  refine .ite (.bind (copyToBytes_incremental _ _) fun ext => ?_) (.ok _)
  exact .bind_result fun headers => .ok _

theorem deserializeBody_incremental : Partial deserializeBody := by
  unfold deserializeBody
  refine .bind getVi_incremental fun payloadLen => .ite ?_ ?_
  · refine .bind getVi_incremental fun raw => ?_
    exact .bind_result fun status => .ok _
  · exact .bind (copyToBytes_incremental _ _) fun payload => .ok _

theorem deserialize_progressive (previous : Option UInt64) (hasProperties : Bool) :
    Progressive ParseError.isNotEnoughBytes fun bytes => deserialize bytes previous hasProperties := by
  unfold deserialize
  refine .bind getVi_progressive fun delta => ?_
  refine .bind (deserializeProperties_incremental hasProperties) fun properties => ?_
  exact .bind deserializeBody_incremental fun body => .ok _

end SubgroupObject

/-! Fetch streams. -/

namespace FetchObject

theorem deserializeGroupId_incremental (flags : FetchFlags) (prev : Option FetchObjectContext)
    (groupOrder : GroupOrder) : Partial (deserializeGroupId flags prev groupOrder) := by
  unfold deserializeGroupId
  refine .ite (.bind getVi_incremental fun delta => ?_) (.bind_result fun pc => .ok _)
  cases prev with
  | none => exact .ok _
  | some pc => exact .bind_result fun groupId => .ok _

theorem deserializeSubgroupId_incremental (flags : FetchFlags) (prev : Option FetchObjectContext) :
    Partial (deserializeSubgroupId flags prev) := by
  unfold deserializeSubgroupId
  refine .ite (.ok _) ?_
  cases flags.subgroupMode with
  | zero => exact .ok _
  | prior | priorPlusOne => exact .bind_result fun subgroupId => .ok _
  | present => exact getVi_incremental

theorem deserializeObjectId_incremental (flags : FetchFlags) (prev : Option FetchObjectContext) :
    Partial (deserializeObjectId flags prev) := by
  unfold deserializeObjectId
  refine .ite (.bind getVi_incremental fun delta => ?_) ?_
  · cases prev with
    | none => exact .ok _
    | some pc => exact .ite (.ok _) (.bind_result fun objectId => .ok _)
  · refine .bind_result fun pc => ?_
    exact .bind_result fun objectId => .ok _

theorem deserializePriority_incremental (flags : FetchFlags) (prev : Option FetchObjectContext) :
    Partial (deserializePriority flags prev) := by
  unfold deserializePriority
  exact .ite (getByte_incremental id _) (.bind_result fun priority => .ok _)

theorem deserializeProperties_incremental (flags : FetchFlags) :
    Partial (deserializeProperties flags) := by
  unfold deserializeProperties
  refine .ite (.bind getVi_incremental fun extLen => ?_) (.ok _)
  refine .bind (copyToBytes_incremental _ _) fun ext => ?_
  exact .bind_result fun headers => .ok _

theorem deserializePayload_incremental : Partial deserializePayload := by
  unfold deserializePayload
  exact .bind getVi_incremental fun payloadLen => copyToBytes_incremental _ _

theorem deserialize_progressive (prev : Option FetchObjectContext) (groupOrder : GroupOrder) :
    Progressive ParseError.isNotEnoughBytes (deserialize prev groupOrder) := by
  unfold deserialize
  refine .bind getVi_progressive fun flagsRaw => .ite ?_ ?_
  · refine .bind_result fun kind => ?_
    refine .bind getVi_incremental fun groupId => ?_
    exact .bind getVi_incremental fun objectId => .ok _
  · refine .bind_result fun _ => ?_
    refine .bind (deserializeGroupId_incremental _ prev groupOrder) fun groupId => ?_
    refine .bind (deserializeSubgroupId_incremental _ prev) fun subgroupId => ?_
    refine .bind (deserializeObjectId_incremental _ prev) fun objectId => ?_
    refine .bind (deserializePriority_incremental _ prev) fun priority => ?_
    refine .bind (deserializeProperties_incremental _) fun properties => ?_
    exact .bind deserializePayload_incremental fun payload => .ok _

end FetchObject

end Moqtail
