import Moqtail.Transport.StreamKind

/-! A subgroup stream that starts in the middle of its subgroup, for which the relay makes a header
of its own (`for_mid_subgroup_stream` in `server/subscription.rs`). -/
namespace Moqtail

open Lib

/-- `for_mid_subgroup_stream` of the relay. -/
def HeaderInfo.forMidSubgroupStream : HeaderInfo → HeaderInfo
  | .subgroup header => .subgroup header.forMidSubgroupStream
  | other => other

namespace SubgroupHeaderType

@[simp] theorem containsEndOfGroup_fromProperties (p : Bool) (m : SubgroupIdMode) (e d f : Bool) :
    (fromProperties p m e d f).containsEndOfGroup = e := by
  cases p <;> cases m <;> cases e <;> cases d <;> cases f <;> decide

@[simp] theorem isFirstObject_fromProperties (p : Bool) (m : SubgroupIdMode) (e d f : Bool) :
    (fromProperties p m e d f).isFirstObject = f := by
  cases p <;> cases m <;> cases e <;> cases d <;> cases f <;> decide

end SubgroupHeaderType

namespace SubgroupHeader

/-- A header once the first Object of its stream has been read. -/
def resolve (h : SubgroupHeader) (first : SubgroupObject) : SubgroupHeader :=
  if h.subgroupId.isNone && h.headerType.subgroupIdIsFirstObjectId then
    { h with subgroupId := some first.objectId }
  else h

/-- What tells a subgroup from the others, and what its Objects are read by. -/
structure SameSubgroup (h h' : SubgroupHeader) : Prop where
  groupId : h.groupId = h'.groupId
  subgroupId : h.subgroupId = h'.subgroupId
  publisherPriority : h.publisherPriority = h'.publisherPriority
  hasProperties : h.headerType.hasProperties = h'.headerType.hasProperties
  containsEndOfGroup : h.headerType.containsEndOfGroup = h'.headerType.containsEndOfGroup
  hasDefaultPriority : h.headerType.hasDefaultPriority = h'.headerType.hasDefaultPriority

/-- A reader of a stream that starts with `bytes` has the header `h` once it has taken the first
Object, whatever follows. -/
def Opens (bytes : Bytes) (first : SubgroupObject) (h : SubgroupHeader) : Prop :=
  ∀ pendingFetches tail, ∃ read s,
    RecvDataStream.parse pendingFetches .new (bytes ++ tail) = .ok (s, tail) ∧
    s.headerInfo = some (.subgroup read) ∧
    ∃ s', s.takeSubgroupObject read first = .ok s' ∧ s'.headerInfo = some (.subgroup h)

variable {h : SubgroupHeader} {bytes rest : Bytes} {first : SubgroupObject}

/-! What the first Object makes of a header. -/

theorem takeSubgroupObject_resolve (s : RecvDataStream) (h : SubgroupHeader)
    (first : SubgroupObject) :
    ∃ s', s.takeSubgroupObject h first = .ok s' ∧
      s'.headerInfo = some (.subgroup (h.resolve first)) :=
  ⟨_, rfl, rfl⟩

@[simp] theorem headerType_resolve (h : SubgroupHeader) (first : SubgroupObject) :
    (h.resolve first).headerType = h.headerType := by
  unfold resolve
  split <;> rfl

@[simp] theorem publisherPriority_resolve (h : SubgroupHeader) (first : SubgroupObject) :
    (h.resolve first).publisherPriority = h.publisherPriority := by
  unfold resolve
  split <;> rfl

theorem resolve_of_mode_ne (hmode : h.headerType.subgroupIdMode ≠ .firstObjectId)
    (first : SubgroupObject) : h.resolve first = h := by
  unfold resolve
  rw [if_neg]
  simp [SubgroupHeaderType.subgroupIdIsFirstObjectId, hmode]

theorem resolve_of_none (hid : h.subgroupId = none)
    (hmode : h.headerType.subgroupIdMode = .firstObjectId) (first : SubgroupObject) :
    h.resolve first = { h with subgroupId := some first.objectId } := by
  unfold resolve
  rw [if_pos]
  simp [SubgroupHeaderType.subgroupIdIsFirstObjectId, hmode, hid]

/-- Whatever it leaves open, its first Object settles. -/
theorem resolve_isSome (hwf : h.WellFormed) (first : SubgroupObject) :
    (h.resolve first).subgroupId.isSome := by
  cases hmode : h.headerType.subgroupIdMode with
  | zero =>
    rw [resolve_of_mode_ne (by simp [hmode]), hwf.zero hmode]
    rfl
  | explicit =>
    rw [resolve_of_mode_ne (by simp [hmode])]
    exact hwf.explicit hmode
  | firstObjectId =>
    cases hid : h.subgroupId with
    | none =>
      rw [resolve_of_none hid hmode]
      rfl
    | some id =>
      unfold resolve
      rw [hid, if_neg (by simp), hid]
      rfl

theorem resolve_wellFormed (hwf : h.WellFormed) (first : SubgroupObject) :
    (h.resolve first).WellFormed := by
  refine ⟨?_, ?_, ?_⟩
  · intro hmode
    rw [headerType_resolve] at hmode
    rw [resolve_of_mode_ne (by simp [hmode]), hwf.zero hmode]
  · exact fun _ => resolve_isSome hwf first
  · rw [headerType_resolve, publisherPriority_resolve]
    exact hwf.priority

/-! What a reader makes of a header that was written. -/

/-- No subgroup header starts with the byte that a FETCH stream starts with. -/
theorem head_ne_of_deserialize (hdec : deserialize bytes = .ok (h, rest)) :
    bytes.head? ≠ some 0x05 := by
  intro hhead
  obtain ⟨more, rfl⟩ : ∃ more, bytes = 0x05 :: more := by
    cases bytes with
    | nil => cases hhead
    | cons b more => exact ⟨more, by rw [Option.some.inj hhead]⟩
  have htype : getVi (0x05 :: more) = .ok (5, more) := getVi_putVi 5 more
  rw [deserialize, htype, except_ok_bind] at hdec
  obtain ⟨t, ht, -⟩ := except_bind_eq_ok.mp hdec
  exact RecvDataStream.tryNew_fetchType t ht

theorem opens_of_reads {out : Bytes} (hreads : Reads deserialize out h) (first : SubgroupObject) :
    Opens out first (h.resolve first) := by
  intro pendingFetches tail
  have hdec := hreads tail
  have hparse : RecvDataStream.parse pendingFetches .new (out ++ tail) =
      .ok ({ RecvDataStream.new with headerInfo := some (.subgroup h) }, tail) := by
    show RecvDataStream.readHeader pendingFetches (out ++ tail) >>= _ = _
    rw [RecvDataStream.readHeader, if_neg (head_ne_of_deserialize hdec),
      RecvDataStream.readSubgroupHeader, hdec]
    rfl
  exact ⟨h, _, hparse, rfl, takeSubgroupObject_resolve _ h first⟩

/-- The reader's header of a stream from its first Object on. -/
theorem resolve_onWire (hdec : deserialize bytes = .ok (h, rest)) (first : SubgroupObject)
    (trackAlias : Option UInt64) :
    (h.onWire trackAlias).resolve first =
        { h.resolve first with trackAlias := trackAlias.getD h.trackAlias } ∧
      ((h.resolve first).onWire trackAlias).resolve first =
        { h.resolve first with trackAlias := trackAlias.getD h.trackAlias } := by
  have hwf := deserialize_wellFormed hdec
  cases hmode : h.headerType.subgroupIdMode with
  | zero =>
    have hid := hwf.zero hmode
    rw [resolve_of_mode_ne (h := h) (by simp [hmode]), and_self,
      resolve_of_mode_ne (by simp [onWire, hmode])]
    simp only [onWire, hmode, hid]
  | explicit =>
    rw [resolve_of_mode_ne (h := h) (by simp [hmode]), and_self,
      resolve_of_mode_ne (by simp [onWire, hmode])]
    simp only [onWire, hmode]
  | firstObjectId =>
    have hid := deserialize_unresolved hdec hmode
    rw [resolve_of_none hid hmode, resolve_of_none (by simp [onWire, hmode]) (by simp [onWire, hmode]),
      resolve_of_none (by simp [onWire, hmode]) (by simp [onWire, hmode])]
    exact ⟨rfl, rfl⟩

theorem SameSubgroup.withAlias (h : SubgroupHeader) (trackAlias : UInt64) :
    SameSubgroup { h with trackAlias := trackAlias } h :=
  ⟨rfl, rfl, rfl, rfl, rfl, rfl⟩

/-- A header whose Subgroup ID is known: all that the one for a later stream keeps of it. -/
theorem forMidSubgroupStream_sameSubgroup (hwf : h.WellFormed) (hid : h.subgroupId.isSome)
    (trackAlias : Option UInt64) :
    (h.forMidSubgroupStream.onWire trackAlias).SameSubgroup h ∧
      (h.forMidSubgroupStream.onWire trackAlias).headerType.isFirstObject = false := by
  have hsame := (forMidSubgroupStream_wellFormed hwf hid).2.1
  refine ⟨⟨rfl, hsame, rfl, ?_, ?_, ?_⟩, ?_⟩ <;> simp [onWire, forMidSubgroupStream]

/-- A subgroup keeps its identity on a stream that starts with a later Object, and on one that
starts with the same Object. -/
theorem subgroup_keeps_identity (hdec : deserialize bytes = .ok (h, rest)) (first : SubgroupObject)
    (trackAlias : Option UInt64) :
    (h.resolve first).subgroupId.isSome ∧
    (∃ mid out, (HeaderInfo.subgroup (h.resolve first)).forMidSubgroupStream = .subgroup mid ∧
      mid.serialize trackAlias = .ok out ∧
      ∀ later, ∃ read, Opens out later read ∧ read.SameSubgroup (h.resolve first) ∧
        read.headerType.isFirstObject = false ∧
        read.trackAlias = trackAlias.getD (h.resolve first).trackAlias) ∧
    ∀ original ∈ [h, h.resolve first], ∃ out, original.serialize trackAlias = .ok out ∧
      ∃ read, Opens out first read ∧ read.SameSubgroup (h.resolve first) ∧
        read.headerType = h.headerType := by
  have hwf := deserialize_wellFormed hdec
  have hsome := resolve_isSome hwf first
  have hresolved := resolve_wellFormed hwf first
  obtain ⟨honWire, honWire'⟩ := resolve_onWire hdec first trackAlias
  refine ⟨hsome, ?_, ?_⟩
  · have hmid := (forMidSubgroupStream_wellFormed hresolved hsome).1
    obtain ⟨out, hout, hreads⟩ := deserialize_serialize _ hmid trackAlias
    obtain ⟨hsame, hfirst⟩ := forMidSubgroupStream_sameSubgroup hresolved hsome trackAlias
    refine ⟨_, out, rfl, hout, fun later => ⟨_, opens_of_reads hreads later, ?_⟩⟩
    -- its Subgroup ID is not that of the first Object, so that the later one changes nothing
    have hlater : ((h.resolve first).forMidSubgroupStream.onWire trackAlias).resolve later =
        (h.resolve first).forMidSubgroupStream.onWire trackAlias := by
      apply resolve_of_mode_ne
      exact forMidSubgroupStream_mode_ne hsome
    rw [hlater]
    exact ⟨hsame, hfirst, rfl⟩
  · intro original horiginal
    have hread : original.WellFormed ∧ (original.onWire trackAlias).resolve first =
        { h.resolve first with trackAlias := trackAlias.getD h.trackAlias } := by
      rcases List.mem_pair.mp horiginal with rfl | rfl
      · exact ⟨hwf, honWire⟩
      · exact ⟨hresolved, honWire'⟩
    obtain ⟨out, hout, hreads⟩ := deserialize_serialize original hread.1 trackAlias
    refine ⟨out, hout, _, opens_of_reads hreads first, ?_⟩
    rw [hread.2]
    exact ⟨.withAlias _ _, headerType_resolve h first⟩

/-- A header of mode first-object-id, and what the wire has of it: type 0x52, alias 7, Group 9 and
priority 16. -/
def firstObjectIdHeader : SubgroupHeader :=
  ⟨.fromProperties false .firstObjectId false false true, 7, 9, none, some 16⟩

/-- Its first Object is 3. A stream that starts with Object 5 names the same subgroup, under another
alias. -/
theorem subgroup_keeps_identity_firstObjectId :
    deserialize [0x52, 7, 9, 16] = .ok (firstObjectIdHeader, []) ∧
    (firstObjectIdHeader.resolve ⟨3, none, none, some []⟩).subgroupId = some 3 ∧
    ∃ mid out read, (HeaderInfo.subgroup
        (firstObjectIdHeader.resolve ⟨3, none, none, some []⟩)).forMidSubgroupStream = .subgroup mid ∧
      mid.serialize (some 8) = .ok out ∧ Opens out ⟨5, none, none, some []⟩ read ∧
      read.SameSubgroup (firstObjectIdHeader.resolve ⟨3, none, none, some []⟩) ∧
      read.headerType.isFirstObject = false ∧ read.trackAlias = 8 := by
  have hdec : deserialize [0x52, 7, 9, 16] = .ok (firstObjectIdHeader, []) := by rfl
  obtain ⟨-, ⟨mid, out, hmid, hout, hlater⟩, -⟩ :=
    subgroup_keeps_identity hdec ⟨3, none, none, some []⟩ (some 8)
  obtain ⟨read, hread⟩ := hlater ⟨5, none, none, some []⟩
  exact ⟨hdec, rfl, mid, out, read, hmid, hout, hread⟩

end SubgroupHeader

end Moqtail
