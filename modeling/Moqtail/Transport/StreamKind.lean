import Moqtail.Transport.RecvDataStream

/-! What decides whether a data stream is read as a fetch stream or as a subgroup stream.

`read` looks at the first byte, while both header parsers read a variable-length integer in front,
which may be written in more bytes than it needs. -/
namespace Moqtail

open Lib

/-- Nine bytes are enough for any integer. -/
theorem getVi_of_length {bytes : Bytes} (h : 9 ≤ bytes.length) :
    ∃ v rest, getVi bytes = .ok (v, rest) ∧ bytes.length ≤ rest.length + 9 := by
  cases bytes with
  | nil => simp at h
  | cons first rest =>
    have hones := leadingOnes_le first
    rw [List.length_cons] at h
    refine ⟨_, rest.drop (leadingOnes first), if_neg (by simp; omega), ?_⟩
    rw [List.length_cons, List.length_drop]
    omega

theorem SubgroupHeader.deserialize_of_length {bytes rest : Bytes} {type : UInt64}
    {t : SubgroupHeaderType} (htype : getVi bytes = .ok (type, rest))
    (ht : SubgroupHeaderType.tryNew type = .ok t) (h : 28 ≤ rest.length) :
    ∃ header left, SubgroupHeader.deserialize bytes = .ok (header, left) := by
  obtain ⟨trackAlias, rest₁, halias, hrest₁⟩ := getVi_of_length (by omega : 9 ≤ rest.length)
  obtain ⟨groupId, rest₂, hgroup, hrest₂⟩ := getVi_of_length (by omega : 9 ≤ rest₁.length)
  obtain ⟨subgroupId, rest₃, hsubgroup, hrest₃⟩ :
      ∃ id left, deserializeSubgroupId t rest₂ = .ok (id, left) ∧ rest₂.length ≤ left.length + 9 := by
    unfold deserializeSubgroupId
    split
    · obtain ⟨id, left, hid, hleft⟩ := getVi_of_length (by omega : 9 ≤ rest₂.length)
      rw [hid, except_ok_bind]
      exact ⟨_, _, rfl, hleft⟩
    · split
      · exact ⟨_, _, rfl, Nat.le_add_right _ _⟩
      · exact ⟨_, _, rfl, Nat.le_add_right _ _⟩
  obtain ⟨priority, rest₄, hpriority⟩ :
      ∃ priority left, deserializePriority t rest₃ = .ok (priority, left) := by
    unfold deserializePriority
    split
    · exact ⟨_, _, rfl⟩
    · cases rest₃ with
      | nil => simp only [List.length_nil] at hrest₃; omega
      | cons b rest₃ => exact ⟨_, _, rfl⟩
  refine ⟨⟨t, trackAlias, groupId, subgroupId, priority⟩, rest₄, ?_⟩
  simp only [deserialize, htype, ht, halias, hgroup, hsubgroup, hpriority, except_ok_bind]
  rfl

def HeaderInfo.isFetch : HeaderInfo → Bool
  | .fetch _ _ => true
  | .subgroup _ => false

namespace RecvDataStream

variable {pendingFetches : UInt64 → Option GroupOrder}

/-- The kind of a stream, once its header has been read. -/
def isFetch (s : RecvDataStream) : Option Bool := s.headerInfo.map HeaderInfo.isFetch

theorem takeFetchObject_isFetch {s s' : RecvDataStream} {o : FetchObject}
    (h : s.takeFetchObject o = .ok s') : s'.isFetch = s.isFetch := by
  unfold takeFetchObject at h
  cases o with
  | object payload =>
    obtain ⟨subgroupPriorities, -, h⟩ := except_bind_eq_ok.mp h
    obtain ⟨object, -, hret⟩ := except_bind_eq_ok.mp h
    cases hret
    rfl
  | endOfRange kind location =>
    cases h
    rfl

theorem takeSubgroupObject_isFetch {s s' : RecvDataStream} {header : SubgroupHeader}
    {o : SubgroupObject} (h : s.takeSubgroupObject header o = .ok s') : s'.isFetch = some false := by
  obtain ⟨object, -, hret⟩ := except_bind_eq_ok.mp h
  cases hret
  rfl

/-- The kind of a stream does not change once its header has been read. -/
theorem parse_isFetch {kind : Bool} (s : RecvDataStream) (bytes : Bytes) (s' : RecvDataStream)
    (rest : Bytes) (hs : s.isFetch = some kind) (h : parse pendingFetches s bytes = .ok (s', rest)) :
    s'.isFetch = some kind := by
  obtain ⟨headerInfo, hinfo, hkind⟩ := Option.map_eq_some_iff.mp hs
  rw [parse, hinfo] at h
  cases headerInfo with
  | fetch header fetchRequest =>
    obtain ⟨⟨o, left⟩, -, h⟩ := except_bind_eq_ok.mp h
    obtain ⟨s'', htake, hret⟩ := except_bind_eq_ok.mp h
    cases hret
    rw [takeFetchObject_isFetch htake, hs]
  | subgroup header =>
    obtain ⟨⟨o, left⟩, -, h⟩ := except_bind_eq_ok.mp h
    obtain ⟨s'', htake, hret⟩ := except_bind_eq_ok.mp h
    cases hret
    rw [takeSubgroupObject_isFetch htake]
    exact congrArg some hkind

/-- The header that the read task comes to is the one at the front of the stream. -/
theorem feed_new (stream : Bytes) :
    (endState (feed pendingFetches (new, []) stream)).isFetch =
      match readHeader pendingFetches stream with
      | .ok (headerInfo, _) => some headerInfo.isFetch
      | .error _ => none := by
  cases stream with
  | nil => rfl
  | cons b stream =>
    show (endState (drain _ _ (stream.length + 1) new (b :: stream))).isFetch = _
    simp only [drain, List.isEmpty_cons, Bool.false_eq_true, if_false]
    cases hheader : readHeader pendingFetches (b :: stream) with
    | ok p =>
      obtain ⟨headerInfo, rest⟩ := p
      have hparse : parse pendingFetches new (b :: stream) =
          .ok ({ new with headerInfo := some headerInfo }, rest) := by
        show (readHeader pendingFetches (b :: stream) >>= _) = _
        rw [hheader]
        rfl
      rw [hparse]
      exact endState_drain parse_isFetch _ _ _ rfl
    | error e =>
      have hparse : parse pendingFetches new (b :: stream) = .error e := by
        show (readHeader pendingFetches (b :: stream) >>= _) = _
        rw [hheader]
        rfl
      rw [hparse]
      simp only
      split
      · rfl
      · rfl

theorem read_isFetch (pieces : List Bytes) :
    (read pendingFetches pieces).headerInfo.map HeaderInfo.isFetch =
      match readHeader pendingFetches pieces.flatten with
      | .ok (headerInfo, _) => some headerInfo.isFetch
      | .error _ => none := by
  have hparse := parse_tried pendingFetches
  have hend : (read pendingFetches pieces).headerInfo =
      (endState (readPieces pendingFetches pieces)).headerInfo := by
    unfold read
    cases readPieces pendingFetches pieces <;> rfl
  have hfeed : readPieces pendingFetches pieces =
      feed pendingFetches (new, []) pieces.flatten := by
    have hall : pieces.foldlM (feed pendingFetches) (new, []) =
        feed pendingFetches (new, []) pieces.flatten := foldlM_feed hparse pieces (new, []) rfl
    unfold readPieces
    rw [hall]
    cases hfirst : feed pendingFetches (new, []) pieces.flatten with
    | error e => rfl
    | ok reader => exact feed_nil_of_feed hparse hfirst
  rw [hend, hfeed]
  exact feed_new pieces.flatten

/-- A stream that begins with these bytes can turn out to be of this kind. -/
def MayBe (pendingFetches : UInt64 → Option GroupOrder) (opening : Bytes) (isFetch : Bool) : Prop :=
  ∃ pieces : List Bytes, opening <+: pieces.flatten ∧
    (read pendingFetches pieces).headerInfo.map HeaderInfo.isFetch = some isFetch

/-- The kind of a stream follows from the type in front of it, however that is encoded. -/
def KindFollowsType (pendingFetches : UInt64 → Option GroupOrder) (opening : Bytes) : Prop :=
  ∀ type rest, getVi opening = .ok (type, rest) →
    (MayBe pendingFetches opening true ↔ type = 0x05) ∧
      (MayBe pendingFetches opening false ↔ ∃ t, SubgroupHeaderType.tryNew type = .ok t)

theorem mayBe_iff {opening : Bytes} {isFetch : Bool} :
    MayBe pendingFetches opening isFetch ↔
      ∃ tail headerInfo rest, readHeader pendingFetches (opening ++ tail) = .ok (headerInfo, rest) ∧
        headerInfo.isFetch = isFetch := by
  constructor
  · rintro ⟨pieces, ⟨tail, htail⟩, hkind⟩
    rw [read_isFetch, ← htail] at hkind
    split at hkind
    next headerInfo rest hheader => exact ⟨tail, headerInfo, rest, hheader, Option.some.inj hkind⟩
    next => cases hkind
  · rintro ⟨tail, headerInfo, rest, hheader, hkind⟩
    refine ⟨[opening ++ tail], by simp, ?_⟩
    rw [read_isFetch, List.flatten_singleton, hheader]
    exact congrArg some hkind

/-- The type of a fetch stream is none of the types of a subgroup stream. -/
theorem tryNew_fetchType (t : SubgroupHeaderType) : SubgroupHeaderType.tryNew 0x05 ≠ .ok t := by
  intro h
  cases h

theorem readSubgroupHeader_isFetch {bytes rest : Bytes} {headerInfo : HeaderInfo}
    (h : readSubgroupHeader bytes = .ok (headerInfo, rest)) :
    headerInfo.isFetch = false ∧
      ∃ header, SubgroupHeader.deserialize bytes = .ok (header, rest) := by
  obtain ⟨⟨header, left⟩, hheader, hret⟩ := except_bind_eq_ok.mp h
  cases hret
  exact ⟨rfl, header, except_mapError_eq_ok.mp hheader⟩

section Opening

variable {opening rest : Bytes} {type : UInt64} (htype : getVi opening = .ok (type, rest))

include htype

theorem exists_opening : ∃ b bytes, opening = b :: bytes := by
  cases opening with
  | nil => cases htype
  | cons b bytes => exact ⟨b, bytes, rfl⟩

/-- A type of one byte that says fetch makes it a fetch stream. -/
theorem kind_of_head_eq (hhead : opening.head? = some 0x05) :
    type = 0x05 ∧ MayBe pendingFetches opening true ∧ ¬ MayBe pendingFetches opening false := by
  obtain ⟨b, bytes, rfl⟩ := exists_opening htype
  obtain rfl : b = 0x05 := Option.some.inj hhead
  refine ⟨?_, ?_, ?_⟩
  · have hone : getVi (putVi 0x05 ++ bytes) = .ok (0x05, bytes) := getVi_putVi 0x05 bytes
    have hput : putVi 0x05 = [0x05] := by decide
    rw [hput, List.singleton_append, htype] at hone
    cases hone
    rfl
  · rw [mayBe_iff]
    have hlength : 9 ≤ (bytes ++ List.replicate 9 0).length := by simp
    obtain ⟨requestId, left, hrequest, -⟩ := getVi_of_length hlength
    refine ⟨List.replicate 9 0, .fetch ⟨requestId⟩ (pendingFetches requestId), left, ?_, rfl⟩
    rw [List.cons_append, readHeader_fetch, hrequest]
    rfl
  · rw [mayBe_iff]
    rintro ⟨tail, headerInfo, left, hheader, hkind⟩
    rw [List.cons_append, readHeader_fetch] at hheader
    obtain ⟨⟨requestId, left'⟩, -, hret⟩ := except_bind_eq_ok.mp hheader
    cases hret
    cases hkind

/-- Any other stream is read as a subgroup stream, if its type is that of one. -/
theorem kind_of_head_ne (hhead : opening.head? ≠ some 0x05) :
    ¬ MayBe pendingFetches opening true ∧
      (MayBe pendingFetches opening false ↔ ∃ t, SubgroupHeaderType.tryNew type = .ok t) := by
  have hpath : ∀ tail, readHeader pendingFetches (opening ++ tail) =
      readSubgroupHeader (opening ++ tail) := by
    intro tail
    obtain ⟨b, bytes, rfl⟩ := exists_opening htype
    exact if_neg hhead
  refine ⟨?_, ?_, ?_⟩
  · rw [mayBe_iff]
    rintro ⟨tail, headerInfo, left, hheader, hkind⟩
    rw [hpath] at hheader
    rw [(readSubgroupHeader_isFetch hheader).1] at hkind
    cases hkind
  · rw [mayBe_iff]
    rintro ⟨tail, headerInfo, left, hheader, -⟩
    rw [hpath] at hheader
    obtain ⟨-, header, hheader⟩ := readSubgroupHeader_isFetch hheader
    unfold SubgroupHeader.deserialize at hheader
    rw [getVi_stable _ _ _ tail htype, except_ok_bind] at hheader
    obtain ⟨t, ht, -⟩ := except_bind_eq_ok.mp hheader
    exact ⟨t, ht⟩
  · rintro ⟨t, ht⟩
    rw [mayBe_iff]
    obtain ⟨header, left, hheader⟩ := SubgroupHeader.deserialize_of_length
      (getVi_stable _ _ _ (List.replicate 28 0) htype) ht (by simp)
    refine ⟨List.replicate 28 0, .subgroup header, left, ?_, rfl⟩
    rw [hpath, readSubgroupHeader, hheader]
    rfl

end Opening

/-- The kind of a stream follows from its type unless the type of a fetch stream is written in more
bytes than one. -/
theorem kindFollowsType_iff (pendingFetches : UInt64 → Option GroupOrder) (opening : Bytes) :
    KindFollowsType pendingFetches opening ↔
      ∀ rest, getVi opening = .ok (0x05, rest) → opening.head? = some 0x05 := by
  constructor
  · intro h rest htype
    by_contra hhead
    exact (kind_of_head_ne htype hhead).1 ((h _ _ htype).1.mpr rfl)
  · intro h type rest htype
    by_cases hhead : opening.head? = some 0x05
    · obtain ⟨rfl, hfetch, hsubgroup⟩ := @kind_of_head_eq pendingFetches _ _ _ htype hhead
      exact ⟨iff_of_true hfetch rfl,
        iff_of_false hsubgroup fun ⟨t, ht⟩ => tryNew_fetchType t ht⟩
    · obtain ⟨hfetch, hsubgroup⟩ := @kind_of_head_ne pendingFetches _ _ _ htype hhead
      refine ⟨iff_of_false hfetch ?_, hsubgroup⟩
      rintro rfl
      exact hhead (h rest htype)

/-- FETCH_HEADER in two bytes, and then a Request ID: the stream is refused as a subgroup stream
of an unknown type. -/
theorem twoByteFetchType_refused :
    getVi [0x80, 0x05, 0x00] = .ok (0x05, [0x00]) ∧
      (read (fun _ => none) [[0x80, 0x05, 0x00]]).headerInfo = none ∧
      (read (fun _ => none) [[0x80, 0x05, 0x00]]).result =
        .error (.protocolViolation "RecvDataStream::new(SubgroupHeader validation)"
          "Invalid type: [SubgroupHeaderType::try_new], [bit 4 not set, got 0x5]") ∧
      ¬ KindFollowsType (fun _ => none) [0x80, 0x05, 0x00] := by
  have htype : getVi [0x80, 0x05, 0x00] = .ok (0x05, [0x00]) := by decide
  refine ⟨htype, by decide, by decide, ?_⟩
  intro h
  exact (kind_of_head_ne htype (by decide)).1 ((h _ _ htype).1.mpr rfl)

end RecvDataStream

end Moqtail
