import Moqtail.Lib.Incremental
import Moqtail.Ts.ControlStream
import Moqtail.Ts.FetchObject
import Moqtail.Ts.Publication

/-! The data streams that the TypeScript library reads, from `client/data_stream.ts` and from
`header.ts`, `fetch_header.ts`, `subgroup_header.ts` and `subgroup_object.ts` of `model/data`.

The header and every Object are tried on what has been read so far, and tried again from the same
place once more is there. How the stream is cut into reads must not show. -/
namespace Moqtail.Ts

open Lib

def Error.isNotEnoughBytes : Error → Bool
  | .notEnoughBytes _ _ _ => true
  | _ => false

/-! Headers. -/

structure FetchHeader where
  requestId : Int
deriving Repr, DecidableEq

/-- `FetchHeaderType` has one value. -/
def FetchHeader.deserialize (buf : Bytes) : Result (FetchHeader × Bytes) := do
  let (typeRaw, buf) ← ByteBuffer.getVI buf
  if typeRaw ≠ 0x05 then throw (.error s!"Invalid FetchHeaderType: {typeRaw}")
  let (requestId, buf) ← ByteBuffer.getVI buf
  return (⟨requestId⟩, buf)

inductive Header where
  | fetch (header : FetchHeader)
  | subgroup (header : SubgroupHeader)
deriving Repr, DecidableEq

namespace Header

def deserializeFetch (buf : Bytes) : Result (Header × Bytes) := do
  let (header, buf) ← FetchHeader.deserialize buf
  return (.fetch header, buf)

def deserializeSubgroup (buf : Bytes) : Result (Header × Bytes) := do
  let (header, buf) ← SubgroupHeader.deserialize buf
  return (.subgroup header, buf)

/-- The bits of a type are those of its last 32. -/
def deserializeOf (type : Int) (buf : Bytes) : Result (Header × Bytes) :=
  if type = 0x05 then deserializeFetch buf
  else if (type.toNat % 2 ^ 32) &&& 0x10 ≠ 0 ∧ (type.toNat % 2 ^ 32) &&& 0x80 = 0 then
    deserializeSubgroup buf
  else .error (.invalidType "Header::deserialize(type)" s!"Unknown header type: {type}")

/-- The type is looked at, and read again with the header it belongs to. -/
def deserialize (buf : Bytes) : Result (Header × Bytes) := do
  let (type, _) ← ByteBuffer.getNumberVI buf
  deserializeOf type buf

end Header

/-! Objects. -/

namespace SubgroupObject

def objectIdFrom (objectDelta : Int) (previousObjectId : Option Int) : Int :=
  match previousObjectId with
  | some previous => previous + objectDelta + 1
  | none => objectDelta

def deserializeProperties (hasProperties : Bool) (buf : Bytes) :
    Result (Option (List KeyValuePair) × Bytes) :=
  if hasProperties then do
    let (extLen, buf) ← ByteBuffer.getNumberVI buf
    let (headerBytes, buf) ← ByteBuffer.getBytes extLen buf
    let properties ← deserializeKvpListUntilEmpty headerBytes
    return (some properties, buf)
  else .ok (none, buf)

/-- `ObjectStatus.tryFrom`. -/
def statusFrom (value : Int) : Result ObjectStatus :=
  if value = 0x0 then .ok .normal
  else if value = 0x3 then .ok .endOfGroup
  else if value = 0x4 then .ok .endOfTrack
  else .error (.error s!"Invalid ObjectStatus: {value}")

def deserializeBody (buf : Bytes) : Result ((Option ObjectStatus × Option Bytes) × Bytes) := do
  let (payloadLen, buf) ← ByteBuffer.getNumberVI buf
  if payloadLen = 0 then
    let (raw, buf) ← ByteBuffer.getVI buf
    let status ← statusFrom raw
    return ((some status, none), buf)
  else
    let (payload, buf) ← ByteBuffer.getBytes payloadLen buf
    return ((none, some payload), buf)

def deserialize (hasProperties : Bool) (previousObjectId : Option Int) (buf : Bytes) :
    Result (SubgroupObject × Bytes) := do
  let (objectDelta, buf) ← ByteBuffer.getVI buf
  let (properties, buf) ← deserializeProperties hasProperties buf
  let ((objectStatus, payload), buf) ← deserializeBody buf
  return (⟨objectIdFrom objectDelta previousObjectId, normalizeProperties properties, objectStatus,
    payload⟩, buf)

end SubgroupObject

/-! The stream. -/

inductive StreamObject where
  | fetch (object : FetchObject)
  | subgroup (object : SubgroupObject)
deriving Repr, DecidableEq

/-- A stream whose header is there, without its buffer. -/
structure RecvStream where
  header : Header
  groupOrder : GroupOrder
  previousObjectId : Option Int
  fetchPrevCtx : Option FetchObjectContext
  enqueued : List StreamObject
deriving DecidableEq

/-- How a stream has ended: with a FIN; with bytes left over, before the header or after it; with
what the decoder throws; or with the error of a read. -/
inductive RecvEnd where
  | fin
  | incomplete
  | thrown (e : Error)
  | readError
deriving DecidableEq

/-- What has been enqueued of a stream and given to `onDataReceived`, and how the stream has ended,
`none` where a read is waited for. An end that is an error drops what is still enqueued then. -/
structure Received where
  header : Option Header
  objects : List StreamObject
  ending : Option RecvEnd
deriving DecidableEq

namespace RecvStream

/-- The order is that of the request that a FETCH header names. -/
def opened (resolveGroupOrder : Header → GroupOrder) (header : Header) : RecvStream where
  header := header
  groupOrder :=
    match header with
    | .fetch _ => resolveGroupOrder header
    | .subgroup _ => .original
  previousObjectId := none
  fetchPrevCtx := none
  enqueued := []

def deserializeObject (s : RecvStream) (buf : Bytes) : Result (StreamObject × Bytes) :=
  match s.header with
  | .fetch _ => do
    let (object, buf) ← FetchObject.deserialize s.fetchPrevCtx s.groupOrder buf
    return (.fetch object, buf)
  | .subgroup header => do
    let (object, buf) ← SubgroupObject.deserialize
      (SubgroupHeaderType.hasProperties header.type) s.previousObjectId buf
    return (.subgroup object, buf)

/-- What the loop keeps of an Object before it hands it on: a subgroup takes its name from it, if it
has none. -/
def enqueue (s : RecvStream) (object : StreamObject) : RecvStream :=
  match object with
  | .fetch entry =>
    { s with
      fetchPrevCtx := some (entry.nextContext s.fetchPrevCtx)
      enqueued := s.enqueued ++ [object] }
  | .subgroup o =>
    { s with
      header :=
        match s.header with
        | .fetch header => .fetch header
        | .subgroup header => .subgroup (header.resolveSubgroupId o.objectId)
      previousObjectId := some o.objectId
      enqueued := s.enqueued ++ [object] }

/-- What one turn of `#ingestLoop` comes to. -/
inductive Turn where
  | goOn (s : RecvStream) (internalBuffer : GrowingBuffer)
  | read (s : RecvStream) (internalBuffer : GrowingBuffer)
  | end (s : RecvStream) (e : Error)

def turn (s : RecvStream) (internalBuffer : GrowingBuffer) : Turn :=
  if internalBuffer.unread.length > 0 then
    match internalBuffer.setCheckpoint.read s.deserializeObject with
    | (.ok object, internalBuffer) => .goOn (s.enqueue object) internalBuffer.commit
    | (.error e, internalBuffer) =>
      if e.isNotEnoughBytes then .read s internalBuffer.restore else .end s e
  else .read s internalBuffer

/-- The turns up to a read, or to the end. A turn that goes on takes a byte at least, so that as
many turns as there are bytes are enough. -/
def turns : Nat → RecvStream → GrowingBuffer → Turn
  | 0, s, internalBuffer => .read s internalBuffer
  | fuel + 1, s, internalBuffer =>
    match s.turn internalBuffer with
    | .goOn s internalBuffer => turns fuel s internalBuffer
    | stopped => stopped

def settle (s : RecvStream) (internalBuffer : GrowingBuffer) : Turn :=
  s.turns internalBuffer.unread.length internalBuffer

def received (s : RecvStream) (ending : Option RecvEnd) : Received := ⟨some s.header, s.enqueued, ending⟩

def ingestLoop (s : RecvStream) (internalBuffer : GrowingBuffer) (reads : List ReadResult) : Received :=
  match s.settle internalBuffer with
  | .goOn s _ => s.received none
  | .end s e => s.received (some (.thrown e))
  | .read s internalBuffer =>
    match reads with
    | [] => s.received none
    | .value bytes :: reads => s.ingestLoop (internalBuffer.putBytes bytes) reads
    | .done :: _ =>
      s.received (some (if internalBuffer.unread.length > 0 then .incomplete else .fin))
    | .failed :: _ => s.received (some .readError)

/-- The loop of `new`, and the loop over the Objects once the header is there. -/
def openWith (resolveGroupOrder : Header → GroupOrder) (internalBuffer : GrowingBuffer) :
    List ReadResult → Received
  | [] => ⟨none, [], none⟩
  | .done :: _ => ⟨none, [], some .incomplete⟩
  | .failed :: _ => ⟨none, [], some .readError⟩
  | .value bytes :: reads =>
    match (internalBuffer.putBytes bytes).setCheckpoint.read Header.deserialize with
    | (.ok header, internalBuffer) =>
      (opened resolveGroupOrder header).ingestLoop internalBuffer.commit reads
    | (.error e, internalBuffer) =>
      if e.isNotEnoughBytes then openWith resolveGroupOrder internalBuffer.restore reads
      else ⟨none, [], some (.thrown e)⟩

/-- What comes of a stream of these reads. -/
def receive (resolveGroupOrder : Header → GroupOrder) (reads : List ReadResult) : Received :=
  openWith resolveGroupOrder .new reads

end RecvStream

namespace Header

/-- An Object names the subgroup of a stream that has no name for it yet. -/
def resolveSubgroupId (header : Header) (firstObjectId : Int) : Header :=
  match header with
  | .fetch header => .fetch header
  | .subgroup header => .subgroup (header.resolveSubgroupId firstObjectId)

theorem resolveSubgroupId_twice (header : Header) (firstObjectId objectId : Int) :
    (header.resolveSubgroupId firstObjectId).resolveSubgroupId objectId =
      header.resolveSubgroupId firstObjectId := by
  cases header with
  | fetch header => rfl
  | subgroup header =>
    simp only [resolveSubgroupId, SubgroupHeader.resolveSubgroupId]
    split
    · simp
    next hnot => rfl

end Header

/-! The decoders, tried on a part of the bytes. -/

/-- What is read from a part of the bytes is what is read from all of them. Properties are parsed
once all of their bytes are there, and where they end too early the decoder asks for more, which
does not help. -/
abbrev Resumable {α : Type} (dec : Decoder Error α) : Prop := Cursor Error.isNotEnoughBytes dec

namespace ByteBuffer

theorem getVI_resumable : Resumable getVI where
  stable buf v rest tail h := by
    obtain ⟨front, rfl, -, hread⟩ := getVI_eq_ok h
    rw [List.append_assoc]
    exact hread _
  shrinks buf rest v h := by
    obtain ⟨front, rfl, -, -⟩ := getVI_eq_ok h
    rw [List.length_append]
    exact Nat.le_add_left _ _
  fails buf tail e h hshort := by
    obtain ⟨context, needed, available, rfl⟩ := getVI_error h
    cases hshort
  leaves buf rest v h := by
    obtain ⟨front, rfl, -, -⟩ := getVI_eq_ok h
    exact List.suffix_append _ _

theorem getVI_progressive : Progressive Error.isNotEnoughBytes getVI where
  toIncremental := getVI_resumable.toIncremental
  takes buf rest v h := by
    obtain ⟨front, rfl, hfront, -⟩ := getVI_eq_ok h
    have hpos := List.length_pos_of_ne_nil hfront
    rw [List.length_append]
    omega

theorem numberOf_resumable (big : Int) : Resumable fun buf => do
    if big > maxSafeInteger then
      throw (.castingError "BaseByteBuffer.getNumberVI()" "bigint" "number"
        "bigint exceeds Number.MAX_SAFE_INTEGER")
    return (big, buf) := by
  by_cases hlarge : big > maxSafeInteger
  · simp only [hlarge, if_true]
    exact .error _
  · simp only [hlarge, if_false]
    exact .ok big

theorem getNumberVI_resumable : Resumable getNumberVI := getVI_resumable.bind numberOf_resumable

theorem getNumberVI_progressive : Progressive Error.isNotEnoughBytes getNumberVI :=
  getVI_progressive.bind fun big => (numberOf_resumable big).toIncremental

theorem getU8_resumable : Resumable getU8 where
  stable buf v rest tail h := by
    cases buf with
    | nil => cases h
    | cons b buf =>
      cases h
      rfl
  shrinks buf rest v h := by
    cases buf with
    | nil => cases h
    | cons b buf =>
      cases h
      exact Nat.le_succ _
  fails buf tail e h hshort := by
    cases buf with
    | nil =>
      cases h
      cases hshort
    | cons b buf => cases h
  leaves buf rest v h := by
    cases buf with
    | nil => cases h
    | cons b buf =>
      cases h
      exact List.suffix_cons _ _

theorem getBytes_resumable (len : Int) : Resumable (getBytes len) where
  stable buf value rest tail h := by
    unfold getBytes at h ⊢
    split at h
    · cases h
    next hlong =>
      cases h
      rw [if_neg (by rw [List.length_append]; omega),
        List.take_append_of_le_length (by omega), List.drop_append_of_le_length (by omega)]
  shrinks buf rest value h := by
    unfold getBytes at h
    split at h
    · cases h
    · cases h
      rw [List.length_drop]
      omega
  fails buf tail e h hshort := by
    unfold getBytes at h
    split at h
    · cases h
      cases hshort
    · cases h
  leaves buf rest value h := by
    unfold getBytes at h
    split at h
    · cases h
    · cases h
      exact List.drop_suffix _ _

end ByteBuffer

open ByteBuffer

namespace SubgroupHeader

theorem deserializeFields_resumable (headerType : Nat) : Resumable fun buf => do
    let (trackAlias, buf) ← getVI buf
    let (groupId, buf) ← getVI buf
    let (subgroupId, buf) ← readSubgroupId headerType buf
    let (publisherPriority, buf) ← readPriority headerType buf
    return ((⟨headerType, trackAlias, groupId, subgroupId, publisherPriority⟩ : SubgroupHeader), buf) := by
  refine .bind getVI_resumable fun trackAlias => ?_
  refine .bind getVI_resumable fun groupId => ?_
  refine .bind ?_ fun subgroupId => .bind ?_ fun publisherPriority => .ok _
  · unfold readSubgroupId
    exact .ite (.bind getVI_resumable fun subgroupId => .ok _) (.ite (.ok _) (.ok _))
  · unfold readPriority
    exact .ite (.ok _) (.bind getU8_resumable fun publisherPriority => .ok _)

theorem deserialize_resumable : Resumable deserialize := by
  unfold deserialize
  refine .bind getNumberVI_resumable fun value => ?_
  exact .bind_result fun headerType => deserializeFields_resumable headerType

theorem deserialize_progressive : Progressive Error.isNotEnoughBytes deserialize := by
  unfold deserialize
  refine .bind getNumberVI_progressive fun value => ?_
  exact .bind_result fun headerType => (deserializeFields_resumable headerType).toIncremental

end SubgroupHeader

theorem FetchHeader.deserializeFields_resumable (typeRaw : Int) : Resumable fun buf => do
    if typeRaw ≠ 0x05 then throw (.error s!"Invalid FetchHeaderType: {typeRaw}")
    let (requestId, buf) ← getVI buf
    return ((⟨requestId⟩ : FetchHeader), buf) := by
  by_cases htype : typeRaw ≠ 0x05
  · simp only [htype, ne_eq, not_false_eq_true, if_true]
    exact .error _
  · simp only [htype, if_false]
    exact .bind getVI_resumable fun requestId => .ok (⟨requestId⟩ : FetchHeader)

namespace Header

theorem deserializeFetch_resumable : Resumable deserializeFetch :=
  (getVI_resumable.bind FetchHeader.deserializeFields_resumable).bind fun header => .ok (Header.fetch header)

theorem deserializeFetch_progressive : Progressive Error.isNotEnoughBytes deserializeFetch :=
  (getVI_progressive.bind fun typeRaw =>
    (FetchHeader.deserializeFields_resumable typeRaw).toIncremental).bind fun header => .ok (Header.fetch header)

theorem deserializeSubgroup_resumable : Resumable deserializeSubgroup :=
  SubgroupHeader.deserialize_resumable.bind fun header => .ok (Header.subgroup header)

theorem deserializeOf_progressive (type : Int) :
    Progressive Error.isNotEnoughBytes (deserializeOf type) := by
  unfold deserializeOf
  split
  · exact deserializeFetch_progressive
  · split
    · exact SubgroupHeader.deserialize_progressive.bind fun header => .ok (Header.subgroup header)
    · exact ⟨.error _, fun _ _ _ h => by cases h⟩

theorem deserialize_progressive : Progressive Error.isNotEnoughBytes deserialize :=
  .peek getNumberVI_resumable.toIncremental deserializeOf_progressive

theorem deserialize_leaves {buf rest : Bytes} {header : Header} (h : deserialize buf = .ok (header, rest)) :
    rest <:+ buf := by
  obtain ⟨⟨type, left⟩, -, h⟩ := except_bind_eq_ok.mp h
  unfold deserializeOf at h
  dsimp only at h
  split at h
  · exact deserializeFetch_resumable.leaves _ _ _ h
  · split at h
    · exact deserializeSubgroup_resumable.leaves _ _ _ h
    · cases h

end Header

namespace SubgroupObject

theorem deserializeFields_resumable (hasProperties : Bool) (previousObjectId : Option Int)
    (objectDelta : Int) : Resumable fun buf => do
      let (properties, buf) ← deserializeProperties hasProperties buf
      let ((objectStatus, payload), buf) ← deserializeBody buf
      return ((⟨objectIdFrom objectDelta previousObjectId, normalizeProperties properties,
        objectStatus, payload⟩ : SubgroupObject), buf) := by
  refine .bind ?_ fun properties => .bind ?_ fun body => .ok _
  · unfold deserializeProperties
    refine .ite (.bind getNumberVI_resumable fun extLen => ?_) (.ok _)
    refine .bind (getBytes_resumable extLen) fun headerBytes => ?_
    exact .bind_result fun properties => .ok _
  · unfold deserializeBody
    refine .bind getNumberVI_resumable fun payloadLen => .ite ?_ ?_
    · exact .bind getVI_resumable fun raw => .bind_result fun status => .ok _
    · exact .bind (getBytes_resumable payloadLen) fun payload => .ok _

theorem deserialize_resumable (hasProperties : Bool) (previousObjectId : Option Int) :
    Resumable (deserialize hasProperties previousObjectId) :=
  getVI_resumable.bind fun objectDelta =>
    deserializeFields_resumable hasProperties previousObjectId objectDelta

theorem deserialize_progressive (hasProperties : Bool) (previousObjectId : Option Int) :
    Progressive Error.isNotEnoughBytes (deserialize hasProperties previousObjectId) :=
  getVI_progressive.bind fun objectDelta =>
    (deserializeFields_resumable hasProperties previousObjectId objectDelta).toIncremental

end SubgroupObject

namespace FetchObject

variable (flags : FetchFlags) (prev : Option FetchObjectContext) (groupOrder : GroupOrder)

theorem deserializeGroupId_resumable : Resumable (deserializeGroupId flags prev groupOrder) := by
  unfold deserializeGroupId
  refine .ite (.bind getVI_resumable fun delta => ?_) ?_
  · cases prev with
    | none => exact .ok _
    | some pc => exact .ite (.error _) (.ok _)
  · cases prev with
    | none => exact .error _
    | some pc => exact .ok _

theorem deserializeSubgroupId_resumable : Resumable (deserializeSubgroupId flags prev) := by
  unfold deserializeSubgroupId
  refine .ite (.ok _) (.ite (.ok _) (.ite ?_ (.ite ?_ (.ite getVI_resumable (.error _)))))
  · cases prev.bind (·.subgroupId) with
    | none => exact .error _
    | some subgroupId => exact .ok _
  · cases prev.bind (·.subgroupId) with
    | none => exact .error _
    | some subgroupId => exact .ok _

theorem deserializeObjectId_resumable : Resumable (deserializeObjectId flags prev) := by
  unfold deserializeObjectId
  refine .ite (.bind getVI_resumable fun delta => ?_) ?_
  · cases prev with
    | none => exact .ok _
    | some pc => exact .ite (.ok _) (.ite (.error _) (.ok _))
  · cases prev with
    | none => exact .error _
    | some pc => exact .ite (.error _) (.ok _)

theorem deserializePriority_resumable : Resumable (deserializePriority flags prev) := by
  unfold deserializePriority
  refine .ite getU8_resumable ?_
  cases prev.bind (·.publisherPriority) with
  | none => exact .error _
  | some priority => exact .ok _

theorem deserializeProperties_resumable : Resumable (deserializeProperties flags) := by
  unfold deserializeProperties
  refine .ite (.bind getNumberVI_resumable fun extLen => ?_) (.ok _)
  refine .bind (getBytes_resumable extLen) fun headerBytes => ?_
  exact .bind_result fun properties => .ok _

theorem deserializePayload_resumable : Resumable deserializePayload :=
  getNumberVI_resumable.bind fun payloadLen => getBytes_resumable payloadLen

/-- What follows the Serialization Flags. -/
theorem deserializeFields_resumable (flagsRaw : Int) : Resumable fun buf =>
    if flagsRaw ≥ 128 then do
      let kind ← deserializeKind flagsRaw
      let (groupId, buf) ← getVI buf
      let (objectId, buf) ← getVI buf
      return (FetchObject.endOfRange kind groupId objectId, buf)
    else do
      let flags := FetchFlags.ofNumber flagsRaw.toNat
      checkFirst flags prev
      let (groupId, buf) ← deserializeGroupId flags prev groupOrder buf
      let (subgroupId, buf) ← deserializeSubgroupId flags prev buf
      let (objectId, buf) ← deserializeObjectId flags prev buf
      let (publisherPriority, buf) ← deserializePriority flags prev buf
      let (properties, buf) ← deserializeProperties flags buf
      let (payload, buf) ← deserializePayload buf
      return (.object {
        groupId := groupId
        subgroupId := if flags.isDatagram then objectId else subgroupId
        objectId := objectId
        publisherPriority := publisherPriority
        forwardingPreference := if flags.isDatagram then .datagram else .subgroup
        properties := properties
        payload := payload }, buf) := by
  refine .ite (.bind_result fun kind => ?_) (.bind_result fun _ => ?_)
  · exact .bind getVI_resumable fun groupId => .bind getVI_resumable fun objectId => .ok _
  · refine .bind (deserializeGroupId_resumable _ prev groupOrder) fun groupId => ?_
    refine .bind (deserializeSubgroupId_resumable _ prev) fun subgroupId => ?_
    refine .bind (deserializeObjectId_resumable _ prev) fun objectId => ?_
    refine .bind (deserializePriority_resumable _ prev) fun publisherPriority => ?_
    refine .bind (deserializeProperties_resumable _) fun properties => ?_
    exact .bind deserializePayload_resumable fun payload => .ok _

theorem deserialize_resumable : Resumable (deserialize prev groupOrder) :=
  getVI_resumable.bind fun flagsRaw => deserializeFields_resumable prev groupOrder flagsRaw

theorem deserialize_progressive : Progressive Error.isNotEnoughBytes (deserialize prev groupOrder) :=
  getVI_progressive.bind fun flagsRaw =>
    (deserializeFields_resumable prev groupOrder flagsRaw).toIncremental

end FetchObject

/-- A buffer from which a front part is read. -/
theorem GrowingBuffer.read_of_leaves {α : Type} {get : Bytes → Result (α × Bytes)} {b : GrowingBuffer}
    {a : α} {rest : Bytes} (hget : get b.unread = .ok (a, rest)) (hleaves : rest <:+ b.unread) :
    ∃ b', b.setCheckpoint.read get = (.ok a, b') ∧ b'.commit.unread = rest := by
  obtain ⟨front, hfront⟩ := hleaves
  have hunread : b.setCheckpoint.unread = front ++ rest := hfront.symm
  rw [← hfront] at hget
  obtain ⟨b', hread, hrest, -⟩ := read_of_ok hunread hget
  exact ⟨b', hread, by rw [unread_commit, hrest]⟩

namespace RecvStream

theorem deserializeObject_leaves {s : RecvStream} {buf rest : Bytes} {object : StreamObject}
    (h : s.deserializeObject buf = .ok (object, rest)) : rest <:+ buf := by
  unfold deserializeObject at h
  split at h
  · obtain ⟨⟨entry, left⟩, hentry, hret⟩ := except_bind_eq_ok.mp h
    cases hret
    exact (FetchObject.deserialize_resumable _ _).leaves _ _ _ hentry
  · obtain ⟨⟨o, left⟩, ho, hret⟩ := except_bind_eq_ok.mp h
    cases hret
    exact (SubgroupObject.deserialize_resumable _ _).leaves _ _ _ ho

/-- One Object, on bytes instead of the buffer. -/
def parse (s : RecvStream) (bytes : Bytes) : Except Error (RecvStream × Bytes) := do
  let (object, bytes) ← s.deserializeObject bytes
  return (s.enqueue object, bytes)

theorem parse_progressive (s : RecvStream) : Progressive Error.isNotEnoughBytes s.parse := by
  have hobject : Progressive Error.isNotEnoughBytes s.deserializeObject := by
    unfold deserializeObject
    cases s.header with
    | fetch header =>
      exact (FetchObject.deserialize_progressive _ _).bind fun entry => .ok (StreamObject.fetch entry)
    | subgroup header =>
      exact (SubgroupObject.deserialize_progressive _ _).bind fun o => .ok (StreamObject.subgroup o)
  exact hobject.bind fun object => .ok (s.enqueue object)

/-- The loop, on bytes. -/
abbrev feed (reader : RecvStream × Bytes) (piece : Bytes) :
    Except (RecvStream × Error) (RecvStream × Bytes) :=
  Lib.feed Error.isNotEnoughBytes parse reader piece

/-- A turn, without the memory of the buffer. -/
def Turn.view : Turn → Except (RecvStream × Error) (RecvStream × Bytes)
  | .goOn s internalBuffer => .ok (s, internalBuffer.unread)
  | .read s internalBuffer => .ok (s, internalBuffer.unread)
  | .end s e => .error (s, e)

theorem turns_spec (fuel : Nat) : ∀ (s : RecvStream) (b : GrowingBuffer),
    (s.turns fuel b).view = drain Error.isNotEnoughBytes parse fuel s b.unread ∧
      ∀ s' b', s.turns fuel b ≠ .goOn s' b' := by
  induction fuel with
  | zero => exact fun s b => ⟨rfl, fun s' b' h => by cases h⟩
  | succ fuel ih =>
    intro s b
    unfold turns turn drain
    by_cases hempty : b.unread = []
    · rw [hempty]
      simp [Turn.view, hempty]
    · have hpos := List.length_pos_of_ne_nil hempty
      have hfalse : b.unread.isEmpty = false := by simpa using hempty
      rw [if_pos hpos, hfalse, parse]
      cases hobject : s.deserializeObject b.unread with
      | ok p =>
        obtain ⟨object, rest⟩ := p
        obtain ⟨b', hread, hrest⟩ := GrowingBuffer.read_of_leaves hobject
          (deserializeObject_leaves hobject)
        have hnext := ih (s.enqueue object) b'.commit
        rw [hrest] at hnext
        rw [hread]
        exact hnext
      | error e =>
        have hread : b.setCheckpoint.read s.deserializeObject = (.error e, b.setCheckpoint) :=
          GrowingBuffer.read_of_error hobject
        rw [hread]
        cases hshort : e.isNotEnoughBytes with
        | true =>
          simp only [hshort, if_true, except_error_bind, Bool.false_eq_true, if_false]
          exact ⟨rfl, fun s' b' h => by cases h⟩
        | false =>
          simp only [hshort, except_error_bind, Bool.false_eq_true, if_false]
          exact ⟨rfl, fun s' b' h => by cases h⟩

/-- What has come of the stream when no more than `last` is read: nothing yet, the end of the stream
or a read that fails. -/
def conclude (result : Except (RecvStream × Error) (RecvStream × Bytes)) (last : List ReadResult) :
    Received :=
  match result with
  | .error (s, e) => s.received (some (.thrown e))
  | .ok (s, rest) =>
    match last with
    | .done :: _ => s.received (some (if rest.isEmpty then .fin else .incomplete))
    | .failed :: _ => s.received (some .readError)
    | _ => s.received none

/-- What comes of a stream that is there as a whole. -/
def receiveWhole (resolveGroupOrder : Header → GroupOrder) (bytes : Bytes) (last : List ReadResult) :
    Received :=
  match Header.deserialize bytes with
  | .ok (header, rest) => conclude (feed (opened resolveGroupOrder header, rest) []) last
  | .error e =>
    if e.isNotEnoughBytes then
      match last with
      | .done :: _ => ⟨none, [], some .incomplete⟩
      | .failed :: _ => ⟨none, [], some .readError⟩
      | _ => ⟨none, [], none⟩
    else ⟨none, [], some (.thrown e)⟩

/-- No read of these brings bytes. -/
def Stops (last : List ReadResult) : Prop := ∀ bytes reads, last ≠ .value bytes :: reads

theorem ingestLoop_eq {last : List ReadResult} (hlast : Stops last) (pieces : List Bytes) :
    ∀ (s : RecvStream) (b : GrowingBuffer), s.ingestLoop b (pieces.map .value ++ last) =
      conclude (feed (s, b.unread) pieces.flatten) last := by
  induction pieces with
  | nil =>
    intro s b
    have hsettle := turns_spec b.unread.length s b
    rw [List.map_nil, List.nil_append, List.flatten_nil, feed, Lib.feed, List.append_nil, ← hsettle.1,
      ingestLoop.eq_def, settle]
    cases hturns : s.turns b.unread.length b with
    | goOn s' b' => exact absurd hturns (hsettle.2 s' b')
    | «end» s' e => rfl
    | read s' b' =>
      cases last with
      | nil => rfl
      | cons result reads =>
        cases result with
        | value bytes => exact absurd rfl (hlast bytes reads)
        | failed => rfl
        | done =>
          show s'.received _ = s'.received _
          cases b'.unread <;> rfl
  | cons piece pieces ih =>
    intro s b
    have hsettle := turns_spec b.unread.length s b
    have hfeed := feed_append parse_progressive (s, b.unread) [] (piece ++ pieces.flatten)
    have hfirst : Lib.feed Error.isNotEnoughBytes parse (s, b.unread) [] =
        (s.turns b.unread.length b).view := by
      rw [hsettle.1, Lib.feed, List.append_nil]
    rw [List.nil_append, hfirst] at hfeed
    rw [List.map_cons, List.cons_append, List.flatten_cons, feed, hfeed, ingestLoop.eq_def, settle]
    cases hturns : s.turns b.unread.length b with
    | goOn s' b' => exact absurd hturns (hsettle.2 s' b')
    | «end» s' e => rfl
    | read s' b' =>
      show s'.ingestLoop (b'.putBytes piece) (pieces.map .value ++ last) = _
      rw [ih, GrowingBuffer.unread_putBytes, feed, Lib.feed, List.append_assoc]
      rfl

theorem openWith_eq {resolveGroupOrder : Header → GroupOrder} {last : List ReadResult}
    (hlast : Stops last) (pieces : List Bytes) : ∀ b : GrowingBuffer,
      (∃ e, Header.deserialize b.unread = .error e ∧ e.isNotEnoughBytes = true) →
      openWith resolveGroupOrder b (pieces.map .value ++ last) =
        receiveWhole resolveGroupOrder (b.unread ++ pieces.flatten) last := by
  induction pieces with
  | nil =>
    rintro b ⟨e, herror, hshort⟩
    rw [List.map_nil, List.nil_append, List.flatten_nil, List.append_nil]
    unfold receiveWhole
    rw [herror]
    dsimp only
    rw [if_pos hshort]
    cases last with
    | nil => rfl
    | cons result reads =>
      cases result with
      | value bytes => exact absurd rfl (hlast bytes reads)
      | done => rfl
      | failed => rfl
  | cons piece pieces ih =>
    rintro b -
    rw [List.map_cons, List.cons_append, List.flatten_cons, ← List.append_assoc,
      ← GrowingBuffer.unread_putBytes]
    have hunread : (b.putBytes piece).setCheckpoint.unread = (b.putBytes piece).unread := rfl
    cases hheader : Header.deserialize (b.putBytes piece).unread with
    | ok p =>
      obtain ⟨header, rest⟩ := p
      obtain ⟨b', hread, hrest⟩ := GrowingBuffer.read_of_leaves hheader
        (Header.deserialize_leaves hheader)
      have hwhole := Header.deserialize_progressive.stable _ _ _ pieces.flatten hheader
      have hloop := ingestLoop_eq hlast pieces (opened resolveGroupOrder header) b'.commit
      have hfeed : feed (opened resolveGroupOrder header, rest) pieces.flatten =
          feed (opened resolveGroupOrder header, rest ++ pieces.flatten) [] := by
        rw [feed, Lib.feed, feed, Lib.feed, List.append_nil]
      rw [hrest, hfeed] at hloop
      unfold receiveWhole openWith
      rw [hread, hwhole]
      exact hloop
    | error e =>
      have hread : (b.putBytes piece).setCheckpoint.read Header.deserialize =
          (.error e, (b.putBytes piece).setCheckpoint) := GrowingBuffer.read_of_error hheader
      cases hshort : e.isNotEnoughBytes with
      | true =>
        have hnext := ih (b.putBytes piece).setCheckpoint.restore ⟨e, hheader, hshort⟩
        unfold openWith
        rw [hread]
        dsimp only
        rw [if_pos hshort]
        exact hnext
      | false =>
        have hwhole := Header.deserialize_progressive.fails _ pieces.flatten _ hheader hshort
        unfold receiveWhole openWith
        rw [hread, hwhole]
        simp only [hshort, Bool.false_eq_true, if_false]

/-- However the stream is cut into reads, and whatever ends it: the header and the Objects that have
been handed on are those that the bytes as a whole decode to, and the end is the same. -/
theorem receive_eq_receiveWhole (resolveGroupOrder : Header → GroupOrder) (pieces : List Bytes)
    {last : List ReadResult} (hlast : Stops last) :
    receive resolveGroupOrder (pieces.map .value ++ last) =
      receiveWhole resolveGroupOrder pieces.flatten last :=
  openWith_eq hlast pieces .new ⟨_, rfl, rfl⟩

/-! What has been handed on. -/

theorem enqueued_endState (fuel : Nat) (s₀ : RecvStream) (bytes₀ : Bytes) : s₀.enqueued <+:
    (endState (drain Error.isNotEnoughBytes parse fuel s₀ bytes₀)).enqueued := by
  have hstep : ∀ (s : RecvStream) (bytes : Bytes) (s' : RecvStream) (rest : Bytes),
      s₀.enqueued <+: s.enqueued → s.parse bytes = .ok (s', rest) → s₀.enqueued <+: s'.enqueued := by
    intro s bytes s' rest hprefix hparse
    obtain ⟨⟨object, left⟩, -, hret⟩ := except_bind_eq_ok.mp hparse
    cases hret
    refine hprefix.trans ?_
    unfold enqueue
    split <;> exact List.prefix_append _ _
  exact endState_drain hstep _ _ _ List.prefix_rfl

theorem objects_conclude (result : Except (RecvStream × Error) (RecvStream × Bytes))
    (last : List ReadResult) : (conclude result last).objects = (endState result).enqueued := by
  unfold conclude
  split
  · rfl
  · split <;> rfl

/-- The header changes once at most. -/
theorem header_endState (fuel : Nat) (s₀ : RecvStream) (bytes₀ : Bytes) :
    (endState (drain Error.isNotEnoughBytes parse fuel s₀ bytes₀)).header = s₀.header ∨
      ∃ firstObjectId, (endState (drain Error.isNotEnoughBytes parse fuel s₀ bytes₀)).header =
        s₀.header.resolveSubgroupId firstObjectId := by
  have hstep : ∀ (s : RecvStream) (bytes : Bytes) (s' : RecvStream) (rest : Bytes),
      (s.header = s₀.header ∨ ∃ firstObjectId, s.header = s₀.header.resolveSubgroupId firstObjectId) →
      s.parse bytes = .ok (s', rest) →
      s'.header = s₀.header ∨ ∃ firstObjectId, s'.header = s₀.header.resolveSubgroupId firstObjectId := by
    intro s bytes s' rest hs hparse
    obtain ⟨⟨object, left⟩, -, hret⟩ := except_bind_eq_ok.mp hparse
    cases hret
    cases object with
    | fetch entry => exact hs
    | subgroup o =>
      have henqueue : (s.enqueue (.subgroup o)).header = s.header.resolveSubgroupId o.objectId := rfl
      rw [henqueue]
      rcases hs with hs | ⟨firstObjectId, hs⟩
      · exact .inr ⟨o.objectId, by rw [hs]⟩
      · exact .inr ⟨firstObjectId, by rw [hs, Header.resolveSubgroupId_twice]⟩
  exact endState_drain hstep _ _ _ (.inl rfl)

theorem header_conclude (result : Except (RecvStream × Error) (RecvStream × Bytes))
    (last : List ReadResult) : (conclude result last).header = some (endState result).header := by
  unfold conclude
  split
  · rfl
  · split <;> rfl

/-- Bytes that are read later add to the Objects, and change none. -/
theorem objects_receiveWhole_append (resolveGroupOrder : Header → GroupOrder) (bytes more : Bytes)
    (last last' : List ReadResult) : (receiveWhole resolveGroupOrder bytes last).objects <+:
      (receiveWhole resolveGroupOrder (bytes ++ more) last').objects := by
  unfold receiveWhole
  cases hheader : Header.deserialize bytes with
  | ok p =>
    obtain ⟨header, rest⟩ := p
    rw [Header.deserialize_progressive.stable _ _ _ more hheader]
    have hfeed : feed (opened resolveGroupOrder header, rest ++ more) [] =
        feed (opened resolveGroupOrder header, rest) [] >>= (feed · more) := by
      rw [← feed_append parse_progressive, List.nil_append, feed, Lib.feed, Lib.feed,
        List.append_nil]
    simp only [objects_conclude, hfeed]
    cases hfirst : feed (opened resolveGroupOrder header, rest) [] with
    | error e => exact List.prefix_rfl
    | ok reader => exact enqueued_endState _ _ _
  | error e =>
    have hnone : ∀ bytes last, Header.deserialize bytes = .error e →
        (receiveWhole resolveGroupOrder bytes last).objects = [] := by
      intro bytes last herror
      unfold receiveWhole
      rw [herror]
      dsimp only
      split
      · split <;> rfl
      · rfl
    have hnil := hnone bytes last hheader
    unfold receiveWhole at hnil
    rw [hheader] at hnil
    rw [hnil]
    exact List.nil_prefix

/-- However a stream is cut into reads, and whatever ends it: the same header and Objects are handed
on, and the end is the same. What has been handed on at a time stays in front of what will be. -/
theorem receive_whatever_the_chunks (resolveGroupOrder : Header → GroupOrder)
    {pieces pieces' : List Bytes} (hsame : pieces.flatten = pieces'.flatten) {last : List ReadResult}
    (hlast : Stops last) :
    receive resolveGroupOrder (pieces.map .value ++ last) =
        receive resolveGroupOrder (pieces'.map .value ++ last) ∧
      ∀ more : List Bytes, (receive resolveGroupOrder (pieces.map .value)).objects <+:
        (receive resolveGroupOrder ((pieces' ++ more).map .value ++ last)).objects := by
  have hnothing : Stops [] := fun bytes reads h => by cases h
  constructor
  · rw [receive_eq_receiveWhole _ pieces hlast, receive_eq_receiveWhole _ pieces' hlast, hsame]
  · intro more
    have hnow := receive_eq_receiveWhole resolveGroupOrder pieces hnothing
    rw [List.append_nil] at hnow
    rw [hnow, receive_eq_receiveWhole _ _ hlast, List.flatten_append, hsame]
    exact objects_receiveWhole_append _ _ _ _ _

/-- A subgroup named by its first Object, cut in the middle of that Object. -/
theorem receive_whatever_the_chunks_cut :
    receive (fun _ => .original) ([[0x12, 7, 3, 128, 5], [1, 9]].map .value ++ [.done]) =
      ⟨some (.subgroup ⟨0x12, 7, 3, some 5, some 128⟩), [.subgroup ⟨5, none, none, some [9]⟩],
        some .fin⟩ := by
  have hlast : Stops [.done] := fun bytes reads h => by cases h
  have hsame : [[0x12, 7, 3, 128, 5], [1, 9]].flatten = [[0x12, 7, 3, 128, 5, 1, (9 : UInt8)]].flatten :=
    rfl
  rw [(receive_whatever_the_chunks (fun _ => .original) hsame hlast).1]
  decide +kernel

end RecvStream

end Moqtail.Ts
