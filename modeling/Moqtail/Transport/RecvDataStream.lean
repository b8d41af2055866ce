import Moqtail.Wire.PartialReads

/-! The read task of `RecvDataStream`, from `transport/data_stream_handler.rs`.

The task parses the header and the objects of a unidirectional stream out of a buffer that
grows as the stream is read. How the stream is cut into reads must not show.

Of a pending FETCH only its Group Order is kept, which is all that reading takes from it. The
stream ends with a FIN; deadlines, resets and who waits for what are left out. -/
namespace Moqtail

open Lib

/-! Fetch headers. -/

structure FetchHeader where
  requestId : UInt64
deriving Repr, DecidableEq

/-- What `get_vi` leaves on the cursor: a first byte whose continuation is missing is gone. -/
def afterVi (bytes : Bytes) : Bytes :=
  match getVi bytes with
  | .ok (_, rest) => rest
  | .error _ => bytes.tail

/-- The type in front is skipped, whatever it is. -/
def FetchHeader.deserialize (bytes : Bytes) : Parse (FetchHeader × Bytes) := do
  let (requestId, bytes) ← getVi (afterVi bytes)
  return (⟨requestId⟩, bytes)

/-! What reading keeps besides the objects. -/

/-- `priorities` is a map, kept as a list. -/
structure FetchSubgroupPriorityState where
  groupId : Option UInt64
  priorities : List (UInt64 × UInt8)
deriving Repr, DecidableEq

/-- A subgroup keeps its priority for as long as the stream stays in the group. -/
def FetchSubgroupPriorityState.validate (s : FetchSubgroupPriorityState)
    (payload : FetchObjectPayload) : Parse FetchSubgroupPriorityState :=
  let s := if s.groupId = some payload.groupId then s else ⟨some payload.groupId, []⟩
  if payload.forwardingPreference ≠ .subgroup then .ok s
  else
    let validated : FetchSubgroupPriorityState :=
      { s with
        priorities := (payload.subgroupId, payload.publisherPriority) ::
          s.priorities.filter (·.1 != payload.subgroupId) }
    match s.priorities.lookup payload.subgroupId with
    | some previous =>
      if previous ≠ payload.publisherPriority then
        .error (.protocolViolation "RecvDataStream::read_object(fetch_malformed_track)"
          (s!"FETCH object for subgroup_id {payload.subgroupId} changed publisher_priority from " ++
            s!"{previous} to {payload.publisherPriority}"))
      else .ok validated
    | none => .ok validated

/-- The gap of a property, with the ID it may not be larger than. -/
def ObjectProperty.priorGap (groupId objectId : UInt64) :
    ObjectProperty → Option (UInt64 × UInt64 × String)
  | .priorGroupIdGap gap => some (gap, groupId, "Group")
  | .priorObjectIdGap gap => some (gap, objectId, "Object")
  | _ => none

def validatePriorGaps (groupId objectId : UInt64) (properties : Option (List ObjectProperty)) :
    Parse Unit :=
  (properties.getD []).forM fun property =>
    match property.priorGap groupId objectId with
    | some (gap, id, scope) =>
      if gap > id then
        .error (.protocolViolation "validate_prior_gaps"
          s!"Prior {scope} ID Gap {gap} is larger than the {scope} ID {id}")
      else .ok ()
    | none => .ok ()

def Object.tryFromFetch (o : FetchObjectPayload) (trackAlias : UInt64) : Parse Object :=
  .ok {
    trackAlias := trackAlias
    location := o.location
    publisherPriority := o.publisherPriority
    forwardingPreference := o.forwardingPreference
    subgroupId := if o.forwardingPreference = .subgroup then some o.subgroupId else none
    status := .normal
    properties := o.properties
    payload := if o.payload.isEmpty then none else some o.payload }

inductive HeaderInfo where
  | fetch (header : FetchHeader) (fetchRequest : Option GroupOrder)
  | subgroup (header : SubgroupHeader)
deriving DecidableEq

inductive DataStreamItem where
  | object (o : Object)
  | endOfRange (kind : EndOfRangeKind) (location : Location)
deriving Repr, DecidableEq

/-- What the read task has parsed, and what the next object is parsed against. -/
structure RecvDataStream where
  headerInfo : Option HeaderInfo
  previousObjectId : Option UInt64
  prevCtx : Option FetchObjectContext
  subgroupPriorities : FetchSubgroupPriorityState
  items : List DataStreamItem
deriving DecidableEq

/-- What stopped a parse, and whether the track is malformed. -/
structure ReadError where
  error : ParseError
  malformedTrack : Bool
deriving DecidableEq

/-- How the read task ended. -/
structure ReadOutcome where
  headerInfo : Option HeaderInfo
  items : List DataStreamItem
  result : Except ParseError Unit
  malformedTrack : Bool

namespace RecvDataStream

def new : RecvDataStream := ⟨none, none, none, ⟨none, []⟩, []⟩

def defaultPublisherPriority : UInt8 := 128

def fetchGroupOrder (fetchRequest : Option GroupOrder) : GroupOrder := fetchRequest.getD .ascending

/-- Too few bytes are waited for; anything else ends the task as a protocol violation. -/
def asViolation (context : String) (malformedTrack : Bool) (e : ParseError) : ReadError :=
  if e.isNotEnoughBytes then ⟨e, false⟩
  else ⟨.protocolViolation context e.toString, malformedTrack⟩

def readSubgroupHeader (bytes : Bytes) : Except ReadError (HeaderInfo × Bytes) := do
  let (header, bytes) ← (SubgroupHeader.deserialize bytes).mapError
    (asViolation "RecvDataStream::new(SubgroupHeader validation)" false)
  return (.subgroup header, bytes)

def readHeader (pendingFetches : UInt64 → Option GroupOrder) (bytes : Bytes) :
    Except ReadError (HeaderInfo × Bytes) :=
  if bytes.head? = some 0x05 then do
    let (header, bytes) ← (FetchHeader.deserialize bytes).mapError
      (asViolation "RecvDataStream::new(FetchHeader validation)" false)
    return (.fetch header (pendingFetches header.requestId), bytes)
  else readSubgroupHeader bytes

/-- Fails when the priority of a subgroup changes or a gap reaches back too far, which makes the
track a malformed one. -/
def takeFetchObject (s : RecvDataStream) (fetchObject : FetchObject) :
    Except ReadError RecvDataStream := do
  let s := { s with prevCtx := some (fetchObject.nextContext s.prevCtx) }
  match fetchObject with
  | .object payload =>
    let validated := do
      let subgroupPriorities ← s.subgroupPriorities.validate payload
      validatePriorGaps payload.groupId payload.objectId payload.properties
      return subgroupPriorities
    let subgroupPriorities ← validated.mapError
      (asViolation "RecvDataStream::next_object(parse_result)" true)
    let object ← (Object.tryFromFetch payload 0).mapError
      (asViolation "RecvDataStream::next_object(parse_result)" false)
    return { s with subgroupPriorities := subgroupPriorities, items := s.items ++ [.object object] }
  | .endOfRange kind location =>
    return { s with items := s.items ++ [.endOfRange kind location] }

/-- The first object names the subgroup where the header leaves that to it. -/
def takeSubgroupObject (s : RecvDataStream) (header : SubgroupHeader)
    (subgroupObject : SubgroupObject) : Except ReadError RecvDataStream := do
  let awaitingSubgroupId :=
    header.subgroupId.isNone && header.headerType.subgroupIdIsFirstObjectId
  let header :=
    if awaitingSubgroupId then { header with subgroupId := some subgroupObject.objectId } else header
  let object ← (Object.tryFromSubgroup subgroupObject header.trackAlias header.groupId
    header.subgroupId header.publisherPriority defaultPublisherPriority).mapError
      (asViolation "RecvDataStream::next_object(parse_result)" false)
  return { s with
    headerInfo := some (.subgroup header)
    previousObjectId := some subgroupObject.objectId
    items := s.items ++ [.object object] }

def readObject (s : RecvDataStream) (headerInfo : HeaderInfo) (bytes : Bytes) :
    Except ReadError (RecvDataStream × Bytes) :=
  match headerInfo with
  | .fetch _ fetchRequest => do
    let (fetchObject, bytes) ←
      (FetchObject.deserialize s.prevCtx (fetchGroupOrder fetchRequest) bytes).mapError
        (asViolation "RecvDataStream::next_object(parse_result)" false)
    let s ← s.takeFetchObject fetchObject
    return (s, bytes)
  | .subgroup header => do
    let (subgroupObject, bytes) ←
      (SubgroupObject.deserialize bytes s.previousObjectId header.headerType.hasProperties).mapError
        (asViolation "RecvDataStream::next_object(parse_result)" false)
    let s ← s.takeSubgroupObject header subgroupObject
    return (s, bytes)

/-- One turn of the parsing loops: the header first, then objects. -/
def parse (pendingFetches : UInt64 → Option GroupOrder) (s : RecvDataStream) (bytes : Bytes) :
    Except ReadError (RecvDataStream × Bytes) :=
  match s.headerInfo with
  | none => do
    let (headerInfo, bytes) ← readHeader pendingFetches bytes
    return ({ s with headerInfo := some headerInfo }, bytes)
  | some headerInfo => s.readObject headerInfo bytes


/-- A piece of the stream has been read. -/
def feed (pendingFetches : UInt64 → Option GroupOrder) (reader : RecvDataStream × Bytes)
    (piece : Bytes) : Except (RecvDataStream × ReadError) (RecvDataStream × Bytes) :=
  Lib.feed (·.error.isNotEnoughBytes) (parse pendingFetches) reader piece

/-- The loop of `read`, with the reads it makes. After the FIN the buffer is parsed once more, and
nothing may be left of it. -/
def readPieces (pendingFetches : UInt64 → Option GroupOrder) (pieces : List Bytes) :
    Except (RecvDataStream × ReadError) (RecvDataStream × Bytes) := do
  let reader ← pieces.foldlM (feed pendingFetches) (new, [])
  feed pendingFetches reader []

def read (pendingFetches : UInt64 → Option GroupOrder) (pieces : List Bytes) : ReadOutcome :=
  match readPieces pendingFetches pieces with
  | .ok (s, rest) =>
    ⟨s.headerInfo, s.items,
      if rest.isEmpty then .ok ()
      else .error (.other "RecvDataStream::read" s!"stream ended {rest.length} bytes into an Object"),
      false⟩
  | .error (s, e) => ⟨s.headerInfo, s.items, .error e.error, e.malformedTrack⟩

/-! Parsing does not depend on bytes to come. -/

/-- A parser of the read task that can be tried on a part of the stream. -/
abbrev Tried {α : Type} (dec : Decoder ReadError α) : Prop :=
  Progressive (·.error.isNotEnoughBytes) dec

theorem asViolation_isNotEnoughBytes (context : String) (malformedTrack : Bool) (e : ParseError) :
    (asViolation context malformedTrack e).error.isNotEnoughBytes = e.isNotEnoughBytes := by
  unfold asViolation
  split
  · rfl
  next h => exact (Bool.eq_false_iff.mpr h).symm

theorem tried_mapError {α : Type} {dec : Decoder ParseError α}
    (h : Progressive ParseError.isNotEnoughBytes dec) (context : String)
    (malformedTrack : Bool) :
    Tried fun bytes => (dec bytes).mapError (asViolation context malformedTrack) :=
  h.mapError (asViolation_isNotEnoughBytes context malformedTrack)

/-- The type of a FETCH_HEADER is one byte. -/
theorem readHeader_fetch (pendingFetches : UInt64 → Option GroupOrder) (rest : Bytes) :
    readHeader pendingFetches (0x05 :: rest) = do
      let (requestId, bytes) ← (getVi rest).mapError
        (asViolation "RecvDataStream::new(FetchHeader validation)" false)
      return (.fetch ⟨requestId⟩ (pendingFetches requestId), bytes) := by
  have hvi : afterVi (0x05 :: rest) = rest := by
    have htype : getVi (putVi 0x05 ++ rest) = .ok (0x05, rest) := getVi_putVi 0x05 rest
    have hput : putVi 0x05 = [0x05] := by decide
    rw [hput, List.singleton_append] at htype
    rw [afterVi, htype]
  unfold readHeader FetchHeader.deserialize
  rw [hvi]
  cases getVi rest <;> rfl

theorem readHeader_tried (pendingFetches : UInt64 → Option GroupOrder) :
    Tried (readHeader pendingFetches) := by
  have hfetch : Tried fun rest => readHeader pendingFetches (0x05 :: rest) := by
    simp only [readHeader_fetch]
    exact .bind (tried_mapError getVi_progressive _ _) fun requestId =>
      .ok (HeaderInfo.fetch ⟨requestId⟩ (pendingFetches requestId))
  have hsubgroup : Tried (readSubgroupHeader) :=
    .bind (tried_mapError SubgroupHeader.deserialize_progressive _ _) fun header => .ok _
  have hother : ∀ bytes : Bytes, bytes.head? ≠ some 0x05 →
      readHeader pendingFetches bytes = readSubgroupHeader bytes := fun bytes h => if_neg h
  have hempty : ∀ tail e, readHeader pendingFetches [] = .error e → e.error.isNotEnoughBytes = false →
      readHeader pendingFetches ([] ++ tail) = .error e := by
    intro tail e herror hshort
    cases herror
    cases hshort
  refine ⟨⟨?_, ?_, ?_⟩, ?_⟩
  · intro bytes headerInfo rest tail h
    cases bytes with
    | nil => cases h
    | cons b bytes =>
      by_cases hb : b = 0x05
      · subst hb
        exact hfetch.stable _ _ _ tail h
      · have hne : ∀ bytes : Bytes, (b :: bytes).head? ≠ some 0x05 := by simpa using hb
        rw [hother _ (hne _)] at h
        rw [List.cons_append, hother _ (hne _)]
        exact hsubgroup.stable _ _ _ tail h
  · intro bytes rest headerInfo h
    cases bytes with
    | nil => cases h
    | cons b bytes =>
      by_cases hb : b = 0x05
      · subst hb
        exact le_trans (hfetch.shrinks _ _ _ h) (Nat.le_succ _)
      · rw [hother _ (by simpa using hb)] at h
        exact hsubgroup.shrinks _ _ _ h
  · intro bytes tail e h hshort
    cases bytes with
    | nil => exact hempty tail e h hshort
    | cons b bytes =>
      by_cases hb : b = 0x05
      · subst hb
        exact hfetch.fails _ tail _ h hshort
      · have hne : ∀ bytes : Bytes, (b :: bytes).head? ≠ some 0x05 := by simpa using hb
        rw [hother _ (hne _)] at h
        rw [List.cons_append, hother _ (hne _)]
        exact hsubgroup.fails _ tail _ h hshort
  · intro bytes rest headerInfo h
    cases bytes with
    | nil => cases h
    | cons b bytes =>
      by_cases hb : b = 0x05
      · subst hb
        exact lt_trans (hfetch.takes _ _ _ h) (Nat.lt_succ_self _)
      · rw [hother _ (by simpa using hb)] at h
        exact hsubgroup.takes _ _ _ h

theorem readObject_tried (s : RecvDataStream) (headerInfo : HeaderInfo) :
    Tried (s.readObject headerInfo) := by
  cases headerInfo with
  | fetch header fetchRequest =>
    refine .bind (tried_mapError (FetchObject.deserialize_progressive _ _) _ _) fun fetchObject => ?_
    exact .bind_result fun s => .ok _
  | subgroup header =>
    refine .bind (tried_mapError (SubgroupObject.deserialize_progressive _ _) _ _) fun o => ?_
    exact .bind_result fun s => .ok _

theorem parse_tried (pendingFetches : UInt64 → Option GroupOrder) (s : RecvDataStream) :
    Tried (parse pendingFetches s) := by
  unfold parse
  cases s.headerInfo with
  | none => exact .bind (readHeader_tried pendingFetches) fun headerInfo => .ok _
  | some headerInfo => exact s.readObject_tried headerInfo

/-- However the stream is cut into reads, the read task comes to the header, the objects and the end
it comes to when the stream arrives at once. -/
theorem read_eq_read_flatten (pendingFetches : UInt64 → Option GroupOrder) (pieces : List Bytes) :
    read pendingFetches pieces = read pendingFetches [pieces.flatten] := by
  have hparse := parse_tried pendingFetches
  have hall : ∀ pieces : List Bytes,
      pieces.foldlM (feed pendingFetches) (new, []) = feed pendingFetches (new, []) pieces.flatten :=
    fun pieces => foldlM_feed hparse pieces (new, []) rfl
  unfold read readPieces
  rw [hall, hall, List.flatten_singleton]

end RecvDataStream

end Moqtail
