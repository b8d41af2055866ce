import Moqtail.Transport.FetchPriorities

/-! The read task in place, with each of its calls of `validate` noted.

`read_object` calls `validate` before it knows whether the Object will be kept, and a parse that
lacks bytes is tried again from the same place. The bytes of an Object are all there by the time it
is validated, and the task goes on behind it or not at all. -/
namespace Moqtail

open Lib

/-- A call of `validate`: the bytes of the stream before its Object, the Object, and the verdict. -/
structure Validation where
  offset : Nat
  payload : FetchObjectPayload
  verdict : Parse Unit

/-- `consumed` is what the buffer has been advanced by. -/
structure ReadTask where
  stream : RecvDataStream
  consumed : Nat
  validations : List Validation

namespace ReadTask

def new : ReadTask := ⟨.new, 0, []⟩

/-- What is done with an entry of a fetch stream. The priority is written whether or not the Object is
kept. -/
def takeFetchObject (t : ReadTask) (fetchObject : FetchObject) : ReadTask × Except ReadError Unit :=
  let newCtx := some (fetchObject.nextContext t.stream.prevCtx)
  match fetchObject with
  | .object payload =>
    let validated := t.stream.subgroupPriorities.validateInPlace payload
    let t := { t with
      stream := { t.stream with subgroupPriorities := validated.2 }
      validations := t.validations ++ [⟨t.consumed, payload, validated.1⟩] }
    let accepted := do
      validated.1
      validatePriorGaps payload.groupId payload.objectId payload.properties
    match accepted with
    | .error e =>
      (t, .error (RecvDataStream.asViolation "RecvDataStream::next_object(parse_result)" true e))
    | .ok () =>
      match Object.tryFromFetch payload 0 with
      | .error e =>
        (t, .error (RecvDataStream.asViolation "RecvDataStream::next_object(parse_result)" false e))
      | .ok object =>
        ({ t with
          stream := { t.stream with
            prevCtx := newCtx
            items := t.stream.items ++ [.object object] } }, .ok ())
  | .endOfRange kind location =>
    ({ t with
      stream := { t.stream with
        prevCtx := newCtx
        items := t.stream.items ++ [.endOfRange kind location] } }, .ok ())

/-- One turn of the parsing loops. -/
def parse (pendingFetches : UInt64 → Option GroupOrder) (t : ReadTask) (bytes : Bytes) :
    ReadTask × Except ReadError Bytes :=
  match t.stream.headerInfo with
  | none =>
    match counted (RecvDataStream.readHeader pendingFetches) bytes with
    | .error e => (t, .error e)
    | .ok ((headerInfo, n), bytes) =>
      ({ t with
        stream := { t.stream with headerInfo := some headerInfo }
        consumed := t.consumed + n }, .ok bytes)
  | some (.fetch _ fetchRequest) =>
    match counted (FetchObject.deserialize t.stream.prevCtx
      (RecvDataStream.fetchGroupOrder fetchRequest)) bytes with
    | .error e =>
      (t, .error (RecvDataStream.asViolation "RecvDataStream::next_object(parse_result)" false e))
    | .ok ((fetchObject, n), bytes) =>
      match t.takeFetchObject fetchObject with
      | (t, .error e) => (t, .error e)
      | (t, .ok ()) => ({ t with consumed := t.consumed + n }, .ok bytes)
  | some (.subgroup header) =>
    match counted (t.stream.readObject (.subgroup header)) bytes with
    | .error e => (t, .error e)
    | .ok ((stream, n), bytes) =>
      ({ t with stream := stream, consumed := t.consumed + n }, .ok bytes)

/-- A piece of the stream has been read. -/
def feed (pendingFetches : UInt64 → Option GroupOrder) (reader : ReadTask × Bytes) (piece : Bytes) :
    Except (ReadTask × ReadError) (ReadTask × Bytes) :=
  feedInPlace (·.error.isNotEnoughBytes) (parse pendingFetches) reader piece

/-- The loop of `read`. -/
def readPieces (pendingFetches : UInt64 → Option GroupOrder) (pieces : List Bytes) :
    Except (ReadTask × ReadError) (ReadTask × Bytes) := do
  let reader ← pieces.foldlM (feed pendingFetches) (new, [])
  feed pendingFetches reader []

/-- How the task ends, and which Objects it has validated. -/
def read (pendingFetches : UInt64 → Option GroupOrder) (pieces : List Bytes) :
    ReadOutcome × List Validation :=
  match readPieces pendingFetches pieces with
  | .ok (t, rest) =>
    (⟨t.stream.headerInfo, t.stream.items,
      if rest.isEmpty then .ok ()
      else .error (.other "RecvDataStream::read" s!"stream ended {rest.length} bytes into an Object"),
      false⟩, t.validations)
  | .error (t, e) =>
    (⟨t.stream.headerInfo, t.stream.items, .error e.error, e.malformedTrack⟩, t.validations)

end ReadTask

/-- The Objects among the items. -/
def DataStreamItem.objects (items : List DataStreamItem) : List Object :=
  items.filterMap fun
    | .object o => some o
    | .endOfRange _ _ => none

/-- Each Object is validated once, where it starts, and in the order of the stream. Those accepted
are the Objects that are handed on, and a refused one ends the reading. -/
structure ValidatesOnce (outcome : ReadOutcome) (validations : List Validation) : Prop where
  once : (validations.map Validation.offset).Pairwise (· < ·)
  verdicts : (∀ v ∈ validations, v.verdict = .ok ()) ↔
    ∀ run ∈ groupRuns (validations.map Validation.payload), SamePriorities run
  kept : ∃ accepted refused, validations = accepted ++ refused ∧ refused.length ≤ 1 ∧
    (outcome.result = .ok () → refused = []) ∧
    ∀ header request, outcome.headerInfo = some (.fetch header request) →
      accepted.map (fun v => Object.tryFromFetch v.payload 0) =
        (DataStreamItem.objects outcome.items).map .ok

namespace ReadTask

/-! What one turn can do. -/

/-- A turn fails as it began, reads without validating, or validates one Object at the place it has
come to. A refusal is final. -/
inductive Turn (pendingFetches : UInt64 → Option GroupOrder) (t : ReadTask) (bytes : Bytes) :
    ReadTask × Except ReadError Bytes → Prop where
  | fails {e : ReadError} (h : t.stream.parse pendingFetches bytes = .error e) :
    Turn pendingFetches t bytes (t, .error e)
  | header {headerInfo : HeaderInfo} {rest : Bytes} (hnone : t.stream.headerInfo = none)
    (h : t.stream.parse pendingFetches bytes =
      .ok ({ t.stream with headerInfo := some headerInfo }, rest)) :
    Turn pendingFetches t bytes
      ({ t with
        stream := { t.stream with headerInfo := some headerInfo }
        consumed := t.consumed + (bytes.length - rest.length) }, .ok rest)
  | subgroup {header header' : SubgroupHeader} {s : RecvDataStream} {rest : Bytes}
    (hheader : t.stream.headerInfo = some (.subgroup header))
    (h : t.stream.parse pendingFetches bytes = .ok (s, rest))
    (hheader' : s.headerInfo = some (.subgroup header'))
    (hpriorities : s.subgroupPriorities = t.stream.subgroupPriorities) :
    Turn pendingFetches t bytes
      ({ t with stream := s, consumed := t.consumed + (bytes.length - rest.length) }, .ok rest)
  | marker {header : FetchHeader} {request : Option GroupOrder} {ctx : Option FetchObjectContext}
    {kind : EndOfRangeKind} {location : Location} {rest : Bytes}
    (hheader : t.stream.headerInfo = some (.fetch header request))
    (h : t.stream.parse pendingFetches bytes =
      .ok ({ t.stream with
        prevCtx := ctx
        items := t.stream.items ++ [.endOfRange kind location] }, rest)) :
    Turn pendingFetches t bytes
      ({ t with
        stream := { t.stream with
          prevCtx := ctx
          items := t.stream.items ++ [.endOfRange kind location] }
        consumed := t.consumed + (bytes.length - rest.length) }, .ok rest)
  | accepts {header : FetchHeader} {request : Option GroupOrder} {ctx : Option FetchObjectContext}
    {payload : FetchObjectPayload} {object : Object} {rest : Bytes}
    (hheader : t.stream.headerInfo = some (.fetch header request))
    (hverdict : (t.stream.subgroupPriorities.validateInPlace payload).1 = .ok ())
    (hobject : Object.tryFromFetch payload 0 = .ok object)
    (h : t.stream.parse pendingFetches bytes =
      .ok ({ t.stream with
        prevCtx := ctx
        subgroupPriorities := (t.stream.subgroupPriorities.validateInPlace payload).2
        items := t.stream.items ++ [.object object] }, rest)) :
    Turn pendingFetches t bytes
      (⟨{ t.stream with
          prevCtx := ctx
          subgroupPriorities := (t.stream.subgroupPriorities.validateInPlace payload).2
          items := t.stream.items ++ [.object object] },
        t.consumed + (bytes.length - rest.length),
        t.validations ++ [⟨t.consumed, payload, .ok ()⟩]⟩, .ok rest)
  | refuses {header : FetchHeader} {request : Option GroupOrder} {payload : FetchObjectPayload}
    {e : ReadError} (hheader : t.stream.headerInfo = some (.fetch header request))
    (hlong : e.error.isNotEnoughBytes = false)
    (h : t.stream.parse pendingFetches bytes = .error e) :
    Turn pendingFetches t bytes
      (⟨{ t.stream with
          subgroupPriorities := (t.stream.subgroupPriorities.validateInPlace payload).2 },
        t.consumed,
        t.validations ++
          [⟨t.consumed, payload, (t.stream.subgroupPriorities.validateInPlace payload).1⟩]⟩,
        .error e)

theorem validateInPlace_long {s : FetchSubgroupPriorityState} {payload : FetchObjectPayload}
    {e : ParseError} (h : (s.validateInPlace payload).1 = .error e) : e.isNotEnoughBytes = false := by
  simp only [FetchSubgroupPriorityState.validateInPlace] at h
  split at h
  · cases h
  · split at h
    · split at h
      · cases h
        rfl
      · cases h
    · cases h

theorem forM_eq_error {ε α : Type} {f : α → Except ε Unit} {l : List α} {e : ε}
    (h : l.forM f = .error e) : ∃ a ∈ l, f a = .error e := by
  induction l with
  | nil => cases h
  | cons a l ih =>
    replace h : (f a >>= fun _ => l.forM f) = .error e := h
    cases ha : f a with
    | error e' =>
      rw [ha, except_error_bind] at h
      cases h
      exact ⟨a, List.mem_cons_self, ha⟩
    | ok u =>
      rw [ha, except_ok_bind] at h
      obtain ⟨b, hb, hfails⟩ := ih h
      exact ⟨b, List.mem_cons_of_mem a hb, hfails⟩

theorem validatePriorGaps_long {groupId objectId : UInt64} {properties : Option (List ObjectProperty)}
    {e : ParseError} (h : validatePriorGaps groupId objectId properties = .error e) :
    e.isNotEnoughBytes = false := by
  obtain ⟨property, -, hproperty⟩ := forM_eq_error h
  split at hproperty
  · split at hproperty
    · cases hproperty
      rfl
    · cases hproperty
  · cases hproperty

/-- An Object is taken as it is by the task that returns its state. A refusal has been noted too. -/
theorem takeFetchObject_object (t : ReadTask) (payload : FetchObjectPayload) :
    (∃ object, (t.stream.subgroupPriorities.validateInPlace payload).1 = .ok () ∧
      Object.tryFromFetch payload 0 = .ok object ∧
      ∃ s, s = { t.stream with
          prevCtx := some ((FetchObject.object payload).nextContext t.stream.prevCtx)
          subgroupPriorities := (t.stream.subgroupPriorities.validateInPlace payload).2
          items := t.stream.items ++ [.object object] } ∧
        t.stream.takeFetchObject (.object payload) = .ok s ∧
        t.takeFetchObject (.object payload) =
          (⟨s, t.consumed, t.validations ++ [⟨t.consumed, payload, .ok ()⟩]⟩, .ok ())) ∨
    ∃ e, e.error.isNotEnoughBytes = false ∧
      t.stream.takeFetchObject (.object payload) = .error e ∧
      t.takeFetchObject (.object payload) =
        (⟨{ t.stream with
            subgroupPriorities := (t.stream.subgroupPriorities.validateInPlace payload).2 },
          t.consumed,
          t.validations ++
            [⟨t.consumed, payload, (t.stream.subgroupPriorities.validateInPlace payload).1⟩]⟩,
          .error e) := by
  have hvalidate := t.stream.subgroupPriorities.validate_eq payload
  cases hverdict : (t.stream.subgroupPriorities.validateInPlace payload).1 with
  | error e =>
    refine .inr ⟨RecvDataStream.asViolation "RecvDataStream::next_object(parse_result)" true e,
      ?_, ?_, ?_⟩
    · rw [RecvDataStream.asViolation_isNotEnoughBytes]
      exact validateInPlace_long hverdict
    · rw [hverdict] at hvalidate
      simp only [RecvDataStream.takeFetchObject, hvalidate]
      rfl
    · simp only [takeFetchObject, hverdict]
      rfl
  | ok u =>
    rw [hverdict] at hvalidate
    cases hgaps : validatePriorGaps payload.groupId payload.objectId payload.properties with
    | error e =>
      refine .inr ⟨RecvDataStream.asViolation "RecvDataStream::next_object(parse_result)" true e,
        ?_, ?_, ?_⟩
      · rw [RecvDataStream.asViolation_isNotEnoughBytes]
        exact validatePriorGaps_long hgaps
      · simp only [RecvDataStream.takeFetchObject, hvalidate, hgaps]
        rfl
      · simp only [takeFetchObject, hverdict, hgaps]
        rfl
    | ok u =>
      refine .inl ⟨_, rfl, rfl, _, rfl, ?_, ?_⟩
      · simp only [RecvDataStream.takeFetchObject, hvalidate, hgaps]
        rfl
      · simp only [takeFetchObject, hverdict, hgaps]
        rfl

theorem parse_turn (pendingFetches : UInt64 → Option GroupOrder) (t : ReadTask) (bytes : Bytes) :
    Turn pendingFetches t bytes (parse pendingFetches t bytes) := by
  unfold parse
  split
  next hnone =>
    have hfollow : t.stream.parse pendingFetches bytes =
        RecvDataStream.readHeader pendingFetches bytes >>= fun p =>
          .ok ({ t.stream with headerInfo := some p.1 }, p.2) := by
      rw [RecvDataStream.parse, hnone]
      rfl
    cases hread : counted (RecvDataStream.readHeader pendingFetches) bytes with
    | error e =>
      apply Turn.fails
      rw [hfollow, counted_eq_error hread]
      rfl
    | ok p =>
      obtain ⟨⟨headerInfo, n⟩, rest⟩ := p
      obtain ⟨hheader, rfl⟩ := counted_eq_ok hread
      apply Turn.header hnone
      rw [hfollow, hheader]
      rfl
  next header request hheader =>
    have hfollow : t.stream.parse pendingFetches bytes =
        t.stream.readObject (.fetch header request) bytes := by
      rw [RecvDataStream.parse, hheader]
    cases hread : counted (FetchObject.deserialize t.stream.prevCtx
        (RecvDataStream.fetchGroupOrder request)) bytes with
    | error e =>
      apply Turn.fails
      rw [hfollow, RecvDataStream.readObject, counted_eq_error hread]
      rfl
    | ok p =>
      obtain ⟨⟨fetchObject, n⟩, rest⟩ := p
      obtain ⟨hobject, rfl⟩ := counted_eq_ok hread
      cases fetchObject with
      | endOfRange kind location =>
        apply Turn.marker hheader
        rw [hfollow, RecvDataStream.readObject, hobject]
        rfl
      | object payload =>
        obtain ⟨object, hverdict, hfrom, s, rfl, htake, hplace⟩ | ⟨e, hlong, htake, hplace⟩ :=
          takeFetchObject_object t payload
        · simp only [hplace]
          apply Turn.accepts hheader hverdict hfrom
          rw [hfollow, RecvDataStream.readObject, hobject]
          show (t.stream.takeFetchObject (.object payload) >>= _) = _
          rw [htake]
          rfl
        · simp only [hplace]
          apply Turn.refuses hheader hlong
          rw [hfollow, RecvDataStream.readObject, hobject]
          show (t.stream.takeFetchObject (.object payload) >>= _) = _
          rw [htake]
          rfl
  next header hheader =>
    have hfollow : t.stream.parse pendingFetches bytes =
        t.stream.readObject (.subgroup header) bytes := by
      rw [RecvDataStream.parse, hheader]
    cases hread : counted (t.stream.readObject (.subgroup header)) bytes with
    | error e =>
      apply Turn.fails
      rw [hfollow, counted_eq_error hread]
    | ok p =>
      obtain ⟨⟨s, n⟩, rest⟩ := p
      obtain ⟨hobject, rfl⟩ := counted_eq_ok hread
      obtain ⟨⟨subgroupObject, left⟩, -, hkept⟩ := except_bind_eq_ok.mp hobject
      obtain ⟨s', htake, hret⟩ := except_bind_eq_ok.mp hkept
      cases hret
      obtain ⟨object, -, hstate⟩ := except_bind_eq_ok.mp htake
      cases hstate
      exact Turn.subgroup hheader (hfollow.trans hobject) rfl rfl

/-- An attempt that lacks bytes has validated nothing. -/
theorem parse_restores (pendingFetches : UInt64 → Option GroupOrder) :
    Restores (·.error.isNotEnoughBytes) (parse pendingFetches) := by
  intro t bytes t' e hparse hshort
  have hturn := parse_turn pendingFetches t bytes
  rw [hparse] at hturn
  cases hturn with
  | fails h => rfl
  | refuses hheader hlong h => exact absurd hshort (Bool.eq_false_iff.mp hlong)

/-! Turns do not depend on bytes to come. -/

theorem parse_progressive (pendingFetches : UInt64 → Option GroupOrder) (t : ReadTask) :
    Progressive (fun failure => failure.2.error.isNotEnoughBytes)
      (parsedInPlace (parse pendingFetches) t) := by
  cases hheader : t.stream.headerInfo with
  | none =>
    have hparsed : parsedInPlace (parse pendingFetches) t = fun bytes =>
        (counted (RecvDataStream.readHeader pendingFetches) bytes).mapError (fun e => (t, e)) >>=
          fun p => .ok ({ t with
            stream := { t.stream with headerInfo := some p.1.1 }
            consumed := t.consumed + p.1.2 }, p.2) := by
      funext bytes
      simp only [parsedInPlace, parse, hheader]
      cases counted (RecvDataStream.readHeader pendingFetches) bytes <;> rfl
    rw [hparsed]
    apply Progressive.bind
    · exact (RecvDataStream.readHeader_tried pendingFetches).counted.mapError fun _ => rfl
    · intro p
      dsimp only
      exact .ok _
  | some headerInfo =>
    cases headerInfo with
    | fetch header request =>
      have hparsed : parsedInPlace (parse pendingFetches) t = fun bytes =>
          (counted (FetchObject.deserialize t.stream.prevCtx
            (RecvDataStream.fetchGroupOrder request)) bytes).mapError (fun e => (t,
              RecvDataStream.asViolation "RecvDataStream::next_object(parse_result)" false e)) >>=
            fun p => (match t.takeFetchObject p.1.1 with
              | (t, .error e) => .error (t, e)
              | (t, .ok ()) => .ok { t with consumed := t.consumed + p.1.2 }) >>=
                fun t => .ok (t, p.2) := by
        funext bytes
        simp only [parsedInPlace, parse, hheader]
        cases counted (FetchObject.deserialize t.stream.prevCtx
            (RecvDataStream.fetchGroupOrder request)) bytes with
        | error e => rfl
        | ok p =>
          simp only
          cases htake : t.takeFetchObject p.1.1 with
          | mk t' result =>
            simp only [Except.mapError, except_ok_bind, htake]
            cases result <;> rfl
      rw [hparsed]
      apply Progressive.bind
      · apply (FetchObject.deserialize_progressive _ _).counted.mapError
        exact RecvDataStream.asViolation_isNotEnoughBytes _ _
      · intro p
        dsimp only
        exact .bind_result fun _ => .ok _
    | subgroup header =>
      have hparsed : parsedInPlace (parse pendingFetches) t = fun bytes =>
          (counted (t.stream.readObject (.subgroup header)) bytes).mapError (fun e => (t, e)) >>=
            fun p => .ok ({ t with stream := p.1.1, consumed := t.consumed + p.1.2 }, p.2) := by
        funext bytes
        simp only [parsedInPlace, parse, hheader]
        cases counted (t.stream.readObject (.subgroup header)) bytes <;> rfl
      rw [hparsed]
      apply Progressive.bind
      · exact (t.stream.readObject_tried (.subgroup header)).counted.mapError fun _ => rfl
      · intro p
        dsimp only
        exact .ok _

/-- However the stream is cut into reads, the task in place comes to what it comes to when the
stream arrives at once. -/
theorem readPieces_eq_feed (pendingFetches : UInt64 → Option GroupOrder) (pieces : List Bytes) :
    readPieces pendingFetches pieces = feed pendingFetches (new, []) pieces.flatten := by
  have hfold : pieces.foldlM (feed pendingFetches) (new, []) =
      feed pendingFetches (new, []) pieces.flatten :=
    foldlM_feedInPlace (parse_restores pendingFetches) (parse_progressive pendingFetches) pieces new
  rw [readPieces, hfold]
  cases hfeed : feed pendingFetches (new, []) pieces.flatten with
  | error e => rfl
  | ok reader =>
    exact feedInPlace_nil (parse_restores pendingFetches) (parse_progressive pendingFetches) hfeed

/-! The task that returns its state is the one in place. -/

theorem recvReadPieces_eq_feed (pendingFetches : UInt64 → Option GroupOrder) (pieces : List Bytes) :
    RecvDataStream.readPieces pendingFetches pieces =
      RecvDataStream.feed pendingFetches (.new, []) pieces.flatten := by
  have hparse := RecvDataStream.parse_tried pendingFetches
  have hfold : pieces.foldlM (RecvDataStream.feed pendingFetches) (.new, []) =
      RecvDataStream.feed pendingFetches (.new, []) pieces.flatten :=
    foldlM_feed hparse pieces (.new, []) rfl
  rw [RecvDataStream.readPieces, hfold]
  cases hfeed : RecvDataStream.feed pendingFetches (.new, []) pieces.flatten with
  | error e => rfl
  | ok reader => exact feed_nil_of_feed hparse hfeed

/-- The same header and the same items. -/
def SameItems (t : ReadTask) (s : RecvDataStream) : Prop :=
  t.stream.headerInfo = s.headerInfo ∧ t.stream.items = s.items

theorem feed_follows (pendingFetches : UInt64 → Option GroupOrder) (bytes : Bytes) :
    Follows stream SameItems (feed pendingFetches (new, []) bytes)
      (RecvDataStream.feed pendingFetches (.new, []) bytes) := by
  apply drainInPlace_follows (parse_restores pendingFetches)
  · intro t bytes t' rest hparse
    have hturn := parse_turn pendingFetches t bytes
    rw [hparse] at hturn
    cases hturn <;> assumption
  · intro t bytes t' e hparse
    have hturn := parse_turn pendingFetches t bytes
    rw [hparse] at hturn
    cases hturn with
    | fails h => exact ⟨h, rfl, rfl⟩
    | refuses hheader hlong h => exact ⟨h, rfl, rfl⟩

theorem read_outcome (pendingFetches : UInt64 → Option GroupOrder) (pieces : List Bytes) :
    (read pendingFetches pieces).1 = RecvDataStream.read pendingFetches pieces := by
  have hfollows := feed_follows pendingFetches pieces.flatten
  unfold read RecvDataStream.read
  rw [readPieces_eq_feed, recvReadPieces_eq_feed]
  cases hfeed : feed pendingFetches (new, []) pieces.flatten with
  | ok reader =>
    rw [hfeed] at hfollows
    rw [hfollows]
  | error failure =>
    rw [hfeed] at hfollows
    obtain ⟨s, hfails, hheader, hitems⟩ := hfollows
    rw [hfails]
    simp only [hheader, hitems]

/-! What the validations come to. -/

/-- The validations are those of the Objects before the place `consumed`, all of them kept. -/
structure Running (t : ReadTask) : Prop where
  ascending : (t.validations.map Validation.offset).Pairwise (· < ·)
  behind : ∀ v ∈ t.validations, v.offset < t.consumed
  verdicts : t.validations.map Validation.verdict =
    FetchSubgroupPriorityState.initial.validateAll (t.validations.map Validation.payload)
  priorities : t.stream.subgroupPriorities =
    FetchSubgroupPriorityState.initial.afterAll (t.validations.map Validation.payload)
  begins : t.stream.headerInfo = none → t.stream.items = [] ∧ t.validations = []
  kept : ∀ header request, t.stream.headerInfo = some (.fetch header request) →
    t.validations.map (fun v => Object.tryFromFetch v.payload 0) =
      (DataStreamItem.objects t.stream.items).map .ok

/-- The task has failed, in a turn from a state that it ran in. -/
def Failed (t : ReadTask) : Prop :=
  ∃ before : ReadTask, before.Running ∧ SameItems t before.stream ∧
    (t.validations = before.validations ∨ ∃ payload, t.validations = before.validations ++
      [⟨before.consumed, payload, (before.stream.subgroupPriorities.validateInPlace payload).1⟩])

theorem new_running : new.Running where
  ascending := List.Pairwise.nil
  behind := nofun
  verdicts := rfl
  priorities := rfl
  begins _ := ⟨rfl, rfl⟩
  kept := nofun

/-- One more validation at the place the task has come to. -/
theorem Running.ascending_append {t : ReadTask} (h : t.Running) (payload : FetchObjectPayload)
    (verdict : Parse Unit) :
    ((t.validations ++ [Validation.mk t.consumed payload verdict]).map Validation.offset).Pairwise
      (· < ·) := by
  rw [List.map_append, List.pairwise_append]
  refine ⟨h.ascending, List.pairwise_singleton _ _, ?_⟩
  intro offset hoffset place hplace
  obtain ⟨v, hv, rfl⟩ := List.mem_map.mp hoffset
  rw [List.mem_singleton.mp hplace]
  exact h.behind v hv

theorem Running.verdicts_append {t : ReadTask} (h : t.Running) (payload : FetchObjectPayload) :
    (t.validations ++ [Validation.mk t.consumed payload
        (t.stream.subgroupPriorities.validateInPlace payload).1]).map Validation.verdict =
      FetchSubgroupPriorityState.initial.validateAll
        (t.validations.map Validation.payload ++ [payload]) := by
  rw [FetchSubgroupPriorityState.validateAll_append, ← h.priorities, ← h.verdicts, List.map_append]
  rfl

theorem objects_append_object (items : List DataStreamItem) (object : Object) :
    DataStreamItem.objects (items ++ [.object object]) =
      DataStreamItem.objects items ++ [object] := by
  simp only [DataStreamItem.objects, List.filterMap_append, List.filterMap_cons, List.filterMap_nil]

theorem objects_append_marker (items : List DataStreamItem) (kind : EndOfRangeKind)
    (location : Location) :
    DataStreamItem.objects (items ++ [.endOfRange kind location]) =
      DataStreamItem.objects items := by
  simp only [DataStreamItem.objects, List.filterMap_append, List.filterMap_cons, List.filterMap_nil,
    List.append_nil]

theorem running_step (pendingFetches : UInt64 → Option GroupOrder) (t : ReadTask) (bytes : Bytes)
    (t' : ReadTask) (rest : Bytes) (hrunning : t.Running)
    (hparse : parse pendingFetches t bytes = (t', .ok rest)) : t'.Running := by
  have htakes := (RecvDataStream.parse_tried pendingFetches t.stream).takes
  have hturn := parse_turn pendingFetches t bytes
  rw [hparse] at hturn
  cases hturn with
  | header hnone h =>
    obtain ⟨hitems, hvalidations⟩ := hrunning.begins hnone
    refine ⟨hrunning.ascending, ?_, hrunning.verdicts, hrunning.priorities, nofun, ?_⟩
    · intro v hv
      exact Nat.lt_add_right _ (hrunning.behind v hv)
    · intro header request _
      rw [hvalidations, hitems]
      rfl
  | subgroup hheader h hheader' hpriorities =>
    refine ⟨hrunning.ascending, ?_, hrunning.verdicts, ?_, ?_, ?_⟩
    · intro v hv
      exact Nat.lt_add_right _ (hrunning.behind v hv)
    · rw [← hrunning.priorities]
      exact hpriorities
    · intro hnone
      rw [hheader'] at hnone
      cases hnone
    · intro header request hfetch
      rw [hheader'] at hfetch
      cases hfetch
  | marker hheader h =>
    refine ⟨hrunning.ascending, ?_, hrunning.verdicts, hrunning.priorities, ?_, ?_⟩
    · intro v hv
      exact Nat.lt_add_right _ (hrunning.behind v hv)
    · intro hnone
      rw [show t.stream.headerInfo = none from hnone] at hheader
      cases hheader
    · intro header request hfetch
      rw [objects_append_marker]
      exact hrunning.kept header request hfetch
  | @accepts _ _ ctx payload object _ hheader hverdict hobject h =>
    have hplace : t.consumed < t.consumed + (bytes.length - rest.length) := by
      have := htakes _ _ _ h
      omega
    have hverdicts := hrunning.verdicts_append payload
    rw [hverdict] at hverdicts
    refine ⟨hrunning.ascending_append payload (.ok ()), ?_, ?_, ?_, ?_, ?_⟩
    · intro v hv
      obtain hv | hv := List.mem_append.mp hv
      · exact lt_trans (hrunning.behind v hv) hplace
      · rw [List.mem_singleton.mp hv]
        exact hplace
    · rw [List.map_append (f := Validation.payload)]
      exact hverdicts
    · rw [List.map_append, List.map_singleton, FetchSubgroupPriorityState.afterAll_append,
        ← hrunning.priorities]
    · intro hnone
      rw [show t.stream.headerInfo = none from hnone] at hheader
      cases hheader
    · intro header request hfetch
      rw [objects_append_object, List.map_append, List.map_append,
        hrunning.kept header request hfetch, List.map_singleton, List.map_singleton, hobject]

theorem failed_step (pendingFetches : UInt64 → Option GroupOrder) (t : ReadTask) (bytes : Bytes)
    (t' : ReadTask) (e : ReadError) (hrunning : t.Running)
    (hparse : parse pendingFetches t bytes = (t', .error e)) : t'.Failed := by
  have hturn := parse_turn pendingFetches t bytes
  rw [hparse] at hturn
  cases hturn with
  | fails h => exact ⟨t, hrunning, ⟨rfl, rfl⟩, .inl rfl⟩
  | @refuses _ _ payload _ hheader hlong h =>
    exact ⟨t, hrunning, ⟨rfl, rfl⟩, .inr ⟨payload, rfl⟩⟩

/-- All of the stream has been read, or what there is of it before the failure. -/
theorem feed_ends (pendingFetches : UInt64 → Option GroupOrder) (bytes : Bytes) :
    Ends Running (fun t _ => t.Failed) (feed pendingFetches (new, []) bytes) :=
  drainInPlace_ends (parse_restores pendingFetches) (running_step pendingFetches)
    (fun t bytes t' e hrunning hparse _ => failed_step pendingFetches t bytes t' e hrunning hparse)
    _ new ([] ++ bytes) new_running

theorem verdicts_iff {validations : List Validation}
    (h : validations.map Validation.verdict = FetchSubgroupPriorityState.initial.validateAll
      (validations.map Validation.payload)) :
    (∀ v ∈ validations, v.verdict = .ok ()) ↔
      ∀ run ∈ groupRuns (validations.map Validation.payload), SamePriorities run := by
  rw [← FetchSubgroupPriorityState.accepts_iff, FetchSubgroupPriorityState.Accepts, ← h,
    List.forall_mem_map]

theorem Running.validatesOnce {t : ReadTask} (h : t.Running) (result : Except ParseError Unit)
    (malformedTrack : Bool) :
    ValidatesOnce ⟨t.stream.headerInfo, t.stream.items, result, malformedTrack⟩ t.validations where
  once := h.ascending
  verdicts := verdicts_iff h.verdicts
  kept := ⟨t.validations, [], (List.append_nil _).symm, Nat.zero_le 1, fun _ => rfl, h.kept⟩

theorem Failed.validatesOnce {t : ReadTask} (h : t.Failed) (e : ReadError) :
    ValidatesOnce ⟨t.stream.headerInfo, t.stream.items, .error e.error, e.malformedTrack⟩
      t.validations := by
  obtain ⟨before, hrunning, ⟨hheader, hitems⟩, hsame | ⟨payload, hone⟩⟩ := h
  · rw [hsame, hheader, hitems]
    exact hrunning.validatesOnce _ _
  · rw [hone, hheader, hitems]
    refine ⟨hrunning.ascending_append payload _, verdicts_iff ?_, before.validations, _, rfl,
      le_rfl, nofun, hrunning.kept⟩
    rw [hrunning.verdicts_append, List.map_append]
    rfl

theorem read_validatesOnce (pendingFetches : UInt64 → Option GroupOrder) (pieces : List Bytes) :
    ValidatesOnce (read pendingFetches pieces).1 (read pendingFetches pieces).2 := by
  have hends := feed_ends pendingFetches pieces.flatten
  unfold read
  rw [readPieces_eq_feed]
  cases hfeed : feed pendingFetches (new, []) pieces.flatten with
  | ok reader =>
    rw [hfeed] at hends
    exact Running.validatesOnce hends _ _
  | error failure =>
    rw [hfeed] at hends
    exact Failed.validatesOnce hends _

theorem read_flatten (pendingFetches : UInt64 → Option GroupOrder) (pieces : List Bytes) :
    read pendingFetches pieces = read pendingFetches [pieces.flatten] := by
  unfold read
  rw [readPieces_eq_feed, readPieces_eq_feed, List.flatten_singleton]

/-- The Objects of a fetch stream are all accepted just if no subgroup changes its priority within a
run of one group. In whatever pieces a stream arrives, the read task puts each of its Objects to that
test once. -/
theorem fetch_priorities_validated :
    (∀ objects : List FetchObjectPayload,
      (∀ verdict ∈ FetchSubgroupPriorityState.validateAll ⟨none, []⟩ objects, verdict = .ok ()) ↔
        ∀ run ∈ groupRuns objects, SamePriorities run) ∧
    ∀ (pendingFetches : UInt64 → Option GroupOrder) (pieces : List Bytes),
      ValidatesOnce (read pendingFetches pieces).1 (read pendingFetches pieces).2 ∧
        (read pendingFetches pieces).1 = RecvDataStream.read pendingFetches pieces ∧
        read pendingFetches pieces = read pendingFetches [pieces.flatten] := by
  refine ⟨FetchSubgroupPriorityState.accepts_iff, fun pendingFetches pieces => ?_⟩
  exact ⟨read_validatesOnce pendingFetches pieces, read_outcome pendingFetches pieces,
    read_flatten pendingFetches pieces⟩

end ReadTask

end Moqtail
