import Moqtail.Wire.ControlRoundTrip

/-! What the decoding of control messages reserves.

`deserialize_message_parameters` and `deserialize_kvp_list` call `Vec::with_capacity` with a count
that the peer has chosen, before they have seen any element. Here the decoders note each such call.
Where a length is read, it is compared with the bytes that are left before any are taken; and the
lists of namespace fields and of the parameters in FILL_PARAMETERS grow as their elements are
read. -/
namespace Moqtail.Message

open Lib

/-- A call of `Vec::with_capacity`: for how many elements, and how many bytes are left to be read
then. -/
structure Reservation where
  capacity : Nat
  remaining : Nat
deriving Repr, DecidableEq

/-- What runs with its reservations noted. -/
abbrev Noted := ExceptT Failure (StateM (List Reservation))

namespace Noted

/-- `Vec::with_capacity`. -/
def reserve (alloc : Allocator) (capacity : Nat) (bytes : Bytes) : Noted Unit := do
  modify (· ++ [⟨capacity, bytes.length⟩])
  if capacity > alloc.reservable then
    throw .panic

def deserializeMessageParameters (alloc : Allocator) (bytes : Bytes) (count : UInt64)
    (msgType : ControlMessageType) : Noted (List MessageParameter × Bytes) := do
  reserve alloc count.toNat bytes
  (decodeTimes (readMessageParameter msgType) count.toNat 0 bytes : Parse _)

def deserializeKvp (prevType : UInt64) (bytes : Bytes) : Parse ((UInt64 × KeyValuePair) × Bytes) := do
  let (kvp, bytes) ← KeyValuePair.deserializeDelta bytes prevType
  return ((kvp.getType, kvp), bytes)

/-- No decoder of a control message calls it. -/
def deserializeKvpList (alloc : Allocator) (bytes : Bytes) (count : UInt64) :
    Noted (List KeyValuePair × Bytes) := do
  reserve alloc count.toNat bytes
  (decodeTimes deserializeKvp count.toNat 0 bytes : Parse _)

def getParameters (alloc : Allocator) (msgType : ControlMessageType) (payload : Bytes) :
    Noted (List MessageParameter × Bytes) := do
  let (count, payload) ← getVi payload
  deserializeMessageParameters alloc payload count msgType

def getAnswer (alloc : Allocator) (msgType : ControlMessageType) (payload : Bytes) :
    Noted ((List MessageParameter × List TrackProperty) × Bytes) := do
  let (params, payload) ← getParameters alloc msgType payload
  let properties ← deserializeTrackProperties payload
  return ((params, properties), [])

def getNamespaceRequest (alloc : Allocator) (msgType : ControlMessageType) (payload : Bytes) :
    Noted ((UInt64 × Tuple × List MessageParameter) × Bytes) := do
  let (requestId, payload) ← getVi payload
  let (trackNamespace, payload) ← Tuple.deserialize payload
  let (params, payload) ← getParameters alloc msgType payload
  return ((requestId, trackNamespace, params), payload)

def getTrackRequest (nameContext : String) (alloc : Allocator) (msgType : ControlMessageType)
    (payload : Bytes) :
    Noted ((UInt64 × Tuple × TupleField × List MessageParameter) × Bytes) := do
  let (requestId, payload) ← getVi payload
  let (trackNamespace, payload) ← Tuple.deserialize payload
  let (trackName, payload) ← getLengthPrefixed nameContext payload
  let (params, payload) ← getParameters alloc msgType payload
  return ((requestId, trackNamespace, trackName, params), payload)

def parsePayload (alloc : Allocator) (msgType : ControlMessageType) (payload : Bytes) :
    Noted (ControlMessage × Bytes) := do
  match msgType with
  | .publishNamespace =>
    let ((requestId, trackNamespace, parameters), payload) ←
      getNamespaceRequest alloc .publishNamespace payload
    return (.publishNamespace ⟨requestId, trackNamespace, parameters⟩, payload)
  | .subscribeNamespace =>
    let ((requestId, trackNamespacePrefix, parameters), payload) ←
      getNamespaceRequest alloc .subscribeNamespace payload
    return (.subscribeNamespace ⟨requestId, trackNamespacePrefix, parameters⟩, payload)
  | .subscribeTracks =>
    let ((requestId, trackNamespacePrefix, parameters), payload) ←
      getNamespaceRequest alloc .subscribeTracks payload
    return (.subscribeTracks ⟨requestId, trackNamespacePrefix, parameters⟩, payload)
  | .subscribe =>
    let ((requestId, trackNamespace, trackName, subscribeParameters), payload) ←
      getTrackRequest "Subscribe::parse_payload(track_name)" alloc .subscribe payload
    return (.subscribe ⟨requestId, trackNamespace, trackName, subscribeParameters⟩, payload)
  | .fetch =>
    let ((requestId, trackNamespace, trackName, parameters), payload) ←
      getTrackRequest "Fetch::parse_payload(track_name)" alloc .fetch payload
    return (.fetch ⟨requestId, trackNamespace, trackName, parameters⟩, payload)
  | .trackStatus =>
    let ((requestId, trackNamespace, trackName, subscribeParameters), payload) ←
      getTrackRequest "TrackStatus::parse_payload(track_name)" alloc .trackStatus payload
    return (.trackStatus ⟨requestId, trackNamespace, trackName, subscribeParameters⟩, payload)
  | .requestUpdate =>
    let (requestId, payload) ← getVi payload
    let (parameters, payload) ← getParameters alloc .requestUpdate payload
    return (.requestUpdate ⟨requestId, parameters⟩, payload)
  | .requestOk | .publishOk =>
    let ((parameters, trackProperties), payload) ← getAnswer alloc .requestOk payload
    return (.requestOk ⟨parameters, trackProperties⟩, payload)
  | .subscribeOk =>
    let (trackAlias, payload) ← getVi payload
    let ((subscribeParameters, trackProperties), payload) ← getAnswer alloc .subscribeOk payload
    return (.subscribeOk ⟨trackAlias, subscribeParameters, trackProperties⟩, payload)
  | .fetchOk =>
    let (endOfTrack, payload) ← getEndOfTrack payload
    let (endLocation, payload) ← Location.deserialize payload
    let ((subscribeParameters, trackProperties), payload) ← getAnswer alloc .fetchOk payload
    return (.fetchOk ⟨endOfTrack, endLocation, subscribeParameters, trackProperties⟩, payload)
  | .publish =>
    let (requestId, payload) ← getVi payload
    let (trackNamespace, payload) ← Tuple.deserialize payload
    let (trackName, payload) ← getLengthPrefixed "Publish::parse_payload(track_name)" payload
    let (trackAlias, payload) ← getVi payload
    let ((parameters, trackProperties), payload) ← getAnswer alloc .publish payload
    return (.publish ⟨requestId, trackNamespace, trackName, trackAlias, parameters,
      trackProperties⟩, payload)
  -- the messages without parameters
  | .namespace | .namespaceDone | .requestError | .publishDone | .setup | .goAway
  | .publishSkipped => ControlMessage.parsePayload alloc msgType payload

def deserialize (alloc : Allocator) (bytes : Bytes) : Noted (ControlMessage × Bytes) := do
  let ((msgType, payload), bytes) ← ControlMessage.getFrame bytes
  let (message, payload) ← ExceptT.adapt ControlMessage.violation (parsePayload alloc msgType payload)
  if ¬ payload.isEmpty then
    throw (.parse (.protocolViolation "ControlMessage::deserialize(final_check)"
      s!"Extra {payload.length} bytes remaining in payload after parsing"))
  return (message, bytes)

/-- What a run returns. -/
def result {α : Type} (run : Noted α) : Except Failure α := (run.run.run []).1

/-- The reservations of a run. -/
def reservations {α : Type} (run : Noted α) : List Reservation := (run.run.run []).2

/-- Each reservation of a run is for no more elements than there are bytes left to be read. -/
def Bounded {α : Type} (run : Noted α) : Prop :=
  ∀ r ∈ reservations run, r.capacity ≤ r.remaining

/-- Whatever the allocator, the decoding of a control message returns, and its reservations are
bounded. -/
structure Contained (bytes : Bytes) : Prop where
  returns : ∀ alloc, ControlMessage.deserialize alloc bytes ≠ .error .panic
  bounded : ∀ alloc, Bounded (deserialize alloc bytes)

/-! Runs. -/

section Runs

variable {α β : Type} {alloc : Allocator}

/-- A run comes to a result, notes its reservations, and panics over none but them. -/
structure Runs (alloc : Allocator) (run : Noted α) (result : Except Failure α)
    (notes : List Reservation) : Prop where
  comes : ∀ before, run.run.run before = (result, before ++ notes)
  panics : result = .error .panic ↔ ∃ r ∈ notes, alloc.reservable < r.capacity

theorem Runs.pure (a : α) : Runs alloc (pure a) (.ok a) [] where
  comes before := by
    rw [List.append_nil]
    rfl
  panics := by simp

theorem Runs.parse (x : Parse α) : Runs alloc (liftM x) (liftM x) [] where
  comes before := by
    rw [List.append_nil]
    cases x <;> rfl
  panics := by cases x <;> simp [liftM, monadLift, MonadLift.monadLift, Except.mapError]

theorem Runs.reserve (capacity : Nat) (bytes : Bytes) :
    Runs alloc (reserve alloc capacity bytes)
      (if capacity > alloc.reservable then .error .panic else .ok ()) [⟨capacity, bytes.length⟩] where
  comes before := by
    unfold Noted.reserve
    split <;> rfl
  panics := by
    simp only [List.mem_singleton, exists_eq_left]
    split
    next h => exact iff_of_true rfl h
    next h => exact iff_of_false nofun h

theorem run_bind_of_ok {x : Noted α} {before after : List Reservation} {a : α}
    (h : x.run.run before = (.ok a, after)) (f : α → Noted β) :
    (x >>= f).run.run before = (f a).run.run after := by
  rw [ExceptT.run_bind, StateT.run_bind, h]
  rfl

theorem run_bind_of_error {x : Noted α} {before after : List Reservation} {e : Failure}
    (h : x.run.run before = (.error e, after)) (f : α → Noted β) :
    (x >>= f).run.run before = (.error e, after) := by
  rw [ExceptT.run_bind, StateT.run_bind, h]
  rfl

/-- One step after the other, where only the later ones reserve. -/
theorem Runs.bind_right {x : Noted α} {r : Except Failure α} {f : α → Noted β}
    {g : α → Except Failure β} {notes : α → List Reservation} (h : Runs alloc x r [])
    (hnext : ∀ a, Runs alloc (f a) (g a) (notes a)) :
    Runs alloc (x >>= f) (r >>= g) (r.toOption.elim [] notes) := by
  cases r with
  | error e =>
    refine ⟨fun before => ?_, ?_⟩
    · exact run_bind_of_error (h.comes before) f
    · simpa only [except_error_bind, Except.error.injEq, Except.toOption, Option.elim_none] using
        h.panics
  | ok a =>
    refine ⟨fun before => ?_, ?_⟩
    · rw [run_bind_of_ok (h.comes before) f, List.append_nil]
      exact (hnext a).comes before
    · exact (hnext a).panics

/-- One step after the other, where only the first reserves. -/
theorem Runs.bind_left {x : Noted α} {r : Except Failure α} {f : α → Noted β}
    {g : α → Except Failure β} {notes : List Reservation} (h : Runs alloc x r notes)
    (hnext : ∀ a, Runs alloc (f a) (g a) []) : Runs alloc (x >>= f) (r >>= g) notes := by
  cases r with
  | error e =>
    refine ⟨fun before => ?_, ?_⟩
    · exact run_bind_of_error (h.comes before) f
    · simpa only [except_error_bind, Except.error.injEq] using h.panics
  | ok a =>
    refine ⟨fun before => ?_, ?_⟩
    · rw [run_bind_of_ok (h.comes before) f, (hnext a).comes, List.append_nil]
      rfl
    · have hnone : ¬ ∃ r ∈ notes, alloc.reservable < r.capacity := h.panics.not.mp nofun
      exact iff_of_false ((hnext a).panics.not.mpr (by simp)) hnone

theorem Runs.adapt {x : Noted α} {r : Except Failure α} {notes : List Reservation}
    (h : Runs alloc x r notes) {g : Failure → Failure} (hg : ∀ e, g e = .panic ↔ e = .panic) :
    Runs alloc (ExceptT.adapt g x) (r.mapError g) notes where
  comes before := by
    show (Except.mapError g <$> x.run).run before = _
    rw [StateT.run_map, h.comes]
    rfl
  panics := by
    cases r with
    | error e => simpa only [Except.mapError, Except.error.injEq, hg] using h.panics
    | ok a => exact iff_of_false nofun (h.panics.not.mp nofun)

theorem Runs.of_eq {run : Noted α} {result result' : Except Failure α}
    {notes notes' : List Reservation} (h : Runs alloc run result notes) (hresult : result = result')
    (hnotes : notes = notes') : Runs alloc run result' notes' := by
  subst hresult hnotes
  exact h

theorem Runs.throw {e : Failure} (he : e ≠ .panic) : Runs alloc (throw e : Noted α) (.error e) [] where
  comes before := by
    rw [List.append_nil]
    rfl
  panics := by simpa using he

/-- Steps that the result groups the other way. -/
theorem Runs.assoc {γ : Type} {run : Noted β} {r : Except Failure α} {f : α → Except Failure γ}
    {g : γ → Except Failure β} {notes : List Reservation}
    (h : Runs alloc run (r >>= fun a => f a >>= g) notes) : Runs alloc run ((r >>= f) >>= g) notes :=
  h.of_eq (bind_assoc r f g).symm rfl

end Runs

/-! What there is to reserve. -/

/-- The note of a list that is announced with a count and followed by some bytes. -/
def noteOf (announced : Option (UInt64 × Bytes)) : List Reservation :=
  announced.toList.map fun (count, left) => ⟨count.toNat, left.length⟩

/-- The number of the parameters after a Request ID and a namespace, and what follows it. -/
def namespaceRequestCount (payload : Bytes) : Parse (UInt64 × Bytes) := do
  let (_, payload) ← getVi payload
  let (_, payload) ← Tuple.deserialize payload
  getVi payload

/-- The number of the parameters after a Request ID and the name of a track. -/
def trackRequestCount (nameContext : String) (payload : Bytes) : Parse (UInt64 × Bytes) := do
  let (_, payload) ← getVi payload
  let (_, payload) ← Tuple.deserialize payload
  let (_, payload) ← getLengthPrefixed nameContext payload
  getVi payload

/-- The number of parameters that a payload announces and the bytes after it, if the fields before
it can be read. -/
def parameterCount (msgType : ControlMessageType) (payload : Bytes) : Option (UInt64 × Bytes) :=
  match msgType with
  | .publishNamespace | .subscribeNamespace | .subscribeTracks =>
    (namespaceRequestCount payload).toOption
  | .subscribe => (trackRequestCount "Subscribe::parse_payload(track_name)" payload).toOption
  | .fetch => (trackRequestCount "Fetch::parse_payload(track_name)" payload).toOption
  | .trackStatus => (trackRequestCount "TrackStatus::parse_payload(track_name)" payload).toOption
  | .requestOk | .publishOk => (getVi payload).toOption
  | .requestUpdate | .subscribeOk => (do
      let (_, payload) ← getVi payload
      getVi payload : Parse _).toOption
  | .fetchOk => (do
      let (_, payload) ← getEndOfTrack payload
      let (_, payload) ← Location.deserialize payload
      getVi payload : Parse _).toOption
  | .publish => (do
      let (_, payload) ← getVi payload
      let (_, payload) ← Tuple.deserialize payload
      let (_, payload) ← getLengthPrefixed "Publish::parse_payload(track_name)" payload
      let (_, payload) ← getVi payload
      getVi payload : Parse _).toOption
  | .namespace | .namespaceDone | .requestError | .publishDone | .setup | .goAway
  | .publishSkipped => none

/-- The number of parameters that a frame announces and the bytes of its payload after it. -/
def announcedParameters (bytes : Bytes) : Option (UInt64 × Bytes) :=
  (ControlMessage.getFrame bytes).toOption.bind fun ((msgType, payload), _) =>
    parameterCount msgType payload

section Payloads

variable {α β : Type} {alloc : Allocator}

/-- Past a field that reserves nothing. -/
theorem Runs.field {x : Parse α} {f : α → Noted β} {g : α → Except Failure β}
    {h : α → Parse (UInt64 × Bytes)}
    (hnext : ∀ a, Runs alloc (f a) (g a) (noteOf (h a).toOption)) :
    Runs alloc (liftM x >>= f) (liftM x >>= g) (noteOf (x >>= h).toOption) := by
  apply ((Runs.parse x).bind_right hnext).of_eq rfl
  cases x <;> rfl

theorem deserializeMessageParameters_runs (bytes : Bytes) (count : UInt64)
    (msgType : ControlMessageType) :
    Runs alloc (deserializeMessageParameters alloc bytes count msgType)
      (Message.deserializeMessageParameters alloc bytes count msgType)
      [⟨count.toNat, bytes.length⟩] := by
  apply ((Runs.reserve count.toNat bytes).bind_left fun _ => Runs.parse _).of_eq ?_ rfl
  unfold Message.deserializeMessageParameters
  split <;> rfl

theorem getParameters_runs (msgType : ControlMessageType) (payload : Bytes) :
    Runs alloc (getParameters alloc msgType payload) (Message.getParameters alloc msgType payload)
      (noteOf (getVi payload).toOption) := by
  apply ((Runs.parse (getVi payload)).bind_right
    fun p => deserializeMessageParameters_runs p.2 p.1 msgType).of_eq rfl
  cases getVi payload <;> rfl

theorem getAnswer_runs (msgType : ControlMessageType) (payload : Bytes) :
    Runs alloc (getAnswer alloc msgType payload) (Message.getAnswer alloc msgType payload)
      (noteOf (getVi payload).toOption) := by
  apply (getParameters_runs msgType payload).bind_left
  rintro ⟨params, left⟩
  exact (Runs.parse (deserializeTrackProperties left)).bind_left fun properties => Runs.pure _

theorem getNamespaceRequest_runs (msgType : ControlMessageType) (payload : Bytes) :
    Runs alloc (getNamespaceRequest alloc msgType payload)
      (Message.getNamespaceRequest alloc msgType payload)
      (noteOf (namespaceRequestCount payload).toOption) := by
  apply Runs.field
  rintro ⟨requestId, payload⟩
  apply Runs.field
  rintro ⟨trackNamespace, payload⟩
  exact (getParameters_runs msgType payload).bind_left fun _ => Runs.pure _

theorem getTrackRequest_runs (nameContext : String) (msgType : ControlMessageType)
    (payload : Bytes) :
    Runs alloc (getTrackRequest nameContext alloc msgType payload)
      (Message.getTrackRequest nameContext alloc msgType payload)
      (noteOf (trackRequestCount nameContext payload).toOption) := by
  apply Runs.field
  rintro ⟨requestId, payload⟩
  apply Runs.field
  rintro ⟨trackNamespace, payload⟩
  apply Runs.field
  rintro ⟨trackName, payload⟩
  exact (getParameters_runs msgType payload).bind_left fun _ => Runs.pure _

/-- A message without parameters reserves nothing. -/
theorem Runs.plain {x : Parse α} {f : α → Except Failure β} (hf : ∀ a, ∃ b, f a = .ok b) :
    Runs alloc (liftM (liftM x >>= f)) (liftM x >>= f) [] where
  comes before := by
    rw [List.append_nil]
    cases liftM x >>= f <;> rfl
  panics := by
    cases x with
    | error e => simp [liftM, monadLift, MonadLift.monadLift, Except.mapError]
    | ok a =>
      obtain ⟨b, hb⟩ := hf a
      rw [lift_ok, except_ok_bind, hb]
      simp

theorem parsePayload_runs (msgType : ControlMessageType) (payload : Bytes) :
    Runs alloc (parsePayload alloc msgType payload)
      (ControlMessage.parsePayload alloc msgType payload)
      (noteOf (parameterCount msgType payload)) := by
  cases msgType with
  | publishNamespace | subscribeNamespace | subscribeTracks =>
    apply Runs.assoc
    exact (getNamespaceRequest_runs _ payload).bind_left fun _ => Runs.pure _
  | subscribe | fetch | trackStatus =>
    apply Runs.assoc
    exact (getTrackRequest_runs _ _ payload).bind_left fun _ => Runs.pure _
  | requestUpdate =>
    apply Runs.assoc
    apply Runs.field
    rintro ⟨requestId, payload⟩
    apply Runs.assoc
    exact (getParameters_runs _ payload).bind_left fun _ => Runs.pure _
  | requestOk | publishOk =>
    apply Runs.assoc
    exact (getAnswer_runs _ payload).bind_left fun _ => Runs.pure _
  | subscribeOk =>
    apply Runs.assoc
    apply Runs.field
    rintro ⟨trackAlias, payload⟩
    apply Runs.assoc
    exact (getAnswer_runs _ payload).bind_left fun _ => Runs.pure _
  | fetchOk =>
    apply Runs.assoc
    apply Runs.field
    rintro ⟨endOfTrack, payload⟩
    apply Runs.assoc
    apply Runs.field
    rintro ⟨endLocation, payload⟩
    apply Runs.assoc
    exact (getAnswer_runs _ payload).bind_left fun _ => Runs.pure _
  | publish =>
    apply Runs.assoc
    apply Runs.field
    rintro ⟨requestId, payload⟩
    apply Runs.assoc
    apply Runs.field
    rintro ⟨trackNamespace, payload⟩
    apply Runs.assoc
    apply Runs.field
    rintro ⟨trackName, payload⟩
    apply Runs.assoc
    apply Runs.field
    rintro ⟨trackAlias, payload⟩
    apply Runs.assoc
    exact (getAnswer_runs _ payload).bind_left fun _ => Runs.pure _
  | «namespace» | namespaceDone | requestError | publishDone | setup | goAway | publishSkipped =>
    exact Runs.plain fun _ => ⟨_, rfl⟩

theorem violation_eq_panic (e : Failure) : ControlMessage.violation e = .panic ↔ e = .panic := by
  cases e <;> simp [ControlMessage.violation]

theorem deserialize_runs (bytes : Bytes) :
    Runs alloc (deserialize alloc bytes) (ControlMessage.deserialize alloc bytes)
      (noteOf (announcedParameters bytes)) := by
  have hparsed : Runs alloc (deserialize alloc bytes) (ControlMessage.deserialize alloc bytes)
      ((liftM (ControlMessage.getFrame bytes) : Except Failure _).toOption.elim []
        fun frame => noteOf (parameterCount frame.1.1 frame.1.2)) := by
    apply (Runs.parse (ControlMessage.getFrame bytes)).bind_right
    rintro ⟨⟨msgType, payload⟩, bytes⟩
    apply Runs.assoc
    apply ((parsePayload_runs msgType payload).adapt violation_eq_panic).bind_left
    rintro ⟨message, left⟩
    dsimp only
    split
    · apply ((Runs.throw ?_).bind_left fun _ => Runs.pure _).of_eq rfl rfl
      exact nofun
    · exact Runs.pure _
  apply hparsed.of_eq rfl
  unfold announcedParameters
  cases ControlMessage.getFrame bytes <;> rfl

end Payloads

/-! How many bytes there are. -/

/-- A reader that leaves no more bytes than it was given. -/
def Shortens {α : Type} (dec : Decoder ParseError α) : Prop :=
  ∀ bytes rest a, dec bytes = .ok (a, rest) → rest.length ≤ bytes.length

theorem Shortens.bind {α β : Type} {dec : Decoder ParseError α} {f : α × Bytes → Parse (β × Bytes)}
    (h : Shortens dec) (hnext : ∀ a, Shortens fun bytes => f (a, bytes)) :
    Shortens fun bytes => dec bytes >>= f := by
  intro bytes rest b hok
  obtain ⟨⟨a, left⟩, hdec, hf⟩ := except_bind_eq_ok.mp hok
  exact le_trans (hnext a left rest b hf) (h bytes left a hdec)

theorem getVi_shortens : Shortens getVi :=
  fun _ _ _ h => (getVi_consumes h).1.le

theorem tuple_shortens : Shortens Tuple.deserialize :=
  fun _ _ _ h => le_of_add_le_right (Tuple.deserialize_rewrites h)

theorem getLengthPrefixed_shortens (context : String) : Shortens (getLengthPrefixed context) :=
  fun _ _ _ h => le_of_add_le_right (getLengthPrefixed_rewrites h)

theorem location_shortens : Shortens Location.deserialize :=
  fun _ _ _ h => le_of_add_le_right (Location.deserialize_rewrites h)

theorem getEndOfTrack_shortens : Shortens getEndOfTrack := by
  intro bytes rest endOfTrack h
  have hconsumed := getEndOfTrack_consumes h
  omega

theorem namespaceRequestCount_shortens : Shortens namespaceRequestCount :=
  getVi_shortens.bind fun _ => tuple_shortens.bind fun _ => getVi_shortens

theorem trackRequestCount_shortens (nameContext : String) :
    Shortens (trackRequestCount nameContext) :=
  getVi_shortens.bind fun _ => tuple_shortens.bind fun _ =>
    (getLengthPrefixed_shortens nameContext).bind fun _ => getVi_shortens

theorem toOption_eq_some {ε α : Type} {x : Except ε α} {a : α} (h : x.toOption = some a) :
    x = .ok a := by
  cases x with
  | error e => cases h
  | ok b =>
    cases h
    rfl

theorem Shortens.of_toOption {α : Type} {dec : Decoder ParseError α} (h : Shortens dec)
    {bytes left : Bytes} {a : α} (hsome : (dec bytes).toOption = some (a, left)) :
    left.length ≤ bytes.length :=
  h bytes left a (toOption_eq_some hsome)

theorem parameterCount_left_le {msgType : ControlMessageType} {payload left : Bytes}
    {count : UInt64} (h : parameterCount msgType payload = some (count, left)) :
    left.length ≤ payload.length := by
  cases msgType with
  | publishNamespace | subscribeNamespace | subscribeTracks =>
    exact namespaceRequestCount_shortens.of_toOption h
  | subscribe | fetch | trackStatus => exact (trackRequestCount_shortens _).of_toOption h
  | requestOk | publishOk => exact getVi_shortens.of_toOption h
  | requestUpdate | subscribeOk =>
    exact (getVi_shortens.bind fun _ => getVi_shortens).of_toOption h
  | fetchOk =>
    exact (getEndOfTrack_shortens.bind fun _ => location_shortens.bind fun _ =>
      getVi_shortens).of_toOption h
  | publish =>
    exact (getVi_shortens.bind fun _ => tuple_shortens.bind fun _ =>
      (getLengthPrefixed_shortens _).bind fun _ => getVi_shortens.bind fun _ =>
        getVi_shortens).of_toOption h
  | «namespace» | namespaceDone | requestError | publishDone | setup | goAway | publishSkipped =>
    cases h

/-- The length of a payload has sixteen bits. -/
theorem getFrame_payload_le {bytes payload rest : Bytes} {msgType : ControlMessageType}
    (h : ControlMessage.getFrame bytes = .ok ((msgType, payload), rest)) :
    payload.length ≤ 65535 := by
  obtain ⟨⟨messageType, left⟩, -, h⟩ := except_bind_eq_ok.mp h
  obtain ⟨msgType', -, h⟩ := except_bind_eq_ok.mp h
  obtain ⟨⟨payloadLength, left'⟩, hlength, h⟩ := except_bind_eq_ok.mp h
  obtain ⟨⟨payload', left''⟩, hcopy, hret⟩ := except_bind_eq_ok.mp h
  cases hret
  rw [(copyToBytes_eq_ok hcopy).1]
  unfold ControlMessage.getPayloadLength at hlength
  split at hlength
  · cases hlength
  · cases hlength
    have hbound := beNat_lt (left.take 2)
    have htwo : 256 ^ (left.take 2).length ≤ 256 ^ 2 :=
      Nat.pow_le_pow_right (by omega) (List.length_take_le 2 left)
    omega

theorem announcedParameters_left_le {bytes left : Bytes} {count : UInt64}
    (h : announcedParameters bytes = some (count, left)) : left.length ≤ 65535 := by
  obtain ⟨⟨⟨msgType, payload⟩, rest⟩, hframe, hcount⟩ := Option.bind_eq_some_iff.mp h
  exact le_trans (parameterCount_left_le hcount) (getFrame_payload_le (toOption_eq_some hframe))

/-! Decoding is contained exactly where the counts are. -/

theorem Runs.result_eq {α : Type} {alloc : Allocator} {run : Noted α} {x : Except Failure α}
    {notes : List Reservation} (h : Runs alloc run x notes) : result run = x := by
  rw [result, h.comes]

theorem Runs.reservations_eq {α : Type} {alloc : Allocator} {run : Noted α} {x : Except Failure α}
    {notes : List Reservation} (h : Runs alloc run x notes) : reservations run = notes := by
  rw [reservations, h.comes, List.nil_append]

theorem mem_noteOf {announced : Option (UInt64 × Bytes)} {r : Reservation} :
    r ∈ noteOf announced ↔
      ∃ count left, announced = some (count, left) ∧ r = ⟨count.toNat, left.length⟩ := by
  cases announced with
  | none => simp [noteOf]
  | some p =>
    obtain ⟨count, left⟩ := p
    simp [noteOf, and_assoc]

theorem Runs.bounded_iff {α : Type} {alloc : Allocator} {run : Noted α} {x : Except Failure α}
    {announced : Option (UInt64 × Bytes)} (h : Runs alloc run x (noteOf announced)) :
    Bounded run ↔ ∀ count left, announced = some (count, left) → count.toNat ≤ left.length := by
  rw [Bounded, h.reservations_eq]
  constructor
  · intro hall count left hannounced
    exact hall ⟨count.toNat, left.length⟩ (mem_noteOf.mpr ⟨count, left, hannounced, rfl⟩)
  · intro hall r hr
    obtain ⟨count, left, hannounced, rfl⟩ := mem_noteOf.mp hr
    exact hall count left hannounced

/-- Noting the reservations changes nothing in what the decoder returns. -/
theorem result_deserialize (alloc : Allocator) (bytes : Bytes) :
    result (deserialize alloc bytes) = ControlMessage.deserialize alloc bytes :=
  (deserialize_runs bytes).result_eq

theorem deserialize_panics_iff (alloc : Allocator) (bytes : Bytes) :
    ControlMessage.deserialize alloc bytes = .error .panic ↔
      ∃ count left, announcedParameters bytes = some (count, left) ∧
        alloc.reservable < count.toNat := by
  rw [(deserialize_runs bytes).panics]
  constructor
  · rintro ⟨r, hr, hlarge⟩
    obtain ⟨count, left, hannounced, rfl⟩ := mem_noteOf.mp hr
    exact ⟨count, left, hannounced, hlarge⟩
  · rintro ⟨count, left, hannounced, hlarge⟩
    exact ⟨_, mem_noteOf.mpr ⟨count, left, hannounced, rfl⟩, hlarge⟩

theorem deserializeKvpList_runs {alloc : Allocator} (bytes : Bytes) (count : UInt64) :
    ∃ x, Runs alloc (deserializeKvpList alloc bytes count) x (noteOf (some (count, bytes))) :=
  ⟨_, (Runs.reserve count.toNat bytes).bind_left fun _ => Runs.parse _⟩

/-- A count is compared with nothing before it is reserved for. So it must itself be no more than
the bytes that follow. -/
theorem contained_iff (bytes : Bytes) :
    (Contained bytes ↔ ∀ count left, announcedParameters bytes = some (count, left) →
      count.toNat ≤ left.length) ∧
    ∀ (alloc : Allocator) (count : UInt64),
      Bounded (deserializeKvpList alloc bytes count) ↔ count.toNat ≤ bytes.length := by
  constructor
  · constructor
    · intro h
      exact (deserialize_runs bytes).bounded_iff.mp (h.bounded ⟨65535, le_rfl⟩)
    · intro hcounts
      refine ⟨fun alloc hpanic => ?_, fun alloc => (deserialize_runs bytes).bounded_iff.mpr hcounts⟩
      obtain ⟨count, left, hannounced, hlarge⟩ := (deserialize_panics_iff alloc bytes).mp hpanic
      -- a payload is no longer than what every allocator has
      have hcount := hcounts count left hannounced
      have hleft := announcedParameters_left_le hannounced
      have halloc := alloc.payload_le
      omega
  · intro alloc count
    obtain ⟨x, hruns⟩ := deserializeKvpList_runs bytes count
    rw [hruns.bounded_iff]
    simp

/-- A REQUEST_UPDATE of 13 bytes that announces 2^64 - 1 parameters and brings none. -/
def overfullUpdate : Bytes :=
  [0x02, 0x00, 0x0A, 0x00, 0xFF, 0xFF, 0xFF, 0xFF, 0xFF, 0xFF, 0xFF, 0xFF, 0xFF]

/-- No `Vec` has room for more than `isize::MAX` bytes. -/
theorem overfullUpdate_panics :
    ControlMessage.deserialize ⟨2 ^ 63 - 1, by omega⟩ overfullUpdate = .error .panic := by
  rfl

end Noted

end Moqtail.Message
