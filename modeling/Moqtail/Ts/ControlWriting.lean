import Moqtail.Lib.Writing
import Moqtail.Ts.ControlMessage
import Moqtail.Ts.ParameterAgreement

/-! Writing control messages in the TypeScript library, from the `serialize` of the files of
`model/control/`, and that the parts of their payloads are those the Rust library writes.

A payload is put into its buffer part after part. -/
namespace Moqtail.Ts

open Lib Moqtail.Message

/-! Parts of payloads. -/

def FullTrackName.serialize (n : FullTrackName) : Result Bytes :=
  writeAll [n.trackNamespace.serialize, ByteBuffer.putLengthPrefixedBytes n.name]

/-- `putReasonPhrase`. -/
def putReasonPhrase (phrase : String) : Result Bytes :=
  writeAll [ByteBuffer.putVI (asBytes phrase).length, .ok (asBytes phrase)]

/-- The empty text is falsy. -/
def putUri : Option String → Result Bytes
  | none => ByteBuffer.putVI 0
  | some uri =>
    if uri.isEmpty then ByteBuffer.putVI 0 else ByteBuffer.putLengthPrefixedBytes (asBytes uri)

def Redirect.serialize (r : Redirect) : Result Bytes :=
  writeAll [putUri r.connectUri, r.trackNamespace.serialize,
    ByteBuffer.putLengthPrefixedBytes r.trackName]

def putParameters (parameters : List MessageParameter) : Result Bytes :=
  writeAll [ByteBuffer.putVI parameters.length, serializeMessageParameters parameters]

namespace TrackProperty

def toKeyValuePair : TrackProperty → Result KeyValuePair
  | objectDeliveryTimeout timeoutMs => KeyValuePair.tryNewVarInt 0x02 timeoutMs
  | subgroupDeliveryTimeout timeoutMs => KeyValuePair.tryNewVarInt 0x06 timeoutMs
  | maxCacheDuration durationMs => KeyValuePair.tryNewVarInt 0x04 durationMs
  | immutableProperties properties => do
    let value ← serializeKvpList properties
    KeyValuePair.tryNewBytes 0x0B value
  | defaultPublisherPriority priority => KeyValuePair.tryNewVarInt 0x0E priority
  | defaultPublisherGroupOrder order => KeyValuePair.tryNewVarInt 0x22 (groupOrderValue order)
  | dynamicGroups enabled => KeyValuePair.tryNewVarInt 0x30 (if enabled then 1 else 0)
  | unknown kvp => .ok kvp

/-- `serializeInto`. -/
def serializeAll (exts : List TrackProperty) : Result Bytes := do
  let kvps ← exts.mapM toKeyValuePair
  serializeKvpList kvps

end TrackProperty

/-! Whole messages. -/

namespace ControlMessage

def getType : ControlMessage → ControlMessageType
  | setup _ => .setup
  | goAway _ => .goAway
  | subscribe _ _ _ => .subscribe
  | subscribeOk _ _ _ => .subscribeOk
  | requestError _ _ _ _ => .requestError
  | requestUpdate _ _ => .requestUpdate
  | publishDone _ _ _ => .publishDone
  | fetch _ _ _ => .fetch
  | fetchOk _ _ _ _ => .fetchOk
  | trackStatus _ => .trackStatus
  | publishNamespace _ _ _ => .publishNamespace
  | requestOk _ _ => .requestOk
  | .namespace _ => .namespace
  | namespaceDone _ => .namespaceDone
  | subscribeNamespace _ _ _ => .subscribeNamespace
  | subscribeTracks _ _ _ => .subscribeTracks
  | publish _ _ _ _ _ => .publish
  | publishSkipped _ _ => .publishSkipped

/-- What each `serialize` puts into the payload. -/
def payload : ControlMessage → Result Bytes
  | setup setupOptions => writeAll [serializeKvpList setupOptions]
  | goAway m => writeAll [putUri m.newSessionUri, ByteBuffer.putVI m.timeout]
  | subscribe requestId fullTrackName parameters =>
    writeAll [ByteBuffer.putVI requestId, fullTrackName.serialize, putParameters parameters]
  | subscribeOk trackAlias parameters trackProperties =>
    writeAll [ByteBuffer.putVI trackAlias, putParameters parameters,
      TrackProperty.serializeAll trackProperties]
  | requestError errorCode retryInterval reasonPhrase redirect =>
    writeAll [ByteBuffer.putVI (ofU64 errorCode.toU64), ByteBuffer.putVI retryInterval,
      putReasonPhrase reasonPhrase, (redirect.map Redirect.serialize).getD (.ok [])]
  | requestUpdate requestId parameters =>
    writeAll [ByteBuffer.putVI requestId, putParameters parameters]
  | publishDone statusCode streamCount errorReason =>
    writeAll [ByteBuffer.putVI (ofU64 statusCode.toU64), ByteBuffer.putVI streamCount,
      putReasonPhrase errorReason]
  | fetch requestId fullTrackName parameters =>
    writeAll [ByteBuffer.putVI requestId, fullTrackName.serialize, putParameters parameters]
  | fetchOk endOfTrack endLocation parameters trackProperties =>
    writeAll [ByteBuffer.putU8 (if endOfTrack then 1 else 0), endLocation.serialize,
      putParameters parameters, TrackProperty.serializeAll trackProperties]
  | trackStatus m =>
    writeAll [ByteBuffer.putVI m.requestId, ByteBuffer.putVI m.trackAlias,
      m.fullTrackName.serialize, ByteBuffer.putU8 m.subscriberPriority,
      ByteBuffer.putU8 m.groupOrder, ByteBuffer.putU8 (if m.forward then 1 else 0),
      m.locationFilter.serializeValue, putParameters m.subscribeParameters]
  | publishNamespace requestId trackNamespace parameters =>
    writeAll [ByteBuffer.putVI requestId, trackNamespace.serialize, putParameters parameters]
  | requestOk parameters trackProperties =>
    writeAll [putParameters parameters, TrackProperty.serializeAll trackProperties]
  | .namespace trackNamespaceSuffix => writeAll [trackNamespaceSuffix.serialize]
  | namespaceDone trackNamespaceSuffix => writeAll [trackNamespaceSuffix.serialize]
  | subscribeNamespace requestId trackNamespacePrefix parameters =>
    writeAll [ByteBuffer.putVI requestId, trackNamespacePrefix.serialize, putParameters parameters]
  | subscribeTracks requestId trackNamespacePrefix parameters =>
    writeAll [ByteBuffer.putVI requestId, trackNamespacePrefix.serialize, putParameters parameters]
  | publish requestId fullTrackName trackAlias parameters trackProperties =>
    writeAll [ByteBuffer.putVI requestId, fullTrackName.serialize, ByteBuffer.putVI trackAlias,
      putParameters parameters, TrackProperty.serializeAll trackProperties]
  | publishSkipped trackNamespaceSuffix trackName =>
    writeAll [trackNamespaceSuffix.serialize, ByteBuffer.putLengthPrefixedBytes trackName]

/-- Where the length of the payload is checked. SUBSCRIBE and TRACK_STATUS leave it to `putU16`. -/
def lengthContext : ControlMessage → Option String
  | setup _ => some "Setup::serialize(payload_length)"
  | goAway _ => some "GoAway::serialize(payloadBytes.length)"
  | subscribe _ _ _ => none
  | subscribeOk _ _ _ => some "SubscribeOk::serialize(payloadBytes.length)"
  | requestError _ _ _ _ => some "RequestError::serialize(payloadBytes.length)"
  | requestUpdate _ _ => some "RequestUpdate::serialize(payloadBytes)"
  | publishDone _ _ _ => some "PublishDone::serialize(payloadBytes.length)"
  | fetch _ _ _ => some "Fetch::serialize(payload_length)"
  | fetchOk _ _ _ _ => some "FetchOk::serialize(payloadBytes.length)"
  | trackStatus _ => none
  | publishNamespace _ _ _ => some "PublishNamespace::serialize(payloadBytes.length)"
  | requestOk _ _ => some "RequestOk::serialize(payloadBytes)"
  | .namespace _ => some "Namespace::serialize(payloadBytes.length)"
  | namespaceDone _ => some "NamespaceDone::serialize(payloadBytes.length)"
  | subscribeNamespace _ _ _ => some "SubscribeNamespace::serialize(payloadBytes.length)"
  | subscribeTracks _ _ _ => some "SubscribeTracks::serialize(payloadBytes.length)"
  | publish _ _ _ _ _ => some "Publish::serialize(payloadBytes.length)"
  | publishSkipped _ _ => some "PublishSkipped::serialize(payloadBytes.length)"

/-- `putU16` of the length, which refuses what does not fit whether or not it was checked before. -/
def putPayload (context : Option String) (payloadBytes : Bytes) : Result Bytes := do
  match context with
  | some context =>
    if payloadBytes.length > 0xffff then
      throw (.lengthExceedsMax context 0xffff payloadBytes.length)
  | none => pure ()
  let length ← ByteBuffer.putU16 payloadBytes.length
  return length ++ payloadBytes

def serialize (m : ControlMessage) : Result Bytes := do
  let messageType ← ByteBuffer.putVI (ofU64 m.getType.toU64)
  let payloadBytes ← m.payload
  let framed ← putPayload m.lengthContext payloadBytes
  return messageType ++ framed

end ControlMessage

/-! The parts that both libraries write. -/

/-- What `x` and `y` write is the same, if it fits in a payload. -/
abbrev SamePart (x : Parse Bytes) (y : Result Bytes) : Prop := SameUpTo 65535 x y

theorem samePart_putVI (v : UInt64) : SamePart (.ok (putVi v)) (ByteBuffer.putVI (ofU64 v)) := by
  rw [ByteBuffer.putVI_eq]
  exact .ok _

theorem samePart_putLengthPrefixed (value : Bytes) :
    SamePart (.ok (putLengthPrefixed value)) (ByteBuffer.putLengthPrefixedBytes value) := by
  intro out hlength
  constructor
  · intro h
    cases h
    rw [putLengthPrefixed, List.length_append] at hlength
    exact ByteBuffer.putLengthPrefixedBytes_eq (by omega)
  · intro h
    rw [ByteBuffer.putLengthPrefixedBytes_eq_ok h]
    rfl

/-- A number of items that `out` has room for is written whole. -/
theorem putVI_length {count : Nat} (h : count ≤ 65535) :
    ByteBuffer.putVI count = .ok (putVi (UInt64.ofNat count)) := by
  have hcount : (count : Int) = ofU64 (UInt64.ofNat count) := by
    rw [ofU64, UInt64.toNat_ofNat_of_lt' (show count < 2 ^ 64 by omega)]
  rw [hcount, ByteBuffer.putVI_eq]

/-- A number that is written is that of the Rust library. -/
theorem putVi_of_putVI {count : Nat} {out : Bytes} (h : ByteBuffer.putVI count = .ok out) :
    out = putVi (UInt64.ofNat count) := by
  obtain ⟨u, hu, rfl⟩ := ByteBuffer.putVI_eq_ok h
  have hcount : count = u.toNat := Int.natCast_inj.mp hu
  rw [hcount, UInt64.ofNat_toNat]

namespace Tuple

def ofRust (t : Moqtail.Tuple) : Tuple := ⟨t.fields⟩

theorem mapM_putLengthPrefixedBytes {fields : List Bytes}
    (h : (fields.map TupleField.serialize).flatten.length ≤ 65535) :
    fields.mapM ByteBuffer.putLengthPrefixedBytes = .ok (fields.map TupleField.serialize) := by
  rw [mapM_eq_ok_iff, List.forall₂_map_right_iff, List.forall₂_same]
  intro field hmem
  have hpart := (List.sublist_flatten_of_mem
    (List.mem_map_of_mem (f := TupleField.serialize) hmem)).length_le
  simp only [TupleField.serialize, putLengthPrefixed, List.length_append] at hpart h
  exact ByteBuffer.putLengthPrefixedBytes_eq (by omega)

theorem samePart (t : Moqtail.Tuple) : SamePart (.ok t.serialize) (ofRust t).serialize := by
  intro out hlength
  constructor
  · intro h
    cases h
    have hfields := Moqtail.Tuple.length_le_flatten t.fields
    rw [Moqtail.Tuple.serialize, List.length_append] at hlength
    rw [serialize]
    dsimp only [ofRust]
    rw [putVI_length (by omega), except_ok_bind, mapM_putLengthPrefixedBytes (by omega)]
    rfl
  · intro h
    obtain ⟨count, hcount, h⟩ := except_bind_eq_ok.mp h
    obtain ⟨parts, hparts, hret⟩ := except_bind_eq_ok.mp h
    cases hret
    have heq : parts = t.fields.map TupleField.serialize := by
      rw [← List.forall₂_eq_eq_eq, List.forall₂_map_right_iff]
      refine (mapM_eq_ok_iff.mp hparts).flip.imp fun part field hpart => ?_
      exact ByteBuffer.putLengthPrefixedBytes_eq_ok hpart
    rw [putVi_of_putVI hcount, heq]
    rfl

end Tuple

theorem putReasonPhrase_eq (r : Moqtail.ReasonPhrase) :
    putReasonPhrase r.phrase = .ok r.serialize := by
  have hbounded : (asBytes r.phrase).length ≤ 1024 := by
    rw [length_asBytes]
    exact r.bounded
  rw [putReasonPhrase, putVI_length (by omega), writeAll_ok_cons, writeAll_singleton]
  rfl

theorem samePart_putUri (uri : Option String) :
    SamePart (.ok (Moqtail.putUri uri)) (putUri uri) := by
  cases uri with
  | none => exact samePart_putVI 0
  | some uri =>
    by_cases hempty : uri.isEmpty = true
    · rw [String.isEmpty_iff] at hempty
      subst hempty
      exact samePart_putVI 0
    · rw [putUri, if_neg hempty]
      exact samePart_putLengthPrefixed (asBytes uri)

namespace Redirect

/-- A redirect is made with an empty URI left out. -/
def ofRust (r : Moqtail.Redirect) : Redirect :=
  ⟨r.connectUri.filter fun uri => ! uri.isEmpty, .ofRust r.trackNamespace, r.trackName⟩

theorem putUri_filter (uri : Option String) :
    Moqtail.putUri (uri.filter fun uri => ! uri.isEmpty) = Moqtail.putUri uri := by
  cases uri with
  | none => rfl
  | some uri =>
    by_cases hempty : uri.isEmpty = true
    · rw [String.isEmpty_iff] at hempty
      subst hempty
      rfl
    · simp [Option.filter, hempty]

theorem samePart (r : Moqtail.Redirect) : SamePart (.ok r.serialize) (ofRust r).serialize := by
  have hparts : (.ok r.serialize : Parse Bytes) = writeAll [.ok (Moqtail.putUri (ofRust r).connectUri),
      .ok r.trackNamespace.serialize, .ok (putLengthPrefixed r.trackName)] := by
    rw [ofRust, putUri_filter]
    simp [writeAll_cons, writeAll_nil, Moqtail.Redirect.serialize]
  rw [hparts]
  exact .writeAll (.cons (samePart_putUri _) (.cons (Tuple.samePart _)
    (.cons (samePart_putLengthPrefixed _) .nil)))

end Redirect

/-! Pairs and Track Properties. -/

theorem samePart_serializeValue (kvp : Moqtail.KeyValuePair) :
    SamePart (.ok kvp.serializeValue) (KeyValuePair.ofRust kvp).serializeValue := by
  cases kvp with
  | varInt typeValue value => exact samePart_putVI value
  | bytes typeValue value => exact samePart_putLengthPrefixed value

theorem serializeDelta_eq_writeAll {kvp : Moqtail.KeyValuePair} {prevType : UInt64}
    (hle : prevType ≤ kvp.getType) : kvp.serializeDelta prevType =
      writeAll [.ok (putVi (kvp.getType - prevType)), .ok kvp.serializeValue] := by
  rw [kvp.serializeDelta_of_le prevType hle]
  simp [writeAll_cons, writeAll_nil]

theorem samePart_serializeDelta (kvp : Moqtail.KeyValuePair) (prevType : UInt64) :
    SamePart (kvp.serializeDelta prevType)
      ((KeyValuePair.ofRust kvp).serializeDelta (ofU64 prevType)) := by
  by_cases hlt : kvp.getType < prevType
  · have hlt' := UInt64.lt_iff_toNat_lt.mp hlt
    intro out _
    rw [Moqtail.KeyValuePair.serializeDelta, if_pos hlt, KeyValuePair.serializeDelta,
      KeyValuePair.typeValue_ofRust, if_pos (by dsimp only [ofU64]; omega)]
    simp
  · have hle := UInt64.not_lt.mp hlt
    have hle' := UInt64.le_iff_toNat_le.mp hle
    have hdelta : ofU64 kvp.getType - ofU64 prevType = ofU64 (kvp.getType - prevType) := by
      rw [ofU64, ofU64, ofU64, UInt64.toNat_sub_of_le _ _ hle, Int.ofNat_sub hle']
    have hparts : (KeyValuePair.ofRust kvp).serializeDelta (ofU64 prevType) =
        writeAll [ByteBuffer.putVI (ofU64 (kvp.getType - prevType)),
          (KeyValuePair.ofRust kvp).serializeValue] := by
      rw [KeyValuePair.serializeDelta, KeyValuePair.typeValue_ofRust,
        if_neg (by dsimp only [ofU64]; omega), hdelta, writeAll_cons, writeAll_singleton]
    rw [serializeDelta_eq_writeAll hle, hparts]
    exact .writeAll (.cons (samePart_putVI _) (.cons (samePart_serializeValue kvp) .nil))

theorem samePart_serializeKvpsFrom (items : List Moqtail.KeyValuePair) :
    ∀ prevType : UInt64, SamePart (Moqtail.serializeKvpsFrom prevType items)
      (serializeKvpsFrom (ofU64 prevType) (items.map .ofRust)) := by
  induction items with
  | nil => exact fun _ => .ok []
  | cons kvp rest ih =>
    intro prevType
    have hrust : Moqtail.serializeKvpsFrom prevType (kvp :: rest) =
        writeAll [kvp.serializeDelta prevType, Moqtail.serializeKvpsFrom kvp.getType rest] := by
      rw [writeAll_cons, writeAll_singleton]
      rfl
    have hts : serializeKvpsFrom (ofU64 prevType) ((kvp :: rest).map .ofRust) =
        writeAll [(KeyValuePair.ofRust kvp).serializeDelta (ofU64 prevType),
          serializeKvpsFrom (ofU64 kvp.getType) (rest.map .ofRust)] := by
      rw [writeAll_cons, writeAll_singleton, ← KeyValuePair.typeValue_ofRust]
      rfl
    rw [hrust, hts]
    exact .writeAll (.cons (samePart_serializeDelta kvp prevType) (.cons (ih kvp.getType) .nil))

theorem samePart_serializeKvpList (items : List Moqtail.KeyValuePair) :
    SamePart (Moqtail.serializeKvpList items) (serializeKvpList (items.map .ofRust)) := by
  have hsorted : (items.insertionSort fun a b => a.getType ≤ b.getType).map KeyValuePair.ofRust =
      (items.map KeyValuePair.ofRust).insertionSort fun a b => a.typeValue ≤ b.typeValue := by
    apply List.map_insertionSort
    intro a _ b _
    rw [KeyValuePair.typeValue_ofRust, KeyValuePair.typeValue_ofRust, UInt64.le_iff_toNat_le, ofU64,
      ofU64, Int.ofNat_le]
  rw [serializeKvpList, ← hsorted]
  exact samePart_serializeKvpsFrom _ 0

namespace TrackProperty

/-- The TypeScript library makes nothing of a Type that it would have to know. -/
def ofRust : Moqtail.TrackProperty → TrackProperty
  | .objectDeliveryTimeout timeoutMs => objectDeliveryTimeout (ofU64 timeoutMs)
  | .subgroupDeliveryTimeout timeoutMs => subgroupDeliveryTimeout (ofU64 timeoutMs)
  | .maxCacheDuration durationMs => maxCacheDuration (ofU64 durationMs)
  | .immutableProperties properties => immutableProperties (properties.map .ofRust)
  | .defaultPublisherPriority priority => defaultPublisherPriority (ofU8 priority)
  | .defaultPublisherGroupOrder order => defaultPublisherGroupOrder order
  | .dynamicGroups enabled => dynamicGroups enabled
  | .unknown kvp => unknown (.ofRust kvp)
  | .unknownMandatory kvp => unknown (.ofRust kvp)

theorem toKeyValuePair_agrees (p : Moqtail.TrackProperty) :
    Agree (fun kvp pair => pair = .ofRust kvp) p.tryIntoKeyValuePair (ofRust p).toKeyValuePair := by
  cases p with
  | objectDeliveryTimeout | subgroupDeliveryTimeout | maxCacheDuration => exact .ok rfl
  | immutableProperties properties =>
    apply (samePart_serializeKvpList properties).bind
    · intro value hlength
      have hagree := KeyValuePair.tryNewBytes_agrees TrackPropertyType.immutableProperties.toU64 value
      exact hagree.imp fun kvp pair _ _ h => h
    · intro value hlong
      rw [Moqtail.KeyValuePair.tryNewBytes_of_odd (by decide), Moqtail.KeyValuePair.newBytes,
        if_pos (show value.length > Moqtail.maxValueLength from hlong)]
      exact ⟨_, rfl⟩
    · intro value hlong
      rw [KeyValuePair.tryNewBytes, if_neg (by decide), KeyValuePair.newBytes,
        if_pos (by unfold maxValueLength; omega)]
      exact ⟨_, rfl⟩
  | defaultPublisherPriority priority =>
    refine .ok ?_
    rw [KeyValuePair.newVarInt, KeyValuePair.ofRust, ofU64, ofU64, ofU8, UInt8.toNat_toUInt64]
    rfl
  | defaultPublisherGroupOrder order => cases order <;> exact .ok rfl
  | dynamicGroups enabled => cases enabled <;> exact .ok rfl
  | unknown kvp | unknownMandatory kvp => exact .ok rfl

theorem samePart (exts : List Moqtail.TrackProperty) :
    SamePart (serializeTrackProperties exts) (serializeAll (exts.map ofRust)) := by
  have hpairs : Agree (List.Forall₂ fun kvp pair => pair = KeyValuePair.ofRust kvp)
      (exts.mapM Moqtail.TrackProperty.tryIntoKeyValuePair)
      ((exts.map ofRust).mapM toKeyValuePair) := by
    apply Agree.mapM
    rw [List.forall₂_map_right_iff, List.forall₂_same]
    exact fun p _ => toKeyValuePair_agrees p
  refine hpairs.bind_sameUpTo fun kvps pairs hall => ?_
  have heq : pairs = kvps.map KeyValuePair.ofRust := by
    rw [← List.forall₂_eq_eq_eq, List.forall₂_map_right_iff]
    exact hall.flip
  rw [heq]
  exact samePart_serializeKvpList kvps

end TrackProperty

theorem FullTrackName.samePart (trackNamespace : Moqtail.Tuple) (name : TupleField) :
    SamePart (.ok (trackNamespace.serialize ++ putLengthPrefixed name))
      (FullTrackName.serialize ⟨.ofRust trackNamespace, name⟩) := by
  have hparts : (.ok (trackNamespace.serialize ++ putLengthPrefixed name) : Parse Bytes) =
      writeAll [.ok trackNamespace.serialize, .ok (putLengthPrefixed name)] := by
    simp [writeAll_cons, writeAll_nil]
  rw [hparts]
  exact .writeAll (.cons (Tuple.samePart _) (.cons (samePart_putLengthPrefixed _) .nil))

/-- Parameters that both libraries have, with their number before them. -/
theorem samePart_putParameters {params : List Moqtail.MessageParameter}
    {params' : List MessageParameter} (h : List.Forall₂ Same params params') :
    SamePart (Message.putParameters params) (putParameters params') := by
  have hlength := h.length_eq
  intro out hout
  constructor
  · intro hput
    obtain ⟨list, hlist, hret⟩ := except_bind_eq_ok.mp hput
    cases hret
    obtain ⟨kvps, hkvps, hfrom⟩ := except_bind_eq_ok.mp hlist
    have hcount := length_le_serializeParametersFrom _ _ _ hfrom
    rw [sortByType, List.length_insertionSort, ← (mapM_eq_ok_iff.mp hkvps).length_eq] at hcount
    rw [List.length_append] at hout
    have hshort : list.length ≤ 65535 := by omega
    have hts := (SameUpTo.of_agree (serializeMessageParameters_agrees h) list hshort).mp hlist
    rw [putParameters, ← hlength, putVI_length (by omega), writeAll_ok_cons, writeAll_singleton, hts]
    rfl
  · intro hput
    rw [putParameters, writeAll_cons, writeAll_singleton] at hput
    obtain ⟨count, hcount, hput⟩ := except_bind_eq_ok.mp hput
    obtain ⟨list, hlist, hret⟩ := except_bind_eq_ok.mp hput
    cases hret
    rw [List.length_append] at hout
    have hshort : list.length ≤ 65535 := by omega
    have hrust := (SameUpTo.of_agree (serializeMessageParameters_agrees h) list hshort).mpr hlist
    rw [Message.putParameters, hrust, putVi_of_putVI hcount, hlength]
    rfl

/-! Frames. -/

theorem putU16_eq {n : Nat} (h : n ≤ 65535) :
    ByteBuffer.putU16 n = .ok (beBytes 2 (UInt64.ofNat n)) := by
  have hnat : (UInt64.ofNat n).toNat = n := UInt64.toNat_ofNat_of_lt' (show n < 2 ^ 64 by omega)
  have hhigh := beByte_toNat 1 (by decide) (UInt64.ofNat n)
  have hlow := beByte_toNat 0 (by decide) (UInt64.ofNat n)
  rw [hnat] at hhigh hlow
  rw [ByteBuffer.putU16, if_neg (by omega)]
  simp only [beBytes, Int.toNat_natCast, Except.ok.injEq, List.cons.injEq, and_true]
  constructor <;> rw [← UInt8.toNat_inj, UInt8.toNat_ofNat']
  · rw [hhigh]
    omega
  · rw [hlow]
    omega

namespace ControlMessage

theorem putPayload_eq_ok {context : Option String} {payload out : Bytes} :
    putPayload context payload = .ok out ↔ payload.length ≤ 65535 ∧
      out = beBytes 2 (UInt64.ofNat payload.length) ++ payload := by
  by_cases hle : payload.length ≤ 65535
  · have hshort : ¬ payload.length > 0xffff := by omega
    have hput : putPayload context payload =
        .ok (beBytes 2 (UInt64.ofNat payload.length) ++ payload) := by
      cases context <;> simp [putPayload, hshort, putU16_eq hle]
    rw [hput, Except.ok.injEq, eq_comm]
    exact (and_iff_right hle).symm
  · have hlong : payload.length > 0xffff := by omega
    have hu16 : ByteBuffer.putU16 payload.length = .error
        (.rangeError s!"Value {(payload.length : Int)} is out of range for a U16 (0-65535).") := by
      rw [ByteBuffer.putU16, if_pos (by omega)]
    cases context <;> simp [putPayload, hlong, hu16, hle]

theorem serialize_eq_ok {m : ControlMessage} {out : Bytes} :
    m.serialize = .ok out ↔ ∃ payload, m.payload = .ok payload ∧ payload.length ≤ 65535 ∧
      out = putVi m.getType.toU64 ++ beBytes 2 (UInt64.ofNat payload.length) ++ payload := by
  rw [serialize, ByteBuffer.putVI_eq, except_ok_bind]
  simp only [except_bind_eq_ok, putPayload_eq_ok, except_pure, Except.ok.injEq, List.append_assoc]
  constructor
  · rintro ⟨payload, hpayload, framed, ⟨hle, rfl⟩, rfl⟩
    exact ⟨payload, hpayload, hle, rfl⟩
  · rintro ⟨payload, hpayload, hle, rfl⟩
    exact ⟨payload, hpayload, _, ⟨hle, rfl⟩, rfl⟩

end ControlMessage

end Moqtail.Ts
