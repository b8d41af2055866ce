import Moqtail.Ts.ControlWriting
import Moqtail.Wire.ControlRoundTrip
import Moqtail.Wire.FullTrackName

/-! Control messages from the one library to the other: both write the same bytes of a message that
both have, and each reads what the other has written.

TRACK_STATUS has other fields in the TypeScript library than in the Rust library, so that no message
of that type is one that both have. -/
namespace Moqtail.Ts

open Lib Moqtail.Message

/-! The messages that both libraries have. -/

def FullTrackName.ofRust (trackNamespace : Moqtail.Tuple) (name : TupleField) : FullTrackName :=
  ⟨.ofRust trackNamespace, name⟩

/-- One message in the types of both libraries. The TypeScript library makes no Full Track Name
past the limits, and no REQUEST_ERROR with a redirect its code does not announce. -/
inductive SameMessage : Message.ControlMessage → ControlMessage → Prop
  | setup (options : List Moqtail.KeyValuePair) :
    SameMessage (.setup ⟨options⟩) (.setup (options.map .ofRust))
  | goAway (uri : Option String) (timeout : UInt64) :
    SameMessage (.goaway ⟨uri, timeout⟩) (.goAway ⟨uri, ofU64 timeout⟩)
  | subscribe (requestId : UInt64) {trackNamespace : Moqtail.Tuple} {name : TupleField}
      (hname : Message.FullTrackName.WithinLimits trackNamespace name)
      {params : List Moqtail.MessageParameter} {params' : List MessageParameter}
      (h : List.Forall₂ Same params params') :
    SameMessage (.subscribe ⟨requestId, trackNamespace, name, params⟩)
      (.subscribe (ofU64 requestId) (.ofRust trackNamespace name) params')
  | subscribeOk (trackAlias : UInt64) {params : List Moqtail.MessageParameter}
      {params' : List MessageParameter} (h : List.Forall₂ Same params params')
      (properties : List Moqtail.TrackProperty) :
    SameMessage (.subscribeOk ⟨trackAlias, params, properties⟩)
      (.subscribeOk (ofU64 trackAlias) params' (properties.map .ofRust))
  | requestError {code : RequestErrorCode} (retryInterval : UInt64) (reason : Moqtail.ReasonPhrase)
      {redirect : Option Moqtail.Redirect} (made : redirect.isSome = true ↔ code = .redirect) :
    SameMessage (.requestError ⟨code, retryInterval, reason, redirect⟩)
      (.requestError code (ofU64 retryInterval) reason.phrase (redirect.map .ofRust))
  | requestUpdate (requestId : UInt64) {params : List Moqtail.MessageParameter}
      {params' : List MessageParameter} (h : List.Forall₂ Same params params') :
    SameMessage (.requestUpdate ⟨requestId, params⟩) (.requestUpdate (ofU64 requestId) params')
  | publishDone (code : PublishDoneStatusCode) (streamCount : UInt64)
      (reason : Moqtail.ReasonPhrase) :
    SameMessage (.publishDone ⟨code, streamCount, reason⟩)
      (.publishDone code (ofU64 streamCount) reason.phrase)
  | fetch (requestId : UInt64) {trackNamespace : Moqtail.Tuple} {name : TupleField}
      (hname : Message.FullTrackName.WithinLimits trackNamespace name)
      {params : List Moqtail.MessageParameter} {params' : List MessageParameter}
      (h : List.Forall₂ Same params params') :
    SameMessage (.fetch ⟨requestId, trackNamespace, name, params⟩)
      (.fetch (ofU64 requestId) (.ofRust trackNamespace name) params')
  | fetchOk (endOfTrack : Bool) (endLocation : Moqtail.Location)
      {params : List Moqtail.MessageParameter} {params' : List MessageParameter}
      (h : List.Forall₂ Same params params') (properties : List Moqtail.TrackProperty) :
    SameMessage (.fetchOk ⟨endOfTrack, endLocation, params, properties⟩)
      (.fetchOk endOfTrack (.ofRust endLocation) params' (properties.map .ofRust))
  | publishNamespace (requestId : UInt64) (trackNamespace : Moqtail.Tuple)
      {params : List Moqtail.MessageParameter} {params' : List MessageParameter}
      (h : List.Forall₂ Same params params') :
    SameMessage (.publishNamespace ⟨requestId, trackNamespace, params⟩)
      (.publishNamespace (ofU64 requestId) (.ofRust trackNamespace) params')
  | requestOk {params : List Moqtail.MessageParameter} {params' : List MessageParameter}
      (h : List.Forall₂ Same params params') (properties : List Moqtail.TrackProperty) :
    SameMessage (.requestOk ⟨params, properties⟩) (.requestOk params' (properties.map .ofRust))
  | «namespace» (suffix : Moqtail.Tuple) : SameMessage (.namespace ⟨suffix⟩) (.namespace (.ofRust suffix))
  | namespaceDone (suffix : Moqtail.Tuple) :
    SameMessage (.namespaceDone ⟨suffix⟩) (.namespaceDone (.ofRust suffix))
  | subscribeNamespace (requestId : UInt64) (front : Moqtail.Tuple)
      {params : List Moqtail.MessageParameter} {params' : List MessageParameter}
      (h : List.Forall₂ Same params params') :
    SameMessage (.subscribeNamespace ⟨requestId, front, params⟩)
      (.subscribeNamespace (ofU64 requestId) (.ofRust front) params')
  | subscribeTracks (requestId : UInt64) (front : Moqtail.Tuple)
      {params : List Moqtail.MessageParameter} {params' : List MessageParameter}
      (h : List.Forall₂ Same params params') :
    SameMessage (.subscribeTracks ⟨requestId, front, params⟩)
      (.subscribeTracks (ofU64 requestId) (.ofRust front) params')
  | publish (requestId trackAlias : UInt64) {trackNamespace : Moqtail.Tuple} {name : TupleField}
      (hname : Message.FullTrackName.WithinLimits trackNamespace name)
      {params : List Moqtail.MessageParameter} {params' : List MessageParameter}
      (h : List.Forall₂ Same params params') (properties : List Moqtail.TrackProperty) :
    SameMessage (.publish ⟨requestId, trackNamespace, name, trackAlias, params, properties⟩)
      (.publish (ofU64 requestId) (.ofRust trackNamespace name) (ofU64 trackAlias) params'
        (properties.map .ofRust))
  | publishSkipped (suffix : Moqtail.Tuple) (name : TupleField) :
    SameMessage (.publishSkipped ⟨suffix, name⟩) (.publishSkipped (.ofRust suffix) name)

/-- What the Rust library puts into a payload, part by part as the TypeScript library does. -/
def rustParts : Message.ControlMessage → List (Parse Bytes)
  | .namespace m => [.ok m.trackNamespaceSuffix.serialize]
  | .namespaceDone m => [.ok m.trackNamespaceSuffix.serialize]
  | .publishNamespace m => [.ok (putVi m.requestId), .ok m.trackNamespace.serialize,
      Message.putParameters m.parameters]
  | .requestError m => [.ok (putVi m.errorCode.toU64), .ok (putVi m.retryInterval),
      .ok m.reasonPhrase.serialize, .ok ((m.redirect.map Moqtail.Redirect.serialize).getD [])]
  | .requestOk m => [Message.putParameters m.parameters, serializeTrackProperties m.trackProperties]
  | .publish m => [.ok (putVi m.requestId),
      .ok (m.trackNamespace.serialize ++ putLengthPrefixed m.trackName), .ok (putVi m.trackAlias),
      Message.putParameters m.parameters, serializeTrackProperties m.trackProperties]
  | .publishDone m => [.ok (putVi m.statusCode.toU64), .ok (putVi m.streamCount),
      .ok m.reasonPhrase.serialize]
  | .fetch m => [.ok (putVi m.requestId),
      .ok (m.trackNamespace.serialize ++ putLengthPrefixed m.trackName),
      Message.putParameters m.parameters]
  | .fetchOk m => [.ok [if m.endOfTrack then 1 else 0], .ok m.endLocation.serialize,
      Message.putParameters m.subscribeParameters, serializeTrackProperties m.trackProperties]
  | .goaway m => [.ok (Moqtail.putUri m.newSessionUri), .ok (putVi m.timeout)]
  | .setup m => [Moqtail.serializeKvpList m.setupOptions]
  | .subscribe m => [.ok (putVi m.requestId),
      .ok (m.trackNamespace.serialize ++ putLengthPrefixed m.trackName),
      Message.putParameters m.subscribeParameters]
  | .subscribeOk m => [.ok (putVi m.trackAlias), Message.putParameters m.subscribeParameters,
      serializeTrackProperties m.trackProperties]
  | .requestUpdate m => [.ok (putVi m.requestId), Message.putParameters m.parameters]
  | .trackStatus m => [.ok (putVi m.requestId),
      .ok (m.trackNamespace.serialize ++ putLengthPrefixed m.trackName),
      Message.putParameters m.subscribeParameters]
  | .subscribeNamespace m => [.ok (putVi m.requestId), .ok m.trackNamespacePrefix.serialize,
      Message.putParameters m.parameters]
  | .subscribeTracks m => [.ok (putVi m.requestId), .ok m.trackNamespacePrefix.serialize,
      Message.putParameters m.parameters]
  | .publishSkipped m => [.ok m.trackNamespaceSuffix.serialize, .ok (putLengthPrefixed m.trackName)]

theorem payload_eq_writeAll (m : Message.ControlMessage) : m.payload = writeAll (rustParts m) := by
  cases m with
  | requestError m =>
    obtain ⟨code, retryInterval, reason, redirect⟩ := m
    cases redirect <;>
      simp [Message.ControlMessage.payload, RequestError.payload, rustParts, writeAll_cons,
        writeAll_nil]
  | setup m => exact (writeAll_singleton _).symm
  | _ =>
    simp [Message.ControlMessage.payload, rustParts, writeAll_cons, writeAll_nil, bind_assoc,
      Namespace.payload, NamespaceDone.payload, PublishNamespace.payload, RequestOk.payload,
      Publish.payload, PublishDone.payload, Fetch.payload, FetchOk.payload, GoAway.payload,
      Subscribe.payload, SubscribeOk.payload, RequestUpdate.payload,
      TrackStatus.payload, SubscribeNamespace.payload, SubscribeTracks.payload,
      PublishSkipped.payload, putNamespaceRequest, putTrackRequest, putAnswer]

/-! Writing. -/

theorem samePart_payload {m : Message.ControlMessage} {m' : ControlMessage} (h : SameMessage m m') :
    SamePart m.payload m'.payload := by
  rw [payload_eq_writeAll]
  cases h with
  | setup options => exact .writeAll (.cons (samePart_serializeKvpList options) .nil)
  | goAway uri timeout =>
    exact .writeAll (.cons (samePart_putUri uri) (.cons (samePart_putVI timeout) .nil))
  | subscribe requestId _ h | fetch requestId _ h =>
    exact .writeAll (.cons (samePart_putVI requestId) (.cons (FullTrackName.samePart _ _)
      (.cons (samePart_putParameters h) .nil)))
  | subscribeOk trackAlias h properties =>
    exact .writeAll (.cons (samePart_putVI trackAlias) (.cons (samePart_putParameters h)
      (.cons (TrackProperty.samePart properties) .nil)))
  | @requestError code retryInterval reason redirect made =>
    refine .writeAll (.cons (samePart_putVI _) (.cons (samePart_putVI retryInterval)
      (.cons ?_ (.cons ?_ .nil))))
    · rw [putReasonPhrase_eq]
      exact .ok _
    · cases redirect with
      | none => exact .ok []
      | some redirect => exact Redirect.samePart redirect
  | requestUpdate requestId h =>
    exact .writeAll (.cons (samePart_putVI requestId) (.cons (samePart_putParameters h) .nil))
  | publishDone code streamCount reason =>
    refine .writeAll (.cons (samePart_putVI _) (.cons (samePart_putVI streamCount) (.cons ?_ .nil)))
    rw [putReasonPhrase_eq]
    exact .ok _
  | fetchOk endOfTrack endLocation h properties =>
    refine .writeAll (.cons ?_ (.cons ?_ (.cons (samePart_putParameters h)
      (.cons (TrackProperty.samePart properties) .nil))))
    · cases endOfTrack <;> exact .ok _
    · rw [Location.serialize_ofRust]
      exact .ok _
  | publishNamespace requestId front h | subscribeNamespace requestId front h
  | subscribeTracks requestId front h =>
    exact .writeAll (.cons (samePart_putVI requestId) (.cons (Tuple.samePart front)
      (.cons (samePart_putParameters h) .nil)))
  | requestOk h properties =>
    exact .writeAll (.cons (samePart_putParameters h)
      (.cons (TrackProperty.samePart properties) .nil))
  | «namespace» suffix | namespaceDone suffix =>
    exact .writeAll (.cons (Tuple.samePart suffix) .nil)
  | publish requestId trackAlias _ h properties =>
    exact .writeAll (.cons (samePart_putVI requestId) (.cons (FullTrackName.samePart _ _)
      (.cons (samePart_putVI trackAlias) (.cons (samePart_putParameters h)
        (.cons (TrackProperty.samePart properties) .nil)))))
  | publishSkipped suffix name =>
    exact .writeAll (.cons (Tuple.samePart suffix) (.cons (samePart_putLengthPrefixed name) .nil))

theorem SameMessage.getType_eq {m : Message.ControlMessage} {m' : ControlMessage}
    (h : SameMessage m m') : m'.getType = m.getType := by
  cases h <;> rfl

theorem serialize_agrees {m : Message.ControlMessage} {m' : ControlMessage} (h : SameMessage m m') :
    Agree Eq m.serialize m'.serialize := by
  apply agree_of_ok_iff
  intro out
  rw [Message.ControlMessage.serialize_eq_ok, ControlMessage.serialize_eq_ok, h.getType_eq]
  exact exists_congr fun payload => ⟨
    fun ⟨hpayload, hle, hout⟩ => ⟨(samePart_payload h payload hle).mp hpayload, hle, hout⟩,
    fun ⟨hpayload, hle, hout⟩ => ⟨(samePart_payload h payload hle).mpr hpayload, hle, hout⟩⟩

/-- Both libraries write the same bytes of a message that both have, or both refuse it, and what the
TypeScript library has written the Rust library reads as the message, whatever follows it. -/
theorem control_messages_written_alike (alloc : Allocator) {m : Message.ControlMessage}
    {m' : ControlMessage} (h : SameMessage m m') :
    Agree Eq m.serialize m'.serialize ∧
      ∀ out, m.WellFormed → m'.serialize = .ok out →
        Reads (Message.ControlMessage.deserialize alloc) out m.canonical := by
  have hagree := serialize_agrees h
  refine ⟨hagree, fun out hwf hout => ?_⟩
  rw [hout] at hagree
  cases hrust : m.serialize with
  | error e =>
    rw [hrust] at hagree
    cases hagree
  | ok out' =>
    rw [hrust] at hagree
    cases hagree with
    | ok heq =>
      subst heq
      exact Message.ControlMessage.reads_of_serialize alloc hwf hrust

/-- Two parameters in descending order are written in ascending order by both. -/
theorem control_messages_written_alike_subscribe : ∃ out,
    Message.ControlMessage.serialize (.subscribe ⟨1, ⟨[[1]]⟩, [2],
      [.forward true, .objectDeliveryTimeout 3]⟩) = .ok out ∧
      ControlMessage.serialize (.subscribe 1 ⟨⟨[[1]]⟩, [2]⟩
        [.forward true, .objectDeliveryTimeout 3]) = .ok out ∧
        Message.ControlMessage.deserialize ⟨65535, le_rfl⟩ (out ++ [9]) =
          .ok (.subscribe ⟨1, ⟨[[1]]⟩, [2], [.objectDeliveryTimeout 3, .forward true]⟩, [9]) := by
  have hname : Message.FullTrackName.WithinLimits ⟨[[1]]⟩ [2] := by decide
  have hsame : SameMessage (.subscribe ⟨1, ⟨[[1]]⟩, [2], [.forward true, .objectDeliveryTimeout 3]⟩)
      (.subscribe 1 ⟨⟨[[1]]⟩, [2]⟩ [.forward true, .objectDeliveryTimeout 3]) :=
    .subscribe 1 hname (.cons (.forward true) (.cons (.objectDeliveryTimeout 3) .nil))
  have hwf : Message.ControlMessage.WellFormed (.subscribe ⟨1, ⟨[[1]]⟩, [2],
      [.forward true, .objectDeliveryTimeout 3]⟩) := by
    refine ⟨?_, nofun, trivial⟩
    intro p hp
    simp only [Message.ControlMessage.parameters, List.mem_cons, List.not_mem_nil, or_false] at hp
    rcases hp with rfl | rfl <;> exact ⟨trivial, rfl⟩
  obtain ⟨hagree, hreads⟩ := control_messages_written_alike ⟨65535, le_rfl⟩ hsame
  have hrust : Message.ControlMessage.serialize (.subscribe ⟨1, ⟨[[1]]⟩, [2],
      [.forward true, .objectDeliveryTimeout 3]⟩) =
        .ok [3, 0, 11, 1, 1, 1, 1, 1, 2, 2, 2, 3, 14, 1] := rfl
  have hts : ControlMessage.serialize (.subscribe 1 ⟨⟨[[1]]⟩, [2]⟩
      [.forward true, .objectDeliveryTimeout 3]) =
        .ok [3, 0, 11, 1, 1, 1, 1, 1, 2, 2, 2, 3, 14, 1] := by
    rw [hrust] at hagree
    generalize ControlMessage.serialize (.subscribe 1 ⟨⟨[[1]]⟩, [2]⟩
      [.forward true, .objectDeliveryTimeout 3]) = written at hagree
    cases hagree with
    | ok heq => rw [heq]
  exact ⟨_, hrust, hts, hreads _ hwf hts [9]⟩

end Moqtail.Ts
