import Moqtail.Wire.ControlMessage

/-! What is written of a control message is read back, and what is read can be written again as
long as it fits in a payload. -/
namespace Moqtail.Message

open Lib

@[simp] theorem lift_ok {α : Type} (a : α) :
    (liftM (Except.ok a : Parse α) : Except Failure α) = .ok a := rfl

theorem lift_eq_ok {α : Type} {x : Parse α} {a : α} :
    (liftM x : Except Failure α) = .ok a ↔ x = .ok a := except_mapError_eq_ok

/-! Parts of a payload. -/

/-- Parameters that the reader of a message of type `msgType` takes. -/
def ParametersFor (msgType : ControlMessageType) (params : List MessageParameter) : Prop :=
  ∀ p ∈ params, p.WellFormed ∧ p.isValidFor msgType = true

/-- The bytes by which parameters can be longer than what they were read from. -/
def slack (params : List MessageParameter) : Nat := (params.map MessageParameter.slack).sum

section Parts

variable {alloc : Allocator} {msgType : ControlMessageType}

variable (alloc) in
theorem getParameters_reads {params : List MessageParameter} {out : Bytes}
    (hgood : ParametersFor msgType params) (h : putParameters params = .ok out)
    (hlength : out.length ≤ 65535) :
    Reads (getParameters alloc msgType) out (canonicalParameters params) := by
  obtain ⟨list, hlist, hret⟩ := except_bind_eq_ok.mp h
  cases hret
  obtain ⟨hcount, hreads⟩ := readMessageParameters_reads hgood hlist
  have hroom := alloc.payload_le
  rw [List.length_append] at hlength
  have hnat : (UInt64.ofNat params.length).toNat = params.length := by
    rw [UInt64.toNat_ofNat', Nat.mod_eq_of_lt (by omega)]
  intro tail
  simp only [getParameters, deserializeMessageParameters, List.append_assoc, getVi_putVi, lift_ok,
    except_ok_bind, hnat]
  rw [if_neg (by omega), hreads tail]
  rfl

theorem getParameters_rewrites {bytes rest : Bytes} {params : List MessageParameter}
    (h : getParameters alloc msgType bytes = .ok (params, rest)) :
    ParametersFor msgType params ∧ canonicalParameters params = params ∧
      ∃ out, putParameters params = .ok out ∧
        out.length + rest.length ≤ bytes.length + slack params := by
  obtain ⟨⟨count, left⟩, hcount, h⟩ := except_bind_eq_ok.mp h
  have hconsumed : minimalViLength count + left.length ≤ bytes.length :=
    (getVi_consumes (lift_eq_ok.mp hcount)).2
  unfold deserializeMessageParameters at h
  simp only at h
  split at h
  · cases h
  · obtain ⟨hlength, hgood, hcanonical, out, hout, hbound⟩ :=
      readMessageParameters_rewrites (lift_eq_ok.mp h)
    refine ⟨hgood, hcanonical, putVi count ++ out, ?_, ?_⟩
    · rw [putParameters, hout, except_ok_bind, hlength, UInt64.ofNat_toNat]
      rfl
    · rw [List.length_append, length_putVi, slack]
      omega

variable (alloc) in
theorem getAnswer_of_put {params : List MessageParameter} {properties : List TrackProperty}
    {out : Bytes} (hgood : ParametersFor msgType params)
    (hproperties : ∀ p ∈ properties, p.WellFormed) (h : putAnswer params properties = .ok out)
    (hlength : out.length ≤ 65535) :
    getAnswer alloc msgType out =
      .ok ((canonicalParameters params, canonicalTrackProperties properties), []) := by
  obtain ⟨paramBytes, hparams, h⟩ := except_bind_eq_ok.mp h
  obtain ⟨propertyBytes, hprops, hret⟩ := except_bind_eq_ok.mp h
  cases hret
  rw [List.length_append] at hlength
  rw [getAnswer, getParameters_reads alloc hgood hparams (by omega), except_ok_bind]
  simp only
  rw [deserializeTrackProperties_of_serialize hproperties hprops]
  rfl

theorem getAnswer_rewrites {bytes rest : Bytes} {params : List MessageParameter}
    {properties : List TrackProperty}
    (h : getAnswer alloc msgType bytes = .ok ((params, properties), rest)) :
    ParametersFor msgType params ∧ canonicalParameters params = params ∧
      (∀ p ∈ properties, p.WellFormed) ∧ canonicalTrackProperties properties = properties ∧
        rest = [] ∧ ∃ out, putAnswer params properties = .ok out ∧
          out.length ≤ bytes.length + slack params := by
  obtain ⟨⟨params', left⟩, hparams, h⟩ := except_bind_eq_ok.mp h
  obtain ⟨properties', hprops, hret⟩ := except_bind_eq_ok.mp h
  cases hret
  obtain ⟨hgood, hcanonical, out, hout, hlength⟩ := getParameters_rewrites hparams
  obtain ⟨hwf, hsorted, out', hout', hlength'⟩ :=
    deserializeTrackProperties_rewrites (lift_eq_ok.mp hprops)
  refine ⟨hgood, hcanonical, hwf, hsorted, rfl, out ++ out', ?_, ?_⟩
  · rw [putAnswer, hout, except_ok_bind, hout']
    rfl
  · rw [List.length_append]
    omega

variable (alloc) in
theorem getNamespaceRequest_reads {requestId : UInt64} {trackNamespace : Tuple}
    {params : List MessageParameter} {out : Bytes} (hgood : ParametersFor msgType params)
    (h : putNamespaceRequest requestId trackNamespace params = .ok out)
    (hlength : out.length ≤ 65535) :
    Reads (getNamespaceRequest alloc msgType) out
      (requestId, trackNamespace, canonicalParameters params) := by
  obtain ⟨paramBytes, hparams, hret⟩ := except_bind_eq_ok.mp h
  cases hret
  simp only [List.length_append] at hlength
  intro tail
  simp only [getNamespaceRequest, List.append_assoc, getVi_putVi, lift_ok, except_ok_bind]
  rw [Tuple.deserialize_reads (by omega), lift_ok, except_ok_bind]
  simp only
  rw [getParameters_reads alloc hgood hparams (by omega)]
  rfl

theorem getNamespaceRequest_rewrites {bytes rest : Bytes} {requestId : UInt64}
    {trackNamespace : Tuple} {params : List MessageParameter}
    (h : getNamespaceRequest alloc msgType bytes = .ok ((requestId, trackNamespace, params), rest)) :
    ParametersFor msgType params ∧ canonicalParameters params = params ∧
      ∃ out, putNamespaceRequest requestId trackNamespace params = .ok out ∧
        out.length + rest.length ≤ bytes.length + slack params := by
  obtain ⟨⟨requestId', left⟩, hid, h⟩ := except_bind_eq_ok.mp h
  obtain ⟨⟨trackNamespace', left'⟩, hnamespace, h⟩ := except_bind_eq_ok.mp h
  obtain ⟨⟨params', left''⟩, hparams, hret⟩ := except_bind_eq_ok.mp h
  cases hret
  have hconsumed := (getVi_consumes (lift_eq_ok.mp hid)).2
  have htuple := Tuple.deserialize_rewrites (lift_eq_ok.mp hnamespace)
  obtain ⟨hgood, hcanonical, out, hout, hlength⟩ := getParameters_rewrites hparams
  refine ⟨hgood, hcanonical, putVi requestId ++ trackNamespace.serialize ++ out, ?_, ?_⟩
  · rw [putNamespaceRequest, hout]
    rfl
  · simp only [List.length_append, length_putVi] at hconsumed ⊢
    omega

variable (alloc) in
theorem getTrackRequest_reads (nameContext : String) {requestId : UInt64} {trackNamespace : Tuple}
    {trackName : TupleField} {params : List MessageParameter} {out : Bytes}
    (hgood : ParametersFor msgType params)
    (h : putTrackRequest requestId trackNamespace trackName params = .ok out)
    (hlength : out.length ≤ 65535) :
    Reads (getTrackRequest nameContext alloc msgType) out
      (requestId, trackNamespace, trackName, canonicalParameters params) := by
  obtain ⟨paramBytes, hparams, hret⟩ := except_bind_eq_ok.mp h
  cases hret
  simp only [List.length_append] at hlength
  have hname : trackName.length < 2 ^ 64 := by
    simp only [putLengthPrefixed, List.length_append] at hlength
    omega
  intro tail
  simp only [getTrackRequest, List.append_assoc, getVi_putVi, lift_ok, except_ok_bind]
  rw [Tuple.deserialize_reads (by omega), lift_ok, except_ok_bind]
  simp only
  rw [getLengthPrefixed_reads _ hname, lift_ok, except_ok_bind]
  simp only
  rw [getParameters_reads alloc hgood hparams (by omega)]
  rfl

theorem getTrackRequest_rewrites {nameContext : String} {bytes rest : Bytes} {requestId : UInt64}
    {trackNamespace : Tuple} {trackName : TupleField} {params : List MessageParameter}
    (h : getTrackRequest nameContext alloc msgType bytes =
      .ok ((requestId, trackNamespace, trackName, params), rest)) :
    ParametersFor msgType params ∧ canonicalParameters params = params ∧
      ∃ out, putTrackRequest requestId trackNamespace trackName params = .ok out ∧
        out.length + rest.length ≤ bytes.length + slack params := by
  obtain ⟨⟨requestId', left⟩, hid, h⟩ := except_bind_eq_ok.mp h
  obtain ⟨⟨trackNamespace', left'⟩, hnamespace, h⟩ := except_bind_eq_ok.mp h
  obtain ⟨⟨trackName', left''⟩, hname, h⟩ := except_bind_eq_ok.mp h
  obtain ⟨⟨params', left₃⟩, hparams, hret⟩ := except_bind_eq_ok.mp h
  cases hret
  have hconsumed := (getVi_consumes (lift_eq_ok.mp hid)).2
  have htuple := Tuple.deserialize_rewrites (lift_eq_ok.mp hnamespace)
  have hfield := getLengthPrefixed_rewrites (lift_eq_ok.mp hname)
  obtain ⟨hgood, hcanonical, out, hout, hlength⟩ := getParameters_rewrites hparams
  refine ⟨hgood, hcanonical,
    putVi requestId ++ trackNamespace.serialize ++ putLengthPrefixed trackName ++ out, ?_, ?_⟩
  · rw [putTrackRequest, hout]
    rfl
  · simp only [List.length_append, length_putVi] at hconsumed ⊢
    omega

end Parts

/-! Codes. -/

theorem PublishDoneStatusCode.fromWire_toU64 (code : PublishDoneStatusCode) :
    fromWire code.toU64 = code := by
  cases code <;> rfl

theorem RequestErrorCode.fromWire_toU64 (code : RequestErrorCode) :
    fromWire code.toU64 = code := by
  cases code <;> rfl

/-- A code takes one byte, and every code that is read takes one at least. -/
theorem PublishDoneStatusCode.length_fromWire (value : UInt64) :
    minimalViLength (fromWire value).toU64 ≤ minimalViLength value := by
  refine le_trans ?_ (minimalViLength_pos value)
  cases fromWire value <;> decide

theorem RequestErrorCode.length_fromWire (value : UInt64) :
    minimalViLength (fromWire value).toU64 ≤ minimalViLength value := by
  refine le_trans ?_ (minimalViLength_pos value)
  cases fromWire value <;> decide

theorem getEndOfTrack_consumes {bytes rest : Bytes} {endOfTrack : Bool}
    (h : getEndOfTrack bytes = .ok (endOfTrack, rest)) : rest.length + 1 = bytes.length := by
  cases bytes with
  | nil => cases h
  | cons raw left =>
    simp only [getEndOfTrack] at h
    split_ifs at h
    all_goals
      cases h
      rfl

/-! A whole message. -/

namespace ControlMessage

/-- The payload of a message, before its length is checked. -/
def payload : ControlMessage → Parse Bytes
  | .namespace m => m.payload
  | namespaceDone m => m.payload
  | publishNamespace m => m.payload
  | requestError m => m.payload
  | requestOk m => m.payload
  | publish m => m.payload
  | publishDone m => m.payload
  | fetch m => m.payload
  | fetchOk m => m.payload
  | goaway m => m.payload
  | setup m => m.payload
  | subscribe m => m.payload
  | subscribeOk m => m.payload
  | requestUpdate m => m.payload
  | trackStatus m => m.payload
  | subscribeNamespace m => m.payload
  | subscribeTracks m => m.payload
  | publishSkipped m => m.payload

def parameters : ControlMessage → List MessageParameter
  | publishNamespace m => m.parameters
  | requestOk m => m.parameters
  | publish m => m.parameters
  | fetch m => m.parameters
  | fetchOk m => m.subscribeParameters
  | subscribe m => m.subscribeParameters
  | subscribeOk m => m.subscribeParameters
  | requestUpdate m => m.parameters
  | trackStatus m => m.subscribeParameters
  | subscribeNamespace m => m.parameters
  | subscribeTracks m => m.parameters
  | _ => []

def trackProperties : ControlMessage → List TrackProperty
  | requestOk m => m.trackProperties
  | publish m => m.trackProperties
  | fetchOk m => m.trackProperties
  | subscribeOk m => m.trackProperties
  | _ => []

/-- What the reader asks of the fields that only one message has. -/
def OwnFields : ControlMessage → Prop
  | goaway m => m.newSessionUri ≠ some "" ∧ uriLength m.newSessionUri ≤ maxNewSessionUriLen
  | setup m => ∀ kvp ∈ m.setupOptions, kvp.WellFormed
  | requestError m => (m.redirect.isSome = true ↔ m.errorCode = .redirect) ∧
      ∀ redirect, m.redirect = some redirect → redirect.connectUri ≠ some ""
  | _ => True

/-- A message that the reader takes: what its writer lets through and the reader refuses is left
out. -/
structure WellFormed (m : ControlMessage) : Prop where
  parameters : ParametersFor m.getType m.parameters
  trackProperties : ∀ p ∈ m.trackProperties, p.WellFormed
  ownFields : m.OwnFields

/-- A message as it is read back: its lists come back in the order of their Types. -/
def canonical : ControlMessage → ControlMessage
  | publishNamespace m => publishNamespace { m with parameters := canonicalParameters m.parameters }
  | requestOk m => requestOk
      { parameters := canonicalParameters m.parameters
        trackProperties := canonicalTrackProperties m.trackProperties }
  | publish m => publish
      { m with
        parameters := canonicalParameters m.parameters
        trackProperties := canonicalTrackProperties m.trackProperties }
  | fetch m => fetch { m with parameters := canonicalParameters m.parameters }
  | fetchOk m => fetchOk
      { m with
        subscribeParameters := canonicalParameters m.subscribeParameters
        trackProperties := canonicalTrackProperties m.trackProperties }
  | setup m => setup ⟨sortByType m.setupOptions⟩
  | subscribe m => subscribe
      { m with subscribeParameters := canonicalParameters m.subscribeParameters }
  | subscribeOk m => subscribeOk
      { m with
        subscribeParameters := canonicalParameters m.subscribeParameters
        trackProperties := canonicalTrackProperties m.trackProperties }
  | requestUpdate m => requestUpdate { m with parameters := canonicalParameters m.parameters }
  | trackStatus m => trackStatus
      { m with subscribeParameters := canonicalParameters m.subscribeParameters }
  | subscribeNamespace m => subscribeNamespace
      { m with parameters := canonicalParameters m.parameters }
  | subscribeTracks m => subscribeTracks { m with parameters := canonicalParameters m.parameters }
  | m => m

section Payload

variable (alloc : Allocator)

theorem goaway_of_payload {m : GoAway} (hwf : (goaway m).OwnFields) :
    GoAway.parsePayload (putUri m.newSessionUri ++ putVi m.timeout) = .ok (m, []) := by
  obtain ⟨hne, hmax⟩ := hwf
  unfold maxNewSessionUriLen at hmax
  have hlt : uriLength m.newSessionUri < 2 ^ 64 := by omega
  have hnat : (UInt64.ofNat (uriLength m.newSessionUri)).toNat = uriLength m.newSessionUri := by
    rw [UInt64.toNat_ofNat', Nat.mod_eq_of_lt hlt]
  have hlast := getVi_putVi m.timeout []
  rw [List.append_nil] at hlast
  simp only [GoAway.parsePayload, putUri_eq, List.append_assoc, getVi_putVi, except_ok_bind, hnat]
  rw [if_neg (by unfold maxNewSessionUriLen; omega)]
  simp only [except_pure]
  rw [getUri_reads _ _ hne hlt, except_ok_bind]
  simp only [hlast, except_ok_bind]

theorem requestError_of_payload {m : RequestError} {out : Bytes} (hwf : (requestError m).OwnFields)
    (h : m.payload = .ok out) (hlength : out.length ≤ 65535) :
    RequestError.parsePayload out = .ok (m, []) := by
  obtain ⟨hcode, huri⟩ := hwf
  cases h
  simp only [List.length_append] at hlength
  simp only [RequestError.parsePayload, List.append_assoc, getVi_putVi, except_ok_bind,
    RequestErrorCode.fromWire_toU64]
  rw [m.reasonPhrase.deserialize_reads, except_ok_bind]
  cases hredirect : m.redirect with
  | none =>
    have hother : m.errorCode ≠ .redirect := by
      intro heq
      rw [hredirect] at hcode
      exact Bool.noConfusion (hcode.mpr heq)
    simp only [getRedirect, if_neg hother, except_ok_bind, except_pure, ← hredirect]
  | some redirect =>
    have hthis : m.errorCode = .redirect := hcode.mp (by rw [hredirect]; rfl)
    simp only [hredirect] at hlength
    have hread := Redirect.deserialize_reads (huri redirect hredirect) (by omega) []
    rw [List.append_nil] at hread
    simp only [getRedirect, if_pos hthis, hread, except_ok_bind, except_pure, ← hredirect]

/-- What is written of a payload is read back. -/
theorem parsePayload_of_payload {m : ControlMessage} (hwf : m.WellFormed) {out : Bytes}
    (h : m.payload = .ok out) (hlength : out.length ≤ 65535) :
    parsePayload alloc m.getType out = .ok (m.canonical, []) := by
  obtain ⟨hparams, hproperties, hown⟩ := hwf
  cases m with
  | «namespace» m | namespaceDone m =>
    cases h
    have hread := Tuple.deserialize_reads
      (show m.trackNamespaceSuffix.serialize.length < 2 ^ 64 by omega) []
    rw [List.append_nil] at hread
    simp only [getType, parsePayload, Namespace.parsePayload, NamespaceDone.parsePayload, hread,
      except_ok_bind, except_pure, lift_ok]
    rfl
  | publishNamespace m | subscribeNamespace m | subscribeTracks m =>
    have hread := getNamespaceRequest_reads alloc hparams h hlength []
    rw [List.append_nil] at hread
    simp only [getType] at hread
    simp only [getType, parsePayload, PublishNamespace.parsePayload, SubscribeNamespace.parsePayload,
      SubscribeTracks.parsePayload, hread, except_ok_bind, except_pure]
    rfl
  | subscribe m | fetch m | trackStatus m =>
    have hread (context : String) :=
      getTrackRequest_reads alloc context hparams h hlength []
    rw [List.append_nil] at hread
    simp only [getType] at hread
    simp only [getType, parsePayload, Subscribe.parsePayload, Fetch.parsePayload,
      TrackStatus.parsePayload, hread, except_ok_bind, except_pure]
    rfl
  | requestUpdate m =>
    obtain ⟨paramBytes, hput, hret⟩ := except_bind_eq_ok.mp h
    cases hret
    rw [List.length_append] at hlength
    have hread := getParameters_reads alloc hparams hput (by omega) []
    rw [List.append_nil] at hread
    simp only [getType] at hread
    simp only [getType, parsePayload, RequestUpdate.parsePayload, getVi_putVi, lift_ok,
      except_ok_bind, hread, except_pure]
    rfl
  | requestOk m =>
    have hread := getAnswer_of_put alloc hparams hproperties h hlength
    simp only [getType] at hread
    simp only [getType, parsePayload, RequestOk.parsePayload, hread, except_ok_bind, except_pure]
    rfl
  | subscribeOk m =>
    obtain ⟨answer, hput, hret⟩ := except_bind_eq_ok.mp h
    cases hret
    rw [List.length_append] at hlength
    have hread := getAnswer_of_put alloc hparams hproperties hput (by omega)
    simp only [getType] at hread
    simp only [getType, parsePayload, SubscribeOk.parsePayload, getVi_putVi, lift_ok,
      except_ok_bind, hread, except_pure]
    rfl
  | fetchOk m =>
    obtain ⟨answer, hput, hret⟩ := except_bind_eq_ok.mp h
    cases hret
    simp only [List.length_cons, List.length_append] at hlength
    have hread := getAnswer_of_put alloc hparams hproperties hput (by omega)
    have hend (tail : Bytes) :
        getEndOfTrack ((if m.endOfTrack then 1 else 0) :: tail) = .ok (m.endOfTrack, tail) := by
      cases m.endOfTrack <;> rfl
    simp only [getType] at hread
    simp only [getType, parsePayload, FetchOk.parsePayload, hend, lift_ok, except_ok_bind]
    rw [m.endLocation.deserialize_reads]
    simp only [lift_ok, except_ok_bind, hread, except_pure]
    rfl
  | publish m =>
    obtain ⟨answer, hput, hret⟩ := except_bind_eq_ok.mp h
    cases hret
    simp only [List.length_append] at hlength
    have hread := getAnswer_of_put alloc hparams hproperties hput (by omega)
    have hname : m.trackName.length < 2 ^ 64 := by
      simp only [putLengthPrefixed, List.length_append] at hlength
      omega
    simp only [getType] at hread
    simp only [getType, parsePayload, Publish.parsePayload, List.append_assoc, getVi_putVi, lift_ok,
      except_ok_bind]
    rw [Tuple.deserialize_reads (by omega)]
    simp only [lift_ok, except_ok_bind]
    rw [getLengthPrefixed_reads _ hname]
    simp only [lift_ok, except_ok_bind, getVi_putVi, hread, except_pure]
    rfl
  | publishDone m =>
    cases h
    have hread := m.reasonPhrase.deserialize_reads []
    rw [List.append_nil] at hread
    simp only [getType, parsePayload, PublishDone.parsePayload, List.append_assoc, getVi_putVi,
      except_ok_bind, hread, except_pure, PublishDoneStatusCode.fromWire_toU64, lift_ok]
    rfl
  | publishSkipped m =>
    cases h
    rw [List.length_append] at hlength
    have hname : m.trackName.length < 2 ^ 64 := by
      simp only [putLengthPrefixed, List.length_append] at hlength
      omega
    have hread := getLengthPrefixed_reads "PublishSkipped::parse_payload(track_name)" hname []
    rw [List.append_nil] at hread
    simp only [getType, parsePayload, PublishSkipped.parsePayload]
    rw [Tuple.deserialize_reads (by omega)]
    simp only [except_ok_bind, hread, except_pure, lift_ok]
    rfl
  | goaway m =>
    cases h
    simp only [getType, parsePayload, goaway_of_payload hown, lift_ok, except_ok_bind, except_pure]
    rfl
  | setup m =>
    have hread := deserializeKvpListUntilEmpty_of_serialize hown h
    simp only [getType, parsePayload, Setup.parsePayload, hread, lift_ok, except_ok_bind, except_pure]
    rfl
  | requestError m =>
    simp only [getType, parsePayload, requestError_of_payload hown h hlength, lift_ok,
      except_ok_bind, except_pure]
    rfl

end Payload

/-! What was read. -/

/-- `m` was read of a payload of `n` bytes with `left` bytes to spare, and can be written again. -/
structure Rewritten (m : ControlMessage) (n left : Nat) : Prop where
  wellFormed : m.WellFormed
  canonical : m.canonical = m
  writes : ∃ out, m.payload = .ok out ∧ out.length + left ≤ n + slack m.parameters

theorem rewritten_of_plain {m : ControlMessage} {n left : Nat} {out : Bytes}
    (hparams : m.parameters = []) (hproperties : m.trackProperties = []) (hown : m.OwnFields)
    (hcanonical : m.canonical = m) (hout : m.payload = .ok out) (hlength : out.length + left ≤ n) :
    m.Rewritten n left where
  wellFormed :=
    { parameters := by
        rw [ParametersFor, hparams]
        simp
      trackProperties := by
        rw [hproperties]
        simp
      ownFields := hown }
  canonical := hcanonical
  writes := ⟨out, hout, le_trans hlength (Nat.le_add_right _ _)⟩

theorem goaway_rewritten {bytes rest : Bytes} {m : GoAway}
    (h : GoAway.parsePayload bytes = .ok (m, rest)) :
    (goaway m).Rewritten bytes.length rest.length := by
  obtain ⟨⟨uriLen, left⟩, hvi, h⟩ := except_bind_eq_ok.mp h
  simp only at h
  split at h
  · cases h
  next hmax =>
    obtain ⟨⟨newSessionUri, left'⟩, huri, h⟩ := except_bind_eq_ok.mp h
    obtain ⟨⟨timeout, left''⟩, htimeout, hret⟩ := except_bind_eq_ok.mp h
    cases hret
    have hconsumed := (getVi_consumes hvi).2
    have hlast := (getVi_consumes htimeout).2
    obtain ⟨hne, hlength, hsize⟩ := getUri_rewrites huri
    have hofNat : UInt64.ofNat (uriLength newSessionUri) = uriLen := by
      rw [hlength, UInt64.ofNat_toNat]
    refine rewritten_of_plain rfl rfl ⟨hne, ?_⟩ rfl rfl ?_
    · show uriLength newSessionUri ≤ maxNewSessionUriLen
      omega
    · simp only [putUri_eq, hofNat, List.length_append, length_putVi] at hconsumed hlast ⊢
      omega

theorem requestError_rewritten {bytes rest : Bytes} {m : RequestError}
    (h : RequestError.parsePayload bytes = .ok (m, rest)) :
    (requestError m).Rewritten bytes.length rest.length := by
  obtain ⟨⟨codeRaw, left⟩, hcode, h⟩ := except_bind_eq_ok.mp h
  obtain ⟨⟨retryInterval, left'⟩, hretry, h⟩ := except_bind_eq_ok.mp h
  obtain ⟨⟨reasonPhrase, left''⟩, hreason, h⟩ := except_bind_eq_ok.mp h
  obtain ⟨⟨redirect, left₃⟩, hredirect, hret⟩ := except_bind_eq_ok.mp h
  cases hret
  have hcodeBytes := (getVi_consumes hcode).2
  have hretryBytes := (getVi_consumes hretry).2
  have hreasonBytes := ReasonPhrase.deserialize_rewrites hreason
  have hshort := RequestErrorCode.length_fromWire codeRaw
  simp only [getRedirect] at hredirect
  split at hredirect
  next hthis =>
    obtain ⟨⟨target, left₄⟩, htarget, hret⟩ := except_bind_eq_ok.mp hredirect
    cases hret
    obtain ⟨hne, hlength⟩ := Redirect.deserialize_rewrites htarget
    refine rewritten_of_plain rfl rfl ⟨⟨fun _ => hthis, fun _ => rfl⟩, ?_⟩ rfl rfl ?_
    · rintro redirect' heq
      cases heq
      exact hne
    · simp only [List.length_append, length_putVi]
      omega
  next hother =>
    cases hredirect
    refine rewritten_of_plain rfl rfl ⟨⟨nofun, fun hthis => absurd hthis hother⟩, nofun⟩ rfl rfl ?_
    simp only [List.length_append, length_putVi, List.length_nil]
    omega

theorem rewritten_of_parameters {m : ControlMessage} {n left : Nat} {out : Bytes}
    (hproperties : m.trackProperties = []) (hown : m.OwnFields)
    (hparams : ParametersFor m.getType m.parameters) (hcanonical : m.canonical = m)
    (hout : m.payload = .ok out) (hlength : out.length + left ≤ n + slack m.parameters) :
    m.Rewritten n left where
  wellFormed :=
    { parameters := hparams
      trackProperties := by
        rw [hproperties]
        simp
      ownFields := hown }
  canonical := hcanonical
  writes := ⟨out, hout, hlength⟩

/-- What was read of a payload can be written again. A PUBLISH_OK comes back as the REQUEST_OK
that it stands for. -/
theorem rewritten_of_parsePayload {alloc : Allocator} {msgType : ControlMessageType}
    {bytes rest : Bytes} {m : ControlMessage}
    (h : parsePayload alloc msgType bytes = .ok (m, rest)) :
    m.Rewritten bytes.length rest.length := by
  cases msgType with
  | «namespace» | namespaceDone =>
    obtain ⟨⟨m', left⟩, hm, hret⟩ := except_bind_eq_ok.mp h
    cases hret
    obtain ⟨⟨suffix, left'⟩, hsuffix, hret⟩ := except_bind_eq_ok.mp (lift_eq_ok.mp hm)
    cases hret
    exact rewritten_of_plain rfl rfl trivial rfl rfl (Tuple.deserialize_rewrites hsuffix)
  | publishNamespace | subscribeNamespace | subscribeTracks =>
    obtain ⟨⟨m', left⟩, hm, hret⟩ := except_bind_eq_ok.mp h
    cases hret
    obtain ⟨⟨⟨requestId, trackNamespace, params⟩, left'⟩, hrequest, hret⟩ :=
      except_bind_eq_ok.mp hm
    cases hret
    obtain ⟨hgood, hcanonical, out, hout, hlength⟩ := getNamespaceRequest_rewrites hrequest
    refine rewritten_of_parameters rfl trivial hgood ?_ hout hlength
    simp only [ControlMessage.canonical, hcanonical]
  | subscribe | fetch | trackStatus =>
    obtain ⟨⟨m', left⟩, hm, hret⟩ := except_bind_eq_ok.mp h
    cases hret
    obtain ⟨⟨⟨requestId, trackNamespace, trackName, params⟩, left'⟩, hrequest, hret⟩ :=
      except_bind_eq_ok.mp hm
    cases hret
    obtain ⟨hgood, hcanonical, out, hout, hlength⟩ := getTrackRequest_rewrites hrequest
    refine rewritten_of_parameters rfl trivial hgood ?_ hout hlength
    simp only [ControlMessage.canonical, hcanonical]
  | requestUpdate =>
    obtain ⟨⟨m', left⟩, hm, hret⟩ := except_bind_eq_ok.mp h
    cases hret
    obtain ⟨⟨requestId, left'⟩, hid, hm⟩ := except_bind_eq_ok.mp hm
    obtain ⟨⟨params, left''⟩, hparams, hret⟩ := except_bind_eq_ok.mp hm
    cases hret
    have hconsumed := (getVi_consumes (lift_eq_ok.mp hid)).2
    obtain ⟨hgood, hcanonical, out, hout, hlength⟩ := getParameters_rewrites hparams
    have hpayload : (requestUpdate ⟨requestId, params⟩).payload = .ok (putVi requestId ++ out) := by
      simp only [payload, RequestUpdate.payload, hout]
      rfl
    refine rewritten_of_parameters rfl trivial hgood ?_ hpayload ?_
    · simp only [ControlMessage.canonical, hcanonical]
    · simp only [List.length_append, length_putVi, parameters] at hconsumed ⊢
      omega
  | requestOk | publishOk =>
    obtain ⟨⟨m', left⟩, hm, hret⟩ := except_bind_eq_ok.mp h
    cases hret
    obtain ⟨⟨⟨params, properties⟩, left'⟩, hanswer, hret⟩ := except_bind_eq_ok.mp hm
    cases hret
    obtain ⟨hgood, hcanonical, hwf, hsorted, rfl, out, hout, hlength⟩ := getAnswer_rewrites hanswer
    refine ⟨⟨hgood, hwf, trivial⟩, ?_, out, hout, hlength⟩
    simp only [ControlMessage.canonical, hcanonical, hsorted]
  | subscribeOk =>
    obtain ⟨⟨m', left⟩, hm, hret⟩ := except_bind_eq_ok.mp h
    cases hret
    obtain ⟨⟨trackAlias, left'⟩, halias, hm⟩ := except_bind_eq_ok.mp hm
    obtain ⟨⟨⟨params, properties⟩, left''⟩, hanswer, hret⟩ := except_bind_eq_ok.mp hm
    cases hret
    have hconsumed := (getVi_consumes (lift_eq_ok.mp halias)).2
    obtain ⟨hgood, hcanonical, hwf, hsorted, rfl, out, hout, hlength⟩ := getAnswer_rewrites hanswer
    refine ⟨⟨hgood, hwf, trivial⟩, ?_, putVi trackAlias ++ out, ?_, ?_⟩
    · simp only [ControlMessage.canonical, hcanonical, hsorted]
    · simp only [payload, SubscribeOk.payload, hout]
      rfl
    · simp only [List.length_append, length_putVi, List.length_nil, parameters] at hconsumed ⊢
      omega
  | fetchOk =>
    obtain ⟨⟨m', left⟩, hm, hret⟩ := except_bind_eq_ok.mp h
    cases hret
    obtain ⟨⟨endOfTrack, left'⟩, hend, hm⟩ := except_bind_eq_ok.mp hm
    obtain ⟨⟨endLocation, left''⟩, hlocation, hm⟩ := except_bind_eq_ok.mp hm
    obtain ⟨⟨⟨params, properties⟩, left₃⟩, hanswer, hret⟩ := except_bind_eq_ok.mp hm
    cases hret
    have hconsumed := getEndOfTrack_consumes (lift_eq_ok.mp hend)
    have hbytes := Location.deserialize_rewrites (lift_eq_ok.mp hlocation)
    obtain ⟨hgood, hcanonical, hwf, hsorted, rfl, out, hout, hlength⟩ := getAnswer_rewrites hanswer
    refine ⟨⟨hgood, hwf, trivial⟩, ?_,
      (if endOfTrack then 1 else 0) :: (endLocation.serialize ++ out), ?_, ?_⟩
    · simp only [ControlMessage.canonical, hcanonical, hsorted]
    · simp only [payload, FetchOk.payload, hout]
      rfl
    · simp only [List.length_cons, List.length_append, List.length_nil, parameters] at hbytes ⊢
      omega
  | publish =>
    obtain ⟨⟨m', left⟩, hm, hret⟩ := except_bind_eq_ok.mp h
    cases hret
    obtain ⟨⟨requestId, left'⟩, hid, hm⟩ := except_bind_eq_ok.mp hm
    obtain ⟨⟨trackNamespace, left''⟩, hnamespace, hm⟩ := except_bind_eq_ok.mp hm
    obtain ⟨⟨trackName, left₃⟩, hname, hm⟩ := except_bind_eq_ok.mp hm
    obtain ⟨⟨trackAlias, left₄⟩, halias, hm⟩ := except_bind_eq_ok.mp hm
    obtain ⟨⟨⟨params, properties⟩, left₅⟩, hanswer, hret⟩ := except_bind_eq_ok.mp hm
    cases hret
    have hidBytes := (getVi_consumes (lift_eq_ok.mp hid)).2
    have htuple := Tuple.deserialize_rewrites (lift_eq_ok.mp hnamespace)
    have hfield := getLengthPrefixed_rewrites (lift_eq_ok.mp hname)
    have haliasBytes := (getVi_consumes (lift_eq_ok.mp halias)).2
    obtain ⟨hgood, hcanonical, hwf, hsorted, rfl, out, hout, hlength⟩ := getAnswer_rewrites hanswer
    refine ⟨⟨hgood, hwf, trivial⟩, ?_, putVi requestId ++ trackNamespace.serialize ++
      putLengthPrefixed trackName ++ putVi trackAlias ++ out, ?_, ?_⟩
    · simp only [ControlMessage.canonical, hcanonical, hsorted]
    · simp only [payload, Publish.payload, hout]
      rfl
    · simp only [List.length_append, length_putVi, List.length_nil, parameters] at hidBytes haliasBytes ⊢
      omega
  | publishDone =>
    obtain ⟨⟨m', left⟩, hm, hret⟩ := except_bind_eq_ok.mp h
    cases hret
    obtain ⟨⟨statusRaw, left'⟩, hstatus, hm⟩ := except_bind_eq_ok.mp (lift_eq_ok.mp hm)
    obtain ⟨⟨streamCount, left''⟩, hcount, hm⟩ := except_bind_eq_ok.mp hm
    obtain ⟨⟨reasonPhrase, left₃⟩, hreason, hret⟩ := except_bind_eq_ok.mp hm
    cases hret
    have hstatusBytes := (getVi_consumes hstatus).2
    have hcountBytes := (getVi_consumes hcount).2
    have hreasonBytes := ReasonPhrase.deserialize_rewrites hreason
    have hshort := PublishDoneStatusCode.length_fromWire statusRaw
    refine rewritten_of_plain rfl rfl trivial rfl rfl ?_
    simp only [List.length_append, length_putVi] at hstatusBytes hcountBytes ⊢
    omega
  | publishSkipped =>
    obtain ⟨⟨m', left⟩, hm, hret⟩ := except_bind_eq_ok.mp h
    cases hret
    obtain ⟨⟨suffix, left'⟩, hsuffix, hm⟩ := except_bind_eq_ok.mp (lift_eq_ok.mp hm)
    obtain ⟨⟨trackName, left''⟩, hname, hret⟩ := except_bind_eq_ok.mp hm
    cases hret
    have htuple := Tuple.deserialize_rewrites hsuffix
    have hfield := getLengthPrefixed_rewrites hname
    refine rewritten_of_plain rfl rfl trivial rfl rfl ?_
    simp only [List.length_append]
    omega
  | goAway =>
    obtain ⟨⟨m', left⟩, hm, hret⟩ := except_bind_eq_ok.mp h
    cases hret
    exact goaway_rewritten (lift_eq_ok.mp hm)
  | setup =>
    obtain ⟨⟨m', left⟩, hm, hret⟩ := except_bind_eq_ok.mp h
    cases hret
    obtain ⟨options, hoptions, hret⟩ := except_bind_eq_ok.mp (lift_eq_ok.mp hm)
    cases hret
    obtain ⟨hfrom, -⟩ := deserializeKvpsFrom_wellFormed _ _ _ _ hoptions
    obtain ⟨out, hout, hlength, -⟩ := deserializeKvpListUntilEmpty_reencodes hoptions
    exact rewritten_of_plain rfl rfl hfrom.wellFormed
      (congrArg (fun options => setup ⟨options⟩) (sortByType_of_kvpsFrom hfrom)) hout hlength
  | requestError =>
    obtain ⟨⟨m', left⟩, hm, hret⟩ := except_bind_eq_ok.mp h
    cases hret
    exact requestError_rewritten (lift_eq_ok.mp hm)

/-! Frames. -/

theorem frame_eq_ok {context : String} {t : ControlMessageType} {payload out : Bytes} :
    frame context t payload = .ok out ↔ payload.length ≤ 65535 ∧
      out = putVi t.toU64 ++ beBytes 2 (UInt64.ofNat payload.length) ++ payload := by
  unfold frame
  split
  next hlong =>
    constructor
    · intro h
      cases h
    · rintro ⟨hle, -⟩
      omega
  next hshort =>
    rw [except_pure, Except.ok.injEq, eq_comm]
    exact ⟨fun h => ⟨by omega, h⟩, And.right⟩

theorem serialize_eq_ok {m : ControlMessage} {out : Bytes} :
    m.serialize = .ok out ↔ ∃ payload, m.payload = .ok payload ∧ payload.length ≤ 65535 ∧
      out = putVi m.getType.toU64 ++ beBytes 2 (UInt64.ofNat payload.length) ++ payload := by
  have hframe (context : String) (x : Parse Bytes) (t : ControlMessageType) :
      (x >>= frame context t) = .ok out ↔ ∃ payload, x = .ok payload ∧ payload.length ≤ 65535 ∧
        out = putVi t.toU64 ++ beBytes 2 (UInt64.ofNat payload.length) ++ payload := by
    rw [except_bind_eq_ok]
    exact exists_congr fun payload => and_congr_right fun _ => frame_eq_ok
  cases m <;> exact hframe _ _ _

theorem getFrame_reads (t : ControlMessageType) {payload : Bytes} (h : payload.length ≤ 65535) :
    Reads getFrame (putVi t.toU64 ++ beBytes 2 (UInt64.ofNat payload.length) ++ payload)
      (t, payload) := by
  intro tail
  have hnat : (UInt64.ofNat payload.length).toNat = payload.length :=
    toNat_ofNat_length (by omega)
  have hbytes := length_beBytes 2 (UInt64.ofNat payload.length)
  have hvalue : beNat (beBytes 2 (UInt64.ofNat payload.length)) = payload.length := by
    rw [beNat_beBytes 2 (by decide), hnat, Nat.mod_eq_of_lt (by omega)]
  have hpayloadLength : getPayloadLength
      (beBytes 2 (UInt64.ofNat payload.length) ++ (payload ++ tail)) =
        .ok (payload.length, payload ++ tail) := by
    rw [getPayloadLength, if_neg (by rw [List.length_append]; omega), List.take_left' hbytes,
      List.drop_left' hbytes, hvalue]
  simp only [getFrame, List.append_assoc, getVi_putVi, except_ok_bind,
    ControlMessageType.tryFrom_toU64, hpayloadLength, copyToBytes_append, except_pure]

theorem parseWhole_eq_ok {alloc : Allocator} {msgType : ControlMessageType} {payload : Bytes}
    {m : ControlMessage} :
    parseWhole alloc msgType payload = .ok m ↔ parsePayload alloc msgType payload = .ok (m, []) := by
  unfold parseWhole
  rw [except_bind_eq_ok]
  constructor
  · rintro ⟨⟨m', left⟩, hparse, h⟩
    simp only at h
    split at h
    · cases h
    next hempty =>
      cases h
      rw [not_not, List.isEmpty_iff] at hempty
      rw [except_mapError_eq_ok.mp hparse, hempty]
  · intro hparse
    exact ⟨(m, []), except_mapError_eq_ok.mpr hparse, rfl⟩

theorem deserialize_eq_ok {alloc : Allocator} {bytes rest : Bytes} {m : ControlMessage} :
    deserialize alloc bytes = .ok (m, rest) ↔ ∃ msgType payload,
      getFrame bytes = .ok ((msgType, payload), rest) ∧
        parsePayload alloc msgType payload = .ok (m, []) := by
  unfold deserialize
  rw [except_bind_eq_ok]
  constructor
  · rintro ⟨⟨⟨msgType, payload⟩, left⟩, hframe, h⟩
    obtain ⟨m', hparse, hret⟩ := except_bind_eq_ok.mp h
    cases hret
    exact ⟨msgType, payload, lift_eq_ok.mp hframe, parseWhole_eq_ok.mp hparse⟩
  · rintro ⟨msgType, payload, hframe, hparse⟩
    refine ⟨((msgType, payload), rest), lift_eq_ok.mpr hframe, ?_⟩
    simp only [parseWhole_eq_ok.mpr hparse]
    rfl

theorem reads_of_serialize (alloc : Allocator) {m : ControlMessage} (hwf : m.WellFormed)
    {out : Bytes} (h : m.serialize = .ok out) : Reads (deserialize alloc) out m.canonical := by
  obtain ⟨payload, hpayload, hlength, rfl⟩ := serialize_eq_ok.mp h
  intro tail
  exact deserialize_eq_ok.mpr ⟨m.getType, payload, getFrame_reads m.getType hlength tail,
    parsePayload_of_payload alloc hwf hpayload hlength⟩

/-- What is written of a message that the reader takes is read back, with its lists in the order
of their Types, and the bytes after it are left. -/
theorem serialized_reads_back (alloc : Allocator) {m : ControlMessage} (hwf : m.WellFormed)
    {out : Bytes} (h : m.serialize = .ok out) (tail : Bytes) :
    deserialize alloc (out ++ tail) = .ok (m.canonical, tail) :=
  reads_of_serialize alloc hwf h tail

/-- Two parameters in descending order are read back in ascending order. -/
theorem serialized_reads_back_subscribe : ∃ out,
    (subscribe ⟨1, ⟨[[1]]⟩, [2], [.forward true, .objectDeliveryTimeout 3]⟩).serialize = .ok out ∧
      deserialize ⟨65535, le_rfl⟩ (out ++ [9]) = .ok (subscribe ⟨1, ⟨[[1]]⟩, [2],
        [.objectDeliveryTimeout 3, .forward true]⟩, [9]) := by
  have hwf : (subscribe ⟨1, ⟨[[1]]⟩, [2],
      [.forward true, .objectDeliveryTimeout 3]⟩).WellFormed := by
    refine ⟨?_, nofun, trivial⟩
    intro p hp
    simp only [parameters, List.mem_cons, List.not_mem_nil, or_false] at hp
    rcases hp with rfl | rfl <;> exact ⟨trivial, rfl⟩
  exact ⟨_, rfl, serialized_reads_back ⟨65535, le_rfl⟩ hwf rfl [9]⟩

/-- The writer does not ask which message may carry a parameter; the reader does. -/
theorem not_serialized_reads_back : ¬ ∀ (alloc : Allocator) (m : ControlMessage) (out tail : Bytes),
    m.serialize = .ok out → deserialize alloc (out ++ tail) = .ok (m.canonical, tail) := by
  intro h
  have hread := h ⟨65535, le_rfl⟩ (subscribe ⟨1, ⟨[[1]]⟩, [2], [.fillTimeout 5]⟩) _ [] rfl
  cases hread

/-- The length that the payload of a message has when it is written. -/
def payloadLength (m : ControlMessage) : Nat :=
  match m.payload with
  | .ok payload => payload.length
  | .error _ => 0

/-- A message that was read can be written again and is read back the same exactly when its
payload still fits, and that can fail only by the ranks that its SWITCHING_SET_ASSIGNMENTs left
out. -/
theorem accepted_rewritable_iff {alloc : Allocator} {bytes rest : Bytes} {m : ControlMessage}
    (h : deserialize alloc bytes = .ok (m, rest)) :
    ((∃ out, m.serialize = .ok out ∧ deserialize alloc out = .ok (m, [])) ↔
      m.payloadLength ≤ 65535) ∧
      ∃ msgType payload, getFrame bytes = .ok ((msgType, payload), rest) ∧
        m.payloadLength ≤ payload.length + slack m.parameters := by
  obtain ⟨msgType, payload, hframe, hparse⟩ := deserialize_eq_ok.mp h
  obtain ⟨hwf, hcanonical, out, hout, hlength⟩ := rewritten_of_parsePayload hparse
  -- a payload that was read has been written before its length is looked at
  have hsize : m.payloadLength = out.length := by simp only [payloadLength, hout]
  refine ⟨?_, msgType, payload, hframe, hsize ▸ hlength⟩
  rw [hsize]
  constructor
  · rintro ⟨written, hwritten, -⟩
    obtain ⟨out', hout', hle, -⟩ := serialize_eq_ok.mp hwritten
    rw [hout, Except.ok.injEq] at hout'
    exact hout' ▸ hle
  · intro hle
    have hwritten := serialize_eq_ok.mpr ⟨out, hout, hle, rfl⟩
    have hback := reads_of_serialize alloc hwf hwritten []
    rw [List.append_nil, hcanonical] at hback
    exact ⟨_, hwritten, hback⟩

theorem accepted_rewritable_iff_subscribe : ∃ m,
    deserialize ⟨65535, le_rfl⟩ [3, 0, 9, 1, 1, 1, 1, 1, 2, 1, 0x10, 1] = .ok (m, []) ∧
      ∃ out, m.serialize = .ok out ∧ deserialize ⟨65535, le_rfl⟩ out = .ok (m, []) := by
  have hread : deserialize ⟨65535, le_rfl⟩ [3, 0, 9, 1, 1, 1, 1, 1, 2, 1, 0x10, 1] =
      .ok (subscribe ⟨1, ⟨[[1]]⟩, [2], [.forward true]⟩, []) := rfl
  exact ⟨_, hread, (accepted_rewritable_iff hread).1.mpr (by decide)⟩

/-- The payload of a SUBSCRIBE whose SWITCHING_SET_ASSIGNMENT has no rank. -/
def unrankedPayload (name : Bytes) : Bytes :=
  putVi 1 ++ (Tuple.mk []).serialize ++ putLengthPrefixed name ++ [1, 0x41, 5, 7, 0, 100, 5, 2]

theorem length_unrankedPayload (name : Bytes) : (unrankedPayload name).length =
    minimalViLength (UInt64.ofNat name.length) + name.length + 10 := by
  simp only [unrankedPayload, Tuple.serialize, putLengthPrefixed, List.length_append, length_putVi,
    List.length_cons, List.length_nil, List.map_nil, List.flatten_nil]
  have hone : minimalViLength 1 = 1 := rfl
  have hnone : minimalViLength (UInt64.ofNat 0) = 1 := rfl
  omega

theorem deserialize_unranked (alloc : Allocator) {name : Bytes}
    (h : (unrankedPayload name).length ≤ 65535) :
    deserialize alloc
        (putVi 3 ++ beBytes 2 (UInt64.ofNat (unrankedPayload name).length) ++ unrankedPayload name) =
      .ok (subscribe ⟨1, ⟨[]⟩, name, [.switchingSetAssignment 7 0 100 5 2 0]⟩, []) := by
  have hframe := getFrame_reads .subscribe h []
  rw [List.append_nil] at hframe
  have hparams : getParameters alloc .subscribe [1, 0x41, 5, 7, 0, 100, 5, 2] =
      .ok ([.switchingSetAssignment 7 0 100 5 2 0], []) := by
    have hroom : ¬ (1 : UInt64).toNat > alloc.reservable := by
      have := alloc.payload_le
      show ¬ 1 > alloc.reservable
      omega
    show (do deserializeMessageParameters alloc [0x41, 5, 7, 0, 100, 5, 2] 1 .subscribe) = _
    rw [deserializeMessageParameters, if_neg hroom]
    rfl
  have hname : name.length < 2 ^ 64 := by
    rw [length_unrankedPayload] at h
    omega
  refine deserialize_eq_ok.mpr ⟨.subscribe, unrankedPayload name, hframe, ?_⟩
  simp only [parsePayload, Subscribe.parsePayload, getTrackRequest, unrankedPayload, List.append_assoc,
    getVi_putVi, lift_ok, except_ok_bind]
  rw [Tuple.deserialize_reads (by decide)]
  simp only [lift_ok, except_ok_bind]
  rw [getLengthPrefixed_reads _ hname]
  simp only [lift_ok, except_ok_bind, hparams, except_pure]

theorem length_payload_ranked {name payload : Bytes}
    (h : (subscribe ⟨1, ⟨[]⟩, name, [.switchingSetAssignment 7 0 100 5 2 0]⟩).payload = .ok payload) :
    payload.length = (unrankedPayload name).length + 1 := by
  have hparams : putParameters [.switchingSetAssignment 7 0 100 5 2 0] =
      .ok [1, 0x41, 6, 7, 0, 100, 5, 2, 0] := rfl
  simp only [ControlMessage.payload, Subscribe.payload, putTrackRequest, hparams, except_ok_bind,
    except_pure, Except.ok.injEq] at h
  subst h
  simp only [unrankedPayload, List.length_append, List.length_cons]
  omega

/-- A SUBSCRIBE of 65535 bytes whose SWITCHING_SET_ASSIGNMENT has no rank. -/
def fullPayload : Bytes :=
  putVi 1 ++ (Tuple.mk []).serialize ++ putLengthPrefixed (List.replicate 65522 0) ++
    [1, 0x41, 5, 7, 0, 100, 5, 2]

theorem length_fullPayload : fullPayload.length = 65535 := by
  have hname : (List.replicate 65522 (0 : UInt8)).length = 65522 := List.length_replicate
  have hlength := length_unrankedPayload (List.replicate 65522 0)
  rw [hname] at hlength
  exact hlength

theorem deserialize_full (alloc : Allocator) :
    deserialize alloc (putVi 3 ++ beBytes 2 (UInt64.ofNat fullPayload.length) ++ fullPayload) =
      .ok (subscribe ⟨1, ⟨[]⟩, List.replicate 65522 0,
        [.switchingSetAssignment 7 0 100 5 2 0]⟩, []) :=
  deserialize_unranked alloc length_fullPayload.le

/-- The rank that the writer puts in is one byte too many. -/
theorem not_accepted_rewritable : ¬ ∀ (alloc : Allocator) (bytes : Bytes) (m : ControlMessage)
    (rest : Bytes), deserialize alloc bytes = .ok (m, rest) →
      ∃ out, m.serialize = .ok out ∧ deserialize alloc out = .ok (m, []) := by
  intro h
  obtain ⟨out, hout, -⟩ := h ⟨65535, le_rfl⟩ _ _ _ (deserialize_full ⟨65535, le_rfl⟩)
  obtain ⟨payload, hpayload, hle, -⟩ := serialize_eq_ok.mp hout
  have hranked := length_payload_ranked hpayload
  have hfull : (unrankedPayload (List.replicate 65522 0)).length = 65535 := length_fullPayload
  rw [hfull] at hranked
  omega

end ControlMessage

end Moqtail.Message
