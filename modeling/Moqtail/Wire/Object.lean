import Moqtail.Wire.Location
import Moqtail.Wire.Datagram

/-! The unified view of an object and its conversions, from `model/data/object.rs`,
and what survives a relay that takes every object through that view. -/
namespace Moqtail

open Lib

inductive ObjectForwardingPreference where
  | subgroup
  | datagram
deriving Repr, DecidableEq

structure Object where
  trackAlias : UInt64
  location : Location
  publisherPriority : UInt8
  forwardingPreference : ObjectForwardingPreference
  subgroupId : Option UInt64
  status : ObjectStatus
  properties : Option (List ObjectProperty)
  payload : Option Bytes
deriving Repr, DecidableEq

namespace Object

def tryFromDatagram (datagram : Datagram) (defaultPriority : UInt8) : Parse (Object × Bool) :=
  let (status, payload) :=
    match datagram.objectStatus with
    | some objectStatus => (objectStatus, none)
    | none => (.normal, datagram.payload)
  .ok ({
    trackAlias := datagram.trackAlias
    location := ⟨datagram.groupId, datagram.objectId⟩
    publisherPriority := datagram.publisherPriority.getD defaultPriority
    forwardingPreference := .datagram
    subgroupId := none
    status := status
    properties := datagram.properties
    payload := payload }, datagram.endOfGroup)

def tryFromSubgroup (o : SubgroupObject) (trackAlias groupId : UInt64)
    (subgroupId : Option UInt64) (publisherPriority : Option UInt8) (defaultPriority : UInt8) :
    Parse Object :=
  .ok {
    trackAlias := trackAlias
    location := ⟨groupId, o.objectId⟩
    publisherPriority := publisherPriority.getD defaultPriority
    forwardingPreference := .subgroup
    subgroupId := subgroupId
    status := o.objectStatus.getD .normal
    properties := o.properties
    payload := o.payload }

/-- A priority equal to the default is left off the wire. -/
def wirePriority (defaultPriority : Option UInt8) (priority : UInt8) : Option UInt8 :=
  if defaultPriority = some priority then none else some priority

def tryIntoDatagram (object : Object) (trackAlias : UInt64) (endOfGroup : Bool)
    (defaultPriority : Option UInt8) : Parse Datagram :=
  if object.forwardingPreference ≠ .datagram then
    .error (.castingError "Object::try_into_datagram(forwarding_preference)" "Object" "Datagram"
      "Forwarding preference must be Datagram")
  else
    let publisherPriority := wirePriority defaultPriority object.publisherPriority
    if object.status ≠ .normal then
      if object.payload.isSome then
        .error (.castingError "Object::try_into_datagram(payload)" "Object" "Datagram"
          "Payload must be None for non-Normal status")
      else
        .ok (.newStatus trackAlias object.location.group object.location.object publisherPriority
          object.properties object.status)
    else
      match object.payload with
      | none => .error (.castingError "Object::try_into_datagram(payload)" "Object" "Datagram"
        "Payload cannot be empty")
      | some payload =>
        .ok (.newPayload trackAlias object.location.group object.location.object
          publisherPriority object.properties payload endOfGroup)

def tryIntoSubgroup (object : Object) : Parse SubgroupObject :=
  if object.forwardingPreference ≠ .subgroup then
    .error (.castingError "Object::try_into_subgroup(forwarding_preference)" "Object"
      "SubgroupObject" "Forwarding preference must be Subgroup")
  else
    match object.subgroupId with
    | none => .error (.castingError "Object::try_into_subgroup(subgroup_id)" "Object"
      "SubgroupObject" "Subgroup ID must be present for Subgroup forwarding")
    | some _ =>
      match object.status, object.payload with
      | .normal, some payload => .ok ⟨object.location.object, object.properties, none, some payload⟩
      | .normal, none => .error (.castingError "Object::try_into_subgroup(payload)" "Object"
        "SubgroupObject" "Payload must be present for Normal status")
      | _, some _ => .error (.castingError "Object::try_into_subgroup(payload)" "Object"
        "SubgroupObject" "Payload must be None for non-Normal status")
      | status, none => .ok ⟨object.location.object, object.properties, some status, none⟩

end Object

/-! A hop over a subgroup object. -/

namespace SubgroupObject

/-- The zero-length object with an explicit Normal status. -/
def IsZeroLengthNormal (o : SubgroupObject) : Prop :=
  o.payload = none ∧ o.objectStatus = some .normal

instance (o : SubgroupObject) : Decidable o.IsZeroLengthNormal :=
  inferInstanceAs (Decidable (_ ∧ _))

/-- The same object, with an absent status read as Normal and an absent payload as an
empty one. -/
structure Same (o o' : SubgroupObject) : Prop where
  objectId : o'.objectId = o.objectId
  properties : o'.properties = o.properties
  status : o'.objectStatus.getD .normal = o.objectStatus.getD .normal
  payload : o'.payload.getD [] = o.payload.getD []

/-- The relay can take the object in with this header context and send it on under the
same flag, after any previous object ID, to a reader that sees the same object. -/
def PassesThrough (o : SubgroupObject) (trackAlias groupId : UInt64)
    (subgroupId : Option UInt64) (publisherPriority : Option UInt8) (defaultPriority : UInt8)
    (hasProperties : Bool) : Prop :=
  ∃ object o', Object.tryFromSubgroup o trackAlias groupId subgroupId publisherPriority
      defaultPriority = .ok object ∧
    object.tryIntoSubgroup = .ok o' ∧
    ∀ previous, ∃ out, o'.serialize previous hasProperties = .ok out ∧
      ∀ tail, ∃ o'', deserialize (out ++ tail) previous hasProperties = .ok (o'', tail) ∧
        Same o o''

/-- With a Subgroup ID at hand, the conversions give back the very object that was read,
unless it is a zero-length Normal one. -/
theorem tryIntoSubgroup_tryFromSubgroup {o : SubgroupObject} {hasProperties : Bool}
    (h : o.Readable hasProperties) (hlen : ¬ o.IsZeroLengthNormal)
    (trackAlias groupId subgroupId : UInt64) (publisherPriority : Option UInt8)
    (defaultPriority : UInt8) :
    (Object.tryFromSubgroup o trackAlias groupId (some subgroupId) publisherPriority
      defaultPriority >>= Object.tryIntoSubgroup) = .ok o := by
  obtain ⟨id, properties, status, payload⟩ := o
  have hbody := h.body
  cases payload with
  | some payload =>
    cases status with
    | some status => simp [BodyReadable] at hbody
    | none => rfl
  | none =>
    cases status with
    | none => simp [BodyReadable] at hbody
    | some status =>
      cases status with
      | normal => exact absurd ⟨rfl, rfl⟩ hlen
      | endOfGroup => rfl
      | endOfTrack => rfl

theorem passesThrough_iff {o : SubgroupObject} {hasProperties : Bool}
    (h : o.Readable hasProperties) (trackAlias groupId : UInt64) (subgroupId : Option UInt64)
    (publisherPriority : Option UInt8) (defaultPriority : UInt8) :
    o.PassesThrough trackAlias groupId subgroupId publisherPriority defaultPriority hasProperties ↔
      subgroupId.isSome ∧ ¬ o.IsZeroLengthNormal := by
  constructor
  · rintro ⟨object, o', hfrom, hinto, -⟩
    simp only [Object.tryFromSubgroup, Except.ok.injEq] at hfrom
    subst hfrom
    cases subgroupId with
    | none => simp [Object.tryIntoSubgroup] at hinto
    | some id =>
      refine ⟨rfl, ?_⟩
      rintro ⟨hpayload, hstatus⟩
      simp [Object.tryIntoSubgroup, hpayload, hstatus] at hinto
  · rintro ⟨hid, hlen⟩
    obtain ⟨id, rfl⟩ := Option.isSome_iff_exists.mp hid
    have hback := tryIntoSubgroup_tryFromSubgroup h hlen trackAlias groupId id publisherPriority
      defaultPriority
    obtain ⟨object, hfrom, hinto⟩ := except_bind_eq_ok.mp hback
    refine ⟨object, o, hfrom, hinto, fun previous => ?_⟩
    obtain ⟨out, hout, hreads⟩ := deserialize_serialize o hasProperties h previous
    exact ⟨out, hout, fun tail => ⟨o, hreads tail, rfl, rfl, rfl, rfl⟩⟩

end SubgroupObject

/-! A hop over a datagram. -/

namespace Datagram

/-- The same datagram for a reader that knows the track's default priority. -/
structure Same (defaultPriority : UInt8) (d d' : Datagram) : Prop where
  groupId : d'.groupId = d.groupId
  objectId : d'.objectId = d.objectId
  priority : d'.publisherPriority.getD defaultPriority = d.publisherPriority.getD defaultPriority
  properties : d'.properties = d.properties
  status : d'.objectStatus.getD .normal = d.objectStatus.getD .normal
  payload : d'.payload.getD [] = d.payload.getD []
  endOfGroup : d'.endOfGroup = d.endOfGroup

/-- The relay can take the datagram in and send it on under `trackAlias`, omitting the
priority where it is the default `omitted`, to a reader that sees the same datagram. -/
def PassesThrough (d : Datagram) (trackAlias : UInt64) (defaultPriority : UInt8)
    (omitted : Option UInt8) : Prop :=
  ∃ object endOfGroup d', Object.tryFromDatagram d defaultPriority = .ok (object, endOfGroup) ∧
    object.tryIntoDatagram trackAlias endOfGroup omitted = .ok d' ∧
    d'.trackAlias = trackAlias ∧ Same defaultPriority d d' ∧
    ∃ out, d'.serialize = .ok out ∧ deserialize out = .ok (d', [])

private theorem wirePriority_getD (priority defaultPriority : UInt8) (omitted : Option UInt8)
    (homitted : omitted = none ∨ omitted = some defaultPriority) :
    (Object.wirePriority omitted priority).getD defaultPriority = priority := by
  unfold Object.wirePriority
  split
  · next heq =>
    rcases homitted with rfl | rfl
    · simp at heq
    · simpa using heq
  · rfl

theorem passesThrough_iff {d : Datagram} (h : d.Readable) (trackAlias : UInt64)
    (defaultPriority : UInt8) (omitted : Option UInt8)
    (homitted : omitted = none ∨ omitted = some defaultPriority) :
    d.PassesThrough trackAlias defaultPriority omitted ↔ d.objectStatus ≠ some .normal := by
  have hpriority := wirePriority_getD (d.publisherPriority.getD defaultPriority) defaultPriority
    omitted homitted
  have hpayload := h.payload
  constructor
  · rintro ⟨object, endOfGroup, d', hfrom, hinto, -⟩ hstatus
    simp only [Object.tryFromDatagram, hstatus, Except.ok.injEq, Prod.mk.injEq] at hfrom
    obtain ⟨rfl, rfl⟩ := hfrom
    simp [Object.tryIntoDatagram] at hinto
  · intro hstatus
    cases hs : d.objectStatus with
    | none =>
      rw [hs] at hpayload
      obtain ⟨payload, hp⟩ : ∃ payload, d.payload = some payload := by
        cases hp : d.payload with
        | none => simp [hp] at hpayload
        | some payload => exact ⟨payload, rfl⟩
      refine ⟨_, _, newPayload trackAlias d.groupId d.objectId
        (Object.wirePriority omitted (d.publisherPriority.getD defaultPriority)) d.properties
        payload d.endOfGroup, rfl, by simp only [Object.tryIntoDatagram, hs, hp, ne_eq, not_true_eq_false, if_false],
        rfl, ⟨rfl, rfl, hpriority, rfl, ?_, ?_, rfl⟩, ?_⟩
      · simp [newPayload, hs]
      · simp [newPayload, hp]
      · exact deserialize_serialize _ ⟨h.properties, rfl, by simp [newPayload],
          by simp [newPayload, nonNormal]⟩
    | some status =>
      have hne : status ≠ .normal := by
        rintro rfl
        exact hstatus hs
      have hend := h.endOfGroup (by simp [hs])
      have hprops := h.noProperties (by simp [nonNormal, hs, hne])
      rw [hs, Option.isSome_some, Option.isNone_iff_eq_none] at hpayload
      refine ⟨_, _, newStatus trackAlias d.groupId d.objectId
        (Object.wirePriority omitted (d.publisherPriority.getD defaultPriority)) d.properties
        status, rfl, by simp only [Object.tryIntoDatagram, hs, hne, ne_eq, not_false_eq_true, if_true,
          not_true_eq_false, if_false, Option.isSome_none, Bool.false_eq_true],
        rfl, ⟨rfl, rfl, hpriority, rfl, ?_, ?_, ?_⟩, ?_⟩
      · simp [newStatus, hs]
      · simp [newStatus, hpayload]
      · simp [newStatus, hend]
      · exact deserialize_serialize _ ⟨h.properties, rfl, by simp [newStatus],
          by simp [newStatus, hprops]⟩

end Datagram

/-- Every subgroup object that can be read passes through the relay in every header
context that names its subgroup, and every datagram that can be read passes through. -/
def RelayPassThrough : Prop :=
  (∀ bytes previous hasProperties o rest,
    SubgroupObject.deserialize bytes previous hasProperties = .ok (o, rest) →
    ∀ trackAlias groupId subgroupId publisherPriority defaultPriority,
      o.PassesThrough trackAlias groupId (some subgroupId) publisherPriority defaultPriority
        hasProperties) ∧
  ∀ bytes d rest, Datagram.deserialize bytes = .ok (d, rest) →
    ∀ trackAlias defaultPriority omitted, omitted = none ∨ omitted = some defaultPriority →
      d.PassesThrough trackAlias defaultPriority omitted

/-- Of what bytes decode to, everything passes through but the zero-length object with Normal
status, on a stream or in a datagram. -/
theorem relayPassThrough_iff (bytes rest : Bytes) (trackAlias : UInt64) (defaultPriority : UInt8) :
    (∀ previous hasProperties o,
      SubgroupObject.deserialize bytes previous hasProperties = .ok (o, rest) →
      ∀ groupId subgroupId publisherPriority,
        o.PassesThrough trackAlias groupId subgroupId publisherPriority defaultPriority
          hasProperties ↔ subgroupId.isSome ∧ ¬ o.IsZeroLengthNormal) ∧
    ∀ d, Datagram.deserialize bytes = .ok (d, rest) →
      ∀ omitted, omitted = none ∨ omitted = some defaultPriority →
        (d.PassesThrough trackAlias defaultPriority omitted ↔ d.objectStatus ≠ some .normal) := by
  constructor
  · intro previous hasProperties o h groupId subgroupId publisherPriority
    exact SubgroupObject.passesThrough_iff (SubgroupObject.deserialize_readable h) trackAlias
      groupId subgroupId publisherPriority defaultPriority
  · intro d h omitted homitted
    exact Datagram.passesThrough_iff (Datagram.deserialize_readable h) trackAlias defaultPriority
      omitted homitted

/-- Object 7 of a subgroup with the payload `[1, 2]` passes; so does a datagram with an
empty payload. -/
theorem relayPassThrough_iff_payload :
    (⟨7, none, none, some [1, 2]⟩ : SubgroupObject).PassesThrough 3 0 (some 0) none 128 false ∧
      (Datagram.newPayload 3 0 1 (some 5) none [] true).PassesThrough 3 128 none := by
  refine ⟨((relayPassThrough_iff [7, 2, 1, 2] [] 3 128).1 none false _ rfl 0 (some 0) none).mpr ?_,
    ((relayPassThrough_iff [0x02, 3, 0, 1, 5] [] 3 128).2 _ rfl none (Or.inl rfl)).mpr ?_⟩
  · decide
  · decide

/-- The bytes `0, 0, 0` are object 0 with an explicit Normal status and no payload, which
cannot be turned back into a subgroup object. -/
theorem zeroLengthNormal_not_relayed : ¬ RelayPassThrough := by
  intro h
  obtain ⟨object, o', hfrom, hinto, -⟩ := h.1 [0, 0, 0] none false _ [] rfl 3 0 0 none 128
  simp only [Object.tryFromSubgroup, Except.ok.injEq] at hfrom
  subst hfrom
  simp [Object.tryIntoSubgroup] at hinto

end Moqtail
