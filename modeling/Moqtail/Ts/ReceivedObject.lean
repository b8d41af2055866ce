import Moqtail.Transport.SubgroupIdentity
import Moqtail.Ts.StreamAgreement

/-! The Objects that the TypeScript client makes of a data stream, from `client/client.ts` and
`model/data/object.ts`.

The Subgroup ID of a stream that leaves it to the first Object is kept in a variable that is set as
long as it is falsy, which `0n` is. -/
namespace Moqtail.Ts

open Lib

/-- A `MoqtObject` as the application gets it. The track name is left out. -/
structure ReceivedObject where
  location : Location
  publisherPriority : Int
  objectForwardingPreference : ObjectForwardingPreference
  subgroupId : Option Int
  objectStatus : ObjectStatus
  properties : Option (List KeyValuePair)
  payload : Option Bytes
deriving DecidableEq

/-- What the application gets of a stream: Objects, and End of Range markers by `onEndOfRange`. -/
inductive Delivered where
  | object (object : ReceivedObject)
  | endOfRange (kind : EndOfRangeKind) (location : Location)
deriving DecidableEq

def defaultPublisherPriority : Int := 128

namespace ReceivedObject

def fromSubgroupObject (subgroupObject : SubgroupObject) (groupId : Int)
    (publisherPriority : Option Int) (subgroupId : Option Int) : ReceivedObject where
  location := ⟨groupId, subgroupObject.objectId⟩
  publisherPriority := publisherPriority.getD defaultPublisherPriority
  objectForwardingPreference := .subgroup
  subgroupId := subgroupId
  objectStatus := subgroupObject.objectStatus.getD .normal
  properties := subgroupObject.properties
  payload := subgroupObject.payload

def fromFetchObject (fetchObject : FetchObjectPayload) : ReceivedObject where
  location := ⟨fetchObject.groupId, fetchObject.objectId⟩
  publisherPriority := fetchObject.publisherPriority
  objectForwardingPreference := fetchObject.forwardingPreference
  subgroupId := if fetchObject.forwardingPreference = .subgroup then some fetchObject.subgroupId else none
  objectStatus := .normal
  properties := fetchObject.properties
  payload := if fetchObject.payload.length > 0 then some fetchObject.payload else none

end ReceivedObject

/-! The loops of `#handleRecvStreams`, up to the end of the stream. -/

/-- What was handed on before an error, if there was one. -/
structure Handled where
  delivered : List Delivered
  error : Option Error
deriving DecidableEq

def Handled.cons (d : Delivered) (rest : Handled) : Handled := ⟨d :: rest.delivered, rest.error⟩

/-- The loops over a FETCH stream, also over one that fills a subscription. -/
def handleFetchObjects : List StreamObject → Handled
  | [] => ⟨[], none⟩
  | .subgroup _ :: _ =>
    ⟨[], some (.protocolViolation "MOQtailClient" "Received subgroup object after fetch header")⟩
  | .fetch (.endOfRange kind groupId objectId) :: objects =>
    .cons (.endOfRange kind ⟨groupId, objectId⟩) (handleFetchObjects objects)
  | .fetch (.object o) :: objects =>
    .cons (.object (.fromFetchObject o)) (handleFetchObjects objects)

/-- The variable `firstObjectId` once an Object is there. -/
def nextFirstObjectId (firstObjectId : Option Int) (objectId : Int) : Option Int :=
  match firstObjectId with
  | none => some objectId
  | some first => if first = 0 then some objectId else some first

def subgroupIdFor (header : SubgroupHeader) (firstObjectId : Option Int) : Option Int :=
  if SubgroupHeaderType.isSubgroupIdZero header.type then some 0
  else if SubgroupHeaderType.isSubgroupIdFirstObjectId header.type then firstObjectId
  else if SubgroupHeaderType.hasExplicitSubgroupId header.type then header.subgroupId
  else none

def handleSubgroupObjects (header : SubgroupHeader) : Option Int → List StreamObject → Handled
  | _, [] => ⟨[], none⟩
  | _, .fetch _ :: _ =>
    ⟨[], some (.protocolViolation "MOQtailClient" "Received fetch object after subgroup header")⟩
  | firstObjectId, .subgroup o :: objects =>
    let firstObjectId := nextFirstObjectId firstObjectId o.objectId
    .cons
      (.object (.fromSubgroupObject o header.groupId header.publisherPriority
        (subgroupIdFor header firstObjectId)))
      (handleSubgroupObjects header firstObjectId objects)

/-- The Subgroup ID in the header is only read where the first Object does not change it. -/
def handleRecvStreams (header : Header) (objects : List StreamObject) : Handled :=
  match header with
  | .fetch _ => handleFetchObjects objects
  | .subgroup header => handleSubgroupObjects header none objects

/-! What the application gets, against what the Rust library makes of the stream. -/

/-- All that an Object has but its Subgroup ID. Absent properties are empty ones. -/
structure ReceivedObject.Is (o : Moqtail.Object) (r : ReceivedObject) : Prop where
  location : r.location = ⟨ofU64 o.location.group, ofU64 o.location.object⟩
  publisherPriority : r.publisherPriority = ofU8 o.publisherPriority
  forwardingPreference : r.objectForwardingPreference = o.forwardingPreference
  status : r.objectStatus = o.status
  properties : readProperties (r.properties.getD []) = some (o.properties.getD [])
  payload : r.payload = o.payload

def SameDelivered : DataStreamItem → Delivered → Prop
  | .object o, .object r => r.Is o
  | .endOfRange kind location, .endOfRange kind' location' =>
    kind = kind' ∧ location' = ⟨ofU64 location.group, ofU64 location.object⟩
  | _, _ => False

def SameSubgroupId : DataStreamItem → Delivered → Prop
  | .object o, .object r => r.subgroupId = o.subgroupId.map ofU64
  | _, _ => True

/-- The variable is set a second time. -/
def StartsOver : HeaderInfo → List DataStreamItem → Prop
  | .subgroup header, first :: _ :: _ =>
    header.headerType.subgroupIdMode = .firstObjectId ∧ first.objectId = 0
  | _, _ => False

theorem readProperties_of_propertiesToRust {properties : Option (List KeyValuePair)}
    {properties' : Option (List ObjectProperty)} (h : propertiesToRust properties = some properties') :
    readProperties (properties.getD []) = some (properties'.getD []) := by
  cases properties with
  | none =>
    cases h
    rfl
  | some kvps =>
    obtain ⟨kvps', hkvps, h⟩ := Option.bind_eq_some_iff.mp h
    obtain ⟨properties, hproperties, h⟩ := Option.bind_eq_some_iff.mp h
    cases h
    rw [Option.getD_some, readProperties, hkvps]
    exact hproperties

theorem fromFetchObject_is {o : Moqtail.Object} {p : FetchObjectPayload}
    (h : FetchObject.IsRead o p) :
    (ReceivedObject.fromFetchObject p).Is o ∧
      (ReceivedObject.fromFetchObject p).subgroupId = o.subgroupId.map ofU64 := by
  refine ⟨?_, h.subgroupId.symm⟩
  exact
    { location := by rw [← h.groupId, ← h.objectId]; rfl
      publisherPriority := h.publisherPriority
      forwardingPreference := h.forwardingPreference
      status := h.status.symm
      properties := readProperties_of_propertiesToRust h.properties
      payload := by
        rw [h.payload, ReceivedObject.fromFetchObject]
        cases p.payload <;> rfl }

theorem fromSubgroupObject_is {header : SubgroupHeader} {o : Moqtail.Object} {s : SubgroupObject}
    (h : s.IsReadUnder header o) (subgroupId : Option Int) :
    (ReceivedObject.fromSubgroupObject s header.groupId header.publisherPriority subgroupId).Is o where
  location := by rw [← h.groupId, ← h.objectId]; rfl
  publisherPriority := h.publisherPriority
  forwardingPreference := h.forwardingPreference.symm
  status := h.status
  properties := h.properties
  payload := h.payload

/-- Of a FETCH stream everything is as it should be. -/
theorem handleFetchObjects_same {header : FetchHeader} {items : List DataStreamItem}
    {objects : List StreamObject} (h : List.Forall₂ (SameItem (.fetch header)) items objects) :
    (handleFetchObjects objects).error = none ∧
      List.Forall₂ SameDelivered items (handleFetchObjects objects).delivered ∧
      List.Forall₂ SameSubgroupId items (handleFetchObjects objects).delivered := by
  induction h with
  | nil => exact ⟨rfl, .nil, .nil⟩
  | @cons item object items objects hitem hrest ih =>
    obtain ⟨herror, hsame, hids⟩ := ih
    cases item with
    | endOfRange kind location =>
      cases object with
      | subgroup o => cases hitem
      | fetch entry =>
        obtain ⟨-, rfl⟩ := hitem
        exact ⟨herror, .cons ⟨rfl, rfl⟩ hsame, .cons trivial hids⟩
    | object o =>
      cases object with
      | subgroup s =>
        obtain ⟨h, hheader, -⟩ := hitem
        cases hheader
      | fetch entry =>
        cases entry with
        | endOfRange kind group id => cases hitem
        | object p =>
          obtain ⟨his, hid⟩ := fromFetchObject_is hitem.2
          exact ⟨herror, .cons his hsame, .cons hid hids⟩

theorem exists_subgroup_of_same {header : SubgroupHeader} {item : DataStreamItem} {object : StreamObject}
    (h : SameItem (.subgroup header) item object) :
    ∃ o s, item = .object o ∧ object = .subgroup s ∧ s.IsReadUnder header o := by
  cases item with
  | endOfRange kind location =>
    cases object with
    | subgroup s => cases h
    | fetch entry =>
      obtain ⟨⟨_, hheader⟩, -⟩ := h
      cases hheader
  | object o =>
    cases object with
    | subgroup s =>
      obtain ⟨_, hheader, his⟩ := h
      cases hheader
      exact ⟨o, s, rfl, rfl, his⟩
    | fetch entry =>
      cases entry with
      | endOfRange kind group id => cases h
      | object p =>
        obtain ⟨⟨_, hheader⟩, -⟩ := h
        cases hheader

/-- Of a subgroup everything but the Subgroup IDs is. -/
theorem handleSubgroupObjects_same {header : SubgroupHeader} {items : List DataStreamItem}
    {objects : List StreamObject} (h : List.Forall₂ (SameItem (.subgroup header)) items objects) :
    ∀ firstObjectId, (handleSubgroupObjects header firstObjectId objects).error = none ∧
      List.Forall₂ SameDelivered items
        (handleSubgroupObjects header firstObjectId objects).delivered := by
  induction h with
  | nil => exact fun _ => ⟨rfl, .nil⟩
  | cons hitem hrest ih =>
    intro firstObjectId
    obtain ⟨o, s, rfl, rfl, his⟩ := exists_subgroup_of_same hitem
    obtain ⟨herror, hsame⟩ := ih (nextFirstObjectId firstObjectId s.objectId)
    exact ⟨herror, .cons (fromSubgroupObject_is his _) hsame⟩

/-! Subgroup IDs. -/

theorem subgroupIdFor_ofRust {h : Moqtail.SubgroupHeader} (hwf : h.WellFormed)
    (firstObjectId : Option Int) :
    subgroupIdFor (.ofRust h) firstObjectId =
      if h.headerType.subgroupIdMode = .firstObjectId then firstObjectId
      else h.subgroupId.map ofU64 := by
  obtain ⟨-, hexplicit, hzero, hfirst, -⟩ := SubgroupHeaderType.bits_value h.headerType
  simp only [subgroupIdFor, SubgroupHeader.ofRust, hexplicit, hzero, hfirst,
    Moqtail.SubgroupHeaderType.subgroupIdIsZero, Moqtail.SubgroupHeaderType.hasExplicitSubgroupId,
    Moqtail.SubgroupHeaderType.subgroupIdIsFirstObjectId]
  cases hmode : h.headerType.subgroupIdMode with
  | zero =>
    rw [hwf.zero hmode]
    rfl
  | firstObjectId => rfl
  | explicit => rfl

/-- The variable is not set any more, to what the header says. -/
def Settled (h : Moqtail.SubgroupHeader) (firstObjectId : Option Int) : Prop :=
  h.headerType.subgroupIdMode = .firstObjectId →
    ∃ id : UInt64, id ≠ 0 ∧ firstObjectId = some (ofU64 id) ∧ h.subgroupId = some id

theorem ofU64_eq_zero {id : UInt64} : ofU64 id = 0 ↔ id = 0 :=
  ofU64_inj (w := 0)

theorem Settled.next {h : Moqtail.SubgroupHeader} {firstObjectId : Option Int}
    (hsettled : Settled h firstObjectId) (objectId : Int) :
    Settled h (nextFirstObjectId firstObjectId objectId) := by
  intro hmode
  obtain ⟨id, hne, rfl, hid⟩ := hsettled hmode
  have hne' : ofU64 id ≠ 0 := fun hzero => hne (ofU64_eq_zero.mp hzero)
  exact ⟨id, hne, by rw [nextFirstObjectId, if_neg hne'], hid⟩

theorem Settled.subgroupIdFor {h : Moqtail.SubgroupHeader} {firstObjectId : Option Int}
    (hsettled : Settled h firstObjectId) (hwf : h.WellFormed) :
    subgroupIdFor (.ofRust h) firstObjectId = h.subgroupId.map ofU64 := by
  rw [subgroupIdFor_ofRust hwf]
  split
  next hmode =>
    obtain ⟨id, -, rfl, hid⟩ := hsettled hmode
    rw [hid]
    rfl
  · rfl

theorem handleSubgroupObjects_ids {h : Moqtail.SubgroupHeader} (hwf : h.WellFormed)
    {items : List DataStreamItem} {objects : List StreamObject}
    (hsame : List.Forall₂ (SameItem (.subgroup (.ofRust h))) items objects) :
    ∀ firstObjectId, Settled h firstObjectId →
      List.Forall₂ SameSubgroupId items
        (handleSubgroupObjects (.ofRust h) firstObjectId objects).delivered := by
  induction hsame with
  | nil => exact fun _ _ => .nil
  | cons hitem hrest ih =>
    intro firstObjectId hsettled
    obtain ⟨o, s, rfl, rfl, his⟩ := exists_subgroup_of_same hitem
    have hnext := hsettled.next s.objectId
    refine .cons ?_ (ih _ hnext)
    show subgroupIdFor _ _ = _
    rw [hnext.subgroupIdFor hwf]
    exact his.subgroupId

/-- What the reader of a stream knows of the header when Objects are there. -/
structure Resolved (h : Moqtail.SubgroupHeader) (items : List DataStreamItem) : Prop where
  wellFormed : h.WellFormed
  first : h.headerType.subgroupIdMode = .firstObjectId →
    h.subgroupId = items.head?.map (·.objectId)

theorem handleSubgroupObjects_ids_iff {h : Moqtail.SubgroupHeader} {items : List DataStreamItem}
    (hresolved : Resolved h items) (hascending : items.Pairwise fun a b => a.objectId < b.objectId)
    {objects : List StreamObject}
    (hsame : List.Forall₂ (SameItem (.subgroup (.ofRust h))) items objects) :
    List.Forall₂ SameSubgroupId items (handleSubgroupObjects (.ofRust h) none objects).delivered ↔
      ¬ StartsOver (.subgroup h) items := by
  have hwf := hresolved.wellFormed
  by_cases hmode : h.headerType.subgroupIdMode = .firstObjectId
  case neg =>
    have hids := handleSubgroupObjects_ids hwf hsame none fun hfirst => absurd hfirst hmode
    refine iff_of_true hids ?_
    cases items with
    | nil => exact id
    | cons first items =>
      cases items with
      | nil => exact id
      | cons second items => exact fun hover => hmode hover.1
  cases hsame with
  | nil => exact iff_of_true .nil id
  | @cons first object items objects hitem hrest =>
    obtain ⟨o, s, rfl, rfl, his⟩ := exists_subgroup_of_same hitem
    have hid : h.subgroupId = some o.location.object := hresolved.first hmode
    have hfirst : SameSubgroupId (.object o) (.object (.fromSubgroupObject s
        (SubgroupHeader.ofRust h).groupId (SubgroupHeader.ofRust h).publisherPriority
        (subgroupIdFor (.ofRust h) (some s.objectId)))) := by
      show subgroupIdFor _ _ = _
      rw [subgroupIdFor_ofRust hwf, if_pos hmode, ← his.subgroupId, SubgroupHeader.ofRust, hid,
        his.objectId]
      rfl
    by_cases hzero : o.location.object = 0
    case neg =>
      have hsettled : Settled h (some s.objectId) := fun _ =>
        ⟨o.location.object, hzero, congrArg some his.objectId, hid⟩
      refine iff_of_true (.cons hfirst (handleSubgroupObjects_ids hwf hrest _ hsettled)) ?_
      cases items with
      | nil => exact id
      | cons second items => exact fun hover => hzero hover.2
    cases hrest with
    | nil => exact iff_of_true (.cons hfirst .nil) id
    | @cons second object items objects hitem' hrest =>
      obtain ⟨o', s', rfl, rfl, his'⟩ := exists_subgroup_of_same hitem'
      refine iff_of_false ?_ (not_not_intro ⟨hmode, hzero⟩)
      intro hids
      obtain ⟨-, hids⟩ := List.forall₂_cons.mp hids
      obtain ⟨hsecond, -⟩ := List.forall₂_cons.mp hids
      have hnext : nextFirstObjectId (some s.objectId) s'.objectId = some s'.objectId := by
        rw [nextFirstObjectId, if_pos (his.objectId.trans (ofU64_eq_zero.mpr hzero))]
      have habove : o.location.object < o'.location.object :=
        (List.pairwise_cons.mp hascending).1 _ List.mem_cons_self
      change subgroupIdFor _ (nextFirstObjectId (some s.objectId) s'.objectId) = _ at hsecond
      rw [hnext, subgroupIdFor_ofRust hwf, if_pos hmode, ← his'.subgroupId, SubgroupHeader.ofRust,
        hid, his'.objectId] at hsecond
      have heq := ofU64_inj.mp (Option.some.inj hsecond)
      rw [heq] at habove
      exact UInt64.lt_irrefl _ habove

/-! The header that the Rust library's reader is left with. -/

/-- Where there is a subgroup's header, the Objects so far have settled it. -/
structure Resolves (s : RecvDataStream) : Prop where
  unopened : s.headerInfo = none → s.items = []
  resolved : ∀ h, s.headerInfo = some (.subgroup h) → Resolved h s.items

theorem subgroup_of_readHeader {pendingFetches : UInt64 → Option GroupOrder} {bytes rest : Bytes}
    {h : Moqtail.SubgroupHeader}
    (hread : RecvDataStream.readHeader pendingFetches bytes = .ok (.subgroup h, rest)) :
    Moqtail.SubgroupHeader.deserialize bytes = .ok (h, rest) := by
  unfold RecvDataStream.readHeader at hread
  split at hread
  · obtain ⟨⟨header, left⟩, -, hret⟩ := except_bind_eq_ok.mp hread
    cases hret
  · obtain ⟨⟨header, left⟩, hdec, hret⟩ := except_bind_eq_ok.mp hread
    cases hret
    exact except_mapError_eq_ok.mp hdec

/-- An Object more, which settles the header where it is the first. -/
theorem Resolved.take {s s' : RecvDataStream} {header : Moqtail.SubgroupHeader}
    {o : Moqtail.SubgroupObject} (h : Resolved header s.items)
    (htake : s.takeSubgroupObject header o = .ok s') :
    s'.headerInfo = some (.subgroup (header.resolve o)) ∧ Resolved (header.resolve o) s'.items := by
  obtain ⟨object, hobject, htake⟩ := except_bind_eq_ok.mp htake
  cases hobject
  cases htake
  refine ⟨rfl, Moqtail.SubgroupHeader.resolve_wellFormed h.wellFormed o, fun hmode => ?_⟩
  rw [Moqtail.SubgroupHeader.headerType_resolve] at hmode
  have hid := h.first hmode
  cases hitems : s.items with
  | nil =>
    rw [hitems] at hid
    rw [Moqtail.SubgroupHeader.resolve_of_none hid hmode]
    rfl
  | cons item items =>
    rw [hitems] at hid
    have hresolve : header.resolve o = header := by
      rw [Moqtail.SubgroupHeader.resolve, hid]
      rfl
    rw [hresolve, hid]
    rfl

theorem Resolves.parse {pendingFetches : UInt64 → Option GroupOrder} {s s' : RecvDataStream}
    {bytes rest : Bytes} (hs : Resolves s)
    (hparse : RecvDataStream.parse pendingFetches s bytes = .ok (s', rest)) : Resolves s' := by
  rw [RecvDataStream.parse] at hparse
  cases hinfo : s.headerInfo with
  | none =>
    rw [hinfo] at hparse
    obtain ⟨⟨info, left⟩, hread, hret⟩ := except_bind_eq_ok.mp hparse
    cases hret
    refine ⟨fun hnone => (by cases hnone), fun h hh => ?_⟩
    cases hh
    have hdec := subgroup_of_readHeader hread
    refine ⟨Moqtail.SubgroupHeader.deserialize_wellFormed hdec, fun hmode => ?_⟩
    show _ = s.items.head?.map _
    rw [Moqtail.SubgroupHeader.deserialize_unresolved hdec hmode, hs.unopened hinfo]
    rfl
  | some info =>
    rw [hinfo] at hparse
    cases info with
    | fetch header request =>
      have hheader : s'.headerInfo = some (.fetch header request) := by
        obtain ⟨⟨entry, left⟩, -, hparse⟩ := except_bind_eq_ok.mp hparse
        obtain ⟨s₁, htake, hret⟩ := except_bind_eq_ok.mp hparse
        cases hret
        cases entry with
        | endOfRange kind location =>
          cases htake
          exact hinfo
        | object p =>
          obtain ⟨priorities, -, htake⟩ := except_bind_eq_ok.mp htake
          obtain ⟨object, -, htake⟩ := except_bind_eq_ok.mp htake
          cases htake
          exact hinfo
      refine ⟨fun hnone => (by cases hheader.symm.trans hnone), fun h hh => ?_⟩
      cases hheader.symm.trans hh
    | subgroup header =>
      obtain ⟨⟨o, left⟩, -, hparse⟩ := except_bind_eq_ok.mp hparse
      obtain ⟨s₁, htake, hret⟩ := except_bind_eq_ok.mp hparse
      cases hret
      obtain ⟨hheader, hresolved⟩ := (hs.resolved header hinfo).take htake
      refine ⟨fun hnone => (by cases hheader.symm.trans hnone), fun h hh => ?_⟩
      cases hheader.symm.trans hh
      exact hresolved

theorem resolved_of_read {pendingFetches : UInt64 → Option GroupOrder} {pieces : List Bytes}
    {h : Moqtail.SubgroupHeader}
    (hinfo : (RecvDataStream.read pendingFetches pieces).headerInfo = some (.subgroup h)) :
    Resolved h (RecvDataStream.read pendingFetches pieces).items := by
  obtain ⟨hheader, hitems⟩ := endState_read pendingFetches pieces
  rw [hheader, readPieces_eq] at hinfo
  rw [hitems, readPieces_eq]
  have hnew : Resolves .new := ⟨fun _ => rfl, fun h hh => by cases hh⟩
  exact (endState_drain (fun _ _ _ _ hs hparse => hs.parse hparse) _ _ _ hnew).resolved h hinfo

/-- What the application of the TypeScript library gets of a stream is what the Rust library makes
of it, and in the Subgroup IDs too unless the stream leaves the Subgroup ID to a first Object with
the ID 0 and has a second one. -/
theorem received_as_read (pendingFetches : UInt64 → Option GroupOrder)
    (resolveGroupOrder : Header → GroupOrder)
    (horder : ∀ requestId, RecvDataStream.fetchGroupOrder (pendingFetches requestId) = .descending ↔
      resolveGroupOrder (.fetch ⟨ofU64 requestId⟩) = .descending)
    {pieces pieces' : List Bytes} (hsame : pieces.flatten = pieces'.flatten)
    (hsmall : (pieces.flatten.length : Int) ≤ maxSafeInteger) {info : HeaderInfo}
    (hinfo : (RecvDataStream.read pendingFetches pieces).headerInfo = some info)
    (hids : Unwrapped (some info) (RecvDataStream.read pendingFetches pieces).items)
    (hresult : (RecvDataStream.read pendingFetches pieces).result = .ok ()) :
    ∃ header objects delivered,
      RecvStream.receive resolveGroupOrder (pieces'.map .value ++ [.done]) =
        ⟨some header, objects, some .fin⟩ ∧
      handleRecvStreams header objects = ⟨delivered, none⟩ ∧
      List.Forall₂ SameDelivered (RecvDataStream.read pendingFetches pieces).items delivered ∧
      (List.Forall₂ SameSubgroupId (RecvDataStream.read pendingFetches pieces).items delivered ↔
        ¬ StartsOver info (RecvDataStream.read pendingFetches pieces).items) := by
  obtain ⟨objects, hreceive, hitems⟩ :=
    exists_receive_of_read horder hsame hsmall hinfo hids hresult
  refine ⟨.ofRust info, objects, (handleRecvStreams (.ofRust info) objects).delivered, hreceive, ?_⟩
  cases info with
  | fetch header request =>
    obtain ⟨herror, hdelivered, hsubgroups⟩ := handleFetchObjects_same hitems
    exact ⟨congrArg (Handled.mk _) herror, hdelivered, iff_of_true hsubgroups id⟩
  | subgroup h =>
    obtain ⟨herror, hdelivered⟩ := handleSubgroupObjects_same hitems none
    exact ⟨congrArg (Handled.mk _) herror, hdelivered,
      handleSubgroupObjects_ids_iff (resolved_of_read hinfo) hids hitems⟩

/-- The Objects 0 and 1 of the subgroup 0, the second of which the application gets in another
subgroup. -/
theorem received_as_read_starts_over : ∃ header objects delivered,
    RecvStream.receive (fun _ => .original)
        ([[0x13, 7, 3], [128, 0, 0, 1, 9, 0, 0, 1, 8]].map .value ++ [.done]) =
      ⟨some header, objects, some .fin⟩ ∧
    handleRecvStreams header objects = ⟨delivered, none⟩ ∧
    ¬ List.Forall₂ SameSubgroupId
        [.object ⟨7, ⟨3, 0⟩, 128, .subgroup, some 0, .normal, some [], some [9]⟩,
          .object ⟨7, ⟨3, 1⟩, 128, .subgroup, some 0, .normal, some [], some [8]⟩] delivered := by
  have hread : RecvDataStream.read (fun _ => none) [[0x13, 7, 3, 128, 0, 0, 1, 9, 0, 0, 1, 8]] =
      ⟨some (.subgroup ⟨.fromProperties true .firstObjectId false false false, 7, 3, some 0, some 128⟩),
        [.object ⟨7, ⟨3, 0⟩, 128, .subgroup, some 0, .normal, some [], some [9]⟩,
          .object ⟨7, ⟨3, 1⟩, 128, .subgroup, some 0, .normal, some [], some [8]⟩],
        .ok (), false⟩ := by
    rfl
  have hsame : [[0x13, 7, 3, 128, 0, 0, 1, 9, 0, 0, 1, 8]].flatten =
      ([[0x13, 7, 3], [128, 0, 0, 1, 9, 0, 0, 1, 8]].flatten : Bytes) := rfl
  have hids : Unwrapped
      (RecvDataStream.read (fun _ => none) [[0x13, 7, 3, 128, 0, 0, 1, 9, 0, 0, 1, 8]]).headerInfo
      (RecvDataStream.read (fun _ => none) [[0x13, 7, 3, 128, 0, 0, 1, 9, 0, 0, 1, 8]]).items := by
    rw [hread]
    exact List.pairwise_pair.mpr (by decide)
  obtain ⟨header, objects, delivered, hreceive, hhandle, -, hiff⟩ := received_as_read (fun _ => none)
    (fun _ => .original) (fun _ => by decide) hsame (by decide)
    (congrArg ReadOutcome.headerInfo hread) hids (congrArg ReadOutcome.result hread)
  rw [hread] at hiff
  exact ⟨header, objects, delivered, hreceive, hhandle, fun h => hiff.mp h ⟨by decide, rfl⟩⟩

end Moqtail.Ts
