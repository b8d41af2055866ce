import Moqtail.Relay.Sources

/-! What a reader makes of a stream the relay opened.

A stream is intact when decoding it gives the objects whose write succeeded, each in its
group and subgroup. `SendStream.Inv` is what a stream keeps from its header on, as long as
every object written to it is coded against the one before it and suits its header. -/
namespace Moqtail

open Lib

/-! Reading a stream. -/

/-- Objects until the bytes run out or stop making sense. -/
def readObjects (hasProperties : Bool) : Nat → Option UInt64 → Bytes → List SubgroupObject
  | 0, _, _ => []
  | fuel + 1, previous, bytes =>
    match SubgroupObject.deserialize bytes previous hasProperties with
    | .error _ => []
    | .ok (o, rest) => o :: readObjects hasProperties fuel (some o.objectId) rest

/-- The header and the objects after it. Each object takes a byte, so there are no more of
them than bytes. -/
def readStream (wire : Bytes) : Parse (SubgroupHeader × List SubgroupObject) := do
  let (header, body) ← SubgroupHeader.deserialize wire
  return (header, readObjects header.headerType.hasProperties body.length none body)

/-- The Subgroup ID a reader takes a stream to be of: the header's, or the first object's. -/
def readSubgroupId (header : SubgroupHeader) (objects : List SubgroupObject) : Option UInt64 :=
  header.subgroupId.or (objects.head?.map (·.objectId))

/-- The ID the next object is coded against. -/
def lastObjectId (previous : Option UInt64) (objects : List SubgroupObject) : Option UInt64 :=
  (objects.getLast?.map (·.objectId)).or previous

/-- Reading `body` gives `objects`, and then goes on with whatever follows. -/
structure ReadsObjects (hasProperties : Bool) (previous : Option UInt64) (body : Bytes)
    (objects : List SubgroupObject) : Prop where
  length_le : objects.length ≤ body.length
  reads : ∀ (tail : Bytes) (fuel : Nat), body.length + tail.length ≤ fuel →
    readObjects hasProperties fuel previous (body ++ tail) =
      objects ++ readObjects hasProperties (fuel - objects.length)
        (lastObjectId previous objects) tail

theorem ReadsObjects.nil (hasProperties : Bool) (previous : Option UInt64) :
    ReadsObjects hasProperties previous [] [] where
  length_le := le_rfl
  reads := by
    intro tail fuel _
    simp [lastObjectId]

theorem ReadsObjects.snoc {hasProperties : Bool} {previous : Option UInt64} {body out : Bytes}
    {objects : List SubgroupObject} {o : SubgroupObject}
    (h : ReadsObjects hasProperties previous body objects) (hout : out ≠ [])
    (hreads : Reads (fun bytes => SubgroupObject.deserialize bytes
      (lastObjectId previous objects) hasProperties) out o) :
    ReadsObjects hasProperties previous (body ++ out) (objects ++ [o]) := by
  have hpos : 1 ≤ out.length := List.length_pos_iff.mpr hout
  have hle := h.length_le
  refine ⟨by simp only [List.length_append, List.length_singleton]; omega, ?_⟩
  intro tail fuel hfuel
  simp only [List.length_append] at hfuel
  rw [List.append_assoc, h.reads (out ++ tail) fuel (by simp only [List.length_append]; omega)]
  obtain ⟨n, hn⟩ : ∃ n, fuel - objects.length = n + 1 := ⟨fuel - objects.length - 1, by omega⟩
  have hdec := hreads tail
  simp only at hdec
  have hnext : fuel - (objects ++ [o]).length = n := by
    simp only [List.length_append, List.length_singleton]
    omega
  simp only [hn, readObjects, hdec, hnext]
  simp [lastObjectId]

/-- Bytes no object can be read from end the reading. -/
theorem readObjects_of_error {hasProperties : Bool} {previous : Option UInt64} {bytes : Bytes}
    (h : ∀ o rest, SubgroupObject.deserialize bytes previous hasProperties ≠ .ok (o, rest))
    (fuel : Nat) : readObjects hasProperties fuel previous bytes = [] := by
  cases fuel with
  | zero => rfl
  | succ fuel =>
    unfold readObjects
    split
    · rfl
    · next o rest heq => exact absurd heq (h o rest)

theorem deserialize_nil (previous : Option UInt64) (hasProperties : Bool) (o : SubgroupObject)
    (rest : Bytes) : SubgroupObject.deserialize [] previous hasProperties ≠ .ok (o, rest) := by
  intro h
  simp [SubgroupObject.deserialize, getVi] at h

/-! One send stream. -/

namespace SendStream

/-- Decoding the stream gives the objects written to it, in their group and subgroup. -/
def Decodes (stream : SendStream) : Prop :=
  ∃ header objects, readStream stream.wire = .ok (header, objects) ∧
    stream.written.mapM Object.tryIntoSubgroup = .ok objects ∧
    ∀ object ∈ stream.written, object.location.group = header.groupId ∧
      object.subgroupId = readSubgroupId header objects

/-- A stream whose header did not go out carries nothing. -/
def Intact (stream : SendStream) : Prop :=
  if stream.headerWritten then stream.Decodes else stream.written = []

/-- The Object IDs a reader makes of the stream. -/
def readIds (stream : SendStream) : List UInt64 :=
  match readStream stream.wire with
  | .error _ => []
  | .ok (_, objects) => objects.map (·.objectId)

theorem tryIntoSubgroup_objectId {object : Object} {o : SubgroupObject}
    (h : object.tryIntoSubgroup = .ok o) : o.objectId = object.location.object := by
  unfold Object.tryIntoSubgroup at h
  repeat' split at h
  all_goals first
    | (cases h; rfl)
    | cases h

theorem map_objectId_of_mapM (written : List Object) : ∀ objects : List SubgroupObject,
    written.mapM Object.tryIntoSubgroup = .ok objects →
      objects.map (·.objectId) = written.map (·.location.object) := by
  induction written with
  | nil =>
    intro objects h
    simp only [List.mapM_nil, except_pure, Except.ok.injEq] at h
    simp [← h]
  | cons object written ih =>
    intro objects h
    rw [List.mapM_cons] at h
    obtain ⟨o, ho, h⟩ := except_bind_eq_ok.mp h
    obtain ⟨rest, hrest, hret⟩ := except_bind_eq_ok.mp h
    simp only [except_pure, Except.ok.injEq] at hret
    simp [← hret, tryIntoSubgroup_objectId ho, ih rest hrest]

theorem Intact.readIds_eq {stream : SendStream} (h : stream.Intact)
    (hheader : stream.headerWritten = true) :
    stream.readIds = stream.written.map (·.location.object) := by
  unfold Intact at h
  rw [if_pos hheader] at h
  obtain ⟨header, objects, hread, hconverted, -⟩ := h
  unfold readIds
  rw [hread]
  exact map_objectId_of_mapM stream.written objects hconverted

def lastId (stream : SendStream) : Option UInt64 :=
  stream.written.getLast?.map (·.location.object)

/-- The object suits the header the stream was opened with: it carries Properties when the
header says so, and it is the one that names the subgroup when the header leaves that to the
first object. -/
structure Takes (stream : SendStream) (object : Object) : Prop where
  properties : stream.header.headerType.hasProperties = object.properties.isSome
  first : stream.written = [] → stream.header.headerType.subgroupIdMode = .firstObjectId →
    stream.streamId.subgroupId = some object.location.object

instance (stream : SendStream) (object : Object) : Decidable (stream.Takes object) :=
  decidable_of_iff (stream.header.headerType.hasProperties = object.properties.isSome ∧
    (stream.written = [] → stream.header.headerType.subgroupIdMode = .firstObjectId →
      stream.streamId.subgroupId = some object.location.object))
    ⟨fun h => ⟨h.1, h.2⟩, fun h => ⟨h.properties, h.first⟩⟩

/-- What is on the wire: the header, the objects written, and whatever a write that failed or was
given up left behind, from which no object can be read. -/
structure BodyInv (trackAlias : UInt64) (stream : SendStream) (body rest : Bytes)
    (objects : List SubgroupObject) : Prop where
  wire : ∃ head, stream.header.serialize (some trackAlias) = .ok head ∧
    stream.wire = head ++ (body ++ rest)
  reads : ReadsObjects stream.header.headerType.hasProperties none body objects
  converted : stream.written.mapM Object.tryIntoSubgroup = .ok objects
  first : objects.head?.map (·.objectId) = stream.written.head?.map (·.location.object)
  last : lastObjectId none objects = stream.lastId
  clean : stream.failed = false → stream.torn = false → rest = []
  unreadable : ∀ o left, SubgroupObject.deserialize rest (lastObjectId none objects)
    stream.header.headerType.hasProperties ≠ .ok (o, left)

structure Inv (trackAlias : UInt64) (stream : SendStream) : Prop where
  header : HeaderFor stream.streamId stream.header
  unwritten : stream.headerWritten = false → stream.written = []
  body : stream.headerWritten = true → ∃ body rest objects, BodyInv trackAlias stream body rest
    objects
  objects : ∀ object ∈ stream.written, object.location.group = stream.streamId.groupId ∧
    object.subgroupId = stream.streamId.subgroupId
  first : stream.header.headerType.subgroupIdMode = .firstObjectId →
    ∀ object, stream.written.head? = some object →
      stream.streamId.subgroupId = some object.location.object

theorem Inv.intact {trackAlias : UInt64} {stream : SendStream} (h : stream.Inv trackAlias) :
    stream.Intact := by
  unfold Intact
  cases hwritten : stream.headerWritten with
  | false => simpa using h.unwritten hwritten
  | true =>
    obtain ⟨body, rest, objects, hbody⟩ := h.body hwritten
    obtain ⟨head, hhead, hwire⟩ := hbody.wire
    obtain ⟨out, hout, hreads⟩ := SubgroupHeader.deserialize_serialize stream.header
      h.header.wellFormed (some trackAlias)
    rw [hhead, Except.ok.injEq] at hout
    subst hout
    have hbodyReads := hbody.reads.reads rest (body ++ rest).length (by simp)
    rw [readObjects_of_error hbody.unreadable, List.append_nil] at hbodyReads
    simp only [if_true]
    refine ⟨stream.header.onWire (some trackAlias), objects, ?_, hbody.converted, ?_⟩
    · unfold readStream
      rw [hwire, hreads (body ++ rest), except_ok_bind]
      exact congrArg (fun l => Except.ok (stream.header.onWire (some trackAlias), l)) hbodyReads
    · intro object hmem
      obtain ⟨hgroup, hsubgroup⟩ := h.objects object hmem
      have hid : stream.header.groupId = stream.streamId.groupId := by rw [← h.header.streamId]; rfl
      have hsub : stream.header.subgroupId = stream.streamId.subgroupId := by
        rw [← h.header.streamId]; rfl
      refine ⟨by rw [hgroup, ← hid]; rfl, ?_⟩
      rw [hsubgroup, ← hsub]
      unfold readSubgroupId SubgroupHeader.onWire
      cases hmode : stream.header.headerType.subgroupIdMode with
      | zero => simp [h.header.wellFormed.zero hmode]
      | explicit =>
        obtain ⟨id, hsome⟩ := Option.isSome_iff_exists.mp (h.header.wellFormed.explicit hmode)
        simp [hsome]
      | firstObjectId =>
        obtain ⟨head, hhead⟩ : ∃ head, stream.written.head? = some head := by
          cases hlist : stream.written with
          | nil => simp [hlist] at hmem
          | cons x xs => exact ⟨x, rfl⟩
        simp only [Option.none_or, hbody.first, hhead, Option.map_some, hsub]
        exact h.first hmode head hhead

/-- Changes that leave what is on the stream alone. -/
theorem Inv.of_same {trackAlias : UInt64} {stream stream' : SendStream} (h : stream.Inv trackAlias)
    (hstreamId : stream'.streamId = stream.streamId) (hheader : stream'.header = stream.header)
    (hheaderWritten : stream'.headerWritten = stream.headerWritten)
    (hwire : stream'.wire = stream.wire) (hwritten : stream'.written = stream.written)
    (hclean : stream'.failed = false → stream'.torn = false →
      stream.failed = false ∧ stream.torn = false) : stream'.Inv trackAlias where
  header := by rw [hstreamId, hheader]; exact h.header
  unwritten := by rw [hheaderWritten, hwritten]; exact h.unwritten
  body := by
    rw [hheaderWritten]
    intro hw
    obtain ⟨body, rest, objects, hb⟩ := h.body hw
    refine ⟨body, rest, objects, ?_, ?_, ?_, ?_, ?_, ?_, ?_⟩
    · rw [hheader, hwire]
      exact hb.wire
    · rw [hheader]
      exact hb.reads
    · rw [hwritten]
      exact hb.converted
    · rw [hwritten]
      exact hb.first
    · rw [lastId, hwritten]
      exact hb.last
    · intro hfailed htorn
      obtain ⟨hfailed, htorn⟩ := hclean hfailed htorn
      exact hb.clean hfailed htorn
    · rw [hheader]
      exact hb.unreadable
  objects := by rw [hwritten, hstreamId]; exact h.objects
  first := by rw [hheader, hwritten, hstreamId]; exact h.first

theorem Inv.finished {trackAlias : UInt64} {stream : SendStream} (h : stream.Inv trackAlias) :
    { stream with finished := true }.Inv trackAlias :=
  h.of_same rfl rfl rfl rfl rfl fun hfailed htorn => ⟨hfailed, htorn⟩

/-- A stream on which nothing can be read yet. -/
theorem Inv.of_unwritten {trackAlias : UInt64} {stream : SendStream}
    (hheader : HeaderFor stream.streamId stream.header) (hheaderWritten : stream.headerWritten = false)
    (hwritten : stream.written = []) : stream.Inv trackAlias where
  header := hheader
  unwritten := fun _ => hwritten
  body := by simp [hheaderWritten]
  objects := by simp [hwritten]
  first := by simp [hwritten]

/-- The header alone is on the stream. -/
theorem Inv.of_header {trackAlias : UInt64} {stream : SendStream}
    (hheader : HeaderFor stream.streamId stream.header)
    (hwire : stream.header.serialize (some trackAlias) = .ok stream.wire)
    (hwritten : stream.written = []) : stream.Inv trackAlias where
  header := hheader
  unwritten := fun _ => hwritten
  body := by
    intro _
    refine ⟨[], [], [], ⟨stream.wire, hwire, by simp⟩, ReadsObjects.nil _ _, ?_, ?_, ?_, fun _ _ => rfl,
      deserialize_nil _ _⟩
    · rw [hwritten]
      rfl
    · rw [hwritten]
      rfl
    · rw [lastId, hwritten]
      rfl
  objects := by simp [hwritten]
  first := by simp [hwritten]

theorem serialize_ne_nil {o : SubgroupObject} {previous : Option UInt64} {hasProperties : Bool}
    {bytes : Bytes} (h : o.serialize previous hasProperties = .ok bytes) : bytes ≠ [] := by
  unfold SubgroupObject.serialize at h
  obtain ⟨properties, -, hret⟩ := except_bind_eq_ok.mp h
  simp only [except_pure, Except.ok.injEq] at hret
  have hpos := minimalViLength_pos (SubgroupObject.objectIdDelta o.objectId previous)
  rw [← hret, ← List.length_pos_iff]
  simp only [List.length_append, length_putVi]
  omega

theorem reads_serialize {o : SubgroupObject} {previous : Option UInt64} {hasProperties : Bool}
    {bytes : Bytes} (hr : o.Readable hasProperties)
    (h : o.serialize previous hasProperties = .ok bytes) :
    Reads (fun bytes => SubgroupObject.deserialize bytes previous hasProperties) bytes o := by
  obtain ⟨out, hout, hreads⟩ := SubgroupObject.deserialize_serialize o hasProperties hr previous
  rw [h, Except.ok.injEq] at hout
  exact hout ▸ hreads

/-- The next bytes on the stream come right behind its header and its objects. -/
structure Ready (stream : SendStream) : Prop where
  header : stream.headerWritten = true
  torn : stream.torn = false
  failed : stream.failed = false

/-- A successful write puts the object at the end of what can be read. -/
theorem Inv.append {trackAlias : UInt64} {stream : SendStream} (h : stream.Inv trackAlias)
    (hready : stream.Ready) {object : Object} {o : SubgroupObject}
    (hview : ViewOf stream.streamId object o stream.header.headerType.hasProperties)
    (hinto : object.tryIntoSubgroup = .ok o) (htakes : stream.Takes object) {bytes : Bytes}
    (hbytes : o.serialize stream.lastId stream.header.headerType.hasProperties = .ok bytes) :
    { stream with
      wire := stream.wire ++ bytes, written := stream.written ++ [object] }.Inv trackAlias where
  header := h.header
  unwritten := fun hw => by simp [hready.header] at hw
  body := fun hw => by
    obtain ⟨body, rest, objects, hb⟩ := h.body hw
    obtain ⟨head, hhead, hwire⟩ := hb.wire
    have hrest := hb.clean hready.failed hready.torn
    subst hrest
    have hreads := reads_serialize hview.readable hbytes
    have hid : o.objectId = object.location.object := by rw [hview.location]
    refine ⟨body ++ bytes, [], objects ++ [o], ⟨head, hhead, ?_⟩, ?_, ?_, ?_, ?_,
      fun _ _ => rfl,
      deserialize_nil _ _⟩
    · simp only [hwire, List.append_nil, List.append_assoc]
    · refine hb.reads.snoc (serialize_ne_nil hbytes) ?_
      rw [hb.last]
      exact hreads
    · simp [List.mapM_append, hb.converted, hinto]
    · have hfirst := hb.first
      cases objects with
      | nil =>
        cases hw' : stream.written with
        | nil => simp [hid]
        | cons x xs => simp [hw'] at hfirst
      | cons x xs =>
        cases hw' : stream.written with
        | nil => simp [hw'] at hfirst
        | cons y ys => simpa [hw'] using hfirst
    · simp [lastObjectId, lastId, hid]
  objects := by
    intro other hmem
    simp only [List.mem_append, List.mem_singleton] at hmem
    rcases hmem with hmem | rfl
    · exact h.objects other hmem
    · exact ⟨by rw [hview.location], hview.subgroupId⟩
  first := by
    intro hmode other hhead
    cases hlist : stream.written with
    | nil =>
      simp only [hlist, List.nil_append, List.head?_cons, Option.some.injEq] at hhead
      exact hhead ▸ htakes.first hlist hmode
    | cons x xs =>
      simp only [hlist, List.cons_append, List.head?_cons, Option.some.injEq] at hhead
      exact h.first hmode other (by simp [hlist, hhead])

/-- A write that fails or is given up leaves a part of the object from which nothing can be read. -/
theorem Inv.part {trackAlias : UInt64} {stream : SendStream} (h : stream.Inv trackAlias)
    (hready : stream.Ready) {o : SubgroupObject}
    (hreadable : o.Readable stream.header.headerType.hasProperties) {bytes : Bytes}
    (hbytes : o.serialize stream.lastId stream.header.headerType.hasProperties = .ok bytes)
    (n : Nat) {torn failed : Bool}
    (hclean : failed = false → torn = false → accepted n bytes = []) :
    { stream with
      wire := stream.wire ++ accepted n bytes, torn := torn, failed := failed }.Inv trackAlias where
  header := h.header
  unwritten := fun hw => by simp [hready.header] at hw
  body := fun hw => by
    obtain ⟨body, rest, objects, hb⟩ := h.body hw
    obtain ⟨head, hhead, hwire⟩ := hb.wire
    have hrest := hb.clean hready.failed hready.torn
    subst hrest
    refine ⟨body, accepted n bytes, objects, ⟨head, hhead, ?_⟩, hb.reads, hb.converted, hb.first,
      hb.last, hclean, ?_⟩
    · simp only [hwire, List.append_nil, List.append_assoc]
    · intro other left
      have hpos : 1 ≤ bytes.length := List.length_pos_iff.mpr (serialize_ne_nil hbytes)
      have hall := reads_serialize hreadable hbytes []
      have hsplit : accepted n bytes ++ bytes.drop (min n (bytes.length - 1)) = bytes :=
        List.take_append_drop _ _
      rw [List.append_nil, ← hsplit] at hall
      rw [hb.last]
      refine (SubgroupObject.deserialize_stable _ _).not_ok_of_append hall ?_
      rw [← List.length_pos_iff, List.length_drop]
      omega
  objects := h.objects
  first := h.first

/-! What the tasks do to a stream. -/

/-- The task that added the stream has its header still to write. -/
structure Awaits (trackAlias : UInt64) (stream : SendStream) (header : SubgroupHeader)
    (payload : Bytes) : Prop where
  opened : stream.header = header
  payload : header.serialize (some trackAlias) = .ok payload
  unwritten : stream.headerWritten = false
  empty : stream.isOver = true ∨ stream.wire = []

/-- The object can be written behind what is on the stream, unless that takes nothing more. -/
def Fits (stream : SendStream) (object : Object) : Prop :=
  stream.isOver = true ∨ (stream.headerWritten = true ∧ stream.torn = false ∧ stream.Takes object)

instance (stream : SendStream) (object : Object) : Decidable (stream.Fits object) :=
  inferInstanceAs (Decidable (_ ∨ _))

/-- The bytes are those of the object behind the last one on the stream. -/
def Follows (stream : SendStream) (object : Object) (bytes : Bytes) : Prop :=
  stream.isOver = true ∨ object.coded stream.lastId = some bytes

theorem not_failed_of_not_isOver {stream : SendStream} (h : stream.isOver = false) :
    stream.failed = false := by
  simp only [isOver, Bool.or_eq_false_iff] at h
  exact h.1

theorem writeAll_header (stream : SendStream) (bytes : Bytes) (outcome : WriteOutcome) :
    (stream.writeAll bytes outcome).header = stream.header := by
  unfold writeAll
  split
  · rfl
  · cases outcome <;> rfl

theorem Inv.writeHeader {trackAlias : UInt64} {stream : SendStream} (h : stream.Inv trackAlias)
    {header : SubgroupHeader} {payload : Bytes} (hawaits : stream.Awaits trackAlias header payload)
    (outcome : WriteOutcome) : (stream.writeHeader payload outcome).Inv trackAlias := by
  have hwritten := h.unwritten hawaits.unwritten
  have hevolves := stream.writeHeader_evolves payload outcome
  cases haccepts : stream.accepts outcome with
  | false =>
    refine .of_unwritten ?_ ?_ (hevolves.written.trans hwritten)
    · have hheader : (stream.writeHeader payload outcome).header = stream.header :=
        stream.writeAll_header payload outcome
      rw [hevolves.streamId, hheader]
      exact h.header
    · simp [SendStream.writeHeader, haccepts, hawaits.unwritten]
  | true =>
    simp only [SendStream.accepts, Bool.and_eq_true, Bool.not_eq_true', decide_eq_true_eq] at haccepts
    obtain ⟨hopen, rfl⟩ := haccepts
    have hempty := hawaits.empty.resolve_left (by simp [hopen])
    refine .of_header ?_ ?_ ?_
    · simpa [SendStream.writeHeader, writeAll, hopen] using h.header
    · simpa [SendStream.writeHeader, writeAll, hopen, hempty, hawaits.opened] using hawaits.payload
    · simpa [SendStream.writeHeader, writeAll, hopen] using hwritten

theorem Inv.giveUpHeader {trackAlias : UInt64} {stream : SendStream} (h : stream.Inv trackAlias)
    {header : SubgroupHeader} {payload : Bytes} (hawaits : stream.Awaits trackAlias header payload)
    (n : Nat) (fails : Bool) : (stream.giveUp payload n fails).Inv trackAlias := by
  unfold giveUp
  split
  · exact h
  · exact .of_unwritten h.header hawaits.unwritten (h.unwritten hawaits.unwritten)

/-- A stream that takes more is ready for an object that fits it, and the bytes are the object's. -/
theorem Fits.ready {stream : SendStream} {object : Object} (h : stream.Fits object)
    (hopen : stream.isOver = false) : stream.Ready ∧ stream.Takes object := by
  obtain ⟨hheader, htorn, htakes⟩ := h.resolve_left (by simp [hopen])
  exact ⟨⟨hheader, htorn, not_failed_of_not_isOver hopen⟩, htakes⟩

theorem Follows.serialize {stream : SendStream} {object : Object} {bytes : Bytes}
    (h : stream.Follows object bytes) (hopen : stream.isOver = false) (htakes : stream.Takes object)
    {o : SubgroupObject} {hasProperties : Bool} (hview : ViewOf stream.streamId object o hasProperties) :
    hasProperties = stream.header.headerType.hasProperties ∧ object.tryIntoSubgroup = .ok o ∧
      o.serialize stream.lastId stream.header.headerType.hasProperties = .ok bytes := by
  have hcoded := h.resolve_left (by simp [hopen])
  have hflag : hasProperties = stream.header.headerType.hasProperties := by
    rw [htakes.properties, hview.properties_isSome]
  unfold Object.coded at hcoded
  cases hinto : object.tryIntoSubgroup with
  | error e => simp [hinto] at hcoded
  | ok o' =>
    obtain rfl := hview.tryIntoSubgroup hinto
    refine ⟨hflag, rfl, ?_⟩
    rw [hinto] at hcoded
    dsimp only at hcoded
    have hsome : o'.properties.isSome = stream.header.headerType.hasProperties := by
      rw [htakes.properties, hview.properties]
    rw [← hsome]
    cases hserialize : o'.serialize stream.lastId o'.properties.isSome with
    | error e => simp [hserialize, Except.toOption] at hcoded
    | ok out => simpa [hserialize, Except.toOption] using hcoded

theorem Inv.writeObject {trackAlias : UInt64} {stream : SendStream} (h : stream.Inv trackAlias)
    {object : Object} {o : SubgroupObject} {hasProperties : Bool} {bytes : Bytes}
    (hview : ViewOf stream.streamId object o hasProperties) (hfits : stream.Fits object)
    (hfollows : stream.Follows object bytes) (outcome : WriteOutcome) :
    (stream.writeObject object bytes outcome).Inv trackAlias := by
  cases hover : stream.isOver with
  | true => simpa [SendStream.writeObject, writeAll, accepts, hover] using h
  | false =>
    obtain ⟨hready, htakes⟩ := hfits.ready hover
    obtain ⟨rfl, hinto, hbytes⟩ := hfollows.serialize hover htakes hview
    have hpart : ∀ n, Inv trackAlias { stream with
        wire := stream.wire ++ accepted n bytes, torn := false, failed := true } :=
      fun n => h.part hready hview.readable hbytes n fun hfailed => by cases hfailed
    cases outcome with
    | ok =>
      simpa [SendStream.writeObject, writeAll, accepts, hover] using
        h.append hready hview hinto htakes hbytes
    | closedOrStopped n =>
      simpa [SendStream.writeObject, writeAll, accepts, hover, hready.torn] using hpart n
    | other n =>
      simpa [SendStream.writeObject, writeAll, accepts, hover, hready.torn] using hpart n

theorem Inv.giveUpObject {trackAlias : UInt64} {stream : SendStream} (h : stream.Inv trackAlias)
    {object : Object} {o : SubgroupObject} {hasProperties : Bool} {bytes : Bytes}
    (hview : ViewOf stream.streamId object o hasProperties) (hfits : stream.Fits object)
    (hfollows : stream.Follows object bytes) (n : Nat) (fails : Bool) :
    (stream.giveUp bytes n fails).Inv trackAlias := by
  unfold giveUp
  cases hover : stream.isOver with
  | true => exact h
  | false =>
    obtain ⟨hready, htakes⟩ := hfits.ready hover
    obtain ⟨rfl, -, hbytes⟩ := hfollows.serialize hover htakes hview
    refine h.part hready hview.readable hbytes n fun _ htorn => ?_
    simpa [hready.torn] using htorn

end SendStream

end Moqtail
