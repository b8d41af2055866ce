import Moqtail.Lib.Run
import Moqtail.Ts.Publication

/-! Which Objects the publication of a SUBSCRIBE writes. -/
namespace Moqtail.Ts

open Lib

/-! Locations in order. -/

namespace Location

instance : LE Location := ⟨fun l other =>
  l.group < other.group ∨ l.group = other.group ∧ l.object ≤ other.object⟩

theorem le_def {l other : Location} :
    l ≤ other ↔ l.group < other.group ∨ l.group = other.group ∧ l.object ≤ other.object := Iff.rfl

instance (l other : Location) : Decidable (l ≤ other) := decidable_of_iff _ le_def.symm

theorem compare_le_zero {l other : Location} : l.compare other ≤ 0 ↔ l ≤ other := by
  rw [le_def]
  unfold compare
  split <;> [skip; split <;> [skip; split <;> [skip; split]]] <;> omega

end Location

/-! A stream that takes an Object. -/

namespace Sender

variable {s : Sender} {obj : MoqtObject} {subgroupId : Option Int}

/-- The stream on which an Object would be written, or the one it opens. -/
def streamFor (s : Sender) (obj : MoqtObject) (subgroupId : Option Int) : SentStream :=
  (entryOf obj.groupId s.streams).getD ⟨s.headerFor obj subgroupId, []⟩

/-- The stream of its group takes an Object: one forwarded in a subgroup, with an ID above the last
one written there, and what is sent of it has bytes. -/
structure Takes (s : Sender) (obj : MoqtObject) (subgroupId : Option Int) : Prop where
  header : entryOf obj.groupId s.streams = none →
    ∃ bytes, (s.headerFor obj subgroupId).serialize = .ok bytes
  subgroup : obj.objectForwardingPreference = .subgroup
  above : ∀ last ∈ (s.streamFor obj subgroupId).lastObjectId, last < obj.objectId
  object : ∀ object, obj.tryIntoSubgroupObject = .ok object →
    ∃ bytes, object.serialize (s.streamFor obj subgroupId).lastObjectId = .ok bytes

end Sender

/-! What it sends on a stream. -/

theorem tryIntoSubgroupObject_eq_ok {obj : MoqtObject} {object : SubgroupObject}
    (h : obj.tryIntoSubgroupObject = .ok object) :
    obj.objectForwardingPreference = .subgroup ∧ object.objectId = obj.objectId := by
  unfold MoqtObject.tryIntoSubgroupObject at h
  split at h
  · cases h
  next hpreference =>
    rw [not_not] at hpreference
    refine ⟨hpreference, ?_⟩
    split at h <;> cases h <;> rfl

theorem exists_tryIntoSubgroupObject {obj : MoqtObject}
    (h : obj.objectForwardingPreference = .subgroup) :
    ∃ object, obj.tryIntoSubgroupObject = .ok object := by
  unfold MoqtObject.tryIntoSubgroupObject
  rw [if_neg (not_not.mpr h)]
  split <;> exact ⟨_, rfl⟩

theorem SendStream.write_eq_ok_iff {last : Option Int} {object : SubgroupObject} {bytes : Bytes} :
    SendStream.write last object = .ok bytes ↔
      (∀ l ∈ last, l < object.objectId) ∧ object.serialize last = .ok bytes := by
  cases last with
  | none => simp [SendStream.write]
  | some l =>
    have hmem : (∀ l' ∈ some l, l' < object.objectId) ↔ l < object.objectId := by simp
    rw [hmem]
    unfold SendStream.write
    dsimp only
    split
    next hle =>
      constructor
      · intro h
        cases h
      · omega
    next hlt => exact ⟨fun h => ⟨by omega, h⟩, And.right⟩

theorem SentStream.write_eq_ok_iff {stream : SentStream} {obj : MoqtObject} :
    (∃ stream', stream.write obj = .ok stream') ↔
      obj.objectForwardingPreference = .subgroup ∧
      (∀ last ∈ stream.lastObjectId, last < obj.objectId) ∧
      ∀ object, obj.tryIntoSubgroupObject = .ok object →
        ∃ bytes, object.serialize stream.lastObjectId = .ok bytes := by
  constructor
  · rintro ⟨stream', h⟩
    rw [SentStream.write, except_bind_eq_ok] at h
    obtain ⟨object, hobject, h⟩ := h
    rw [except_bind_eq_ok] at h
    obtain ⟨bytes, hbytes, -⟩ := h
    obtain ⟨hpreference, hid⟩ := tryIntoSubgroupObject_eq_ok hobject
    obtain ⟨habove, hserialize⟩ := SendStream.write_eq_ok_iff.mp hbytes
    refine ⟨hpreference, hid ▸ habove, ?_⟩
    intro object' hobject'
    rw [hobject] at hobject'
    cases hobject'
    exact ⟨bytes, hserialize⟩
  · rintro ⟨hpreference, habove, hserialize⟩
    obtain ⟨object, hobject⟩ := exists_tryIntoSubgroupObject hpreference
    obtain ⟨bytes, hbytes⟩ := hserialize object hobject
    have hid := (tryIntoSubgroupObject_eq_ok hobject).2
    have hwrite := SendStream.write_eq_ok_iff.mpr ⟨hid.symm ▸ habove, hbytes⟩
    rw [SentStream.write, hobject, except_ok_bind, hwrite]
    exact ⟨_, rfl⟩

namespace Sender

variable {s : Sender} {obj : MoqtObject} {subgroupId : Option Int}

theorem write_eq_ok_iff {stream : SentStream} (hstream : entryOf obj.groupId s.streams = some stream) :
    (∃ s', s.write obj = .ok s') ↔ ∃ stream', stream.write obj = .ok stream' := by
  unfold write
  rw [hstream]
  dsimp only
  cases hwrite : stream.write obj with
  | error e =>
    constructor
    · rintro ⟨s', h⟩
      cases h
    · rintro ⟨stream', h⟩
      cases h
  | ok stream' => exact ⟨fun _ => ⟨stream', rfl⟩, fun _ => ⟨_, rfl⟩⟩

@[simp] theorem streams_markGroupSeen (s : Sender) (group : Int) :
    (s.markGroupSeen group).streams = s.streams := by
  unfold markGroupSeen
  split <;> rfl

/-- The stream of the Object is there, just opened where there was none. -/
theorem openStream_eq_ok {s' : Sender} (h : s.openStream obj subgroupId = .ok s') :
    (∃ bytes, (s.headerFor obj subgroupId).serialize = .ok bytes) ∧
    s' = ({ s with streams := s.streams ++
      [(obj.groupId, ⟨s.headerFor obj subgroupId, []⟩)] } : Sender).markGroupSeen obj.groupId := by
  rw [openStream] at h
  dsimp only at h
  rw [except_bind_eq_ok] at h
  obtain ⟨bytes, hbytes, h⟩ := h
  cases h
  exact ⟨⟨bytes, hbytes⟩, rfl⟩

theorem tryWrite_eq_true_iff : (s.tryWrite obj).2 = true ↔ ∃ s', s.write obj = .ok s' := by
  unfold tryWrite
  cases s.write obj with
  | error e => simp
  | ok s' => simp

theorem takes_iff_of_write {s' : Sender} (hheader : entryOf obj.groupId s.streams = none →
      ∃ bytes, (s.headerFor obj subgroupId).serialize = .ok bytes)
    (hstream : entryOf obj.groupId s'.streams = some (s.streamFor obj subgroupId)) :
    (s'.tryWrite obj).2 = true ↔ s.Takes obj subgroupId := by
  rw [tryWrite_eq_true_iff, write_eq_ok_iff hstream, SentStream.write_eq_ok_iff]
  exact ⟨fun ⟨hpreference, habove, hobject⟩ => ⟨hheader, hpreference, habove, hobject⟩,
    fun h => ⟨h.subgroup, h.above, h.object⟩⟩

theorem send_eq_true_iff : (s.send obj subgroupId).2 = true ↔ s.Takes obj subgroupId := by
  unfold send ready
  cases hentry : entryOf obj.groupId s.streams with
  | some stream =>
    rw [Option.isSome_some, if_pos rfl]
    apply takes_iff_of_write
    · intro hnone
      rw [hentry] at hnone
      cases hnone
    · rw [streamFor, hentry, Option.getD_some]
  | none =>
    rw [Option.isSome_none, if_neg Bool.false_ne_true]
    cases hopen : s.openStream obj subgroupId with
    | error e =>
      constructor
      · intro h
        cases h
      · intro h
        obtain ⟨bytes, hbytes⟩ := h.header hentry
        rw [openStream, hbytes] at hopen
        cases hopen
    | ok s' =>
      obtain ⟨hheader, rfl⟩ := openStream_eq_ok hopen
      apply takes_iff_of_write fun _ => hheader
      rw [streams_markGroupSeen, entryOf_append, hentry, Option.none_or, streamFor, hentry]
      simp [entryOf]

end Sender

/-! Delivery. -/

/-- What comes to a publication: an Object of its track, an update, the rest of a call, its end. -/
inductive PublicationEvent where
  | object (obj : MoqtObject)
  | update (params : List MessageParameter)
  | settle
  | complete

namespace SubscribePublication

variable {s : SubscribePublication} {obj : MoqtObject}

/-- A refused update changes nothing. -/
def step (maxFilterRanges : Int) (s : SubscribePublication) : PublicationEvent → Option SubscribePublication
  | .object obj => some (s.handle obj).1
  | .update params =>
    match s.update maxFilterRanges params with
    | .error _ => some s
    | .ok s' => some s'
  | .settle => some s.settle
  | .complete => some s.complete

/-- The Subgroup ID of an Object, once it is noted. -/
def subgroupIdOf (s : SubscribePublication) (obj : MoqtObject) : Option Int :=
  (s.sender.subgroupIds.note obj).of obj

/-- Between the start and the end, forwarded, and passed by the Range Filters in force. -/
structure Wants (s : SubscribePublication) (obj : MoqtObject) : Prop where
  forward : s.forward = true
  start : s.startLocation ≤ obj.position
  last : ∀ last ∈ s.endLocation, obj.position ≤ last
  filter : s.filter.passes obj (s.subgroupIdOf obj) = .ok true

/-- An Object that comes, while Objects are forwarded, where the start is not reached. -/
def BeforeStart (s : SubscribePublication) (e : PublicationEvent) : Prop :=
  ∀ obj, e = .object obj → s.sender.isCompleted = false → s.forward = true →
    ¬ s.startLocation ≤ obj.position

/-- What the requests have set, which Objects do not change. -/
structure SameTerms (s s' : SubscribePublication) : Prop where
  startLocation : s'.startLocation = s.startLocation
  endLocation : s'.endLocation = s.endLocation
  forward : s'.forward = s.forward
  parameters : s'.parameters = s.parameters
  filter : s'.filter = s.filter

theorem SameTerms.trans {s s' s'' : SubscribePublication} (h : SameTerms s s')
    (h' : SameTerms s' s'') : SameTerms s s'' where
  startLocation := h'.startLocation.trans h.startLocation
  endLocation := h'.endLocation.trans h.endLocation
  forward := h'.forward.trans h.forward
  parameters := h'.parameters.trans h.parameters
  filter := h'.filter.trans h.filter

theorem isPastEnd_eq_false_iff {location : Location} :
    s.isPastEnd location = false ↔ ∀ last ∈ s.endLocation, location ≤ last := by
  unfold isPastEnd
  cases s.endLocation with
  | none => simp
  | some last =>
    rw [Option.any_some, decide_eq_false_iff_not, not_lt, Location.compare_le_zero]
    simp

/-- Whether the call for an Object leaves the publication started. -/
def starts (s : SubscribePublication) (obj : MoqtObject) : Bool :=
  s.isStarted || s.startLocation.compare obj.position ≤ 0

theorem starts_eq_true_iff :
    s.starts obj = true ↔ s.isStarted = true ∨ s.startLocation ≤ obj.position := by
  rw [starts, Bool.or_eq_true, decide_eq_true_eq, Location.compare_le_zero]

/-- An Object is written if every check of its call lets it through and its stream takes it. -/
theorem call_eq_true_iff : (s.call obj).2 = true ↔
    s.sender.isCompleted = false ∧ s.forward = true ∧ s.starts obj = true ∧
      s.isPastEnd obj.position = false ∧ s.filter.passes obj (s.subgroupIdOf obj) = .ok true ∧
      ((s.sender.note obj).send obj (s.subgroupIdOf obj)).2 = true := by
  unfold call
  split
  next hcompleted => simp [hcompleted]
  next hcompleted =>
    rw [Bool.not_eq_true] at hcompleted
    dsimp only
    split
    next hforward =>
      rw [Bool.not_eq_true'] at hforward
      simp [hforward]
    next hforward =>
      rw [Bool.not_eq_true', Bool.not_eq_false] at hforward
      split
      next hstarts =>
        have hstarts : s.starts obj = false := by rwa [Bool.not_eq_true'] at hstarts
        simp [hstarts]
      next hstarts =>
        have hstarts : s.starts obj = true := by rwa [Bool.not_eq_true', Bool.not_eq_false] at hstarts
        split
        next hpast =>
          have hpast : s.isPastEnd obj.position = true := hpast
          simp [hpast]
        next hpast =>
          have hpast : s.isPastEnd obj.position = false := by rwa [Bool.not_eq_true] at hpast
          have hfilter : s.filter.passes obj ((s.sender.note obj).subgroupIds.of obj) =
              s.filter.passes obj (s.subgroupIdOf obj) := rfl
          rw [hfilter]
          split
          next herror => simp [herror]
          next hfalse => simp [hfalse]
          next hpasses =>
            have hsend : (s.sender.note obj).send obj ((s.sender.note obj).subgroupIds.of obj) =
                (s.sender.note obj).send obj (s.subgroupIdOf obj) := rfl
            rw [hsend]
            split
            next sender hsent => simp [hsent]
            next sender hsent =>
              simp [hcompleted, hforward, hstarts, hpast, hpasses, hsent]

theorem sameTerms_call (s : SubscribePublication) (obj : MoqtObject) :
    SameTerms s (s.call obj).1 := by
  unfold call
  split
  · constructor <;> rfl
  · dsimp only
    split
    · constructor <;> rfl
    · split
      · constructor <;> rfl
      · split
        · constructor <;> rfl
        · split
          · constructor <;> rfl
          · constructor <;> rfl
          · split <;> constructor <;> rfl

/-- Only an Object at or behind the start, that comes while Objects are forwarded, starts it. -/
theorem starts_of_call (h : (s.call obj).1.isStarted = true) :
    s.isStarted = true ∨
      s.sender.isCompleted = false ∧ s.forward = true ∧ s.startLocation ≤ obj.position := by
  unfold call at h
  split at h
  · exact .inl h
  next hcompleted =>
    rw [Bool.not_eq_true] at hcompleted
    dsimp only at h
    split at h
    · exact .inl h
    next hforward =>
      rw [Bool.not_eq_true', Bool.not_eq_false] at hforward
      have hstarts : s.starts obj = true := by
        split at h
        · exact h
        · split at h
          · exact h
          · split at h
            · exact h
            · exact h
            · split at h <;> exact h
      rcases starts_eq_true_iff.mp hstarts with hstarted | hstart
      · exact .inl hstarted
      · exact .inr ⟨hcompleted, hforward, hstart⟩

/-- What is behind a write changes no more than what is sent. -/
theorem settle_eq (s : SubscribePublication) :
    ∃ sender, s.settle = { s with sender := sender } ∧ sender.isCompleted = s.sender.isCompleted ∧
      sender.subgroupIds = s.sender.subgroupIds := by
  have hclose : ∀ (sender : Sender) group,
      (sender.closeGroupStream group).isCompleted = sender.isCompleted ∧
      (sender.closeGroupStream group).subgroupIds = sender.subgroupIds := by
    intro sender group
    unfold Sender.closeGroupStream
    split <;> exact ⟨rfl, rfl⟩
  unfold settle
  split
  · exact ⟨s.sender, rfl, rfl, rfl⟩
  next location _ =>
    refine ⟨_, rfl, ?_⟩
    unfold Sender.setLatest
    dsimp only
    split
    · exact hclose _ _
    · unfold Sender.closeLatestBut
      split
      · split
        · exact hclose _ _
        · exact ⟨rfl, rfl⟩
      · exact ⟨rfl, rfl⟩

theorem sameTerms_handle (s : SubscribePublication) (obj : MoqtObject) :
    SameTerms s (s.handle obj).1 := by
  obtain ⟨sender, hsettle, -, -⟩ := settle_eq s
  have hsettled : SameTerms s s.settle := by
    rw [hsettle]
    constructor <;> rfl
  exact hsettled.trans (sameTerms_call _ obj)

/-- The call for an Object at or behind the start writes it if it is wanted and its stream takes it. -/
theorem handle_eq_true_iff (hstart : s.startLocation ≤ obj.position) :
    (s.handle obj).2 = true ↔ s.sender.isCompleted = false ∧ s.Wants obj ∧
      (s.settle.sender.note obj).Takes obj (s.subgroupIdOf obj) := by
  obtain ⟨sender, hsettle, hcompleted, hids⟩ := settle_eq s
  have hid : s.settle.subgroupIdOf obj = s.subgroupIdOf obj := by
    rw [subgroupIdOf, subgroupIdOf, hsettle]
    dsimp only
    rw [hids]
  have hstarts : s.settle.starts obj = true := by
    rw [starts_eq_true_iff, hsettle]
    exact .inr hstart
  rw [handle, call_eq_true_iff, Sender.send_eq_true_iff, hid, isPastEnd_eq_false_iff, hsettle]
  dsimp only
  rw [hcompleted]
  rw [hsettle] at hstarts
  constructor
  · rintro ⟨hcompleted, hforward, -, hlast, hfilter, htakes⟩
    exact ⟨hcompleted, ⟨hforward, hstart, hlast, hfilter⟩, htakes⟩
  · rintro ⟨hcompleted, hwants, htakes⟩
    exact ⟨hcompleted, hwants.forward, hstarts, hwants.last, hwants.filter, htakes⟩

theorem handle_eq_false (hstarted : s.isStarted = false) (hstart : ¬ s.startLocation ≤ obj.position) :
    (s.handle obj).2 = false := by
  obtain ⟨sender, hsettle, -, -⟩ := settle_eq s
  rw [← Bool.not_eq_true]
  intro hwritten
  have hstarts := (call_eq_true_iff.mp hwritten).2.2.1
  rw [starts_eq_true_iff, hsettle] at hstarts
  rcases hstarts with h | h
  · rw [hstarted] at h
    cases h
  · exact hstart h

/-! Runs. -/

/-- The filter in force is that of the parameters held. -/
def FilterHeld (s : SubscribePublication) : Prop := CombinedFilter.new s.parameters = .ok s.filter

variable {maxFilterRanges : Int}

theorem new_eq_ok {trackAlias publisherPriority : Int} {live : LiveTrackSource}
    {parameters : List MessageParameter} (h : new trackAlias publisherPriority live parameters = .ok s) :
    s.FilterHeld ∧ s.isStarted = false ∧ s.sender = Sender.new trackAlias publisherPriority live := by
  rw [new, except_bind_eq_ok] at h
  obtain ⟨filter, hfilter, h⟩ := h
  cases h
  exact ⟨hfilter, rfl, rfl⟩

theorem update_eq_ok {params : List MessageParameter} {s' : SubscribePublication}
    (h : s.update maxFilterRanges params = .ok s') :
    s'.FilterHeld ∧ s'.isStarted = s.isStarted ∧ s'.sender = s.sender := by
  rw [update, except_bind_eq_ok] at h
  obtain ⟨parameters, -, h⟩ := h
  rw [except_bind_eq_ok] at h
  obtain ⟨⟨⟩, -, h⟩ := h
  rw [except_bind_eq_ok] at h
  obtain ⟨filter, hfilter, h⟩ := h
  cases h
  refine ⟨hfilter, ?_, ?_⟩
  · dsimp only
    split <;> rfl
  · dsimp only
    split <;> rfl

theorem filterHeld_step {e : PublicationEvent} {s' : SubscribePublication} (h : s.FilterHeld)
    (hstep : step maxFilterRanges s e = some s') : s'.FilterHeld := by
  cases e with
  | object obj =>
    cases hstep
    have hsame := sameTerms_handle s obj
    rw [FilterHeld, hsame.parameters, hsame.filter]
    exact h
  | update params =>
    rw [step] at hstep
    split at hstep
    · cases hstep
      exact h
    next s' hupdate =>
      cases hstep
      exact (update_eq_ok hupdate).1
  | settle =>
    cases hstep
    obtain ⟨sender, hsettle, -, -⟩ := settle_eq s
    rw [hsettle]
    exact h
  | complete =>
    cases hstep
    exact h

theorem notStarted_step {e : PublicationEvent} {s' : SubscribePublication} (h : s.isStarted = false)
    (hbefore : BeforeStart s e) (hstep : step maxFilterRanges s e = some s') :
    s'.isStarted = false := by
  cases e with
  | object obj =>
    cases hstep
    obtain ⟨sender, hsettle, hcompleted, -⟩ := settle_eq s
    rw [← Bool.not_eq_true]
    intro hstarted
    rcases starts_of_call hstarted with h' | ⟨hactive, hforward, hstart⟩
    · rw [hsettle] at h'
      rw [h] at h'
      cases h'
    · rw [hsettle] at hactive hforward hstart
      exact hbefore obj rfl (hcompleted ▸ hactive) hforward hstart
  | update params =>
    rw [step] at hstep
    split at hstep
    · cases hstep
      exact h
    next s' hupdate =>
      cases hstep
      exact (update_eq_ok hupdate).2.1.trans h
  | settle =>
    cases hstep
    obtain ⟨sender, hsettle, -, -⟩ := settle_eq s
    rw [hsettle]
    exact h
  | complete =>
    cases hstep
    exact h

/-- An Object at or behind the start is written if it is wanted at that moment, by the filters of the
parameters then held, and its stream takes it; one before the start is not while none has come at or
behind it. -/
theorem written_iff {maxFilterRanges trackAlias publisherPriority : Int} {live : LiveTrackSource}
    {parameters : List MessageParameter} {s₀ : SubscribePublication}
    (hnew : new trackAlias publisherPriority live parameters = .ok s₀) (events : List PublicationEvent)
    {s : SubscribePublication} (hrun : run (step maxFilterRanges) s₀ events = some s)
    (obj : MoqtObject) :
    CombinedFilter.new s.parameters = .ok s.filter ∧
    (s.startLocation ≤ obj.position → ((s.handle obj).2 = true ↔ s.sender.isCompleted = false ∧
      s.Wants obj ∧ (s.settle.sender.note obj).Takes obj (s.subgroupIdOf obj))) ∧
    (¬ s.startLocation ≤ obj.position → Along (step maxFilterRanges) BeforeStart s₀ events →
      (s.handle obj).2 = false) := by
  obtain ⟨hheld, hstarted, -⟩ := new_eq_ok hnew
  refine ⟨?_, handle_eq_true_iff, ?_⟩
  · exact run_invariant (P := fun _ _ => True) (fun s a s' hs _ hstep => filterHeld_step hs hstep)
      events s₀ s hheld (Along.of_forall events s₀ fun _ _ => trivial) hrun
  · intro hstart hbefore
    refine handle_eq_false ?_ hstart
    exact run_invariant (fun s a s' hs hp hstep => notStarted_step hs hp hstep) events s₀ s hstarted
      hbefore hrun

instance (s : SubscribePublication) (obj : MoqtObject) : Decidable (s.Wants obj) :=
  decidable_of_iff (s.forward = true ∧ s.startLocation ≤ obj.position ∧
      (∀ last ∈ s.endLocation, obj.position ≤ last) ∧
      s.filter.passes obj (s.subgroupIdOf obj) = .ok true)
    ⟨fun ⟨hforward, hstart, hlast, hfilter⟩ => ⟨hforward, hstart, hlast, hfilter⟩,
      fun h => ⟨h.forward, h.start, h.last, h.filter⟩⟩

/-- An Object of one byte that leaves its Subgroup ID to the first of its group. -/
def plainObject (group object : Int) : MoqtObject where
  location := (group, object)
  publisherPriority := 128
  objectForwardingPreference := .subgroup
  subgroupId := none
  objectStatus := .normal
  properties := none
  payload := some ⟨[1], by decide⟩
  payload_none := fun h => absurd rfl h
  made := MoqtObject.made_none

/-- From the start of group 5. -/
def fromGroupFive : LocationFilter := ⟨.absoluteStart, some 5, some 0, none, none, by decide⟩

/-- The run of a SUBSCRIBE with these parameters, of a track that has produced nothing. -/
def runWith (parameters : List MessageParameter) (events : List PublicationEvent) :
    Option SubscribePublication :=
  (new 1 128 ⟨none⟩ parameters).toOption.bind fun s => run (step 8) s events

theorem exists_of_runWith {parameters : List MessageParameter} {events : List PublicationEvent}
    {p : SubscribePublication → Bool} (h : (runWith parameters events).any p = true) :
    ∃ s₀ s, new 1 128 ⟨none⟩ parameters = .ok s₀ ∧ run (step 8) s₀ events = some s ∧ p s = true := by
  rw [Option.any_eq_true] at h
  obtain ⟨s, hs, hp⟩ := h
  rw [runWith, Option.bind_eq_some_iff] at hs
  obtain ⟨s₀, hnew, hrun⟩ := hs
  cases hx : new 1 128 ⟨none⟩ parameters with
  | error e =>
    rw [hx] at hnew
    cases hnew
  | ok s₁ =>
    rw [hx] at hnew
    cases hnew
    exact ⟨s₀, s, rfl, hrun, hp⟩

/-- Object IDs up to a last one. -/
def objectIdsUpTo (last : Int) : RangeFilter := ⟨.objectId, some 0, none, [(0, some last)], rfl⟩

/-- An Object that the Range Filter of the SUBSCRIBE would drop, and that of an update passes. -/
theorem written_iff_second :
    ∃ s₀ s, new 1 128 ⟨none⟩ [.locationFilter fromGroupFive, .rangeFilter (objectIdsUpTo 3)] = .ok s₀ ∧
      run (step 8) s₀ [.object (plainObject 4 9), .object (plainObject 5 2),
        .update [.rangeFilter (objectIdsUpTo 7)]] = some s ∧
      s₀.filter.passes (plainObject 5 6) none = .ok false ∧ s.Wants (plainObject 5 6) := by
  have hwritten : (runWith [.locationFilter fromGroupFive, .rangeFilter (objectIdsUpTo 3)]
      [.object (plainObject 4 9), .object (plainObject 5 2),
        .update [.rangeFilter (objectIdsUpTo 7)]]).any (fun s =>
      decide (s.startLocation ≤ (plainObject 5 6).position) && (s.handle (plainObject 5 6)).2) := by
    decide +kernel
  obtain ⟨s₀, s, hnew, hrun, hs⟩ := exists_of_runWith hwritten
  rw [Bool.and_eq_true, decide_eq_true_eq] at hs
  have hwants := ((written_iff hnew _ hrun (plainObject 5 6)).2.1 hs.1).mp hs.2
  have hdropped : s₀.filter.passes (plainObject 5 6) none = .ok false := by
    cases hnew
    decide +kernel
  exact ⟨s₀, s, hnew, hrun, hdropped, hwants.2.1⟩

/-- An Object before the start is written once one has reached an earlier start, and one that is
wanted is not if it comes behind a later one of its group. -/
theorem not_exact :
    (¬ ∀ events s₀ s obj, new 1 128 ⟨none⟩ [] = .ok s₀ → run (step 8) s₀ events = some s →
        (s.handle obj).2 = true → s.startLocation ≤ obj.position) ∧
      ¬ ∀ events s₀ s obj, new 1 128 ⟨none⟩ [] = .ok s₀ → run (step 8) s₀ events = some s →
        s.Wants obj → (s.handle obj).2 = true := by
  constructor
  · intro h
    have hlate : (runWith [] [.object (plainObject 0 0), .update [.locationFilter fromGroupFive]]).any
        (fun s => (s.handle (plainObject 1 0)).2 &&
          !decide (s.startLocation ≤ (plainObject 1 0).position)) := by
      decide +kernel
    obtain ⟨s₀, s, hnew, hrun, hs⟩ := exists_of_runWith hlate
    rw [Bool.and_eq_true, Bool.not_eq_true', decide_eq_false_iff_not] at hs
    exact hs.2 (h _ s₀ s _ hnew hrun hs.1)
  · intro h
    have hearly : (runWith [] [.object (plainObject 0 1)]).any fun s =>
        decide (s.Wants (plainObject 0 0)) && !(s.handle (plainObject 0 0)).2 := by
      decide +kernel
    obtain ⟨s₀, s, hnew, hrun, hs⟩ := exists_of_runWith hearly
    rw [Bool.and_eq_true, Bool.not_eq_true', decide_eq_true_eq] at hs
    rw [h _ s₀ s _ hnew hrun hs.1] at hs
    cases hs.2

end SubscribePublication

end Moqtail.Ts
