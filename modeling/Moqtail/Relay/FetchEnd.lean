import Moqtail.Relay.FetchServe
import Moqtail.Wire.ControlMessage
import Moqtail.Wire.LocationFilter

/-! The range of a FETCH and the End Location of its FETCH_OK, from
`server/message_handlers/fetch_handler.rs`.

The end is put together from the request's Location Filter, the Largest Object the relay
knows, the publisher's End Location and the last object in the cache. What the handler meets
of the last three is in `RangeSources`. -/
namespace Moqtail

open Message (RequestError RequestErrorCode)

/-! Ranges. -/

inductive FetchRangeError where
  | invalidRange
  | protocolViolation
deriving Repr, DecidableEq

/-- Only the absolute filters have an end, and their start needs no Largest Object. -/
def LocationFilter.endsBeforeStart (filter : LocationFilter) : Bool :=
  match filter.startLocation .none, filter.endLocation with
  | some start, some last => last < start
  | _, _ => false

def resolveFetchRange (filter : LocationFilter) (largest : Option Location) :
    Except FetchRangeError (Location × Location) :=
  if filter.endsBeforeStart then .error .protocolViolation
  else
    match filter.fetchRange largest with
    | some range => .ok range
    | none => .error .invalidRange

def concreteEndLocation (end_ : Location) (upstreamEnd : Option Location)
    (cachedLast : Option UInt64) : Location :=
  if end_.object ≠ maxId then end_
  else
    match upstreamEnd.filter (· < end_) with
    | some upstreamEnd => upstreamEnd
    | none =>
      match cachedLast with
      | some object => ⟨end_.group, object⟩
      | none => end_

/-- `last_cached_object_id`. -/
def CachedGroup.lastObjectId {group : UInt64} (c : CachedGroup group) : Option UInt64 :=
  (c.objects.map (·.objectId)).max?

def unresolvedFetchRange (filter : LocationFilter) : Option (Location × Location) :=
  match filter with
  | .absoluteStartGroupEnd start _ => filter.endLocation.map (start, ·)
  | .absoluteRange start _ => filter.endLocation.map (start, ·)
  | _ => none

def localStateAnswers (known : Option Location) (requestedEnd : Location) : Bool :=
  known.any fun known => requestedEnd ≤ known

def groupsToClaim (filter : LocationFilter) : Option (UInt64 × UInt64) :=
  filter.endLocation.map fun end_ =>
    (((filter.startLocation none).map (·.group)).getD 0, end_.group)

/-! Asking the publisher. -/

inductive UpstreamFetchResponse where
  | accepted (endLocation : Location) (endOfTrack : Bool)
  | rejected (err : RequestError)
  | failed
  | malformedTrack
deriving DecidableEq

inductive UpstreamRange where
  | resolved (endLocation : Location) (endOfTrack : Bool)
  | rejected (err : RequestError)
  | unanswered
  | malformedTrack
deriving DecidableEq

/-- `response` is `none` without a publisher to ask, and when no answer comes in time. -/
def resolveRangeUpstream (response : Option UpstreamFetchResponse) (largest : Option Location) :
    UpstreamRange × Option Location :=
  match response with
  | some (.accepted endLocation endOfTrack) =>
    (.resolved endLocation endOfTrack,
      if largest.all (· < endLocation) then some endLocation else largest)
  | some (.rejected err) =>
    (if err.errorCode = .redirect then .unanswered else .rejected err, largest)
  | some .failed => (.unanswered, largest)
  | some .malformedTrack => (.malformedTrack, largest)
  | none => (.unanswered, largest)

def invalidRangeReason : ReasonPhrase := ⟨"Invalid range", by decide⟩

def malformedTrackReason : ReasonPhrase := ⟨"Malformed track", by decide⟩

def emptyRangeOutcome (filter : LocationFilter) (upstreamRejection : Option RequestError)
    (hasUpstreamPublisher : Bool) :
    Except (RequestErrorCode × ReasonPhrase) (Location × Location) :=
  match upstreamRejection with
  | some err => .error (err.errorCode, err.reasonPhrase)
  | none =>
    match unresolvedFetchRange filter with
    | some range =>
      if hasUpstreamPublisher then .ok range else .error (.invalidRange, invalidRangeReason)
    | none => .error (.invalidRange, invalidRangeReason)

/-! The handler. -/

/-- A range and what FETCH_OK says of it. `pendingUpstream` is set when the publisher's
response is left for the delivery to read. -/
structure ResolvedFetch where
  startLocation : Location
  endLocation : Location
  endOfTrack : Bool
  pendingUpstream : Bool
deriving Repr, DecidableEq

inductive FetchAnswer where
  | closeSession
  | requestError (errorCode : RequestErrorCode) (reasonPhrase : ReasonPhrase)
  | fetchOk (range : ResolvedFetch)
  | unreachable
deriving DecidableEq

/-- `claimFill` is `none` when no other FETCH is filling one of the groups, and otherwise the
Largest Object once that fill is over or was waited for long enough. `cache` is what is held
when the range is settled, and `stop` is looked at before FETCH_OK. -/
structure RangeSources where
  largest : Option Location
  claimFill : UInt64 × UInt64 → Option (Option Location)
  response : Option UpstreamFetchResponse
  cache : (group : UInt64) → CachedGroup group
  hasPublisher : Bool
  stop : FetchStop

namespace RangeSources

def cachedLast (s : RangeSources) (group : UInt64) : Option UInt64 := (s.cache group).lastObjectId

/-- The Largest Object, and whether it answers the request without the publisher. -/
def local_ (s : RangeSources) (filter : LocationFilter) : Option Location × Bool :=
  match filter.endLocation with
  | none => (s.largest, false)
  | some end_ =>
    if localStateAnswers s.largest end_ then (s.largest, true)
    else
      match (groupsToClaim filter).bind s.claimFill with
      | none => (s.largest, false)
      | some largest => (largest, localStateAnswers largest end_)

/-- What the publisher said, if it was asked, and the Largest Object after that. -/
def learned (s : RangeSources) (filter : LocationFilter) :
    Option UpstreamRange × Option Location :=
  let (largest, answeredLocally) := s.local_ filter
  if answeredLocally then (none, largest)
  else
    let (upstream, largest) := resolveRangeUpstream s.response largest
    (some upstream, largest)

def upstreamEnd (s : RangeSources) (filter : LocationFilter) : Option Location :=
  match (s.learned filter).1 with
  | some (.resolved endLocation _) => some endLocation
  | _ => none

def upstreamEndOfTrack (s : RangeSources) (filter : LocationFilter) : Bool :=
  match (s.learned filter).1 with
  | some (.resolved _ endOfTrack) => endOfTrack
  | _ => false

def upstreamRejection (s : RangeSources) (filter : LocationFilter) : Option RequestError :=
  match (s.learned filter).1 with
  | some (.rejected err) => some err
  | _ => none

def respond (s : RangeSources) (filter : LocationFilter) (start end_ : Location) : FetchAnswer :=
  if s.stop = .malformedTrack then .requestError .malformedTrack malformedTrackReason
  else
    .fetchOk
      { startLocation := start
        endLocation := end_
        endOfTrack := s.upstreamEndOfTrack filter && s.upstreamEnd filter = some end_
        pendingUpstream := (s.upstreamEnd filter).isSome }

/-- The part of `handle` after the track is found, and the check of the range before it. -/
def answer (s : RangeSources) (filter : LocationFilter) : FetchAnswer :=
  match resolveFetchRange filter none with
  | .error .protocolViolation => .closeSession
  | _ =>
    if (s.learned filter).1 = some .malformedTrack then
      .requestError .malformedTrack malformedTrackReason
    else
      match resolveFetchRange filter (s.learned filter).2 with
      | .ok (start, end_) =>
        let cachedLast :=
          if end_.object = maxId ∧ (s.upstreamEnd filter).isNone then s.cachedLast end_.group
          else none
        s.respond filter start (concreteEndLocation end_ (s.upstreamEnd filter) cachedLast)
      | .error .protocolViolation => .unreachable
      | .error .invalidRange =>
        let hasPublisher := (s.upstreamRejection filter).isNone && s.hasPublisher
        match emptyRangeOutcome filter (s.upstreamRejection filter) hasPublisher with
        | .ok (start, end_) => s.respond filter start end_
        | .error (errorCode, reasonPhrase) => .requestError errorCode reasonPhrase

end RangeSources

/-! Facts about ranges. -/

theorem LocationFilter.fetchRange_bounds {filter : LocationFilter} {largest : Option Location}
    {start last : Location} (h : filter.fetchRange largest = some (start, last)) :
    start ≤ last ∧ ∀ end_, filter.endLocation = some end_ → last ≤ end_ := by
  cases largest with
  | none => contradiction
  | some largest =>
    simp only [fetchRange, Option.ite_none_right_eq_some, Option.some.injEq,
      Prod.mk.injEq] at h
    obtain ⟨hle, rfl, rfl⟩ := h
    apply And.intro hle
    intro end_ hend
    simp only [hend]
    split
    · exact Location.le_iff_key.mpr (Nat.le_refl _)
    · next hlt =>
      rw [Location.lt_iff_key] at hlt
      rw [Location.le_iff_key]
      omega

theorem resolveFetchRange_none_eq (filter : LocationFilter) :
    resolveFetchRange filter none = .error .protocolViolation ↔ filter.endsBeforeStart = true := by
  unfold resolveFetchRange
  cases filter.endsBeforeStart with
  | true => simp
  | false => simp [LocationFilter.fetchRange]

theorem concreteEndLocation_of_ne {end_ : Location} (h : end_.object ≠ maxId)
    (upstreamEnd : Option Location) (cachedLast : Option UInt64) :
    concreteEndLocation end_ upstreamEnd cachedLast = end_ := if_pos h

theorem concreteEndLocation_upstream {end_ u : Location} (h : end_.object = maxId) (hu : u < end_)
    (cachedLast : Option UInt64) : concreteEndLocation end_ (some u) cachedLast = u := by
  simp [concreteEndLocation, h, hu, Option.filter]

theorem concreteEndLocation_beyond {end_ u : Location} (hu : ¬ u < end_) :
    concreteEndLocation end_ (some u) none = end_ := by
  simp [concreteEndLocation, hu, Option.filter]

theorem concreteEndLocation_cached {end_ : Location} (h : end_.object = maxId) (object : UInt64) :
    concreteEndLocation end_ none (some object) = ⟨end_.group, object⟩ := by
  simp [concreteEndLocation, h]

theorem concreteEndLocation_none (end_ : Location) : concreteEndLocation end_ none none = end_ := by
  simp [concreteEndLocation]

theorem concreteEndLocation_le (end_ : Location) (upstreamEnd : Option Location)
    (cachedLast : Option UInt64) : concreteEndLocation end_ upstreamEnd cachedLast ≤ end_ := by
  unfold concreteEndLocation
  split
  · exact Location.le_iff_key.mpr (Nat.le_refl _)
  · next hmax =>
    split
    · next u hu =>
      have hlt : u < end_ := by simpa using (Option.filter_eq_some_iff.mp hu).2
      rw [Location.lt_iff_key] at hlt
      rw [Location.le_iff_key]
      omega
    · split
      · next object =>
        apply Or.inr
        apply And.intro rfl
        rw [show end_.object = maxId from Decidable.not_not.mp hmax]
        exact le_maxId object
      · exact Location.le_iff_key.mpr (Nat.le_refl _)

/-- A filter that gives both a start and an end is served as it was written. -/
theorem unresolvedFetchRange_eq_some {filter : LocationFilter} {start end_ : Location}
    (h : unresolvedFetchRange filter = some (start, end_)) :
    filter.startLocation none = some start ∧ filter.endLocation = some end_ := by
  cases filter with
  | absoluteStartGroupEnd first endGroup => cases h; exact ⟨rfl, rfl⟩
  | absoluteRange first last => cases h; exact ⟨rfl, rfl⟩
  | _ => contradiction

theorem unresolvedFetchRange_le {filter : LocationFilter} {start end_ : Location}
    (h : unresolvedFetchRange filter = some (start, end_))
    (hends : filter.endsBeforeStart = false) : start ≤ end_ := by
  have hfilter := unresolvedFetchRange_eq_some h
  have hlt : ¬ end_ < start := by
    simpa [LocationFilter.endsBeforeStart, hfilter.1, hfilter.2] using hends
  rw [Location.lt_iff_key] at hlt
  rw [Location.le_iff_key]
  omega

/-! What FETCH_OK should say. -/

namespace RangeSources

variable {s : RangeSources} {filter : LocationFilter} {r : ResolvedFetch}

/-- The range asked for, cut back to the Largest Object. -/
def requested (s : RangeSources) (filter : LocationFilter) : Option (Location × Location) :=
  filter.fetchRange (s.learned filter).2

/-- The last object of `group`, where that is the one the publisher ended at. -/
def publisherLast (s : RangeSources) (filter : LocationFilter) (group : UInt64) : Option UInt64 :=
  ((s.upstreamEnd filter).filter fun u => u.group = group ∧ u.object ≠ maxId).map (·.object)

/-- The whole of a group stands for its last object only where nobody knows that one. -/
def Concrete (s : RangeSources) (filter : LocationFilter) (end_ : Location) : Prop :=
  end_.object = maxId →
    s.publisherLast filter end_.group = none ∧ s.cachedLast end_.group = none

structure SensibleEnd (s : RangeSources) (filter : LocationFilter) (r : ResolvedFetch) : Prop where
  start_le : r.startLocation ≤ r.endLocation
  le_filter : ∀ end_, filter.endLocation = some end_ → r.endLocation ≤ end_
  concrete : s.Concrete filter r.endLocation

/-- When the end that is found for a range up to the whole of a group is a sensible one. -/
structure EndFound (s : RangeSources) (filter : LocationFilter) : Prop where
  /-- What the cache holds of the last group reaches the start. -/
  cached : ∀ start last, s.requested filter = some (start, last) → last.object = maxId →
    s.upstreamEnd filter = none → ∀ object, s.cachedLast last.group = some object →
      start ≤ ⟨last.group, object⟩ ∧ object ≠ maxId
  /-- The publisher's end reaches the start, and names an object the cache cannot name. -/
  declared : ∀ start last u, s.requested filter = some (start, last) → last.object = maxId →
    s.upstreamEnd filter = some u → u < last →
      start ≤ u ∧ (u.object = maxId → s.cachedLast u.group = none)
  /-- A publisher that ends later says nothing of the last group, and neither can the cache. -/
  beyond : ∀ start last u, s.requested filter = some (start, last) → last.object = maxId →
    s.upstreamEnd filter = some u → ¬ u < last → s.cachedLast last.group = none
  /-- Of a range past the Largest Object, the last group is not known. -/
  unresolved : s.requested filter = none → ∀ end_, filter.endLocation = some end_ →
    s.Concrete filter end_

theorem publisherLast_eq_none {group : UInt64} : s.publisherLast filter group = none ↔
    ∀ u, s.upstreamEnd filter = some u → u.group = group → u.object = maxId := by
  simp [publisherLast]

theorem respond_eq_fetchOk {start end_ : Location} (h : s.respond filter start end_ = .fetchOk r) :
    r.startLocation = start ∧ r.endLocation = end_ := by
  unfold respond at h
  split at h
  · contradiction
  · cases h
    exact ⟨rfl, rfl⟩

theorem emptyRangeOutcome_eq_ok {rejection : Option RequestError} {hasPublisher : Bool}
    {range : Location × Location}
    (h : emptyRangeOutcome filter rejection hasPublisher = .ok range) :
    unresolvedFetchRange filter = some range := by
  unfold emptyRangeOutcome at h
  split at h
  · contradiction
  · split at h
    · next hrange =>
      split at h
      · cases h
        exact hrange
      · contradiction
    · contradiction

/-- The end before the objects are looked up, and the one FETCH_OK carries. -/
def namedEnd (s : RangeSources) (filter : LocationFilter) (last : Location) : Location :=
  concreteEndLocation last (s.upstreamEnd filter)
    (if last.object = maxId ∧ (s.upstreamEnd filter).isNone then s.cachedLast last.group else none)

/-- Where a FETCH_OK comes from: the range asked for, or the filter as it is written. -/
theorem answer_eq_fetchOk (h : s.answer filter = .fetchOk r) :
    filter.endsBeforeStart = false ∧
      ((∃ last, s.requested filter = some (r.startLocation, last) ∧
          r.endLocation = s.namedEnd filter last) ∨
        s.requested filter = none ∧
          unresolvedFetchRange filter = some (r.startLocation, r.endLocation)) := by
  unfold answer at h
  cases hends : filter.endsBeforeStart with
  | true =>
    rw [(resolveFetchRange_none_eq filter).mpr hends] at h
    contradiction
  | false =>
    apply And.intro rfl
    have hresolve : resolveFetchRange filter (s.learned filter).2 =
        match s.requested filter with
        | some range => .ok range
        | none => .error .invalidRange := by
      simp [resolveFetchRange, hends, requested]
    have hopen : resolveFetchRange filter none ≠ .error .protocolViolation := by
      rw [Ne, resolveFetchRange_none_eq, hends]
      exact Bool.false_ne_true
    split at h
    · next hviolation => exact absurd hviolation hopen
    · split at h
      · contradiction
      · rw [hresolve] at h
        cases hrequested : s.requested filter with
        | some range =>
          rw [hrequested] at h
          have hfields := respond_eq_fetchOk h
          apply Or.inl
          exact ⟨range.2, by rw [hfields.1], hfields.2⟩
        | none =>
          rw [hrequested] at h
          apply Or.inr
          apply And.intro rfl
          dsimp only at h
          split at h
          · next houtcome =>
            have hfields := respond_eq_fetchOk h
            rw [hfields.1, hfields.2]
            exact emptyRangeOutcome_eq_ok houtcome
          · contradiction

theorem respond_ne_unreachable (s : RangeSources) (filter : LocationFilter)
    (start end_ : Location) : s.respond filter start end_ ≠ .unreachable := by
  unfold respond
  split <;> simp

theorem answer_ne_unreachable (s : RangeSources) (filter : LocationFilter) :
    s.answer filter ≠ .unreachable := by
  intro h
  unfold answer at h
  cases hends : filter.endsBeforeStart with
  | true =>
    rw [(resolveFetchRange_none_eq filter).mpr hends] at h
    contradiction
  | false =>
    have hresolve : ∀ largest, resolveFetchRange filter largest ≠ .error .protocolViolation := by
      intro largest
      unfold resolveFetchRange
      rw [hends]
      cases filter.fetchRange largest <;> simp
    split at h
    · contradiction
    · split at h
      · contradiction
      · split at h
        · exact respond_ne_unreachable s filter _ _ h
        · next hviolation => exact hresolve _ hviolation
        · dsimp only at h
          split at h
          · exact respond_ne_unreachable s filter _ _ h
          · contradiction

/-- A FETCH_OK never ends past the filter. -/
theorem endLocation_le (h : s.answer filter = .fetchOk r) {end_ : Location}
    (hend : filter.endLocation = some end_) : r.endLocation ≤ end_ := by
  have hsource := (answer_eq_fetchOk h).2
  cases hsource with
  | inl hrequested =>
    cases hrequested with
    | intro last hlast =>
      have hle : r.endLocation ≤ last := by
        rw [hlast.2]
        apply concreteEndLocation_le
      have hbound := (LocationFilter.fetchRange_bounds hlast.1).2 end_ hend
      rw [Location.le_iff_key] at *
      omega
  | inr hwritten =>
    have hfilter := (unresolvedFetchRange_eq_some hwritten.2).2
    rw [hend] at hfilter
    cases hfilter
    exact Location.le_iff_key.mpr (Nat.le_refl _)

theorem sensibleEnd_iff_concrete (h : s.answer filter = .fetchOk r) :
    s.SensibleEnd filter r ↔
      r.startLocation ≤ r.endLocation ∧ s.Concrete filter r.endLocation := by
  constructor
  · intro hsensible
    exact ⟨hsensible.start_le, hsensible.concrete⟩
  · intro hboth
    exact ⟨hboth.1, fun _ hend => endLocation_le h hend, hboth.2⟩

/-- In a group whose end is not before `last`, only the last object there can be is left. -/
theorem object_eq_maxId {u last : Location} (hmax : last.object = maxId)
    (hgroup : u.group = last.group) (hlt : ¬ u < last) : u.object = maxId := by
  have hobject : ¬ u.object < last.object := fun hobject => hlt (Or.inr ⟨hgroup, hobject⟩)
  rw [hmax] at hobject
  exact UInt64.le_antisymm (le_maxId _) (UInt64.not_lt.mp hobject)

theorem EndFound.of_requested {start last : Location}
    (hrequested : s.requested filter = some (start, last))
    (hcached : last.object = maxId → s.upstreamEnd filter = none →
      ∀ object, s.cachedLast last.group = some object →
        start ≤ ⟨last.group, object⟩ ∧ object ≠ maxId)
    (hdeclared : ∀ u, last.object = maxId → s.upstreamEnd filter = some u → u < last →
      start ≤ u ∧ (u.object = maxId → s.cachedLast u.group = none))
    (hbeyond : ∀ u, last.object = maxId → s.upstreamEnd filter = some u → ¬ u < last →
      s.cachedLast last.group = none) : s.EndFound filter := by
  constructor
  · intro start' last' hrequested'
    rw [hrequested] at hrequested'
    cases hrequested'
    exact hcached
  · intro start' last' u hrequested'
    rw [hrequested] at hrequested'
    cases hrequested'
    exact hdeclared u
  · intro start' last' u hrequested'
    rw [hrequested] at hrequested'
    cases hrequested'
    exact hbeyond u
  · intro hnone
    rw [hrequested] at hnone
    contradiction

theorem endFound_iff_requested {start last : Location}
    (hrequested : s.requested filter = some (start, last)) :
    s.EndFound filter ↔
      start ≤ s.namedEnd filter last ∧ s.Concrete filter (s.namedEnd filter last) := by
  have hbounds := LocationFilter.fetchRange_bounds hrequested
  by_cases hmax : last.object = maxId
  · cases hupstream : s.upstreamEnd filter with
    | none =>
      have hpublisher : ∀ group, s.publisherLast filter group = none := by
        intro group
        simp [publisherLast, hupstream]
      cases hcached : s.cachedLast last.group with
      | none =>
        -- Nobody knows the last object.
        have hnamed : s.namedEnd filter last = last := by
          simp [namedEnd, hupstream, hcached, hmax, concreteEndLocation_none]
        rw [hnamed]
        constructor
        · intro hfound
          exact ⟨hbounds.1, fun _ => ⟨hpublisher _, hcached⟩⟩
        · intro hboth
          apply EndFound.of_requested hrequested <;> simp_all
      | some object =>
        have hnamed : s.namedEnd filter last = ⟨last.group, object⟩ := by
          simp [namedEnd, hupstream, hcached, hmax, concreteEndLocation_cached]
        rw [hnamed]
        constructor
        · intro hfound
          have hheld := hfound.cached start last hrequested hmax hupstream object hcached
          exact ⟨hheld.1, fun hobject => absurd hobject hheld.2⟩
        · intro hboth
          apply EndFound.of_requested hrequested <;> simp_all [Concrete]
    | some u =>
      by_cases hlt : u < last
      · have hnamed : s.namedEnd filter last = u := by
          simp [namedEnd, hupstream, concreteEndLocation_upstream hmax hlt]
        rw [hnamed]
        constructor
        · intro hfound
          have hdeclared := hfound.declared start last u hrequested hmax hupstream hlt
          apply And.intro hdeclared.1
          intro hobject
          refine ⟨publisherLast_eq_none.mpr ?_, hdeclared.2 hobject⟩
          intro u' hu' hgroup
          rw [hupstream] at hu'
          cases hu'
          exact hobject
        · intro hboth
          apply EndFound.of_requested hrequested <;> simp_all [Concrete]
      · have hnamed : s.namedEnd filter last = last := by
          simp [namedEnd, hupstream, concreteEndLocation_beyond hlt]
        rw [hnamed]
        constructor
        · intro hfound
          apply And.intro hbounds.1
          intro hobject
          refine ⟨publisherLast_eq_none.mpr ?_,
            hfound.beyond start last u hrequested hmax hupstream hlt⟩
          intro u' hu' hgroup
          rw [hupstream] at hu'
          cases hu'
          exact object_eq_maxId hmax hgroup hlt
        · intro hboth
          apply EndFound.of_requested hrequested <;> simp_all [Concrete]
  · have hnamed : s.namedEnd filter last = last := concreteEndLocation_of_ne hmax _ _
    rw [hnamed]
    constructor
    · intro hfound
      exact ⟨hbounds.1, fun hobject => absurd hobject hmax⟩
    · intro hboth
      apply EndFound.of_requested hrequested <;> simp_all

theorem endFound_iff_unresolved (hrequested : s.requested filter = none) :
    s.EndFound filter ↔ ∀ end_, filter.endLocation = some end_ → s.Concrete filter end_ := by
  constructor
  · intro hfound
    exact hfound.unresolved hrequested
  · intro hconcrete
    constructor
    · simp [hrequested]
    · simp [hrequested]
    · simp [hrequested]
    · intro _
      exact hconcrete

theorem sensibleEnd_iff (h : s.answer filter = .fetchOk r) :
    s.SensibleEnd filter r ↔ s.EndFound filter := by
  rw [sensibleEnd_iff_concrete h]
  have hsource := answer_eq_fetchOk h
  cases hsource.2 with
  | inl hrequested =>
    cases hrequested with
    | intro last hlast => rw [endFound_iff_requested hlast.1, hlast.2]
  | inr hwritten =>
    have hfilter := (unresolvedFetchRange_eq_some hwritten.2).2
    have hle := unresolvedFetchRange_le hwritten.2 hsource.1
    rw [endFound_iff_unresolved hwritten.1]
    simp [hfilter, hle]

/-- A relay that holds objects 0 to 3 of each group up to group 6. -/
def sixGroups : RangeSources where
  largest := some ⟨6, 3⟩
  claimFill := fun _ => none
  response := none
  cache := fun group =>
    if group ≤ 6 then
      { objects := [⟨group, 0, 0, 128, .subgroup, none, []⟩, ⟨group, 0, 1, 128, .subgroup, none, []⟩,
          ⟨group, 0, 2, 128, .subgroup, none, []⟩, ⟨group, 0, 3, 128, .subgroup, none, []⟩]
        absent := ⟨[]⟩
        inGroup := by simp
        sorted := show ([0, 1, 2, 3] : List UInt64).Pairwise (· < ·) by decide }
    else .empty group
  hasPublisher := true
  stop := .running

theorem sensibleEnd_iff_sixGroups :
    sixGroups.SensibleEnd (.absoluteStartGroupEnd ⟨5, 1⟩ 5) ⟨⟨5, 1⟩, ⟨5, 3⟩, false, false⟩ ↔
      sixGroups.EndFound (.absoluteStartGroupEnd ⟨5, 1⟩ 5) :=
  sensibleEnd_iff (by decide)

/-- A start past the last object of a group that is all in the past is answered with an end
before it. -/
theorem sixGroups_ends_before_start :
    ¬ ∀ (s : RangeSources) (filter : LocationFilter) (r : ResolvedFetch),
      s.answer filter = .fetchOk r → s.SensibleEnd filter r := by
  intro h
  have hsensible := h sixGroups (.absoluteStartGroupEnd ⟨5, 7⟩ 5)
    ⟨⟨5, 7⟩, ⟨5, 3⟩, false, false⟩ (by decide)
  exact absurd hsensible.start_le (by decide)

end RangeSources

end Moqtail
