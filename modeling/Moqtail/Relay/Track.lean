import Mathlib

/-! The control state of a track on the relay: `Track` of `server/track.rs` with the
`UpstreamRequests` and the `SubscriptionManager` it holds, and what its operations do to it.

Of the cache only its emptiness is kept, and of the subscriptions their keys. A request taken
out of `upstreamRequests` is one whose cancel channel has fired. Left out are the objects, the
logs, the properties and parameters that answers carry, the Forward State, and the reason a
cancelled request is given. -/
namespace Moqtail.Control

/-- A subscriber's connection id and its request id. -/
abbrev SubscriptionId := Nat × Nat

inductive RequestErrorCode where
  | internalError | unauthorized | timeout | notSupported | malformedAuthToken
  | expiredAuthToken | goingAway | excessiveLoad | doesNotExist | invalidRange
  | malformedTrack | uninterested | prefixOverlap | namespaceTooLarge | invalidSwitch
  | unsupportedExtension | redirect | conflictingFilters | invalidFilter
deriving Repr, DecidableEq

structure RequestError where
  errorCode : RequestErrorCode
  reasonPhrase : String
deriving Repr, DecidableEq

inductive UpstreamRequestKind where
  | subscribe
  | fetch
deriving Repr, DecidableEq

structure UpstreamRequest where
  requestId : Nat
  publisherConnectionId : Nat
  kind : UpstreamRequestKind
deriving Repr, DecidableEq

/-- What a track leaves the track manager to clean up once it lets go of its upstream. -/
inductive Cleanup where
  | nothing
  | removeAliases (aliases : List (Nat × Nat))
  | removeTrack
deriving Repr, DecidableEq

/-- What feeds a track. -/
inductive TrackOrigin where
  | subscribe
  | publish
  | cacheOnly
deriving Repr, DecidableEq

inductive TrackStatus where
  | pending
  | confirmed
  | rejected (error : RequestError)
deriving Repr, DecidableEq

structure PublisherRemoval where
  trackAlias : Nat
  stillServed : Bool
deriving Repr, DecidableEq

/-- `subscriptions` and `publisherAliases` are maps, kept as lists: the latter pairs a
publisher's connection id with its alias. -/
structure Track where
  origin : TrackOrigin
  status : TrackStatus
  subscriptions : List SubscriptionId
  publisherAliases : List (Nat × Nat)
  upstreamRequests : List UpstreamRequest
  pendingSubscribers : List SubscriptionId
  pendingUpstreamSubscribeCount : Nat
  cacheIsEmpty : Bool
deriving Repr, DecidableEq

namespace Track

def new (initialStatus : TrackStatus) (origin : TrackOrigin) : Track where
  origin := origin
  status := initialStatus
  subscriptions := []
  publisherAliases := []
  upstreamRequests := []
  pendingSubscribers := []
  pendingUpstreamSubscribeCount := 0
  cacheIsEmpty := true

/-! Upstream requests. -/

def cancelMatching (track : Track) (matching : UpstreamRequest → Bool) : Track :=
  { track with upstreamRequests := track.upstreamRequests.filter fun r => !matching r }

/-- Also what `unregister_upstream_request` comes to: the sender is gone either way. -/
def cancelUpstreamRequest (track : Track) (requestId : Nat) : Track :=
  track.cancelMatching fun r => r.requestId == requestId

def registerUpstreamRequest (track : Track) (requestId publisherConnectionId : Nat)
    (kind : UpstreamRequestKind) : Track :=
  let track := track.cancelUpstreamRequest requestId
  { track with
    upstreamRequests := track.upstreamRequests ++ [⟨requestId, publisherConnectionId, kind⟩] }

def cancelUpstreamRequestsOfKind (track : Track) (kind : UpstreamRequestKind) : Track :=
  track.cancelMatching fun r => r.kind == kind

/-- The three passes of the source differ only in the reason they give; the last matches
every request. -/
def cancelForMalformedPublisher (track : Track) : Track := track.cancelMatching fun _ => true

/-- One publisher has answered. The count does not go below zero. -/
def upstreamSubscribeAnswered (track : Track) : Track :=
  { track with pendingUpstreamSubscribeCount := track.pendingUpstreamSubscribeCount - 1 }

/-! Subscriptions. -/

def hasSubscription (track : Track) (id : SubscriptionId) : Bool := track.subscriptions.contains id

/-- Refused when the request already has a subscription on the track. -/
def addSubscription (track : Track) (id : SubscriptionId) : Option Track :=
  if track.hasSubscription id then none
  else some { track with subscriptions := track.subscriptions ++ [id] }

def removeSubscription (track : Track) (id : SubscriptionId) : Track :=
  { track with subscriptions := track.subscriptions.filter (· != id) }

def removeSubscriptions (track : Track) (subscriber : Nat) : Track :=
  { track with subscriptions := track.subscriptions.filter (·.1 != subscriber) }

def detachAll (track : Track) : Track := { track with subscriptions := [] }

/-! Taking over and letting go. -/

/-- Only a cache-only track is taken over; the flag says whether this caller took it. -/
def takeOver (track : Track) (origin : TrackOrigin) (status : TrackStatus) : Track × Bool :=
  if track.origin = .cacheOnly then ({ track with origin := origin, status := status }, true)
  else (track, false)

/-- A track that holds nothing is left as it is, for the caller to remove. -/
def becomeCacheOnly (track : Track) : Track × Cleanup :=
  if track.cacheIsEmpty then (track, .removeTrack)
  else
    ({ track.cancelUpstreamRequestsOfKind .subscribe with
        status := .pending
        publisherAliases := []
        pendingUpstreamSubscribeCount := 0
        origin := .cacheOnly },
      .removeAliases track.publisherAliases)

def removeSubscriber (track : Track) (leaving : SubscriptionId) : Track × Cleanup :=
  let track := track.removeSubscription leaving
  if track.subscriptions ≠ [] then (track, .nothing)
  else
    let track := track.cancelUpstreamRequestsOfKind .subscribe
    if track.origin ≠ .subscribe then (track, .nothing)
    else track.becomeCacheOnly

def retire (track : Track) : Track × Cleanup :=
  match track.becomeCacheOnly with
  | (track, .removeAliases aliases) => (track.detachAll, .removeAliases aliases)
  | result => result

theorem becomeCacheOnly_of_empty {track : Track} (h : track.cacheIsEmpty = true) :
    track.becomeCacheOnly = (track, .removeTrack) := by
  simp [becomeCacheOnly, h]

theorem becomeCacheOnly_of_nonempty {track : Track} (h : track.cacheIsEmpty = false) :
    track.becomeCacheOnly =
      ({ track.cancelUpstreamRequestsOfKind .subscribe with
          status := .pending
          publisherAliases := []
          pendingUpstreamSubscribeCount := 0
          origin := .cacheOnly },
        .removeAliases track.publisherAliases) := by
  simp [becomeCacheOnly, h]

theorem retire_of_empty {track : Track} (h : track.cacheIsEmpty = true) :
    track.retire = (track, .removeTrack) := by
  rw [retire, becomeCacheOnly_of_empty h]

theorem retire_of_nonempty {track : Track} (h : track.cacheIsEmpty = false) :
    track.retire = (track.becomeCacheOnly.1.detachAll, .removeAliases track.publisherAliases) := by
  rw [retire, becomeCacheOnly_of_nonempty h]

/-- Another subscriber is left; or none is, and a track that no SUBSCRIBE created only has its
upstream cancelled; or the track goes; or it stays for its cache. -/
theorem removeSubscriber_cases (track : Track) (id : SubscriptionId) :
    ((track.removeSubscription id).subscriptions ≠ [] ∧
      track.removeSubscriber id = (track.removeSubscription id, .nothing)) ∨
    ((track.removeSubscription id).subscriptions = [] ∧
      ((track.origin ≠ .subscribe ∧ track.removeSubscriber id =
          ((track.removeSubscription id).cancelUpstreamRequestsOfKind .subscribe, .nothing)) ∨
        (track.origin = .subscribe ∧ track.removeSubscriber id =
          ((track.removeSubscription id).cancelUpstreamRequestsOfKind .subscribe).becomeCacheOnly))) := by
  by_cases hleft : (track.removeSubscription id).subscriptions = []
  · refine Or.inr ⟨hleft, ?_⟩
    by_cases horigin : track.origin = .subscribe
    · refine Or.inr ⟨horigin, ?_⟩
      simp only [removeSubscriber, hleft, ne_eq, not_true_eq_false, if_false]
      exact if_neg (not_not.mpr horigin)
    · refine Or.inl ⟨horigin, ?_⟩
      simp only [removeSubscriber, hleft, ne_eq, not_true_eq_false, if_false]
      exact if_pos horigin
  · exact Or.inl ⟨hleft, if_pos hleft⟩

/-- How a track can lose its upstream: it is left as it was, to be removed, or it is kept for
its cache with nothing on it. -/
inductive LetsGo (track : Track) : Track → Cleanup → Prop where
  | removed (h : track.cacheIsEmpty = true) : LetsGo track track .removeTrack
  | kept (h : track.cacheIsEmpty = false) :
    LetsGo track
      { track with
        status := .pending
        subscriptions := []
        publisherAliases := []
        upstreamRequests := track.upstreamRequests.filter fun r => !(r.kind == .subscribe)
        pendingUpstreamSubscribeCount := 0
        origin := .cacheOnly }
      (.removeAliases track.publisherAliases)

theorem letsGo_of_retire {track track' : Track} {cleanup : Cleanup}
    (h : track.retire = (track', cleanup)) : track.LetsGo track' cleanup := by
  cases hcache : track.cacheIsEmpty with
  | true =>
    rw [retire_of_empty hcache] at h
    cases h
    exact .removed hcache
  | false =>
    rw [retire_of_nonempty hcache, becomeCacheOnly_of_nonempty hcache] at h
    cases h
    exact .kept hcache

/-- The track once its last subscriber has left and its upstream has been cancelled. -/
def deserted (track : Track) : Track :=
  { track with
    subscriptions := []
    upstreamRequests := track.upstreamRequests.filter fun r => !(r.kind == .subscribe) }

theorem removeSubscriber_letsGo {track track' : Track} {id : SubscriptionId} {cleanup : Cleanup}
    (h : track.removeSubscriber id = (track', cleanup)) :
    ((track.removeSubscription id).subscriptions ≠ [] ∧ track' = track.removeSubscription id ∧
      cleanup = .nothing) ∨
    ((track.removeSubscription id).subscriptions = [] ∧
      ((track.origin ≠ .subscribe ∧ track' = track.deserted ∧ cleanup = .nothing) ∨
        (track.origin = .subscribe ∧ track.deserted.LetsGo track' cleanup))) := by
  have hdeserted : (track.removeSubscription id).subscriptions = [] →
      (track.removeSubscription id).cancelUpstreamRequestsOfKind .subscribe = track.deserted := by
    intro hnone
    have hnone : track.subscriptions.filter (· != id) = [] := hnone
    simp only [cancelUpstreamRequestsOfKind, cancelMatching, deserted, removeSubscription, hnone]
  obtain ⟨hleft, heq⟩ | ⟨hnone, ⟨horigin, heq⟩ | ⟨horigin, heq⟩⟩ := removeSubscriber_cases track id
  · cases h.symm.trans heq
    exact Or.inl ⟨hleft, rfl, rfl⟩
  · cases h.symm.trans heq
    exact Or.inr ⟨hnone, Or.inl ⟨horigin, hdeserted hnone, rfl⟩⟩
  · refine Or.inr ⟨hnone, Or.inr ⟨horigin, ?_⟩⟩
    rw [hdeserted hnone] at heq
    have hgoes := h.symm.trans heq
    cases hcache : track.deserted.cacheIsEmpty with
    | true =>
      rw [becomeCacheOnly_of_empty hcache] at hgoes
      cases hgoes
      exact .removed hcache
    | false =>
      rw [becomeCacheOnly_of_nonempty hcache] at hgoes
      cases hgoes
      exact .kept hcache

/-! Publishers. -/

def addPublisher (track : Track) (connectionId trackAlias : Nat) : Track :=
  { track with
    publisherAliases :=
      (connectionId, trackAlias) :: track.publisherAliases.filter (·.1 != connectionId) }

def publisherAlias (track : Track) (connectionId : Nat) : Option Nat :=
  track.publisherAliases.lookup connectionId

/-- The alias the publisher held and whether any publisher still serves the track. -/
def takePublisher (track : Track) (connectionId : Nat) : Track × Option Nat × Bool :=
  let aliases := track.publisherAliases.filter (·.1 != connectionId)
  ({ track with publisherAliases := aliases }, track.publisherAlias connectionId, !aliases.isEmpty)

def removePublisher (track : Track) (connectionId : Nat) : Track × Option PublisherRemoval :=
  let (track, trackAlias, stillServed) := track.takePublisher connectionId
  (track, trackAlias.map fun a => ⟨a, stillServed⟩)

def removePublisherQuietly (track : Track) (connectionId : Nat) : Track × Bool :=
  let (track, _, stillServed) := track.takePublisher connectionId
  (track, stillServed)

/-- The flag is set only for the publisher that took the track out of Pending. -/
def confirm (track : Track) (connectionId trackAlias : Nat) : Track × Bool :=
  let track := track.addPublisher connectionId trackAlias
  if track.status = .pending then ({ track with status := .confirmed }, true) else (track, false)

/-- The status is set whatever it was before. -/
def reject (track : Track) (error : RequestError) : Track := { track with status := .rejected error }

end Track

end Moqtail.Control
