import Moqtail.Relay.Subscribing

/-! Every way a step of the subscribe machinery can go, with what it finds and what it leaves.
Invariants are proved by cases on `Moves`, so that the functions of the model are unfolded
only here. -/
namespace Moqtail.Control

open Lib State

/-- What makes an exchange fail, with the exchange as it is then. -/
inductive Fails (s : State) : Action → Nat → Exchange → RequestError → Prop where
  | notSent {x e} (exchange : s.exchanges[x]? = some e) (opening : e.stage = .opening) :
    Fails s (.fail x .notSent) x e UpstreamFailure.upstreamSubscriptionFailed
  | waiting {x failure e} (exchange : s.exchanges[x]? = some e) (waiting : e.stage = .waiting)
    (uncancelled : s.uncancelled x e = true) (inTime : failure = .timeout → e.answered = false) :
    Fails s (.fail x failure) x e failure.toRequestError
  | aliasTaken {x trackAlias e r} (exchange : s.exchanges[x]? = some e)
    (waiting : e.stage = .waiting) (uncancelled : s.uncancelled x e = true)
    (pending : e.pendingRequest = true) (registered : s.registered = some r)
    (origin : (s.tracks r).origin ≠ .cacheOnly) :
    Fails s (.subscribeOk x trackAlias false true) x { e with answered := true }
      UpstreamFailure.upstreamSubscriptionFailed

/-- The transitions, one constructor for each way a step can go. -/
inductive Moves (s : State) : Action → State → Prop where
  | found {id publishers r} (unseen : s.stage id = .unseen) (registered : s.registered = some r) :
    Moves s (.subscribe id publishers) (s.arrive id (.found r false publishers))
  | created {id publishers} (unseen : s.stage id = .unseen) (registered : s.registered = none) :
    Moves s (.subscribe id publishers)
      ((s.createTrack (Track.new .pending .subscribe)).arrive id
        (.found s.nextTrackId true publishers))
  | joined {id r created publishers track takenOver joinedTrack}
    (stage : s.stage id = .found r created publishers)
    (takeOver : (s.tracks r).takeOver .subscribe .pending = (track, takenOver))
    (added : track.addSubscription id = some joinedTrack) :
    Moves s (.join id)
      (((s.setTrack r joinedTrack).setStage id (.joined r (created || takenOver) publishers)).setCreator
        r id (created || takenOver))
  | duplicate {id r created publishers track takenOver}
    (stage : s.stage id = .found r created publishers)
    (takeOver : (s.tracks r).takeOver .subscribe .pending = (track, takenOver))
    (present : track.addSubscription id = none) :
    Moves s (.join id)
      (((s.setTrack r track).send id (.requestError State.duplicateSubscription)).setStage id .over)
  | refused {id reason r creator publishers} (stage : s.stage id = .joined r creator publishers) :
    Moves s (.refuse id reason)
      (((s.setTrack r ((s.tracks r).removeSubscription id)).send id
        (.requestError ⟨.unsupportedExtension, reason⟩)).setStage id .over)
  | counted {id r publishers} (stage : s.stage id = .joined r true publishers) :
    Moves s (.proceed id)
      ((s.setTrack r { s.tracks r with pendingUpstreamSubscribeCount := publishers.length }).setStage
        id (.sending r publishers))
  | readConfirmed {id r publishers} (stage : s.stage id = .joined r false publishers)
    (status : (s.tracks r).status = .confirmed) :
    Moves s (.proceed id) ((s.send id .subscribeOk).setStage id .handled)
  | readRejected {id r publishers error} (stage : s.stage id = .joined r false publishers)
    (status : (s.tracks r).status = .rejected error) :
    Moves s (.proceed id) ((s.send id (.requestError error)).setStage id .handled)
  | readPending {id r publishers} (stage : s.stage id = .joined r false publishers)
    (status : (s.tracks r).status = .pending) :
    Moves s (.proceed id) (s.setStage id (.willWait r))
  | pushed {id r} (stage : s.stage id = .willWait r) :
    Moves s (.push id)
      ((s.setTrack r { s.tracks r with
        pendingSubscribers := (s.tracks r).pendingSubscribers ++ [id] }).setStage id .handled)
  | forwarded {id r publisher rest} (stage : s.stage id = .sending r (publisher :: rest)) :
    Moves s (.forward id)
      ((s.addExchange ⟨publisher, id, none, false, true, .opening⟩).setStage id
        (if rest = [] then .handled else .sending r rest))
  | cancelling {id r} (stage : s.stage id = .handled) (registered : s.registered = some r)
    (owned : id ∈ (s.tracks r).subscriptions) :
    Moves s (.cancel id) (s.close id (.cancelling r))
  | closed {id} (stage : s.stage id = .handled ∨ s.stage id = .over)
    (unowned : s.stage id = .handled →
      ∀ r, s.registered = some r → id ∉ (s.tracks r).subscriptions) :
    Moves s (.cancel id) (s.close id .over)
  | left {id r track cleanup} (stage : s.stage id = .cancelling r)
    (removed : (s.tracks r).removeSubscriber id = (track, cleanup)) :
    Moves s (.leave id)
      (((s.setTrack r track).setStage id .over).addJobs
        (if cleanup = .nothing then [] else [.cleanUp r cleanup]))
  | updateFailed {id r} (stage : s.stage id = .handled) (registered : s.registered = some r) :
    Moves s (.failUpdate id)
      ((s.setTrack r ((s.tracks r).removeSubscription id)).setStage id .over)
  | updateFailedUnregistered {id} (stage : s.stage id = .handled) (registered : s.registered = none) :
    Moves s (.failUpdate id) (s.setStage id .over)
  | subscriberClosed {connection r} (registered : s.registered = some r) :
    Moves s (.subscriberClosed connection)
      ((s.closeAll connection).setTrack r ((s.tracks r).removeSubscriptions connection))
  | subscriberClosedUnregistered {connection} (registered : s.registered = none) :
    Moves s (.subscriberClosed connection) (s.closeAll connection)
  | pushedTrack {id r} (unseen : s.stage id = .unseen) (there : r < s.nextTrackId) :
    Moves s (.pushTrack id r)
      ((s.setTrack r (((s.tracks r).addSubscription id).getD (s.tracks r))).arrive id (.pushed r))
  | endedPushed {id r} (stage : s.stage id = .pushed r) :
    Moves s (.endPushed id)
      ((s.setTrack r ((s.tracks r).removeSubscription id)).close id .over)
  | malformed {r connection track stillServed} (there : r < s.nextTrackId)
    (taken : (s.tracks r).cancelForMalformedPublisher.removePublisherQuietly connection =
      (track, stillServed)) :
    Moves s (.malformedFetch r connection)
      ((s.setTrack r track.detachAll).addJobs
        (if track.origin = .subscribe ∨ stillServed = false then [.cleanUp r .removeTrack] else []))
  | published {connection trackAlias aliasTaken r} (registered : s.registered = some r) :
    Moves s (.publish connection trackAlias aliasTaken)
      (s.publishOn r connection trackAlias aliasTaken)
  | publishedNew {connection trackAlias aliasTaken} (registered : s.registered = none) :
    Moves s (.publish connection trackAlias aliasTaken)
      ((s.createTrack (Track.new .confirmed .publish)).publishOn s.nextTrackId connection trackAlias
        aliasTaken)
  | publisherLeft {connection r removal} (registered : s.registered = some r)
    (removed : ((s.tracks r).removePublisher connection).2 = some removal) :
    Moves s (.publisherLeft connection)
      (((s.removeUpstreamPublisher r connection).stopPushing connection).addJobs
        (if removal.stillServed then [] else [.retire r]))
  | noPublisher {connection} : Moves s (.publisherLeft connection) s
  | fetched (registered : s.registered = none) :
    Moves s .fetchTrack (s.createTrack (Track.new .pending .cacheOnly))
  | fetchFound : Moves s .fetchTrack s
  | cacheChanged {r isEmpty} :
    Moves s (.cacheChanges r isEmpty) (s.setTrack r { s.tracks r with cacheIsEmpty := isEmpty })
  | retired {i decidedFor r track cleanup} (job : s.jobs[i]? = some (.retire decidedFor))
    (registered : s.registered = some r) (retire : (s.tracks r).retire = (track, cleanup)) :
    Moves s (.runJob i) (((s.dropJob i).setTrack r track).addJobs [.cleanUp r cleanup])
  | retiredUnregistered {i decidedFor} (job : s.jobs[i]? = some (.retire decidedFor))
    (registered : s.registered = none) : Moves s (.runJob i) (s.dropJob i)
  | cleanedUp {i decidedFor cleanup} (job : s.jobs[i]? = some (.cleanUp decidedFor cleanup))
    (keeps : cleanup ≠ .removeTrack) : Moves s (.runJob i) (s.dropJob i)
  | removed {i decidedFor} (job : s.jobs[i]? = some (.cleanUp decidedFor .removeTrack)) :
    Moves s (.runJob i) (s.dropJob i).removeTrack
  | registered {x malformed e r} (exchange : s.exchanges[x]? = some e) (opening : e.stage = .opening)
    (registered : s.registered = some r) :
    Moves s (.register x malformed)
      ((s.setTrack r ((s.tracks r).registerExchange x e.publisher malformed)).setExchange x
        { e with track := some r, stage := .waiting })
  | notRegistered {x malformed e} (exchange : s.exchanges[x]? = some e)
    (opening : e.stage = .opening) (registered : s.registered = none) :
    Moves s (.register x malformed) (s.endExchange x e)
  | cancelledAnswered {x e r} (exchange : s.exchanges[x]? = some e) (waiting : e.stage = .waiting)
    (cancelled : s.uncancelled x e = false) (registered : s.registered = some r)
    (answered : e.answered = true) :
    Moves s (.observeCancel x) ((s.removeUpstreamPublisher r e.publisher).endExchange x e)
  | cancelledUnanswered {x e r} (exchange : s.exchanges[x]? = some e) (waiting : e.stage = .waiting)
    (cancelled : s.uncancelled x e = false) (registered : s.registered = some r)
    (answered : e.answered = false) :
    Moves s (.observeCancel x)
      ((s.setTrack r (s.tracks r).upstreamSubscribeAnswered).endExchange x e)
  | cancelledUnregistered {x e} (exchange : s.exchanges[x]? = some e) (waiting : e.stage = .waiting)
    (cancelled : s.uncancelled x e = false) (registered : s.registered = none) :
    Moves s (.observeCancel x) (s.endExchange x e)
  | failUnregistered {a x e error} (fails : Fails s a x e error) (registered : s.registered = none) :
    Moves s a (s.setExchange x { e with stage := .rejecting error false })
  | failConfirmed {a x e error r} (fails : Fails s a x e error) (registered : s.registered = some r)
    (status : (s.tracks r).status = .confirmed) :
    Moves s a
      (((s.setTrack r (s.tracks r).upstreamSubscribeAnswered).removeUpstreamPublisher r
        e.publisher).endExchange x e)
  | failOthers {a x e error r} (fails : Fails s a x e error) (registered : s.registered = some r)
    (status : (s.tracks r).status ≠ .confirmed)
    (others : 1 < (s.tracks r).pendingUpstreamSubscribeCount) :
    Moves s a ((s.setTrack r (s.tracks r).upstreamSubscribeAnswered).endExchange x e)
  | failLast {a x e error r} (fails : Fails s a x e error) (registered : s.registered = some r)
    (status : (s.tracks r).status ≠ .confirmed)
    (last : (s.tracks r).pendingUpstreamSubscribeCount ≤ 1) :
    Moves s a
      ((s.setTrack r (s.tracks r).upstreamSubscribeAnswered).setExchange x
        { e with stage := .rejecting error false })
  | ignoredOk {x trackAlias unsupported aliasTaken e} (exchange : s.exchanges[x]? = some e)
    (waiting : e.stage = .waiting) (uncancelled : s.uncancelled x e = true)
    (ignored : e.pendingRequest = false ∨ s.registered = none ∨
      ∃ r, s.registered = some r ∧ (s.tracks r).origin = .cacheOnly) :
    Moves s (.subscribeOk x trackAlias unsupported aliasTaken)
      (s.setExchange x { e with answered := true })
  | unsupportedOk {x trackAlias aliasTaken e} (exchange : s.exchanges[x]? = some e)
    (waiting : e.stage = .waiting) (uncancelled : s.uncancelled x e = true)
    (pending : e.pendingRequest = true) :
    Moves s (.subscribeOk x trackAlias true aliasTaken)
      (s.setExchange x
        { e with answered := true, stage := .rejecting State.unsupportedMandatory true })
  | accepted {x trackAlias e r} (exchange : s.exchanges[x]? = some e)
    (waiting : e.stage = .waiting) (uncancelled : s.uncancelled x e = true)
    (pending : e.pendingRequest = true) (registered : s.registered = some r)
    (origin : (s.tracks r).origin ≠ .cacheOnly) :
    Moves s (.subscribeOk x trackAlias false false)
      (s.setExchange x { e with answered := true, stage := .confirming r trackAlias })
  | confirmed {x e r trackAlias track confirmedNow} (exchange : s.exchanges[x]? = some e)
    (confirming : e.stage = .confirming r trackAlias)
    (unread : ∀ id ∈ s.arrived, s.stage id ≠ .willWait r)
    (confirm : (s.tracks r).confirm e.publisher trackAlias = (track, confirmedNow)) :
    Moves s (.confirm x)
      ((s.setTrack r track.upstreamSubscribeAnswered).setExchange x
        { e with stage := if confirmedNow then .answering r else .waiting })
  | answered {x e r} (exchange : s.exchanges[x]? = some e) (answering : e.stage = .answering r) :
    Moves s (.answer x)
      (((s.sendAll ((e.creator :: (s.tracks r).pendingSubscribers).filter
        (s.tracks r).hasSubscription) .subscribeOk).setTrack r
          { s.tracks r with pendingSubscribers := [] }).setExchange x { e with stage := .waiting })
  | rejectedTwice {x e error resumes} (exchange : s.exchanges[x]? = some e)
    (rejecting : e.stage = .rejecting error resumes) (pending : e.pendingRequest = false) :
    Moves s (.reject x) (s.afterError x e resumes)
  | rejectedCacheOnly {x e error resumes r} (exchange : s.exchanges[x]? = some e)
    (rejecting : e.stage = .rejecting error resumes) (pending : e.pendingRequest = true)
    (registered : s.registered = some r) (origin : (s.tracks r).origin = .cacheOnly) :
    Moves s (.reject x) (s.afterError x { e with pendingRequest := false } resumes)
  | rejected {x e error resumes r} (exchange : s.exchanges[x]? = some e)
    (rejecting : e.stage = .rejecting error resumes) (pending : e.pendingRequest = true)
    (registered : s.registered = some r) (origin : (s.tracks r).origin ≠ .cacheOnly) :
    Moves s (.reject x)
      ((s.setTrack r ((s.tracks r).reject error)).setExchange x
        { e with pendingRequest := false, stage := .rejected (some r) error resumes })
  | rejectedUnregistered {x e error resumes} (exchange : s.exchanges[x]? = some e)
    (rejecting : e.stage = .rejecting error resumes) (pending : e.pendingRequest = true)
    (registered : s.registered = none) :
    Moves s (.reject x)
      (s.setExchange x { e with pendingRequest := false, stage := .rejected none error resumes })
  | answeredError {x e r error resumes} (exchange : s.exchanges[x]? = some e)
    (rejected : e.stage = .rejected (some r) error resumes) :
    Moves s (.answerError x)
      ((((s.sendAll (e.creator :: (s.tracks r).pendingSubscribers) (.requestError error)).setTrack r
        { s.tracks r with pendingSubscribers := [] }).addJobs [.retire r]).afterError x e resumes)
  | answeredErrorUnregistered {x e error resumes} (exchange : s.exchanges[x]? = some e)
    (rejected : e.stage = .rejected none error resumes) :
    Moves s (.answerError x) ((s.send e.creator (.requestError error)).afterError x e resumes)
  | done {x e r} (exchange : s.exchanges[x]? = some e) (waiting : e.stage = .waiting)
    (uncancelled : s.uncancelled x e = true) (registered : s.registered = some r) :
    Moves s (.publishDone x)
      ((s.setTrack r ((s.tracks r).removePublisherQuietly e.publisher).1).endExchange x
        { e with answered := true })
  | doneUnregistered {x e} (exchange : s.exchanges[x]? = some e) (waiting : e.stage = .waiting)
    (uncancelled : s.uncancelled x e = true) (registered : s.registered = none) :
    Moves s (.publishDone x) (s.endExchange x { e with answered := true })

variable {s s' : State}

theorem moves_of_subscribe {id : SubscriptionId} {publishers : List Nat}
    (h : s.subscribe id publishers = some s') : Moves s (.subscribe id publishers) s' := by
  simp only [State.subscribe, getOrCreateTrack] at h
  split at h
  next hs =>
    cases hreg : s.registered with
    | none =>
      simp only [hreg] at h
      exact Option.some.inj h ▸ .created hs.1 hreg
    | some r =>
      simp only [hreg] at h
      exact Option.some.inj h ▸ .found hs.1 hreg
  · cases h

theorem moves_of_join {id : SubscriptionId}
    (h : s.join id = some s') : Moves s (.join id) s' := by
  simp only [State.join] at h
  split at h
  next r created publishers hstage =>
    split at h
    next track hadd => exact Option.some.inj h ▸ .joined hstage rfl hadd
    next hadd => exact Option.some.inj h ▸ .duplicate hstage rfl hadd
  · cases h

theorem moves_of_refuse {id : SubscriptionId} {reason : String}
    (h : s.refuse id reason = some s') : Moves s (.refuse id reason) s' := by
  simp only [State.refuse] at h
  split at h
  next hstage => exact Option.some.inj h ▸ .refused hstage
  · cases h

theorem moves_of_proceed {id : SubscriptionId}
    (h : s.proceed id = some s') : Moves s (.proceed id) s' := by
  simp only [State.proceed] at h
  split at h
  next hstage => exact Option.some.inj h ▸ .counted hstage
  next hstage =>
    split at h
    next hstatus => exact Option.some.inj h ▸ .readConfirmed hstage hstatus
    next hstatus => exact Option.some.inj h ▸ .readRejected hstage hstatus
    next hstatus => exact Option.some.inj h ▸ .readPending hstage hstatus
  · cases h

theorem moves_of_push {id : SubscriptionId}
    (h : s.push id = some s') : Moves s (.push id) s' := by
  simp only [State.push] at h
  split at h
  next hstage => exact Option.some.inj h ▸ .pushed hstage
  · cases h

theorem moves_of_forward {id : SubscriptionId}
    (h : s.forward id = some s') : Moves s (.forward id) s' := by
  simp only [State.forward] at h
  split at h
  next hstage => exact Option.some.inj h ▸ .forwarded hstage
  · cases h

theorem moves_of_cancel {id : SubscriptionId}
    (h : s.cancel id = some s') : Moves s (.cancel id) s' := by
  simp only [State.cancel] at h
  split at h
  next hstage =>
    split at h
    next r hreg =>
      split at h
      next howned =>
        exact Option.some.inj h ▸ .cancelling hstage hreg (by simpa [Track.hasSubscription] using howned)
      next howned =>
        have hunowned : id ∉ (s.tracks r).subscriptions := by simpa [Track.hasSubscription] using howned
        refine Option.some.inj h ▸ .closed (.inl hstage) fun _ r' hr' => ?_
        cases hreg.symm.trans hr'
        exact hunowned
    next hreg => exact Option.some.inj h ▸ .closed (.inl hstage) (by simp [hreg])
  next hstage => exact Option.some.inj h ▸ .closed (.inr hstage) (by simp [hstage])
  · cases h

theorem moves_of_leave {id : SubscriptionId}
    (h : s.leave id = some s') : Moves s (.leave id) s' := by
  simp only [State.leave] at h
  split at h
  next hstage => exact Option.some.inj h ▸ .left hstage rfl
  · cases h

theorem moves_of_failUpdate {id : SubscriptionId}
    (h : s.failUpdate id = some s') : Moves s (.failUpdate id) s' := by
  simp only [State.failUpdate] at h
  split at h
  next hstage =>
    split at h
    next hreg => exact Option.some.inj h ▸ .updateFailed hstage hreg
    next hreg => exact Option.some.inj h ▸ .updateFailedUnregistered hstage hreg
  · cases h

theorem moves_subscriberClosed (s : State) (connection : Nat) :
    Moves s (.subscriberClosed connection) (s.subscriberClosed connection) := by
  unfold State.subscriberClosed
  split
  next hreg => exact .subscriberClosed hreg
  next hreg => exact .subscriberClosedUnregistered hreg

theorem moves_of_pushTrack {id : SubscriptionId} {r : Nat}
    (h : s.pushTrack id r = some s') : Moves s (.pushTrack id r) s' := by
  simp only [State.pushTrack] at h
  split at h
  next hnew => exact Option.some.inj h ▸ .pushedTrack hnew.1 hnew.2
  · cases h

theorem moves_of_endPushed {id : SubscriptionId}
    (h : s.endPushed id = some s') : Moves s (.endPushed id) s' := by
  simp only [State.endPushed] at h
  split at h
  next hstage => exact Option.some.inj h ▸ .endedPushed hstage
  · cases h

theorem moves_of_malformedFetch {r connection : Nat}
    (h : s.malformedFetch r connection = some s') : Moves s (.malformedFetch r connection) s' := by
  simp only [State.malformedFetch] at h
  split at h
  next hthere => exact Option.some.inj h ▸ .malformed hthere rfl
  · cases h

theorem moves_publish (s : State) (connection trackAlias : Nat) (aliasTaken : Bool) :
    Moves s (.publish connection trackAlias aliasTaken)
      (s.publish connection trackAlias aliasTaken) := by
  unfold State.publish getOrCreateTrack
  split
  next hreg =>
    split at hreg
    next hsome =>
      cases hreg
      exact .published hsome
    next hnone =>
      cases hreg
      exact .publishedNew hnone

theorem moves_publisherLeft (s : State) (connection : Nat) :
    Moves s (.publisherLeft connection) (s.publisherLeft connection) := by
  unfold State.publisherLeft
  split
  next hreg =>
    split
    next hremoved => exact .publisherLeft hreg hremoved
    · exact .noPublisher
  · exact .noPublisher

theorem moves_fetchTrack (s : State) : Moves s .fetchTrack s.fetchTrack := by
  unfold State.fetchTrack getOrCreateTrack
  split
  · exact .fetchFound
  next hreg => exact .fetched hreg

theorem moves_of_runJob {i : Nat}
    (h : s.runJob i = some s') : Moves s (.runJob i) s' := by
  simp only [State.runJob] at h
  split at h
  next hjob =>
    split at h
    next hreg => exact Option.some.inj h ▸ .retired hjob hreg rfl
    next hreg => exact Option.some.inj h ▸ .retiredUnregistered hjob hreg
  next hjob =>
    split at h
    next hremove =>
      subst hremove
      exact Option.some.inj h ▸ .removed hjob
    next hkeeps => exact Option.some.inj h ▸ .cleanedUp hjob hkeeps
  · cases h

theorem moves_of_register {x : Nat} {malformed : Bool}
    (h : s.register x malformed = some s') : Moves s (.register x malformed) s' := by
  simp only [State.register] at h
  split at h
  next hx =>
    split at h
    next hopening =>
      split at h
      next hreg => exact Option.some.inj h ▸ .registered hx hopening hreg
      next hreg => exact Option.some.inj h ▸ .notRegistered hx hopening hreg
    · cases h
  · cases h

theorem moves_of_observeCancel {x : Nat}
    (h : s.observeCancel x = some s') : Moves s (.observeCancel x) s' := by
  simp only [State.observeCancel] at h
  split at h
  next e hx =>
    split at h
    next hwait =>
      have hcancelled : s.uncancelled x e = false := by simpa using hwait.2
      split at h
      next hreg =>
        split at h
        next hans => exact Option.some.inj h ▸ .cancelledAnswered hx hwait.1 hcancelled hreg hans
        next hans =>
          exact Option.some.inj h ▸
            .cancelledUnanswered hx hwait.1 hcancelled hreg (Bool.eq_false_iff.mpr hans)
      next hreg => exact Option.some.inj h ▸ .cancelledUnregistered hx hwait.1 hcancelled hreg
    · cases h
  · cases h

theorem Fails.moves {a : Action} {x : Nat} {e : Exchange} {error : RequestError}
    (h : Fails s a x e error) : Moves s a (s.endUpstreamSubscription x e error) := by
  unfold endUpstreamSubscription
  split
  next r hreg =>
    dsimp only [Track.upstreamSubscribeAnswered]
    split
    next hstatus => exact .failConfirmed h hreg hstatus
    next hstatus =>
      split
      next hcount => exact .failOthers h hreg hstatus (by omega)
      next hcount => exact .failLast h hreg hstatus (by omega)
  next hreg => exact .failUnregistered h hreg

/-- The exchange that fails is one of the state's that has not been told otherwise. -/
@[grind →]
theorem Fails.exchange {a : Action} {x : Nat} {e : Exchange} {error : RequestError}
    (h : Fails s a x e error) :
    ∃ before, s.exchanges[x]? = some before ∧ before.publisher = e.publisher ∧
      before.creator = e.creator ∧ before.track = e.track ∧
      before.pendingRequest = e.pendingRequest ∧ before.stage = e.stage ∧
      (e.stage = .opening ∨ e.stage = .waiting ∧ s.uncancelled x before = true) := by
  cases h with
  | notSent exchange opening => exact ⟨_, exchange, rfl, rfl, rfl, rfl, rfl, .inl opening⟩
  | waiting exchange waiting uncancelled =>
    exact ⟨_, exchange, rfl, rfl, rfl, rfl, rfl, .inr ⟨waiting, uncancelled⟩⟩
  | aliasTaken exchange waiting uncancelled =>
    exact ⟨_, exchange, rfl, rfl, rfl, rfl, rfl, .inr ⟨waiting, uncancelled⟩⟩

@[grind →]
theorem Fails.action {a : Action} {x : Nat} {e : Exchange} {error : RequestError}
    (h : Fails s a x e error) :
    (∃ failure, a = .fail x failure) ∨ ∃ trackAlias, a = .subscribeOk x trackAlias false true := by
  cases h with
  | notSent | waiting => exact Or.inl ⟨_, rfl⟩
  | aliasTaken => exact Or.inr ⟨_, rfl⟩

theorem moves_of_fail {x : Nat} {failure : UpstreamFailure}
    (h : s.fail x failure = some s') : Moves s (.fail x failure) s' := by
  simp only [State.fail] at h
  split at h
  next e hx =>
    split at h
    next hnot =>
      split at h
      next hopening =>
        subst hnot
        exact Option.some.inj h ▸ (Fails.notSent hx hopening).moves
      · cases h
    · split at h
      next hwait =>
        exact Option.some.inj h ▸
          (Fails.waiting hx hwait.1 hwait.2.1 (by simpa using hwait.2.2)).moves
      · cases h
  · cases h

theorem moves_of_subscribeOk {x trackAlias : Nat} {unsupported aliasTaken : Bool}
    (h : s.subscribeOk x trackAlias unsupported aliasTaken = some s') : Moves s (.subscribeOk x trackAlias unsupported aliasTaken) s' := by
  simp only [State.subscribeOk] at h
  split at h
  next e hx =>
    split at h
    next hwait =>
      split at h
      next hpend =>
        exact Option.some.inj h ▸ .ignoredOk hx hwait.1 hwait.2 (.inl (by simpa using hpend))
      next hpend =>
        have hpend : e.pendingRequest = true := by simpa using hpend
        split at h
        next hunsupported =>
          subst hunsupported
          exact Option.some.inj h ▸ .unsupportedOk hx hwait.1 hwait.2 hpend
        next hunsupported =>
          split at h
          next r hreg =>
            split at h
            next horigin =>
              exact Option.some.inj h ▸
                .ignoredOk hx hwait.1 hwait.2 (.inr (.inr ⟨r, hreg, horigin⟩))
            next horigin =>
              cases Bool.eq_false_iff.mpr hunsupported
              split at h
              next htaken =>
                subst htaken
                exact Option.some.inj h ▸
                  (Fails.aliasTaken hx hwait.1 hwait.2 hpend hreg horigin).moves
              next htaken =>
                cases Bool.eq_false_iff.mpr htaken
                exact Option.some.inj h ▸ .accepted hx hwait.1 hwait.2 hpend hreg horigin
          next hreg =>
            exact Option.some.inj h ▸ .ignoredOk hx hwait.1 hwait.2 (.inr (.inl hreg))
    · cases h
  · cases h

theorem moves_of_confirm {x : Nat}
    (h : s.confirm x = some s') : Moves s (.confirm x) s' := by
  simp only [State.confirm] at h
  split at h
  next hx =>
    split at h
    next hstage =>
      split at h
      next hunread =>
        exact Option.some.inj h ▸ .confirmed hx hstage (by simpa using hunread) rfl
      · cases h
    · cases h
  · cases h

theorem moves_of_answer {x : Nat}
    (h : s.answer x = some s') : Moves s (.answer x) s' := by
  simp only [State.answer] at h
  split at h
  next hx =>
    split at h
    next hstage => exact Option.some.inj h ▸ .answered hx hstage
    · cases h
  · cases h

theorem moves_of_reject {x : Nat}
    (h : s.reject x = some s') : Moves s (.reject x) s' := by
  simp only [State.reject] at h
  split at h
  next e hx =>
    split at h
    next hstage =>
      split at h
      next hpend => exact Option.some.inj h ▸ .rejectedTwice hx hstage (by simpa using hpend)
      next hpend =>
        have hpend : e.pendingRequest = true := by simpa using hpend
        split at h
        next hreg =>
          split at h
          next horigin => exact Option.some.inj h ▸ .rejectedCacheOnly hx hstage hpend hreg horigin
          next horigin => exact Option.some.inj h ▸ .rejected hx hstage hpend hreg horigin
        next hreg => exact Option.some.inj h ▸ .rejectedUnregistered hx hstage hpend hreg
    · cases h
  · cases h

theorem moves_of_answerError {x : Nat}
    (h : s.answerError x = some s') : Moves s (.answerError x) s' := by
  simp only [State.answerError] at h
  split at h
  next hx =>
    split at h
    next hstage => exact Option.some.inj h ▸ .answeredError hx hstage
    next hstage => exact Option.some.inj h ▸ .answeredErrorUnregistered hx hstage
    · cases h
  · cases h

theorem moves_of_publishDone {x : Nat}
    (h : s.publishDone x = some s') : Moves s (.publishDone x) s' := by
  simp only [State.publishDone] at h
  split at h
  next hx =>
    split at h
    next hwait =>
      split at h
      next hreg => exact Option.some.inj h ▸ .done hx hwait.1 hwait.2 hreg
      next hreg => exact Option.some.inj h ▸ .doneUnregistered hx hwait.1 hwait.2 hreg
    · cases h
  · cases h

theorem moves_of_step {a : Action} (h : step s a = some s') : Moves s a s' := by
  cases a with
  | subscribe id publishers => exact moves_of_subscribe h
  | join id => exact moves_of_join h
  | refuse id reason => exact moves_of_refuse h
  | proceed id => exact moves_of_proceed h
  | push id => exact moves_of_push h
  | forward id => exact moves_of_forward h
  | cancel id => exact moves_of_cancel h
  | leave id => exact moves_of_leave h
  | failUpdate id => exact moves_of_failUpdate h
  | subscriberClosed connection => exact Option.some.inj h ▸ moves_subscriberClosed s connection
  | pushTrack id r => exact moves_of_pushTrack h
  | endPushed id => exact moves_of_endPushed h
  | malformedFetch r connection => exact moves_of_malformedFetch h
  | publish connection trackAlias aliasTaken =>
    exact Option.some.inj h ▸ moves_publish s connection trackAlias aliasTaken
  | publisherLeft connection => exact Option.some.inj h ▸ moves_publisherLeft s connection
  | fetchTrack => exact Option.some.inj h ▸ moves_fetchTrack s
  | cacheChanges r isEmpty => exact Option.some.inj h ▸ .cacheChanged
  | runJob i => exact moves_of_runJob h
  | register x malformed => exact moves_of_register h
  | observeCancel x => exact moves_of_observeCancel h
  | fail x failure => exact moves_of_fail h
  | subscribeOk x trackAlias unsupported aliasTaken => exact moves_of_subscribeOk h
  | confirm x => exact moves_of_confirm h
  | answer x => exact moves_of_answer h
  | reject x => exact moves_of_reject h
  | answerError x => exact moves_of_answerError h
  | publishDone x => exact moves_of_publishDone h

end Moqtail.Control
