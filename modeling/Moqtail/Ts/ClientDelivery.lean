import Moqtail.Ts.ClientSubscription

/-! Which Objects of its data streams the TypeScript client puts on the stream of a subscription: those
that come before the request of the data stream is let go. -/
namespace Moqtail.Ts.Receiving

open Lib Function

variable {α : Type}

namespace Subscription

variable {m : Subscription} {r request : Nat}

@[simp] theorem mem_draining_keepDraining :
    r ∈ (m.keepDraining request).draining ↔ r ∈ m.draining ∨ r = request := by
  simp only [keepDraining, clearDrain, List.mem_append, List.mem_filter, List.mem_singleton,
    decide_eq_true_eq]
  by_cases hr : r = request <;> simp [hr]

@[simp] theorem tracked_keepDraining : (m.keepDraining request).tracked = m.tracked := rfl

theorem foldl_keepDraining (superseded : List Nat) : ∀ m : Subscription,
    (superseded.foldl keepDraining m).tracked = m.tracked ∧
      ∀ r, r ∈ (superseded.foldl keepDraining m).draining ↔ r ∈ m.draining ∨ r ∈ superseded := by
  induction superseded with
  | nil => exact fun m => ⟨rfl, fun r => by simp⟩
  | cons old superseded ih =>
    intro m
    obtain ⟨htracked, hdraining⟩ := ih (m.keepDraining old)
    refine ⟨htracked, fun r => ?_⟩
    rw [List.foldl_cons, hdraining, mem_draining_keepDraining, List.mem_cons, or_assoc]

/-- Of a request that is tracked, the first Object of another makes an end if that one is the newest
and drains nothing. -/
def Supersedes (m : Subscription) (request r : Nat) : Prop :=
  m.newest = some request ∧ r ∈ m.tracked ∧ r ≠ request ∧ r ∉ m.draining ∧
    request ∉ m.drainsSuperseded

theorem newest_handover (h : request ∈ m.tracked) : request ∈ (m.handover request).1.tracked := by
  unfold handover
  split
  · dsimp only
    split
    · rw [(foldl_keepDraining _ _).1]
      exact List.mem_singleton_self request
    · exact List.mem_singleton_self request
  · exact h

end Subscription

namespace Client

variable {s s' : Client α} {r request : Nat}

/-! What the operations on the tables leave as it is. -/

/-- The clients differ in nothing but which requests and track aliases they have on file, and those of
the one are among those of the other. -/
structure Forgets (s s' : Client α) : Prop where
  nextRequestId : s'.nextRequestId = s.nextRequestId
  request : s'.request = s.request
  subscription : s'.subscription = s.subscription
  controller : s'.controller = s.controller
  awaiting : s'.awaiting = s.awaiting
  answered : s'.answered = s.answered
  unsubscribing : s'.unsubscribing = s.unsubscribing
  streams : s'.streams = s.streams
  requests : s'.requests ⊆ s.requests
  subscriptions : ∀ a holder, s'.subscriptions a = some holder → s.subscriptions a = some holder

theorem Forgets.rfl : Forgets s s :=
  ⟨Eq.refl _, Eq.refl _, Eq.refl _, Eq.refl _, Eq.refl _, Eq.refl _, Eq.refl _, Eq.refl _,
    List.Subset.refl _, fun _ _ h => h⟩

theorem Forgets.trans {t : Client α} (h : Forgets s s') (h' : Forgets s' t) : Forgets s t where
  nextRequestId := h'.nextRequestId.trans h.nextRequestId
  request := h'.request.trans h.request
  subscription := h'.subscription.trans h.subscription
  controller := h'.controller.trans h.controller
  awaiting := h'.awaiting.trans h.awaiting
  answered := h'.answered.trans h.answered
  unsubscribing := h'.unsubscribing.trans h.unsubscribing
  streams := h'.streams.trans h.streams
  requests := List.Subset.trans h'.requests h.requests
  subscriptions := fun a holder ha => h.subscriptions a holder (h'.subscriptions a holder ha)

theorem forget_forgets (s : Client α) (request : Nat) : Forgets s (s.forget request) := by
  unfold forget releaseTrackAlias
  have hrequests : s.requests.filter (· ≠ request) ⊆ s.requests := List.filter_subset_self _
  split
  · exact ⟨rfl, rfl, rfl, rfl, rfl, rfl, rfl, rfl, hrequests, fun _ _ h => h⟩
  next trackAlias _ =>
    refine ⟨rfl, rfl, rfl, rfl, rfl, rfl, rfl, rfl, hrequests, fun a holder ha => ?_⟩
    dsimp only at ha
    split at ha
    · by_cases heq : a = trackAlias
      · rw [heq, update_self] at ha
        cases ha
      · rwa [update_of_ne heq] at ha
    · exact ha

theorem foldl_forgets (gone : List Nat) : ∀ s : Client α, Forgets s (gone.foldl forget s) := by
  induction gone with
  | nil => exact fun s => .rfl
  | cons request gone ih => exact fun s => (forget_forgets s request).trans (ih _)

theorem not_mem_requests_forget (s : Client α) (request : Nat) : request ∉ (s.forget request).requests := by
  unfold forget releaseTrackAlias
  split <;> simp

/-! Whether the Objects of a request's data streams get through. -/

@[simp] theorem manager_setRequest (s : Client α) (request r : Nat) (q : SubscribeRequest) :
    (s.setRequest request q).manager r = if r = request then q.manager else s.manager r := by
  unfold manager setRequest
  dsimp only
  rw [update_apply]
  split <;> rfl

/-- The request of which an Object is there ends another on the same stream. -/
def Supersedes (s : Client α) (request r : Nat) : Prop :=
  s.manager r = s.manager request ∧ request ∉ (s.subscription (s.manager request)).draining ∧
    (s.subscription (s.manager request)).Supersedes request r

/-- Request IDs of the client are even. -/
def Made (s : Client α) (r : Nat) : Prop := r < s.nextRequestId ∧ r % 2 = 0

structure Inv (s : Client α) : Prop where
  even : s.nextRequestId % 2 = 0
  registered : ∀ r ∈ s.requests, s.Made r
  answered : ∀ r ∈ s.answered, s.Made r
  managed : ∀ r, s.Made r →
    (r ∈ s.answered ∧ s.manager r ∈ s.answered) ∨ (r ∉ s.answered ∧ s.manager r = r)
  holder : ∀ a r, s.subscriptions a = some r → s.Made r
  streams : ∀ r, .reading r ∈ s.streams ∨ .stopping r ∈ s.streams → s.Made r
  awaiting : ∀ call ∈ s.awaiting, s.Made call.1 ∧ call.1 ∉ s.answered
  /-- Until it is answered a request is on a `Subscription` of its own. -/
  own : ∀ call ∈ s.awaiting, call.1 ∈ s.requests →
    call.1 ∈ (s.subscription call.1).tracked ∧ (s.controller call.1).closed = false
  switchTo : ∀ r m drains, (r, some (m, drains)) ∈ s.awaiting → m ∈ s.answered
  unsubscribing : ∀ call ∈ s.unsubscribing, call.1 ∈ s.answered

/-- What a step may do that makes no request and brings no answer. -/
structure Quiet (s s' : Client α) : Prop where
  nextRequestId : s'.nextRequestId = s.nextRequestId
  manager : ∀ r, s'.manager r = s.manager r
  answered : s'.answered = s.answered
  requests : s'.requests ⊆ s.requests
  subscriptions : ∀ a holder, s'.subscriptions a = some holder → s.subscriptions a = some holder
  awaiting : s'.awaiting ⊆ s.awaiting
  unsubscribing : ∀ call ∈ s'.unsubscribing, call ∈ s.unsubscribing ∨ call.1 ∈ s.answered
  streams : ∀ r, .reading r ∈ s'.streams ∨ .stopping r ∈ s'.streams →
    (.reading r ∈ s.streams ∨ .stopping r ∈ s.streams) ∨ s.Made r

/-- Nor does it take a request that is on its own off its `Subscription`, unless it forgets it. -/
structure Keeps (s s' : Client α) : Prop extends Quiet s s' where
  own : ∀ r, s.Made r → r ∉ s.answered → r ∈ s'.requests →
    r ∈ (s.subscription r).tracked ∧ (s.controller r).closed = false →
      r ∈ (s'.subscription r).tracked ∧ (s'.controller r).closed = false

theorem Inv.of_keeps (h : Inv s) (hquiet : Keeps s s') : Inv s' := by
  have hmade : ∀ r, s'.Made r ↔ s.Made r := fun r => by rw [Made, Made, hquiet.nextRequestId]
  exact
    { even := by rw [hquiet.nextRequestId]; exact h.even
      registered := fun r hr => (hmade r).mpr (h.registered r (hquiet.requests hr))
      answered := fun r hr => by
        rw [hquiet.answered] at hr
        exact (hmade r).mpr (h.answered r hr)
      managed := fun r hr => by
        rw [hquiet.answered, hquiet.manager]
        exact h.managed r ((hmade r).mp hr)
      holder := fun a r hr => (hmade r).mpr (h.holder a r (hquiet.subscriptions a r hr))
      streams := fun r hr =>
        (hmade r).mpr ((hquiet.streams r hr).elim (h.streams r) id)
      awaiting := fun call hcall => by
        rw [hmade, hquiet.answered]
        exact h.awaiting call (hquiet.awaiting hcall)
      own := fun call hcall hregistered => by
        obtain ⟨hcallMade, hunanswered⟩ := h.awaiting call (hquiet.awaiting hcall)
        exact hquiet.own call.1 hcallMade hunanswered hregistered
          (h.own call (hquiet.awaiting hcall) (hquiet.requests hregistered))
      switchTo := fun r m drains hr => by
        rw [hquiet.answered]
        exact h.switchTo r m drains (hquiet.awaiting hr)
      unsubscribing := fun call hcall => by
        rw [hquiet.answered]
        exact (hquiet.unsubscribing call hcall).elim (h.unsubscribing call) id }

theorem Quiet.trans {t : Client α} (h : Quiet s s') (h' : Quiet s' t) : Quiet s t where
  nextRequestId := h'.nextRequestId.trans h.nextRequestId
  manager r := (h'.manager r).trans (h.manager r)
  answered := h'.answered.trans h.answered
  requests := List.Subset.trans h'.requests h.requests
  subscriptions a holder ha := h.subscriptions a holder (h'.subscriptions a holder ha)
  awaiting := List.Subset.trans h'.awaiting h.awaiting
  unsubscribing call hcall := (h'.unsubscribing call hcall).elim (h.unsubscribing call)
    fun hanswered => .inr (h.answered ▸ hanswered)
  streams r hr := (h'.streams r hr).elim (h.streams r) fun hmade =>
    .inr (by rwa [Made, h.nextRequestId] at hmade)

theorem Forgets.quiet (h : Forgets s s') : Quiet s s' where
  nextRequestId := h.nextRequestId
  manager r := by rw [manager, h.request]; rfl
  answered := h.answered
  requests := h.requests
  subscriptions := h.subscriptions
  awaiting := h.awaiting ▸ List.Subset.refl _
  unsubscribing call hcall := .inl (h.unsubscribing ▸ hcall)
  streams r hr := .inl (h.streams ▸ hr)

/-- Nothing but objects that the tables refer to is changed. -/
theorem quiet_of_tables (hnext : s'.nextRequestId = s.nextRequestId)
    (hmanager : ∀ r, s'.manager r = s.manager r) (hanswered : s'.answered = s.answered)
    (hrequests : s'.requests = s.requests) (hsubscriptions : s'.subscriptions = s.subscriptions)
    (hawaiting : s'.awaiting = s.awaiting) (hunsubscribing : s'.unsubscribing = s.unsubscribing)
    (hstreams : ∀ r, .reading r ∈ s'.streams ∨ .stopping r ∈ s'.streams →
      (.reading r ∈ s.streams ∨ .stopping r ∈ s.streams) ∨ s.Made r) : Quiet s s' where
  nextRequestId := hnext
  manager := hmanager
  answered := hanswered
  requests := hrequests ▸ List.Subset.refl _
  subscriptions _ _ h := hsubscriptions ▸ h
  awaiting := hawaiting ▸ List.Subset.refl _
  unsubscribing _ h := .inl (hunsubscribing ▸ h)
  streams := hstreams

theorem quiet_setSubscription (s : Client α) (m : Nat) (owner : Subscription) :
    Quiet s (s.setSubscription m owner) :=
  quiet_of_tables rfl (fun _ => rfl) rfl rfl rfl rfl rfl fun _ => .inl

theorem quiet_setController (s : Client α) (m : Nat) (controller : Controller α) :
    Quiet s (s.setController m controller) :=
  quiet_of_tables rfl (fun _ => rfl) rfl rfl rfl rfl rfl fun _ => .inl

theorem quiet_setRequest {q : SubscribeRequest} (h : q.manager = s.manager request) :
    Quiet s (s.setRequest request q) := by
  refine quiet_of_tables rfl (fun r => ?_) rfl rfl rfl rfl rfl fun _ => .inl
  rw [manager_setRequest]
  split
  next hr => rw [h, hr]
  · rfl

theorem quiet_setStream {stream : Nat} {phase : Phase}
    (h : ∀ r, phase = .reading r ∨ phase = .stopping r → s.Made r) :
    Quiet s (s.setStream stream phase) := by
  refine quiet_of_tables rfl (fun _ => rfl) rfl rfl rfl rfl rfl fun r hr => ?_
  rcases hr with hr | hr
  · exact (List.mem_or_eq_of_mem_set hr).elim (fun h => .inl (.inl h)) fun heq =>
      .inr (h r (.inl heq.symm))
  · exact (List.mem_or_eq_of_mem_set hr).elim (fun h => .inl (.inr h)) fun heq =>
      .inr (h r (.inr heq.symm))

theorem quiet_append {phase : Phase} (h : ∀ r, phase = .reading r ∨ phase = .stopping r → s.Made r) :
    Quiet s { s with streams := s.streams ++ [phase] } := by
  refine quiet_of_tables rfl (fun _ => rfl) rfl rfl rfl rfl rfl fun r hr => ?_
  simp only [List.mem_append, List.mem_singleton] at hr
  rcases hr with (hr | hr) | (hr | hr)
  · exact .inl (.inl hr)
  · exact .inr (h r (.inl hr.symm))
  · exact .inl (.inr hr)
  · exact .inr (h r (.inr hr.symm))

theorem quiet_enqueue (s : Client α) (request stream : Nat) (object : α) :
    Quiet s (s.enqueue request stream object).1 := by
  unfold enqueue
  dsimp only
  split
  · exact Forgets.rfl.quiet
  · exact quiet_setController _ _ _

theorem quiet_deliver (s : Client α) (request stream : Nat) (object : α) (onDrainDecision : Bool) :
    Quiet s (s.deliver request stream object onDrainDecision).1 := by
  unfold deliver
  dsimp only
  split
  · split
    · exact (quiet_setSubscription _ _ _).trans (quiet_enqueue _ _ _ _)
    · exact Forgets.rfl.quiet
  · split
    · exact Forgets.rfl.quiet
    · exact ((quiet_setSubscription _ _ _).trans (foldl_forgets _ _).quiet).trans
        (quiet_enqueue _ _ _ _)

theorem quiet_completeSubscription (s : Client α) (request : Nat) (force : Bool) :
    Quiet s (s.completeSubscription request force) := by
  unfold completeSubscription
  dsimp only
  split
  · have hdrop := quiet_setSubscription s (s.manager request)
      ((s.subscription (s.manager request)).drop request)
    split
    · split
      · exact hdrop
      · exact (hdrop.trans (quiet_setController _ _ _)).trans (forget_forgets _ _).quiet
    · exact hdrop.trans (forget_forgets _ _).quiet
  · exact Forgets.rfl.quiet

/-! A request that is not answered is on its own. -/

theorem Inv.eq_of_manager (h : Inv s) (hrequest : s.Made request) (hr : r ∉ s.answered)
    (hm : s.manager request = r) : request = r := by
  rcases h.managed request hrequest with ⟨-, hanswered⟩ | ⟨-, hown⟩
  · exact absurd (hm ▸ hanswered) hr
  · exact hown.symm.trans hm

theorem closed_enqueue (s : Client α) (request stream : Nat) (object : α) :
    ((s.enqueue request stream object).1.controller r).closed = (s.controller r).closed := by
  unfold enqueue
  dsimp only
  split
  · rfl
  · simp only [setController, update_apply]
    split
    next hr => rw [hr]
    · rfl

theorem subscription_enqueue (s : Client α) (request stream : Nat) (object : α) :
    (s.enqueue request stream object).1.subscription = s.subscription := by
  unfold enqueue
  dsimp only
  split <;> rfl

theorem closed_deliver (s : Client α) (request stream : Nat) (object : α) (onDrainDecision : Bool) :
    ((s.deliver request stream object onDrainDecision).1.controller r).closed =
      (s.controller r).closed := by
  unfold deliver
  dsimp only
  split
  · split
    · rw [closed_enqueue]
      rfl
    · rfl
  · split
    · rfl
    · rw [closed_enqueue, (foldl_forgets _ _).controller]
      rfl

theorem tracked_deliver (s : Client α) (request stream : Nat) (object : α) (onDrainDecision : Bool)
    (hown : s.manager request = r → request = r) (htracked : r ∈ (s.subscription r).tracked) :
    r ∈ ((s.deliver request stream object onDrainDecision).1.subscription r).tracked := by
  have hset : ∀ owner : Subscription,
      (s.manager request = r → r ∈ (s.subscription r).tracked → r ∈ owner.tracked) →
        r ∈ ((s.setSubscription (s.manager request) owner).subscription r).tracked := by
    intro owner howner
    simp only [setSubscription, update_apply]
    split
    next hm => exact howner hm.symm htracked
    · exact htracked
  unfold deliver
  dsimp only
  split
  · split
    · rw [subscription_enqueue]
      exact hset _ fun hm h => by rwa [Subscription.tracked_keepDraining, hm]
    · exact htracked
  · split
    · exact htracked
    next hrequest =>
      rw [subscription_enqueue, (foldl_forgets _ _).subscription]
      refine hset _ fun hm _ => ?_
      rw [← hown hm]
      exact Subscription.newest_handover (not_not.mp hrequest)

theorem own_completeSubscription (s : Client α) (request : Nat) (force : Bool)
    (hown : s.manager request = r → request = r)
    (hregistered : r ∈ (s.completeSubscription request force).requests)
    (h : r ∈ (s.subscription r).tracked ∧ (s.controller r).closed = false) :
    r ∈ ((s.completeSubscription request force).subscription r).tracked ∧
      ((s.completeSubscription request force).controller r).closed = false := by
  unfold completeSubscription at hregistered ⊢
  dsimp only at hregistered ⊢
  split at hregistered
  next hcompletes =>
    rw [if_pos hcompletes]
    by_cases hm : s.manager request = r
    · have hr := hown hm
      subst hr
      exfalso
      split at hregistered
      · split at hregistered
        next hclosed =>
          rw [hm] at hclosed
          rw [show (setSubscription s _ _).controller = s.controller from rfl, h.2] at hclosed
          cases hclosed
        · exact not_mem_requests_forget _ _ hregistered
      · exact not_mem_requests_forget _ _ hregistered
    · have hsubscription : ∀ owner : Subscription,
          (s.setSubscription (s.manager request) owner).subscription r = s.subscription r :=
        fun owner => update_of_ne (Ne.symm hm) _ _
      split
      · split
        · exact ⟨by rw [hsubscription]; exact h.1, h.2⟩
        · rw [(forget_forgets _ _).subscription, (forget_forgets _ _).controller]
          refine ⟨by rw [setController, hsubscription]; exact h.1, ?_⟩
          rw [setController]
          dsimp only
          rw [update_of_ne (Ne.symm hm)]
          exact h.2
      · rw [(forget_forgets _ _).subscription, (forget_forgets _ _).controller]
        exact ⟨by rw [hsubscription]; exact h.1, h.2⟩
  next hcompletes =>
    rw [if_neg hcompletes]
    exact h

/-! Steps. -/

theorem Inv.openRequest (h : Inv s) {switchTo : Option (Nat × Bool)}
    (hswitch : ∀ m drains, switchTo = some (m, drains) → m ∈ s.answered) :
    Inv (s.openRequest switchTo) := by
  have hmono : ∀ r, s.Made r → (s.openRequest switchTo).Made r :=
    fun r hr => ⟨lt_trans hr.1 (Nat.lt_add_of_pos_right (by decide)), hr.2⟩
  have hne : ∀ r, s.Made r → r ≠ s.nextRequestId := fun r hr => hr.1.ne
  have hnew : (s.openRequest switchTo).Made s.nextRequestId :=
    ⟨Nat.lt_add_of_pos_right (by decide), h.even⟩
  exact
    { even := by
        show (s.nextRequestId + 2) % 2 = 0
        rw [Nat.add_mod_right]
        exact h.even
      registered := fun r hr => by
        rcases List.mem_append.mp hr with hr | hr
        · exact hmono r (h.registered r hr)
        · rw [List.mem_singleton.mp hr]
          exact hnew
      answered := fun r hr => hmono r (h.answered r hr)
      managed := fun r hr => by
        by_cases heq : r = s.nextRequestId
        · subst heq
          refine .inr ⟨fun hanswered => hne _ (h.answered _ hanswered) rfl, ?_⟩
          show (update s.request _ _ _).manager = _
          rw [update_self]
        · have hmanager : (s.openRequest switchTo).manager r = s.manager r := by
            show (update s.request _ _ _).manager = _
            rw [update_of_ne heq]
            rfl
          have hlt : r < s.nextRequestId + 2 := hr.1
          rw [hmanager]
          exact h.managed r ⟨by have := h.even; have := hr.2; omega, hr.2⟩
      holder := fun a r hr => hmono r (h.holder a r hr)
      streams := fun r hr => hmono r (h.streams r hr)
      awaiting := fun call hcall => by
        rcases List.mem_append.mp hcall with hcall | hcall
        · exact ⟨hmono _ (h.awaiting call hcall).1, (h.awaiting call hcall).2⟩
        · rw [List.mem_singleton.mp hcall]
          exact ⟨hnew, fun hanswered => hne _ (h.answered _ hanswered) rfl⟩
      own := fun call hcall hregistered => by
        show call.1 ∈ (update s.subscription _ _ _).tracked ∧ (update s.controller _ _ _).closed = false
        rcases List.mem_append.mp hcall with hcall | hcall
        · have hcallNe := hne _ (h.awaiting call hcall).1
          rw [update_of_ne hcallNe, update_of_ne hcallNe]
          refine h.own call hcall ((List.mem_append.mp hregistered).resolve_right fun hr => ?_)
          exact hcallNe (List.mem_singleton.mp hr)
        · rw [List.mem_singleton.mp hcall, update_self, update_self]
          exact ⟨List.mem_singleton_self _, rfl⟩
      switchTo := fun r m drains hr => by
        rcases List.mem_append.mp hr with hr | hr
        · exact h.switchTo r m drains hr
        · cases List.mem_singleton.mp hr
          exact hswitch m drains rfl
      unsubscribing := h.unsubscribing }

theorem subscription_answer {trackAlias m : Nat} {switchTo : Option (Nat × Bool)}
    (h : ∀ target, switchTo = some target → m ≠ target.1) :
    (s.answer request trackAlias switchTo).subscription m = s.subscription m := by
  cases switchTo with
  | none => rfl
  | some target => exact update_of_ne (h target rfl) _ _

theorem manager_answer (s : Client α) (request trackAlias : Nat) (switchTo : Option (Nat × Bool))
    (r : Nat) :
    (s.answer request trackAlias switchTo).manager r =
      if r = request then (switchTo.map (·.1)).getD (s.manager r) else s.manager r := by
  cases switchTo with
  | none => exact (ite_self _).symm
  | some target => exact manager_setRequest _ _ _ _

theorem Inv.answer (h : Inv s) {trackAlias : Nat} {switchTo : Option (Nat × Bool)}
    (hcall : (request, switchTo) ∈ s.awaiting) : Inv (s.answer request trackAlias switchTo) := by
  obtain ⟨hmade, hunanswered⟩ := h.awaiting _ hcall
  have hanswered : (s.answer request trackAlias switchTo).answered = s.answered ++ [request] := by
    cases switchTo <;> rfl
  have hcontroller : (s.answer request trackAlias switchTo).controller = s.controller := by
    cases switchTo <;> rfl
  have hstreams : (s.answer request trackAlias switchTo).streams = s.streams := by
    cases switchTo <;> rfl
  have hrequests : (s.answer request trackAlias switchTo).requests = s.requests := by
    cases switchTo <;> rfl
  have hnext : ∀ r, (s.answer request trackAlias switchTo).Made r ↔ s.Made r := by
    cases switchTo <;> exact fun r => Iff.rfl
  have hawaiting : (s.answer request trackAlias switchTo).awaiting =
      s.awaiting.filter (·.1 ≠ request) := by
    cases switchTo <;> rfl
  have hsubscriptions : (s.answer request trackAlias switchTo).subscriptions =
      update s.subscriptions trackAlias (some request) := by
    cases switchTo <;> rfl
  have hunsubscribing : (s.answer request trackAlias switchTo).unsubscribing = s.unsubscribing := by
    cases switchTo <;> rfl
  have hkept : ∀ call ∈ (s.answer request trackAlias switchTo).awaiting,
      call ∈ s.awaiting ∧ call.1 ≠ request := by
    intro call hmem
    rw [hawaiting, List.mem_filter] at hmem
    exact ⟨hmem.1, of_decide_eq_true hmem.2⟩
  exact
    { even := by cases switchTo <;> exact h.even
      registered := fun r hr => (hnext r).mpr (h.registered r (hrequests ▸ hr))
      answered := fun r hr => by
        rw [hnext]
        rw [hanswered, List.mem_append, List.mem_singleton] at hr
        exact hr.elim (h.answered r) fun heq => heq ▸ hmade
      managed := fun r hr => by
        rw [hanswered, manager_answer, List.mem_append, List.mem_append, List.mem_singleton]
        by_cases heq : r = request
        · subst heq
          refine .inl ⟨.inr rfl, ?_⟩
          rw [if_pos rfl]
          cases switchTo with
          | none =>
            rcases h.managed r hmade with ⟨hr', -⟩ | ⟨-, hown⟩
            · exact absurd hr' hunanswered
            · exact .inr (List.mem_singleton.mpr hown)
          | some target => exact .inl (h.switchTo r target.1 target.2 hcall)
        · rw [if_neg heq]
          rcases h.managed r ((hnext r).mp hr) with ⟨hr', hm⟩ | ⟨hr', hm⟩
          · exact .inl ⟨.inl hr', .inl hm⟩
          · exact .inr ⟨fun h => h.elim hr' heq, hm⟩
      holder := fun a r hr => by
        rw [hnext]
        rw [hsubscriptions, update_apply] at hr
        split at hr
        · cases hr
          exact hmade
        · exact h.holder a r hr
      streams := fun r hr => (hnext r).mpr (h.streams r (hstreams ▸ hr))
      awaiting := fun call hmem => by
        obtain ⟨hmem, hne⟩ := hkept call hmem
        rw [hnext, hanswered, List.mem_append, List.mem_singleton]
        exact ⟨(h.awaiting call hmem).1, fun h' => h'.elim (h.awaiting call hmem).2 hne⟩
      own := fun call hmem hregistered => by
        have hold := (hkept call hmem).1
        have hown := h.own call hold (hrequests ▸ hregistered)
        rw [hcontroller, subscription_answer]
        · exact hown
        rintro target rfl heq
        exact (h.awaiting call hold).2 (heq ▸ h.switchTo request target.1 target.2 hcall)
      switchTo := fun r m drains hmem => by
        rw [hanswered]
        exact List.mem_append_left _ (h.switchTo r m drains (hkept _ hmem).1)
      unsubscribing := fun call hmem => by
        rw [hanswered]
        exact List.mem_append_left _ (h.unsubscribing call (hunsubscribing ▸ hmem)) }

theorem Quiet.keeps (h : Quiet s s') (hsubscription : s'.subscription = s.subscription)
    (hcontroller : s'.controller = s.controller) : Keeps s s' where
  toQuiet := h
  own _ _ _ _ hown := by rwa [hsubscription, hcontroller]

theorem Keeps.trans {t : Client α} (h : Keeps s s') (h' : Keeps s' t) : Keeps s t where
  toQuiet := h.toQuiet.trans h'.toQuiet
  own r hr hunanswered hregistered hown := by
    have hmade : s'.Made r := by rwa [Made, h.nextRequestId]
    refine h'.own r hmade (h.answered ▸ hunanswered) hregistered ?_
    exact h.own r hr hunanswered (h'.requests hregistered) hown

theorem Inv.keeps_complete (h : Inv s) (hrequest : s.Made request) (force : Bool) :
    Keeps s (s.completeSubscription request force) where
  toQuiet := quiet_completeSubscription s request force
  own _ _ hr hregistered hown :=
    own_completeSubscription s request force (h.eq_of_manager hrequest hr) hregistered hown

theorem Inv.keeps_deliver (h : Inv s) (hrequest : s.Made request) (stream : Nat) (object : α)
    (onDrainDecision : Bool) : Keeps s (s.deliver request stream object onDrainDecision).1 where
  toQuiet := quiet_deliver s request stream object onDrainDecision
  own r _ hr _ hown :=
    ⟨tracked_deliver s request stream object onDrainDecision (h.eq_of_manager hrequest hr) hown.1,
      by rw [closed_deliver]; exact hown.2⟩

theorem keeps_setStream {stream : Nat} {phase : Phase}
    (h : ∀ r, phase = .reading r ∨ phase = .stopping r → s.Made r) : Keeps s (s.setStream stream phase) :=
  (quiet_setStream h).keeps rfl rfl

theorem keeps_append {phase : Phase} (h : ∀ r, phase = .reading r ∨ phase = .stopping r → s.Made r) :
    Keeps s { s with streams := s.streams ++ [phase] } :=
  (quiet_append h).keeps rfl rfl

theorem keeps_setRequest {q : SubscribeRequest} (h : q.manager = s.manager request) :
    Keeps s (s.setRequest request q) :=
  (quiet_setRequest h).keeps rfl rfl

theorem keeps_accept (s : Client α) (request : Nat) : Keeps s (s.accept request) := keeps_setRequest rfl

theorem not_over {r : Nat} (h : Phase.over = .reading r ∨ Phase.over = .stopping r) : s.Made r := by
  rcases h with h | h <;> cases h

theorem made_of_reading (hmade : s.Made request) {r : Nat}
    (h : Phase.reading request = .reading r ∨ Phase.reading request = .stopping r) : s.Made r := by
  rcases h with h | h
  · cases h
    exact hmade
  · cases h

/-- Where a data stream goes on after an Object, it is for the same request. -/
theorem phase_deliver (s : Client α) (request stream : Nat) (object : α) (onDrainDecision : Bool) :
    (s.deliver request stream object onDrainDecision).2 ∈
      [.reading request, .stopping request, .over] := by
  have henqueue : ∀ t : Client α,
      (t.enqueue request stream object).2 ∈ [.reading request, .stopping request, .over] := by
    intro t
    unfold enqueue
    dsimp only
    split <;> simp
  unfold deliver
  dsimp only
  split
  · split
    · exact henqueue _
    · simp
  · split
    · simp
    · exact henqueue _

/-- A step makes a request, brings an answer, or leaves both sorts of request as they are. -/
theorem step_cases {a : Action α} (h : Inv s) (hstep : s.step a = some s') :
    (∃ switchTo, s' = s.openRequest switchTo ∧
        ∀ m drains, switchTo = some (m, drains) → m ∈ s.answered) ∨
      (∃ request trackAlias switchTo, s' = s.answer request trackAlias switchTo ∧
        (request, switchTo) ∈ s.awaiting) ∨
      Keeps s s' := by
  cases a with
  | subscribe =>
    cases hstep
    exact .inl ⟨none, rfl, fun m drains hnone => by cases hnone⟩
  | switch switchFromRequestId soft =>
    simp only [Client.step, Option.ite_none_right_eq_some] at hstep
    obtain ⟨⟨hfrom, hanswered⟩, hs'⟩ := hstep
    cases hs'
    refine .inl ⟨_, rfl, fun m drains heq => ?_⟩
    cases heq
    rcases h.managed _ (h.registered _ hfrom) with ⟨-, hm⟩ | ⟨hnot, -⟩
    · exact hm
    · exact absurd hanswered hnot
  | subscribeOk requestId trackAlias =>
    obtain ⟨⟨r, switchTo⟩, hcall, hstep⟩ := Option.bind_eq_some_iff.mp hstep
    obtain ⟨-, hs'⟩ := Option.ite_none_right_eq_some.mp hstep
    cases hs'
    have hr : r = requestId := by simpa using List.find?_some hcall
    subst hr
    exact .inr (.inl ⟨r, trackAlias, switchTo, rfl, List.mem_of_find?_eq_some hcall⟩)
  | requestError requestId =>
    obtain ⟨call, hcall, hstep⟩ := Option.bind_eq_some_iff.mp hstep
    obtain ⟨-, hs'⟩ := Option.ite_none_right_eq_some.mp hstep
    cases hs'
    have hquiet : Quiet s { s with
        requests := s.requests.filter (· ≠ requestId)
        awaiting := s.awaiting.filter (·.1 ≠ requestId) } :=
      ⟨rfl, fun _ => rfl, rfl, List.filter_subset_self _, fun _ _ h => h,
        List.filter_subset_self _, fun _ h => .inl h, fun _ h => .inl h⟩
    exact .inr (.inr (hquiet.keeps rfl rfl))
  | acceptSubgroup trackAlias =>
    simp only [Client.step] at hstep
    split at hstep
    · cases hstep
      refine .inr (.inr (keeps_append fun r hr => ?_))
      rcases hr with hr | hr <;> cases hr
    next request hholder =>
      cases hstep
      have hmade := h.holder _ _ hholder
      exact .inr (.inr ((keeps_accept s request).trans (keeps_append fun _ => made_of_reading hmade)))
  | acceptFill requestId =>
    simp only [Client.step] at hstep
    split at hstep
    next hregistered =>
      cases hstep
      have hmade := h.registered _ hregistered
      exact .inr (.inr ((keeps_accept s requestId).trans
        (keeps_append fun _ => made_of_reading hmade)))
    · cases hstep
      exact .inr (.inr (keeps_append fun _ => not_over))
  | resume stream =>
    simp only [Client.step] at hstep
    split at hstep
    next trackAlias _ =>
      split at hstep
      · cases hstep
        exact .inr (.inr (keeps_setStream fun _ => not_over))
      next request hholder =>
        cases hstep
        have hmade := h.holder _ _ hholder
        exact .inr (.inr ((keeps_accept s request).trans
          (keeps_setStream fun _ => made_of_reading hmade)))
    · cases hstep
  | object stream object onDrainDecision =>
    simp only [Client.step] at hstep
    split at hstep
    next request hstream =>
      cases hstep
      have hmade := h.streams request (.inl (List.mem_of_getElem? hstream))
      have hkeeps := h.keeps_deliver hmade stream object onDrainDecision
      refine .inr (.inr (hkeeps.trans (keeps_setStream fun r hr => ?_)))
      have hmade' : (s.deliver request stream object onDrainDecision).1.Made request := by
        rwa [Made, hkeeps.nextRequestId]
      have hphase := phase_deliver s request stream object onDrainDecision
      simp only [List.mem_cons, List.not_mem_nil, or_false] at hphase
      rcases hphase with heq | heq | heq <;> rw [heq] at hr
      · exact made_of_reading hmade' hr
      · rcases hr with hr | hr
        · cases hr
        · cases hr
          exact hmade'
      · exact not_over hr
    · cases hstep
  | done stream =>
    simp only [Client.step] at hstep
    split at hstep
    next request hstream =>
      cases hstep
      have hmade := h.streams request (.inl (List.mem_of_getElem? hstream))
      exact .inr (.inr ((h.keeps_complete hmade false).trans (keeps_setStream fun _ => not_over)))
    · cases hstep
  | failed stream =>
    obtain ⟨-, hs'⟩ := Option.ite_none_right_eq_some.mp hstep
    cases hs'
    exact .inr (.inr (keeps_setStream fun _ => not_over))
  | stopped stream =>
    simp only [Client.step] at hstep
    split at hstep
    next request hstream =>
      cases hstep
      have hmade := h.streams request (.inr (List.mem_of_getElem? hstream))
      exact .inr (.inr ((h.keeps_complete hmade true).trans (keeps_setStream fun _ => not_over)))
    · cases hstep
  | publishDone requestId streamCount =>
    obtain ⟨hregistered, hs'⟩ := Option.ite_none_right_eq_some.mp hstep
    cases hs'
    have hcounted : Keeps s (s.setRequest requestId
        { s.request requestId with expectedStreams := some streamCount }) := keeps_setRequest rfl
    have hmade := h.registered _ hregistered
    exact .inr (.inr (hcounted.trans ((h.of_keeps hcounted).keeps_complete hmade false)))
  | drainTimeout m request =>
    obtain ⟨-, hs'⟩ := Option.ite_none_right_eq_some.mp hstep
    cases hs'
    refine .inr (.inr ⟨(quiet_setSubscription _ _ _).trans (forget_forgets _ _).quiet, ?_⟩)
    intro r _ _ _ hown
    rw [(forget_forgets _ _).subscription, (forget_forgets _ _).controller]
    refine ⟨?_, hown.2⟩
    simp only [setSubscription, update_apply]
    split
    next hr =>
      rw [← hr]
      exact hown.1
    · exact hown.1
  | unsubscribe requestId =>
    obtain ⟨⟨hregistered, hanswered⟩, hs'⟩ := Option.ite_none_right_eq_some.mp hstep
    cases hs'
    refine .inr (.inr (Quiet.keeps ⟨rfl, fun _ => rfl, rfl, List.Subset.refl _, fun _ _ h => h,
      List.Subset.refl _, fun call hcall => ?_, fun _ h => .inl h⟩ rfl rfl))
    rcases List.mem_append.mp hcall with hcall | hcall
    · exact .inl hcall
    · rw [List.mem_singleton.mp hcall]
      rcases h.managed _ (h.registered _ hregistered) with ⟨-, hm⟩ | ⟨hnot, -⟩
      · exact .inr hm
      · exact absurd hanswered hnot
  | unsubscribed call =>
    obtain ⟨⟨m, targets⟩, hcall, hs'⟩ := Option.bind_eq_some_iff.mp hstep
    cases hs'
    have hm : m ∈ s.answered := h.unsubscribing _ (List.mem_of_getElem? hcall)
    have hforgets := foldl_forgets targets s
    have hquiet : Quiet s { targets.foldl forget s with
        unsubscribing := s.unsubscribing.eraseIdx call } :=
      { hforgets.quiet with
        manager := hforgets.quiet.manager
        unsubscribing := fun call hcall => .inl (List.eraseIdx_subset hcall) }
    refine .inr (.inr ⟨hquiet.trans (quiet_setSubscription _ _ _), fun r _ hr _ hown => ?_⟩)
    have hne : r ≠ m := fun heq => hr (heq ▸ hm)
    simp only [setSubscription, update_of_ne hne, hforgets.subscription, hforgets.controller]
    exact hown
  | cancel m =>
    obtain ⟨hanswered, hs'⟩ := Option.ite_none_right_eq_some.mp hstep
    cases hs'
    refine .inr (.inr ⟨quiet_setController _ _ _, fun r _ hr _ hown => ⟨hown.1, ?_⟩⟩)
    have hne : r ≠ m := fun heq => hr (heq ▸ hanswered)
    rw [setController]
    dsimp only
    rw [update_of_ne hne]
    exact hown.2

theorem Inv.step {a : Action α} (h : Inv s) (hstep : s.step a = some s') : Inv s' := by
  rcases step_cases h hstep with ⟨switchTo, rfl, hswitch⟩ | ⟨_, _, _, rfl, hcall⟩ | hkeeps
  · exact h.openRequest hswitch
  · exact h.answer hcall
  · exact h.of_keeps hkeeps

/-! The steps after which nothing of a request gets through. -/

/-- The client lets a request go: it is counted out, ended by the newest request of its stream,
drained, unsubscribed from, or switched to on a stream that is closed, or its stream is cancelled. -/
def LetsGo (s : Client α) (r : Nat) (a : Action α) : Prop :=
  r < s.nextRequestId ∧
    match a with
    | .subscribeOk request _ => request = r ∧ ∃ m drains,
        s.awaiting.find? (·.1 = request) = some (request, some (m, drains)) ∧
          (s.controller m).closed = true
    | .object stream _ _ =>
      ∃ request, s.streams[stream]? = some (.reading request) ∧ s.Supersedes request r
    | .done stream => s.streams[stream]? = some (.reading r) ∧ (s.request r).counted = true
    | .stopped stream => s.streams[stream]? = some (.stopping r)
    | .publishDone request streamCount => request = r ∧ streamCount ≠ 0 ∧
        streamCount ≤ (s.request r).streamsAccepted
    | .drainTimeout m request => request = r ∧ s.manager r = m ∧ r ∉ (s.subscription m).tracked
    | .unsubscribed call => ∃ targets, s.unsubscribing[call]? = some (s.manager r, targets)
    | .cancel m => s.manager r = m
    | _ => False

end Client

end Moqtail.Ts.Receiving
