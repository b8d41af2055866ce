import Moqtail.Ts.PublishCleanup

/-! The lock of a publication: who has it and who waits for it, whatever fails. A call that fails
while it has the lock leaves it taken, and that is the only way out of order. -/
namespace Moqtail.Ts

open Lib

namespace SimpleLock

variable {l : SimpleLock} {w : Waiter}

/-- Whoever has asked for the lock and has not gone on. -/
def waiting (l : SimpleLock) : List Waiter := l.resolved ++ l.contQueue

/-- One has the lock, to whom it is resolved or who `holds` it, or it is free and nobody waits. -/
structure Exclusive (l : SimpleLock) (holds : Bool) : Prop where
  taken : l.acquiredLock = true → l.resolved.length + holds.toNat = 1
  unused : l.acquiredLock = false → l.waiting = [] ∧ holds = false

theorem Exclusive.free : free.Exclusive false :=
  ⟨fun hlock => Bool.noConfusion hlock, fun _ => ⟨rfl, rfl⟩⟩

theorem Exclusive.acquire {holds : Bool} (h : l.Exclusive holds) (w : Waiter) :
    (l.acquire w).Exclusive holds := by
  unfold SimpleLock.acquire
  cases hlock : l.acquiredLock with
  | true =>
    rw [if_pos rfl]
    exact ⟨fun _ => h.taken hlock, fun hfree => Bool.noConfusion hfree⟩
  | false =>
    have hunused := h.unused hlock
    have hresolved : l.resolved = [] := (List.append_eq_nil_iff.mp hunused.1).1
    rw [if_neg Bool.false_ne_true]
    refine ⟨fun _ => ?_, fun hfree => Bool.noConfusion hfree⟩
    simp [hresolved, hunused.2]

theorem Exclusive.waiting_acquire {holds : Bool} (h : l.Exclusive holds) (w : Waiter) :
    (l.acquire w).waiting = l.waiting ++ [w] := by
  unfold SimpleLock.acquire
  cases hlock : l.acquiredLock with
  | true => simp [waiting]
  | false =>
    have hqueue : l.contQueue = [] := (List.append_eq_nil_iff.mp (h.unused hlock).1).2
    simp [waiting, hqueue]

theorem Exclusive.release (h : l.Exclusive true) : l.release.Exclusive false := by
  have hlock : l.acquiredLock = true := by
    rw [← Bool.not_eq_false]
    intro hfree
    exact Bool.noConfusion (h.unused hfree).2
  have hresolved : l.resolved = [] := by
    have hlength := h.taken hlock
    simpa using hlength
  unfold SimpleLock.release
  split
  · next hqueue =>
    refine ⟨fun hfree => Bool.noConfusion hfree, fun _ => ⟨?_, rfl⟩⟩
    simp [waiting, hresolved, hqueue]
  · refine ⟨fun _ => by simp [hresolved], fun hfree => ?_⟩
    rw [hlock] at hfree
    contradiction

theorem count_acquire (l : SimpleLock) (w w' : Waiter) :
    (l.acquire w).waiting.count w' = l.waiting.count w' + [w].count w' := by
  unfold SimpleLock.acquire
  split
  · simp [waiting, Nat.add_assoc]
  · simp [waiting, List.count_cons, Nat.add_assoc]

theorem count_ask (l : SimpleLock) :
    (l.acquire .listener).waiting.count .cleanUp = l.waiting.count .cleanUp :=
  l.count_acquire _ _

theorem waiting_release (l : SimpleLock) : l.release.waiting = l.waiting := by
  unfold SimpleLock.release
  split
  · rfl
  · next hqueue => simp [waiting, hqueue]

theorem Exclusive.resolved_eq {holds : Bool} (h : l.Exclusive holds) (hw : w ∈ l.resolved) :
    l.acquiredLock = true ∧ l.resolved = [w] ∧ holds = false := by
  have hpos := List.length_pos_of_mem hw
  have hlock : l.acquiredLock = true := by
    rw [← Bool.not_eq_false]
    intro hfree
    have hresolved := (List.append_eq_nil_iff.mp (h.unused hfree).1).1
    rw [hresolved] at hw
    exact absurd hw List.not_mem_nil
  have hone := h.taken hlock
  have hlength : l.resolved.length = 1 := by omega
  obtain ⟨w', hw'⟩ := List.length_eq_one_iff.mp hlength
  rw [hw', List.mem_singleton] at hw
  subst hw
  cases holds with
  | true => simp [hlength] at hone
  | false => exact ⟨hlock, hw', rfl⟩

theorem Exclusive.resolved_acquire {holds : Bool} (h : l.Exclusive holds) (w w' : Waiter)
    (hresolved : l.resolved = [w]) : (l.acquire w').resolved = [w] := by
  have htaken := (h.resolved_eq (hresolved ▸ List.mem_singleton_self w)).1
  rw [SimpleLock.acquire, if_pos htaken]
  exact hresolved

theorem Exclusive.goOn {holds : Bool} (h : l.Exclusive holds) (hw : w ∈ l.resolved) :
    (l.goOn w).Exclusive true := by
  obtain ⟨hlock, hresolved, -⟩ := h.resolved_eq hw
  refine ⟨fun _ => by simp [SimpleLock.goOn, hresolved], fun hfree => ?_⟩
  rw [SimpleLock.goOn, hlock] at hfree
  contradiction

theorem waiting_goOn (hw : w ∈ l.resolved) : (l.goOn w).waiting = l.waiting.erase w :=
  (List.erase_append_left _ hw).symm

theorem count_goOn_listener (h : .listener ∈ l.resolved) :
    (l.goOn .listener).waiting.count .cleanUp = l.waiting.count .cleanUp := by
  rw [waiting_goOn h, List.count_erase_of_ne (by decide)]

theorem count_goOn_cleanUp (h : .cleanUp ∈ l.resolved) :
    (l.goOn .cleanUp).waiting.count .cleanUp < l.waiting.count .cleanUp := by
  have hcount : 0 < l.waiting.count .cleanUp :=
    List.count_pos_iff.mpr (List.mem_append_left _ h)
  rw [waiting_goOn h, List.count_erase_self]
  exact Nat.sub_lt hcount Nat.one_pos

end SimpleLock

namespace CallStage

/-- The call has the lock. -/
def holds : CallStage → Bool
  | creating _ => true
  | heading _ _ => true
  | writing _ _ => true
  | closing _ _ _ => true
  | _ => false

/-- The call has asked for the lock. -/
def waits : CallStage → Bool
  | opening _ => true
  | sending _ _ => true
  | leaving _ _ => true
  | noting _ => true
  | _ => false

/-- How many steps the call has yet to take at most. -/
def ahead : CallStage → Nat
  | idle => 0
  | noted => 1
  | noting _ => 2
  | left _ => 3
  | closing _ _ _ => 4
  | leaving _ _ => 5
  | written _ => 6
  | writing _ _ => 7
  | sending _ _ => 8
  | opened _ => 9
  | heading _ _ => 10
  | creating _ => 11
  | opening _ => 12

end CallStage

/-- The lock in agreement with a call that holds it or waits for it. Only a publication that is
completed is cleaned up. -/
structure Orderly (l : SimpleLock) (holds waits completed : Bool) : Prop where
  lock : l.Exclusive holds
  listener : l.waiting.count .listener = waits.toNat
  cleanUp : .cleanUp ∈ l.waiting → completed = true

namespace Orderly

variable {l : SimpleLock} {holds waits completed : Bool}

theorem ask (h : Orderly l holds false completed) :
    Orderly (l.acquire .listener) holds true completed := by
  refine ⟨h.lock.acquire _, ?_, ?_⟩
  · simp [h.lock.waiting_acquire, h.listener]
  · rw [h.lock.waiting_acquire]
    simpa using h.cleanUp

theorem cancel (h : Orderly l holds waits completed) :
    Orderly (l.acquire .cleanUp) holds waits true := by
  refine ⟨h.lock.acquire _, ?_, fun _ => rfl⟩
  simp [h.lock.waiting_acquire, h.listener]

theorem release (h : Orderly l true waits completed) : Orderly l.release false waits completed := by
  refine ⟨h.lock.release, ?_, ?_⟩
  · rw [l.waiting_release, h.listener]
  · rw [l.waiting_release]
    exact h.cleanUp

theorem resume (h : Orderly l holds waits completed) (hmem : .listener ∈ l.resolved) :
    Orderly (l.goOn .listener) true false completed := by
  have hcount : 0 < l.waiting.count .listener :=
    List.count_pos_iff.mpr (List.mem_append_left _ hmem)
  refine ⟨h.lock.goOn hmem, ?_, ?_⟩
  · rw [SimpleLock.waiting_goOn hmem, List.count_erase_self]
    have hlistener := h.listener
    cases waits <;> simp_all
  · rw [SimpleLock.waiting_goOn hmem]
    exact fun hclean => h.cleanUp (List.mem_of_mem_erase hclean)

theorem sweep (h : Orderly l holds waits completed) (hmem : .cleanUp ∈ l.resolved) :
    Orderly (l.goOn .cleanUp) true waits completed := by
  refine ⟨h.lock.goOn hmem, ?_, ?_⟩
  · rw [SimpleLock.waiting_goOn hmem, List.count_erase_of_ne (by decide)]
    exact h.listener
  · rw [SimpleLock.waiting_goOn hmem]
    exact fun hclean => h.cleanUp (List.mem_of_mem_erase hclean)

/-- Between two waits of a call nobody has the lock, unless there is something to clean up. -/
theorem eq_free (h : Orderly l false false false) : l = .free := by
  have hwaiting : l.waiting = [] := by
    apply List.eq_nil_iff_forall_not_mem.mpr
    intro w hw
    cases w with
    | listener => exact absurd hw (List.count_eq_zero.mp h.listener)
    | cleanUp => exact Bool.noConfusion (h.cleanUp hw)
  have hlists := List.append_eq_nil_iff.mp hwaiting
  have hlock : l.acquiredLock = false := by
    rw [← Bool.not_eq_true]
    intro htaken
    have hone := h.lock.taken htaken
    simp [hlists.1] at hone
  cases l
  simp_all [SimpleLock.free]

theorem mem_ask (h : Orderly l holds waits completed) :
    .cleanUp ∈ (l.acquire .listener).waiting ↔ .cleanUp ∈ l.waiting := by
  simp [h.lock.waiting_acquire]

end Orderly

theorem SimpleLock.mem_goOn {l : SimpleLock} (h : .listener ∈ l.resolved) :
    .cleanUp ∈ (l.goOn .listener).waiting ↔ .cleanUp ∈ l.waiting := by
  rw [waiting_goOn h]
  exact List.mem_erase_of_ne (by decide)

namespace Publishing

variable {s s' : Publishing} {a : PublishAction}

def Regular (s : Publishing) : Prop :=
  Orderly s.lock s.call.holds s.call.waits s.isCompleted

/-- The call has left with the lock taken: nobody is left to release it. -/
structure Stuck (s : Publishing) : Prop where
  taken : s.lock.acquiredLock = true
  resolved : s.lock.resolved = []
  call : s.call = .idle
  completed : s.isCompleted = true

theorem stuck_fail (h : s.lock.Exclusive true) : s.fail.Stuck := by
  have hlock : s.lock.acquiredLock = true := by
    rw [← Bool.not_eq_false]
    intro hfree
    exact Bool.noConfusion (h.unused hfree).2
  have hresolved : s.lock.resolved = [] := by simpa using h.taken hlock
  refine ⟨?_, ?_, rfl, rfl⟩
  · simp [fail, cancel, SimpleLock.acquire, hlock]
  · simp [fail, cancel, SimpleLock.acquire, hlock, hresolved]

theorem Stuck.step (h : s.Stuck) (hstep : s.step a = some s') : s'.Stuck := by
  have hresolved := h.resolved
  have hidle := h.call
  cases step_cases hstep with
  | inl htransition =>
    cases htransition with
    | produces obj => exact ⟨h.taken, h.resolved, h.call, h.completed⟩
    | skips obj rest passes => exact ⟨h.taken, h.resolved, h.call, h.completed⟩
    | cancels =>
      refine ⟨?_, ?_, h.call, rfl⟩
      · simp [cancel, SimpleLock.acquire, h.taken]
      · simp [cancel, SimpleLock.acquire, h.taken, hresolved]
    | _ => simp_all [h.completed]
  | inr hfailing =>
    obtain ⟨t, hfailing, -⟩ := hfailing
    cases hfailing <;> simp_all

theorem Regular.at (h : s.Regular) {call : CallStage} (hcall : s.call = call) :
    Orderly s.lock call.holds call.waits s.isCompleted :=
  hcall ▸ h

/-- A step in which nothing fails keeps the lock in order. -/
theorem Transition.regular (htransition : Transition s a s') (h : s.Regular) : s'.Regular := by
  cases htransition with
  | produces obj => exact h
  | skips obj rest passes => exact h
  | sends obj rest hcall => exact (h.at hcall).ask
  | opens obj rest hcall => exact (h.at hcall).ask
  | finds obj hmem hcall => exact (h.resume hmem).release
  | creates obj hmem hcall => exact h.resume hmem
  | writes obj stream hmem hcall => exact h.resume hmem
  | closes obj group stream hmem hcall => exact h.resume hmem
  | passesBy obj group hmem hcall => exact (h.resume hmem).release
  | notes obj hmem hcall => exact (h.resume hmem).release
  | created obj hcall =>
    have hregular := h.at hcall
    exact hregular
  | headed obj stream hcall => exact (h.at hcall).release
  | wrote obj stream hcall => exact (h.at hcall).release
  | closed obj group stream ok hcall => exact (h.at hcall).release
  | goesOnToSend obj hcall => exact (h.at hcall).ask
  | goesOnToLeave obj latest hcall => exact (h.at hcall).ask
  | goesOnToNote obj hcall => exact (h.at hcall).ask
  | notesNext obj hcall => exact (h.at hcall).ask
  | ends hcall =>
    have hregular := h.at hcall
    exact hregular
  | cancels => exact Orderly.cancel h
  | sweeps failing hmem =>
    have hswept := (Orderly.sweep h hmem).release
    rw [← (h.lock.resolved_eq hmem).2.2] at hswept
    exact hswept

/-- A call fails with the lock in its hand. -/
theorem Failing.stuck {t : Publishing} (hfailing : Failing s a t) (h : s.Regular) :
    t.fail.Stuck := by
  cases hfailing with
  | sends obj hmem hcall => exact stuck_fail (h.resume hmem).lock
  | created obj hcall => exact stuck_fail (h.at hcall).lock
  | headed obj stream hcall => exact stuck_fail (s := s.endStream stream .lost) (h.at hcall).lock
  | wrote obj stream ok hcall => exact stuck_fail (s := s.endStream stream .lost) (h.at hcall).lock

/-! When nothing is left to be done. -/

theorem resume_ne_none (h : s.call.waits = true) : s.resume ≠ none := by
  unfold resume
  split
  · split <;> simp
  · simp
  · simp
  · split <;> simp
  · simp
  · next hopening hsome hnone hleaving hnoting =>
    cases hcall : s.call <;> simp_all [CallStage.waits]
    next stream => cases stream <;> simp_all

/-- In order, a publication with nothing left to be done is between two calls, with its lock
free. -/
theorem Regular.of_quiescent (h : s.Regular) (hquiet : s.Quiescent) :
    s.lock = .free ∧ s.call = .idle := by
  have hresolved : s.lock.resolved = [] := by
    apply List.eq_nil_iff_forall_not_mem.mpr
    intro w hw
    cases w with
    | listener =>
      have hwaits : s.call.waits = true := by
        have hcount : 0 < s.lock.waiting.count .listener :=
          List.count_pos_iff.mpr (List.mem_append_left _ hw)
        rw [h.listener] at hcount
        cases hwaits : s.call.waits <;> simp_all
      have hnone := hquiet .resume rfl
      simp only [Publishing.step, if_pos hw] at hnone
      apply absurd hnone
      apply resume_ne_none
      exact hwaits
    | cleanUp => simpa [Publishing.step, hw] using hquiet (.cleanUp []) rfl
  have hholds : s.call.holds = false := by
    cases hcall : s.call with
    | creating obj => simpa [Publishing.step, created, hcall] using hquiet (.created true) rfl
    | heading obj stream => simpa [Publishing.step, headed, hcall] using hquiet (.headed true) rfl
    | writing obj stream =>
      have hnone := hquiet (.wrote true) rfl
      simp only [Publishing.step, wrote, hcall] at hnone
      split at hnone <;> contradiction
    | closing obj group stream =>
      simpa [Publishing.step, closedPrevious, hcall] using hquiet (.closedPrevious true) rfl
    | _ => rfl
  have hlock : s.lock.acquiredLock = false := by
    rw [← Bool.not_eq_true]
    intro htaken
    have hone := h.lock.taken htaken
    simp [hresolved, hholds] at hone
  have hwaiting := (h.lock.unused hlock).1
  have hqueue : s.lock.contQueue = [] := (List.append_eq_nil_iff.mp hwaiting).2
  constructor
  · cases hs : s.lock with
    | mk acquiredLock contQueue resolved => simp_all [SimpleLock.free]
  · have hwaits : s.call.waits = false := by
      have hcount := h.listener
      rw [hwaiting] at hcount
      cases hwaits : s.call.waits <;> simp_all
    have hgoOn := hquiet .goOn rfl
    cases hcall : s.call with
    | idle => rfl
    | written obj =>
      simp only [Publishing.step, goOn, hcall] at hgoOn
      split at hgoOn <;> contradiction
    | _ => simp_all [CallStage.waits, CallStage.holds, Publishing.step, goOn]

/-! What is waited for. -/

/-- How many steps are waited for at most: those of the calls, and what every `cancel` left. A call
that fails leaves one more, in place of at least two of its own. -/
def work (s : Publishing) : Nat :=
  13 * s.queue.length + s.call.ahead + s.lock.waiting.count .cleanUp

/-- A call that fails asks for one step, in place of those it had yet to take. -/
theorem work_fail_lt (hahead : 1 < s.call.ahead) : s.fail.work < s.work := by
  have hasked : s.fail.lock.waiting.count .cleanUp = s.lock.waiting.count .cleanUp + 1 :=
    s.lock.count_acquire _ _
  have hidle : s.fail.call.ahead = 0 := rfl
  have hqueue : s.fail.queue = s.queue := rfl
  rw [work, work, hasked, hidle, hqueue]
  omega

theorem Transition.work_lt (htransition : Transition s a s') (hpending : isPending a = true) :
    s'.work < s.work := by
  cases htransition with
  | produces obj => contradiction
  | cancels => contradiction
  | skips obj rest passes hcall hqueue =>
    simp only [work, hcall, hqueue, List.length_cons]
    omega
  | sends obj rest hcall hqueue =>
    simp only [work, send, acquireFor, SimpleLock.count_ask, hcall, hqueue, List.length_cons,
      CallStage.ahead]
    omega
  | opens obj rest hcall hqueue =>
    simp only [work, acquireFor, SimpleLock.count_ask, hcall, hqueue, List.length_cons,
      CallStage.ahead]
    omega
  | finds obj hmem hcall | creates obj hmem hcall | writes obj stream hmem hcall
  | closes obj group stream hmem hcall | passesBy obj group hmem hcall | notes obj hmem hcall =>
    simp [work, releaseTo, SimpleLock.waiting_release, SimpleLock.count_goOn_listener hmem, hcall,
      CallStage.ahead]
  | created obj hcall | headed obj stream hcall | wrote obj stream hcall
  | closed obj group stream ok hcall | ends hcall =>
    simp [work, releaseTo, endStream, SimpleLock.waiting_release, hcall, CallStage.ahead]
  | goesOnToSend obj hcall | goesOnToLeave obj latest hcall | goesOnToNote obj hcall
  | notesNext obj hcall =>
    simp [work, send, acquireFor, SimpleLock.count_ask, hcall, CallStage.ahead]
  | sweeps failing hmem =>
    have hless := SimpleLock.count_goOn_cleanUp hmem
    simpa [work, closeAll, SimpleLock.waiting_release] using hless

theorem Failing.work_lt {t : Publishing} (hfailing : Failing s a t) : t.fail.work < s.work := by
  cases hfailing with
  | sends obj hmem hcall =>
    have hless : ({ s with lock := s.lock.goOn .listener } : Publishing).fail.work < _ :=
      work_fail_lt (by simp [hcall, CallStage.ahead])
    simpa [work, SimpleLock.count_goOn_listener hmem] using hless
  | created obj hcall => exact work_fail_lt (by simp [hcall, CallStage.ahead])
  | headed obj stream hcall =>
    exact work_fail_lt (s := s.endStream stream .lost) (by simp [endStream, hcall, CallStage.ahead])
  | wrote obj stream ok hcall =>
    exact work_fail_lt (s := s.endStream stream .lost) (by simp [endStream, hcall, CallStage.ahead])

theorem work_lt (hpending : isPending a = true) (hstep : s.step a = some s') :
    s'.work < s.work := by
  cases step_cases hstep with
  | inl htransition => exact htransition.work_lt hpending
  | inr hfailing =>
    obtain ⟨t, hfailing, rfl⟩ := hfailing
    exact hfailing.work_lt

/-- However the steps that are waited for come, there is an end to them. -/
theorem length_le_work {actions : List PublishAction}
    (hpending : ∀ a ∈ actions, isPending a = true)
    (hrun : run Publishing.step s actions = some s') : actions.length ≤ s.work := by
  have hle := run_length_le work (fun _ _ _ ha hstep => work_lt ha hstep) actions s s' hpending hrun
  omega

theorem exists_quiescent (s : Publishing) :
    ∃ actions t, (∀ a ∈ actions, isPending a = true) ∧ run Publishing.step s actions = some t ∧
      t.Quiescent :=
  exists_run_to_end work (fun _ _ _ ha hstep => work_lt ha hstep) s

end Publishing

end Moqtail.Ts
