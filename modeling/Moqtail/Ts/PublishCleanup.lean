import Moqtail.Lib.Entries
import Moqtail.Lib.Run
import Moqtail.Ts.Filters

/-! How the publication of a PUBLISH ends, from `client/publication/publish.ts`,
`util/simple_lock.ts` and `client/track/content_source.ts`.

The calls of the listener are chained, so there is one at a time, and it stops at each `await`. A
step is what runs between two of these; what is awaited (the lock, the transport, or only a turn of
the event loop) and what `cancel` leaves to be run come back in any order. Of an Object its Location
is kept, and of a stream whether it is open. What is written on the streams, and which Objects the
Forward State and the filter let through, are in `Ts.Publication`. -/
namespace Moqtail.Ts

open Lib

/-! The lock. -/

/-- Who asks for the lock: the call of the listener, or what a `cancel` leaves to be run. -/
inductive Waiter where
  | listener
  | cleanUp
deriving Repr, DecidableEq

/-- `resolved` are those whose `acquire` has resolved and who have yet to go on. -/
structure SimpleLock where
  acquiredLock : Bool
  contQueue : List Waiter
  resolved : List Waiter
deriving Repr, DecidableEq

namespace SimpleLock

def free : SimpleLock := ⟨false, [], []⟩

def acquire (l : SimpleLock) (w : Waiter) : SimpleLock :=
  if l.acquiredLock then { l with contQueue := l.contQueue ++ [w] }
  else { l with acquiredLock := true, resolved := l.resolved ++ [w] }

/-- Only who holds the lock releases it. -/
def release (l : SimpleLock) : SimpleLock :=
  match l.contQueue with
  | [] => { l with acquiredLock := false }
  | w :: rest => { l with contQueue := rest, resolved := l.resolved ++ [w] }

def goOn (l : SimpleLock) (w : Waiter) : SimpleLock := { l with resolved := l.resolved.erase w }

end SimpleLock

/-! The publication. -/

/-- A stream is lost when a write or the close of it fails. -/
inductive StreamEnd where
  | isOpen
  | closed
  | lost
deriving Repr, DecidableEq

/-- What the call for an Object waits for. -/
inductive CallStage where
  | idle
  /-- The lock, to open the stream of a group. -/
  | opening (obj : Location)
  /-- `createUnidirectionalStream`. -/
  | creating (obj : Location)
  /-- `SendStream.new` on the stream of that number. -/
  | heading (obj : Location) (stream : Nat)
  /-- The release after it. -/
  | opened (obj : Location)
  /-- The lock, to write on a stream, or on `undefined`. -/
  | sending (obj : Location) (stream : Option Nat)
  /-- The write. -/
  | writing (obj : Location) (stream : Nat)
  /-- The release after it. -/
  | written (obj : Location)
  /-- The lock, to close the stream of the group before. -/
  | leaving (obj : Location) (group : Int)
  /-- The close. -/
  | closing (obj : Location) (group : Int) (stream : Nat)
  /-- The release after it. -/
  | left (obj : Location)
  /-- The lock, to set `latestLocation`. -/
  | noting (obj : Location)
  /-- The release after it. -/
  | noted
deriving Repr, DecidableEq

/-- `streams` are the numbers of the streams by their groups, and `opened` all the streams there
have been. `attached` says that the source still calls the listener, for the Objects in `queue`
next. -/
structure Publishing where
  lock : SimpleLock
  streams : List (Int × Nat)
  opened : List StreamEnd
  latestLocation : Option Location
  isCompleted : Bool
  attached : Bool
  queue : List Location
  call : CallStage
deriving Repr, DecidableEq

/-- `begin` starts the next call, with whether the Forward State and the filter let its Object
through; `goOn` ends the wait for a release. The steps that end another wait say whether what was
awaited succeeded, and `cleanUp` which of the closes fail. -/
inductive PublishAction where
  | produce (obj : Location)
  | begin (passes : Bool)
  | resume
  | created (ok : Bool)
  | headed (ok : Bool)
  | wrote (ok : Bool)
  | closedPrevious (ok : Bool)
  | goOn
  | cancel
  | cleanUp (failing : List Nat)
deriving Repr, DecidableEq

namespace Publishing

def initial : Publishing := ⟨.free, [], [], none, false, true, [], .idle⟩

def acquireFor (s : Publishing) (call : CallStage) : Publishing :=
  { s with lock := s.lock.acquire .listener, call := call }

def releaseTo (s : Publishing) (call : CallStage) : Publishing :=
  { s with lock := s.lock.release, call := call }

def cancel (s : Publishing) : Publishing :=
  { s with lock := s.lock.acquire .cleanUp, isCompleted := true, attached := false }

/-- The `catch`. -/
def fail (s : Publishing) : Publishing := { s.cancel with call := .idle }

/-- How an open stream ends; an ended one stays as it is. -/
def endStream (s : Publishing) (stream : Nat) (how : StreamEnd) : Publishing :=
  { s with opened := s.opened.modify stream fun e => if e = .isOpen then how else e }

def send (s : Publishing) (obj : Location) : Publishing :=
  s.acquireFor (.sending obj (entryOf obj.group s.streams))

def begin (s : Publishing) (obj : Location) (passes : Bool) : Publishing :=
  if s.isCompleted || !passes then s
  else if (entryOf obj.group s.streams).isSome then s.send obj
  else s.acquireFor (.opening obj)

/-- The listener has the lock. -/
def resume (s : Publishing) : Option Publishing :=
  match s.call with
  | .opening obj =>
    if (entryOf obj.group s.streams).isSome then some (s.releaseTo (.opened obj))
    else some { s with call := .creating obj }
  | .sending obj (some stream) => some { s with call := .writing obj stream }
  | .sending _ none => some s.fail
  | .leaving obj group =>
    match entryOf group s.streams with
    | some stream => some { s with call := .closing obj group stream }
    | none => some (s.releaseTo (.left obj))
  | .noting obj => some ({ s with latestLocation := some obj }.releaseTo .noted)
  | _ => none

def created (s : Publishing) (ok : Bool) : Option Publishing :=
  match s.call with
  | .creating obj =>
    if ok then
      some { s with opened := s.opened ++ [.isOpen], call := .heading obj s.opened.length }
    else some s.fail
  | _ => none

def headed (s : Publishing) (ok : Bool) : Option Publishing :=
  match s.call with
  | .heading obj stream =>
    if ok then
      some ({ s with streams := s.streams ++ [(obj.group, stream)] }.releaseTo (.opened obj))
    else some (s.endStream stream .lost).fail
  | _ => none

/-- A write on a stream that has ended fails. -/
def wrote (s : Publishing) (ok : Bool) : Option Publishing :=
  match s.call with
  | .writing obj stream =>
    if ok ∧ s.opened[stream]? = some .isOpen then some (s.releaseTo (.written obj))
    else some (s.endStream stream .lost).fail
  | _ => none

def closedPrevious (s : Publishing) (ok : Bool) : Option Publishing :=
  match s.call with
  | .closing obj group stream =>
    let s := s.endStream stream (if ok then .closed else .lost)
    some ({ s with streams := s.streams.filter fun e => e.1 ≠ group }.releaseTo (.left obj))
  | _ => none

def goOn (s : Publishing) : Option Publishing :=
  match s.call with
  | .opened obj => some (s.send obj)
  | .written obj =>
    match s.latestLocation.filter (·.group ≠ obj.group) with
    | some latest => some (s.acquireFor (.leaving obj latest.group))
    | none => some (s.acquireFor (.noting obj))
  | .left obj => some (s.acquireFor (.noting obj))
  | .noted => some { s with call := .idle }
  | _ => none

/-- The streams in `streams` end; closes that fail are only logged. -/
def closeAll (s : Publishing) (failing : List Nat) : Publishing :=
  { s with
    streams := []
    opened := s.opened.mapIdx fun stream e =>
      if e = .isOpen ∧ stream ∈ s.streams.map Prod.snd then
        if stream ∈ failing then .lost else .closed
      else e }

def step (s : Publishing) : PublishAction → Option Publishing
  | .produce obj => if s.attached then some { s with queue := s.queue ++ [obj] } else none
  | .begin passes =>
    match s.call, s.queue with
    | .idle, obj :: rest => some ({ s with queue := rest }.begin obj passes)
    | _, _ => none
  | .resume =>
    if .listener ∈ s.lock.resolved then { s with lock := s.lock.goOn .listener }.resume else none
  | .created ok => s.created ok
  | .headed ok => s.headed ok
  | .wrote ok => s.wrote ok
  | .closedPrevious ok => s.closedPrevious ok
  | .goOn => s.goOn
  | .cancel => some s.cancel
  | .cleanUp failing =>
    if .cleanUp ∈ s.lock.resolved then
      let s := { s with lock := s.lock.goOn .cleanUp }.closeAll failing
      some { s with lock := s.lock.release }
    else none

/-! What is claimed of an end. -/

/-- The source and `cancel` are not waited for. -/
def isPending : PublishAction → Bool
  | .produce _ => false
  | .cancel => false
  | _ => true

/-- No step that is waited for is left. -/
def Quiescent (s : Publishing) : Prop := ∀ a, isPending a = true → s.step a = none

/-- The lock is free with nobody waiting, and no stream is left open. -/
structure Clean (s : Publishing) : Prop where
  lock : s.lock = .free
  streams : .isOpen ∉ s.opened

/-- A stream for the group of the Object is being opened. -/
def isOpening (s : Publishing) : Bool :=
  match s.call with
  | .opening _ => true
  | .creating _ => true
  | .heading _ _ => true
  | .opened _ => true
  | _ => false

/-- Nothing fails on the way to a write, and `cancel` does not come while a stream is opened. -/
def Smooth (s : Publishing) : PublishAction → Prop
  | .created ok => ok = true
  | .headed ok => ok = true
  | .wrote ok => ok = true
  | .cancel => s.isOpening = false
  | _ => True

/-! What one step does. -/

variable {s s' : Publishing} {a : PublishAction}

/-- The steps in which nothing fails, by what they do. -/
inductive Transition (s : Publishing) : PublishAction → Publishing → Prop
  | produces (obj : Location) (hattached : s.attached = true) :
      Transition s (.produce obj) { s with queue := s.queue ++ [obj] }
  | skips (obj : Location) (rest : List Location) (passes : Bool) (hcall : s.call = .idle)
      (hqueue : s.queue = obj :: rest) (hskips : s.isCompleted = true ∨ passes = false) :
      Transition s (.begin passes) { s with queue := rest }
  | sends (obj : Location) (rest : List Location) (hcall : s.call = .idle)
      (hqueue : s.queue = obj :: rest) (hcompleted : s.isCompleted = false)
      (hsome : (entryOf obj.group s.streams).isSome = true) :
      Transition s (.begin true) ({ s with queue := rest }.send obj)
  | opens (obj : Location) (rest : List Location) (hcall : s.call = .idle)
      (hqueue : s.queue = obj :: rest) (hcompleted : s.isCompleted = false)
      (hnone : entryOf obj.group s.streams = none) :
      Transition s (.begin true) ({ s with queue := rest }.acquireFor (.opening obj))
  | finds (obj : Location) (hmem : .listener ∈ s.lock.resolved) (hcall : s.call = .opening obj)
      (hsome : (entryOf obj.group s.streams).isSome = true) :
      Transition s .resume ({ s with lock := s.lock.goOn .listener }.releaseTo (.opened obj))
  | creates (obj : Location) (hmem : .listener ∈ s.lock.resolved) (hcall : s.call = .opening obj)
      (hnone : entryOf obj.group s.streams = none) :
      Transition s .resume { s with lock := s.lock.goOn .listener, call := .creating obj }
  | writes (obj : Location) (stream : Nat) (hmem : .listener ∈ s.lock.resolved)
      (hcall : s.call = .sending obj (some stream)) :
      Transition s .resume { s with lock := s.lock.goOn .listener, call := .writing obj stream }
  | closes (obj : Location) (group : Int) (stream : Nat) (hmem : .listener ∈ s.lock.resolved)
      (hcall : s.call = .leaving obj group) (hentry : entryOf group s.streams = some stream) :
      Transition s .resume
        { s with lock := s.lock.goOn .listener, call := .closing obj group stream }
  | passesBy (obj : Location) (group : Int) (hmem : .listener ∈ s.lock.resolved)
      (hcall : s.call = .leaving obj group) (hnone : entryOf group s.streams = none) :
      Transition s .resume ({ s with lock := s.lock.goOn .listener }.releaseTo (.left obj))
  | notes (obj : Location) (hmem : .listener ∈ s.lock.resolved) (hcall : s.call = .noting obj) :
      Transition s .resume ({ s with lock := s.lock.goOn .listener, latestLocation := some obj
                              }.releaseTo .noted)
  | created (obj : Location) (hcall : s.call = .creating obj) :
      Transition s (.created true)
        { s with opened := s.opened ++ [.isOpen], call := .heading obj s.opened.length }
  | headed (obj : Location) (stream : Nat) (hcall : s.call = .heading obj stream) :
      Transition s (.headed true)
        ({ s with streams := s.streams ++ [(obj.group, stream)] }.releaseTo (.opened obj))
  | wrote (obj : Location) (stream : Nat) (hcall : s.call = .writing obj stream)
      (hopen : s.opened[stream]? = some .isOpen) :
      Transition s (.wrote true) (s.releaseTo (.written obj))
  | closed (obj : Location) (group : Int) (stream : Nat) (ok : Bool)
      (hcall : s.call = .closing obj group stream) :
      Transition s (.closedPrevious ok)
        ({ s.endStream stream (if ok then .closed else .lost) with
            streams := s.streams.filter fun e => e.1 ≠ group }.releaseTo (.left obj))
  | goesOnToSend (obj : Location) (hcall : s.call = .opened obj) : Transition s .goOn (s.send obj)
  | goesOnToLeave (obj latest : Location) (hcall : s.call = .written obj)
      (hlatest : s.latestLocation = some latest) (hgroup : latest.group ≠ obj.group) :
      Transition s .goOn (s.acquireFor (.leaving obj latest.group))
  | goesOnToNote (obj : Location) (hcall : s.call = .written obj)
      (hlatest : ∀ latest, s.latestLocation = some latest → latest.group = obj.group) :
      Transition s .goOn (s.acquireFor (.noting obj))
  | notesNext (obj : Location) (hcall : s.call = .left obj) :
      Transition s .goOn (s.acquireFor (.noting obj))
  | ends (hcall : s.call = .noted) : Transition s .goOn { s with call := .idle }
  | cancels : Transition s .cancel s.cancel
  | sweeps (failing : List Nat) (hmem : .cleanUp ∈ s.lock.resolved) :
      Transition s (.cleanUp failing)
        { s.closeAll failing with lock := (s.lock.goOn .cleanUp).release }

/-- The steps that fail, with what the `catch` finds. -/
inductive Failing (s : Publishing) : PublishAction → Publishing → Prop
  | sends (obj : Location) (hmem : .listener ∈ s.lock.resolved)
      (hcall : s.call = .sending obj none) :
      Failing s .resume { s with lock := s.lock.goOn .listener }
  | created (obj : Location) (hcall : s.call = .creating obj) : Failing s (.created false) s
  | headed (obj : Location) (stream : Nat) (hcall : s.call = .heading obj stream) :
      Failing s (.headed false) (s.endStream stream .lost)
  | wrote (obj : Location) (stream : Nat) (ok : Bool) (hcall : s.call = .writing obj stream)
      (hfailed : ¬ (ok = true ∧ s.opened[stream]? = some .isOpen)) :
      Failing s (.wrote ok) (s.endStream stream .lost)

theorem begin_cases {passes : Bool} (h : s.step (.begin passes) = some s') :
    Transition s (.begin passes) s' := by
  simp only [step] at h
  split at h
  · next obj rest hcall hqueue =>
    cases h
    unfold begin
    split
    · next hskips => exact .skips obj rest passes hcall hqueue (by simpa using hskips)
    · next hpasses =>
      obtain ⟨hcompleted, rfl⟩ : s.isCompleted = false ∧ passes = true := by simpa using hpasses
      split
      · next hsome => exact .sends obj rest hcall hqueue hcompleted hsome
      · next hnone => exact .opens obj rest hcall hqueue hcompleted (by simpa using hnone)
  · contradiction

theorem resume_cases (h : s.step .resume = some s') :
    Transition s .resume s' ∨ ∃ t, Failing s .resume t ∧ s' = t.fail := by
  simp only [step, Option.ite_none_right_eq_some] at h
  obtain ⟨hmem, h⟩ := h
  unfold resume at h
  dsimp only at h
  split at h
  · next obj hcall =>
    split at h
    · next hsome =>
      cases h
      exact .inl (.finds obj hmem hcall hsome)
    · next hnone =>
      cases h
      exact .inl (.creates obj hmem hcall (by simpa using hnone))
  · next obj stream hcall =>
    cases h
    exact .inl (.writes obj stream hmem hcall)
  · next obj hcall =>
    cases h
    exact .inr ⟨_, .sends obj hmem hcall, rfl⟩
  · next obj group hcall =>
    split at h
    · next stream hentry =>
      cases h
      exact .inl (.closes obj group stream hmem hcall hentry)
    · next hnone =>
      cases h
      exact .inl (.passesBy obj group hmem hcall hnone)
  · next obj hcall =>
    cases h
    exact .inl (.notes obj hmem hcall)
  · contradiction

theorem goOn_cases (h : s.step .goOn = some s') : Transition s .goOn s' := by
  simp only [step, goOn] at h
  split at h
  · next obj hcall =>
    cases h
    exact .goesOnToSend obj hcall
  · next obj hcall =>
    split at h
    · next latest hlatest =>
      cases h
      rw [Option.filter_eq_some_iff, decide_eq_true_eq] at hlatest
      exact .goesOnToLeave obj latest hcall hlatest.1 hlatest.2
    · next hlatest =>
      cases h
      refine .goesOnToNote obj hcall fun latest hsome => ?_
      simpa [hsome, Option.filter] using hlatest
  · next obj hcall =>
    cases h
    exact .notesNext obj hcall
  · next hcall =>
    cases h
    exact .ends hcall
  · contradiction

theorem step_cases (h : s.step a = some s') :
    Transition s a s' ∨ ∃ t, Failing s a t ∧ s' = t.fail := by
  cases a with
  | produce obj =>
    simp only [step, Option.ite_none_right_eq_some, Option.some.injEq] at h
    obtain ⟨hattached, rfl⟩ := h
    exact .inl (.produces obj hattached)
  | begin passes => exact .inl (begin_cases h)
  | resume => exact resume_cases h
  | created ok =>
    simp only [step, created] at h
    split at h
    · next obj hcall =>
      cases ok with
      | true =>
        cases h
        exact .inl (.created obj hcall)
      | false =>
        cases h
        exact .inr ⟨s, .created obj hcall, rfl⟩
    · contradiction
  | headed ok =>
    simp only [step, headed] at h
    split at h
    · next obj stream hcall =>
      cases ok with
      | true =>
        cases h
        exact .inl (.headed obj stream hcall)
      | false =>
        cases h
        exact .inr ⟨_, .headed obj stream hcall, rfl⟩
    · contradiction
  | wrote ok =>
    simp only [step, wrote] at h
    split at h
    · next obj stream hcall =>
      split at h
      · next hwritten =>
        cases h
        rw [hwritten.1]
        exact .inl (.wrote obj stream hcall hwritten.2)
      · next hfailed =>
        cases h
        exact .inr ⟨_, .wrote obj stream ok hcall hfailed, rfl⟩
    · contradiction
  | closedPrevious ok =>
    simp only [step, closedPrevious] at h
    split at h
    · next obj group stream hcall =>
      cases h
      exact .inl (.closed obj group stream ok hcall)
    · contradiction
  | goOn => exact .inl (goOn_cases h)
  | cancel =>
    cases h
    exact .inl .cancels
  | cleanUp failing =>
    simp only [step, Option.ite_none_right_eq_some, Option.some.injEq] at h
    obtain ⟨hmem, rfl⟩ := h
    exact .inl (.sweeps failing hmem)

end Publishing

end Moqtail.Ts
