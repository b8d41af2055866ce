import Moqtail.Ts.PublishLock

/-! When a publication that is over has closed its streams and has its lock free. -/
namespace Moqtail.Ts

open Lib

namespace Publishing

variable {s s' : Publishing} {a : PublishAction}

/-! Streams. -/

/-- The open streams are those in the map, each for one group, and the one in `extra` that has no
header yet. -/
structure Mapped (streams : List (Int × Nat)) (opened : List StreamEnd) (extra : Option Nat) :
    Prop where
  entries : ∀ g i, entryOf g streams = some i → opened[i]? = some .isOpen
  inj : ∀ g g' i, entryOf g streams = some i → entryOf g' streams = some i → g = g'
  covered : ∀ i, opened[i]? = some .isOpen → (∃ g, entryOf g streams = some i) ∨ extra = some i

namespace Mapped

variable {streams : List (Int × Nat)} {opened : List StreamEnd} {g : Int} {i : Nat}

theorem create (h : Mapped streams opened none) :
    Mapped streams (opened ++ [.isOpen]) (some opened.length) := by
  constructor
  · intro g i hentry
    have hopen := h.entries g i hentry
    rw [List.getElem?_append_left (List.getElem?_eq_some_iff.mp hopen).1]
    exact hopen
  · exact h.inj
  · intro i hopen
    by_cases hi : i < opened.length
    · rw [List.getElem?_append_left hi] at hopen
      exact Or.inl ((h.covered i hopen).resolve_right (by simp))
    · have hlt := (List.getElem?_eq_some_iff.mp hopen).1
      rw [List.length_append, List.length_singleton] at hlt
      exact Or.inr (congrArg some (by omega))

theorem add (h : Mapped streams opened (some i)) (hnone : entryOf g streams = none)
    (hopen : opened[i]? = some .isOpen) (hfresh : ∀ g', entryOf g' streams ≠ some i) :
    Mapped (streams ++ [(g, i)]) opened none := by
  have hentry : ∀ g' j, entryOf g' (streams ++ [(g, i)]) = some j ↔
      entryOf g' streams = some j ∨ g' = g ∧ j = i := by
    intro g' j
    rw [entryOf_append]
    by_cases hg : g' = g
    · subst hg
      have hself : entryOf g' [(g', i)] = some i := by simp [entryOf]
      simp [hnone, hself, eq_comm]
    · have hother : entryOf g' [(g, i)] = none := by simp [entryOf, Ne.symm hg]
      simp [hother, hg]
  constructor
  · intro g' j hj
    cases (hentry g' j).mp hj with
    | inl hold => exact h.entries g' j hold
    | inr hnew => rw [hnew.2]; exact hopen
  · intro g₁ g₂ j h₁ h₂
    cases (hentry g₁ j).mp h₁ with
    | inl hold₁ =>
      cases (hentry g₂ j).mp h₂ with
      | inl hold₂ => exact h.inj g₁ g₂ j hold₁ hold₂
      | inr hnew₂ => exact absurd (hnew₂.2 ▸ hold₁) (hfresh g₁)
    | inr hnew₁ =>
      cases (hentry g₂ j).mp h₂ with
      | inl hold₂ => exact absurd (hnew₁.2 ▸ hold₂) (hfresh g₂)
      | inr hnew₂ => rw [hnew₁.1, hnew₂.1]
  · intro j hj
    cases h.covered j hj with
    | inl hmapped =>
      obtain ⟨g', hg'⟩ := hmapped
      exact Or.inl ⟨g', (hentry g' j).mpr (Or.inl hg')⟩
    | inr hextra =>
      cases hextra
      exact Or.inl ⟨g, (hentry g i).mpr (Or.inr ⟨rfl, rfl⟩)⟩

theorem remove {how : StreamEnd} (h : Mapped streams opened none)
    (hentry : entryOf g streams = some i) (hhow : how ≠ .isOpen) :
    Mapped (streams.filter fun e => e.1 ≠ g)
      (opened.modify i fun e => if e = .isOpen then how else e) none := by
  have hfilter : ∀ g' j, entryOf g' (streams.filter fun e => e.1 ≠ g) = some j ↔
      g' ≠ g ∧ entryOf g' streams = some j := by
    intro g' j
    rw [entryOf_filter g' (fun key => decide (key ≠ g))]
    by_cases hg : g' = g <;> simp [hg]
  have hopen : ∀ j, (opened.modify i fun e => if e = .isOpen then how else e)[j]? = some .isOpen ↔
      j ≠ i ∧ opened[j]? = some .isOpen := by
    intro j
    rw [List.getElem?_modify]
    by_cases hj : i = j
    · subst hj
      cases opened[i]? with
      | none => simp
      | some e => cases e <;> simp [hhow]
    · simp [hj, Ne.symm hj]
  constructor
  · intro g' j hj
    rw [hfilter] at hj
    rw [hopen]
    refine ⟨fun hji => hj.1 ?_, h.entries g' j hj.2⟩
    exact h.inj g' g j hj.2 (hji ▸ hentry)
  · intro g₁ g₂ j h₁ h₂
    exact h.inj g₁ g₂ j ((hfilter g₁ j).mp h₁).2 ((hfilter g₂ j).mp h₂).2
  · intro j hj
    rw [hopen] at hj
    obtain ⟨g', hg'⟩ := (h.covered j hj.2).resolve_right (by simp)
    refine Or.inl ⟨g', (hfilter g' j).mpr ⟨?_, hg'⟩⟩
    rintro rfl
    rw [hentry] at hg'
    exact hj.1 (Option.some.inj hg').symm

theorem clear (h : Mapped streams opened none) (failing : List Nat) :
    Mapped [] (opened.mapIdx fun stream e =>
      if e = .isOpen ∧ stream ∈ streams.map Prod.snd then
        if stream ∈ failing then .lost else .closed
      else e) none := by
  refine ⟨fun _ _ hentry => (nomatch hentry), fun _ _ _ hentry => (nomatch hentry), ?_⟩
  intro i hi
  rw [List.getElem?_mapIdx] at hi
  obtain ⟨e, he, hend⟩ := Option.map_eq_some_iff.mp hi
  split at hend
  · split at hend <;> contradiction
  · next hleft =>
    subst hend
    obtain ⟨g, hg⟩ := (h.covered i he).resolve_right (by simp)
    exact absurd ⟨rfl, List.mem_map_of_mem (f := Prod.snd) (mem_of_entryOf hg)⟩ hleft

end Mapped

/-- The stream whose header is being written. -/
def headless : CallStage → Option Nat
  | .heading _ stream => some stream
  | _ => none

/-- What the stage of a call says of the streams. -/
def Fits (s : Publishing) : CallStage → Prop
  | .opening _ => s.lock.resolved = [.listener]
  | .creating obj => entryOf obj.group s.streams = none
  | .heading obj stream => entryOf obj.group s.streams = none ∧
      s.opened[stream]? = some .isOpen ∧ ∀ g, entryOf g s.streams ≠ some stream
  | .opened obj => (entryOf obj.group s.streams).isSome = true
  | .sending _ stream => s.lock.resolved = [.listener] ∧
      ∃ i, stream = some i ∧ s.opened[i]? = some .isOpen
  | .writing _ stream => s.opened[stream]? = some .isOpen
  | .closing _ group stream => entryOf group s.streams = some stream
  | _ => True

/-- A publication that nothing has failed in: it opens streams only before it is completed, and
there is something to clean up only as long as somebody is there to do it. -/
structure Tidy (s : Publishing) : Prop where
  regular : s.Regular
  opening : s.isOpening = true → s.isCompleted = false
  fits : s.Fits s.call
  mapped : Mapped s.streams s.opened (headless s.call)
  swept : s.isCompleted = true → s.streams = [] ∨ .cleanUp ∈ s.lock.waiting

namespace Tidy

variable {call : CallStage}

theorem initial : Publishing.initial.Tidy := by
  refine ⟨⟨SimpleLock.Exclusive.free, rfl, by simp [Publishing.initial, SimpleLock.waiting,
    SimpleLock.free]⟩, fun _ => rfl, trivial, ⟨?_, ?_, ?_⟩, fun h => Bool.noConfusion h⟩
  · intro g i h
    simp [Publishing.initial, entryOf] at h
  · intro g g' i h
    simp [Publishing.initial, entryOf] at h
  · intro i h
    simp [Publishing.initial] at h

theorem fitsAt (h : s.Tidy) (hcall : s.call = call) : s.Fits call := hcall ▸ h.fits

theorem mappedAt {extra : Option Nat} (h : s.Tidy) (hcall : s.call = call)
    (hextra : headless call = extra) : Mapped s.streams s.opened extra :=
  hextra ▸ hcall ▸ h.mapped

theorem not_completed (h : s.Tidy) (hopening : s.isOpening = true) : ¬ s.isCompleted = true := by
  rw [h.opening hopening]
  exact Bool.false_ne_true

/-- The stream is in the map when the call for it asks for the lock, and it gets the lock at
once. -/
theorem send (hregular : Orderly s.lock false false s.isCompleted)
    (hcompleted : s.isCompleted = false) (hmapped : Mapped s.streams s.opened none) {obj : Location}
    (hsome : (entryOf obj.group s.streams).isSome = true) : (s.send obj).Tidy := by
  obtain ⟨i, hi⟩ := Option.isSome_iff_exists.mp hsome
  refine ⟨hregular.ask, fun _ => hcompleted, ⟨?_, i, hi, hmapped.entries _ i hi⟩, hmapped, ?_⟩
  · rw [hcompleted] at hregular
    simp only [Publishing.send, acquireFor, hregular.eq_free]
    rfl
  · intro htrue
    exact Bool.noConfusion (hcompleted.symm.trans htrue)

theorem fits_cancel (h : s.Tidy) : s.cancel.Fits s.call := by
  have hfits := h.fits
  have hresolved := h.regular.lock.resolved_acquire .listener .cleanUp
  cases hcall : s.call with
  | opening obj => exact hresolved (h.fitsAt hcall)
  | sending obj stream =>
    have hsending := h.fitsAt hcall
    exact ⟨hresolved hsending.1, hsending.2⟩
  | _ =>
    rw [hcall] at hfits
    exact hfits

/-- A clean-up is not run while the call has the lock or waits with it resolved. -/
theorem fits_sweep (h : s.Tidy) (hmem : .cleanUp ∈ s.lock.resolved) (failing : List Nat) :
    ({ s.closeAll failing with lock := (s.lock.goOn .cleanUp).release } : Publishing).Fits
      s.call := by
  obtain ⟨-, hresolved, hholds⟩ := h.regular.lock.resolved_eq hmem
  have hcompleted := h.regular.cleanUp (List.mem_append_left _ hmem)
  have hopening : s.isOpening = false := by
    rw [← Bool.not_eq_true]
    exact fun htrue => h.not_completed htrue hcompleted
  have hfits := h.fits
  cases hcall : s.call <;> simp_all [Fits, CallStage.holds, isOpening]

end Tidy

/-- A step in which nothing fails keeps order, unless it completes the publication under a call
that opens a stream. -/
theorem Transition.tidy (htransition : Transition s a s') (h : s.Tidy) (hsmooth : s.Smooth a) :
    s'.Tidy := by
  have hregular := htransition.regular h.regular
  cases htransition with
  | produces obj => exact ⟨hregular, h.opening, h.fits, h.mapped, h.swept⟩
  | skips obj rest passes => exact ⟨hregular, h.opening, h.fits, h.mapped, h.swept⟩
  | sends obj rest hcall hqueue hcompleted hsome =>
    exact .send (s := { s with queue := rest }) (h.regular.at hcall) hcompleted
      (h.mappedAt hcall rfl) hsome
  | opens obj rest hcall hqueue hcompleted hnone =>
    refine ⟨hregular, fun _ => hcompleted, ?_, h.mappedAt hcall rfl, ?_⟩
    · have hfree := h.regular.at hcall
      rw [hcompleted] at hfree
      simp only [Fits, acquireFor]
      rw [hfree.eq_free]
      rfl
    · intro htrue
      exact Bool.noConfusion (hcompleted.symm.trans htrue)
  | finds obj hmem hcall hsome =>
    have hcompleted := h.opening (by simp [isOpening, hcall])
    refine ⟨hregular, fun _ => hcompleted, hsome, h.mappedAt hcall rfl, fun htrue => ?_⟩
    exact Bool.noConfusion (hcompleted.symm.trans htrue)
  | creates obj hmem hcall hnone =>
    have hcompleted := h.opening (by simp [isOpening, hcall])
    refine ⟨hregular, fun _ => hcompleted, hnone, h.mappedAt hcall rfl, fun htrue => ?_⟩
    exact Bool.noConfusion (hcompleted.symm.trans htrue)
  | writes obj stream hmem hcall =>
    obtain ⟨-, i, hi, hopen⟩ := h.fitsAt hcall
    cases hi
    refine ⟨hregular, fun hfalse => Bool.noConfusion hfalse, hopen, h.mappedAt hcall rfl, ?_⟩
    simpa [SimpleLock.mem_goOn hmem] using h.swept
  | closes obj group stream hmem hcall hentry =>
    refine ⟨hregular, fun hfalse => Bool.noConfusion hfalse, hentry, h.mappedAt hcall rfl, ?_⟩
    simpa [SimpleLock.mem_goOn hmem] using h.swept
  | passesBy obj group hmem hcall =>
    refine ⟨hregular, fun hfalse => Bool.noConfusion hfalse, trivial, h.mappedAt hcall rfl, ?_⟩
    simpa [releaseTo, SimpleLock.waiting_release, SimpleLock.mem_goOn hmem] using h.swept
  | notes obj hmem hcall =>
    refine ⟨hregular, fun hfalse => Bool.noConfusion hfalse, trivial, h.mappedAt hcall rfl, ?_⟩
    simpa [releaseTo, SimpleLock.waiting_release, SimpleLock.mem_goOn hmem] using h.swept
  | created obj hcall =>
    have hmapped := h.mappedAt hcall rfl
    have hcompleted := h.opening (by simp [isOpening, hcall])
    refine ⟨hregular, fun _ => hcompleted, ⟨h.fitsAt hcall, by simp, ?_⟩, hmapped.create, h.swept⟩
    intro g hentry
    have hopen := hmapped.entries g _ hentry
    simp at hopen
  | headed obj stream hcall =>
    obtain ⟨hnone, hopen, hfresh⟩ := h.fitsAt hcall
    have hcompleted := h.opening (by simp [isOpening, hcall])
    refine ⟨hregular, fun _ => hcompleted, ?_, (h.mappedAt hcall rfl).add hnone hopen hfresh, ?_⟩
    · simp [Fits, releaseTo, entryOf]
    · intro htrue
      exact Bool.noConfusion (hcompleted.symm.trans htrue)
  | wrote obj stream hcall =>
    refine ⟨hregular, fun hfalse => Bool.noConfusion hfalse, trivial, h.mappedAt hcall rfl, ?_⟩
    simpa [releaseTo, SimpleLock.waiting_release] using h.swept
  | closed obj group stream ok hcall =>
    refine ⟨hregular, fun hfalse => Bool.noConfusion hfalse, trivial,
      (h.mappedAt hcall rfl).remove (h.fitsAt hcall) (by cases ok <;> simp), fun htrue => ?_⟩
    cases h.swept htrue with
    | inl hnil => exact Or.inl (by simp [releaseTo, hnil])
    | inr hclean =>
      exact Or.inr (by simpa [releaseTo, endStream, SimpleLock.waiting_release] using hclean)
  | goesOnToSend obj hcall =>
    have hcompleted := h.opening (by simp [isOpening, hcall])
    exact .send (h.regular.at hcall) hcompleted (h.mappedAt hcall rfl) (h.fitsAt hcall)
  | goesOnToLeave obj latest hcall =>
    refine ⟨hregular, fun hfalse => Bool.noConfusion hfalse, trivial, h.mappedAt hcall rfl, ?_⟩
    simpa [acquireFor, h.regular.mem_ask] using h.swept
  | goesOnToNote obj hcall =>
    refine ⟨hregular, fun hfalse => Bool.noConfusion hfalse, trivial, h.mappedAt hcall rfl, ?_⟩
    simpa [acquireFor, h.regular.mem_ask] using h.swept
  | notesNext obj hcall =>
    refine ⟨hregular, fun hfalse => Bool.noConfusion hfalse, trivial, h.mappedAt hcall rfl, ?_⟩
    simpa [acquireFor, h.regular.mem_ask] using h.swept
  | ends hcall =>
    exact ⟨hregular, fun hfalse => Bool.noConfusion hfalse, trivial, h.mappedAt hcall rfl, h.swept⟩
  | cancels =>
    refine ⟨hregular, ?_, h.fits_cancel, h.mapped, ?_⟩
    · intro htrue
      exact Bool.noConfusion (hsmooth.symm.trans htrue)
    · intro _
      apply Or.inr
      simp [cancel, h.regular.lock.waiting_acquire]
  | sweeps failing hmem =>
    have hcompleted := h.regular.cleanUp (List.mem_append_left _ hmem)
    have hholds := (h.regular.lock.resolved_eq hmem).2.2
    have hextra : headless s.call = none := by
      cases hcall : s.call <;> simp_all [headless, CallStage.holds]
    have hmapped := h.mapped
    rw [hextra] at hmapped
    refine ⟨hregular, ?_, h.fits_sweep hmem failing, ?_, fun _ => Or.inl rfl⟩
    · exact fun htrue => absurd hcompleted (h.not_completed htrue)
    · show Mapped [] _ (headless s.call)
      rw [hextra]
      exact hmapped.clear failing

theorem Failing.not_smooth {t : Publishing} (hfailing : Failing s a t) (h : s.Tidy) :
    ¬ s.Smooth a := by
  intro hsmooth
  cases hfailing with
  | sends obj hmem hcall =>
    obtain ⟨-, i, hi, -⟩ := h.fitsAt hcall
    contradiction
  | created obj hcall => contradiction
  | headed obj stream hcall => contradiction
  | wrote obj stream ok hcall hfailed => exact hfailed ⟨hsmooth, h.fitsAt hcall⟩

theorem Tidy.step (h : s.Tidy) (hsmooth : s.Smooth a) (hstep : s.step a = some s') : s'.Tidy := by
  cases step_cases hstep with
  | inl htransition => exact htransition.tidy h hsmooth
  | inr hfailing =>
    obtain ⟨t, hfailing, -⟩ := hfailing
    exact absurd hsmooth (hfailing.not_smooth h)

theorem Tidy.clean (h : s.Tidy) (hcompleted : s.isCompleted = true) (hquiet : s.Quiescent) :
    s.Clean := by
  obtain ⟨hlock, hcall⟩ := h.regular.of_quiescent hquiet
  have hstreams : s.streams = [] := by
    apply (h.swept hcompleted).resolve_right
    rw [hlock]
    exact List.not_mem_nil
  refine ⟨hlock, fun hmem => ?_⟩
  obtain ⟨i, hi⟩ := List.mem_iff_getElem?.mp hmem
  have hmapped := h.mapped.covered i hi
  rw [hstreams, hcall] at hmapped
  simp [entryOf, headless] at hmapped

/-! A publication that something has failed in. -/

/-- The stream on its way to a write is closed before the write, or there is none. -/
def Fated (s : Publishing) : CallStage → Prop
  | .opening _ => s.lock.resolved = [.listener] ∧ .cleanUp ∈ s.lock.waiting
  | .creating _ => .cleanUp ∈ s.lock.waiting
  | .heading _ _ => .cleanUp ∈ s.lock.waiting
  | .opened _ => .cleanUp ∈ s.lock.waiting ∨ s.streams = []
  | .sending _ stream => ∀ i, stream = some i → s.opened[i]? ≠ some .isOpen ∨
      s.lock.resolved = [.cleanUp] ∧ i ∈ s.streams.map Prod.snd
  | .writing _ stream => s.opened[stream]? ≠ some .isOpen
  | _ => False

structure Doomed (s : Publishing) : Prop where
  regular : s.Regular
  fated : s.Fated s.call

theorem Doomed.fatedAt {call : CallStage} (h : s.Doomed) (hcall : s.call = call) : s.Fated call :=
  hcall ▸ h.fated

/-- What is left to clean up is next, when the call neither has the lock nor waits for it. -/
theorem resolved_of_cleanUp {l : SimpleLock} {completed : Bool}
    (h : Orderly l false false completed) (hmem : .cleanUp ∈ l.waiting) :
    l.resolved = [.cleanUp] := by
  have htaken : l.acquiredLock = true := by
    rw [← Bool.not_eq_false]
    intro hfree
    rw [(h.lock.unused hfree).1] at hmem
    exact absurd hmem List.not_mem_nil
  have hlength : l.resolved.length = 1 := by simpa using h.lock.taken htaken
  obtain ⟨w, hw⟩ := List.length_eq_one_iff.mp hlength
  cases w with
  | cleanUp => exact hw
  | listener =>
    have hcount := h.listener
    simp [SimpleLock.waiting, hw] at hcount

theorem closeAll_ends {failing : List Nat} {i : Nat}
    (h : s.opened[i]? ≠ some .isOpen ∨ i ∈ s.streams.map Prod.snd) :
    (s.closeAll failing).opened[i]? ≠ some .isOpen := by
  intro hopen
  simp only [closeAll, List.getElem?_mapIdx] at hopen
  obtain ⟨e, he, hend⟩ := Option.map_eq_some_iff.mp hopen
  split at hend
  · split at hend <;> contradiction
  · next hleft =>
    subst hend
    exact hleft ⟨rfl, h.resolve_left fun hnot => hnot he⟩

/-- A `cancel` under a call that opens a stream leaves it nothing to write on. -/
theorem fated_cancel (h : s.Regular) (hfated : s.isOpening = true ∨ s.Fated s.call)
    (hresolved : ∀ obj, s.call = .opening obj → s.lock.resolved = [.listener]) :
    s.cancel.Fated s.call := by
  have hasked : .cleanUp ∈ s.cancel.lock.waiting := by
    simp [cancel, h.lock.waiting_acquire]
  have hkept : ∀ w, s.lock.resolved = [w] → s.cancel.lock.resolved = [w] :=
    fun w => h.lock.resolved_acquire w .cleanUp
  cases hcall : s.call with
  | opening obj => exact ⟨hkept _ (hresolved obj hcall), hasked⟩
  | creating obj => exact hasked
  | heading obj stream => exact hasked
  | opened obj => exact Or.inl hasked
  | sending obj stream =>
    simp only [isOpening, hcall, Bool.false_eq_true, false_or] at hfated
    exact fun i hi => (hfated i hi).imp_right (And.imp_left (hkept _))
  | _ =>
    simp only [isOpening, hcall, Bool.false_eq_true, false_or] at hfated
    exact hfated

theorem fated_sweep (h : s.Doomed) (hmem : .cleanUp ∈ s.lock.resolved) (failing : List Nat) :
    ({ s.closeAll failing with lock := (s.lock.goOn .cleanUp).release } : Publishing).Fated
      s.call := by
  obtain ⟨-, hresolved, hholds⟩ := h.regular.lock.resolved_eq hmem
  have hfated := h.fated
  cases hcall : s.call with
  | opened obj => exact Or.inr rfl
  | sending obj stream =>
    rw [hcall] at hfated
    exact fun i hi => Or.inl (closeAll_ends ((hfated i hi).imp_right And.right))
  | _ => simp_all [Fated, CallStage.holds]

theorem Transition.doomed (htransition : Transition s a s') (h : s.Doomed) : s'.Doomed := by
  have hregular := htransition.regular h.regular
  refine ⟨hregular, ?_⟩
  cases htransition with
  | produces obj => exact h.fated
  | skips obj rest passes hcall => exact (h.fatedAt hcall).elim
  | sends obj rest hcall => exact (h.fatedAt hcall).elim
  | opens obj rest hcall => exact (h.fatedAt hcall).elim
  | finds obj hmem hcall =>
    apply Or.inl
    rw [releaseTo, SimpleLock.waiting_release, SimpleLock.mem_goOn hmem]
    exact (h.fatedAt hcall).2
  | creates obj hmem hcall => exact (SimpleLock.mem_goOn hmem).mpr (h.fatedAt hcall).2
  | writes obj stream hmem hcall =>
    refine (h.fatedAt hcall stream rfl).resolve_right fun hnext => ?_
    rw [hnext.1] at hmem
    contradiction
  | closes obj group stream hmem hcall => exact (h.fatedAt hcall).elim
  | passesBy obj group hmem hcall => exact (h.fatedAt hcall).elim
  | notes obj hmem hcall => exact (h.fatedAt hcall).elim
  | created obj hcall => exact h.fatedAt hcall
  | headed obj stream hcall =>
    apply Or.inl
    rw [releaseTo, SimpleLock.waiting_release]
    exact h.fatedAt hcall
  | wrote obj stream hcall hopen => exact (h.fatedAt hcall hopen).elim
  | closed obj group stream ok hcall => exact (h.fatedAt hcall).elim
  | goesOnToSend obj hcall =>
    have hasked := h.regular.at hcall
    refine fun i hi => Or.inr ⟨?_, List.mem_map_of_mem (f := Prod.snd) (mem_of_entryOf hi)⟩
    cases h.fatedAt hcall with
    | inl hclean => exact hasked.lock.resolved_acquire _ _ (resolved_of_cleanUp hasked hclean)
    | inr hnil =>
      rw [hnil] at hi
      contradiction
  | goesOnToLeave obj latest hcall => exact (h.fatedAt hcall).elim
  | goesOnToNote obj hcall => exact (h.fatedAt hcall).elim
  | notesNext obj hcall => exact (h.fatedAt hcall).elim
  | ends hcall => exact (h.fatedAt hcall).elim
  | cancels =>
    exact fated_cancel h.regular (Or.inr h.fated) fun obj hcall => (h.fatedAt hcall).1
  | sweeps failing hmem => exact fated_sweep h hmem failing

/-- Something has gone wrong, and what is left of it does not put it right. -/
def Ruined (s : Publishing) : Prop := s.Doomed ∨ s.Stuck

theorem Ruined.step (h : s.Ruined) (hstep : s.step a = some s') : s'.Ruined := by
  cases h with
  | inl hdoomed =>
    cases step_cases hstep with
    | inl htransition => exact Or.inl (htransition.doomed hdoomed)
    | inr hfailing =>
      obtain ⟨t, hfailing, rfl⟩ := hfailing
      exact Or.inr (hfailing.stuck hdoomed.regular)
  | inr hstuck => exact Or.inr (hstuck.step hstep)

theorem Ruined.not_clean (h : s.Ruined) (hquiet : s.Quiescent) : ¬ s.Clean := by
  intro hclean
  cases h with
  | inl hdoomed => exact hdoomed.fatedAt (hdoomed.regular.of_quiescent hquiet).2
  | inr hstuck =>
    have htaken := hstuck.taken
    rw [hclean.lock] at htaken
    contradiction

theorem Tidy.ruined (h : s.Tidy) (hrough : ¬ s.Smooth a) (hstep : s.step a = some s') :
    s'.Ruined := by
  cases step_cases hstep with
  | inl htransition =>
    have hregular := htransition.regular h.regular
    cases htransition with
    | cancels =>
      have hopening : s.isOpening = true := by simpa [Smooth] using hrough
      exact Or.inl ⟨hregular, fated_cancel h.regular (Or.inl hopening) fun _ => h.fitsAt⟩
    | created | headed | wrote => exact absurd rfl hrough
    | _ => exact absurd trivial hrough
  | inr hfailing =>
    obtain ⟨t, hfailing, rfl⟩ := hfailing
    exact Or.inr (hfailing.stuck h.regular)

/-! Runs. -/

theorem run_ruined (actions : List PublishAction) :
    ∀ s t, s.Ruined → run Publishing.step s actions = some t → t.Ruined := by
  intro s t h hrun
  exact run_invariant (P := fun _ _ => True) (fun s a s' hs _ hstep => hs.step hstep) actions s t h
    (Along.of_forall (P := fun _ => True) actions s fun _ _ => trivial) hrun

/-- A run is smooth and ends in order, or is not and ends ruined. -/
theorem tidy_run (actions : List PublishAction) :
    ∀ s t, s.Tidy → run Publishing.step s actions = some t →
      Along Publishing.step Smooth s actions ∧ t.Tidy ∨
        ¬ Along Publishing.step Smooth s actions ∧ t.Ruined := by
  induction actions with
  | nil =>
    intro s t h hrun
    cases Option.some.inj hrun
    exact Or.inl ⟨trivial, h⟩
  | cons a actions ih =>
    intro s t h hrun
    obtain ⟨s', hstep, hrest⟩ := run_cons_eq_some hrun
    by_cases hsmooth : s.Smooth a
    · cases ih s' t (h.step hsmooth hstep) hrest with
      | inl hgood =>
        refine Or.inl ⟨⟨hsmooth, fun s'' hstep' => ?_⟩, hgood.2⟩
        rw [hstep] at hstep'
        cases Option.some.inj hstep'
        exact hgood.1
      | inr hbad => exact Or.inr ⟨fun hall => hbad.1 (hall.2 s' hstep), hbad.2⟩
    · have hruined := run_ruined actions s' t (h.ruined hsmooth hstep) hrest
      exact Or.inr ⟨fun hall => hsmooth hall.1, hruined⟩

/-- Once it is over, a publication has its lock free and its streams closed exactly when nothing has
failed on the way to a write and no `cancel` has come while a stream was opened. However the steps
that are waited for come, there is an end to them, so that it does get over. -/
theorem clean_iff {actions : List PublishAction}
    (hrun : run Publishing.step initial actions = some s) (hcompleted : s.isCompleted = true) :
    (s.Quiescent → (s.Clean ↔ Along Publishing.step Smooth initial actions)) ∧
    (∀ later t, (∀ a ∈ later, isPending a = true) → run Publishing.step s later = some t →
      later.length ≤ s.work) ∧
    ∃ later t, (∀ a ∈ later, isPending a = true) ∧ run Publishing.step s later = some t ∧
      t.Quiescent := by
  refine ⟨?_, fun later t => length_le_work, s.exists_quiescent⟩
  intro hquiet
  cases tidy_run actions initial s Tidy.initial hrun with
  | inl hgood => exact iff_of_true (hgood.2.clean hcompleted hquiet) hgood.1
  | inr hbad => exact iff_of_false (hbad.2.not_clean hquiet) hbad.1

theorem quiescent_of_idle (hcall : s.call = .idle) (hqueue : s.queue = [])
    (hresolved : s.lock.resolved = []) : s.Quiescent := by
  intro a hpending
  cases a with
  | produce obj => contradiction
  | cancel => contradiction
  | _ =>
    simp [Publishing.step, created, headed, wrote, closedPrevious, goOn, hcall, hqueue, hresolved]

/-- An Object is sent and the source ends. -/
def oneObject : List PublishAction :=
  [.produce ⟨0, 0⟩, .begin true, .resume, .created true, .headed true, .goOn, .resume, .wrote true,
    .goOn, .resume, .goOn, .cancel, .cleanUp []]

theorem clean_iff_oneObject :
    (⟨.free, [], [.closed], some ⟨0, 0⟩, true, false, [], .idle⟩ : Publishing).Clean ↔
      Along Publishing.step Smooth initial oneObject :=
  (clean_iff (by decide) rfl).1 (quiescent_of_idle rfl rfl rfl)

/-- The first stream cannot be opened: the call leaves with the lock, and what its `cancel` leaves
to be run waits for it for ever. -/
theorem failedOpen_not_clean :
    ¬ ∀ (actions : List PublishAction) (s : Publishing),
      run Publishing.step initial actions = some s → s.isCompleted = true → s.Quiescent →
        s.Clean := by
  intro h
  have hclean := h [.produce ⟨0, 0⟩, .begin true, .resume, .created false]
    ⟨⟨true, [.cleanUp], []⟩, [], [], none, true, false, [], .idle⟩ (by decide) rfl
    (quiescent_of_idle rfl rfl rfl)
  exact absurd hclean.lock (by decide)

end Publishing

end Moqtail.Ts
