import Moqtail.Relay.FetchAbsences

/-! The groups that a FETCH walks over. A pass of the loop waits for the fill of another FETCH, or
disposes of the next groups of the range: it serves one from the cache, or has a gap filled or left
out. -/
namespace Moqtail

open Lib

/-- The groups `lo..=hi`, in the order of delivery. -/
def groupsIn (descending : Bool) (lo hi : UInt64) : List Nat :=
  if descending then (List.Ico lo.toNat (hi.toNat + 1)).reverse
  else List.Ico lo.toNat (hi.toNat + 1)

theorem mem_groupsIn {descending : Bool} {lo hi : UInt64} {g : Nat} :
    g ∈ groupsIn descending lo hi ↔ lo.toNat ≤ g ∧ g ≤ hi.toNat := by
  unfold groupsIn
  split
  · rw [List.mem_reverse, List.Ico.mem, Nat.lt_succ_iff]
  · rw [List.Ico.mem, Nat.lt_succ_iff]

theorem length_groupsIn (descending : Bool) (lo hi : UInt64) :
    (groupsIn descending lo hi).length = hi.toNat + 1 - lo.toNat := by
  unfold groupsIn
  split <;> simp

theorem nodup_groupsIn (descending : Bool) (lo hi : UInt64) : (groupsIn descending lo hi).Nodup := by
  unfold groupsIn
  split
  · exact List.nodup_reverse.mpr (List.Ico.nodup _ _)
  · exact List.Ico.nodup _ _

/-- The part asked for of some groups is what the range has of them. -/
theorem requestedPart_iff {first last : UInt64} {start end_ l : Location} :
    (requestedPart first last start end_).1 ≤ l ∧ l ≤ (requestedPart first last start end_).2 ↔
      (first.toNat ≤ l.group.toNat ∧ l.group.toNat ≤ last.toNat) ∧ start ≤ l ∧ l ≤ end_ := by
  unfold requestedPart
  simp only [Location.max_le_iff, Location.le_min_iff, ResponseAbsences.first_le_iff,
    ResponseAbsences.le_last_iff]
  exact and_and_and_comm

namespace FetchDelivery

variable {d : FetchDelivery} {group lo hi : UInt64}

/-- The groups of the range from one on. -/
def groupsFrom (d : FetchDelivery) (group : UInt64) : List Nat :=
  if d.descending then groupsIn true d.start.group group
  else groupsIn false group d.endLocation.group

/-- What is left for a walk. -/
def left (d : FetchDelivery) : Walk → List Nat
  | .serving group => d.groupsFrom group
  | .ended => []
  | .failed => []

/-- A gap and what comes after it are what came from its first group on. -/
theorem groupsFrom_gap (hgap : d.IsGap group lo hi) :
    d.groupsFrom group = groupsIn d.descending lo hi ++ d.left (d.nextAfter lo hi) := by
  have hordered := hgap.ordered
  have hstart := hgap.start
  have hend := hgap.end_
  have hfirst := hgap.first
  have hbound := d.endLocation.group.toNat_lt
  unfold groupsFrom nextAfter
  cases hdesc : d.descending with
  | true =>
    simp only [hdesc, if_true] at hfirst ⊢
    subst hfirst
    have hsplit : List.Ico d.start.group.toNat (hi.toNat + 1) =
        List.Ico d.start.group.toNat lo.toNat ++ List.Ico lo.toNat (hi.toNat + 1) :=
      (List.Ico.append_consecutive hstart (by omega)).symm
    simp only [groupsIn, if_true]
    rw [hsplit, List.reverse_append]
    refine congrArg _ ?_
    split
    · next hlt =>
      rw [gt_iff_lt, UInt64.lt_iff_toNat_lt] at hlt
      have hprev : (lo - 1).toNat + 1 = lo.toNat := by
        have hpred := FetchState.toNat_sub_one (v := lo) (by omega)
        omega
      simp only [left, groupsFrom, hdesc, if_true, groupsIn, hprev]
    · next hle =>
      rw [gt_iff_lt, UInt64.lt_iff_toNat_lt] at hle
      simp only [left]
      rw [List.Ico.eq_nil_of_le (by omega), List.reverse_nil]
  | false =>
    simp only [hdesc, Bool.false_eq_true, if_false] at hfirst ⊢
    subst hfirst
    have hsplit : List.Ico lo.toNat (d.endLocation.group.toNat + 1) =
        List.Ico lo.toNat (hi.toNat + 1) ++
          List.Ico (hi.toNat + 1) (d.endLocation.group.toNat + 1) :=
      (List.Ico.append_consecutive (by omega) (by omega)).symm
    simp only [groupsIn, Bool.false_eq_true, if_false]
    rw [hsplit]
    refine congrArg _ ?_
    split
    · next hlt =>
      have hnext : (hi + 1).toNat = hi.toNat + 1 := CachedGroup.toNat_add_one hlt
      simp only [left, groupsFrom, hdesc, Bool.false_eq_true, if_false, groupsIn, hnext]
    · next hle =>
      rw [UInt64.lt_iff_toNat_lt] at hle
      simp only [left]
      rw [List.Ico.eq_nil_of_le (by omega)]

end FetchDelivery

/-! Passes. -/

/-- What a pass of the loop comes to. `asked` is the part asked upstream for. -/
inductive Pass where
  | stopped
  | waited (group : UInt64)
  | disposed (lo hi : UInt64) (asked : Option Span)
deriving DecidableEq

namespace Pass

/-- The groups that a pass disposes of. -/
def groups (descending : Bool) : Pass → List Nat
  | .disposed lo hi _ => groupsIn descending lo hi
  | _ => []

def waitedFor : Pass → Option UInt64
  | .waited group => some group
  | _ => none

def asked : Pass → Option Span
  | .disposed _ _ asked => asked
  | _ => none

end Pass

namespace FetchState

variable {d : FetchDelivery} {s s' : FetchState} {group lo hi : UInt64} {it : Iteration}

/-- The pass that a step makes which has asked upstream for `asked`. -/
def passAt (d : FetchDelivery) (s : FetchState) (group : UInt64) (it : Iteration)
    (asked : Option Span) : Pass :=
  if s.stopSeen it ≠ .running then .stopped
  else
    match lookUp d s group it with
    | some _ => .disposed group group asked
    | none =>
      let (gapStart, gapEnd) := gap d group it
      if !s.pendingUpstream && !it.claimed && s.lastWaitedGroup ≠ some group then .waited group
      else if s.upstreamGapCount ≥ d.maxUpstreamFetchGaps then .disposed gapStart gapEnd asked
      else if s.pendingUpstream then .disposed d.start.group d.endLocation.group asked
      else .disposed gapStart gapEnd asked

/-- The passes of a run, each with what its step adds to what was asked for. -/
def passes (d : FetchDelivery) : FetchState → List Iteration → List Pass
  | _, [] => []
  | s, it :: its =>
    match s.walk, step d s it with
    | .serving group, some s' => passAt d s group it s'.asked[s.asked.length]? :: passes d s' its
    | _, _ => []

/-- The walk is within the range, and a fetch that is pending is used at the first group if it is
used at all. -/
structure Walking (d : FetchDelivery) (s : FetchState) : Prop where
  bounds : ∀ group, s.walk = .serving group →
    d.start.group.toNat ≤ group.toNat ∧ group.toNat ≤ d.endLocation.group.toNat
  pending : s.pendingUpstream = true → s.upstreamGapCount = 0 ∧
    (d.maxUpstreamFetchGaps = 0 ∨ ∀ group, s.walk = .serving group →
      group = if d.descending then d.endLocation.group else d.start.group)

/-- A pass that is done with the groups `lo..=hi` leaves the walk behind them, unless it stops or a
write fails. -/
def Past (d : FetchDelivery) (lo hi : UInt64) (s' : FetchState) : Prop :=
  s'.walk = .failed ∨ s'.walk = d.nextAfter lo hi ∨ (s'.walk = .ended ∧ s'.stopReason ≠ .running)

theorem writeThen_past (s : FetchState) (entries : List FetchObject) (writeFails : Option Nat)
    (lo hi : UInt64) :
    Past d lo hi (s.writeThen entries writeFails (d.nextAfter lo hi)) ∧
      (s.writeThen entries writeFails (d.nextAfter lo hi)).pendingUpstream = s.pendingUpstream ∧
      (s.writeThen entries writeFails (d.nextAfter lo hi)).upstreamGapCount = s.upstreamGapCount := by
  rcases s.writeThen_cases entries writeFails (d.nextAfter lo hi) with ⟨hfailed, hp, hc⟩ | heq
  · exact ⟨Or.inl hfailed, hp, hc⟩
  · rw [heq]
    exact ⟨Or.inr (Or.inl rfl), rfl, rfl⟩

theorem fillGap_past (s : FetchState) (gapStart gapEnd : UInt64) (start end_ : Location)
    (events : List FillEvent) (it : Iteration) :
    Past d gapStart gapEnd (fillGap d s gapStart gapEnd start end_ events it) ∧
      (fillGap d s gapStart gapEnd start end_ events it).pendingUpstream = s.pendingUpstream := by
  unfold fillGap
  simp only
  generalize Fill.loop d.filter events (.new (.new start end_ d.groupOrder) s.stopReason) = fill
  generalize hstop : (if it.stopAtEnd ≠ .running then it.stopAtEnd else fill.stopReason) = stopReason
  by_cases hrun : stopReason = .running
  · rw [if_neg (not_not.mpr hrun)]
    have hpast := (s.noteResponse fill (ResponseAbsences.new start end_ d.groupOrder).start end_
      stopReason).writeThen_past (d := d) (fillEntries d fill gapStart gapEnd stopReason)
      it.writeFails gapStart gapEnd
    exact ⟨hpast.1, hpast.2.1⟩
  · rw [if_pos hrun]
    rcases (s.noteResponse fill (ResponseAbsences.new start end_ d.groupOrder).start end_
      stopReason).writeThen_cases (fillEntries d fill gapStart gapEnd stopReason) it.writeFails
      .ended with ⟨hfailed, hp, _⟩ | heq
    · exact ⟨Or.inl hfailed, hp⟩
    · rw [heq]
      exact ⟨Or.inr (Or.inr ⟨rfl, hrun⟩), rfl⟩

@[simp] theorem writeThen_asked (s : FetchState) (entries : List FetchObject)
    (writeFails : Option Nat) (walk : Walk) :
    (s.writeThen entries writeFails walk).asked = s.asked := by
  unfold writeThen
  split <;> rfl

@[simp] theorem fillGap_asked (s : FetchState) (gapStart gapEnd : UInt64) (start end_ : Location)
    (events : List FillEvent) (it : Iteration) :
    (fillGap d s gapStart gapEnd start end_ events it).asked = s.asked :=
  writeThen_asked ..

/-- A response to a part that was asked for. -/
def Response.IsTo (d : FetchDelivery) (r : Response) (part : Span) : Prop :=
  r.start = deliveredStart part.1 part.2 d.groupOrder ∧ r.end_ = part.2

/-- What a pass that asks upstream for `asked` adds to what was asked for and to the responses. A
response to nothing asked for is that of the fetch issued to learn the End Location. -/
structure Asks (d : FetchDelivery) (s s' : FetchState) (asked : Option Span) : Prop where
  added : s'.asked = s.asked ++ asked.toList
  responses : ∀ r ∈ s'.responses, r ∈ s.responses ∨
    ∃ part, (asked = some part ∨ part = (d.start, d.endLocation)) ∧ Response.IsTo d r part

/-- What each kind of pass does to the walk. -/
def Spec (d : FetchDelivery) (s : FetchState) (group : UInt64) (s' : FetchState) : Pass → Prop
  | .stopped => s'.walk = .ended ∧ s'.stopReason ≠ .running ∧ Asks d s s' none
  | .waited waited => waited = group ∧ s'.walk = .serving group ∧
      s.lastWaitedGroup ≠ some group ∧ s'.lastWaitedGroup = some group ∧ Asks d s s' none
  | .disposed lo hi asked => d.IsGap group lo hi ∧ Past d lo hi s' ∧ Asks d s s' asked ∧
      ∀ part, asked = some part → part = requestedPart lo hi d.start d.endLocation

namespace Asks

theorem of_eq (hasked : s'.asked = s.asked) (hresponses : s'.responses = s.responses) :
    Asks d s s' none :=
  ⟨by rw [hasked, Option.toList_none, List.append_nil], fun r hr => Or.inl (hresponses ▸ hr)⟩

theorem writeThen {asked : Option Span} (h : Asks d s s' asked) (entries : List FetchObject)
    (writeFails : Option Nat) (walk : Walk) : Asks d s (s'.writeThen entries writeFails walk) asked :=
  ⟨(writeThen_asked ..).trans h.added, fun r hr => h.responses r (writeThen_responses .. ▸ hr)⟩

theorem fillGap {asked : Option Span} {part : Span} (h : Asks d s s' asked)
    (hpart : asked = some part ∨ part = (d.start, d.endLocation)) (gapStart gapEnd : UInt64)
    (events : List FillEvent) (it : Iteration) :
    Asks d s (fillGap d s' gapStart gapEnd part.1 part.2 events it) asked := by
  unfold FetchState.fillGap
  simp only
  generalize Fill.loop d.filter events _ = fill
  have hnote (stopReason : FetchStop) : Asks d s (s'.noteResponse fill
      (ResponseAbsences.new part.1 part.2 d.groupOrder).start part.2 stopReason) asked := by
    refine ⟨h.added, fun r hr => ?_⟩
    rcases List.mem_append.mp hr with hr | hr
    · exact h.responses r hr
    · cases List.mem_singleton.mp hr
      exact Or.inr ⟨part, hpart, rfl, rfl⟩
  exact (hnote _).writeThen _ _ _

/-- The part that a pass adds is the one that it is known by. -/
theorem getElem?_eq {asked : Option Span} (h : Asks d s s' asked) :
    s'.asked[s.asked.length]? = asked := by
  rw [h.added, List.getElem?_append_right le_rfl, Nat.sub_self]
  cases asked <;> rfl

end Asks

theorem walking_of_past (hgap : d.IsGap group lo hi) (hpast : Past d lo hi s')
    (hpending : s'.pendingUpstream = true →
      s'.upstreamGapCount = 0 ∧ d.maxUpstreamFetchGaps = 0) : s'.Walking d where
  bounds next hnext := by
    rcases hpast with hfailed | hnextAfter | ⟨hended, -⟩
    · exact absurd (hfailed.symm.trans hnext) (by simp)
    · rcases nextAfter_cases hgap with ⟨other, heq, hbounds, -⟩ | ⟨heq, -⟩
      · rw [hnextAfter, heq, Walk.serving.injEq] at hnext
        exact hnext ▸ hbounds
      · exact absurd ((hnextAfter.trans heq).symm.trans hnext) (by simp)
    · exact absurd (hended.symm.trans hnext) (by simp)
  pending hp := ⟨(hpending hp).1, Or.inl (hpending hp).2⟩

theorem serveGap_spec (h : s.Walking d) (hwalk : s.walk = .serving group)
    (hstop : s.stopSeen it = .running) (hlook : lookUp d s group it = none)
    (s₁ : FetchState) (hs₁ : s₁ = { s with caches := s.caches ++ [it.cache] }) :
    (serveGap d s₁ group it).Walking d ∧ ∃ asked, Asks d s (serveGap d s₁ group it) asked ∧
      Spec d s group (serveGap d s₁ group it) (passAt d s group it asked) := by
  obtain ⟨hstart, hend⟩ := h.bounds group hwalk
  have hgap := gap_isGap hstart hend it
  unfold serveGap
  simp only [passAt, hstop, hlook, ne_eq, not_true_eq_false, if_false]
  subst hs₁
  generalize gap d group it = bounds at hgap ⊢
  obtain ⟨gapStart, gapEnd⟩ := bounds
  simp only at hgap ⊢
  split
  · next hwait =>
    have hnot : s.lastWaitedGroup ≠ some group := by
      simp only [Bool.and_eq_true, decide_eq_true_eq] at hwait
      exact hwait.2
    have hasks : Asks d s { s with
        caches := s.caches ++ [it.cache], lastWaitedGroup := some group } none := .of_eq rfl rfl
    exact ⟨⟨h.bounds, h.pending⟩, none, hasks, rfl, hwalk, hnot, rfl, hasks⟩
  · split
    · next hmax =>
      obtain ⟨hpast, hp, hc⟩ := FetchState.writeThen_past (d := d)
        { s with caches := s.caches ++ [it.cache] } [d.unfilled gapStart gapEnd] it.writeFails
        gapStart gapEnd
      have hsame : Asks d s { s with caches := s.caches ++ [it.cache] } none := .of_eq rfl rfl
      have hasks := hsame.writeThen [d.unfilled gapStart gapEnd] it.writeFails
        (d.nextAfter gapStart gapEnd)
      refine ⟨walking_of_past hgap hpast fun hpending => ?_, none, hasks, hgap, hpast, hasks, nofun⟩
      rw [hp] at hpending
      have hcount := (h.pending hpending).1
      exact ⟨hc.trans hcount, by omega⟩
    · next hmax =>
      cases hp : s.pendingUpstream with
      | true =>
        simp only [if_true]
        obtain ⟨hcount, hfirst⟩ := h.pending hp
        have hgroup := hfirst.resolve_left (by omega) group hwalk
        -- the pending fetch is used at the first group, and covers the range from there
        have hwhole : d.IsGap group d.start.group d.endLocation.group := by
          refine ⟨?_, hstart.trans hend, le_rfl, le_rfl⟩
          rw [hgroup]
          split <;> rfl
        obtain ⟨hpast, hp'⟩ := fillGap_past (d := d)
          { s with
            caches := s.caches ++ [it.cache], upstreamGapCount := s.upstreamGapCount + 1,
            pendingUpstream := false }
          d.start.group d.endLocation.group d.start d.endLocation (it.upstream.getD []) it
        have hsame : Asks d s { s with
            caches := s.caches ++ [it.cache], upstreamGapCount := s.upstreamGapCount + 1,
            pendingUpstream := false } none := .of_eq rfl rfl
        have hasks := hsame.fillGap (Or.inr rfl) d.start.group d.endLocation.group
          (it.upstream.getD []) it
        refine ⟨walking_of_past hwhole hpast fun hpending => ?_, none, hasks, hwhole, hpast, hasks,
          nofun⟩
        exact absurd (hp'.symm.trans hpending) (by simp)
      | false =>
        simp only [Bool.false_eq_true, if_false]
        generalize hpart : requestedPart gapStart gapEnd d.start d.endLocation = part
        have hadd : Asks d s { s with
            caches := s.caches ++ [it.cache], upstreamGapCount := s.upstreamGapCount + 1,
            pendingUpstream := false, asked := s.asked ++ [part] } (some part) :=
          ⟨rfl, fun r hr => Or.inl hr⟩
        have hasked : ∀ other, some part = some other → other = part :=
          fun other heq => (Option.some.inj heq).symm
        split
        · obtain ⟨hpast, hp', -⟩ := FetchState.writeThen_past (d := d)
            { s with
              caches := s.caches ++ [it.cache], upstreamGapCount := s.upstreamGapCount + 1,
              pendingUpstream := false, asked := s.asked ++ [part] }
            [d.unfilled gapStart gapEnd] it.writeFails gapStart gapEnd
          have hasks := hadd.writeThen [d.unfilled gapStart gapEnd] it.writeFails
            (d.nextAfter gapStart gapEnd)
          refine ⟨walking_of_past hgap hpast fun hpending => ?_, some part, hasks, hgap, hpast, hasks,
            hpart ▸ hasked⟩
          exact absurd (hp'.symm.trans hpending) (by simp)
        · next _ events _ =>
          obtain ⟨hpast, hp'⟩ := fillGap_past (d := d)
            { s with
              caches := s.caches ++ [it.cache], upstreamGapCount := s.upstreamGapCount + 1,
              pendingUpstream := false, asked := s.asked ++ [part] }
            gapStart gapEnd part.1 part.2 events it
          have hasks := hadd.fillGap (Or.inl rfl) gapStart gapEnd events it
          refine ⟨walking_of_past hgap hpast fun hpending => ?_, some part, hasks, hgap, hpast, hasks,
            hpart ▸ hasked⟩
          exact absurd (hp'.symm.trans hpending) (by simp)

/-- A pass does what its kind says, and the walk stays within the range. -/
theorem step_spec (h : s.Walking d) (hstep : step d s it = some s') :
    ∃ group, s.walk = .serving group ∧ s'.Walking d ∧
      Spec d s group s' (passAt d s group it s'.asked[s.asked.length]?) := by
  obtain ⟨group, hwalk⟩ : ∃ group, s.walk = .serving group := by
    obtain ⟨group, hwalk, -⟩ := step_cases hstep
    exact ⟨group, hwalk⟩
  suffices hasks : s'.Walking d ∧
      ∃ asked, Asks d s s' asked ∧ Spec d s group s' (passAt d s group it asked) by
    obtain ⟨hwalking, asked, hasks, hspec⟩ := hasks
    exact ⟨group, hwalk, hwalking, hasks.getElem?_eq ▸ hspec⟩
  unfold step at hstep
  rw [hwalk] at hstep
  simp only at hstep
  by_cases hstop : s.stopSeen it = .running
  · rw [if_neg (not_not.mpr hstop)] at hstep
    rw [← hwalk] at hstep
    cases hlook : lookUp d s group it with
    | some objects =>
      rw [show lookUp d { s with caches := s.caches ++ [it.cache] } group it = some objects from hlook,
        Option.some.injEq] at hstep
      subst hstep
      obtain ⟨hstart, hend⟩ := h.bounds group hwalk
      have hgap := FetchDelivery.IsGap.self hstart hend
      have hp : s.pendingUpstream = false := by
        unfold lookUp at hlook
        split at hlook
        · cases hlook
        · next hp => simpa using hp
      unfold serveCached
      simp only [passAt, hstop, hlook, ne_eq, not_true_eq_false, if_false]
      generalize untilStop { s with caches := s.caches ++ [it.cache] } objects it = seen
      obtain ⟨hpast, hp', -⟩ := FetchState.writeThen_past (d := d)
        { s with
          caches := s.caches ++ [it.cache], stopReason := seen.2,
          offered := s.offered ++ seen.1 }
        ((seen.1.filter d.filter).map .object) it.writeFails group group
      have hsame : Asks d s { s with
          caches := s.caches ++ [it.cache], stopReason := seen.2,
          offered := s.offered ++ seen.1 } none := .of_eq rfl rfl
      have hasks := hsame.writeThen ((seen.1.filter d.filter).map .object) it.writeFails
        (d.nextAfter group group)
      refine ⟨walking_of_past hgap hpast fun hpending => ?_, none, hasks, hgap, hpast, hasks, nofun⟩
      exact absurd ((hp'.trans hp).symm.trans hpending) (by simp)
    | none =>
      rw [show lookUp d { s with caches := s.caches ++ [it.cache] } group it = none from hlook,
        Option.some.injEq] at hstep
      subst hstep
      exact serveGap_spec h hwalk hstop hlook _ rfl
  · rw [if_pos hstop, Option.some.injEq] at hstep
    subst hstep
    simp only [passAt, if_pos hstop]
    have hasks : Asks d s { s with stopReason := s.stopSeen it, walk := .ended } none := .of_eq rfl rfl
    refine ⟨⟨fun next hnext => absurd hnext (by simp), fun hp => ?_⟩, none, hasks, rfl, hstop, hasks⟩
    exact ⟨(h.pending hp).1, Or.inr fun next hnext => absurd hnext (by simp)⟩

/-! Whole walks. -/

/-- The passes that take one state of the walk to another. -/
inductive Trace (d : FetchDelivery) : FetchState → List Pass → FetchState → Prop
  | done (s : FetchState) : Trace d s [] s
  | pass {s s' t : FetchState} {group : UInt64} {p : Pass} {ps : List Pass}
      (hwalk : s.walk = .serving group) (hin : d.IsGap group group group)
      (hspec : Spec d s group s' p) (hrest : Trace d s' ps t) : Trace d s (p :: ps) t

theorem trace_of_run {its : List Iteration} {t : FetchState} (h : s.Walking d)
    (hrun : run (step d) s its = some t) :
    Trace d s (passes d s its) t ∧ (passes d s its).length = its.length := by
  induction its generalizing s with
  | nil =>
    cases Option.some.inj hrun
    exact ⟨.done _, rfl⟩
  | cons it its ih =>
    obtain ⟨s', hstep, hrun'⟩ := run_cons_eq_some hrun
    obtain ⟨group, hwalk, hwalking, hspec⟩ := step_spec h hstep
    have hpasses : passes d s (it :: its) =
        passAt d s group it s'.asked[s.asked.length]? :: passes d s' its := by
      rw [passes, hwalk, hstep]
    obtain ⟨htrace, hlength⟩ := ih hwalking hrun'
    rw [hpasses]
    obtain ⟨hstart, hend⟩ := h.bounds group hwalk
    exact ⟨.pass hwalk (.self hstart hend) hspec htrace, congrArg (· + 1) hlength⟩

theorem Past.cases (h : Past d lo hi s') :
    s'.walk = d.nextAfter lo hi ∨ d.left s'.walk = [] ∧ ¬ s'.EndedNormally := by
  rcases h with hfailed | hnext | ⟨hended, hstopped⟩
  · exact Or.inr ⟨by rw [hfailed]; rfl, fun hend => absurd (hfailed.symm.trans hend.1) (by simp)⟩
  · exact Or.inl hnext
  · exact Or.inr ⟨by rw [hended]; rfl, fun hend => hstopped hend.2⟩

theorem Spec.asks {p : Pass} (hspec : Spec d s group s' p) : Asks d s s' p.asked := by
  cases p with
  | stopped => exact hspec.2.2
  | waited waited => exact hspec.2.2.2.2
  | disposed lo hi asked => exact hspec.2.2.1

namespace Trace

variable {ps : List Pass} {t : FetchState}

/-- What the passes dispose of are the next groups of the walk, in order. -/
theorem groups_prefix (h : Trace d s ps t) :
    ps.flatMap (Pass.groups d.descending) <+: d.left s.walk := by
  induction h with
  | done s => exact List.nil_prefix
  | @pass s s' t group p ps hwalk _ hspec _ ih =>
    rw [List.flatMap_cons, hwalk]
    cases p with
    | stopped =>
      rw [hspec.1] at ih
      rw [List.prefix_nil.mp ih]
      exact List.nil_prefix
    | waited waited =>
      rw [hspec.2.1] at ih
      exact ih
    | disposed lo hi asked =>
      obtain ⟨hgap, hpast, -, -⟩ := hspec
      show groupsIn d.descending lo hi ++ _ <+: d.groupsFrom group
      rw [FetchDelivery.groupsFrom_gap hgap, List.prefix_append_right_inj]
      rcases hpast.cases with hnext | ⟨hnone, -⟩
      · rwa [hnext] at ih
      · rw [hnone] at ih
        rw [List.prefix_nil.mp ih]
        exact List.nil_prefix

/-- A walk that comes to its end has disposed of every group. -/
theorem groups_eq (h : Trace d s ps t) (hend : t.EndedNormally) :
    ps.flatMap (Pass.groups d.descending) = d.left s.walk := by
  induction h with
  | done s =>
    rw [hend.1]
    rfl
  | @pass s s' t group p ps hwalk _ hspec hrest ih =>
    rw [List.flatMap_cons, hwalk, ih hend]
    -- a state that neither serves a group nor has come to its end is the last one
    have hlast : (∀ g, s'.walk ≠ .serving g) → s' = t := by
      intro hnone
      cases hrest with
      | done _ => rfl
      | pass hwalk' _ _ _ => exact absurd hwalk' (hnone _)
    cases p with
    | stopped =>
      have heq := hlast fun g => by rw [hspec.1]; simp
      exact absurd hend.2 (heq ▸ hspec.2.1)
    | waited waited =>
      rw [hspec.2.1]
      rfl
    | disposed lo hi asked =>
      obtain ⟨hgap, hpast, -, -⟩ := hspec
      show groupsIn d.descending lo hi ++ _ = d.groupsFrom group
      rw [FetchDelivery.groupsFrom_gap hgap]
      rcases hpast with hfailed | hnext | ⟨hended, hstopped⟩
      · have heq := hlast fun g => by rw [hfailed]; simp
        exact absurd (hfailed.symm.trans (heq ▸ hend.1)) (by simp)
      · rw [hnext]
      · have heq := hlast fun g => by rw [hended]; simp
        exact absurd hend.2 (heq ▸ hstopped)

/-- What was asked for is what the passes asked for, one after the other. -/
theorem asked_eq (h : Trace d s ps t) : t.asked = s.asked ++ ps.filterMap Pass.asked := by
  induction h with
  | done s => rw [List.filterMap_nil, List.append_nil]
  | @pass s s' t group p ps _ _ hspec _ ih =>
    rw [ih, hspec.asks.added, List.append_assoc, List.filterMap_cons]
    cases p.asked <;> rfl

/-- Every response is to a part asked for, or the one that was under way from the beginning. -/
theorem responses (h : Trace d s ps t) : ∀ r ∈ t.responses, r ∈ s.responses ∨
    ∃ part, (part ∈ t.asked ∨ part = (d.start, d.endLocation)) ∧ Response.IsTo d r part := by
  induction h with
  | done s => exact fun r hr => Or.inl hr
  | @pass s s' t group p ps _ _ hspec hrest ih =>
    intro r hr
    rcases ih r hr with hr | hr
    · rcases hspec.asks.responses r hr with hr | ⟨part, hpart, hto⟩
      · exact Or.inl hr
      · refine Or.inr ⟨part, hpart.imp_left fun hasked => ?_, hto⟩
        rw [hrest.asked_eq, hspec.asks.added, hasked]
        exact List.mem_append_left _ (List.mem_append_right _ List.mem_cons_self)
    · exact Or.inr hr

theorem nodup_left (walk : Walk) : (d.left walk).Nodup := by
  unfold FetchDelivery.left
  split
  · unfold FetchDelivery.groupsFrom
    split <;> exact nodup_groupsIn ..
  · exact List.nodup_nil
  · exact List.nodup_nil

theorem mem_groupsFrom_self (hgap : d.IsGap group lo hi) :
    group.toNat ∈ groupsIn d.descending lo hi := by
  have hordered := hgap.ordered
  have hfirst := hgap.first
  rw [mem_groupsIn]
  cases hdesc : d.descending with
  | true =>
    simp only [hdesc, if_true] at hfirst
    subst hfirst
    omega
  | false =>
    simp only [hdesc, Bool.false_eq_true, if_false] at hfirst
    subst hfirst
    omega

/-- No group is waited at twice. -/
theorem waits (h : Trace d s ps t) :
    (ps.filterMap Pass.waitedFor).Nodup ∧
      (∀ group ∈ ps.filterMap Pass.waitedFor, group.toNat ∈ d.left s.walk) ∧
      ∀ group, s.walk = .serving group → s.lastWaitedGroup = some group →
        group ∉ ps.filterMap Pass.waitedFor := by
  induction h with
  | done s => simp
  | @pass s s' t group p ps hwalk hin hspec _ ih =>
    obtain ⟨hnodup, hleft, hwaited⟩ := ih
    rw [hwalk]
    cases p with
    | stopped =>
      have hnone : ps.filterMap Pass.waitedFor = [] := by
        rw [List.eq_nil_iff_forall_not_mem]
        intro other hother
        have hmem := hleft other hother
        rw [hspec.1] at hmem
        exact absurd hmem List.not_mem_nil
      rw [List.filterMap_cons_none rfl, hnone]
      simp
    | waited waited =>
      obtain ⟨rfl, hwalk', hnot, hlast, -⟩ := hspec
      have hcons : (Pass.waited waited :: ps).filterMap Pass.waitedFor =
          waited :: ps.filterMap Pass.waitedFor := rfl
      rw [hcons, List.nodup_cons, List.forall_mem_cons]
      rw [hwalk'] at hleft
      refine ⟨⟨hwaited waited hwalk' hlast, hnodup⟩, ⟨?_, hleft⟩, ?_⟩
      · show waited.toNat ∈ d.groupsFrom waited
        rw [FetchDelivery.groupsFrom_gap hin]
        exact List.mem_append_left _ (mem_groupsFrom_self hin)
      · intro other hother hlast'
        rw [Walk.serving.injEq] at hother
        exact absurd (hother ▸ hlast') hnot
    | disposed lo hi asked =>
      obtain ⟨hgap, hpast, -, -⟩ := hspec
      -- what the walk waits for later is behind this gap
      have hlater : ∀ other ∈ ps.filterMap Pass.waitedFor,
          other.toNat ∈ d.left (d.nextAfter lo hi) := by
        intro other hother
        have hmem := hleft other hother
        rcases hpast.cases with hnext | ⟨hnone, -⟩
        · rwa [hnext] at hmem
        · rw [hnone] at hmem
          exact absurd hmem List.not_mem_nil
      have hsplit : d.left (.serving group) =
          groupsIn d.descending lo hi ++ d.left (d.nextAfter lo hi) :=
        FetchDelivery.groupsFrom_gap hgap
      have hdisjoint := nodup_left (d := d) (.serving group)
      rw [hsplit, List.nodup_append] at hdisjoint
      rw [List.filterMap_cons_none rfl, hsplit]
      refine ⟨hnodup, fun other hother => List.mem_append_right _ (hlater other hother), ?_⟩
      intro other hother _ hmem
      rw [Walk.serving.injEq] at hother
      subst hother
      exact hdisjoint.2.2 _ (mem_groupsFrom_self hgap) _ (hlater _ hmem) rfl

/-- The part asked upstream for is what the range has of the groups of the gap. -/
theorem disposed (h : Trace d s ps t) {asked : Option Span} (hmem : .disposed lo hi asked ∈ ps) :
    lo.toNat ≤ hi.toNat ∧
      ∀ part, asked = some part → part = requestedPart lo hi d.start d.endLocation := by
  induction h with
  | done s => exact absurd hmem List.not_mem_nil
  | @pass s s' t group p ps _ _ hspec _ ih =>
    rcases List.mem_cons.mp hmem with rfl | hmem
    · exact ⟨hspec.1.ordered, hspec.2.2.2⟩
    · exact ih hmem

end Trace

/-- How many passes a walk can still make: two for each group that is left, but for a wait that it
has had. -/
def credit (d : FetchDelivery) (s : FetchState) : Nat :=
  2 * (d.left s.walk).length +
    match s.walk with
    | .serving group => if s.lastWaitedGroup = some group then 0 else 1
    | _ => 0

theorem credit_le (d : FetchDelivery) (s : FetchState) :
    2 * (d.left s.walk).length ≤ credit d s ∧ credit d s ≤ 2 * (d.left s.walk).length + 1 := by
  unfold credit
  split
  · split <;> omega
  · omega

/-- Every pass uses some of it up. -/
theorem Spec.credit_lt {p : Pass} (hwalk : s.walk = .serving group) (hin : d.IsGap group group group)
    (hspec : Spec d s group s' p) : credit d s' < credit d s := by
  have hbefore := credit_le d s
  have hafter := credit_le d s'
  have hlength : ∀ {lo hi : UInt64}, d.IsGap group lo hi →
      (d.left (d.nextAfter lo hi)).length < (d.left s.walk).length := by
    intro lo hi hgap
    have hordered := hgap.ordered
    rw [hwalk]
    show _ < (d.groupsFrom group).length
    rw [FetchDelivery.groupsFrom_gap hgap, List.length_append, length_groupsIn]
    omega
  cases p with
  | stopped =>
    have hpos := hlength hin
    have hnone : credit d s' = 0 := by
      unfold credit
      rw [hspec.1]
      rfl
    omega
  | waited waited =>
    obtain ⟨rfl, hwalk', hnot, hlast, -⟩ := hspec
    unfold credit
    rw [hwalk, hwalk']
    simp only [hnot, hlast, if_true, if_false]
    omega
  | disposed lo hi asked =>
    obtain ⟨hgap, hpast, -, -⟩ := hspec
    have hless := hlength hgap
    rcases hpast.cases with hnext | ⟨hnone, -⟩
    · rw [hnext] at hafter
      omega
    · rw [hnone, List.length_nil] at hafter
      omega

theorem Trace.length_le {ps : List Pass} {t : FetchState} (h : Trace d s ps t) :
    ps.length + credit d t ≤ credit d s := by
  induction h with
  | done s => simp
  | @pass s s' t group p ps hwalk hin hspec _ ih =>
    have hlt := hspec.credit_lt hwalk hin
    rw [List.length_cons]
    omega

/-- A walk at a group makes another pass. -/
theorem step_of_serving (hwalk : s.walk = .serving group) (it : Iteration) :
    ∃ s', step d s it = some s' := by
  unfold step
  rw [hwalk]
  simp only
  split
  · exact ⟨_, rfl⟩
  · split <;> exact ⟨_, rfl⟩

/-- What is left of a long run is its beginning, where the walk has come to an end. -/
theorem exists_end (h : s.Walking d) (its : List Iteration) (hcredit : credit d s ≤ its.length) :
    ∃ n ≤ its.length, ∃ t, run (step d) s (its.take n) = some t ∧ ∀ group, t.walk ≠ .serving group := by
  induction its generalizing s with
  | nil =>
    refine ⟨0, le_rfl, s, rfl, fun group hwalk => ?_⟩
    obtain ⟨hstart, hend⟩ := h.bounds group hwalk
    have hgap := FetchDelivery.IsGap.self hstart hend
    have hpos : 0 < (d.left s.walk).length := by
      rw [hwalk]
      show 0 < (d.groupsFrom group).length
      rw [FetchDelivery.groupsFrom_gap hgap, List.length_append, length_groupsIn]
      omega
    have hbefore := credit_le d s
    rw [List.length_nil] at hcredit
    omega
  | cons it its ih =>
    by_cases hserving : ∃ group, s.walk = .serving group
    · obtain ⟨group, hwalk⟩ := hserving
      obtain ⟨s', hstep⟩ := step_of_serving hwalk it
      obtain ⟨other, hwalk', hwalking, hspec⟩ := step_spec h hstep
      obtain ⟨hstart, hend⟩ := h.bounds other hwalk'
      have hlt := hspec.credit_lt hwalk' (.self hstart hend)
      rw [List.length_cons] at hcredit
      obtain ⟨n, hn, t, hrun, ht⟩ := ih hwalking (by omega)
      refine ⟨n + 1, Nat.succ_le_succ hn, t, ?_, ht⟩
      rw [List.take_succ_cons, run, hstep]
      exact hrun
    · exact ⟨0, Nat.zero_le _, s, rfl, fun group hwalk => hserving ⟨group, hwalk⟩⟩

theorem walking_init (hrange : d.start.group.toNat ≤ d.endLocation.group.toNat)
    (pendingUpstream : Bool) : (init d pendingUpstream).Walking d :=
  ⟨(Inv.init hrange pendingUpstream).bounds, (Inv.init hrange pendingUpstream).pending⟩

theorem left_init (d : FetchDelivery) (pendingUpstream : Bool) :
    d.left (init d pendingUpstream).walk = groupsIn d.descending d.start.group d.endLocation.group := by
  show d.groupsFrom _ = _
  unfold FetchDelivery.groupsFrom
  cases d.descending <;> rfl

/-- The groups that a walk disposes of are those of the range, one after the other in the order of
delivery: up to where it stopped or a write failed, and otherwise all of them. It waits at no group
twice, asks upstream for what the range has of the groups of a gap and for nothing else, reads only
responses to that or to the fetch that was under way from the beginning, and comes to an end. -/
theorem walk_disposes (d : FetchDelivery) (hrange : d.startLocation ≤ d.endLocation)
    (pendingUpstream : Bool) (its : List Iteration) (s : FetchState)
    (hrun : run (step d) (init d pendingUpstream) its = some s) :
    (passes d (init d pendingUpstream) its).length = its.length ∧
    (passes d (init d pendingUpstream) its).flatMap (Pass.groups d.descending) <+:
      groupsIn d.descending d.startLocation.group d.endLocation.group ∧
    (s.EndedNormally → (passes d (init d pendingUpstream) its).flatMap (Pass.groups d.descending) =
      groupsIn d.descending d.startLocation.group d.endLocation.group) ∧
    ((passes d (init d pendingUpstream) its).filterMap Pass.waitedFor).Nodup ∧
    (∀ lo hi asked, .disposed lo hi asked ∈ passes d (init d pendingUpstream) its →
      lo.toNat ≤ hi.toNat ∧ ∀ part, asked = some part → ∀ l, part.1 ≤ l ∧ l ≤ part.2 ↔
        (lo.toNat ≤ l.group.toNat ∧ l.group.toNat ≤ hi.toNat) ∧ d.InRange l) ∧
    s.asked = (passes d (init d pendingUpstream) its).filterMap Pass.asked ∧
    (∀ r ∈ s.responses,
      ∃ part, (part ∈ s.asked ∨ part = (d.start, d.endLocation)) ∧ Response.IsTo d r part) ∧
    its.length ≤ 2 * (d.endLocation.group.toNat + 1 - d.startLocation.group.toNat) + 1 ∧
    ∀ more : List Iteration,
      2 * (d.endLocation.group.toNat + 1 - d.startLocation.group.toNat) + 1 ≤ more.length →
      ∃ n ≤ more.length, ∃ t, run (step d) (init d pendingUpstream) (more.take n) = some t ∧
        ∀ group, t.walk ≠ .serving group := by
  have hgroup : d.start.group = d.startLocation.group := deliveredStart_group ..
  have hstart : d.start.group.toNat ≤ d.endLocation.group.toNat := by
    rw [hgroup]
    exact Location.group_le hrange
  have hwalking := walking_init hstart pendingUpstream
  obtain ⟨htrace, hlength⟩ := trace_of_run hwalking hrun
  have hleft := left_init d pendingUpstream
  have hcredit : credit d (init d pendingUpstream) ≤
      2 * (d.endLocation.group.toNat + 1 - d.startLocation.group.toNat) + 1 := by
    have hle := (credit_le d (init d pendingUpstream)).2
    rwa [hleft, length_groupsIn, hgroup] at hle
  rw [← hgroup] at hcredit ⊢
  refine ⟨hlength, hleft ▸ htrace.groups_prefix, fun hend => hleft ▸ htrace.groups_eq hend,
    htrace.waits.1, ?_, htrace.asked_eq, ?_, ?_,
    fun more hmore => exists_end hwalking more (hcredit.trans hmore)⟩
  · intro lo hi asked hmem
    obtain ⟨hordered, hasked⟩ := htrace.disposed hmem
    refine ⟨hordered, fun part hpart l => ?_⟩
    rw [hasked part hpart]
    exact requestedPart_iff
  · exact fun r hr => (htrace.responses r hr).resolve_left List.not_mem_nil
  · have hle := htrace.length_le
    omega

/-- Groups 5 to 7 downwards, from object 3 of group 5. -/
def threeGroups : FetchDelivery where
  startLocation := ⟨5, 3⟩
  endLocation := ⟨7, 2⟩
  groupOrder := .descending
  filter := fun _ => true
  maxUpstreamFetchGaps := 1

theorem walk_disposes_threeGroups :
    ∃ s, run (step threeGroups) (init threeGroups false) [answeredWith [.streamClosed]] = some s ∧
      (passes threeGroups (init threeGroups false) [answeredWith [.streamClosed]]).flatMap
        (Pass.groups true) = groupsIn true 5 7 ∧
      s.asked = [(⟨5, 0⟩, ⟨7, 2⟩)] := by
  obtain ⟨-, -, hgroups, -, -, hasked, -⟩ :=
    walk_disposes threeGroups (by decide) false [answeredWith [.streamClosed]] _ rfl
  exact ⟨_, rfl, hgroups ⟨rfl, rfl⟩, hasked.trans rfl⟩

/-- Upstream is asked for the start of group 5 too, which comes before the Start Location. -/
theorem threeGroups_asks_before_start :
    ¬ ∀ (d : FetchDelivery) (pendingUpstream : Bool) (its : List Iteration) (s : FetchState),
      d.startLocation ≤ d.endLocation →
      run (step d) (init d pendingUpstream) its = some s →
      ∀ lo hi part, .disposed lo hi (some part) ∈ passes d (init d pendingUpstream) its →
        ∀ l, part.1 ≤ l ∧ l ≤ part.2 ↔
          (lo.toNat ≤ l.group.toNat ∧ l.group.toNat ≤ hi.toNat) ∧
            d.startLocation ≤ l ∧ l ≤ d.endLocation := by
  intro h
  have hasked := h threeGroups false [answeredWith [.streamClosed]] _ (by decide) rfl 5 7
    (⟨5, 0⟩, ⟨7, 2⟩) (List.mem_singleton.mpr rfl) ⟨5, 0⟩
  exact absurd (hasked.mp ⟨by decide, by decide⟩).2.1 (by decide)

end FetchState

end Moqtail
