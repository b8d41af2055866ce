import Moqtail.Lib.InPlace
import Moqtail.Transport.RecvDataStream

/-! The priorities of the subgroups on a fetch stream, from `transport/data_stream_handler.rs`.

`validate` writes to its map before it comes to a verdict, and the read task may have to parse the
same bytes again when more of them have arrived. Neither shows: what is refused is a subgroup whose
priority changes while the stream stays in the group, and each Object is looked at once. -/
namespace Moqtail

open Lib

/-! What is asked of the priorities. -/

/-- Objects of one subgroup have one priority. Objects that were forwarded as datagrams belong to no
subgroup. -/
def SamePriorities (run : List FetchObjectPayload) : Prop :=
  ∀ a ∈ run, ∀ b ∈ run, a.forwardingPreference = .subgroup → b.forwardingPreference = .subgroup →
    a.subgroupId = b.subgroupId → a.publisherPriority = b.publisherPriority

/-- The maximal runs of consecutive Objects of one group. -/
def groupRuns (objects : List FetchObjectPayload) : List (List FetchObjectPayload) :=
  objects.splitBy fun a b => a.groupId == b.groupId

/-- Of its subgroup, the Object has the priority of those seen. -/
def Agrees (seen : List FetchObjectPayload) (o : FetchObjectPayload) : Prop :=
  o.forwardingPreference = .subgroup → ∀ a ∈ seen, a.forwardingPreference = .subgroup →
    a.subgroupId = o.subgroupId → a.publisherPriority = o.publisherPriority

theorem samePriorities_append {seen : List FetchObjectPayload} {o : FetchObjectPayload} :
    SamePriorities (seen ++ [o]) ↔ SamePriorities seen ∧ Agrees seen o := by
  constructor
  · intro h
    refine ⟨fun a ha b hb => h a (by simp [ha]) b (by simp [hb]), fun hof a ha haf hid => ?_⟩
    exact h a (by simp [ha]) o (by simp) haf hof hid
  · rintro ⟨hsame, hagrees⟩ a ha b hb haf hbf hid
    rw [List.mem_append, List.mem_singleton] at ha hb
    obtain ha | rfl := ha
    · obtain hb | rfl := hb
      · exact hsame a ha b hb haf hbf hid
      · exact hagrees hbf a ha haf hid
    · obtain hb | rfl := hb
      · exact (hagrees haf b hb hbf hid.symm).symm
      · rfl

namespace FetchSubgroupPriorityState

/-- `validate` in place: the verdict, and the state it leaves with any verdict. -/
def validateInPlace (s : FetchSubgroupPriorityState) (payload : FetchObjectPayload) :
    Parse Unit × FetchSubgroupPriorityState :=
  let s := if s.groupId ≠ some payload.groupId then ⟨some payload.groupId, []⟩ else s
  if payload.forwardingPreference ≠ .subgroup then (.ok (), s)
  else
    let inserted : FetchSubgroupPriorityState :=
      { s with
        priorities := (payload.subgroupId, payload.publisherPriority) ::
          s.priorities.filter (·.1 != payload.subgroupId) }
    match s.priorities.lookup payload.subgroupId with
    | some previous =>
      if previous ≠ payload.publisherPriority then
        (.error (.protocolViolation "RecvDataStream::read_object(fetch_malformed_track)"
          (s!"FETCH object for subgroup_id {payload.subgroupId} changed publisher_priority from " ++
            s!"{previous} to {payload.publisherPriority}")), inserted)
      else (.ok (), inserted)
    | none => (.ok (), inserted)

/-- The verdicts on Objects that come one after the other. -/
def validateAll : FetchSubgroupPriorityState → List FetchObjectPayload → List (Parse Unit)
  | _, [] => []
  | s, payload :: rest =>
    let (verdict, s) := s.validateInPlace payload
    verdict :: s.validateAll rest

/-- The state that Objects leave. -/
def afterAll (s : FetchSubgroupPriorityState) (objects : List FetchObjectPayload) :
    FetchSubgroupPriorityState :=
  objects.foldl (fun s payload => (s.validateInPlace payload).2) s

/-- Each Object is accepted. -/
def Accepts (s : FetchSubgroupPriorityState) (objects : List FetchObjectPayload) : Prop :=
  ∀ verdict ∈ s.validateAll objects, verdict = .ok ()

variable {s : FetchSubgroupPriorityState} {o : FetchObjectPayload}

/-- The one that returns its state is the one in place, as long as nothing follows a refusal. -/
theorem validate_eq (s : FetchSubgroupPriorityState) (payload : FetchObjectPayload) :
    s.validate payload =
      (s.validateInPlace payload).1.map fun _ => (s.validateInPlace payload).2 := by
  simp only [validate, validateInPlace, ite_not]
  generalize (if s.groupId = some payload.groupId then s else ⟨some payload.groupId, []⟩) = s'
  by_cases hforwarded : payload.forwardingPreference = .subgroup
  · simp only [if_pos hforwarded]
    cases s'.priorities.lookup payload.subgroupId with
    | none => rfl
    | some previous =>
      by_cases hsame : previous = payload.publisherPriority
      · simp only [if_pos hsame]
        rfl
      · simp only [if_neg hsame]
        rfl
  · simp only [if_neg hforwarded]
    rfl

theorem accepts_nil : s.Accepts [] := by
  intro verdict h
  cases h

theorem accepts_cons {objects : List FetchObjectPayload} : s.Accepts (o :: objects) ↔
    (s.validateInPlace o).1 = .ok () ∧ (s.validateInPlace o).2.Accepts objects := by
  simp only [Accepts, validateAll, List.forall_mem_cons]

theorem validateAll_append (objects : List FetchObjectPayload) (s : FetchSubgroupPriorityState) :
    s.validateAll (objects ++ [o]) =
      s.validateAll objects ++ [((s.afterAll objects).validateInPlace o).1] := by
  induction objects generalizing s with
  | nil => rfl
  | cons first rest ih =>
    simp only [List.cons_append, validateAll, ih]
    rfl

theorem afterAll_append (objects : List FetchObjectPayload) :
    s.afterAll (objects ++ [o]) = ((s.afterAll objects).validateInPlace o).2 := by
  simp only [afterAll, List.foldl_append, List.foldl_cons, List.foldl_nil]

/-! What the state knows. -/

/-- The state after the Objects `seen` of group `g`, all of them accepted. -/
structure Knows (s : FetchSubgroupPriorityState) (g : UInt64) (seen : List FetchObjectPayload) :
    Prop where
  groupId : s.groupId = some g
  priority : ∀ subgroupId priority, s.priorities.lookup subgroupId = some priority ↔
    ∃ o ∈ seen, o.forwardingPreference = .subgroup ∧ o.subgroupId = subgroupId ∧
      o.publisherPriority = priority

theorem knows_nil (g : UInt64) : Knows ⟨some g, []⟩ g [] where
  groupId := rfl
  priority subgroupId priority := by simp

variable {g : UInt64} {seen : List FetchObjectPayload}

theorem Knows.samePriorities (h : s.Knows g seen) : SamePriorities seen := by
  intro a ha b hb haf hbf hid
  have hfirst := (h.priority _ _).mpr ⟨a, ha, haf, rfl, rfl⟩
  have hsecond := (h.priority _ _).mpr ⟨b, hb, hbf, rfl, rfl⟩
  rw [hid, hsecond, Option.some.injEq] at hfirst
  exact hfirst.symm

theorem lookup_insert (priorities : List (UInt64 × UInt8)) (subgroupId other : UInt64)
    (priority : UInt8) :
    ((subgroupId, priority) :: priorities.filter (·.1 != subgroupId)).lookup other =
      if other = subgroupId then some priority else priorities.lookup other := by
  by_cases hsame : other = subgroupId
  · rw [if_pos hsame, hsame, List.lookup_cons_self]
  · rw [if_neg hsame, List.lookup_cons, beq_false_of_ne hsame]
    show (priorities.filter _).lookup other = _
    induction priorities with
    | nil => rfl
    | cons entry priorities ih =>
      obtain ⟨id, p⟩ := entry
      by_cases hid : id = subgroupId
      · have hother : (other == id) = false := beq_false_of_ne (hid ▸ hsame)
        rw [List.filter_cons_of_neg (by simp [hid]), List.lookup_cons, hother, ih]
      · rw [List.filter_cons_of_pos (by simp [hid]), List.lookup_cons, List.lookup_cons, ih]

/-- An Object that leaves the group resets the state. -/
theorem validateInPlace_of_groupId_ne (h : s.groupId ≠ some o.groupId) :
    s.validateInPlace o = (⟨some o.groupId, []⟩ : FetchSubgroupPriorityState).validateInPlace o := by
  simp only [validateInPlace, ne_eq, h, not_false_eq_true, if_true, not_true, if_false]

/-- What is looked up is there to be agreed with. -/
theorem Knows.agrees_iff (h : s.Knows g seen) (hforwarded : o.forwardingPreference = .subgroup) :
    Agrees seen o ↔ ∀ previous, s.priorities.lookup o.subgroupId = some previous →
      previous = o.publisherPriority := by
  constructor
  · intro hagrees previous hlookup
    obtain ⟨a, ha, haf, hid, rfl⟩ := (h.priority _ _).mp hlookup
    exact hagrees hforwarded a ha haf hid
  · intro hall _ a ha haf hid
    exact hall _ ((h.priority _ _).mpr ⟨a, ha, haf, hid, rfl⟩)

/-- An Object without a subgroup adds nothing to what is known. -/
theorem Knows.append_other (h : s.Knows g seen) (hforwarded : o.forwardingPreference ≠ .subgroup) :
    s.Knows g (seen ++ [o]) where
  groupId := h.groupId
  priority subgroupId priority := by
    rw [h.priority]
    simp only [List.mem_append, List.mem_singleton]
    constructor
    · rintro ⟨a, ha, hrest⟩
      exact ⟨a, .inl ha, hrest⟩
    · rintro ⟨a, ha | rfl, haf, hrest⟩
      · exact ⟨a, ha, haf, hrest⟩
      · exact absurd haf hforwarded

/-- The insertion adds just the Object, which agrees with those seen. -/
theorem Knows.append_subgroup (h : s.Knows g seen) (hforwarded : o.forwardingPreference = .subgroup)
    (hagrees : Agrees seen o) :
    Knows { s with
      priorities := (o.subgroupId, o.publisherPriority) ::
        s.priorities.filter (·.1 != o.subgroupId) } g (seen ++ [o]) where
  groupId := h.groupId
  priority subgroupId priority := by
    rw [lookup_insert]
    by_cases hid : subgroupId = o.subgroupId
    · subst hid
      rw [if_pos rfl, Option.some.injEq]
      constructor
      · rintro rfl
        exact ⟨o, by simp, hforwarded, rfl, rfl⟩
      · rintro ⟨a, ha, haf, hida, rfl⟩
        rw [List.mem_append, List.mem_singleton] at ha
        obtain ha | rfl := ha
        · exact (hagrees hforwarded a ha haf hida).symm
        · rfl
    · rw [if_neg hid, h.priority]
      simp only [List.mem_append, List.mem_singleton]
      constructor
      · rintro ⟨a, ha, hrest⟩
        exact ⟨a, .inl ha, hrest⟩
      · rintro ⟨a, ha | rfl, haf, hida, hpriority⟩
        · exact ⟨a, ha, haf, hida, hpriority⟩
        · exact absurd hida.symm hid

/-- An Object of the group is accepted, and known then, just if it agrees with those seen. -/
theorem validateInPlace_spec (hknows : s.Knows g seen) (hgroup : o.groupId = g) :
    ((s.validateInPlace o).1 = .ok () ↔ Agrees seen o) ∧
      (Agrees seen o → (s.validateInPlace o).2.Knows g (seen ++ [o])) := by
  have hstay : ¬ s.groupId ≠ some o.groupId := by
    rw [hknows.groupId, hgroup]
    exact not_not.mpr rfl
  by_cases hforwarded : o.forwardingPreference = .subgroup
  · have hagrees := hknows.agrees_iff hforwarded
    have hinserted := hknows.append_subgroup hforwarded
    unfold validateInPlace
    simp only [if_neg hstay, if_neg (not_not.mpr hforwarded)]
    cases hlookup : s.priorities.lookup o.subgroupId with
    | none =>
      rw [hlookup] at hagrees
      exact ⟨iff_of_true rfl (hagrees.mpr nofun), hinserted⟩
    | some previous =>
      simp only [hlookup, Option.some.injEq, forall_eq'] at hagrees
      by_cases hsame : previous = o.publisherPriority
      · simp only [if_neg (not_not.mpr hsame)]
        exact ⟨iff_of_true trivial (hagrees.mpr hsame), hinserted⟩
      · simp only [if_pos hsame]
        exact ⟨iff_of_false nofun (hagrees.not.mpr hsame), hinserted⟩
  · have hany : Agrees seen o := fun hof => absurd hof hforwarded
    unfold validateInPlace
    simp only [if_neg hstay, if_pos hforwarded]
    exact ⟨iff_of_true trivial hany, fun _ => hknows.append_other hforwarded⟩

/-! Run after run. -/

def initial : FetchSubgroupPriorityState := ⟨none, []⟩

/-- Where the next Object is of another group, nothing of the state is left. -/
theorem accepts_of_leaving {objects : List FetchObjectPayload}
    (h : ∀ o ∈ objects.head?, s.groupId ≠ some o.groupId) :
    s.Accepts objects ↔ initial.Accepts objects := by
  cases objects with
  | nil => exact iff_of_true accepts_nil accepts_nil
  | cons o rest =>
    have hstate := validateInPlace_of_groupId_ne (h o rfl)
    have hinitial := validateInPlace_of_groupId_ne (nofun : initial.groupId ≠ some o.groupId)
    rw [accepts_cons, accepts_cons, hstate, hinitial]

/-- The rest of a run, and what follows it in another group. -/
theorem accepts_append_iff {run rest : List FetchObjectPayload} (hgroup : ∀ o ∈ run, o.groupId = g)
    (hleaves : ∀ o ∈ rest.head?, o.groupId ≠ g) (hknows : s.Knows g seen) :
    s.Accepts (run ++ rest) ↔ SamePriorities (seen ++ run) ∧ initial.Accepts rest := by
  induction run generalizing s seen with
  | nil =>
    rw [List.nil_append, List.append_nil, and_iff_right hknows.samePriorities]
    apply accepts_of_leaving
    intro o ho
    rw [hknows.groupId, ne_eq, Option.some.injEq]
    exact fun heq => hleaves o ho heq.symm
  | cons o run ih =>
    rw [List.forall_mem_cons] at hgroup
    obtain ⟨hverdict, hnext⟩ := validateInPlace_spec hknows hgroup.1
    rw [List.cons_append, accepts_cons, hverdict, ← List.singleton_append, ← List.append_assoc]
    by_cases hagrees : Agrees seen o
    · rw [and_iff_right hagrees]
      exact ih hgroup.2 (hnext hagrees)
    · apply iff_of_false (fun h => hagrees h.1)
      intro h
      have hfront : SamePriorities (seen ++ [o]) := fun a ha b hb =>
        h.1 a (List.mem_append_left run ha) b (List.mem_append_left run hb)
      exact hagrees (samePriorities_append.mp hfront).2

/-- Runs of one group each, none of the group of the run before it. -/
theorem accepts_flatten_iff (runs : List (List FetchObjectPayload))
    (hgroup : ∀ run ∈ runs, ∀ a ∈ run, ∀ b ∈ run, a.groupId = b.groupId)
    (hleaves : runs.IsChain fun a b => ∃ ha hb,
      ((a.getLast ha).groupId == (b.head hb).groupId) = false) (hne : [] ∉ runs) :
    initial.Accepts runs.flatten ↔ ∀ run ∈ runs, SamePriorities run := by
  induction runs with
  | nil => exact iff_of_true accepts_nil (by simp)
  | cons run runs ih =>
    rw [List.forall_mem_cons] at hgroup
    rw [List.mem_cons, not_or] at hne
    cases run with
    | nil => exact absurd rfl hne.1
    | cons o run =>
      have hall : ∀ a ∈ o :: run, a.groupId = o.groupId := fun a ha =>
        hgroup.1 a ha o List.mem_cons_self
      have hrest : ∀ a ∈ runs.flatten.head?, a.groupId ≠ o.groupId := by
        cases runs with
        | nil => exact nofun
        | cons next runs =>
          obtain ⟨hlast, hhead, hdiffers⟩ := (List.isChain_cons_cons.mp hleaves).1
          intro a ha
          rw [List.flatten_cons, List.head?_append_of_ne_nil _ hhead, List.head?_eq_some_head hhead,
            Option.mem_def, Option.some.injEq] at ha
          subst ha
          rw [hall _ (List.getLast_mem hlast)] at hdiffers
          exact fun heq => (beq_eq_false_iff_ne.mp hdiffers) heq.symm
      have hreset : initial.Accepts ((o :: run) ++ runs.flatten) ↔
          (⟨some o.groupId, []⟩ : FetchSubgroupPriorityState).Accepts ((o :: run) ++ runs.flatten) := by
        have hinitial := validateInPlace_of_groupId_ne (nofun : initial.groupId ≠ some o.groupId)
        rw [List.cons_append, accepts_cons, accepts_cons, hinitial]
      rw [List.flatten_cons, hreset, accepts_append_iff hall hrest (knows_nil o.groupId),
        List.nil_append, List.forall_mem_cons, ih hgroup.2 hleaves.tail hne.2]

/-- All Objects of a stream are accepted just if the priorities are the same throughout each maximal
run of one group. -/
theorem accepts_iff (objects : List FetchObjectPayload) :
    initial.Accepts objects ↔ ∀ run ∈ groupRuns objects, SamePriorities run := by
  have hflatten : (groupRuns objects).flatten = objects := List.flatten_splitBy _ objects
  have hgroup : ∀ run ∈ groupRuns objects, ∀ a ∈ run, ∀ b ∈ run, a.groupId = b.groupId := by
    intro run hrun
    have hchain := List.isChain_of_mem_splitBy hrun
    simp only [beq_iff_eq] at hchain
    have : IsTrans FetchObjectPayload fun a b => a.groupId = b.groupId :=
      ⟨fun _ _ _ => Eq.trans⟩
    have hpairwise := List.isChain_iff_pairwise.mp hchain
    have : Std.Symm fun a b : FetchObjectPayload => a.groupId = b.groupId := ⟨fun _ _ => Eq.symm⟩
    exact List.Pairwise.forall_of_forall
      (R := fun a b : FetchObjectPayload => a.groupId = b.groupId) (fun _ _ => rfl)
      hpairwise
  have hruns := accepts_flatten_iff (groupRuns objects) hgroup
    (List.isChain_getLast_head_splitBy (fun a b => a.groupId == b.groupId) objects)
    (List.nil_notMem_splitBy _ objects)
  rwa [hflatten] at hruns

end FetchSubgroupPriorityState

end Moqtail
