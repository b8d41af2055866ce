import Moqtail.Lib.Run
import Moqtail.Relay.AbsentRanges

/-! The groups a track keeps, from `server/track_cache.rs`, under any interleaving of its callers.

`add_object` looks its group up and then waits for the lock on it, and `objects_if_complete` does
too, so that an eviction may come between the two. A lookup hands out a `Vec` behind an `Arc`,
which lives on in the hands of those who hold it: the groups that were evicted stay as earlier
generations of their ID. -/
namespace Moqtail

open Lib

/-- The objects of a group, as one `Vec` holds them. -/
structure GroupObjects (group : UInt64) where
  objects : List FetchObjectPayload
  inGroup : ∀ o ∈ objects, o.groupId = group
  sorted : (objects.map (·.objectId)).Pairwise (· < ·)

namespace GroupObjects

variable {group : UInt64}

theorem inGroup_nil (group : UInt64) : ∀ o ∈ ([] : List FetchObjectPayload), o.groupId = group :=
  nofun

theorem sorted_nil : (([] : List FetchObjectPayload).map (·.objectId)).Pairwise (· < ·) :=
  List.Pairwise.nil

def empty (group : UInt64) : GroupObjects group := ⟨[], inGroup_nil group, sorted_nil⟩

theorem before (c : GroupObjects group) (id : UInt64) :
    c.objects.Pairwise fun o o' => o'.objectId < id → o.objectId < id :=
  (List.pairwise_map.mp c.sorted).imp fun hlt hlt' => UInt64.lt_trans hlt hlt'

/-- `binary_search_by_key`, and `insert` where it finds nothing. -/
def add (c : GroupObjects group) (o : FetchObjectPayload) (ho : o.groupId = group) :
    GroupObjects group :=
  if h : ∃ o' ∈ c.objects, o'.objectId = o.objectId then c
  else
    { objects := (c.objects.takeWhile fun o' => o'.objectId < o.objectId) ++
        o :: c.objects.dropWhile fun o' => o'.objectId < o.objectId
      inGroup := by
        intro o' ho'
        rcases List.mem_append.mp ho' with ho' | ho'
        · exact c.inGroup o' ((List.takeWhile_sublist _).subset ho')
        · rcases List.mem_cons.mp ho' with rfl | ho'
          · exact ho
          · exact c.inGroup o' ((List.dropWhile_sublist _).subset ho')
      sorted := by
        have hbefore := c.before o.objectId
        have hsorted := List.pairwise_map.mp c.sorted
        have hfront : ∀ o' ∈ c.objects.takeWhile fun o' => o'.objectId < o.objectId,
            o'.objectId < o.objectId := by
          intro o' ho'
          simpa using List.mem_takeWhile_imp ho'
        have hrear : ∀ o' ∈ c.objects.dropWhile fun o' => o'.objectId < o.objectId,
            o.objectId < o'.objectId := by
          intro o' ho'
          rw [dropWhile_eq_filter (by simpa using hbefore), List.mem_filter] at ho'
          have hle : o.objectId ≤ o'.objectId := by simpa using ho'.2
          exact UInt64.lt_of_le_of_ne hle fun heq => h ⟨o', ho'.1, heq.symm⟩
        rw [List.pairwise_map]
        refine List.pairwise_append.mpr ⟨hsorted.sublist (List.takeWhile_sublist _), ?_, ?_⟩
        · exact List.pairwise_cons.mpr ⟨hrear, hsorted.sublist (List.dropWhile_sublist _)⟩
        · intro o' ho' o'' ho''
          rcases List.mem_cons.mp ho'' with rfl | ho''
          · exact hfront o' ho'
          · exact UInt64.lt_trans (hfront o' ho') (hrear o'' ho'') }

/-- The object with an ID, if there is one. -/
def find (c : GroupObjects group) (id : UInt64) : Option FetchObjectPayload :=
  c.objects.find? fun o => o.objectId = id

theorem find?_between {front rear : List FetchObjectPayload} {o : FetchObjectPayload}
    (hnew : ∀ o' ∈ front ++ rear, o'.objectId ≠ o.objectId) (id : UInt64) :
    ((front ++ o :: rear).find? fun o' => o'.objectId = id) =
      ((front ++ rear).find? fun o' => o'.objectId = id).or
        (if o.objectId = id then some o else none) := by
  rw [List.find?_append, List.find?_append, List.find?_cons]
  by_cases hid : o.objectId = id
  · have hnone : ((front ++ rear).find? fun o' => o'.objectId = id) = none := by
      rw [List.find?_eq_none]
      intro o' ho' heq
      exact hnew o' ho' ((of_decide_eq_true heq).trans hid.symm)
    rw [List.find?_append, Option.or_eq_none_iff] at hnone
    rw [hnone.1, hnone.2]
    simp [hid]
  · simp [hid]

/-- The first object with an ID stays. -/
theorem find_add (c : GroupObjects group) (o : FetchObjectPayload) (ho : o.groupId = group)
    (id : UInt64) :
    (c.add o ho).find id = (c.find id).or (if o.objectId = id then some o else none) := by
  unfold add
  split
  · next hex =>
    by_cases hid : o.objectId = id
    · have hsome : (c.find id).isSome := by
        rw [find, List.find?_isSome]
        obtain ⟨o', ho', heq⟩ := hex
        exact ⟨o', ho', by simpa using heq.trans hid⟩
      rw [Option.or_of_isSome hsome]
    · rw [if_neg hid, Option.or_none]
  · next hnew =>
    have hsplit := List.takeWhile_append_dropWhile
      (p := fun o' : FetchObjectPayload => o'.objectId < o.objectId) (l := c.objects)
    unfold find
    rw [find?_between, hsplit]
    rw [hsplit]
    exact fun o' ho' heq => hnew ⟨o', ho', heq⟩

end GroupObjects

/-- A call of `objects_if_complete` that has looked its group up. -/
structure Ask where
  group : UInt64
  lo : UInt64
  hi : UInt64
  generation : Option Nat

structure TrackCache where
  /-- Every `Vec` there has been for a group, the first one first. -/
  generations : (group : UInt64) → List (GroupObjects group)
  /-- The one that is in the cache. -/
  cached : UInt64 → Option Nat
  absent : AbsentRanges
  /-- The calls of `add_object` that have looked their group up. -/
  adding : List (FetchObjectPayload × Nat)
  asking : List Ask

inductive CacheStep where
  | lookUp (o : FetchObjectPayload)
  | put (i : Nat)
  | evict (group : UInt64)
  | markAbsent (from_ to_ : Location)
  | ask (group lo hi : UInt64)
  | answer (i : Nat)

namespace TrackCache

def empty : TrackCache := ⟨fun _ => [], fun _ => none, ⟨[]⟩, [], []⟩

/-- `get_with`. -/
def lookUp (s : TrackCache) (o : FetchObjectPayload) : TrackCache :=
  match s.cached o.groupId with
  | some generation => { s with adding := s.adding ++ [(o, generation)] }
  | none =>
    let older := s.generations o.groupId
    { s with
      generations := Function.update s.generations o.groupId (older ++ [.empty o.groupId])
      cached := Function.update s.cached o.groupId (some older.length)
      adding := s.adding ++ [(o, older.length)] }

/-- The rest of `add_object`, with the lock on the group. -/
def put (s : TrackCache) (o : FetchObjectPayload) (generation : Nat) : TrackCache :=
  { s with
    generations := Function.update s.generations o.groupId
      ((s.generations o.groupId).modify generation fun c => c.add o rfl) }

def evict (s : TrackCache) (group : UInt64) : TrackCache :=
  { s with cached := Function.update s.cached group none }

def markAbsent (s : TrackCache) (from_ to_ : Location) : TrackCache :=
  if from_ ≤ to_ then { s with absent := s.absent.insert from_ to_ } else s

def step (s : TrackCache) : CacheStep → Option TrackCache
  | .lookUp o => some (s.lookUp o)
  | .put i => s.adding[i]?.map fun (o, generation) =>
      { s.put o generation with adding := s.adding.eraseIdx i }
  | .evict group => some (s.evict group)
  | .markAbsent from_ to_ => some (s.markAbsent from_ to_)
  | .ask group lo hi => some { s with asking := s.asking ++ [⟨group, lo, hi, s.cached group⟩] }
  | .answer i => s.asking[i]?.map fun _ => { s with asking := s.asking.eraseIdx i }

/-- What a call has in hand. -/
def held (s : TrackCache) (q : Ask) : GroupObjects q.group :=
  (q.generation.bind fun generation => (s.generations q.group)[generation]?).getD (.empty q.group)

/-- What a call returns. It keeps its lock on the group until it has read the absent ranges, so
that it sees both at one moment. -/
def answer (s : TrackCache) (q : Ask) : Option (List FetchObjectPayload) :=
  let c := s.held q
  (⟨c.objects, s.absent, c.inGroup, c.sorted⟩ : CachedGroup q.group).objectsIfComplete q.lo q.hi

end TrackCache

/-- What has been done to a cache: the objects added to each group since it was last evicted, and
every range marked absent. An object whose group is evicted between the lookup and the insertion
goes with that group. -/
structure CacheHistory where
  added : UInt64 → List FetchObjectPayload
  marked : List (Location × Location)

namespace CacheHistory

def empty : CacheHistory := ⟨fun _ => [], []⟩

def after (h : CacheHistory) (s : TrackCache) : CacheStep → CacheHistory
  | .put i =>
    match s.adding[i]? with
    | some (o, generation) =>
      if s.cached o.groupId = some generation then
        { h with added := Function.update h.added o.groupId (h.added o.groupId ++ [o]) }
      else h
    | none => h
  | .evict group => { h with added := Function.update h.added group [] }
  | .markAbsent from_ to_ =>
    if from_ ≤ to_ then { h with marked := h.marked ++ [(from_, to_)] } else h
  | _ => h

end CacheHistory

/-- The cache together with its history. -/
def observedStep (s : TrackCache × CacheHistory) (a : CacheStep) : Option (TrackCache × CacheHistory) :=
  (s.1.step a).map fun s' => (s', s.2.after s.1 a)

structure TrackCache.Sound (s : TrackCache × CacheHistory) : Prop where
  current : ∀ group generation, s.1.cached group = some generation →
    ∃ c, (s.1.generations group)[generation]? = some c ∧
      ∀ id, c.find id = (s.2.added group).find? fun o => o.objectId = id
  uncached : ∀ group, s.1.cached group = none → s.2.added group = []
  separated : Ranges.Separated s.1.absent.ranges
  marked : ∀ l, s.1.absent.Holds l → ∃ r ∈ s.2.marked, r.1 ≤ l ∧ l ≤ r.2

namespace TrackCache

variable {s : TrackCache} {h : CacheHistory}

theorem Sound.empty : Sound (TrackCache.empty, CacheHistory.empty) where
  current := by
    intro group generation hcached
    cases hcached
  uncached _ _ := rfl
  separated := Ranges.Separated.nil
  marked := by
    rintro l ⟨r, hr, -⟩
    cases hr

theorem Sound.lookUp (hs : Sound (s, h)) (o : FetchObjectPayload) : Sound (s.lookUp o, h) := by
  unfold TrackCache.lookUp
  split
  · exact ⟨hs.current, hs.uncached, hs.separated, hs.marked⟩
  · next hnone =>
    refine ⟨?_, ?_, hs.separated, hs.marked⟩
    · intro group generation hcached
      by_cases heq : group = o.groupId
      · subst heq
        have hgeneration : (s.generations o.groupId).length = generation := by
          simpa using hcached
        refine ⟨GroupObjects.empty o.groupId, ?_, ?_⟩
        · simp [← hgeneration]
        · intro id
          rw [hs.uncached _ hnone]
          rfl
      · simp only [Function.update_of_ne heq] at hcached ⊢
        exact hs.current group generation hcached
    · intro group hcached
      by_cases heq : group = o.groupId
      · subst heq
        simp at hcached
      · simp only [Function.update_of_ne heq] at hcached
        exact hs.uncached group hcached

theorem Sound.put (hs : Sound (s, h)) {i : Nat} {o : FetchObjectPayload} {generation : Nat}
    (hi : s.adding[i]? = some (o, generation)) (adding : List (FetchObjectPayload × Nat)) :
    Sound ({ s.put o generation with adding := adding }, h.after s (.put i)) := by
  have hafter : h.after s (.put i) =
      if s.cached o.groupId = some generation then
        { h with added := Function.update h.added o.groupId (h.added o.groupId ++ [o]) }
      else h := by
    simp [CacheHistory.after, hi]
  rw [hafter]
  refine ⟨?_, ?_, hs.separated, ?_⟩
  · intro group generation' hcached
    obtain ⟨c, hc, hfind⟩ := hs.current group generation' hcached
    by_cases heq : group = o.groupId
    · subst heq
      by_cases hcurrent : generation' = generation
      · subst hcurrent
        refine ⟨c.add o rfl, ?_, ?_⟩
        · simp [TrackCache.put, hc]
        · intro id
          have hcached' : s.cached o.groupId = some generation' := hcached
          rw [GroupObjects.find_add, hfind, if_pos hcached']
          simp only [Function.update_self, List.find?_append]
          congr 1
          by_cases hid : o.objectId = id <;> simp [hid]
      · -- the generation that was looked up has been evicted
        have hcached' : s.cached o.groupId = some generation' := hcached
        have hstale : s.cached o.groupId ≠ some generation := by
          rw [hcached']
          exact fun hsome => hcurrent (Option.some.inj hsome)
        refine ⟨c, ?_, ?_⟩
        · simp [TrackCache.put, hc, Ne.symm hcurrent]
        · rw [if_neg hstale]
          exact hfind
    · refine ⟨c, ?_, ?_⟩
      · simp [TrackCache.put, Function.update_of_ne heq, hc]
      · split
        · simp only [Function.update_of_ne heq]
          exact hfind
        · exact hfind
  · intro group hcached
    have hempty := hs.uncached group hcached
    split
    · next hcurrent =>
      by_cases heq : group = o.groupId
      · subst heq
        have hnone : s.cached o.groupId = none := hcached
        rw [hnone] at hcurrent
        cases hcurrent
      · simp only [Function.update_of_ne heq]
        exact hempty
    · exact hempty
  · split
    · exact hs.marked
    · exact hs.marked

theorem Sound.evict (hs : Sound (s, h)) (group : UInt64) :
    Sound (s.evict group, h.after s (.evict group)) := by
  refine ⟨?_, ?_, hs.separated, hs.marked⟩
  · intro group' generation hcached
    by_cases heq : group' = group
    · subst heq
      simp [TrackCache.evict] at hcached
    · simp only [TrackCache.evict, CacheHistory.after, Function.update_of_ne heq] at hcached ⊢
      exact hs.current group' generation hcached
  · intro group' hcached
    by_cases heq : group' = group
    · subst heq
      simp [CacheHistory.after]
    · simp only [TrackCache.evict, CacheHistory.after, Function.update_of_ne heq] at hcached ⊢
      exact hs.uncached group' hcached

theorem Sound.markAbsent (hs : Sound (s, h)) (from_ to_ : Location) :
    Sound (s.markAbsent from_ to_, h.after s (.markAbsent from_ to_)) := by
  unfold TrackCache.markAbsent
  simp only [CacheHistory.after]
  split
  · next hle =>
    refine ⟨hs.current, hs.uncached, AbsentRanges.separated_insert hs.separated hle, ?_⟩
    intro l hl
    rcases AbsentRanges.holds_of_insert hs.separated hle hl with hl | hl
    · obtain ⟨r, hr, hmem⟩ := hs.marked l hl
      exact ⟨r, List.mem_append_left _ hr, hmem⟩
    · exact ⟨(from_, to_), by simp, hl⟩
  · exact hs

theorem Sound.step {t : TrackCache × CacheHistory} {t' : TrackCache × CacheHistory}
    {a : CacheStep} (hs : Sound t) (hstep : observedStep t a = some t') : Sound t' := by
  obtain ⟨s, h⟩ := t
  obtain ⟨s', hs', rfl⟩ := Option.map_eq_some_iff.mp hstep
  cases a with
  | lookUp o =>
    cases hs'
    exact hs.lookUp o
  | put i =>
    obtain ⟨⟨o, generation⟩, hi, rfl⟩ := Option.map_eq_some_iff.mp hs'
    exact hs.put hi _
  | evict group =>
    cases hs'
    exact hs.evict group
  | markAbsent from_ to_ =>
    cases hs'
    exact hs.markAbsent from_ to_
  | ask group lo hi =>
    cases hs'
    exact ⟨hs.current, hs.uncached, hs.separated, hs.marked⟩
  | answer i =>
    obtain ⟨q, -, rfl⟩ := Option.map_eq_some_iff.mp hs'
    exact ⟨hs.current, hs.uncached, hs.separated, hs.marked⟩

/-- Every run leaves the cache sound. -/
theorem Sound.of_run {steps : List CacheStep} {t : TrackCache × CacheHistory}
    (hrun : run observedStep (TrackCache.empty, CacheHistory.empty) steps = some t) : Sound t :=
  run_invariant (P := fun _ _ => True) (fun _ _ _ hs _ hstep => hs.step hstep) steps _ _
    Sound.empty (Along.of_forall steps _ fun _ _ => trivial) hrun

end TrackCache

namespace CachedGroup

variable {group : UInt64}

/-- What is wanted of a group is what lies between the two IDs. -/
theorem wanted_eq_filter (c : CachedGroup group) (lo hi : UInt64) :
    c.wanted lo hi = c.objects.filter fun o => lo ≤ o.objectId ∧ o.objectId ≤ hi := by
  have hsorted := List.pairwise_map.mp c.sorted
  have hfront : c.objects.Pairwise fun o o' => o'.objectId < lo → o.objectId < lo :=
    hsorted.imp fun hlt hlt' => UInt64.lt_trans hlt hlt'
  have hrear : (c.objects.filter fun o => !decide (o.objectId < lo)).Pairwise
      fun o o' => o'.objectId ≤ hi → o.objectId ≤ hi :=
    (hsorted.sublist List.filter_sublist).imp fun hlt hle =>
      UInt64.le_trans (UInt64.le_of_lt hlt) hle
  unfold wanted
  rw [dropWhile_eq_filter (by simpa using hfront), takeWhile_eq_filter (by simpa using hrear),
    List.filter_filter]
  apply List.filter_congr
  intro o _
  rw [← decide_not, ← Bool.decide_and, decide_eq_decide, UInt64.not_lt]
  exact and_comm

theorem objectsIfComplete_eq_some {c : CachedGroup group} {lo hi : UInt64}
    {objects : List FetchObjectPayload} (h : c.objectsIfComplete lo hi = some objects) :
    objects = c.objects.filter fun o => lo ≤ o.objectId ∧ o.objectId ≤ hi := by
  unfold objectsIfComplete at h
  simp only at h
  split at h
  · rw [← wanted_eq_filter]
    exact (Option.some.inj h).symm
  · cases h

end CachedGroup

namespace TrackCache

def sampleObject (group id : UInt64) : FetchObjectPayload :=
  ⟨group, 0, id, 0, .subgroup, none, []⟩

/-- Two objects, the first of which is marked absent. -/
def sampleSteps : List CacheStep :=
  [.lookUp (sampleObject 5 0), .put 0, .lookUp (sampleObject 5 1), .put 0,
    .markAbsent ⟨5, 0⟩ ⟨5, 0⟩]

def sampleCache : TrackCache × CacheHistory :=
  (run observedStep (empty, CacheHistory.empty) sampleSteps).getD (empty, CacheHistory.empty)

theorem run_sampleSteps :
    run observedStep (empty, CacheHistory.empty) sampleSteps =
      some (sampleCache.1, sampleCache.2) := rfl

/-- What the cache holds, and what it returns, after any run. -/
theorem cache_sound {steps : List CacheStep} {s : TrackCache} {h : CacheHistory}
    (hrun : run observedStep (empty, CacheHistory.empty) steps = some (s, h)) :
    (∀ group generation, s.cached group = some generation →
      ∃ c, (s.generations group)[generation]? = some c ∧
        (∀ o ∈ c.objects, o.groupId = group) ∧
        c.objects.Pairwise (fun o o' => o.objectId < o'.objectId) ∧
        ∀ id, (c.objects.find? fun o => o.objectId = id) =
          (h.added group).find? fun o => o.objectId = id) ∧
      ∀ (q : Ask) (objects : List FetchObjectPayload), s.answer q = some objects →
        objects = ((s.held q).objects.filter fun o => q.lo ≤ o.objectId ∧ o.objectId ≤ q.hi) ∧
          ∀ id, q.lo ≤ id → id ≤ q.hi →
            (∃ o ∈ objects, o.location = ⟨q.group, id⟩) ∨
              ∃ r ∈ h.marked, r.1 ≤ ⟨q.group, id⟩ ∧ ⟨q.group, id⟩ ≤ r.2 := by
  have hsound := Sound.of_run hrun
  constructor
  · intro group generation hcached
    obtain ⟨c, hc, hfind⟩ := hsound.current group generation hcached
    exact ⟨c, hc, c.inGroup, List.pairwise_map.mp c.sorted, hfind⟩
  · intro q objects hanswer
    refine ⟨CachedGroup.objectsIfComplete_eq_some hanswer, ?_⟩
    intro id hlo hhi
    exact (CachedGroup.objectsIfComplete_sound hanswer hlo hhi).imp_right (hsound.marked _)

/-- The two objects are found in the cache, each as it was added. -/
theorem sampleCache_sound :
    ∃ c, (sampleCache.1.generations 5)[0]? = some c ∧
      (∀ o ∈ c.objects, o.groupId = 5) ∧
      c.objects.Pairwise (fun o o' => o.objectId < o'.objectId) ∧
      ∀ id, (c.objects.find? fun o => o.objectId = id) =
        (sampleCache.2.added 5).find? fun o => o.objectId = id :=
  (cache_sound run_sampleSteps).1 5 0 rfl

end TrackCache

/-! When a group that is accounted for is handed out. -/

namespace CachedGroup

variable {group : UInt64}

/-- No object of a range known to be absent comes before one outside of them. -/
def Aligned (a : AbsentRanges) (group : UInt64) (held : List UInt64) : Prop :=
  ∀ id ∈ held, a.Holds ⟨group, id⟩ → ∀ id' ∈ held, id < id' → a.Holds ⟨group, id'⟩

theorem aligned_cons_iff {a : AbsentRanges} {id : UInt64} {held : List UInt64}
    (hid : ¬ a.Holds ⟨group, id⟩) (hsorted : (id :: held).Pairwise (· < ·)) :
    Aligned a group (id :: held) ↔ Aligned a group held := by
  have hfirst := (List.pairwise_cons.mp hsorted).1
  constructor
  · intro h id' hid' habsent id'' hid'' hlt
    exact h id' (List.mem_cons_of_mem _ hid') habsent id'' (List.mem_cons_of_mem _ hid'') hlt
  · intro h id' hid' habsent id'' hid'' hlt
    rcases List.mem_cons.mp hid' with rfl | hmem
    · exact absurd habsent hid
    · rcases List.mem_cons.mp hid'' with rfl | hmem'
      · exact absurd (UInt64.lt_trans hlt (hfirst id' hmem)) (UInt64.lt_irrefl _)
      · exact h id' hmem habsent id'' hmem' hlt

theorem endContaining_eq_none {a : AbsentRanges} (ha : Ranges.Separated a.ranges) {l : Location}
    (h : a.endContaining l = none) : ¬ a.Holds l := by
  rintro ⟨r, hr, hl⟩
  have hsome : a.endContaining l = some r.2 := by
    rw [AbsentRanges.endContaining_eq]
    exact (Ranges.endOf_eq_some_iff ha).mpr ⟨r, hr, hl, rfl⟩
  rw [hsome] at h
  cases h

/-- The loop comes through exactly when its two iterators stay in step: an object behind the cursor
was absent and has not been taken, so that it hides the ones after it. -/
theorem accounts_iff {a : AbsentRanges} (ha : Ranges.Separated a.ranges) (hi : UInt64) :
    ∀ (fuel : Nat) (cursor : UInt64) (held : List UInt64),
      hi.toNat + 1 - cursor.toNat ≤ fuel →
      held.Pairwise (· < ·) → (∀ id ∈ held, id ≤ hi) →
      (∀ id ∈ held, id < cursor → a.Holds ⟨group, id⟩) →
      (∀ id, cursor ≤ id → id ≤ hi → id ∈ held ∨ a.Holds ⟨group, id⟩) →
      (accounts a group hi fuel cursor held = true ↔ Aligned a group held) := by
  intro fuel
  induction fuel with
  | zero =>
    intro cursor held hfuel _ hhi hbehind _
    refine iff_of_true rfl fun _ _ _ id' hid' _ => hbehind id' hid' ?_
    have hle := UInt64.le_iff_toNat_le.mp (hhi id' hid')
    rw [UInt64.lt_iff_toNat_lt]
    omega
  | succ fuel ih =>
    intro cursor held hfuel hsorted hhi hbehind hahead
    unfold accounts
    split
    · next hcursor =>
      split
      · next e hend =>
        split
        · next hpast =>
          simp only [Bool.or_eq_true, decide_eq_true_eq, ge_iff_le] at hpast
          refine iff_of_true rfl fun _ _ _ id' hid' _ => ?_
          by_cases hlt : id' < cursor
          · exact hbehind id' hid' hlt
          · refine holds_below_end hend (UInt64.not_lt.mp hlt) ?_
            exact hpast.imp_right fun hobject => UInt64.le_trans (hhi id' hid') hobject
        · next hpast =>
          simp only [Bool.or_eq_true, decide_eq_true_eq, not_or, ge_iff_le] at hpast
          have hbelow : e.object < hi := UInt64.not_le.mp hpast.2
          have hsucc := toNat_add_one hbelow
          have hcursor' := cursor_le_end hend hpast.1
          rw [UInt64.le_iff_toNat_le] at hcursor'
          refine ih (e.object + 1) held (by omega) hsorted hhi ?_ ?_
          · intro id hid hlt
            by_cases hlo : id < cursor
            · exact hbehind id hid hlo
            · refine holds_below_end hend (UInt64.not_lt.mp hlo) (Or.inr ?_)
              rw [UInt64.lt_iff_toNat_lt] at hlt
              rw [UInt64.le_iff_toNat_le]
              omega
          · intro id hlo hle
            refine hahead id ?_ hle
            rw [UInt64.le_iff_toNat_le] at hlo ⊢
            omega
      · next hend =>
        have hpresent := endContaining_eq_none ha hend
        have hmem : cursor ∈ held :=
          (hahead cursor (UInt64.le_refl _) hcursor).resolve_right hpresent
        split
        · next id held =>
          obtain ⟨hfirst, hrest⟩ := List.pairwise_cons.mp hsorted
          rw [List.forall_mem_cons] at hhi
          split
          · next heq =>
            subst heq
            rw [aligned_cons_iff hpresent hsorted]
            split
            · next next hnext =>
              have hsucc := checkedSucc_eq_some hnext
              refine ih next held (by omega) hrest hhi.2 ?_ ?_
              · intro id' hid' hlt
                have hafter := UInt64.lt_iff_toNat_lt.mp (hfirst id' hid')
                rw [UInt64.lt_iff_toNat_lt] at hlt
                omega
              · intro id' hlo hle
                have hne : id' ≠ id := by
                  rintro rfl
                  rw [UInt64.le_iff_toNat_le] at hlo
                  omega
                have hge : id ≤ id' := by
                  rw [UInt64.le_iff_toNat_le] at hlo ⊢
                  omega
                exact (hahead id' hge hle).imp_left fun hid' =>
                  (List.mem_cons.mp hid').resolve_left hne
            · next hnone =>
              have hlast := checkedSucc_eq_none hnone
              refine iff_of_true rfl fun _ _ _ id' hid' _ => ?_
              have hafter := UInt64.lt_iff_toNat_lt.mp (hfirst id' hid')
              have hbound := id'.toNat_lt
              omega
          · next hne =>
            -- the object that was not taken hides the one at the cursor
            have hafter : cursor ∈ held := (List.mem_cons.mp hmem).resolve_left (Ne.symm hne)
            have hlt := hfirst cursor hafter
            have habsent := hbehind id List.mem_cons_self hlt
            refine iff_of_false Bool.false_ne_true fun haligned => hpresent ?_
            exact haligned id List.mem_cons_self habsent cursor hmem hlt
        · cases hmem
    · next hcursor =>
      refine iff_of_true rfl fun _ _ _ id' hid' _ => hbehind id' hid' ?_
      exact UInt64.lt_of_le_of_lt (hhi id' hid') (UInt64.not_le.mp hcursor)

/-- A group that is accounted for is handed out exactly when what is wanted of it is aligned. -/
theorem objectsIfComplete_iff_aligned {c : CachedGroup group} (ha : Ranges.Separated c.absent.ranges)
    {lo hi : UInt64}
    (hall : ∀ id, lo ≤ id → id ≤ hi →
      (∃ o ∈ c.objects, o.objectId = id) ∨ c.absent.Holds ⟨group, id⟩) :
    (c.objectsIfComplete lo hi = some (c.wanted lo hi) ↔
      Aligned c.absent group ((c.wanted lo hi).map (·.objectId))) := by
  have hwanted := c.wanted_eq_filter lo hi
  have hmem : ∀ id, id ∈ (c.wanted lo hi).map (·.objectId) ↔
      (∃ o ∈ c.objects, o.objectId = id) ∧ lo ≤ id ∧ id ≤ hi := by
    intro id
    rw [hwanted, List.mem_map]
    constructor
    · rintro ⟨o, ho, rfl⟩
      rw [List.mem_filter, decide_eq_true_eq] at ho
      exact ⟨⟨o, ho.1, rfl⟩, ho.2⟩
    · rintro ⟨⟨o, ho, rfl⟩, hrange⟩
      exact ⟨o, List.mem_filter.mpr ⟨ho, decide_eq_true hrange⟩, rfl⟩
  have hsorted : ((c.wanted lo hi).map (·.objectId)).Pairwise (· < ·) := by
    rw [hwanted]
    exact c.sorted.sublist (List.filter_sublist.map _)
  rw [← accounts_iff ha hi (hi.toNat + 1 - lo.toNat) lo _ le_rfl hsorted]
  · unfold objectsIfComplete
    simp only
    split
    · next hacc => exact iff_of_true rfl hacc
    · next hacc => exact iff_of_false (by simp) hacc
  · exact fun id hid => ((hmem id).mp hid).2.2
  · intro id hid hlt
    exact absurd ((hmem id).mp hid).2.1 (UInt64.not_le.mpr hlt)
  · intro id hlo hle
    exact (hall id hlo hle).imp_left fun hid => (hmem id).mpr ⟨hid, hlo, hle⟩

end CachedGroup

namespace TrackCache

/-- A call that looks its group up and reads it at once. -/
def objectsIfComplete (s : TrackCache) (group lo hi : UInt64) : Option (List FetchObjectPayload) :=
  s.answer ⟨group, lo, hi, s.cached group⟩

/-- The objects that are cached of a group. -/
def heldObjects (s : TrackCache) (group : UInt64) : List FetchObjectPayload :=
  (s.held ⟨group, 0, 0, s.cached group⟩).objects

/-- When every ID is held or absent, the group is handed out exactly when no object inside an
absent range comes before one that is outside all of them. -/
theorem objectsIfComplete_iff {steps : List CacheStep} {s : TrackCache} {h : CacheHistory}
    (hrun : run observedStep (empty, CacheHistory.empty) steps = some (s, h))
    {group lo hi : UInt64}
    (hall : ∀ id, lo ≤ id → id ≤ hi →
      (∃ o ∈ s.heldObjects group, o.objectId = id) ∨ s.absent.Holds ⟨group, id⟩) :
    (s.objectsIfComplete group lo hi =
        some ((s.heldObjects group).filter fun o => lo ≤ o.objectId ∧ o.objectId ≤ hi)) ↔
      ¬ ∃ o ∈ s.heldObjects group, ∃ o' ∈ s.heldObjects group,
        lo ≤ o.objectId ∧ o.objectId < o'.objectId ∧ o'.objectId ≤ hi ∧
          s.absent.Holds ⟨group, o.objectId⟩ ∧ ¬ s.absent.Holds ⟨group, o'.objectId⟩ := by
  have hsound := Sound.of_run hrun
  set c : CachedGroup group :=
    ⟨s.heldObjects group, s.absent, (s.held ⟨group, 0, 0, s.cached group⟩).inGroup,
      (s.held ⟨group, 0, 0, s.cached group⟩).sorted⟩ with hc
  have hwanted := c.wanted_eq_filter lo hi
  have hmem : ∀ o, o ∈ c.wanted lo hi ↔
      o ∈ s.heldObjects group ∧ lo ≤ o.objectId ∧ o.objectId ≤ hi := by
    intro o
    rw [hwanted, List.mem_filter, decide_eq_true_eq]
  have hiff : c.objectsIfComplete lo hi = some (c.wanted lo hi) ↔
      CachedGroup.Aligned s.absent group ((c.wanted lo hi).map (·.objectId)) :=
    CachedGroup.objectsIfComplete_iff_aligned hsound.separated hall
  rw [← hwanted]
  refine hiff.trans ?_
  constructor
  · rintro haligned ⟨o, ho, o', ho', hlo, hlt, hhi, habsent, hpresent⟩
    refine hpresent (haligned _ (List.mem_map_of_mem ((hmem o).mpr ⟨ho, hlo, ?_⟩)) habsent _
      (List.mem_map_of_mem ((hmem o').mpr ⟨ho', ?_, hhi⟩)) hlt)
    · exact UInt64.le_of_lt (UInt64.lt_of_lt_of_le hlt hhi)
    · exact UInt64.le_of_lt (UInt64.lt_of_le_of_lt hlo hlt)
  · intro hnone id hid habsent id' hid' hlt
    obtain ⟨o, ho, rfl⟩ := List.mem_map.mp hid
    obtain ⟨o', ho', rfl⟩ := List.mem_map.mp hid'
    obtain ⟨ho, hlo, -⟩ := (hmem o).mp ho
    obtain ⟨ho', -, hhi⟩ := (hmem o').mp ho'
    by_contra hpresent
    exact hnone ⟨o, ho, o', ho', hlo, hlt, hhi, habsent, hpresent⟩

theorem sampleCache_accounted (id : UInt64) (hlo : 0 ≤ id) (hhi : id ≤ 1) :
    (∃ o ∈ sampleCache.1.heldObjects 5, o.objectId = id) ∨ sampleCache.1.absent.Holds ⟨5, id⟩ := by
  have hcases : id = 0 ∨ id = 1 := by
    rw [UInt64.le_iff_toNat_le] at hhi
    rw [← UInt64.toNat_inj, ← UInt64.toNat_inj]
    have hone : (1 : UInt64).toNat = 1 := rfl
    have hzero : (0 : UInt64).toNat = 0 := rfl
    omega
  rcases hcases with rfl | rfl
  · exact Or.inl ⟨sampleObject 5 0, by decide, rfl⟩
  · exact Or.inl ⟨sampleObject 5 1, by decide, rfl⟩

/-- Nothing is missing, and the group is not handed out. -/
theorem sampleCache_refused :
    run observedStep (empty, CacheHistory.empty) sampleSteps =
        some (sampleCache.1, sampleCache.2) ∧
      (∀ id, 0 ≤ id → id ≤ 1 →
        (∃ o ∈ sampleCache.1.heldObjects 5, o.objectId = id) ∨
          sampleCache.1.absent.Holds ⟨5, id⟩) ∧
      sampleCache.1.objectsIfComplete 5 0 1 = none :=
  ⟨run_sampleSteps, sampleCache_accounted, by decide⟩

theorem sampleCache_iff :
    (sampleCache.1.objectsIfComplete 5 0 1 =
        some ((sampleCache.1.heldObjects 5).filter fun o => 0 ≤ o.objectId ∧ o.objectId ≤ 1)) ↔
      ¬ ∃ o ∈ sampleCache.1.heldObjects 5, ∃ o' ∈ sampleCache.1.heldObjects 5,
        0 ≤ o.objectId ∧ o.objectId < o'.objectId ∧ o'.objectId ≤ 1 ∧
          sampleCache.1.absent.Holds ⟨5, o.objectId⟩ ∧
            ¬ sampleCache.1.absent.Holds ⟨5, o'.objectId⟩ :=
  objectsIfComplete_iff run_sampleSteps sampleCache_accounted

end TrackCache

end Moqtail
