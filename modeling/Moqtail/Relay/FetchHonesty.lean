import Moqtail.Relay.FetchServe

/-! What a FETCH stream leaves unsaid.

A subscriber takes every Location of the range that a FETCH stream passes over for one that
holds no Object. The walk is followed in delivery order: what lies before the group it is at
is accounted for, and each pass of the loop accounts for the groups it disposes of. -/
namespace Moqtail

open Lib

/-! Delivery order. -/

def groupPos (descending : Bool) (group : UInt64) : Nat :=
  if descending then 2 ^ 64 - 1 - group.toNat else group.toNat

/-- The place of a Location in the order of delivery. -/
def deliveryPos (descending : Bool) (l : Location) : Nat :=
  groupPos descending l.group * 2 ^ 64 + l.object.toNat

theorem deliveryPos_lt_of_group {descending : Bool} {l l' : Location}
    (h : groupPos descending l.group < groupPos descending l'.group) :
    deliveryPos descending l < deliveryPos descending l' := by
  have hl := l.object.toNat_lt
  unfold deliveryPos
  omega

theorem deliveryPos_le_of_object {descending : Bool} {l l' : Location} (hgroup : l.group = l'.group)
    (hobject : l.object ≤ l'.object) : deliveryPos descending l ≤ deliveryPos descending l' := by
  rw [UInt64.le_iff_toNat_le] at hobject
  unfold deliveryPos
  rw [hgroup]
  omega

/-! What the parties said. -/

/-- A marker that leaves its range open. -/
def FetchObject.Unsure : FetchObject → Prop
  | .object _ => False
  | .endOfRange kind _ => kind ≠ .nonExistent

/-- An Unknown or Timed Out marker covers the Locations after the entry before it, up to its
own. -/
def MarkedUnknown (descending : Bool) (entries : List FetchObject) (l : Location) : Prop :=
  ∃ before marker after, entries = before ++ marker :: after ∧ marker.Unsure ∧
    deliveryPos descending l ≤ deliveryPos descending marker.location ∧
    ∀ entry ∈ before, deliveryPos descending entry.location < deliveryPos descending l

namespace Response

/-- The entries lie in the range asked for. -/
def InRange (r : Response) : Prop :=
  ∀ entry ∈ r.heard, r.start ≤ entry.location ∧ entry.location ≤ r.end_

/-- The entries come in delivery order. -/
def InOrder (descending : Bool) (r : Response) : Prop :=
  (r.heard.map fun entry => deliveryPos descending entry.location).Pairwise (· < ·)

/-- A Location the response has no Object for, and has come past: an entry that leaves no doubt
follows, or the response is over and was whole. Either way it lies within every End Location
the response has declared. -/
def PassedOver (descending : Bool) (r : Response) (l : Location) : Prop :=
  (r.start ≤ l ∧ l ≤ r.end_) ∧ (∀ e ∈ r.declared, l ≤ e) ∧
    ((∃ before entry after, r.heard = before ++ entry :: after ∧ ¬ entry.Unsure ∧
        (∀ o, entry = .object o → o.location ≠ l) ∧
        deliveryPos descending l ≤ deliveryPos descending entry.location ∧
        ∀ earlier ∈ before, deliveryPos descending earlier.location < deliveryPos descending l) ∨
      (r.closedCleanly = true ∧ r.declared ≠ [] ∧
        ∀ entry ∈ r.heard, deliveryPos descending entry.location < deliveryPos descending l))

/-- The response comes past no Location that lies beyond an End Location it declares. -/
def ReachesItsEnd (descending : Bool) (r : Response) : Prop :=
  ∀ l, r.start ≤ l → l ≤ r.end_ →
    (r.closedCleanly = true ∨
      ∃ entry ∈ r.heard, deliveryPos descending l ≤ deliveryPos descending entry.location) →
    ∀ e ∈ r.declared, l ≤ e

end Response

namespace FetchDelivery

def InRange (d : FetchDelivery) (l : Location) : Prop := d.start ≤ l ∧ l ≤ d.endLocation

def pos (d : FetchDelivery) (l : Location) : Nat := deliveryPos d.descending l

def gpos (d : FetchDelivery) (group : UInt64) : Nat := groupPos d.descending group

end FetchDelivery

namespace FetchState

/-- The Location is written, left open, rejected, known to be absent or passed over. -/
def Accounted (d : FetchDelivery) (s : FetchState) (l : Location) : Prop :=
  (∃ o, .object o ∈ s.entries ∧ o.location = l) ∨
    MarkedUnknown d.descending s.entries l ∨
    (∃ o ∈ s.offered, o.location = l ∧ d.filter o = false) ∨
    (∃ cache ∈ s.caches, (cache l.group).absent.Holds l) ∨
    ∃ r ∈ s.responses, r.PassedOver d.descending l

/-- Later states know more. -/
structure Grows (s s' : FetchState) : Prop where
  entries : ∃ more, s'.entries = s.entries ++ more
  offered : ∀ o ∈ s.offered, o ∈ s'.offered
  caches : ∀ cache ∈ s.caches, cache ∈ s'.caches
  responses : ∀ r ∈ s.responses, r ∈ s'.responses

theorem Accounted.mono {d : FetchDelivery} {s s' : FetchState} {l : Location}
    (h : s.Accounted d l) (hgrows : s.Grows s') : s'.Accounted d l := by
  obtain ⟨more, hentries⟩ := hgrows.entries
  rcases h with ⟨o, ho, hl⟩ | ⟨before, marker, after, hsplit, hmarked⟩ | ⟨o, ho, hl⟩ |
    ⟨cache, hcache, hl⟩ | ⟨r, hr, hl⟩
  · exact Or.inl ⟨o, by simp [hentries, ho], hl⟩
  · refine Or.inr (Or.inl ⟨before, marker, after ++ more, ?_, hmarked⟩)
    simp [hentries, hsplit]
  · exact Or.inr (Or.inr (Or.inl ⟨o, hgrows.offered o ho, hl⟩))
  · exact Or.inr (Or.inr (Or.inr (Or.inl ⟨cache, hgrows.caches cache hcache, hl⟩)))
  · exact Or.inr (Or.inr (Or.inr (Or.inr ⟨r, hgrows.responses r hr, hl⟩)))

end FetchState

/-! Ranges and gaps. -/

namespace Location

theorem max_le {a b l : Location} (ha : a ≤ l) (hb : b ≤ l) : max a b ≤ l := by
  unfold max
  split
  · exact hb
  · exact ha

theorem le_min {a b l : Location} (ha : l ≤ a) (hb : l ≤ b) : l ≤ min a b := by
  unfold min
  split
  · exact ha
  · exact hb

theorem group_le {a b : Location} (h : a ≤ b) : a.group.toNat ≤ b.group.toNat := by
  rcases h with h | ⟨h, -⟩
  · rw [UInt64.lt_iff_toNat_lt] at h
    omega
  · rw [h]

theorem object_le {a b : Location} (h : a ≤ b) (hgroup : a.group = b.group) :
    a.object ≤ b.object := by
  rcases h with h | ⟨-, h⟩
  · rw [UInt64.lt_iff_toNat_lt, hgroup] at h
    omega
  · exact h

theorem max_group {group : UInt64} {start : Location} (h : start.group.toNat ≤ group.toNat) :
    (max ⟨group, 0⟩ start).group = group := by
  unfold max
  split
  · next hle =>
    have hge := group_le hle
    exact UInt64.toNat_inj.mp (Nat.le_antisymm h hge)
  · rfl

theorem min_group {group : UInt64} {end_ : Location} (h : group.toNat ≤ end_.group.toNat) :
    (min ⟨group, maxId⟩ end_).group = group := by
  unfold min
  split
  · rfl
  · next hle =>
    rcases Nat.lt_or_ge group.toNat end_.group.toNat with hlt | hge
    · exact absurd (Or.inl (UInt64.lt_iff_toNat_lt.mpr hlt)) hle
    · exact UInt64.toNat_inj.mp (Nat.le_antisymm hge h)

theorem first_le {group : UInt64} {l : Location} (h : group.toNat ≤ l.group.toNat) :
    (⟨group, 0⟩ : Location) ≤ l := by
  rcases Nat.lt_or_ge group.toNat l.group.toNat with hlt | hge
  · exact Or.inl (UInt64.lt_iff_toNat_lt.mpr hlt)
  · refine Or.inr ⟨UInt64.toNat_inj.mp (Nat.le_antisymm h hge), ?_⟩
    rw [UInt64.le_iff_toNat_le]
    exact Nat.zero_le _

theorem le_last {group : UInt64} {l : Location} (h : l.group.toNat ≤ group.toNat) :
    l ≤ (⟨group, maxId⟩ : Location) := by
  rcases Nat.lt_or_ge l.group.toNat group.toNat with hlt | hge
  · exact Or.inl (UInt64.lt_iff_toNat_lt.mpr hlt)
  · exact Or.inr ⟨UInt64.toNat_inj.mp (Nat.le_antisymm h hge), le_maxId _⟩

end Location

theorem deliveredStart_group (start end_ : Location) (groupOrder : GroupOrder) :
    (deliveredStart start end_ groupOrder).group = start.group := by
  unfold deliveredStart
  split <;> rfl

theorem deliveredStart_le (start end_ : Location) (groupOrder : GroupOrder) :
    deliveredStart start end_ groupOrder ≤ start := by
  unfold deliveredStart
  split
  · exact Location.first_le le_rfl
  · exact Or.inr ⟨rfl, UInt64.le_refl _⟩

namespace FetchDelivery

variable {d : FetchDelivery}

/-- What the range wants of a group is between the group's bounds. -/
theorem wanted_bounds {l : Location} (h : d.InRange l) :
    (d.wanted l.group).1 ≤ l.object ∧ l.object ≤ (d.wanted l.group).2 := by
  have hstart := Location.group_le h.1
  have hend := Location.group_le h.2
  have hlo : Location.max ⟨l.group, 0⟩ d.start ≤ l := Location.max_le (Location.first_le le_rfl) h.1
  have hhi : l ≤ Location.min ⟨l.group, maxId⟩ d.endLocation :=
    Location.le_min (Location.le_last le_rfl) h.2
  exact ⟨Location.object_le hlo (Location.max_group hstart),
    Location.object_le hhi (Location.min_group hend).symm⟩

/-- The part asked for of the groups of a gap has every Location of the range in them. -/
theorem requestedPart_bounds {gapStart gapEnd : UInt64} {l : Location} (h : d.InRange l)
    (hstart : gapStart.toNat ≤ l.group.toNat) (hend : l.group.toNat ≤ gapEnd.toNat) :
    (requestedPart gapStart gapEnd d.start d.endLocation).1 ≤ l ∧
      l ≤ (requestedPart gapStart gapEnd d.start d.endLocation).2 :=
  ⟨Location.max_le (Location.first_le hstart) h.1, Location.le_min (Location.le_last hend) h.2⟩

/-- The groups `gapStart..=gapEnd` are the next ones in delivery order, from `group` on. -/
structure IsGap (d : FetchDelivery) (group gapStart gapEnd : UInt64) : Prop where
  first : if d.descending then gapEnd = group else gapStart = group
  ordered : gapStart.toNat ≤ gapEnd.toNat
  start : d.start.group.toNat ≤ gapStart.toNat
  end_ : gapEnd.toNat ≤ d.endLocation.group.toNat

theorem IsGap.self {group : UInt64} (hstart : d.start.group.toNat ≤ group.toNat)
    (hend : group.toNat ≤ d.endLocation.group.toNat) : d.IsGap group group group where
  first := by split <;> rfl
  ordered := le_rfl
  start := hstart
  end_ := hend

/-- A gap starts with its first group. -/
theorem IsGap.gpos_le {group gapStart gapEnd g : UInt64} (hgap : d.IsGap group gapStart gapEnd)
    (hlo : gapStart.toNat ≤ g.toNat) (hhi : g.toNat ≤ gapEnd.toNat) : d.gpos group ≤ d.gpos g := by
  have hfirst := hgap.first
  unfold gpos groupPos
  cases hdesc : d.descending with
  | true =>
    simp only [hdesc, if_true] at hfirst ⊢
    subst hfirst
    omega
  | false =>
    simp only [hdesc, Bool.false_eq_true, if_false] at hfirst ⊢
    subst hfirst
    omega

theorem IsGap.lastDelivered_group {group gapStart gapEnd : UInt64}
    (hgap : d.IsGap group gapStart gapEnd) :
    gapStart.toNat ≤
        (lastDelivered gapStart gapEnd d.start d.endLocation d.descending).group.toNat ∧
      (lastDelivered gapStart gapEnd d.start d.endLocation d.descending).group.toNat ≤
        gapEnd.toNat := by
  have hordered := hgap.ordered
  have hbounds := hgap.end_
  unfold lastDelivered requestedPart
  cases d.descending with
  | true =>
    simp only [if_true]
    rw [Location.min_group (by omega)]
    omega
  | false =>
    simp only [Bool.false_eq_true, if_false]
    rw [Location.min_group (by omega)]
    omega

/-- Every Location of the range in a gap is delivered no later than the last of the gap. -/
theorem IsGap.pos_le_lastDelivered {group gapStart gapEnd : UInt64}
    (hgap : d.IsGap group gapStart gapEnd) {l : Location} (h : d.InRange l)
    (hstart : gapStart.toNat ≤ l.group.toNat) (hend : l.group.toNat ≤ gapEnd.toNat) :
    d.pos l ≤ d.pos (lastDelivered gapStart gapEnd d.start d.endLocation d.descending) := by
  have hordered := hgap.ordered
  have hbound := hgap.end_
  have hl := l.group.toNat_lt
  have hle := h.2
  -- the last group of the gap, and the last Location of the range in it
  obtain ⟨last, hlast, hpos, hrange⟩ : ∃ last,
      lastDelivered gapStart gapEnd d.start d.endLocation d.descending =
        Location.min ⟨last, maxId⟩ d.endLocation ∧
      (l.group ≠ last → d.gpos l.group < d.gpos last) ∧
      last.toNat ≤ d.endLocation.group.toNat := by
    unfold lastDelivered gpos groupPos
    cases d.descending with
    | true =>
      refine ⟨gapStart, rfl, fun hne => ?_, by omega⟩
      have : l.group.toNat ≠ gapStart.toNat := fun heq => hne (UInt64.toNat_inj.mp heq)
      simp only [if_true]
      omega
    | false =>
      refine ⟨gapEnd, rfl, fun hne => ?_, hbound⟩
      have : l.group.toNat ≠ gapEnd.toNat := fun heq => hne (UInt64.toNat_inj.mp heq)
      simp only [Bool.false_eq_true, if_false]
      omega
  have hgroup := Location.min_group hrange
  rw [hlast]
  by_cases hsame : l.group = last
  · refine deliveryPos_le_of_object (hsame.trans hgroup.symm) ?_
    have hmin : l ≤ Location.min ⟨last, maxId⟩ d.endLocation :=
      Location.le_min (Location.le_last (by rw [hsame])) hle
    exact Location.object_le hmin (hsame.trans hgroup.symm)
  · refine Nat.le_of_lt (deliveryPos_lt_of_group ?_)
    rw [hgroup]
    exact hpos hsame

end FetchDelivery

namespace FetchState

theorem scanUp_bounds (complete : UInt64 → Bool) (fuel : Nat) : ∀ group : UInt64,
    group.toNat + fuel < 2 ^ 64 → group.toNat ≤ (scanUp complete fuel group).toNat ∧
      (scanUp complete fuel group).toNat ≤ group.toNat + fuel := by
  induction fuel with
  | zero => exact fun group _ => ⟨le_rfl, le_rfl⟩
  | succ fuel ih =>
    intro group hfuel
    have hnext : (group + 1).toNat = group.toNat + 1 := by
      rw [UInt64.toNat_add, UInt64.toNat_one, Nat.mod_eq_of_lt (by omega)]
    unfold scanUp
    split
    · exact ⟨le_rfl, by omega⟩
    · have hrec := ih (group + 1) (by omega)
      omega

theorem toNat_sub_one {v : UInt64} (h : 0 < v.toNat) : (v - 1).toNat = v.toNat - 1 := by
  have hle : (1 : UInt64) ≤ v := by
    rw [UInt64.le_iff_toNat_le, UInt64.toNat_one]
    exact h
  rw [UInt64.toNat_sub_of_le _ _ hle, UInt64.toNat_one]

theorem scanDown_bounds (complete : UInt64 → Bool) (fuel : Nat) : ∀ group : UInt64,
    fuel ≤ group.toNat → (scanDown complete fuel group).toNat ≤ group.toNat ∧
      group.toNat ≤ (scanDown complete fuel group).toNat + fuel := by
  induction fuel with
  | zero => exact fun group _ => ⟨le_rfl, le_rfl⟩
  | succ fuel ih =>
    intro group hfuel
    have hprev := toNat_sub_one (v := group) (by omega)
    unfold scanDown
    split
    · exact ⟨le_rfl, by omega⟩
    · have hrec := ih (group - 1) (by omega)
      omega

theorem gap_isGap {d : FetchDelivery} {group : UInt64}
    (hstart : d.start.group.toNat ≤ group.toNat)
    (hend : group.toNat ≤ d.endLocation.group.toNat) (it : Iteration) :
    d.IsGap group (gap d group it).1 (gap d group it).2 := by
  have hbound := d.endLocation.group.toNat_lt
  unfold gap
  simp only
  cases hdesc : d.descending with
  | true =>
    have hscan := scanDown_bounds
      (fun g => ((it.cache g).objectsIfComplete (d.wanted g).1 (d.wanted g).2).isSome)
      (group.toNat - d.start.group.toNat) group (by omega)
    refine ⟨by simp [hdesc], ?_, ?_, ?_⟩ <;> simp only [if_true] <;> omega
  | false =>
    have hscan := scanUp_bounds
      (fun g => ((it.cache g).objectsIfComplete (d.wanted g).1 (d.wanted g).2).isSome)
      (d.endLocation.group.toNat - group.toNat) group (by omega)
    refine ⟨by simp [hdesc], ?_, ?_, ?_⟩ <;> simp only [Bool.false_eq_true, if_false] <;> omega

end FetchState

/-! A response as it is read. -/

/-- The entry is written on the downstream stream. -/
def FetchObject.passes (filter : FetchObjectPayload → Bool) : FetchObject → Bool
  | .object o => filter o
  | .endOfRange _ _ => true

namespace Fill

/-- What is written is what was heard and passes, the last entry is the last one heard, and an
End Location is known once FETCH_OK has come. -/
structure Faithful (filter : FetchObjectPayload → Bool) (f : Fill) : Prop where
  entries : f.entries = f.heard.filter (FetchObject.passes filter)
  last : f.absences.last = f.heard.getLast?.map (·.location)
  fetchOk : f.absences.fetchOk = true → f.declared ≠ []

theorem Faithful.new (filter : FetchObjectPayload → Bool) (start end_ : Location)
    (groupOrder : GroupOrder) (stopReason : FetchStop) :
    (Fill.new (ResponseAbsences.new start end_ groupOrder) stopReason).Faithful filter :=
  ⟨rfl, rfl, by simp [Fill.new, ResponseAbsences.new]⟩

theorem Faithful.onObject {filter : FetchObjectPayload → Bool} {f : Fill} (h : f.Faithful filter)
    (o : FetchObjectPayload) : (f.onObject filter o).Faithful filter where
  entries := by
    simp only [Fill.onObject, List.filter_append, h.entries]
    cases hpass : filter o with
    | true => simp [FetchObject.passes, hpass]
    | false => simp [FetchObject.passes, hpass]
  last := by simp [Fill.onObject, ResponseAbsences.onObject, FetchObject.location]
  fetchOk := h.fetchOk

theorem Faithful.onEndOfRange {filter : FetchObjectPayload → Bool} {f : Fill}
    (h : f.Faithful filter) (kind : EndOfRangeKind) (location : Location) :
    (f.onEndOfRange kind location).Faithful filter where
  entries := by
    simp only [Fill.onEndOfRange, List.filter_append, h.entries]
    rw [List.filter_cons_of_pos rfl, List.filter_nil]
  last := by simp [Fill.onEndOfRange, ResponseAbsences.onMarker, FetchObject.location]
  fetchOk := h.fetchOk

theorem Faithful.loop {filter : FetchObjectPayload → Bool} (events : List FillEvent) :
    ∀ f : Fill, f.Faithful filter → (Fill.loop filter events f).Faithful filter := by
  induction events with
  | nil => exact fun f h => h
  | cons event events ih =>
    intro f h
    cases event with
    | accepted endLocation =>
      exact ih _ ⟨h.entries, h.last, fun _ => by simp [Fill.onAccepted]⟩
    | endOfRange kind location => exact ih _ (h.onEndOfRange kind location)
    | object o => exact ih _ (h.onObject o)
    | malformedTrack => exact ⟨h.entries, h.last, h.fetchOk⟩
    | streamClosed => exact ⟨h.entries, h.last, h.fetchOk⟩
    | error => exact h
    | channelClosed => exact h
    | timedOut => exact h
    | stopped reason => exact ⟨h.entries, h.last, h.fetchOk⟩

end Fill

/-- The first entry at or after `l`, if there is one. -/
theorem split_at (descending : Bool) (l : Location) (entries : List FetchObject) :
    (∀ entry ∈ entries, deliveryPos descending entry.location < deliveryPos descending l) ∨
      ∃ before entry after, entries = before ++ entry :: after ∧
        deliveryPos descending l ≤ deliveryPos descending entry.location ∧
        ∀ earlier ∈ before, deliveryPos descending earlier.location < deliveryPos descending l := by
  induction entries with
  | nil => exact Or.inl (by simp)
  | cons entry entries ih =>
    by_cases hpos : deliveryPos descending l ≤ deliveryPos descending entry.location
    · exact Or.inr ⟨[], entry, entries, rfl, hpos, by simp⟩
    · have hlt := Nat.lt_of_not_le hpos
      rcases ih with hall | ⟨before, found, after, rfl, hfound, hbefore⟩
      · exact Or.inl (List.forall_mem_cons.mpr ⟨hlt, hall⟩)
      · exact Or.inr ⟨entry :: before, found, after, rfl, hfound,
          List.forall_mem_cons.mpr ⟨hlt, hbefore⟩⟩

namespace FetchState

variable {d : FetchDelivery}

/-- The rest of the response's range is marked, or the response came to its end. -/
theorem accounted_of_fill {s' : FetchState} {r : Response} {earlier written rest : List FetchObject}
    {l : Location} (hr : r ∈ s'.responses) (hentries : s'.entries = earlier ++ (written ++ rest))
    (hwritten : written = r.heard.filter (FetchObject.passes d.filter))
    (hoffered : ∀ o, .object o ∈ r.heard → o ∈ s'.offered)
    (hin : r.start ≤ l ∧ l ≤ r.end_) (hreach : r.ReachesItsEnd d.descending)
    (hearlier : ∀ entry ∈ earlier, d.pos entry.location < d.pos l)
    (hrest : (∀ entry ∈ r.heard, d.pos entry.location < d.pos l) →
      (r.closedCleanly = true ∧ r.declared ≠ []) ∨
        ∃ location, rest = [unknownUpTo location] ∧ d.pos l ≤ d.pos location) :
    s'.Accounted d l := by
  -- whatever is written before an entry at or after `l` comes before `l`
  have hbefore : ∀ part : List FetchObject, (∀ entry ∈ part, d.pos entry.location < d.pos l) →
      ∀ entry ∈ earlier ++ part.filter (FetchObject.passes d.filter),
        d.pos entry.location < d.pos l := by
    intro part hpart entry hmem
    rcases List.mem_append.mp hmem with hmem | hmem
    · exact hearlier entry hmem
    · exact hpart entry (List.mem_filter.mp hmem).1
  rcases split_at d.descending l r.heard with hall | ⟨before, entry, after, hheard, hpos, hprior⟩
  · rcases hrest hall with ⟨hclosed, hdeclared⟩ | ⟨location, rfl, hle⟩
    · exact Or.inr (Or.inr (Or.inr (Or.inr ⟨r, hr, hin, hreach l hin.1 hin.2 (Or.inl hclosed),
        Or.inr ⟨hclosed, hdeclared, hall⟩⟩)))
    · refine Or.inr (Or.inl ⟨earlier ++ written, unknownUpTo location, [], ?_, by
        simp [unknownUpTo, FetchObject.Unsure], hle, ?_⟩)
      · rw [hentries, List.append_assoc]
      · rw [hwritten]
        exact hbefore r.heard hall
  · have hpassed : ¬ entry.Unsure → (∀ o, entry = .object o → o.location ≠ l) →
        s'.Accounted d l := fun hsure hother =>
      Or.inr (Or.inr (Or.inr (Or.inr ⟨r, hr, hin,
        hreach l hin.1 hin.2 (Or.inr ⟨entry, by simp [hheard], hpos⟩),
        Or.inl ⟨before, entry, after, hheard, hsure, hother, hpos, hprior⟩⟩)))
    cases entry with
    | object o =>
      have hmem : FetchObject.object o ∈ r.heard := by simp [hheard]
      by_cases hl : o.location = l
      · cases hpass : d.filter o with
        | true =>
          refine Or.inl ⟨o, ?_, hl⟩
          have hin : FetchObject.object o ∈ r.heard.filter (FetchObject.passes d.filter) :=
            List.mem_filter.mpr ⟨hmem, hpass⟩
          simp [hentries, hwritten, hin]
        | false => exact Or.inr (Or.inr (Or.inl ⟨o, hoffered o hmem, hl, hpass⟩))
      · refine hpassed id fun other hother => ?_
        cases hother
        exact hl
    | endOfRange kind location =>
      by_cases hkind : kind = .nonExistent
      · exact hpassed (by simp [FetchObject.Unsure, hkind]) (by simp)
      · refine Or.inr (Or.inl ⟨earlier ++ before.filter (FetchObject.passes d.filter),
          .endOfRange kind location,
          after.filter (FetchObject.passes d.filter) ++ rest, ?_, hkind, hpos,
          hbefore before hprior⟩)
        rw [hentries, hwritten, hheard, List.filter_append, List.filter_cons_of_pos rfl]
        simp

/-! The walk. -/

/-- The walk is at a group of the range, everything before it is accounted for and nothing
from it on is written. The fetch that is pending at the start is used at the first group or
not at all. -/
structure Inv (d : FetchDelivery) (s : FetchState) : Prop where
  bounds : ∀ group, s.walk = .serving group →
    d.start.group.toNat ≤ group.toNat ∧ group.toNat ≤ d.endLocation.group.toNat
  written : ∀ group, s.walk = .serving group → ∀ entry ∈ s.entries,
    d.gpos entry.location.group < d.gpos group
  before : ∀ group, s.walk = .serving group → s.stopReason = .running → ∀ l, d.InRange l →
    d.gpos l.group < d.gpos group → s.Accounted d l
  done : s.walk = .ended → s.stopReason = .running → ∀ l, d.InRange l → s.Accounted d l
  pending : s.pendingUpstream = true → s.upstreamGapCount = 0 ∧
    (d.maxUpstreamFetchGaps = 0 ∨ ∀ group, s.walk = .serving group →
      group = if d.descending then d.endLocation.group else d.start.group)

/-- In delivery order a Location of the range comes before a gap, in it, or is at its next
group or later. -/
theorem nextAfter_cases {group gapStart gapEnd : UInt64} (hgap : d.IsGap group gapStart gapEnd) :
    (∃ next, d.nextAfter gapStart gapEnd = .serving next ∧
      (d.start.group.toNat ≤ next.toNat ∧ next.toNat ≤ d.endLocation.group.toNat) ∧
      (∀ g : UInt64, gapStart.toNat ≤ g.toNat → g.toNat ≤ gapEnd.toNat → d.gpos g < d.gpos next) ∧
      (d.gpos group < d.gpos next) ∧
      ∀ g : UInt64, d.gpos g < d.gpos next → d.gpos g < d.gpos group ∨
        (gapStart.toNat ≤ g.toNat ∧ g.toNat ≤ gapEnd.toNat)) ∨
    (d.nextAfter gapStart gapEnd = .ended ∧ ∀ l, d.InRange l → d.gpos l.group < d.gpos group ∨
      (gapStart.toNat ≤ l.group.toNat ∧ l.group.toNat ≤ gapEnd.toNat)) := by
  have hordered := hgap.ordered
  have hstart := hgap.start
  have hend := hgap.end_
  have hfirst := hgap.first
  have hbound := d.endLocation.group.toNat_lt
  unfold FetchDelivery.nextAfter FetchDelivery.gpos groupPos
  cases hdesc : d.descending with
  | true =>
    simp only [hdesc, if_true] at hfirst ⊢
    subst hfirst
    split
    · next hlt =>
      rw [gt_iff_lt, UInt64.lt_iff_toNat_lt] at hlt
      have hprev := toNat_sub_one (v := gapStart) (by omega)
      refine Or.inl ⟨gapStart - 1, rfl, by omega, ?_, by omega, ?_⟩
      · intro g _ _
        omega
      · intro g hg
        have := g.toNat_lt
        omega
    · next hlt =>
      rw [gt_iff_lt, UInt64.lt_iff_toNat_lt] at hlt
      refine Or.inr ⟨rfl, fun l hl => ?_⟩
      have hlo := Location.group_le hl.1
      have := l.group.toNat_lt
      omega
  | false =>
    simp only [hdesc, Bool.false_eq_true, if_false] at hfirst ⊢
    subst hfirst
    split
    · next hlt =>
      have hnext := CachedGroup.toNat_add_one hlt
      rw [UInt64.lt_iff_toNat_lt] at hlt
      refine Or.inl ⟨gapEnd + 1, rfl, by omega, ?_, by omega, ?_⟩
      · intro g _ _
        omega
      · intro g hg
        omega
    · next hlt =>
      rw [UInt64.lt_iff_toNat_lt] at hlt
      refine Or.inr ⟨rfl, fun l hl => ?_⟩
      have hhi := Location.group_le hl.2
      omega

/-- A pass that disposes of a gap: it writes only inside it and accounts for all of it. -/
theorem Inv.advance {s s' : FetchState} (h : s.Inv d) {group gapStart gapEnd : UInt64}
    (hwalk : s.walk = .serving group) (hrunning : s.stopReason = .running)
    (hgap : d.IsGap group gapStart gapEnd) (hgrows : s.Grows s')
    (hwalk' : s'.walk = d.nextAfter gapStart gapEnd)
    (hentries : ∀ entry ∈ s'.entries, entry ∈ s.entries ∨
      (gapStart.toNat ≤ entry.location.group.toNat ∧ entry.location.group.toNat ≤ gapEnd.toNat))
    (haccounted : s'.stopReason = .running → ∀ l, d.InRange l →
      gapStart.toNat ≤ l.group.toNat → l.group.toNat ≤ gapEnd.toNat → s'.Accounted d l)
    (hpending : s'.pendingUpstream = true → s'.upstreamGapCount = 0 ∧
      d.maxUpstreamFetchGaps = 0) : s'.Inv d := by
  have hpend : s'.pendingUpstream = true → s'.upstreamGapCount = 0 ∧
      (d.maxUpstreamFetchGaps = 0 ∨ ∀ group, s'.walk = .serving group →
        group = if d.descending then d.endLocation.group else d.start.group) :=
    fun hp => ⟨(hpending hp).1, Or.inl (hpending hp).2⟩
  rcases nextAfter_cases hgap with ⟨next, hnext, hbounds, hin, hpast, hsplit⟩ | ⟨hnext, hsplit⟩
  · rw [hnext] at hwalk'
    refine ⟨?_, ?_, ?_, ?_, hpend⟩
    · intro other hother
      rw [hwalk', Walk.serving.injEq] at hother
      exact hother ▸ hbounds
    · intro other hother entry hmem
      rw [hwalk', Walk.serving.injEq] at hother
      subst hother
      rcases hentries entry hmem with hold | ⟨hlo, hhi⟩
      · exact (h.written group hwalk entry hold).trans hpast
      · exact hin _ hlo hhi
    · intro other hother hrun l hl hpos
      rw [hwalk', Walk.serving.injEq] at hother
      subst hother
      rcases hsplit l.group hpos with hbefore | ⟨hlo, hhi⟩
      · exact (h.before group hwalk hrunning l hl hbefore).mono hgrows
      · exact haccounted hrun l hl hlo hhi
    · intro hover
      rw [hwalk'] at hover
      cases hover
  · rw [hnext] at hwalk'
    refine ⟨?_, ?_, ?_, ?_, hpend⟩
    · intro other hother
      rw [hwalk'] at hother
      cases hother
    · intro other hother
      rw [hwalk'] at hother
      cases hother
    · intro other hother
      rw [hwalk'] at hother
      cases hother
    · intro _ hrun l hl
      rcases hsplit l hl with hbefore | ⟨hlo, hhi⟩
      · exact (h.before group hwalk hrunning l hl hbefore).mono hgrows
      · exact haccounted hrun l hl hlo hhi

/-- A walk that ended early says nothing. -/
theorem Inv.of_ended {s : FetchState} (hserving : ∀ group, s.walk ≠ .serving group)
    (hover : s.walk = .ended → s.stopReason ≠ .running)
    (hpending : s.pendingUpstream = true → s.upstreamGapCount = 0) : s.Inv d :=
  ⟨fun group hw => absurd hw (hserving group), fun group hw => absurd hw (hserving group),
    fun group hw => absurd hw (hserving group), fun hw hr => absurd hr (hover hw),
    fun hp => ⟨hpending hp, Or.inr fun group hw => absurd hw (hserving group)⟩⟩

/-- Only the place of the walk matters of a state that stays where it is. -/
theorem Inv.wait {s s' : FetchState} (h : s.Inv d) (hgrows : s.Grows s')
    (hwalk : s'.walk = s.walk) (hstop : s'.stopReason = s.stopReason)
    (hentries : s'.entries = s.entries)
    (hpending : s'.pendingUpstream = true → s.pendingUpstream = true)
    (hcount : s'.upstreamGapCount = s.upstreamGapCount) : s'.Inv d where
  bounds := fun group hw => h.bounds group (hwalk ▸ hw)
  written := fun group hw => by
    rw [hentries]
    exact h.written group (hwalk ▸ hw)
  before := fun group hw hr l hl hpos =>
    (h.before group (hwalk ▸ hw) (hstop ▸ hr) l hl hpos).mono hgrows
  done := fun hw hr l hl => (h.done (hwalk ▸ hw) (hstop ▸ hr) l hl).mono hgrows
  pending := fun hp => by
    rw [hcount, hwalk]
    exact h.pending (hpending hp)

/-- What a pass does once it has its entries. -/
theorem writeThen_cases (s : FetchState) (entries : List FetchObject) (writeFails : Option Nat)
    (walk : Walk) :
    ((s.writeThen entries writeFails walk).walk = .failed ∧
      (s.writeThen entries writeFails walk).pendingUpstream = s.pendingUpstream ∧
      (s.writeThen entries writeFails walk).upstreamGapCount = s.upstreamGapCount) ∨
    s.writeThen entries writeFails walk =
      { s with entries := s.entries ++ entries, walk := walk } := by
  unfold writeThen
  split
  · exact Or.inl ⟨rfl, rfl, rfl⟩
  · exact Or.inr rfl

theorem Inv.of_failed {s : FetchState} (hwalk : s.walk = .failed)
    (hpending : s.pendingUpstream = true → s.upstreamGapCount = 0) : s.Inv d :=
  Inv.of_ended (fun group hw => by rw [hwalk] at hw; cases hw)
    (fun hw => by rw [hwalk] at hw; cases hw) hpending

/-- What was written before a gap is delivered before every Location in it. -/
theorem Inv.written_lt {s : FetchState} (h : s.Inv d) {group gapStart gapEnd : UInt64}
    (hwalk : s.walk = .serving group) (hgap : d.IsGap group gapStart gapEnd) {l : Location}
    (hlo : gapStart.toNat ≤ l.group.toNat) (hhi : l.group.toNat ≤ gapEnd.toNat) :
    ∀ entry ∈ s.entries, d.pos entry.location < d.pos l := by
  intro entry hmem
  exact deliveryPos_lt_of_group
    ((h.written group hwalk entry hmem).trans_le (hgap.gpos_le hlo hhi))

/-- A gap that is only marked. -/
theorem Inv.unfilled {s : FetchState} (h : s.Inv d) {group gapStart gapEnd : UInt64}
    (hwalk : s.walk = .serving group) (hrunning : s.stopReason = .running)
    (hgap : d.IsGap group gapStart gapEnd) (writeFails : Option Nat)
    (hpending : s.pendingUpstream = true → d.maxUpstreamFetchGaps = 0) :
    (s.writeThen [d.unfilled gapStart gapEnd] writeFails (d.nextAfter gapStart gapEnd)).Inv d := by
  rcases writeThen_cases s [d.unfilled gapStart gapEnd] writeFails (d.nextAfter gapStart gapEnd)
    with ⟨hfailed, hpend, hcount⟩ | heq
  · refine Inv.of_failed hfailed fun hp => ?_
    rw [hcount]
    exact (h.pending (hpend ▸ hp)).1
  · rw [heq]
    refine h.advance hwalk hrunning hgap ⟨⟨_, rfl⟩, fun _ h => h, fun _ h => h, fun _ h => h⟩ rfl
      ?_ ?_ (fun hp => ⟨(h.pending hp).1, hpending hp⟩)
    · intro entry hmem
      rcases List.mem_append.mp hmem with hmem | hmem
      · exact Or.inl hmem
      · rw [List.mem_singleton] at hmem
        exact Or.inr (hmem ▸ hgap.lastDelivered_group)
    · intro _ l hl hlo hhi
      refine Or.inr (Or.inl ⟨s.entries, d.unfilled gapStart gapEnd, [], rfl, ?_,
        hgap.pos_le_lastDelivered hl hlo hhi, ?_⟩)
      · simp [FetchDelivery.unfilled, unknownUpTo, FetchObject.Unsure]
      · exact h.written_lt hwalk hgap hlo hhi

theorem untilStop_spec (s : FetchState) (objects : List FetchObjectPayload) (it : Iteration) :
    (∀ o ∈ (s.untilStop objects it).1, o ∈ objects) ∧
      ((s.untilStop objects it).2 = .running → (s.untilStop objects it).1 = objects) := by
  unfold untilStop
  split
  · split
    · next hstop => exact ⟨fun o ho => List.mem_of_mem_take ho, fun hr => absurd hr hstop.2⟩
    · exact ⟨fun o ho => ho, fun _ => rfl⟩
  · exact ⟨fun o ho => ho, fun _ => rfl⟩

/-- A group served from the cache. -/
theorem Inv.serveCached {s : FetchState} (h : s.Inv d) {group : UInt64}
    (hwalk : s.walk = .serving group) (hrunning : s.stopReason = .running)
    (hpending : s.pendingUpstream = false) {it : Iteration} (hcache : it.cache ∈ s.caches)
    {objects : List FetchObjectPayload}
    (hobjects : (it.cache group).objectsIfComplete (d.wanted group).1 (d.wanted group).2 =
      some objects) : (serveCached d s group objects it).Inv d := by
  obtain ⟨hstart, hend⟩ := h.bounds group hwalk
  unfold FetchState.serveCached
  obtain ⟨hmem, hall⟩ := s.untilStop_spec objects it
  generalize s.untilStop objects it = result at hmem hall
  obtain ⟨seen, stopReason⟩ := result
  simp only at hmem hall ⊢
  rcases writeThen_cases { s with stopReason := stopReason, offered := s.offered ++ seen }
    ((seen.filter d.filter).map .object) it.writeFails (d.nextAfter group group)
    with ⟨hfailed, hpend, -⟩ | heq
  · refine Inv.of_failed hfailed fun hp => ?_
    rw [hpend, show ({ s with
      stopReason := stopReason, offered := s.offered ++ seen } : FetchState).pendingUpstream =
      false from hpending] at hp
    cases hp
  · rw [heq]
    refine h.advance hwalk hrunning (.self hstart hend) ⟨⟨_, rfl⟩, ?_, fun _ h => h, fun _ h => h⟩
      rfl ?_ ?_ (fun hp => ?_)
    · intro o ho
      exact List.mem_append_left _ ho
    · intro entry hentry
      rcases List.mem_append.mp hentry with hentry | hentry
      · exact Or.inl hentry
      · obtain ⟨o, ho, rfl⟩ := List.mem_map.mp hentry
        have hgroup := CachedGroup.objectsIfComplete_inGroup hobjects
          (hmem o (List.mem_filter.mp ho).1)
        refine Or.inr ?_
        show group.toNat ≤ o.groupId.toNat ∧ o.groupId.toNat ≤ group.toNat
        rw [hgroup]
        exact ⟨le_rfl, le_rfl⟩
    · intro hrun l hl hlo hhi
      have hgroup : l.group = group := UInt64.toNat_inj.mp (Nat.le_antisymm hhi hlo)
      have hsame := hall hrun
      subst hsame
      subst hgroup
      obtain ⟨hwantedLo, hwantedHi⟩ := FetchDelivery.wanted_bounds hl
      rcases CachedGroup.objectsIfComplete_sound hobjects hwantedLo hwantedHi with
        ⟨o, ho, hloc⟩ | habsent
      · cases hpass : d.filter o with
        | true =>
          refine Or.inl ⟨o, List.mem_append_right _ (List.mem_map.mpr ⟨o, ?_, rfl⟩), hloc⟩
          exact List.mem_filter.mpr ⟨ho, hpass⟩
        | false =>
          exact Or.inr (Or.inr (Or.inl ⟨o, List.mem_append_right _ ho, hloc, hpass⟩))
      · exact Or.inr (Or.inr (Or.inr (Or.inl ⟨it.cache, hcache, habsent⟩)))
    · rw [show ({ s with
        stopReason := stopReason, offered := s.offered ++ seen } : FetchState).pendingUpstream =
        false from hpending] at hp
      cases hp

theorem writeThen_responses (s : FetchState) (entries : List FetchObject)
    (writeFails : Option Nat) (walk : Walk) :
    (s.writeThen entries writeFails walk).responses = s.responses := by
  unfold writeThen
  split <;> rfl

theorem mem_fillEntries {fill : Fill} {gapStart gapEnd : UInt64} {stopReason : FetchStop}
    {entry : FetchObject} (h : entry ∈ fillEntries d fill gapStart gapEnd stopReason) :
    entry ∈ fill.entries ∨ entry = d.unfilled gapStart gapEnd := by
  unfold fillEntries at h
  split at h
  · rwa [List.mem_append, List.mem_singleton] at h
  · exact Or.inl h

/-- Why nothing is marked after a response, or that something is. -/
theorem fillEntries_eq (d : FetchDelivery) (fill : Fill) (gapStart gapEnd : UInt64) :
    ∃ rest, fillEntries d fill gapStart gapEnd .running = fill.entries ++ rest ∧
      ((fill.closedCleanly = true ∧ fill.absences.fetchOk = true) ∨
        fill.absences.last =
          some (lastDelivered gapStart gapEnd d.start d.endLocation d.descending) ∨
        rest = [unknownUpTo (lastDelivered gapStart gapEnd d.start d.endLocation d.descending)]) := by
  unfold fillEntries
  cases hall : deliveredAll d fill gapStart gapEnd with
  | false => exact ⟨[d.unfilled gapStart gapEnd], by simp, Or.inr (Or.inr rfl)⟩
  | true =>
    refine ⟨[], by simp, ?_⟩
    simp only [deliveredAll, Bool.or_eq_true, Bool.and_eq_true, decide_eq_true_eq] at hall
    exact hall.imp id Or.inl

/-- A gap for which a response was read. -/
theorem Inv.fillGap {s : FetchState} (h : s.Inv d) {group gapStart gapEnd : UInt64}
    (hwalk : s.walk = .serving group) (hrunning : s.stopReason = .running)
    (hpending : s.pendingUpstream = false) (hgap : d.IsGap group gapStart gapEnd)
    {start end_ : Location} (hstart : gapStart.toNat ≤ start.group.toNat)
    (hend : end_.group.toNat ≤ gapEnd.toNat)
    (hasked : ∀ l, d.InRange l → gapStart.toNat ≤ l.group.toNat → l.group.toNat ≤ gapEnd.toNat →
      start ≤ l ∧ l ≤ end_) (events : List FillEvent) (it : Iteration)
    (hinRange : ∀ r ∈ (fillGap d s gapStart gapEnd start end_ events it).responses, r.InRange)
    (hreach : ∀ r ∈ (fillGap d s gapStart gapEnd start end_ events it).responses,
      r.ReachesItsEnd d.descending) :
    (fillGap d s gapStart gapEnd start end_ events it).Inv d := by
  have hfaithful := Fill.Faithful.loop events _
    (Fill.Faithful.new d.filter start end_ d.groupOrder s.stopReason)
  unfold FetchState.fillGap at hinRange hreach ⊢
  simp only [writeThen_responses] at hinRange hreach ⊢
  generalize Fill.loop d.filter events
    (.new (ResponseAbsences.new start end_ d.groupOrder) s.stopReason) = fill
    at hfaithful hinRange hreach ⊢
  generalize (if it.stopAtEnd ≠ .running then it.stopAtEnd else fill.stopReason) = stopReason
    at hinRange hreach ⊢
  have hfrom : (ResponseAbsences.new start end_ d.groupOrder).start =
      deliveredStart start end_ d.groupOrder := rfl
  rw [hfrom] at hinRange hreach ⊢
  rcases writeThen_cases (s.noteResponse fill (deliveredStart start end_ d.groupOrder) end_
    stopReason) (fillEntries d fill gapStart gapEnd stopReason) it.writeFails
    (if stopReason ≠ .running then .ended else d.nextAfter gapStart gapEnd)
    with ⟨hfailed, hpend, -⟩ | heq
  · refine Inv.of_failed hfailed fun hp => ?_
    rw [hpend] at hp
    exact absurd (hpending.symm.trans hp) (by simp)
  · rw [heq]
    by_cases hrun : stopReason = .running
    · have hresponse : (⟨deliveredStart start end_ d.groupOrder, end_, fill.heard, fill.declared,
          fill.closedCleanly⟩ : Response) ∈ (s.noteResponse fill
            (deliveredStart start end_ d.groupOrder) end_ stopReason).responses := by
        simp [noteResponse]
      have hheard := hinRange _ hresponse
      refine h.advance hwalk hrunning hgap ⟨⟨_, rfl⟩, ?_, fun _ h => h, ?_⟩ ?_ ?_ ?_ ?_
      · exact fun o ho => List.mem_append_left _ ho
      · exact fun r hr => List.mem_append_left _ hr
      · simp [hrun]
      · intro entry hmem
        rcases List.mem_append.mp hmem with hmem | hmem
        · exact Or.inl hmem
        · refine Or.inr ?_
          rcases mem_fillEntries hmem with hmem | rfl
          · rw [hfaithful.entries] at hmem
            obtain ⟨hfirst, hlast⟩ := hheard entry (List.mem_filter.mp hmem).1
            have hlo := Location.group_le hfirst
            have hhi := Location.group_le hlast
            rw [deliveredStart_group] at hlo
            exact ⟨hstart.trans hlo, hhi.trans hend⟩
          · exact hgap.lastDelivered_group
      · intro _ l hl hlo hhi
        obtain ⟨hfirst, hlast⟩ := hasked l hl hlo hhi
        have hfirst' : deliveredStart start end_ d.groupOrder ≤ l := by
          have hle := deliveredStart_le start end_ d.groupOrder
          rw [Location.le_iff_key] at hle hfirst ⊢
          omega
        obtain ⟨rest, hentries, hrest⟩ := fillEntries_eq d fill gapStart gapEnd
        have hsplit := congrArg (s.entries ++ ·) hentries
        rw [← hrun] at hsplit
        refine accounted_of_fill hresponse hsplit hfaithful.entries ?_ ⟨hfirst', hlast⟩
          (hreach _ hresponse) (h.written_lt hwalk hgap hlo hhi) ?_
        · intro o ho
          exact List.mem_append_right _ (List.mem_filterMap.mpr ⟨.object o, ho, rfl⟩)
        · intro hall
          have hle := hgap.pos_le_lastDelivered hl hlo hhi
          rcases hrest with ⟨hclosed, hok⟩ | hlastEntry | hmarked
          · exact Or.inl ⟨hclosed, hfaithful.fetchOk hok⟩
          · -- the last entry heard is the last of the gap, so that `l` does not come after it
            rw [hfaithful.last] at hlastEntry
            obtain ⟨entry, hentry, hloc⟩ := Option.map_eq_some_iff.mp hlastEntry
            have hlt := hall entry (List.mem_of_getLast? hentry)
            rw [hloc] at hlt
            omega
          · exact Or.inr ⟨_, hmarked, hle⟩
      · intro hp
        exact absurd (hpending.symm.trans hp) (by simp)
    · refine Inv.of_ended ?_ (fun _ => hrun) fun hp => absurd (hpending.symm.trans hp) (by simp)
      intro other hother
      simp [hrun] at hother

theorem Inv.serveGap {s : FetchState} (h : s.Inv d) {group : UInt64}
    (hwalk : s.walk = .serving group) (hrunning : s.stopReason = .running) (it : Iteration)
    (hinRange : ∀ r ∈ (serveGap d s group it).responses, r.InRange)
    (hreach : ∀ r ∈ (serveGap d s group it).responses, r.ReachesItsEnd d.descending) :
    (serveGap d s group it).Inv d := by
  obtain ⟨hstart, hend⟩ := h.bounds group hwalk
  have hgap := gap_isGap hstart hend it
  unfold FetchState.serveGap at hinRange hreach ⊢
  generalize gap d group it = bounds at hgap hinRange hreach ⊢
  obtain ⟨gapStart, gapEnd⟩ := bounds
  simp only at hgap hinRange hreach ⊢
  split
  · exact h.wait ⟨⟨[], by simp⟩, fun _ h => h, fun _ h => h, fun _ h => h⟩ rfl rfl rfl id rfl
  · next hwait =>
    rw [if_neg hwait] at hinRange hreach
    split
    · next hmax =>
      refine h.unfilled hwalk hrunning hgap it.writeFails fun hp => ?_
      have hcount := (h.pending hp).1
      omega
    · next hmax =>
      rw [if_neg hmax] at hinRange hreach
      have hs (asked : List Span) : ({ s with
          upstreamGapCount := s.upstreamGapCount + 1, pendingUpstream := false, asked := asked } :
          FetchState).Inv d :=
        ⟨h.bounds, h.written, fun g hw hr l hl hpos => (h.before g hw hr l hl hpos).mono
            ⟨⟨[], by simp⟩, fun _ h => h, fun _ h => h, fun _ h => h⟩,
          fun hw hr l hl => (h.done hw hr l hl).mono
            ⟨⟨[], by simp⟩, fun _ h => h, fun _ h => h, fun _ h => h⟩, by simp⟩
      cases hp : s.pendingUpstream with
      | true =>
        simp only [hp, if_true] at hinRange hreach ⊢
        obtain ⟨hcount, hfirst⟩ := h.pending hp
        have hgroup := hfirst.resolve_left (by omega) group hwalk
        -- the pending fetch is used at the first group, and covers the range from there
        have hwhole : d.IsGap group d.start.group d.endLocation.group := by
          refine ⟨?_, hstart.trans hend, le_rfl, le_rfl⟩
          rw [hgroup]
          split <;> rfl
        exact (hs s.asked).fillGap hwalk hrunning rfl hwhole le_rfl le_rfl (fun l hl _ _ => hl)
          _ it hinRange hreach
      | false =>
        simp only [hp, Bool.false_eq_true, if_false] at hinRange hreach ⊢
        cases hup : it.upstream with
        | none => exact (hs _).unfilled hwalk hrunning hgap it.writeFails (by simp)
        | some events =>
          simp only [hup] at hinRange hreach ⊢
          have hlo : (requestedPart gapStart gapEnd d.start d.endLocation).1.group = gapStart :=
            Location.max_group hgap.start
          have hhi : (requestedPart gapStart gapEnd d.start d.endLocation).2.group = gapEnd :=
            Location.min_group hgap.end_
          exact (hs _).fillGap hwalk hrunning rfl hgap (by rw [hlo]) (by rw [hhi])
            (fun l hl hl1 hl2 => FetchDelivery.requestedPart_bounds hl hl1 hl2) events it hinRange
            hreach

/-- The responses read so far lie in the ranges asked for and come past nothing beyond an End
Location of theirs. -/
def ResponsesReach (d : FetchDelivery) (s : FetchState) : Prop :=
  ∀ r ∈ s.responses, r.InRange ∧ r.ReachesItsEnd d.descending

theorem fillGap_responses (s : FetchState) (gapStart gapEnd : UInt64) (start end_ : Location)
    (events : List FillEvent) (it : Iteration) :
    ∃ more, (fillGap d s gapStart gapEnd start end_ events it).responses = s.responses ++ more := by
  unfold FetchState.fillGap
  simp only [writeThen_responses]
  exact ⟨_, rfl⟩

theorem serveGap_responses (s : FetchState) (group : UInt64) (it : Iteration) :
    ∃ more, (serveGap d s group it).responses = s.responses ++ more := by
  unfold FetchState.serveGap
  simp only
  split
  · exact ⟨[], by simp⟩
  · split
    · exact ⟨[], by simp [writeThen_responses]⟩
    · split
      · exact fillGap_responses _ _ _ _ _ _ _
      · split
        · exact ⟨[], by simp [writeThen_responses]⟩
        · exact fillGap_responses _ _ _ _ _ _ _

/-- What one pass of the loop does. -/
theorem step_cases {s s' : FetchState} {it : Iteration} (h : step d s it = some s') :
    ∃ group, s.walk = .serving group ∧
      ((s.stopSeen it ≠ .running ∧ s' = { s with stopReason := s.stopSeen it, walk := .ended }) ∨
      (s.stopReason = .running ∧
        ((∃ objects, s.pendingUpstream = false ∧
          (it.cache group).objectsIfComplete (d.wanted group).1 (d.wanted group).2 = some objects ∧
          s' = serveCached d { s with caches := s.caches ++ [it.cache] } group objects it) ∨
        s' = serveGap d { s with caches := s.caches ++ [it.cache] } group it))) := by
  unfold FetchState.step at h
  obtain ⟨group, hwalk⟩ : ∃ group, s.walk = .serving group := by
    cases hw : s.walk with
    | ended => simp [hw] at h
    | failed => simp [hw] at h
    | serving group => exact ⟨group, rfl⟩
  refine ⟨group, hwalk, ?_⟩
  simp only [hwalk] at h
  rw [← hwalk] at h
  by_cases hstop : s.stopSeen it = .running
  · rw [if_neg (not_not.mpr hstop)] at h
    refine Or.inr ⟨?_, ?_⟩
    · by_contra hne
      simp [stopSeen, hne] at hstop
    · cases hlook : lookUp d { s with caches := s.caches ++ [it.cache] } group it with
      | none =>
        rw [hlook, Option.some.injEq] at h
        exact Or.inr h.symm
      | some objects =>
        rw [hlook, Option.some.injEq] at h
        refine Or.inl ⟨objects, ?_, ?_, h.symm⟩
        · cases hp : s.pendingUpstream with
          | false => rfl
          | true => simp [lookUp, hp] at hlook
        · unfold lookUp at hlook
          split at hlook
          · cases hlook
          · exact hlook
  · rw [if_pos hstop, Option.some.injEq] at h
    exact Or.inl ⟨hstop, h.symm⟩

theorem step_responses {s s' : FetchState} {it : Iteration} (h : step d s it = some s') :
    ∃ more, s'.responses = s.responses ++ more := by
  obtain ⟨group, -, hcases⟩ := step_cases h
  rcases hcases with ⟨-, rfl⟩ | ⟨-, ⟨objects, -, -, rfl⟩ | rfl⟩
  · exact ⟨[], by simp⟩
  · exact ⟨[], by simp [FetchState.serveCached, writeThen_responses]⟩
  · exact serveGap_responses _ _ _

theorem Inv.step {s s' : FetchState} {it : Iteration} (h : s.Inv d) (hreach : ResponsesReach d s')
    (hstep : step d s it = some s') : s'.Inv d := by
  have hs : ({ s with caches := s.caches ++ [it.cache] } : FetchState).Inv d :=
    h.wait ⟨⟨[], by simp⟩, fun _ h => h, fun _ h => List.mem_append_left _ h, fun _ h => h⟩
      rfl rfl rfl id rfl
  obtain ⟨group, hwalk, hcases⟩ := step_cases hstep
  rcases hcases with ⟨hstop, rfl⟩ | ⟨hrunning, ⟨objects, hp, hcached, rfl⟩ | rfl⟩
  · exact Inv.of_ended (by simp) (fun _ => hstop) fun hp => (h.pending hp).1
  · exact hs.serveCached hwalk hrunning hp (by simp) hcached
  · exact hs.serveGap hwalk hrunning it (fun r hr => (hreach r hr).1) fun r hr => (hreach r hr).2

theorem Inv.init (hrange : d.start.group.toNat ≤ d.endLocation.group.toNat)
    (pendingUpstream : Bool) : (FetchState.init d pendingUpstream).Inv d where
  bounds := by
    intro group hw
    cases hw
    split
    · exact ⟨hrange, le_rfl⟩
    · exact ⟨le_rfl, hrange⟩
  written := by simp [FetchState.init]
  before := by
    intro group hw _ l hl hpos
    cases hw
    have hlo := Location.group_le hl.1
    have hhi := Location.group_le hl.2
    unfold FetchDelivery.gpos groupPos at hpos
    cases hdesc : d.descending with
    | true =>
      simp only [hdesc, if_true] at hpos
      omega
    | false =>
      simp only [hdesc, Bool.false_eq_true, if_false] at hpos
      omega
  done := fun hw => by cases hw
  pending := fun _ => ⟨rfl, Or.inr fun group hw => by cases hw; rfl⟩

/-- Whatever the cache holds and the filter lets through, a delivery that ends normally leaves
no Location of its range out without a reason, as long as no response comes past Locations
beyond an End Location it declares. -/
theorem run_accounted (d : FetchDelivery) (pendingUpstream : Bool) (its : List Iteration)
    (s : FetchState) (hrun : run (step d) (init d pendingUpstream) its = some s)
    (hend : s.EndedNormally) (hinRange : ∀ r ∈ s.responses, r.InRange)
    (hreach : ∀ r ∈ s.responses, r.ReachesItsEnd d.descending) (l : Location)
    (hl : d.InRange l) : s.Accounted d l := by
  have hrange : d.start.group.toNat ≤ d.endLocation.group.toNat :=
    (Location.group_le hl.1).trans (Location.group_le hl.2)
  -- the responses only grow, so that what holds of the last state's holds of all before
  have hstep : ∀ s it s', (ResponsesReach d s → s.Inv d) → True → step d s it = some s' →
      ResponsesReach d s' → s'.Inv d := by
    intro s it s' h _ hst hreach'
    obtain ⟨more, hmore⟩ := step_responses hst
    refine (h fun r hr => hreach' r ?_).step hreach' hst
    rw [hmore]
    exact List.mem_append_left _ hr
  have hinv := run_invariant hstep its _ s (fun _ => Inv.init hrange pendingUpstream)
    (Along.of_forall its _ fun _ _ => trivial) hrun fun r hr => ⟨hinRange r hr, hreach r hr⟩
  exact hinv.done hend.1 hend.2 l hl

/-- Objects 0 to 5 of group 0, with no limit that matters. -/
def sixObjects : FetchDelivery where
  startLocation := ⟨0, 0⟩
  endLocation := ⟨0, 5⟩
  groupOrder := .ascending
  filter := fun _ => true
  maxUpstreamFetchGaps := 1

def objectAt (object : UInt64) : FetchObjectPayload :=
  ⟨0, 0, object, 128, .subgroup, none, [0xAA]⟩

/-- Nothing is cached, and upstream answers with `events`. -/
def answeredWith (events : List FillEvent) : Iteration where
  stop := .running
  cache := CachedGroup.empty
  stopAfter := none
  claimed := true
  upstream := some events
  stopAtEnd := .running
  writeFails := none

/-- Of six objects only two exist, and upstream says so: its End Location is the last one
asked for. -/
def wholeAnswer : List FillEvent :=
  [.accepted ⟨0, 5⟩, .object (objectAt 0), .object (objectAt 2), .streamClosed]

theorem run_accounted_wholeAnswer :
    ∃ s, run (step sixObjects) (init sixObjects false) [answeredWith wholeAnswer] = some s ∧
      s.entries = [.object (objectAt 0), .object (objectAt 2)] ∧
      s.Accounted sixObjects ⟨0, 4⟩ := by
  refine ⟨_, rfl, rfl, run_accounted sixObjects false [answeredWith wholeAnswer] _ rfl ⟨rfl, rfl⟩
    ?_ ?_ ⟨0, 4⟩ ⟨by decide, by decide⟩⟩
  · intro r hr
    cases List.mem_singleton.mp hr
    unfold Response.InRange
    decide
  · intro r hr l _ hl _ e he
    cases List.mem_singleton.mp hr
    cases List.mem_singleton.mp he
    exact hl

/-- Upstream holds objects 0 to 2 and says that its response ends there. -/
def shortAnswer : List FillEvent :=
  [.accepted ⟨0, 2⟩, .object (objectAt 0), .object (objectAt 1), .object (objectAt 2),
    .streamClosed]

/-- The stream ends after object 2. Nothing says that the rest of the range is unknown. -/
theorem shortAnswer_not_accounted :
    ¬ ∀ (d : FetchDelivery) (pendingUpstream : Bool) (its : List Iteration) (s : FetchState),
      run (step d) (init d pendingUpstream) its = some s → s.EndedNormally →
      (∀ r ∈ s.responses, r.InRange ∧ r.InOrder d.descending) →
      ∀ l, d.InRange l → s.Accounted d l := by
  intro h
  have haccounted := h sixObjects false [answeredWith shortAnswer] _ rfl ⟨rfl, rfl⟩ (by
    intro r hr
    cases List.mem_singleton.mp hr
    unfold Response.InRange Response.InOrder
    decide) ⟨0, 4⟩ ⟨by decide, by decide⟩
  rcases haccounted with ⟨o, ho, hl⟩ | ⟨before, marker, after, hsplit, hunsure, -⟩ |
    ⟨o, -, -, hfilter⟩ | ⟨cache, hcache, habsent⟩ | ⟨r, hr, -, hdeclared, -⟩
  · have hall : ∀ entry ∈ [FetchObject.object (objectAt 0), .object (objectAt 1),
        .object (objectAt 2)], entry.location ≠ ⟨0, 4⟩ := by decide
    exact hall _ ho hl
  · have hmem : marker ∈ [FetchObject.object (objectAt 0), .object (objectAt 1),
        .object (objectAt 2)] := by
      have hentries : [FetchObject.object (objectAt 0), .object (objectAt 1),
        .object (objectAt 2)] = before ++ marker :: after := hsplit
      simp [hentries]
    simp only [List.mem_cons, List.not_mem_nil, or_false] at hmem
    rcases hmem with rfl | rfl | rfl <;> exact hunsure
  · cases hfilter
  · cases List.mem_singleton.mp hcache
    obtain ⟨range, hrange, -⟩ := habsent
    exact List.not_mem_nil hrange
  · cases List.mem_singleton.mp hr
    exact absurd (hdeclared ⟨0, 2⟩ (List.mem_singleton.mpr rfl)) (by decide)

end FetchState

end Moqtail
