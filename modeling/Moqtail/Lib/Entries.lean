import Moqtail.Lib.Codec

/-! Maps as lists of their entries, and two maps that hold the same, each in an order of its own. -/
namespace Moqtail.Lib

variable {κ κ' ν ν' : Type} {f : κ → κ'} {R : ν → ν' → Prop} {l : List (κ × ν)} {l' : List (κ' × ν')}

/-- The value of a key. -/
def entryOf [DecidableEq κ] (key : κ) (entries : List (κ × ν)) : Option ν :=
  (entries.find? fun e => e.1 = key).map (·.2)

/-- Adds a key that is not there yet. -/
def addEntry [DecidableEq κ] (key : κ) (value : ν) (entries : List (κ × ν)) : List (κ × ν) :=
  if entries.any (·.1 = key) then entries else entries ++ [(key, value)]

/-- Changes the value of a key, which is added with that of `new` if it is not there yet. -/
def changeEntry [DecidableEq κ] (key : κ) (new : ν) (g : ν → ν) (entries : List (κ × ν)) :
    List (κ × ν) :=
  if entries.any (·.1 = key) then
    entries.map fun e => if e.1 = key then (e.1, g e.2) else e
  else entries ++ [(key, g new)]

/-- The same keys with related values, in any order. -/
def SameEntries (f : κ → κ') (R : ν → ν' → Prop) (l : List (κ × ν)) (l' : List (κ' × ν')) : Prop :=
  ∃ m, l.Perm m ∧ List.Forall₂ (fun e e' => e'.1 = f e.1 ∧ R e.2 e'.2) m l'

namespace SameEntries

theorem nil : SameEntries f R [] [] := ⟨[], .rfl, .nil⟩

theorem any (h : SameEntries f R l l') {p : κ × ν → Bool} {p' : κ' × ν' → Bool}
    (hp : ∀ key v v', (key, v) ∈ l → R v v' → p' (f key, v') = p (key, v)) :
    l'.any p' = l.any p := by
  obtain ⟨m, hperm, hall⟩ := h
  have hmem : ∀ e ∈ m, e ∈ l := fun e he => hperm.mem_iff.mpr he
  rw [hperm.any_eq]
  clear hperm
  induction hall with
  | nil => rfl
  | @cons e e' m l' he _ ih =>
    rw [List.forall_mem_cons] at hmem
    rw [List.any_cons, List.any_cons, ih hmem.2]
    obtain ⟨key, v⟩ := e
    obtain ⟨key', v'⟩ := e'
    obtain ⟨hkey, hv⟩ := he
    dsimp only at hkey hv
    rw [hkey, hp key v v' hmem.1 hv]

theorem all (h : SameEntries f R l l') {p : κ × ν → Bool} {p' : κ' × ν' → Bool}
    (hp : ∀ key v v', (key, v) ∈ l → R v v' → p' (f key, v') = p (key, v)) :
    l'.all p' = l.all p := by
  have hnot : (l'.any fun e => ! p' e) = l.any fun e => ! p e :=
    h.any fun key v v' hmem hv => by rw [hp key v v' hmem hv]
  rw [List.all_eq_not_any_not, List.all_eq_not_any_not, hnot]

theorem isEmpty (h : SameEntries f R l l') : l'.isEmpty = l.isEmpty := by
  obtain ⟨m, hperm, hall⟩ := h
  have hlength : l.length = l'.length := hperm.length_eq.trans hall.length_eq
  rw [Bool.eq_iff_iff, List.isEmpty_iff_length_eq_zero, List.isEmpty_iff_length_eq_zero, hlength]

theorem congr {l₁ : List (κ × ν)} (h : SameEntries f R l l') (hperm : l₁.Perm l) :
    SameEntries f R l₁ l' := by
  obtain ⟨m, hm, hall⟩ := h
  exact ⟨m, hperm.trans hm, hall⟩

theorem related_of_mem (h : SameEntries f R l l') {e' : κ' × ν'} (he' : e' ∈ l') :
    ∃ e ∈ l, e'.1 = f e.1 ∧ R e.2 e'.2 := by
  obtain ⟨m, hperm, hall⟩ := h
  obtain ⟨e, he, hrelated⟩ := exists_of_forall₂ hall.flip e' he'
  exact ⟨e, hperm.mem_iff.mpr he, hrelated⟩

variable [DecidableEq κ] [DecidableEq κ']

theorem any_key (h : SameEntries f R l l') (hf : Function.Injective f) (key : κ) :
    l'.any (·.1 = f key) = l.any (·.1 = key) :=
  h.any fun k v v' _ _ => by simp only [hf.eq_iff]

/-- Related changes of the value of a key keep two maps the same. -/
theorem change (h : SameEntries f R l l') (hf : Function.Injective f) {key : κ} {new : ν} {new' : ν'}
    {g : ν → ν} {g' : ν' → ν'} (hnew : R (g new) (g' new'))
    (hg : ∀ v v', R v v' → R (g v) (g' v')) :
    SameEntries f R (changeEntry key new g l) (changeEntry (f key) new' g' l') := by
  have hkey := h.any_key hf key
  unfold changeEntry
  rw [hkey]
  obtain ⟨m, hperm, hall⟩ := h
  split
  · refine ⟨_, hperm.map _, ?_⟩
    rw [List.forall₂_map_left_iff, List.forall₂_map_right_iff]
    apply hall.imp
    rintro ⟨k, v⟩ ⟨k', v'⟩ ⟨hk, hv⟩
    dsimp only at hk hv ⊢
    subst hk
    by_cases heq : k = key
    · rw [if_pos heq, if_pos (congrArg f heq)]
      exact ⟨rfl, hg v v' hv⟩
    · rw [if_neg heq, if_neg (hf.ne heq)]
      exact ⟨rfl, hv⟩
  · refine ⟨_, hperm.append_right _, ?_⟩
    exact List.rel_append hall (.cons ⟨rfl, hnew⟩ .nil)

end SameEntries

/-! Looking up what was added. -/

section Lookup

variable [DecidableEq κ]

theorem mem_of_entryOf {key : κ} {value : ν} {entries : List (κ × ν)}
    (h : entryOf key entries = some value) : (key, value) ∈ entries := by
  rw [entryOf, Option.map_eq_some_iff] at h
  obtain ⟨⟨key', value⟩, hfind, rfl⟩ := h
  have hkey := List.find?_some hfind
  rw [decide_eq_true_eq] at hkey
  dsimp only at hkey
  subst hkey
  exact List.mem_of_find?_eq_some hfind

/-- A filter by the keys. -/
theorem entryOf_filter (key : κ) (p : κ → Bool) (entries : List (κ × ν)) :
    entryOf key (entries.filter fun e => p e.1) = if p key then entryOf key entries else none := by
  unfold entryOf
  rw [List.find?_filter]
  split
  next hp =>
    congr 2
    funext e
    by_cases hkey : e.1 = key
    · simp [hkey, hp]
    · simp [hkey]
  next hp =>
    rw [Option.map_eq_none_iff, List.find?_eq_none]
    intro e _
    by_cases hkey : e.1 = key
    · simp [hkey, hp]
    · simp [hkey]

theorem entryOf_append (key : κ) (front rear : List (κ × ν)) :
    entryOf key (front ++ rear) = (entryOf key front).or (entryOf key rear) := by
  unfold entryOf
  rw [List.find?_append]
  cases front.find? fun e => e.1 = key <;> rfl

/-- Keys and values under an injection of the keys. -/
theorem entryOf_map [DecidableEq κ'] (hf : Function.Injective f) (g : ν → ν') (key : κ)
    (entries : List (κ × ν)) :
    entryOf (f key) (entries.map fun e => (f e.1, g e.2)) = (entryOf key entries).map g := by
  have hkey : ((fun e => decide (e.1 = f key)) ∘ fun e : κ × ν => (f e.1, g e.2)) =
      fun e => decide (e.1 = key) := by
    funext e
    simp only [Function.comp_apply, hf.eq_iff]
  rw [entryOf, entryOf, List.find?_map, Option.map_map, Option.map_map, hkey]
  rfl

theorem addEntry_map [DecidableEq κ'] (hf : Function.Injective f) (g : ν → ν') (key : κ) (value : ν)
    (entries : List (κ × ν)) :
    addEntry (f key) (g value) (entries.map fun e => (f e.1, g e.2)) =
      (addEntry key value entries).map fun e => (f e.1, g e.2) := by
  have hany : (entries.map fun e => (f e.1, g e.2)).any (·.1 = f key) = entries.any (·.1 = key) := by
    rw [List.any_map]
    congr 1
    funext e
    simp only [Function.comp_apply, hf.eq_iff]
  unfold addEntry
  rw [hany]
  split
  · rfl
  · rw [List.map_append, List.map_singleton]

end Lookup

end Moqtail.Lib
