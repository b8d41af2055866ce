import Moqtail.Lib.BigEndian

/-! Decoders over a byte cursor, and what it means for a byte string to be read back.

A decoder consumes a front part of the cursor. `Reads dec out a` says that `out` is an
encoding of `a` for `dec`: whatever follows `out` is left untouched. -/
namespace Moqtail.Lib

/-- The value read and the bytes left, or an error. -/
abbrev Decoder (ε α : Type) := Bytes → Except ε (α × Bytes)

def Reads {ε α : Type} (dec : Decoder ε α) (out : Bytes) (a : α) : Prop :=
  ∀ tail : Bytes, dec (out ++ tail) = .ok (a, tail)

/-- What a decoder reads does not depend on the bytes after it. -/
def Stable {ε α : Type} (dec : Decoder ε α) : Prop :=
  ∀ (bytes : Bytes) (a : α) (rest tail : Bytes),
    dec bytes = .ok (a, rest) → dec (bytes ++ tail) = .ok (a, rest ++ tail)

/-- A stable decoder cannot read an encoding from a proper front part of it. -/
theorem Stable.not_ok_of_append {ε α : Type} {dec : Decoder ε α} (h : Stable dec) {front rear : Bytes}
    {a b : α} {rest : Bytes} (hall : dec (front ++ rear) = .ok (a, [])) (hrear : rear ≠ []) :
    dec front ≠ .ok (b, rest) := by
  intro hfront
  rw [h front b rest rear hfront, Except.ok.injEq, Prod.mk.injEq] at hall
  exact hrear (List.append_eq_nil_iff.mp hall.2).2

@[simp] theorem except_ok_bind {ε α β : Type} (a : α) (f : α → Except ε β) :
    (Except.ok a >>= f) = f a := rfl

@[simp] theorem except_error_bind {ε α β : Type} (e : ε) (f : α → Except ε β) :
    ((Except.error e : Except ε α) >>= f) = Except.error e := rfl

@[simp] theorem except_pure {ε α : Type} (a : α) : (pure a : Except ε α) = Except.ok a := rfl

@[simp] theorem except_throw {ε α : Type} (e : ε) : (throw e : Except ε α) = Except.error e := rfl

/-- A sequence of two steps succeeds exactly when both do. -/
theorem except_bind_eq_ok {ε α β : Type} {x : Except ε α} {f : α → Except ε β} {b : β} :
    (x >>= f) = Except.ok b ↔ ∃ a, x = Except.ok a ∧ f a = Except.ok b := by
  cases x with
  | error e => simp
  | ok a => simp

/-- A traversal succeeds exactly when each of its steps does. -/
theorem mapM_eq_ok_iff {ε α β : Type} {f : α → Except ε β} :
    ∀ {as : List α} {bs : List β},
      as.mapM f = .ok bs ↔ List.Forall₂ (fun a b => f a = .ok b) as bs := by
  intro as
  induction as with
  | nil =>
    intro bs
    simp only [List.mapM_nil, except_pure, Except.ok.injEq, List.forall₂_nil_left_iff, eq_comm]
  | cons a as ih =>
    intro bs
    rw [List.mapM_cons, except_bind_eq_ok, List.forall₂_cons_left_iff]
    constructor
    · rintro ⟨b, hb, h⟩
      obtain ⟨rest, hrest, hret⟩ := except_bind_eq_ok.mp h
      cases hret
      exact ⟨b, rest, hb, ih.mp hrest, rfl⟩
    · rintro ⟨b, rest, hb, hrest, rfl⟩
      refine ⟨b, hb, ?_⟩
      rw [ih.mpr hrest]
      rfl

/-- Lists that correspond item by item still do when both are sorted. -/
theorem forall₂_insertionSort {α β : Type} {R : α → β → Prop} {r : α → α → Prop}
    {s : β → β → Prop} [DecidableRel r] [DecidableRel s]
    (hrs : ∀ a a' b b', R a b → R a' b' → (r a a' ↔ s b b')) {as : List α} {bs : List β}
    (h : List.Forall₂ R as bs) : List.Forall₂ R (as.insertionSort r) (bs.insertionSort s) := by
  have hinsert : ∀ {a b} {as : List α} {bs : List β}, R a b → List.Forall₂ R as bs →
      List.Forall₂ R (as.orderedInsert r a) (bs.orderedInsert s b) := by
    intro a b as bs hab hall
    induction hall with
    | nil => exact .cons hab .nil
    | @cons a' b' as bs hab' hall ih =>
      by_cases hle : r a a'
      · rw [List.orderedInsert_cons, if_pos hle, List.orderedInsert_cons,
          if_pos ((hrs a a' b b' hab hab').mp hle)]
        exact .cons hab (.cons hab' hall)
      · rw [List.orderedInsert_cons, if_neg hle, List.orderedInsert_cons,
          if_neg (fun h => hle ((hrs a a' b b' hab hab').mpr h))]
        exact .cons hab' ih
  induction h with
  | nil => exact .nil
  | cons hab hall ih => exact hinsert hab ih

/-- Lists that correspond item by item are sorted alike. -/
theorem pairwise_of_forall₂ {α β : Type} {R : α → β → Prop} {r : α → α → Prop} {s : β → β → Prop}
    (hrs : ∀ a a' b b', R a b → R a' b' → s b b' → r a a') {as : List α} {bs : List β}
    (h : List.Forall₂ R as bs) (hbs : bs.Pairwise s) : as.Pairwise r := by
  induction h with
  | nil => exact .nil
  | @cons a b as bs hab hall ih =>
    rw [List.pairwise_cons] at hbs
    refine List.pairwise_cons.mpr ⟨fun a' ha' => ?_, ih hbs.2⟩
    obtain ⟨i, hi, rfl⟩ := List.getElem_of_mem ha'
    have hi' : i < bs.length := hall.length_eq ▸ hi
    exact hrs _ _ _ _ hab (hall.get hi hi') (hbs.1 _ (List.getElem_mem hi'))

theorem exists_of_forall₂ {α β : Type} {R : α → β → Prop} {as : List α} {bs : List β}
    (h : List.Forall₂ R as bs) : ∀ a ∈ as, ∃ b ∈ bs, R a b := by
  induction h with
  | nil => simp
  | @cons a b as bs hab hall ih =>
    rw [List.forall_mem_cons]
    refine ⟨⟨b, List.mem_cons_self, hab⟩, fun a' ha' => ?_⟩
    obtain ⟨b', hb', hrel⟩ := ih a' ha'
    exact ⟨b', List.mem_cons_of_mem b hb', hrel⟩

theorem forall_mem_of_forall₂ {α β : Type} {R : α → β → Prop} {P : β → Prop}
    (hP : ∀ a b, R a b → P b) {as : List α} {bs : List β} (h : List.Forall₂ R as bs) :
    ∀ b ∈ bs, P b := by
  induction h with
  | nil => simp
  | cons hab hall ih =>
    rw [List.forall_mem_cons]
    exact ⟨hP _ _ hab, ih⟩

theorem except_mapError_eq_ok {ε ε' α : Type} {g : ε → ε'} {x : Except ε α} {a : α} :
    x.mapError g = .ok a ↔ x = .ok a := by
  cases x with
  | error e => simp [Except.mapError]
  | ok b => simp [Except.mapError]

/-! Values written one after the other, each against what came before it. -/

section Threaded

variable {ε α σ : Type} (next : σ → α → σ)

def encodeAll (enc : σ → α → Except ε Bytes) : σ → List α → Except ε Bytes
  | _, [] => .ok []
  | s, a :: rest => do
    let head ← enc s a
    let tail ← encodeAll enc (next s a) rest
    return head ++ tail

/-- Reads until nothing is left, in `fuel` turns at most. -/
def decodeAll (dec : σ → Decoder ε α) : Nat → σ → Bytes → Except ε (List α × Bytes)
  | 0, _, bytes => .ok ([], bytes)
  | fuel + 1, s, bytes =>
    if bytes.isEmpty then .ok ([], [])
    else do
      let (a, bytes) ← dec s bytes
      let (rest, bytes) ← decodeAll dec fuel (next s a) bytes
      return (a :: rest, bytes)

/-- `P` holds of each value and of what it is written against. -/
def Threaded (P : σ → α → Prop) : σ → List α → Prop
  | _, [] => True
  | s, a :: rest => P s a ∧ Threaded P (next s a) rest

variable {next}

theorem Threaded.of_forall {P : σ → α → Prop} {items : List α} :
    ∀ {s : σ}, (∀ s, ∀ a ∈ items, P s a) → Threaded next P s items := by
  induction items with
  | nil => exact fun _ => trivial
  | cons a rest ih =>
    intro s h
    exact ⟨h s a List.mem_cons_self, ih fun s b hb => h s b (List.mem_cons_of_mem a hb)⟩

/-- Values that are written alike, and that lead to the same, are written alike one after the
other. -/
theorem encodeAll_map {enc : σ → α → Except ε Bytes} {f : α → α} {items : List α} :
    (∀ s, ∀ a ∈ items, enc s (f a) = enc s a) → (∀ s a, next s (f a) = next s a) →
      ∀ s, encodeAll next enc s (items.map f) = encodeAll next enc s items := by
  induction items with
  | nil => exact fun _ _ _ => rfl
  | cons a rest ih =>
    intro henc hnext s
    have hrest := ih (fun s b hb => henc s b (List.mem_cons_of_mem a hb)) hnext
    simp only [List.map_cons, encodeAll, henc s a List.mem_cons_self, hnext, hrest]

variable (next)

/-- Where each value reads back from its own, nonempty, encoding, so does the whole list from
theirs one after the other. -/
theorem decodeAll_encodeAll {enc : σ → α → Except ε Bytes} {dec : σ → Decoder ε α}
    {P : σ → α → Prop}
    (hone : ∀ s a, P s a → ∃ out, enc s a = .ok out ∧ out ≠ [] ∧ Reads (dec s) out a) :
    ∀ (items : List α) (s : σ), Threaded next P s items →
      ∃ out, encodeAll next enc s items = .ok out ∧
        ∀ fuel, out.length ≤ fuel → decodeAll next dec fuel s out = .ok (items, []) := by
  intro items
  induction items with
  | nil =>
    intro s _
    refine ⟨[], rfl, fun fuel _ => ?_⟩
    cases fuel with
    | zero => rfl
    | succ fuel => rfl
  | cons a rest ih =>
    rintro s ⟨ha, hrest⟩
    obtain ⟨head, hhead, hne, hreads⟩ := hone s a ha
    obtain ⟨tail, htail, hall⟩ := ih (next s a) hrest
    refine ⟨head ++ tail, by simp only [encodeAll, hhead, htail, except_ok_bind, except_pure],
      fun fuel hfuel => ?_⟩
    have hpos : 0 < head.length := List.length_pos_iff.mpr hne
    rw [List.length_append] at hfuel
    obtain ⟨fuel, rfl⟩ : ∃ n, fuel = n + 1 := ⟨fuel - 1, by omega⟩
    have hempty : (head ++ tail).isEmpty = false := by simp [hne]
    simp only [decodeAll, hempty, Bool.false_eq_true, if_false, hreads tail, except_ok_bind,
      hall fuel (by omega), except_pure]

end Threaded

/-! Values read a given number of times, with a state carried from one to the next. -/

section Repeated

variable {ε α σ : Type} (dec : σ → Decoder ε (σ × α))

def decodeTimes : Nat → σ → Decoder ε (List α)
  | 0, _, bytes => .ok ([], bytes)
  | n + 1, s, bytes => do
    let ((s, a), bytes) ← dec s bytes
    let (rest, bytes) ← decodeTimes n s bytes
    return (a :: rest, bytes)

/-- Encodings one after the other, each of them read in the state the ones before it lead to. -/
inductive ReadsTimes : σ → List α → Bytes → Prop where
  | nil (s : σ) : ReadsTimes s [] []
  | cons {s s' : σ} {a : α} {rest : List α} {head tail : Bytes} (hhead : Reads (dec s) head (s', a))
    (htail : ReadsTimes s' rest tail) : ReadsTimes s (a :: rest) (head ++ tail)

variable {dec}

theorem ReadsTimes.reads {s : σ} {items : List α} {out : Bytes} (h : ReadsTimes dec s items out) :
    Reads (decodeTimes dec items.length s) out items := by
  induction h with
  | nil s =>
    intro tail
    rfl
  | cons hhead htail ih =>
    intro rest
    rw [List.append_assoc, List.length_cons, decodeTimes, hhead, except_ok_bind]
    simp only [ih rest, except_ok_bind, except_pure]

/-- A step of the loop, seen from its result. -/
theorem decodeTimes_succ_eq_ok {n : Nat} {s : σ} {bytes rest : Bytes} {items : List α}
    (h : decodeTimes dec (n + 1) s bytes = .ok (items, rest)) :
    ∃ s' a left more, dec s bytes = .ok ((s', a), left) ∧
      decodeTimes dec n s' left = .ok (more, rest) ∧ items = a :: more := by
  obtain ⟨⟨⟨s', a⟩, left⟩, hone, hmore⟩ := except_bind_eq_ok.mp h
  obtain ⟨⟨more, left'⟩, hrest, hret⟩ := except_bind_eq_ok.mp hmore
  cases hret
  exact ⟨s', a, left, more, hone, hrest, rfl⟩

end Repeated

end Moqtail.Lib
