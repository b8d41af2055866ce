import Moqtail.Lib.Codec

/-! Reading a stream whose bytes arrive in pieces.

An incremental decoder can be tried on what has arrived so far: unless it says that the bytes
are too few, more of them would not have changed its answer. A reader that tries again on a
growing buffer then comes to the same in whatever pieces the bytes arrive. -/
namespace Moqtail.Lib

section Incremental

variable {ε α β σ : Type}

/-- Bytes to come change neither what is read nor an error, unless the error is that there are
too few of them; and no bytes are added to those left. -/
structure Incremental (short : ε → Bool) (dec : Decoder ε α) : Prop where
  stable : Stable dec
  shrinks : ∀ (bytes rest : Bytes) (a : α), dec bytes = .ok (a, rest) → rest.length ≤ bytes.length
  fails : ∀ (bytes tail : Bytes) (e : ε), dec bytes = .error e → short e = false →
    dec (bytes ++ tail) = .error e

variable {short : ε → Bool}

theorem Incremental.ok (a : α) : Incremental short fun bytes => .ok (a, bytes) where
  stable bytes b rest tail h := by
    cases h
    rfl
  shrinks bytes rest b h := by
    cases h
    exact le_rfl
  fails bytes tail e h := by cases h

theorem Incremental.error (e : ε) : Incremental short (fun _ => .error e : Decoder ε α) where
  stable bytes a rest tail h := by cases h
  shrinks bytes rest a h := by cases h
  fails bytes tail e' h _ := h

theorem Incremental.bind {dec : Decoder ε α} {f : α × Bytes → Except ε (β × Bytes)}
    (h : Incremental short dec) (hnext : ∀ a, Incremental short fun bytes => f (a, bytes)) :
    Incremental short fun bytes => dec bytes >>= f where
  stable bytes b rest tail hok := by
    obtain ⟨⟨a, left⟩, hdec, hf⟩ := except_bind_eq_ok.mp hok
    show (dec (bytes ++ tail) >>= f) = _
    rw [h.stable _ _ _ tail hdec, except_ok_bind]
    exact (hnext a).stable _ _ _ tail hf
  shrinks bytes rest b hok := by
    obtain ⟨⟨a, left⟩, hdec, hf⟩ := except_bind_eq_ok.mp hok
    exact le_trans ((hnext a).shrinks _ _ _ hf) (h.shrinks _ _ _ hdec)
  fails bytes tail e herror hshort := by
    show (dec (bytes ++ tail) >>= f) = _
    cases hdec : dec bytes with
    | error e' =>
      simp only [hdec, except_error_bind, Except.error.injEq] at herror
      subst herror
      rw [h.fails _ tail _ hdec hshort, except_error_bind]
    | ok p =>
      simp only [hdec, except_ok_bind] at herror
      rw [h.stable _ _ _ tail hdec, except_ok_bind]
      exact (hnext p.1).fails _ tail _ herror hshort

/-- A step that takes no bytes. -/
theorem Incremental.bind_result {x : Except ε α} {f : α → Decoder ε β}
    (hnext : ∀ a, Incremental short (f a)) : Incremental short fun bytes => x >>= (f · bytes) := by
  cases x with
  | error e => exact Incremental.error e
  | ok a => exact hnext a

theorem Incremental.ite {c : Prop} [Decidable c] {dec dec' : Decoder ε α}
    (h : Incremental short dec) (h' : Incremental short dec') :
    Incremental short fun bytes => if c then dec bytes else dec' bytes := by
  by_cases hc : c
  · simpa only [hc, if_true] using h
  · simpa only [hc, if_false] using h'

/-- Errors told in other words, as long as the words for too few bytes are kept apart. -/
theorem Incremental.mapError {ε' : Type} {short' : ε' → Bool} {dec : Decoder ε α} {g : ε → ε'}
    (h : Incremental short dec) (hshort : ∀ e, short' (g e) = short e) :
    Incremental short' fun bytes => (dec bytes).mapError g where
  stable bytes a rest tail hok := by
    have hdec := except_mapError_eq_ok.mp hok
    exact except_mapError_eq_ok.mpr (h.stable _ _ _ tail hdec)
  shrinks _ _ _ hok := h.shrinks _ _ _ (except_mapError_eq_ok.mp hok)
  fails bytes tail e herror hlong := by
    cases hdec : dec bytes with
    | ok p =>
      rw [hdec] at herror
      cases herror
    | error e' =>
      rw [hdec] at herror
      cases herror
      rw [hshort] at hlong
      show (dec (bytes ++ tail)).mapError g = _
      rw [h.fails _ tail _ hdec hlong]
      rfl

/-- A part of what is read whole is too short. -/
theorem Incremental.short_of_append {dec : Decoder ε α} (h : Incremental short dec)
    {front rear : Bytes} {a : α} (hall : dec (front ++ rear) = .ok (a, [])) (hrear : rear ≠ []) :
    ∃ e, dec front = .error e ∧ short e = true := by
  cases hfront : dec front with
  | ok p => exact absurd hfront (h.stable.not_ok_of_append hall hrear)
  | error e =>
    refine ⟨e, rfl, ?_⟩
    by_contra hlong
    rw [h.fails front rear e hfront (Bool.eq_false_of_not_eq_true hlong)] at hall
    cases hall

/-- An incremental decoder that takes a byte at least. -/
structure Progressive (short : ε → Bool) (dec : Decoder ε α) : Prop extends
    Incremental short dec where
  takes : ∀ (bytes rest : Bytes) (a : α), dec bytes = .ok (a, rest) → rest.length < bytes.length

theorem Progressive.bind {dec : Decoder ε α} {f : α × Bytes → Except ε (β × Bytes)}
    (h : Progressive short dec) (hnext : ∀ a, Incremental short fun bytes => f (a, bytes)) :
    Progressive short fun bytes => dec bytes >>= f where
  toIncremental := h.toIncremental.bind hnext
  takes bytes rest b hok := by
    obtain ⟨⟨a, left⟩, hdec, hf⟩ := except_bind_eq_ok.mp hok
    exact lt_of_le_of_lt ((hnext a).shrinks _ _ _ hf) (h.takes _ _ _ hdec)

theorem Progressive.mapError {ε' : Type} {short' : ε' → Bool} {dec : Decoder ε α} {g : ε → ε'}
    (h : Progressive short dec) (hshort : ∀ e, short' (g e) = short e) :
    Progressive short' fun bytes => (dec bytes).mapError g where
  toIncremental := h.toIncremental.mapError hshort
  takes _ _ _ hok := h.takes _ _ _ (except_mapError_eq_ok.mp hok)

/-- An incremental decoder that leaves a rear part of the bytes. -/
structure Cursor (short : ε → Bool) (dec : Decoder ε α) : Prop extends Incremental short dec where
  leaves : ∀ (bytes rest : Bytes) (a : α), dec bytes = .ok (a, rest) → rest <:+ bytes

theorem Cursor.ok (a : α) : Cursor short fun bytes => .ok (a, bytes) where
  toIncremental := .ok a
  leaves bytes rest b h := by
    cases h
    exact List.suffix_rfl

theorem Cursor.error (e : ε) : Cursor short (fun _ => .error e : Decoder ε α) where
  toIncremental := .error e
  leaves bytes rest a h := by cases h

theorem Cursor.bind {dec : Decoder ε α} {f : α × Bytes → Except ε (β × Bytes)}
    (h : Cursor short dec) (hnext : ∀ a, Cursor short fun bytes => f (a, bytes)) :
    Cursor short fun bytes => dec bytes >>= f where
  toIncremental := h.toIncremental.bind fun a => (hnext a).toIncremental
  leaves bytes rest b hok := by
    obtain ⟨⟨a, left⟩, hdec, hf⟩ := except_bind_eq_ok.mp hok
    exact ((hnext a).leaves _ _ _ hf).trans (h.leaves _ _ _ hdec)

theorem Cursor.bind_result {x : Except ε α} {f : α → Decoder ε β} (hnext : ∀ a, Cursor short (f a)) :
    Cursor short fun bytes => x >>= (f · bytes) := by
  cases x with
  | error e => exact .error e
  | ok a => exact hnext a

theorem Cursor.ite {c : Prop} [Decidable c] {dec dec' : Decoder ε α} (h : Cursor short dec)
    (h' : Cursor short dec') : Cursor short fun bytes => if c then dec bytes else dec' bytes := by
  by_cases hc : c
  · simpa only [hc, if_true] using h
  · simpa only [hc, if_false] using h'

/-- A decoder that is chosen by what another reads of the same bytes. -/
theorem Progressive.peek {dec : Decoder ε α} {f : α → Decoder ε β} (h : Incremental short dec)
    (hnext : ∀ a, Progressive short (f a)) :
    Progressive short fun bytes => dec bytes >>= fun p => f p.1 bytes where
  stable bytes b rest tail hok := by
    obtain ⟨⟨a, left⟩, hdec, hf⟩ := except_bind_eq_ok.mp hok
    show (dec (bytes ++ tail) >>= fun p => f p.1 (bytes ++ tail)) = _
    rw [h.stable _ _ _ tail hdec, except_ok_bind]
    exact (hnext a).stable _ _ _ tail hf
  shrinks bytes rest b hok := by
    obtain ⟨⟨a, left⟩, -, hf⟩ := except_bind_eq_ok.mp hok
    exact (hnext a).shrinks _ _ _ hf
  fails bytes tail e herror hshort := by
    show (dec (bytes ++ tail) >>= fun p => f p.1 (bytes ++ tail)) = _
    cases hdec : dec bytes with
    | error e' =>
      rw [hdec] at herror
      cases herror
      rw [h.fails _ tail _ hdec hshort, except_error_bind]
    | ok p =>
      rw [hdec] at herror
      rw [h.stable _ _ _ tail hdec, except_ok_bind]
      exact (hnext p.1).fails _ tail _ herror hshort
  takes bytes rest b hok := by
    obtain ⟨⟨a, left⟩, -, hf⟩ := except_bind_eq_ok.mp hok
    exact (hnext a).takes _ _ _ hf

/-! A reader over a growing buffer. -/

variable (short) (parse : σ → Bytes → Except ε (σ × Bytes))

/-- Parses for as long as the bytes last. An error that more bytes could mend leaves the reader
waiting; any other ends it, in the state it was in. -/
def drain : Nat → σ → Bytes → Except (σ × ε) (σ × Bytes)
  | 0, s, bytes => .ok (s, bytes)
  | fuel + 1, s, bytes =>
    if bytes.isEmpty then .ok (s, bytes)
    else
      match parse s bytes with
      | .ok (s, rest) => drain fuel s rest
      | .error e => if short e then .ok (s, bytes) else .error (s, e)

/-- What a piece does to the reader and its buffer. -/
def feed (reader : σ × Bytes) (piece : Bytes) : Except (σ × ε) (σ × Bytes) :=
  drain short parse (reader.2 ++ piece).length reader.1 (reader.2 ++ piece)

/-- The state a reader is in after it has parsed, or has failed. -/
def endState (result : Except (σ × ε) (σ × Bytes)) : σ :=
  match result with
  | .ok reader => reader.1
  | .error failure => failure.1

variable {short parse}

/-- What every parse keeps, a reader keeps. -/
theorem endState_drain {I : σ → Prop}
    (hstep : ∀ s bytes s' rest, I s → parse s bytes = .ok (s', rest) → I s') (fuel : Nat) :
    ∀ s bytes, I s → I (endState (drain short parse fuel s bytes)) := by
  induction fuel with
  | zero => exact fun s bytes hs => hs
  | succ fuel ih =>
    intro s bytes hs
    simp only [drain]
    split
    · exact hs
    · split
      next s' rest hok => exact ih s' rest (hstep s bytes s' rest hs hok)
      next e herror =>
        split
        · exact hs
        · exact hs

theorem drain_nil (fuel : Nat) (s : σ) : drain short parse fuel s [] = .ok (s, []) := by
  cases fuel <;> rfl

/-- More turns than bytes make no difference. -/
theorem drain_of_le (hparse : ∀ s, Progressive short (parse s)) (fuel : Nat) :
    ∀ (s : σ) (bytes : Bytes) (enough : Nat), bytes.length ≤ fuel → bytes.length ≤ enough →
      drain short parse fuel s bytes = drain short parse enough s bytes := by
  induction fuel with
  | zero =>
    intro s bytes enough hfuel _
    rw [List.length_eq_zero_iff.mp (Nat.le_zero.mp hfuel), drain_nil, drain_nil]
  | succ fuel ih =>
    intro s bytes enough hfuel henough
    cases enough with
    | zero => rw [List.length_eq_zero_iff.mp (Nat.le_zero.mp henough), drain_nil, drain_nil]
    | succ enough =>
      simp only [drain]
      split
      · rfl
      · split
        next s' rest hok =>
          have hless := (hparse s).takes _ _ _ hok
          exact ih s' rest enough (by omega) (by omega)
        · rfl

/-- Bytes that follow later are parsed from where the earlier ones have led. -/
theorem drain_append (hparse : ∀ s, Progressive short (parse s)) (fuel : Nat) : ∀ (s : σ) (bytes tail : Bytes), bytes.length ≤ fuel →
      drain short parse (bytes ++ tail).length s (bytes ++ tail) =
        drain short parse fuel s bytes >>= (feed short parse · tail) := by
  induction fuel with
  | zero =>
    intro s bytes tail hfuel
    rw [List.length_eq_zero_iff.mp (Nat.le_zero.mp hfuel)]
    rfl
  | succ fuel ih =>
    intro s bytes tail hfuel
    cases bytes with
    | nil => rfl
    | cons b bs =>
      have hempty : (b :: bs ++ tail).isEmpty = false := rfl
      rw [List.length_cons] at hfuel
      simp only [drain, List.cons_append, List.length_cons, List.isEmpty_cons, Bool.false_eq_true,
        if_false]
      rw [← List.cons_append]
      cases hb : parse s (b :: bs) with
      | ok p =>
        obtain ⟨s', rest⟩ := p
        have hless := (hparse s).takes _ _ _ hb
        rw [List.length_cons] at hless
        rw [(hparse s).stable _ _ _ tail hb]
        simp only
        rw [drain_of_le hparse _ s' (rest ++ tail) (rest ++ tail).length
          (by simp only [List.length_append]; omega) le_rfl]
        exact ih s' rest tail (by omega)
      | error e =>
        cases hshort : short e with
        | true =>
          simp only [hshort, if_true, except_ok_bind]
          rfl
        | false =>
          rw [(hparse s).fails _ tail _ hb hshort]
          simp only [hshort, Bool.false_eq_true, if_false, except_error_bind]

/-- Two pieces one after the other are as good as one. -/
theorem feed_append (hparse : ∀ s, Progressive short (parse s))
    (reader : σ × Bytes) (first second : Bytes) :
    feed short parse reader (first ++ second) =
      feed short parse reader first >>= (feed short parse · second) := by
  unfold feed
  rw [← List.append_assoc]
  exact drain_append hparse _ _ _ _ le_rfl

/-- Each parse of the one reader is one of the other, in states that `R` relates for as long as the
one's is good: then the other comes to where the one has stopped, and goes on from there. -/
theorem exists_drain_of_drain {τ δ : Type} {short' : δ → Bool} {parse' : τ → Bytes → Except δ (τ × Bytes)}
    {Good : σ → Prop} {R : σ → Bytes → τ → Prop}
    (hgood : ∀ s bytes s' rest, parse s bytes = .ok (s', rest) → Good s' → Good s)
    (hstep : ∀ s bytes t s' rest, R s bytes t → Good s' → parse s bytes = .ok (s', rest) →
      ∃ t', parse' t bytes = .ok (t', rest) ∧ R s' rest t') (fuel : Nat) :
    ∀ s bytes t, R s bytes t → Good (endState (drain short parse fuel s bytes)) →
      ∃ fuel' t' left, R (endState (drain short parse fuel s bytes)) left t' ∧
        drain short' parse' fuel t bytes = drain short' parse' fuel' t' left ∧
        ∀ s' rest, drain short parse fuel s bytes = .ok (s', rest) → left = rest := by
  have hback : ∀ fuel s bytes, Good (endState (drain short parse fuel s bytes)) → Good s := by
    intro fuel
    induction fuel with
    | zero => exact fun s bytes h => h
    | succ fuel ih =>
      intro s bytes h
      simp only [drain] at h
      split at h
      · exact h
      · split at h
        next s' rest hok => exact hgood s bytes s' rest hok (ih s' rest h)
        next e herror => split at h <;> exact h
  induction fuel with
  | zero =>
    intro s bytes t hR _
    refine ⟨0, t, bytes, hR, rfl, fun s' rest h => ?_⟩
    cases h
    rfl
  | succ fuel ih =>
    intro s bytes t hR hend
    by_cases hempty : bytes.isEmpty = true
    · refine ⟨fuel + 1, t, bytes, ?_, rfl, fun s' rest h => ?_⟩
      · rwa [drain, if_pos hempty]
      · rw [drain, if_pos hempty] at h
        cases h
        rfl
    · rw [drain, if_neg hempty] at hend ⊢
      cases hparse : parse s bytes with
      | ok p =>
        obtain ⟨s₁, rest₁⟩ := p
        rw [hparse] at hend
        obtain ⟨t₁, hparse', hR₁⟩ := hstep s bytes t s₁ rest₁ hR (hback fuel s₁ rest₁ hend) hparse
        obtain ⟨fuel', t', left, hR', hdrain, hleft⟩ := ih s₁ rest₁ t₁ hR₁ hend
        refine ⟨fuel', t', left, hR', ?_, hleft⟩
        rw [drain, if_neg hempty, hparse']
        exact hdrain
      | error e =>
        refine ⟨fuel + 1, t, bytes, ?_, rfl, fun s' rest h => ?_⟩
        · dsimp only
          split <;> exact hR
        · dsimp only at h
          split at h
          · cases h
            rfl
          · cases h

/-- What a piece leaves behind, no bytes move on. -/
theorem feed_nil_of_feed (hparse : ∀ s, Progressive short (parse s))
    {reader reader' : σ × Bytes} {piece : Bytes} (h : feed short parse reader piece = .ok reader') :
    feed short parse reader' [] = .ok reader' := by
  have happend := feed_append hparse reader piece []
  rw [List.append_nil, h, except_ok_bind] at happend
  exact happend.symm

/-- However the bytes are cut, the reader comes to what it comes to when they arrive at once. -/
theorem foldlM_feed (hparse : ∀ s, Progressive short (parse s))
    (pieces : List Bytes) : ∀ reader : σ × Bytes, feed short parse reader [] = .ok reader →
      pieces.foldlM (feed short parse) reader = feed short parse reader pieces.flatten := by
  induction pieces with
  | nil =>
    intro reader hsettled
    exact hsettled.symm
  | cons piece pieces ih =>
    intro reader _
    rw [List.foldlM_cons, List.flatten_cons, feed_append hparse]
    cases hfeed : feed short parse reader piece with
    | error e => rfl
    | ok reader' => exact ih reader' (feed_nil_of_feed hparse hfeed)

end Incremental

end Moqtail.Lib
