import Moqtail.Lib.Incremental

/-! A reader that changes its state while it tries.

What it has changed by the time it finds the bytes too few stays changed. If such attempts leave no
trace, it comes to what a reader comes to that returns its state, and the way the bytes are cut does
not show in anything it keeps, also not in a log of what it did. -/
namespace Moqtail.Lib

section InPlace

variable {ε σ τ : Type} (short : ε → Bool) (parse : σ → Bytes → σ × Except ε Bytes)

/-- Parses for as long as the bytes last, always on in the state the last turn has left. -/
def drainInPlace : Nat → σ → Bytes → Except (σ × ε) (σ × Bytes)
  | 0, s, bytes => .ok (s, bytes)
  | fuel + 1, s, bytes =>
    if bytes.isEmpty then .ok (s, bytes)
    else
      match parse s bytes with
      | (s, .ok rest) => drainInPlace fuel s rest
      | (s, .error e) => if short e then .ok (s, bytes) else .error (s, e)

/-- What a piece does to the reader and its buffer. -/
def feedInPlace (reader : σ × Bytes) (piece : Bytes) : Except (σ × ε) (σ × Bytes) :=
  drainInPlace short parse (reader.2 ++ piece).length reader.1 (reader.2 ++ piece)

/-- An attempt that lacks bytes leaves no trace. -/
def Restores : Prop :=
  ∀ s bytes s' e, parse s bytes = (s', .error e) → short e = true → s' = s

/-- A turn, with the state it leaves told along with an error. -/
def parsedInPlace (s : σ) (bytes : Bytes) : Except (σ × ε) (σ × Bytes) :=
  match parse s bytes with
  | (s, .ok rest) => .ok (s, rest)
  | (s, .error e) => .error (s, e)

/-- How many bytes a decoder takes, as its caller finds out. -/
def counted {α : Type} (dec : Decoder ε α) : Decoder ε (α × Nat) := fun bytes => do
  let (a, rest) ← dec bytes
  return ((a, bytes.length - rest.length), rest)

variable {short parse}

theorem counted_eq_ok {α : Type} {dec : Decoder ε α} {bytes rest : Bytes} {a : α} {n : Nat}
    (h : counted dec bytes = .ok ((a, n), rest)) :
    dec bytes = .ok (a, rest) ∧ n = bytes.length - rest.length := by
  obtain ⟨⟨a', rest'⟩, hdec, hret⟩ := except_bind_eq_ok.mp h
  cases hret
  exact ⟨hdec, rfl⟩

theorem counted_eq_error {α : Type} {dec : Decoder ε α} {bytes : Bytes} {e : ε}
    (h : counted dec bytes = .error e) : dec bytes = .error e := by
  unfold counted at h
  cases hdec : dec bytes with
  | error e' =>
    rw [hdec] at h
    cases h
    rfl
  | ok p =>
    rw [hdec] at h
    cases h

/-- Counting is no reading: it can be tried where the decoder can. -/
theorem Progressive.counted {α : Type} {dec : Decoder ε α} (h : Progressive short dec) :
    Progressive short (counted dec) where
  stable bytes p rest tail hok := by
    obtain ⟨hdec, hn⟩ := counted_eq_ok hok
    obtain ⟨a, n⟩ := p
    rw [Lib.counted, h.stable _ _ _ tail hdec, except_ok_bind]
    show Except.ok ((a, (bytes ++ tail).length - (rest ++ tail).length), rest ++ tail) = _
    rw [List.length_append, List.length_append, Nat.add_sub_add_right, ← hn]
  shrinks bytes rest p hok := h.shrinks _ _ _ (counted_eq_ok hok).1
  fails bytes tail e herror hshort := by
    rw [Lib.counted, h.fails bytes tail e (counted_eq_error herror) hshort, except_error_bind]
  takes bytes rest p hok := h.takes _ _ _ (counted_eq_ok hok).1

/-- A reader in place whose failed attempts leave no trace is one that returns its state. -/
theorem drainInPlace_eq_drain (hrestores : Restores short parse) (fuel : Nat) :
    ∀ s bytes, drainInPlace short parse fuel s bytes =
      (drain (fun failure => short failure.2) (parsedInPlace parse) fuel s bytes).mapError Prod.snd := by
  induction fuel with
  | zero => exact fun s bytes => rfl
  | succ fuel ih =>
    intro s bytes
    simp only [drainInPlace, drain, parsedInPlace]
    by_cases hempty : bytes.isEmpty = true
    · rw [if_pos hempty, if_pos hempty]
      rfl
    · rw [if_neg hempty, if_neg hempty]
      cases hturn : parse s bytes with
      | mk s' result =>
        cases result with
        | ok rest => exact ih s' rest
        | error e =>
          show (if short e = true then _ else _) = Except.mapError _ (if short e = true then _ else _)
          by_cases hshort : short e = true
          · have hsame := hrestores _ _ _ _ hturn hshort
            rw [if_pos hshort, if_pos hshort, hsame]
            rfl
          · rw [if_neg hshort, if_neg hshort]
            rfl

theorem foldlM_mapError {α ε' : Type} (f : σ → α → Except ε σ) (g : ε → ε') (l : List α) :
    ∀ s, l.foldlM (fun s a => (f s a).mapError g) s = (l.foldlM f s).mapError g := by
  induction l with
  | nil => exact fun s => rfl
  | cons a l ih =>
    intro s
    rw [List.foldlM_cons, List.foldlM_cons]
    cases f s a with
    | error e => rfl
    | ok s' => exact ih s'

section Cuts

variable (hrestores : Restores short parse)
  (hparse : ∀ s, Progressive (fun failure : σ × ε => short failure.2) (parsedInPlace parse s))

include hrestores

theorem feedInPlace_eq_feed (reader : σ × Bytes) (piece : Bytes) :
    feedInPlace short parse reader piece =
      (feed (fun failure => short failure.2) (parsedInPlace parse) reader piece).mapError Prod.snd :=
  drainInPlace_eq_drain hrestores _ _ _

include hparse

/-- However the bytes are cut, the reader in place comes to what it comes to when they arrive at
once. -/
theorem foldlM_feedInPlace (pieces : List Bytes) (s : σ) :
    pieces.foldlM (feedInPlace short parse) (s, []) =
      feedInPlace short parse (s, []) pieces.flatten := by
  have hfeed : feedInPlace short parse = fun reader piece =>
      (feed (fun failure => short failure.2) (parsedInPlace parse) reader piece).mapError Prod.snd := by
    funext reader piece
    exact feedInPlace_eq_feed hrestores reader piece
  rw [hfeed, foldlM_mapError, foldlM_feed hparse pieces (s, []) rfl]

/-- What is left in the buffer, no bytes move on. -/
theorem feedInPlace_nil {reader reader' : σ × Bytes} {piece : Bytes}
    (h : feedInPlace short parse reader piece = .ok reader') :
    feedInPlace short parse reader' [] = .ok reader' := by
  rw [feedInPlace_eq_feed hrestores] at h ⊢
  rw [feed_nil_of_feed hparse (except_mapError_eq_ok.mp h)]
  rfl

end Cuts

/-- `I` holds of a reader that waits, and `J` of one that has failed. -/
def Ends (I : σ → Prop) (J : σ → ε → Prop) : Except (σ × ε) (σ × Bytes) → Prop
  | .ok (s, _) => I s
  | .error (s, e) => J s e

/-- A run in place: what holds at the start and after each turn that takes bytes holds at the end,
and what holds then gives what an error leaves. -/
theorem drainInPlace_ends {I : σ → Prop} {J : σ → ε → Prop} (hrestores : Restores short parse)
    (hok : ∀ s bytes s' rest, I s → parse s bytes = (s', .ok rest) → I s')
    (herror : ∀ s bytes s' e, I s → parse s bytes = (s', .error e) → short e = false → J s' e)
    (fuel : Nat) : ∀ s bytes, I s → Ends I J (drainInPlace short parse fuel s bytes) := by
  induction fuel with
  | zero => exact fun s bytes hs => hs
  | succ fuel ih =>
    intro s bytes hs
    simp only [drainInPlace]
    by_cases hempty : bytes.isEmpty = true
    · rw [if_pos hempty]
      exact hs
    · rw [if_neg hempty]
      cases hturn : parse s bytes with
      | mk s' result =>
        cases result with
        | ok rest => exact ih s' rest (hok _ _ _ _ hs hturn)
        | error e =>
          simp only
          cases hshort : short e with
          | true =>
            have hsame := hrestores _ _ _ _ hturn hshort
            subst hsame
            exact hs
          | false => exact herror _ _ _ _ hs hturn hshort

/-- What a reader comes to is in view what another comes to. Where both fail, `K` relates the states
they leave. -/
def Follows (view : σ → τ) (K : σ → τ → Prop) (result : Except (σ × ε) (σ × Bytes))
    (result' : Except (τ × ε) (τ × Bytes)) : Prop :=
  match result with
  | .ok (s, rest) => result' = .ok (view s, rest)
  | .error (s, e) => ∃ t, result' = .error (t, e) ∧ K s t

/-- A reader in place follows a reader that returns its state, if its turns do. -/
theorem drainInPlace_follows {parse' : τ → Bytes → Except ε (τ × Bytes)} {view : σ → τ}
    {K : σ → τ → Prop} (hrestores : Restores short parse)
    (hok : ∀ s bytes s' rest, parse s bytes = (s', .ok rest) →
      parse' (view s) bytes = .ok (view s', rest))
    (herror : ∀ s bytes s' e, parse s bytes = (s', .error e) →
      parse' (view s) bytes = .error e ∧ K s' (view s)) (fuel : Nat) : ∀ s bytes,
      Follows view K (drainInPlace short parse fuel s bytes)
        (drain short parse' fuel (view s) bytes) := by
  induction fuel with
  | zero => exact fun s bytes => rfl
  | succ fuel ih =>
    intro s bytes
    simp only [drainInPlace, drain]
    by_cases hempty : bytes.isEmpty = true
    · rw [if_pos hempty, if_pos hempty]
      rfl
    · rw [if_neg hempty, if_neg hempty]
      cases hturn : parse s bytes with
      | mk s' result =>
        cases result with
        | ok rest =>
          rw [hok _ _ _ _ hturn]
          exact ih s' rest
        | error e =>
          obtain ⟨hfails, hK⟩ := herror _ _ _ _ hturn
          rw [hfails]
          simp only
          cases hshort : short e with
          | true =>
            have hsame := hrestores _ _ _ _ hturn hshort
            subst hsame
            rfl
          | false => exact ⟨view s, rfl, hK⟩

end InPlace

end Moqtail.Lib
