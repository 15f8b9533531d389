import RollScript.Expr.Parse

/-!
# Parsers on streams of tokens

What the parser's primitives do to a stream, as equations and as inversions. `Stream.prepend` puts
tokens in front of a stream, so that reading them gives the stream back. A `Proper` stream is one of
which the last token is the end of the input, unless a lexical error follows it.
-/

namespace RollScript

namespace Parser

variable {α β : Type} {s later : Stream} {token : Token}

theorem run_bind (x : Parser α) (f : α → Parser β) (s : Stream) :
    (x >>= f) s = match x s with
      | .ok (a, later) => f a later
      | .error e => .error e := by
  show (x s >>= fun p => f p.1 p.2) = _
  cases x s <;> rfl

theorem run_map (f : α → β) (x : Parser α) (s : Stream) :
    (f <$> x) s = (x s).map fun p => (f p.1, p.2) := by
  show (x s >>= fun p => Except.ok (f p.1, p.2)) = _
  cases x s <;> rfl

theorem bind_run {x : Parser α} {f : α → Parser β} {a : α} (h : x s = .ok (a, later)) :
    (x >>= f) s = f a later := by
  rw [run_bind, h]

theorem bind_eq_ok {x : Parser α} {f : α → Parser β} {b : β} :
    (x >>= f) s = .ok (b, later) ↔
      ∃ a between, x s = .ok (a, between) ∧ f a between = .ok (b, later) := by
  rw [run_bind]
  cases x s with
  | error e => simp
  | ok p =>
      obtain ⟨a, between⟩ := p
      simp [and_assoc]

theorem bind_eq_error {x : Parser α} {f : α → Parser β} {e : SyntaxError} :
    (x >>= f) s = .error e ↔
      x s = .error e ∨ ∃ a between, x s = .ok (a, between) ∧ f a between = .error e := by
  rw [run_bind]
  cases x s with
  | error e' => simp
  | ok p =>
      obtain ⟨a, between⟩ := p
      simp [and_assoc]

theorem current_bind (f : Token → Parser α) (s : Stream) :
    (current >>= f) s = f s.current s :=
  rfl

theorem current_bind_congr {f g : Token → Parser α}
    (h : ∀ s : Stream, f s.current s = g s.current s) : current >>= f = current >>= g :=
  funext h

@[simp] theorem run_tooDeep (s : Stream) : (tooDeep : Parser α) s = .error (.tooDeep s.current) :=
  rfl

theorem accept_bind (kind : TokenKind) (x y : Parser α) :
    (accept kind >>= fun b => if b = true then x else y) =
      current >>= fun token => if token.kind = kind then advance >>= fun _ => x else y := by
  simp only [accept, bind_assoc]
  refine bind_congr fun token => ?_
  split <;> simp

theorem run_advance (s : Stream) :
    advance s = s.next.map fun later => (s.current, later) := by
  show (s.next >>= fun later => Except.ok (later, s)) >>=
    (fun p => Except.ok (s.current, p.1)) = _
  cases s.next <;> rfl

theorem advance_eq_ok : advance s = .ok (token, later) ↔ token = s.current ∧ s.next = .ok later := by
  rw [run_advance]
  cases s.next with
  | error e => simp [Except.map]
  | ok next => simp [Except.map, eq_comm]

theorem advance_eq_error {e : SyntaxError} : advance s = .error e ↔ s.next = .error e := by
  rw [run_advance]
  cases s.next <;> simp [Except.map]

theorem run_expect (kind : TokenKind) (what : Expectation) (s : Stream) :
    expect kind what s =
      if s.current.kind = kind then advance s else .error (.expected what s.current) := by
  rw [expect, current_bind]
  split <;> rfl

end Parser

namespace Stream

/-- The tokens of a stream, the present one first. -/
def tokens (s : Stream) : List Token :=
  s.current :: s.later

/-- The stream with tokens put in front. -/
def prepend : List Token → Stream → Stream
  | [], s => s
  | t :: u, s => ⟨t, u ++ s.tokens, s.failure⟩

@[simp] theorem prepend_nil (s : Stream) : prepend [] s = s :=
  rfl

@[simp] theorem tokens_prepend (u : List Token) (s : Stream) :
    (prepend u s).tokens = u ++ s.tokens := by
  cases u <;> rfl

@[simp] theorem failure_prepend (u : List Token) (s : Stream) :
    (prepend u s).failure = s.failure := by
  cases u <;> rfl

@[simp] theorem current_prepend_cons (t : Token) (u : List Token) (s : Stream) :
    (prepend (t :: u) s).current = t :=
  rfl

theorem length_tokens {u : List Token} {s later : Stream} (hs : s = prepend u later) :
    s.tokens.length = u.length + later.tokens.length := by
  rw [hs, tokens_prepend, List.length_append]

theorem ext {s s' : Stream} (htokens : s.tokens = s'.tokens) (hfailure : s.failure = s'.failure) :
    s = s' := by
  obtain ⟨current, later, failure⟩ := s
  obtain ⟨current', later', failure'⟩ := s'
  obtain ⟨rfl, rfl⟩ := List.cons.inj htokens
  cases hfailure
  rfl

theorem prepend_append (u v : List Token) (s : Stream) :
    prepend (u ++ v) s = prepend u (prepend v s) := by
  refine ext ?_ ?_ <;> simp

theorem prepend_cons (t : Token) (u : List Token) (s : Stream) :
    prepend (t :: u) s = prepend [t] (prepend u s) :=
  prepend_append [t] u s

theorem next_prepend {t : Token} (ht : t.kind ≠ .eof) (u : List Token) (s : Stream) :
    (prepend (t :: u) s).next = .ok (prepend u s) := by
  cases u with
  | nil => simp [next, prepend, tokens, ht]
  | cons t' u => simp [next, prepend, tokens, ht]

/-- The end of the input is the last token of the stream, unless a lexical error follows it. -/
def Proper (s : Stream) : Prop :=
  s.failure = none → ∃ t ∈ s.tokens, t.kind = .eof

theorem proper_prepend {u : List Token} {s : Stream} (hu : ∀ t ∈ u, t.kind ≠ .eof) :
    (prepend u s).Proper ↔ s.Proper := by
  unfold Proper
  simp only [failure_prepend, tokens_prepend, List.mem_append]
  constructor
  · intro h hfailure
    obtain ⟨t, ht | ht, hkind⟩ := h hfailure
    · exact absurd hkind (hu t ht)
    · exact ⟨t, ht, hkind⟩
  · intro h hfailure
    obtain ⟨t, ht, hkind⟩ := h hfailure
    exact ⟨t, .inr ht, hkind⟩

theorem next_eq_ok {s later : Stream} (hproper : s.Proper) (hkind : s.current.kind ≠ .eof)
    (h : s.next = .ok later) : s = prepend [s.current] later ∧ later.Proper := by
  obtain ⟨current, rest, failure⟩ := s
  have hs : (⟨current, rest, failure⟩ : Stream) = prepend [current] later := by
    unfold next at h
    rw [if_neg hkind] at h
    cases rest with
    | cons t rest =>
        cases h
        rfl
    | nil =>
        cases failure with
        | some error => cases h
        | none =>
            obtain ⟨t, ht, heof⟩ := hproper rfl
            obtain rfl : t = current := by simpa [tokens] using ht
            exact absurd heof hkind
  refine ⟨hs, ?_⟩
  rw [hs] at hproper
  exact (proper_prepend (by simpa using hkind)).1 hproper

theorem next_eq_error {s : Stream} {e : SyntaxError} (h : s.next = .error e) :
    s.later = [] ∧ s.current.kind ≠ .eof ∧ ∃ error, s.failure = some error ∧ e = .lexical error := by
  obtain ⟨current, rest, failure⟩ := s
  unfold next at h
  split at h
  · cases h
  · next hkind =>
      cases rest with
      | cons t rest => cases h
      | nil =>
          cases failure with
          | some error =>
              cases h
              exact ⟨rfl, hkind, error, rfl, rfl⟩
          | none => cases h

end Stream

namespace Parser

open RollScript.Stream

variable {s later : Stream} {token : Token}

theorem advance_prepend {t : Token} (ht : t.kind ≠ .eof) (u : List Token) (s : Stream) :
    advance (prepend (t :: u) s) = .ok (t, prepend u s) :=
  advance_eq_ok.2 ⟨rfl, next_prepend ht u s⟩

theorem expect_prepend {kind : TokenKind} (what : Expectation) {t : Token} (ht : t.kind = kind)
    (hkind : kind ≠ .eof) (u : List Token) (s : Stream) :
    expect kind what (prepend (t :: u) s) = .ok (t, prepend u s) := by
  rw [run_expect, current_prepend_cons, if_pos ht]
  exact advance_prepend (ht ▸ hkind) u s

/-- A token that was taken stood at the front of the stream. -/
theorem advance_inv (hproper : s.Proper) (hkind : s.current.kind ≠ .eof)
    (h : advance s = .ok (token, later)) :
    token = s.current ∧ s = prepend [token] later ∧ later.Proper := by
  obtain ⟨rfl, hnext⟩ := advance_eq_ok.1 h
  exact ⟨rfl, next_eq_ok hproper hkind hnext⟩

theorem expect_inv {kind : TokenKind} {what : Expectation} (hproper : s.Proper) (hkind : kind ≠ .eof)
    (h : expect kind what s = .ok (token, later)) :
    token.kind = kind ∧ s = prepend [token] later ∧ later.Proper := by
  rw [run_expect] at h
  split at h
  · next hcurrent =>
      obtain ⟨rfl, hs, hlater⟩ := advance_inv hproper (hcurrent ▸ hkind) h
      exact ⟨hcurrent, hs, hlater⟩
  · cases h

end Parser

end RollScript
