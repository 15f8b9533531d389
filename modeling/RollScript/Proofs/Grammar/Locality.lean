import RollScript.Proofs.Grammar.Reading

/-!
# Readers look no further than the present token

Read `AgreesOn` first: a run of a parser on one stream is also its run on every other stream with the
same tokens up to the one at which the run ended. The property is kept by the ways in which parsers
are put together, so it holds of the reader of expressions, also when its limits differ.
-/

namespace RollScript

open RollScript.Parser
open RollScript.Stream

/-- The token that an error of syntax says cannot stand where it does. Too much nesting is blamed on a
token that may well stand there. -/
def SyntaxError.found? : SyntaxError → Option Token
  | expected _ token => some token
  | noExpression token => some token
  | trailing token => some token
  | tooDeep _ => none
  | lexical _ => none

/-- A run ended because it reached a limit. -/
def AtLimit {β : Type} (result : Except SyntaxError β) : Prop :=
  ∃ found, result = .error (.tooDeep found)

theorem atLimit_tooDeep {α : Type} (s : Stream) : AtLimit ((tooDeep : Parser α) s) :=
  ⟨s.current, run_tooDeep s⟩

section AtLimit

variable {α β : Type} {x : Parser α} {f : α → Parser β} {s between : Stream} {a : α}

theorem AtLimit.bind (h : AtLimit (x s)) : AtLimit ((x >>= f) s) := by
  obtain ⟨found, hx⟩ := h
  refine ⟨found, ?_⟩
  rw [run_bind, hx]

/-- What is known of two parsers unless they reach a limit is known of one after the other. -/
theorem bind_or_atLimit {result : Except SyntaxError (β × Stream)}
    (hx : x s = .ok (a, between) ∨ AtLimit (x s))
    (hf : f a between = result ∨ AtLimit (f a between)) :
    (x >>= f) s = result ∨ AtLimit ((x >>= f) s) := by
  rcases hx with hx | hx
  · rw [bind_run hx]
    exact hf
  · exact .inr hx.bind

end AtLimit

/-- What `x` does on a stream, `y` does on every stream with the same tokens up to the present one of
the stream where `x` ended, unless `y` reaches a limit. -/
structure AgreesOn {α : Type} (s : Stream) (x y : Parser α) : Prop where
  ok : ∀ a later, x s = .ok (a, later) → ∃ taken, s = prepend taken later ∧ later.Proper ∧
    ∀ other : Stream, other.current = later.current →
      y (prepend taken other) = .ok (a, other) ∨ AtLimit (y (prepend taken other))
  error : ∀ e token, x s = .error e → e.found? = some token → ∃ taken later,
    s = prepend taken later ∧ later.current = token ∧
    ∀ other : Stream, other.current = token →
      y (prepend taken other) = .error e ∨ AtLimit (y (prepend taken other))

namespace AgreesOn

variable {α β : Type} {s : Stream} {x y : Parser α} {f g : α → Parser β}

theorem pure (hproper : s.Proper) (a : α) :
    AgreesOn s (Pure.pure a : Parser α) (Pure.pure a) := by
  refine ⟨fun a' later h => ?_, fun e token h => by cases h⟩
  cases h
  exact ⟨[], rfl, hproper, fun other _ => .inl rfl⟩

/-- Reaching a limit says nothing of other runs. -/
theorem of_atLimit (h : AtLimit (x s)) : AgreesOn s x y := by
  obtain ⟨limit, hlimit⟩ := h
  refine ⟨fun a later hok => ?_, fun e token herror hfound => ?_⟩
  · rw [hlimit] at hok
    cases hok
  · rw [hlimit] at herror
    cases herror
    cases hfound

theorem limited {z : Parser α} (h : AgreesOn s x y) (hz : ∀ other, AtLimit (z other)) :
    AgreesOn s x z := by
  refine ⟨fun a later hok => ?_, fun e token herror hfound => ?_⟩
  · obtain ⟨taken, hs, hlater, -⟩ := h.ok a later hok
    exact ⟨taken, hs, hlater, fun other _ => .inr (hz _)⟩
  · obtain ⟨taken, later, hs, hlater, -⟩ := h.error e token herror hfound
    exact ⟨taken, later, hs, hlater, fun other _ => .inr (hz _)⟩

/-- An error about the present token is the same on every stream with that token. -/
theorem throw {e : SyntaxError} (hfound : e.found? = some s.current) :
    AgreesOn s (MonadExcept.throw e : Parser α) (MonadExcept.throw e) := by
  refine ⟨fun a later h => (by cases h), fun e' token h htoken => ?_⟩
  cases h
  obtain rfl := Option.some.inj (hfound.symm.trans htoken)
  exact ⟨[], s, rfl, rfl, fun other _ => .inl rfl⟩

theorem current_prepend {taken : List Token} {later other : Stream}
    (h : other.current = later.current) :
    (prepend taken other).current = (prepend taken later).current := by
  cases taken with
  | nil => exact h
  | cons token taken => rfl

theorem bind (h : AgreesOn s x y)
    (hf : ∀ a later, x s = .ok (a, later) → later.Proper → AgreesOn later (f a) (g a)) :
    AgreesOn s (x >>= f) (y >>= g) := by
  refine ⟨fun b later hok => ?_, fun e token herror hfound => ?_⟩
  · obtain ⟨a, between, hx, hfa⟩ := bind_eq_ok.1 hok
    obtain ⟨taken, hs, hbetween, hy⟩ := h.ok a between hx
    obtain ⟨more, hmore, hlater, hg⟩ := (hf a between hx hbetween).ok b later hfa
    refine ⟨taken ++ more, by rw [prepend_append, ← hmore, ← hs], hlater, fun other hother => ?_⟩
    have hcurrent : (prepend more other).current = between.current := by
      rw [hmore]
      exact current_prepend hother
    rw [prepend_append]
    exact bind_or_atLimit (hy _ hcurrent) (hg other hother)
  · rcases bind_eq_error.1 herror with hx | ⟨a, between, hx, hfa⟩
    · obtain ⟨taken, later, hs, hlater, hy⟩ := h.error e token hx hfound
      refine ⟨taken, later, hs, hlater, fun other hother => ?_⟩
      rcases hy other hother with hy | hy
      · rw [run_bind, hy]
        exact .inl rfl
      · exact .inr hy.bind
    · obtain ⟨taken, hs, hbetween, hy⟩ := h.ok a between hx
      obtain ⟨more, later, hmore, hlater, hg⟩ := (hf a between hx hbetween).error e token hfa hfound
      refine ⟨taken ++ more, later, by rw [prepend_append, ← hmore, ← hs], hlater,
        fun other hother => ?_⟩
      have hcurrent : (prepend more other).current = between.current := by
        rw [hmore]
        exact current_prepend (hother.trans hlater.symm)
      rw [prepend_append]
      exact bind_or_atLimit (hy _ hcurrent) (hg other hother)

/-- The present token decides alike on all the streams in question. -/
theorem current_bind {f g : Token → Parser β} (h : AgreesOn s (f s.current) (g s.current)) :
    AgreesOn s (current >>= f) (current >>= g) := by
  refine ⟨fun b later hok => ?_, fun e token herror hfound => ?_⟩
  · obtain ⟨taken, hs, hlater, hg⟩ := h.ok b later hok
    refine ⟨taken, hs, hlater, fun other hother => ?_⟩
    have hcurrent : (prepend taken other).current = s.current := by
      rw [hs]
      exact current_prepend hother
    rw [Parser.current_bind, hcurrent]
    exact hg other hother
  · obtain ⟨taken, later, hs, hlater, hg⟩ := h.error e token herror hfound
    refine ⟨taken, later, hs, hlater, fun other hother => ?_⟩
    have hcurrent : (prepend taken other).current = s.current := by
      rw [hs]
      exact current_prepend (hother.trans hlater.symm)
    rw [Parser.current_bind, hcurrent]
    exact hg other hother

theorem advance (hproper : s.Proper) (hkind : s.current.kind ≠ .eof) :
    AgreesOn s Parser.advance Parser.advance := by
  refine ⟨fun token later h => ?_, fun e token h hfound => ?_⟩
  · obtain ⟨rfl, hs, hlater⟩ := advance_inv hproper hkind h
    exact ⟨[s.current], hs, hlater, fun other _ => .inl (advance_prepend hkind [] other)⟩
  · obtain ⟨-, -, error, -, rfl⟩ := next_eq_error (advance_eq_error.1 h)
    cases hfound

theorem expect (hproper : s.Proper) {kind : TokenKind} (hkind : kind ≠ .eof) (what : Expectation) :
    AgreesOn s (Parser.expect kind what) (Parser.expect kind what) := by
  refine current_bind ?_
  split
  · next hcurrent => exact advance hproper (by rwa [hcurrent])
  · exact throw rfl

end AgreesOn

/-! ## Readers with different limits -/

/-- Two readers of expressions agree on every stream. -/
def Agree (sub other : Nat → Parser Tree) : Prop :=
  ∀ power (s : Stream), s.Proper → AgreesOn s (sub power) (other power)

section Agree

variable {sub other : Nat → Parser Tree} {s : Stream}

/-- Loops agree if their rounds do, whatever their limits. -/
theorem loop_agree {α ι : Type} (loop loop' : Nat → ι → Parser α)
    (hzero : ∀ i, loop 0 i = tooDeep) (hzero' : ∀ i, loop' 0 i = tooDeep)
    (hsucc : ∀ rounds, (∀ rounds' i (s : Stream), s.Proper →
      AgreesOn s (loop rounds i) (loop' rounds' i)) → ∀ rounds' i (s : Stream), s.Proper →
        AgreesOn s (loop (rounds + 1) i) (loop' (rounds' + 1) i))
    (rounds rounds' : Nat) (i : ι) (hproper : s.Proper) :
    AgreesOn s (loop rounds i) (loop' rounds' i) := by
  induction rounds generalizing s rounds' i with
  | zero =>
      rw [hzero]
      exact .of_atLimit (atLimit_tooDeep s)
  | succ rounds ih =>
      have hnext := hsucc rounds fun rounds' i s hs => ih rounds' i hs
      cases rounds' with
      | zero =>
          rw [hzero']
          exact (hnext 0 i s hproper).limited atLimit_tooDeep
      | succ rounds' => exact hnext rounds' i s hproper

theorem arguments_agree (hsub : Agree sub other) (rounds rounds' : Nat) (hproper : s.Proper) :
    AgreesOn s (Read.arguments sub rounds) (Read.arguments other rounds') := by
  refine loop_agree (fun rounds (_ : Unit) => Read.arguments sub rounds)
    (fun rounds _ => Read.arguments other rounds) (fun _ => rfl) (fun _ => rfl)
    (fun rounds ih rounds' _ s hproper => ?_) rounds rounds' () hproper
  refine (hsub 2 s hproper).bind fun item between _ hbetween => .current_bind ?_
  split
  · next hkind =>
      refine (AgreesOn.advance hbetween (by rw [hkind]; decide)).bind fun _ _ _ hafter => ?_
      exact (ih rounds' () _ hafter).bind fun _ _ _ hlater => .pure hlater _
  · exact .pure hbetween _

theorem elements_agree (hsub : Agree sub other) (rounds rounds' : Nat) (hproper : s.Proper) :
    AgreesOn s (Read.elements sub rounds) (Read.elements other rounds') := by
  refine loop_agree (fun rounds (_ : Unit) => Read.elements sub rounds)
    (fun rounds _ => Read.elements other rounds) (fun _ => rfl) (fun _ => rfl)
    (fun rounds ih rounds' _ s hproper => ?_) rounds rounds' () hproper
  refine .current_bind ?_
  split
  · exact .pure hproper _
  · refine (hsub 0 s hproper).bind fun item between _ hbetween => .current_bind ?_
    split
    · next hkind =>
        refine (AgreesOn.advance hbetween (by rw [hkind]; decide)).bind fun _ _ _ hafter => ?_
        exact (ih rounds' () _ hafter).bind fun _ _ _ hlater => .pure hlater _
    · exact .pure hbetween _

theorem bindings_agree (hsub : Agree sub other) (rounds rounds' : Nat) (hproper : s.Proper) :
    AgreesOn s (Read.bindings sub rounds) (Read.bindings other rounds') := by
  refine loop_agree (fun rounds (_ : Unit) => Read.bindings sub rounds)
    (fun rounds _ => Read.bindings other rounds) (fun _ => rfl) (fun _ => rfl)
    (fun rounds ih rounds' _ s hproper => ?_) rounds rounds' () hproper
  refine (AgreesOn.expect hproper (by decide) _).bind fun name named _ hnamed => ?_
  refine (hsub 0 named hnamed).bind fun value between _ hbetween => .current_bind ?_
  split
  · next hkind =>
      refine (AgreesOn.advance hbetween (by rw [hkind]; decide)).bind fun _ _ _ hafter => ?_
      exact (ih rounds' () _ hafter).bind fun _ _ _ hlater => .pure hlater _
  · exact .pure hbetween _

theorem call_agree (hsub : Agree sub other) (size size' : Nat) (callee : Tree) (hproper : s.Proper) :
    AgreesOn s (Read.call sub size callee) (Read.call other size' callee) := by
  refine (AgreesOn.expect hproper (by decide) _).bind fun opening inside _ hinside =>
    .current_bind ?_
  split
  · next hkind =>
      refine (AgreesOn.advance hinside (by rw [hkind]; decide)).bind fun _ _ _ hlater => ?_
      exact .pure hlater _
  · refine (arguments_agree hsub size size' hinside).bind fun items between _ hbetween => ?_
    exact (AgreesOn.expect hbetween (by decide) _).bind fun _ _ _ hlater => .pure hlater _

theorem climb_agree (hsub : Agree sub other) (size size' power rounds rounds' : Nat) (left : Tree)
    (hproper : s.Proper) :
    AgreesOn s (Read.climb sub size power rounds left)
      (Read.climb other size' power rounds' left) := by
  refine loop_agree (Read.climb sub size power) (Read.climb other size' power) (fun _ => rfl)
    (fun _ => rfl) (fun rounds ih rounds' left s hproper => ?_) rounds rounds' left hproper
  refine .current_bind ?_
  -- An operator is taken, its right operand is read, and the extension goes on.
  have hoperate : ∀ (q : Nat) (node : Tree → Tree), s.current.kind ≠ .eof →
      AgreesOn s
        (advance >>= fun _ => sub q >>= fun right => Read.climb sub size power rounds (node right))
        (advance >>= fun _ => other q >>= fun right =>
          Read.climb other size' power rounds' (node right)) := by
    intro q node heof
    refine (AgreesOn.advance hproper heof).bind fun _ between _ hbetween => ?_
    exact (hsub q between hbetween).bind fun right after _ hafter => ih rounds' (node right) _ hafter
  split
  · split
    · exact .pure hproper _
    · exact (call_agree hsub size size' left hproper).bind fun node after _ hafter =>
        ih rounds' node _ hafter
  · split
    · next hkind =>
        split
        · exact .pure hproper _
        · exact hoperate 2 (.comma left s.current) (by rw [hkind]; decide)
    · cases hpowers : Parse.operatorPowers s.current.kind with
      | some powers =>
          simp only
          split
          · exact .pure hproper _
          · refine hoperate powers.2 (.binary left s.current) ?_
            intro heof
            rw [heof] at hpowers
            cases hpowers
      | none =>
          simp only
          split
          · split
            · exact .pure hproper _
            · exact (hsub 19 s hproper).bind fun right after _ hafter =>
                ih rounds' (.juxtaposition left right) _ hafter
          · exact .pure hproper _

theorem term_agree (hsub : Agree sub other) (size size' : Nat) (hproper : s.Proper) :
    AgreesOn s (Read.term sub size) (Read.term other size') := by
  refine .current_bind ?_
  cases hkind : s.current.kind with
  | number | string | name =>
      refine (AgreesOn.advance hproper (by rw [hkind]; decide)).bind fun _ _ _ hlater => ?_
      exact .pure hlater _
  | lparen =>
      refine (AgreesOn.advance hproper (by rw [hkind]; decide)).bind fun opening inside _ hinside =>
        .current_bind ?_
      split
      · next hclosing =>
          refine (AgreesOn.advance hinside (by rw [hclosing]; decide)).bind fun _ _ _ hlater => ?_
          exact .pure hlater _
      · refine (hsub 0 inside hinside).bind fun inner between _ hbetween => ?_
        exact (AgreesOn.expect hbetween (by decide) _).bind fun _ _ _ hlater => .pure hlater _
  | lbracket =>
      refine (AgreesOn.advance hproper (by rw [hkind]; decide)).bind fun opening inside _ hinside =>
        ?_
      refine (elements_agree hsub size size' hinside).bind fun items between _ hbetween => ?_
      exact (AgreesOn.expect hbetween (by decide) _).bind fun _ _ _ hlater => .pure hlater _
  | atSign =>
      refine (AgreesOn.advance hproper (by rw [hkind]; decide)).bind fun opening inside _ hinside =>
        ?_
      refine (AgreesOn.expect hinside (by decide) _).bind fun parameter between _ hbetween => ?_
      exact (hsub 0 between hbetween).bind fun _ _ _ hlater => .pure hlater _
  | letWord =>
      refine (AgreesOn.advance hproper (by rw [hkind]; decide)).bind fun opening inside _ hinside =>
        ?_
      refine (bindings_agree hsub size size' hinside).bind fun bindings between _ hbetween => ?_
      refine (AgreesOn.expect hbetween (by decide) _).bind fun joint joined _ hjoined => ?_
      exact (hsub 0 joined hjoined).bind fun _ _ _ hlater => .pure hlater _
  | ifWord =>
      refine (AgreesOn.advance hproper (by rw [hkind]; decide)).bind fun opening inside _ hinside =>
        ?_
      refine (hsub 0 inside hinside).bind fun condition s₁ _ hs₁ => ?_
      refine (AgreesOn.expect hs₁ (by decide) _).bind fun first s₂ _ hs₂ => ?_
      refine (hsub 0 s₂ hs₂).bind fun whenTrue s₃ _ hs₃ => ?_
      refine (AgreesOn.expect hs₃ (by decide) _).bind fun second s₄ _ hs₄ => ?_
      exact (hsub 0 s₄ hs₄).bind fun _ _ _ hlater => .pure hlater _
  | plus | minus | bang =>
      refine (AgreesOn.advance hproper (by rw [hkind]; decide)).bind fun operator inside _ hinside =>
        ?_
      exact (hsub 17 inside hinside).bind fun _ _ _ hlater => .pure hlater _
  | _ => exact .throw rfl

end Agree

/-- The reader of expressions looks no further than the present token, and its limits matter only
when they are reached. -/
theorem expression_agree (size size' depth depth' : Nat) :
    Agree (Read.expression size depth) (Read.expression size' depth') := by
  intro power s hproper
  refine loop_agree (Read.expression size) (Read.expression size') (fun _ => rfl) (fun _ => rfl)
    (fun depth ih depth' power s hproper => ?_) depth depth' power hproper
  have hsub : Agree (Read.expression size depth) (Read.expression size' depth') :=
    fun power s hs => ih depth' power s hs
  refine (term_agree hsub size size' hproper).bind fun left between _ hbetween => ?_
  exact climb_agree hsub size size' power size size' left hbetween

end RollScript
