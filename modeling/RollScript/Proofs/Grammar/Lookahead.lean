import RollScript.Proofs.Grammar.Partition
import RollScript.Token.Lexer

/-!
# The lexer and the tokens of its source

A lexer is asked for its next token over and over, to look at it or to take it, and some of these calls
fail. Read `Lexer.Follows` first: after any calls the lexer stands at one token of the source, which is
found by the number of tokens that were taken. `start_follows` is the main result. It rests on what a
lexer has still to read (`Lexer.remaining`): taking a token takes the first one off (`next_cases`), and
whatever calls come, the tokens read before and the remaining ones make up the scan of the source
(`Lexer.At`).
-/

namespace RollScript

namespace Lexer

/-! ## Calls -/

/-- What a lexer is asked: to show the next token, or to give it away. -/
inductive Call where
  | peek
  | next

/-- Answers a call. A call that fails leaves the lexer as it was. -/
def call (l : Lexer) : Call → Except LexError Token × Lexer
  | .peek => (.ok l.peek, l)
  | .next =>
    match l.next with
    | .ok (t, later) => (.ok t, later)
    | .error e => (.error e, l)

/-- The lexer after some calls. -/
def after (l : Lexer) : List Call → Lexer
  | [] => l
  | c :: calls => (l.call c).2.after calls

/-- How many of some calls took a token. -/
def taken (l : Lexer) : List Call → Nat
  | [] => 0
  | .peek :: calls => l.taken calls
  | .next :: calls =>
    match l.call .next with
    | (.ok _, later) => later.taken calls + 1
    | (.error _, later) => later.taken calls

theorem after_append (l : Lexer) (calls more : List Call) :
    l.after (calls ++ more) = (l.after calls).after more := by
  induction calls generalizing l with
  | nil => rfl
  | cons c calls ih => exact ih (l.call c).2

/-- After some calls a lexer stands at a token of its source: the one that comes after as many as were
taken, or the last one. It gives that token away unless the scan of the source fails right behind it;
then the lexer fails in the same way, however often it is asked, and stays where it is. At the end of the
input it stays for ever. -/
structure Follows (source : Text) (l : Lexer) (calls : List Call) : Prop where
  shown : (scan source).tokens[min (l.taken calls) ((scan source).tokens.length - 1)]? =
    some (l.after calls).peek
  given : (scan source).failure = none ∨ l.taken calls + 1 ≠ (scan source).tokens.length →
    ((l.after calls).call .next).1 = .ok (l.after calls).peek
  fails : ∀ e, (scan source).failure = some e → l.taken calls + 1 = (scan source).tokens.length →
    ∀ more, l.after (calls ++ more) = l.after calls ∧
      (l.after (calls ++ more)).call .next = (.error e, l.after (calls ++ more))
  ended : (scan source).failure = none → (scan source).tokens.length ≤ l.taken calls + 1 →
    ∀ more, (l.after (calls ++ more)).peek = .endOfInput source.length

/-- What comes of starting to read a source: a failure if not even the first token can be scanned, and
otherwise a lexer that follows the tokens. -/
inductive Starts (source : Text) : Except LexError Lexer → Prop where
  | error {e : LexError} : scan source = ⟨[], some e⟩ → Starts source (.error e)
  | ok {l : Lexer} : (scan source).tokens ≠ [] → (∀ calls, l.Follows source calls) →
      Starts source (.ok l)

/-! ## What is still to be read -/

/-- The tokens that a lexer has still to give away, the lookahead first. -/
def remaining (l : Lexer) : Scan :=
  if l.lookahead.kind = .eof then ⟨[l.lookahead], none⟩
  else .cons l.lookahead (scanAt l.pos l.rest)

/-- What scanning one token of a text says about the scan of all of it. -/
inductive Begins (s : Scan) : Except LexError Lexer → Prop where
  | ok {l : Lexer} : s = l.remaining → Begins s (.ok l)
  | error {e : LexError} : s = ⟨[], some e⟩ → Begins s (.error e)

theorem scanToken_begins {steps : Nat} (pos : Nat) {rest : Text} (h : rest.length ≤ steps) :
    Begins (scanFrom steps pos rest) (scanToken steps pos rest) := by
  induction steps generalizing pos rest with
  | zero => exact .ok rfl
  | succ steps ih =>
      cases rest with
      | nil => exact .ok rfl
      | cons c rest =>
          rw [scanFrom, scanToken]
          cases hlexeme : lexeme (c :: rest) with
          | none => exact .error rfl
          | some p =>
              obtain ⟨found, length⟩ := p
              obtain ⟨hpos, hkind⟩ := lexeme_spec hlexeme
              have hdrop : ((c :: rest).drop length).length ≤ steps := by
                rw [List.length_drop]
                omega
              cases found with
              -- Trivia has no token, so both go on behind it.
              | trivia => exact ih (pos + length) hdrop
              | token kind =>
                  have heof : kind ≠ .eof := by simpa using hkind
                  refine .ok ?_
                  simp only [remaining, if_neg heof, scanFrom_eq (pos + length) hdrop]

/-- Taking a token fails where the scan fails right behind it, does nothing at the end of the input, and
else leaves the tokens behind it. -/
theorem next_cases (l : Lexer) :
    (∃ later, l.next = .ok (l.lookahead, later) ∧ l.remaining = .cons l.lookahead later.remaining) ∨
    (∃ e, l.next = .error e ∧ l.remaining = ⟨[l.lookahead], some e⟩) ∨
    (l.next = .ok (l.lookahead, l) ∧ l.remaining = ⟨[l.lookahead], none⟩) := by
  by_cases heof : l.lookahead.kind = .eof
  · exact .inr (.inr ⟨if_pos heof, if_pos heof⟩)
  · have hnext : l.next = (scanToken l.rest.length l.pos l.rest).map fun later => (l.lookahead, later) :=
      if_neg heof
    have hremaining : l.remaining = .cons l.lookahead (scanAt l.pos l.rest) := if_neg heof
    have hbegins := scanToken_begins l.pos (Nat.le_refl l.rest.length)
    rw [hnext, hremaining, scanAt]
    cases hscan : scanToken l.rest.length l.pos l.rest with
    | ok later =>
        rw [hscan] at hbegins
        cases hbegins with
        | ok h => exact .inl ⟨later, rfl, by rw [h]⟩
    | error e =>
        rw [hscan] at hbegins
        cases hbegins with
        | error h => exact .inr (.inl ⟨e, rfl, by rw [h]; rfl⟩)

theorem remaining_eq_cons (l : Lexer) : ∃ later, l.remaining.tokens = l.lookahead :: later := by
  unfold remaining
  split <;> exact ⟨_, rfl⟩

/-! ## Where a lexer stands -/

/-- A lexer stands in a scan behind the tokens that were taken from it, or behind some of them if it has
come to the end of the input. -/
structure At (s : Scan) (count : Nat) (l : Lexer) : Prop where
  tokens : ∃ before, s.tokens = before ++ l.remaining.tokens ∧
    (count = before.length ∨ before.length ≤ count ∧ l.remaining = ⟨[l.lookahead], none⟩)
  failure : s.failure = l.remaining.failure

variable {s : Scan} {count : Nat} {l : Lexer}

/-- A call leaves the lexer in the scan, one token further if it took one. -/
theorem At.call (h : At s count l) (c : Call) (calls : List Call) :
    At s (count + l.taken [c]) (l.call c).2 ∧
      l.taken (c :: calls) = l.taken [c] + (l.call c).2.taken calls := by
  obtain ⟨⟨before, htokens, hcount⟩, hfailure⟩ := h
  cases c with
  | peek => exact ⟨⟨⟨before, htokens, hcount⟩, hfailure⟩, (Nat.zero_add _).symm⟩
  | next =>
      rcases l.next_cases with ⟨later, hnext, hremaining⟩ | ⟨e, hnext, hremaining⟩ | ⟨hnext, hremaining⟩
      · simp only [taken, Lexer.call, hnext]
        refine ⟨⟨⟨before ++ [l.lookahead], ?_, .inl ?_⟩, ?_⟩, Nat.add_comm _ _⟩
        · rw [htokens, hremaining, List.append_assoc]
          rfl
        · rw [List.length_append]
          rcases hcount with rfl | ⟨-, hlast⟩
          · rfl
          · -- At the end of the input there is no token behind the lookahead.
            rw [hremaining] at hlast
            obtain ⟨t, hlater⟩ := later.remaining_eq_cons
            have htokens := congrArg Scan.tokens hlast
            rw [Scan.cons, hlater] at htokens
            cases htokens
        · rw [hfailure, hremaining]
          rfl
      · simp only [taken, Lexer.call, hnext]
        exact ⟨⟨⟨before, htokens, hcount⟩, hfailure⟩, (Nat.zero_add _).symm⟩
      · simp only [taken, Lexer.call, hnext]
        refine ⟨⟨⟨before, htokens, .inr ⟨?_, hremaining⟩⟩, hfailure⟩, Nat.add_comm _ _⟩
        rcases hcount with rfl | ⟨hle, -⟩
        · exact Nat.le_succ _
        · exact Nat.le_succ_of_le hle

theorem At.after (h : At s count l) (calls : List Call) :
    At s (count + l.taken calls) (l.after calls) := by
  induction calls generalizing count l with
  | nil => exact h
  | cons c calls ih =>
      obtain ⟨hcall, htaken⟩ := h.call c calls
      rw [htaken, ← Nat.add_assoc]
      exact ih hcall

/-! ## The main result -/

theorem At.shown (h : At s count l) : s.tokens[min count (s.tokens.length - 1)]? = some l.peek := by
  obtain ⟨⟨before, htokens, hcount⟩, -⟩ := h
  obtain ⟨later, hremaining⟩ := l.remaining_eq_cons
  have hlength : s.tokens.length = before.length + (later.length + 1) := by
    rw [htokens, hremaining, List.length_append, List.length_cons]
  have hindex : min count (s.tokens.length - 1) = before.length := by
    rcases hcount with rfl | ⟨hle, hlast⟩
    · omega
    · rw [hlast] at hremaining
      obtain ⟨-, rfl⟩ := List.cons.inj hremaining
      rw [hlength, List.length_nil]
      omega
  rw [hindex, htokens, hremaining, List.getElem?_append_right (Nat.le_refl _), Nat.sub_self]
  rfl

/-- At the last token before a failure taking it fails. -/
theorem At.next_fails (h : At s count l) {e : LexError} (hfailure : s.failure = some e)
    (hlast : count + 1 = s.tokens.length) : l.next = .error e := by
  obtain ⟨⟨before, htokens, hcount⟩, hfails⟩ := h
  have hlength := congrArg List.length htokens
  rw [List.length_append] at hlength
  rcases l.next_cases with ⟨later, -, hremaining⟩ | ⟨e', hnext, hremaining⟩ | ⟨-, hremaining⟩
  · obtain ⟨t, hlater⟩ := later.remaining_eq_cons
    rw [hremaining, Scan.cons, hlater, List.length_cons, List.length_cons] at hlength
    rcases hcount with rfl | ⟨-, hend⟩
    · omega
    · rw [hfails, hend] at hfailure
      cases hfailure
  · rw [hfails, hremaining] at hfailure
    cases hfailure
    exact hnext
  · rw [hfails, hremaining] at hfailure
    cases hfailure

/-- Everywhere else taking the token succeeds. -/
theorem At.next_gives (h : At s count l) (hlast : s.failure = none ∨ count + 1 ≠ s.tokens.length) :
    ∃ later, l.next = .ok (l.lookahead, later) := by
  obtain ⟨⟨before, htokens, hcount⟩, hfails⟩ := h
  rcases l.next_cases with ⟨later, hnext, -⟩ | ⟨e, -, hremaining⟩ | ⟨hnext, -⟩
  · exact ⟨later, hnext⟩
  · rw [hremaining] at hfails htokens hcount
    rcases hlast with hnone | hcount'
    · rw [hnone] at hfails
      cases hfails
    · rcases hcount with rfl | ⟨-, hend⟩
      · rw [htokens, List.length_append] at hcount'
        exact absurd rfl hcount'
      · cases hend
  · exact ⟨l, hnext⟩

/-- At the end of the input nothing is left but its mark. -/
theorem At.at_end (h : At s count l) (hfailure : s.failure = none)
    (hlast : s.tokens.length ≤ count + 1) :
    l.next = .ok (l.lookahead, l) ∧ s.tokens.getLast? = some l.lookahead := by
  obtain ⟨⟨before, htokens, hcount⟩, hfails⟩ := h
  rcases l.next_cases with ⟨later, -, hremaining⟩ | ⟨e, -, hremaining⟩ | ⟨hnext, hremaining⟩
  · obtain ⟨t, hlater⟩ := later.remaining_eq_cons
    rw [hremaining, Scan.cons, hlater] at htokens hcount
    rw [htokens, List.length_append, List.length_cons, List.length_cons] at hlast
    rcases hcount with rfl | ⟨-, hend⟩
    · omega
    · cases hend
  · rw [hfails, hremaining] at hfailure
    cases hfailure
  · refine ⟨hnext, ?_⟩
    rw [htokens, hremaining, List.getLast?_append]
    rfl

theorem after_of_stays (h : ∀ c, (l.call c).2 = l) (calls : List Call) : l.after calls = l := by
  induction calls with
  | nil => rfl
  | cons c calls ih => rw [after, h, ih]

/-- A scan without a failure ends with the end of the input. -/
theorem scan_getLast? {source : Text} (h : (scan source).failure = none) :
    (scan source).tokens.getLast? = some (.endOfInput source.length) := by
  obtain ⟨front, rest, tokens, hsource, hreading, hnone⟩ := exists_reading 0 source
  cases rest with
  | nil =>
      rw [List.append_nil] at hsource
      subst hsource
      rw [hreading.partition.1, List.getLast?_append]
      rfl
  | cons c later =>
      rw [(hreading.failsAt hsource hnone).1] at h
      cases h

theorem At.follows {source : Text} (h : At (scan source) 0 l) (calls : List Call) :
    l.Follows source calls := by
  have hafter := h.after calls
  rw [Nat.zero_add] at hafter
  refine ⟨hafter.shown, fun hlast => ?_, fun e hfailure hlast more => ?_, fun hfailure hlast more => ?_⟩
  · obtain ⟨later, hnext⟩ := hafter.next_gives hlast
    simp only [Lexer.call, hnext]
    rfl
  · have hnext := hafter.next_fails hfailure hlast
    have hcall : (l.after calls).call .next = (.error e, l.after calls) := by
      simp only [Lexer.call, hnext]
    have hstays : ∀ c, ((l.after calls).call c).2 = l.after calls := by
      intro c
      cases c with
      | peek => rfl
      | next => rw [hcall]
    rw [after_append, after_of_stays hstays]
    exact ⟨rfl, hcall⟩
  · obtain ⟨hnext, hend⟩ := hafter.at_end hfailure hlast
    have hstays : ∀ c, ((l.after calls).call c).2 = l.after calls := by
      intro c
      cases c with
      | peek => rfl
      | next => simp only [Lexer.call, hnext]
    rw [scan_getLast? hfailure] at hend
    rw [after_append, after_of_stays hstays]
    exact (Option.some.inj hend).symm

/-- Reading a source token by token can start exactly if the source has a token to scan, and then it shows
and gives away the tokens of the source in order, whatever calls are made. -/
theorem start_follows (source : Text) : Starts source (start source) := by
  have hbegins : Begins (scan source) (start source) := scanToken_begins 0 (Nat.le_refl _)
  cases hstart : start source with
  | error e =>
      rw [hstart] at hbegins
      cases hbegins with
      | error h => exact .error h
  | ok l =>
      rw [hstart] at hbegins
      cases hbegins with
      | ok h =>
          obtain ⟨later, hremaining⟩ := l.remaining_eq_cons
          refine .ok ?_ fun calls => At.follows ⟨⟨[], ?_, .inl rfl⟩, ?_⟩ calls
          · rw [h, hremaining]
            exact List.cons_ne_nil _ _
          · rw [h]
            rfl
          · rw [h]

end Lexer

end RollScript
