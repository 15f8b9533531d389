import RollScript.Proofs.Grammar.Nesting
import RollScript.Proofs.Grammar.Words

/-!
# The source and its tokens

The tokens of a source and what stands between them make up the whole source. Read `Partition` and
`FailsAt` first: they say what tokenizing means when it succeeds and when it fails.
`tokenize_partitions` is the main result. It follows from `Reading`, the lexemes that are read off the
front of a text: a reading stays one when the text is cut at its end (`Reading.cut`), and the blanks and
comments that it passes over make up the gaps between its tokens (`Reading.gaps`).
-/

namespace RollScript

/-! ## What tokenizing means -/

/-- The stretches before, between and after some tokens, up to an end. -/
def stretches (stop : Nat) : Nat → List Token → List Span
  | start, [] => [⟨start, stop⟩]
  | start, t :: tokens => ⟨start, t.pos⟩ :: stretches stop t.stop tokens

/-- A stretch of a source holds blanks and comments only. A comment in it reaches up to a line feed, or
up to the end of the source. -/
def Span.Blank (source : Text) (stretch : Span) : Prop :=
  Trivia (stretch.slice source) ∨ stretch.stop = source.length ∧ ClosingTrivia (stretch.slice source)

/-- Tokens divide a source: they are words that stand in it one after the other, with blanks and comments
before, between and after them. -/
structure Partition (source : Text) (tokens : List Token) : Prop where
  kinds : ∀ t ∈ tokens, t.kind ≠ .eof
  texts : ∀ t ∈ tokens, t.text ≠ [] ∧ t.span.slice source = t.text
  words : ∀ t ∈ tokens, Lexeme.Spelled (.token t.kind) t.text
  order : tokens.Pairwise fun t t' => t.stop ≤ t'.pos
  gaps : ∀ stretch ∈ stretches source.length 0 tokens, stretch.Blank source

/-- An error is raised where no word can start, after the tokens of the source up to there. -/
structure FailsAt (source : Text) (error : LexError) : Prop where
  within : error.pos < source.length
  found : source[error.pos]? = some error.found
  noWord : ∀ lexeme word, Lexeme.Spelled lexeme word → ¬ word <+: source.drop error.pos
  before : tokenize (source.take error.pos) =
    .ok ((scan source).tokens ++ [Token.endOfInput error.pos])
  message : error.message = "Unterminated or malformed string literal" ↔
    source[error.pos]? = some (.scalar '"')

/-- What the result of tokenizing a source says about it. -/
inductive Tokenizes (source : Text) : Except LexError (List Token) → Prop where
  | ok {tokens : List Token} : Partition source tokens →
      Tokenizes source (.ok (tokens ++ [Token.endOfInput source.length]))
  | error {error : LexError} : FailsAt source error → Tokenizes source (.error error)

/-! ## Reading lexemes off a text -/

/-- The lexemes at the front of a text that starts at an offset, as far as `rest`, with the tokens among
them. -/
inductive Reading (rest : Text) : Nat → Text → List Token → Prop where
  | nil {pos : Nat} : Reading rest pos [] []
  | trivia {pos : Nat} {text front : Text} {tokens : List Token} :
      lexeme (text ++ (front ++ rest)) = some (.trivia, text.length) →
      Reading rest (pos + text.length) front tokens → Reading rest pos (text ++ front) tokens
  | token {pos : Nat} {text front : Text} {kind : TokenKind} {tokens : List Token} :
      lexeme (text ++ (front ++ rest)) = some (.token kind, text.length) →
      Reading rest (pos + text.length) front tokens →
      Reading rest pos (text ++ front) (⟨kind, text, pos⟩ :: tokens)

/-- A text is read up to its end, or up to a place where no lexeme starts. -/
theorem exists_reading (pos : Nat) (text : Text) :
    ∃ front rest tokens, text = front ++ rest ∧ Reading rest pos front tokens ∧ lexeme rest = none := by
  induction hlength : text.length using Nat.strongRecOn generalizing pos text with
  | ind length ih =>
      subst hlength
      cases hlexeme : lexeme text with
      | none => exact ⟨[], text, [], rfl, .nil, hlexeme⟩
      | some p =>
          obtain ⟨found, n⟩ := p
          have hpos := (lexeme_spec hlexeme).1
          have hle := lexeme_le hlexeme
          have hshort : (text.drop n).length < text.length := by
            rw [List.length_drop]
            omega
          obtain ⟨front, rest, tokens, hdrop, hreading, hnone⟩ :=
            ih _ hshort (pos + n) (text.drop n) rfl
          have htake : (text.take n).length = n := by
            rw [List.length_take, Nat.min_eq_left hle]
          have hwhole : text.take n ++ (front ++ rest) = text := by
            rw [← hdrop, List.take_append_drop]
          have hfirst : lexeme (text.take n ++ (front ++ rest)) = some (found, (text.take n).length) := by
            rw [hwhole, htake, hlexeme]
          rw [← htake] at hreading
          refine ⟨text.take n ++ front, rest, ?_⟩
          rw [List.append_assoc, hwhole]
          cases found with
          | trivia => exact ⟨tokens, rfl, .trivia hfirst hreading, hnone⟩
          | token kind => exact ⟨_, rfl, .token hfirst hreading, hnone⟩

/-- A scan goes on behind what was read. -/
theorem Reading.scanAt_eq {rest front : Text} {pos : Nat} {tokens : List Token}
    (h : Reading rest pos front tokens) :
    scanAt pos (front ++ rest) = ⟨tokens ++ (scanAt (pos + front.length) rest).tokens,
      (scanAt (pos + front.length) rest).failure⟩ := by
  induction h with
  | nil => rfl
  | trivia hlexeme _ ih =>
      rw [List.append_assoc, scanAt_append _ hlexeme, ih, List.length_append, Nat.add_assoc]
      rfl
  | token hlexeme _ ih =>
      rw [List.append_assoc, scanAt_append _ hlexeme, ih, List.length_append, Nat.add_assoc]
      rfl

/-- What was read is read again when the text is cut behind it. -/
theorem Reading.cut {rest front : Text} {pos : Nat} {tokens : List Token}
    (h : Reading rest pos front tokens) : Reading [] pos front tokens := by
  have hcut : ∀ {text front : Text} {found : Lexeme},
      lexeme (text ++ (front ++ rest)) = some (found, text.length) →
        lexeme (text ++ (front ++ [])) = some (found, text.length) := by
    intro text front found hlexeme
    have htake := lexeme_take (n := (text ++ front).length) hlexeme (by simp)
    rwa [← List.append_assoc, List.take_left, ← List.append_nil (text ++ front),
      List.append_assoc] at htake
  induction h with
  | nil => exact .nil
  | trivia hlexeme _ ih => exact .trivia (hcut hlexeme) ih
  | token hlexeme _ ih => exact .token (hcut hlexeme) ih

theorem scanAt_stuck {c : CodePoint} {rest : Text} (h : lexeme (c :: rest) = none) (pos : Nat) :
    scanAt pos (c :: rest) = ⟨[], some ⟨pos, c⟩⟩ := by
  rw [scanAt, List.length_cons, scanFrom, h]

/-! ## The order of the tokens -/

theorem Reading.kinds {rest front : Text} {pos : Nat} {tokens : List Token}
    (h : Reading rest pos front tokens) : ∀ t ∈ tokens, t.kind ≠ .eof := by
  induction h with
  | nil => simp
  | trivia _ _ ih => exact ih
  | token hlexeme _ ih =>
      have hkind := (lexeme_spec hlexeme).2
      exact List.forall_mem_cons.2 ⟨by simpa using hkind, ih⟩

theorem Reading.order {rest front : Text} {pos : Nat} {tokens : List Token}
    (h : Reading rest pos front tokens) :
    (∀ t ∈ tokens, pos ≤ t.pos) ∧ tokens.Pairwise fun t t' => t.stop ≤ t'.pos := by
  induction h with
  | nil => exact ⟨by simp, .nil⟩
  | trivia _ _ ih =>
      refine ⟨?_, ih.2⟩
      intro t ht
      exact Nat.le_trans (Nat.le_add_right _ _) (ih.1 t ht)
  | token _ _ ih =>
      refine ⟨?_, List.pairwise_cons.2 ⟨ih.1, ih.2⟩⟩
      intro t ht
      rcases List.mem_cons.1 ht with rfl | ht
      · exact Nat.le_refl _
      · exact Nat.le_trans (Nat.le_add_right _ _) (ih.1 t ht)

/-! ## The gaps between the tokens -/

theorem Trivia.append {gap gap' : Text} (h : Trivia gap) (h' : Trivia gap') : Trivia (gap ++ gap') := by
  induction h with
  | nil => exact h'
  | blank hc _ ih => exact .blank hc ih
  | comment hbody _ ih =>
      rw [List.cons_append, List.append_assoc]
      exact .comment hbody ih

theorem trivia_blanks {run : Text} (h : ∀ c ∈ run, c.isSpace = true) : Trivia run := by
  induction run with
  | nil => exact .nil
  | cons c run ih =>
      obtain ⟨hc, hrun⟩ := List.forall_mem_cons.1 h
      exact .blank hc (ih hrun)

/-- Blanks and comments that were read in front of `rest`. After a comment only a line feed follows. -/
inductive OpenGap : Text → Text → Prop where
  | full {gap rest : Text} : Trivia gap → OpenGap gap rest
  | comment {gap body rest : Text} : Trivia gap → .scalar '\n' ∉ body →
      (∀ c ∈ rest.head?, c = .scalar '\n') → OpenGap (gap ++ .scalar '#' :: body) rest

namespace OpenGap

variable {gap text rest : Text}

theorem closing (h : OpenGap gap rest) : ClosingTrivia gap := by
  cases h with
  | full hgap => exact .full hgap
  | comment hgap hbody _ => exact .cut hgap hbody

/-- In front of anything that starts with no line feed the gap is complete. -/
theorem trivia (h : OpenGap gap rest) (hrest : ∀ c ∈ rest.head?, c ≠ .scalar '\n') (hne : rest ≠ []) :
    Trivia gap := by
  cases h with
  | full hgap => exact hgap
  | comment _ _ hline =>
      obtain ⟨c, later, rfl⟩ := List.exists_cons_of_ne_nil hne
      exact absurd (hline c rfl) (hrest c rfl)

/-- The gap grows by blanks and comments. -/
theorem grow (h : OpenGap gap (text ++ rest))
    (hlexeme : lexeme (text ++ rest) = some (.trivia, text.length)) : OpenGap (gap ++ text) rest := by
  have hpos := (lexeme_spec hlexeme).1
  obtain ⟨c, later, rfl⟩ := List.exists_cons_of_ne_nil (List.ne_nil_of_length_pos hpos)
  have hfinds := lexeme_finds c (later ++ rest)
  rw [List.cons_append] at hlexeme h
  generalize hresult : lexeme (c :: (later ++ rest)) = result at hlexeme hfinds
  -- the lexeme is the longest run of its characters
  have hrun : ∀ {p : CodePoint → Bool},
      ((c :: (later ++ rest)).takeWhile p).length = (c :: later).length →
        (c :: (later ++ rest)).takeWhile p = c :: later := by
    intro p hlength
    have htake := take_takeWhile_length (p := p) (c :: (later ++ rest))
    rw [hlength, ← List.cons_append, List.take_left] at htake
    exact htake.symm
  cases hfinds with
  | mark | number | word | nothing => cases hlexeme
  | literal =>
      obtain ⟨n, -, heq⟩ := Option.map_eq_some_iff.1 hlexeme
      cases heq
  | blanks hspace =>
      simp only [Option.some.injEq, Prod.mk.injEq, true_and] at hlexeme
      have hblanks : ∀ d ∈ c :: later, d.isSpace = true := hrun hlexeme ▸ takeWhile_all
      cases h with
      | full hgap => exact .full (hgap.append (trivia_blanks hblanks))
      | comment hgap hbody hline =>
          -- the comment is ended by the first of the blanks
          obtain rfl : c = .scalar '\n' := hline c rfl
          rw [List.append_assoc, List.cons_append]
          exact .full (hgap.append (.comment hbody (trivia_blanks (List.forall_mem_cons.1 hblanks).2)))
  | comment hcomment =>
      subst hcomment
      simp only [Option.some.injEq, Prod.mk.injEq, true_and] at hlexeme
      have htake := hrun hlexeme
      have hbody : .scalar '\n' ∉ later := by
        intro hline
        have hinside := takeWhile_all (p := (· ≠ .scalar '\n')) _ (htake ▸ List.mem_cons_of_mem _ hline)
        exact absurd hinside (by decide)
      have hrest : rest = (CodePoint.scalar '#' :: (later ++ rest)).dropWhile (· ≠ .scalar '\n') := by
        have hwhole := List.takeWhile_append_dropWhile (p := (· ≠ CodePoint.scalar '\n'))
          (l := .scalar '#' :: (later ++ rest))
        rw [htake, ← List.cons_append] at hwhole
        exact (List.append_cancel_left hwhole).symm
      have hgap := h.trivia (by simp) (List.cons_ne_nil _ _)
      refine .comment hgap hbody ?_
      intro d hd
      have hends := List.head?_dropWhile_not (· ≠ CodePoint.scalar '\n') (.scalar '#' :: (later ++ rest))
      rw [← hrest, hd] at hends
      simpa using hends

end OpenGap

theorem Span.slice_middle (before middle after : Text) :
    Span.slice (before ++ (middle ++ after)) ⟨before.length, before.length + middle.length⟩ = middle := by
  rw [Span.slice, List.drop_left, Nat.add_sub_cancel_left, List.take_left]

/-- Between its tokens a reading passes over blanks and comments. -/
theorem Reading.gaps {source front : Text} {pos : Nat} {tokens : List Token}
    (h : Reading [] pos front tokens) {before gap : Text} (hsource : source = before ++ (gap ++ front))
    (hpos : pos = before.length + gap.length) (hgap : OpenGap gap front) :
    ∀ stretch ∈ stretches source.length before.length tokens, stretch.Blank source := by
  induction h generalizing before gap with
  | nil =>
      intro stretch hstretch
      obtain rfl := List.mem_singleton.1 hstretch
      refine .inr ⟨rfl, ?_⟩
      have hstop : source.length = before.length + gap.length := by
        rw [hsource, List.append_nil, List.length_append]
      rw [hstop, hsource, Span.slice_middle]
      exact hgap.closing
  | trivia hlexeme _ ih =>
      rw [List.append_nil] at hlexeme
      refine ih ?_ ?_ (hgap.grow hlexeme)
      · rw [hsource, List.append_assoc]
      · rw [hpos, List.length_append, Nat.add_assoc]
  | @token pos text front kind tokens hlexeme _ ih =>
      rw [List.append_nil] at hlexeme
      have hline : ∀ c ∈ (text ++ front).head?, c ≠ .scalar '\n' := by
        rintro c hc rfl
        obtain ⟨later, hlater⟩ := List.head?_eq_some_iff.1 hc
        rw [hlater, lexeme_of_isSpace rfl] at hlexeme
        cases hlexeme
      have hne : text ++ front ≠ [] := by
        intro hnil
        rw [hnil] at hlexeme
        cases hlexeme
      intro stretch hstretch
      rcases List.mem_cons.1 hstretch with rfl | hstretch
      · refine .inl ?_
        rw [hpos, hsource, Span.slice_middle]
        exact hgap.trivia hline hne
      · have hbehind : source = (before ++ (gap ++ text)) ++ ([] ++ front) := by
          rw [hsource]
          simp
        have hlength : pos + text.length = (before ++ (gap ++ text)).length := by
          rw [hpos, List.length_append, List.length_append, Nat.add_assoc]
        refine ih hbehind hlength (.full .nil) stretch ?_
        rw [← hlength]
        exact hstretch

/-! ## Success and failure -/

/-- A source that is read to its end is divided by its tokens. -/
theorem Reading.partition {source : Text} {tokens : List Token} (h : Reading [] 0 source tokens) :
    scan source = ⟨tokens ++ [Token.endOfInput source.length], none⟩ ∧ Partition source tokens := by
  have hscan : scan source = ⟨tokens ++ [Token.endOfInput source.length], none⟩ := by
    have hrest := h.scanAt_eq
    rwa [List.append_nil, scanAt_nil, Nat.zero_add] at hrest
  have hkinds : ∀ t ∈ tokens, t.kind ≠ .eof := h.kinds
  have hstands : ∀ t ∈ tokens, t.Stands source := by
    intro t ht
    refine scan_stands ?_ (hkinds t ht)
    rw [hscan]
    exact List.mem_append_left _ ht
  have hwords : ∀ t ∈ tokens, Lexeme.Spelled (.token t.kind) t.text :=
    fun t ht => (hstands t ht).spelled
  have hwhole : source = [] ++ ([] ++ source) := rfl
  refine ⟨hscan, ?_⟩
  exact
    { kinds := hkinds
      texts := fun t ht => ⟨(hwords t ht).ne_nil, (hstands t ht).slice_eq⟩
      words := hwords
      order := h.order.2
      gaps := h.gaps hwhole rfl (.full .nil) }

theorem LexError.message_eq_iff (e : LexError) :
    e.message = "Unterminated or malformed string literal" ↔ e.found = .scalar '"' := by
  unfold message
  constructor
  · intro h
    by_contra hfound
    rw [if_neg hfound] at h
    have hchars := congrArg (fun s => s.toList.take 3) h
    rw [String.toList_append] at hchars
    exact absurd hchars (by simp)
  · exact fun hfound => if_pos hfound

/-- Where no lexeme starts the scan fails, and it succeeds for the source up to there. -/
theorem Reading.failsAt {source front later : Text} {c : CodePoint} {tokens : List Token}
    (hsource : source = front ++ c :: later) (h : Reading (c :: later) 0 front tokens)
    (hnone : lexeme (c :: later) = none) :
    scan source = ⟨tokens, some ⟨front.length, c⟩⟩ ∧ FailsAt source ⟨front.length, c⟩ := by
  have hscan : scan source = ⟨tokens, some ⟨front.length, c⟩⟩ := by
    have hrest := h.scanAt_eq
    rw [scanAt_stuck hnone, List.append_nil, Nat.zero_add, ← hsource] at hrest
    exact hrest
  have hfound : source[front.length]? = some c := by
    rw [hsource]
    simp
  refine ⟨hscan, ?_⟩
  exact
    { within := by
        rw [hsource]
        simp
      found := hfound
      noWord := by
        intro found word hword hprefix
        obtain ⟨rest, hrest⟩ := hprefix
        refine hword.lexeme_ne_none rest ?_
        rw [hrest, hsource, List.drop_left, hnone]
      before := by
        have hfront := h.cut.partition.1
        rw [hscan, hsource, List.take_left, tokenize, hfront]
      message := by
        rw [LexError.message_eq_iff, hfound, Option.some.injEq] }

/-- The tokens of a source divide it, and an error stands where nothing can start, after the tokens of the
source up to there. -/
theorem tokenize_partitions (source : Text) : Tokenizes source (tokenize source) := by
  obtain ⟨front, rest, tokens, hsource, hreading, hnone⟩ := exists_reading 0 source
  cases rest with
  | nil =>
      rw [List.append_nil] at hsource
      subst hsource
      obtain ⟨hscan, hpartition⟩ := hreading.partition
      rw [tokenize, hscan]
      exact .ok hpartition
  | cons c later =>
      obtain ⟨hscan, hfails⟩ := hreading.failsAt hsource hnone
      rw [tokenize, hscan]
      exact .error hfails

example : tokenize (.ofString "2d# dice\n$ 4") = .error ⟨9, .scalar '$'⟩ := rfl

end RollScript
