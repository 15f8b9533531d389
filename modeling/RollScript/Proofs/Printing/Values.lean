import RollScript.Proofs.Grammar.Tree
import RollScript.Proofs.Printing.Pieces
import RollScript.Proofs.Printing.Tokens

/-!
# The tree of a printed value

Read `Value.spelled` first: the text of a plain value is scanned as the tokens of a valid tree, which is
nested as deeply as the value says and stands for an expression that denotes the value. The proof goes by
recursion on the value, whose text is the one that the recursion gives.
-/

namespace RollScript

namespace Value

mutual

/-- A value without functions whose numbers are all finite. -/
def Plain : Value → Prop
  | number x => x.isFinite = true
  | string _ => True
  | unit => True
  | array items => PlainItems items
  | function _ => False

def PlainItems : List Value → Prop
  | [] => True
  | v :: rest => v.Plain ∧ PlainItems rest

end

mutual

/-- No string in a value has a high surrogate directly before a low one. -/
def Unpaired : Value → Prop
  | string s => s.Unpaired
  | array items => UnpairedItems items
  | _ => True

def UnpairedItems : List Value → Prop
  | [] => True
  | v :: rest => v.Unpaired ∧ UnpairedItems rest

end

mutual

/-- How many expressions are nested in each other in the text of a value. The sign of a negative number
is one of them, with the numeral nested in it. -/
def levels : Value → Nat
  | number x => if x < 0 then 2 else 1
  | array items => levelsOf items + 1
  | _ => 1

def levelsOf : List Value → Nat
  | [] => 0
  | v :: rest => max v.levels (levelsOf rest)

end

mutual

/-- What a value is read back as: a negative zero loses its sign, and surrogate pairs are joined. -/
def readBack : Value → Value
  | number x => number (Number.readBack x)
  | string s => string s.joinPairs
  | array items => array (readBackItems items)
  | v => v

def readBackItems : List Value → List Value
  | [] => []
  | v :: rest => v.readBack :: readBackItems rest

end

end Value

/-! ## Expressions that denote values -/

mutual

/-- An expression is the literal of a value; that of a negative number is a sign before a numeral. -/
inductive Denotes : Expr → Value → Prop where
  | number (span : Span) (x : Float) : Denotes (.number span x) (.number x)
  | negative (outer operator inner : Span) (x : Float) :
      Denotes (.apply outer (.name operator (.ofString "-x")) (.number inner x)) (.number (-x))
  | string (span : Span) (s : Text) : Denotes (.string span s) (.string s)
  | unit (span : Span) : Denotes (.unit span) .unit
  | array (span : Span) {elements : List Expr} {items : List Value}
      (h : DenoteItems elements items) : Denotes (.array span elements) (.array items)

inductive DenoteItems : List Expr → List Value → Prop where
  | nil : DenoteItems [] []
  | cons {e : Expr} {v : Value} {elements : List Expr} {items : List Value}
      (hfirst : Denotes e v) (hrest : DenoteItems elements items) :
      DenoteItems (e :: elements) (v :: items)

end

/-! ## Trees of printed values -/

/-- Puts tokens in front of a scan. -/
def Scan.prepend (tokens : List Token) (s : Scan) : Scan :=
  { s with tokens := tokens ++ s.tokens }

@[simp] theorem Scan.prepend_nil (s : Scan) : s.prepend [] = s :=
  rfl

@[simp] theorem Scan.prepend_cons (t : Token) (tokens : List Token) (s : Scan) :
    s.prepend (t :: tokens) = (s.prepend tokens).cons t :=
  rfl

@[simp] theorem Scan.prepend_append (first second : List Token) (s : Scan) :
    s.prepend (first ++ second) = (s.prepend second).prepend first := by
  rw [prepend, prepend, prepend, List.append_assoc]

/-- The tokens of a tree stand at an offset, in a text that is followed by what may follow a value. -/
def Scanned (cs : List Char) (pos : Nat) (tokens : List Token) : Prop :=
  ∀ rest, EndsValue rest →
    scanAt pos (Text.ofChars cs ++ rest) = (scanAt (pos + cs.length) rest).prepend tokens

/-- A tree at an offset is that of a printed value. -/
structure Tree.Spells (tree : Tree) (v : Value) (pos : Nat) : Prop where
  valid : tree.Valid
  height : tree.height = v.levels
  denotes : Denotes tree.desugar v.readBack
  scanned : Scanned v.render.toList pos tree.yield

/-- Trees at an offset are those of the elements of a printed array, which are followed by its closing
bracket. -/
structure Items.Spells (items : Items) (values : List Value) (pos : Nat) : Prop where
  valid : items.ValidElements
  height : items.height = Value.levelsOf values
  denotes : DenoteItems items.desugar (Value.readBackItems values)
  scanned : ∀ rest, scanAt pos (Text.ofChars (Value.renderItems values).toList ++ .scalar ']' :: rest) =
    (scanAt (pos + (Value.renderItems values).toList.length) (.scalar ']' :: rest)).prepend items.yield

theorem scanned_token {cs : List Char} {kind : TokenKind}
    (h : ∀ rest, EndsValue rest →
      lexeme (Text.ofChars cs ++ rest) = some (.token kind, cs.length)) (pos : Nat) :
    Scanned cs pos [⟨kind, Text.ofChars cs, pos⟩] := by
  intro rest hrest
  exact scanAt_token pos (h rest hrest)

/-- A number is spelled by a numeral, or by a sign and a numeral. -/
theorem number_spelled (x : Float) (hx : x.isFinite = true) (pos : Nat) :
    ∃ tree : Tree, tree.Spells (.number x) pos := by
  have hrender : (Value.number x).render = Number.print x := rfl
  obtain ⟨s, hs, ⟨hsign, hchars, hvalue⟩ | ⟨hsign, hchars, hvalue⟩⟩ := number_reads_back x hx
  · refine ⟨.number ⟨.number, Text.ofChars s.chars, pos⟩, rfl, ?_, ?_, ?_⟩
    · rw [Value.levels, if_neg hsign]
      rfl
    · rw [Value.readBack, ← hvalue]
      exact .number _ _
    · rw [hrender, hchars]
      exact scanned_token (fun rest hrest => lexeme_numeral hs hrest) pos
  · refine ⟨.sign ⟨.minus, Text.ofChars ['-'], pos⟩ (.number ⟨.number, Text.ofChars s.chars, pos + 1⟩),
      ⟨rfl, rfl, by simp [Tree.Binds, Tree.leftPowers]⟩, ?_, ?_, ?_⟩
    · rw [Value.levels, if_pos hsign]
      rfl
    · rw [Value.readBack, ← hvalue]
      exact .negative _ _ _ _
    · rw [hrender, hchars]
      intro rest hrest
      have hminus : lexeme (.scalar '-' :: (Text.ofChars s.chars ++ rest)) = some (.token .minus, 1) :=
        rfl
      rw [Text.ofChars_cons, List.cons_append, scanAt_mark pos hminus,
        scanAt_token (pos + 1) (lexeme_numeral hs hrest), List.length_cons, Nat.add_comm s.chars.length,
        ← Nat.add_assoc]
      rfl

theorem string_spelled (s : Text) (pos : Nat) : ∃ tree : Tree, tree.Spells (.string s) pos := by
  refine ⟨.string ⟨.string, Text.ofString (Literal.encode s), pos⟩, rfl, rfl, ?_, ?_⟩
  · rw [Tree.desugar, Literal.decode_encode]
    exact .string _ _
  · exact scanned_token (fun rest _ => lexeme_literal s rest) pos

theorem unit_spelled (pos : Nat) : ∃ tree : Tree, tree.Spells .unit pos := by
  refine ⟨.unit ⟨.lparen, Text.ofChars ['('], pos⟩ ⟨.rparen, Text.ofChars [')'], pos + 1⟩, ⟨rfl, rfl⟩, rfl,
    .unit _, ?_⟩
  intro rest hrest
  have hopening : lexeme (.scalar '(' :: .scalar ')' :: rest) = some (.token .lparen, 1) := rfl
  have hclosing : lexeme (.scalar ')' :: rest) = some (.token .rparen, 1) := rfl
  show scanAt pos (.scalar '(' :: .scalar ')' :: rest) = _
  rw [scanAt_mark pos hopening, scanAt_mark (pos + 1) hclosing]
  rfl

/-- An array is spelled by its elements between brackets. -/
theorem array_spelled {values : List Value} {items : Items} {pos : Nat}
    (h : items.Spells values (pos + 1)) : ∃ tree : Tree, tree.Spells (.array values) pos := by
  have hrender : (Value.array values).render.toList = '[' :: ((Value.renderItems values).toList ++ [']']) := by
    rw [Value.render, String.toList_append, String.toList_append]
    rfl
  refine ⟨.array ⟨.lbracket, Text.ofChars ['['], pos⟩ items
    ⟨.rbracket, Text.ofChars [']'], pos + 1 + (Value.renderItems values).toList.length⟩,
    ⟨rfl, h.valid, rfl⟩, ?_, ?_, ?_⟩
  · rw [Tree.height, h.height, Value.levels]
  · rw [Value.readBack]
    exact .array _ h.denotes
  · rw [hrender]
    intro rest hrest
    have hopening : lexeme (.scalar '[' :: (Text.ofChars ((Value.renderItems values).toList ++ [']']) ++
        rest)) = some (.token .lbracket, 1) := rfl
    have hclosing : lexeme (.scalar ']' :: rest) = some (.token .rbracket, 1) := rfl
    have hitems := h.scanned rest
    rw [Text.ofChars_cons, List.cons_append, scanAt_mark pos hopening, Text.ofChars_append,
      List.append_assoc]
    show Scan.cons _ (scanAt (pos + 1)
      (Text.ofChars (Value.renderItems values).toList ++ .scalar ']' :: rest)) = _
    rw [hitems, scanAt_mark _ hclosing, Tree.yield, Scan.prepend_cons, Scan.prepend_append]
    have hlength : pos + ('[' :: ((Value.renderItems values).toList ++ [']'])).length =
        pos + 1 + (Value.renderItems values).toList.length + 1 := by
      rw [List.length_cons, List.length_append, List.length_singleton]
      omega
    rw [hlength]
    rfl

/-- The text of a plain value does not start with a blank. -/
theorem Value.render_first {v : Value} (h : v.Plain) :
    ∃ c later, v.render.toList = c :: later ∧ (CodePoint.scalar c).isSpace = false := by
  cases v with
  | number x =>
      obtain ⟨s, hs, ⟨-, hchars, -⟩ | ⟨-, hchars, -⟩⟩ := number_reads_back x h
      · obtain ⟨c, later, hfirst, hdigit⟩ := hs.first
        exact ⟨c, later, hchars.trans hfirst, isSpace_digit hdigit⟩
      · exact ⟨'-', s.chars, hchars, by decide⟩
  | string s => exact ⟨'"', _, Literal.encode_toList s, by decide⟩
  | unit => exact ⟨'(', [')'], rfl, by decide⟩
  | array items =>
      refine ⟨'[', (renderItems items ++ "]").toList, ?_, by decide⟩
      rw [render, String.append_assoc, String.toList_append]
      rfl
  | function f => exact h.elim

theorem Value.renderItems_first {v : Value} (h : v.Plain) (rest : List Value) :
    ∃ c later, (renderItems (v :: rest)).toList = c :: later ∧
      (CodePoint.scalar c).isSpace = false := by
  obtain ⟨c, later, hchars, hspace⟩ := render_first h
  cases rest with
  | nil => exact ⟨c, later, hchars, hspace⟩
  | cons w rest =>
      refine ⟨c, later ++ (". " ++ renderItems (w :: rest)).toList, ?_, hspace⟩
      rw [renderItems, String.append_assoc, String.toList_append, hchars, List.cons_append]
      exact fun hnil => List.cons_ne_nil _ _ hnil

theorem Items.spells_last {tree : Tree} {v : Value} {pos : Nat} (h : tree.Spells v pos) :
    (Items.last tree).Spells [v] pos := by
  refine ⟨h.valid, ?_, ?_, fun rest => h.scanned _ (.bracket rest)⟩
  · rw [Items.height, h.height, Value.levelsOf, Value.levelsOf, Nat.max_zero]
  · exact .cons h.denotes .nil

/-- A further element stands after a separator. -/
theorem Items.spells_more {tree : Tree} {items : Items} {v w : Value} {rest : List Value} {pos : Nat}
    (hw : w.Plain) (hfirst : tree.Spells v pos)
    (hrest : items.Spells (w :: rest) (pos + v.render.toList.length + 2)) :
    (Items.more tree ⟨.dot, Text.ofChars ['.'], pos + v.render.toList.length⟩ items).Spells
      (v :: w :: rest) pos := by
  refine ⟨⟨hfirst.valid, rfl, hrest.valid⟩, ?_, .cons hfirst.denotes hrest.denotes, ?_⟩
  · rw [Items.height, hfirst.height, hrest.height]
    rfl
  · intro later
    have hrender : (Value.renderItems (v :: w :: rest)).toList =
        v.render.toList ++ '.' :: ' ' :: (Value.renderItems (w :: rest)).toList := by
      rw [Value.renderItems, String.append_assoc, String.toList_append, String.toList_append]
      · rfl
      · exact fun hnil => List.cons_ne_nil _ _ hnil
    obtain ⟨c, after, hchars, hspace⟩ := Value.renderItems_first hw rest
    have hscanned := hrest.scanned later
    rw [hrender, Text.ofChars_append, List.append_assoc, Text.ofChars_cons, Text.ofChars_cons,
      List.cons_append, List.cons_append, hfirst.scanned _ (.separator _)]
    rw [hchars, Text.ofChars_cons, List.cons_append] at hscanned ⊢
    rw [scanAt_separator _ hspace, hscanned, Items.yield, Scan.prepend_append, Scan.prepend_cons]
    have hlength : pos + (v.render.toList ++ '.' :: ' ' :: c :: after).length =
        pos + v.render.toList.length + 2 + (c :: after).length := by
      rw [List.length_append, List.length_cons, List.length_cons]
      omega
    rw [hlength]

mutual

/-- A plain value is spelled by a tree, wherever its text stands. -/
theorem Value.spelled : ∀ (v : Value), v.Plain → ∀ pos, ∃ tree : Tree, tree.Spells v pos
  | .number x, h, pos => number_spelled x h pos
  | .string s, _, pos => string_spelled s pos
  | .unit, _, pos => unit_spelled pos
  | .array values, h, pos => by
      obtain ⟨items, hitems⟩ := Value.items_spelled values h (pos + 1)
      exact array_spelled hitems
  | .function _, h, _ => h.elim

theorem Value.items_spelled : ∀ (values : List Value), PlainItems values → ∀ pos,
    ∃ items : Items, items.Spells values pos
  | [], _, pos => ⟨.none, trivial, rfl, .nil, fun _ => rfl⟩
  | [v], h, pos => by
      obtain ⟨tree, htree⟩ := v.spelled h.1 pos
      exact ⟨.last tree, Items.spells_last htree⟩
  | v :: w :: rest, h, pos => by
      obtain ⟨tree, htree⟩ := v.spelled h.1 pos
      obtain ⟨items, hitems⟩ := Value.items_spelled (w :: rest) h.2 (pos + v.render.toList.length + 2)
      exact ⟨_, Items.spells_more h.2.1 htree hitems⟩

end

end RollScript
