import RollScript.Value.Print

/-!
# Text written piece by piece

A value is printed by a loop over a stack of the pieces still to be written. `Writing.turn` takes the piece
on top of the stack: an array writes its opening bracket and puts its closing bracket and its elements on
the stack, the last element first, with a separator on top of each but the first one. Read
`print_is_structural` first: the text is the one that the recursion on the value gives, the loop ends from
every stack, and after each turn the parts written so far and the text of the stack make up the text of the
value.
-/

namespace RollScript

namespace Value

/-! ## The parts of a text -/

mutual

/-- The parts that the text of a value is written in. -/
def parts : Value → List String
  | array items => "[" :: (partsOf items ++ ["]"])
  | v => [v.scalarText]

/-- The parts of an array's elements with separators between them. -/
def partsOf : List Value → List String
  | [] => []
  | [v] => v.parts
  | v :: rest => v.parts ++ ". " :: partsOf rest

end

/-- The parts that pieces stand for. -/
def pieceParts : List Piece → List String
  | [] => []
  | .value v :: rest => v.parts ++ pieceParts rest
  | .separator :: rest => ". " :: pieceParts rest
  | .close :: rest => "]" :: pieceParts rest

theorem pieceParts_append (first second : List Piece) :
    pieceParts (first ++ second) = pieceParts first ++ pieceParts second := by
  induction first with
  | nil => rfl
  | cons piece rest ih =>
      cases piece with
      | value v => rw [List.cons_append, pieceParts, pieceParts, ih, List.append_assoc]
      | separator | close => rw [List.cons_append, pieceParts, pieceParts, ih, List.cons_append]

theorem pieceParts_pieces (items : List Value) : pieceParts (pieces items) = partsOf items := by
  fun_induction pieces items with
  | case1 => rfl
  | case2 v => rw [pieceParts, pieceParts, partsOf, List.append_nil]
  | case3 v rest hrest ih =>
      rw [pieceParts, pieceParts, ih, partsOf]
      exact hrest

/-! ## The text that pieces stand for -/

/-- The text that pieces stand for. -/
def renderPieces : List Piece → String
  | [] => ""
  | .value v :: rest => v.render ++ renderPieces rest
  | .separator :: rest => ". " ++ renderPieces rest
  | .close :: rest => "]" ++ renderPieces rest

theorem join_singleton (part : String) : String.join [part] = part := by
  rw [String.join_cons, String.join_nil, String.append_empty]

mutual

/-- The parts of a text make up the text. -/
theorem join_parts : ∀ v : Value, String.join v.parts = v.render
  | .array items => by
      rw [parts, String.join_cons, String.join_append, join_partsOf items, join_singleton, render,
        String.append_assoc]
  | .number _ => join_singleton _
  | .string _ => join_singleton _
  | .unit => join_singleton _
  | .function _ => join_singleton _

theorem join_partsOf : ∀ items : List Value, String.join (partsOf items) = renderItems items
  | [] => String.join_nil
  | [v] => join_parts v
  | v :: w :: rest => by
      show String.join (v.parts ++ ". " :: partsOf (w :: rest)) = v.render ++ ". " ++ renderItems (w :: rest)
      rw [String.join_append, String.join_cons, join_parts v, join_partsOf (w :: rest), String.append_assoc]

end

theorem join_pieceParts (pending : List Piece) :
    String.join (pieceParts pending) = renderPieces pending := by
  induction pending with
  | nil => exact String.join_nil
  | cons piece rest ih =>
      cases piece with
      | value v => rw [pieceParts, renderPieces, String.join_append, join_parts, ih]
      | separator | close => rw [pieceParts, renderPieces, String.join_cons, ih]

/-! ## The loop -/

/-- Where the writing of a value stands: the parts written so far, and the stack of the pieces still to be
written with its top in front. -/
structure Writing where
  written : List String
  pending : List Piece

/-- Puts an element of an array on a stack, and a separator on top of it unless the element is the first. -/
def stackElement (element : Value × Nat) (pending : List Piece) : List Piece :=
  if element.2 = 0 then .value element.1 :: pending
  else .separator :: .value element.1 :: pending

/-- An element on top of the later ones, each of which lies under a separator, gives the pieces of them
all. -/
theorem stack_later (v : Value) (items : List Value) (position : Nat) (pending : List Piece) :
    .value v :: (items.zipIdx (position + 1)).foldr stackElement pending = pieces (v :: items) ++ pending := by
  -- Of the positions it matters only that none of them is that of a first element.
  induction items generalizing v position with
  | nil => rfl
  | cons w rest ih =>
      have hpieces : pieces (v :: w :: rest) = .value v :: .separator :: pieces (w :: rest) := rfl
      rw [hpieces, List.zipIdx_cons, List.foldr_cons, stackElement, if_neg (Nat.succ_ne_zero position), ih,
        List.cons_append, List.cons_append]

/-- Stacking the elements of an array, the last one first, leaves its pieces on the stack. -/
theorem stack_elements (items : List Value) (pending : List Piece) :
    items.zipIdx.foldr stackElement pending = pieces items ++ pending := by
  cases items with
  | nil => rfl
  | cons v rest =>
      rw [List.zipIdx_cons, List.foldr_cons, stackElement, if_pos rfl]
      exact stack_later v rest 0 pending

namespace Writing

/-- Nothing is written yet, and the value is the only piece. -/
def start (v : Value) : Writing :=
  ⟨[], [.value v]⟩

/-- One turn takes the piece on top of the stack and writes one part. An array that is opened puts its
closing bracket and its elements on the stack. -/
def turn (w : Writing) : Option Writing :=
  match w.pending with
  | [] => none
  | .separator :: rest => some ⟨w.written ++ [". "], rest⟩
  | .close :: rest => some ⟨w.written ++ ["]"], rest⟩
  | .value (.array items) :: rest =>
      some ⟨w.written ++ ["["], items.zipIdx.foldr stackElement (.close :: rest)⟩
  | .value v :: rest => some ⟨w.written ++ [v.scalarText], rest⟩

/-- Where the writing stands after exactly this many turns. -/
def after : Nat → Writing → Option Writing
  | 0, w => some w
  | turns + 1, w => w.turn.bind (after turns)

/-- With a piece on the stack there is a turn. It writes the first of the parts that are due, and leaves the
others due and the rest of the text to be written. -/
theorem turn_cons (written : List String) (piece : Piece) (rest : List Piece) :
    ∃ part left, turn ⟨written, piece :: rest⟩ = some ⟨written ++ [part], left⟩ ∧
      pieceParts (piece :: rest) = part :: pieceParts left ∧
      ∀ text, writePieces text (piece :: rest) = writePieces (text ++ part) left := by
  cases piece with
  | separator | close =>
      refine ⟨_, rest, rfl, rfl, fun text => ?_⟩
      rw [writePieces]
  | value v =>
      cases v with
      | number | string | unit | function =>
          refine ⟨_, rest, rfl, rfl, fun text => ?_⟩
          -- The equation for such a piece asks that it is not an array.
          rw [writePieces]
          exact fun _ harray => Value.noConfusion harray
      | array items =>
          refine ⟨"[", _, rfl, ?_, fun text => ?_⟩
          · rw [stack_elements, pieceParts_append, pieceParts_pieces, pieceParts, pieceParts, parts,
              List.cons_append, List.append_assoc]
            rfl
          · rw [writePieces, stack_elements]

/-- What one turn does. -/
theorem turn_writes {w next : Writing} (h : w.turn = some next) :
    ∃ part, next.written = w.written ++ [part] ∧ pieceParts w.pending = part :: pieceParts next.pending ∧
      ∀ text, writePieces text w.pending = writePieces (text ++ part) next.pending := by
  obtain ⟨written, pending⟩ := w
  cases pending with
  | nil => cases h
  | cons piece rest =>
      obtain ⟨part, left, hturn, hparts, htext⟩ := turn_cons written piece rest
      obtain rfl := Option.some.inj (hturn.symm.trans h)
      exact ⟨part, rfl, hparts, htext⟩

/-- Every turn writes one part. What is written and what is due stay the same parts together, and the
function that prints gives the same text wherever it takes over from the loop. -/
theorem after_writes {turns : Nat} {w last : Writing} (h : w.after turns = some last) :
    last.written.length = w.written.length + turns ∧
      last.written ++ pieceParts last.pending = w.written ++ pieceParts w.pending ∧
      writePieces (String.join last.written) last.pending = writePieces (String.join w.written) w.pending := by
  induction turns generalizing w with
  | zero =>
      cases h
      exact ⟨rfl, rfl, rfl⟩
  | succ turns ih =>
      obtain ⟨next, hturn, hlast⟩ := Option.bind_eq_some_iff.1 h
      obtain ⟨part, hwritten, hparts, htext⟩ := turn_writes hturn
      obtain ⟨hlength, hdue, hrest⟩ := ih hlast
      refine ⟨?_, ?_, ?_⟩
      · rw [hlength, hwritten, List.length_append, List.length_singleton]
        omega
      · rw [hdue, hwritten, hparts, List.append_assoc, List.singleton_append]
      · rw [hrest, hwritten, String.join_append, join_singleton, htext]

/-- From every stack the loop ends, after as many turns as there are parts due. -/
theorem after_all {turns : Nat} {w : Writing} (h : (pieceParts w.pending).length = turns) :
    w.after turns = some ⟨w.written ++ pieceParts w.pending, []⟩ := by
  -- The stack may grow in a turn, but one part less is due after it.
  obtain ⟨written, pending⟩ := w
  induction turns generalizing written pending with
  | zero =>
      have hnone : pieceParts pending = [] := List.length_eq_zero_iff.1 h
      cases pending with
      | nil => rw [after, pieceParts, List.append_nil]
      | cons piece rest =>
          obtain ⟨part, left, -, hparts, -⟩ := turn_cons written piece rest
          cases hparts.symm.trans hnone
  | succ turns ih =>
      cases pending with
      | nil => cases h
      | cons piece rest =>
          obtain ⟨part, left, hturn, hparts, -⟩ := turn_cons written piece rest
          have hleft : (pieceParts left).length = turns := by
            rw [hparts, List.length_cons] at h
            exact Nat.succ.inj h
          rw [after, hturn, Option.bind_some, ih (written ++ [part]) left hleft, hparts, List.append_assoc,
            List.singleton_append]

/-- The function that prints gives the parts that the loop has written at its end. -/
theorem writePieces_all (w : Writing) :
    writePieces (String.join w.written) w.pending = String.join (w.written ++ pieceParts w.pending) := by
  obtain ⟨-, -, htext⟩ := after_writes (after_all (w := w) rfl)
  rw [← htext, writePieces]

end Writing

theorem writePieces_eq (written : String) (pending : List Piece) :
    writePieces written pending = written ++ renderPieces pending := by
  have hall := Writing.writePieces_all ⟨[written], pending⟩
  rw [String.join_append, join_pieceParts, join_singleton] at hall
  exact hall

/-- A value is printed as it is rendered. -/
theorem print_eq_render (v : Value) : v.print = v.render := by
  rw [print, writePieces_eq, renderPieces, renderPieces, String.append_empty, String.empty_append]

/-! ## The rule for the text of a value -/

/-- A function gives the texts of values: the text of an array is made of those of its elements, and every
other value has the text of its kind. -/
structure Structural (text : Value → String) : Prop where
  number : ∀ x, text (.number x) = Number.print x
  string : ∀ s, text (.string s) = Literal.encode s
  unit : text .unit = "()"
  function : ∀ f, text (.function f) = "[function]"
  array : ∀ items, text (.array items) = "[" ++ ". ".intercalate (items.map text) ++ "]"

theorem renderItems_eq_intercalate (items : List Value) :
    renderItems items = ". ".intercalate (items.map render) := by
  fun_induction pieces items with
  | case1 => exact String.intercalate_nil.symm
  | case2 v => exact String.intercalate_singleton.symm
  | case3 v rest hrest ih =>
      have hmap : rest.map render ≠ [] := fun hnil => hrest (List.map_eq_nil_iff.1 hnil)
      rw [renderItems, ih, List.map_cons, String.intercalate_cons_of_ne_nil hmap]
      exact hrest

theorem render_structural : Structural render where
  number _ := rfl
  string _ := rfl
  unit := rfl
  function _ := rfl
  array items := by rw [render, renderItems_eq_intercalate]

mutual

/-- The rule leaves no choice. -/
theorem Structural.eq_render {text : Value → String} (h : Structural text) : ∀ v : Value, text v = v.render
  | .number x => h.number x
  | .string s => h.string s
  | .unit => h.unit
  | .function f => h.function f
  | .array items => by rw [h.array, h.map_eq_render items, render_structural.array]

theorem Structural.map_eq_render {text : Value → String} (h : Structural text) :
    ∀ items : List Value, items.map text = items.map render
  | [] => rfl
  | v :: rest => by rw [List.map_cons, List.map_cons, h.eq_render v, h.map_eq_render rest]

end

/-- Printing follows the rule, and nothing else does. -/
theorem structural_iff (text : Value → String) : Structural text ↔ text = print := by
  have hprint : print = render := funext print_eq_render
  rw [hprint]
  constructor
  · intro h
    exact funext h.eq_render
  · rintro rfl
    exact render_structural

end Value

open Value

/-- The text of a value is the one that the structural rule gives, and no other function on values follows
that rule. From every stack the loop ends, with the text that the function that prints gives there; for a
value it ends when all parts of the text are written. After every turn on the way one more part is written,
and the parts written so far, followed by the text of the stack from its top to its bottom, are the text of
the value. -/
theorem print_is_structural :
    (∀ text : Value → String, Structural text ↔ text = Value.print) ∧
    (∀ w : Writing, ∃ turns written, w.after turns = some ⟨written, []⟩ ∧
      String.join written = writePieces (String.join w.written) w.pending) ∧
    ∀ v : Value, (Writing.start v).after v.parts.length = some ⟨v.parts, []⟩ ∧
      String.join v.parts = v.print ∧
      ∀ turns w, (Writing.start v).after turns = some w →
        w.written.length = turns ∧ w.written ++ pieceParts w.pending = v.parts ∧
        String.join w.written ++ renderPieces w.pending = v.print := by
  refine ⟨structural_iff, fun w => ⟨_, _, Writing.after_all rfl, (Writing.writePieces_all w).symm⟩,
    fun v => ?_⟩
  have hdue : pieceParts (Writing.start v).pending = v.parts := List.append_nil v.parts
  have hprint : String.join v.parts = v.print := by rw [join_parts, print_eq_render]
  refine ⟨?_, hprint, fun turns w h => ?_⟩
  · have hend := Writing.after_all (congrArg List.length hdue)
    rwa [hdue] at hend
  · obtain ⟨hlength, hparts, -⟩ := Writing.after_writes h
    rw [hdue] at hparts
    refine ⟨hlength.trans (Nat.zero_add turns), hparts, ?_⟩
    rw [← join_pieceParts, ← String.join_append, ← hprint]
    exact congrArg String.join hparts

/-- An array of an empty array, the unit and an array of its own. -/
def nestedUnits : Value :=
  .array [.array [], .unit, .array [.unit]]

theorem nestedUnits_halfway :
    (Writing.start nestedUnits).after 5 =
      some ⟨["[", "[", "]", ". ", "()"], [.separator, .value (.array [.unit]), .close]⟩ ∧
    String.join ["[", "[", "]", ". ", "()"] ++
      renderPieces [.separator, .value (.array [.unit]), .close] = nestedUnits.print := by
  have hafter : (Writing.start nestedUnits).after 5 =
      some ⟨["[", "[", "]", ". ", "()"], [.separator, .value (.array [.unit]), .close]⟩ := rfl
  obtain ⟨-, -, hwritten⟩ := (print_is_structural.2.2 nestedUnits).2.2 5 _ hafter
  exact ⟨hafter, hwritten⟩

end RollScript
