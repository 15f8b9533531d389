import Mathlib.Logic.Relation
import RollScript.Proofs.Grammar.FirstError

/-!
# The places of nodes

Every node of a parsed tree covers some of the source. Read `parse_spread` first. The tokens of a
source stand one after the other, each with some text (`Placed`), and the span of a node runs from the
start of one of its tokens to the end of one that comes no earlier; so the nodes of a tree lie between
the offsets between which its tokens stand.
-/

namespace RollScript

/-- The nodes of a tree: the tree itself, and the nodes of its children. -/
def Expr.Contains : Expr → Expr → Prop :=
  Relation.ReflTransGen fun parent child => child ∈ parent.children

theorem Expr.Contains.child {tree expr child : Expr} (h : tree.Contains expr)
    (hchild : child ∈ expr.children) : tree.Contains child :=
  h.tail hchild

/-- A span covers some text between two offsets. -/
def Span.Lies (lower upper : Nat) (span : Span) : Prop :=
  lower ≤ span.start ∧ span.start < span.stop ∧ span.stop ≤ upper

/-- Every node of a tree covers some text between two offsets. -/
def Expr.Spread (lower upper : Nat) (tree : Expr) : Prop :=
  ∀ node, tree.Contains node → node.span.Lies lower upper

/-! ## Tokens in a row -/

/-- Tokens stand one after the other between two offsets, and each has some text. -/
def Placed (lower upper : Nat) : List Token → Prop
  | [] => lower ≤ upper
  | token :: rest => lower ≤ token.pos ∧ token.pos < token.stop ∧ Placed token.stop upper rest

namespace Placed

variable {lower upper : Nat} {tokens later : List Token}

theorem le (h : Placed lower upper tokens) : lower ≤ upper := by
  induction tokens generalizing lower with
  | nil => exact h
  | cons token rest ih =>
      obtain ⟨hlower, htext, hrest⟩ := h
      have hupper := ih hrest
      omega

theorem lower_le (h : Placed lower upper tokens) {least : Nat} (hleast : least ≤ lower) :
    Placed least upper tokens := by
  cases tokens with
  | nil => exact Nat.le_trans hleast h
  | cons token rest => exact ⟨Nat.le_trans hleast h.1, h.2⟩

/-- What stands in two parts stands so on the two sides of some offset. -/
theorem split (h : Placed lower upper (tokens ++ later)) :
    ∃ middle, Placed lower middle tokens ∧ Placed middle upper later := by
  induction tokens generalizing lower with
  | nil => exact ⟨lower, Nat.le_refl lower, h⟩
  | cons token rest ih =>
      obtain ⟨hlower, htext, hrest⟩ := h
      obtain ⟨middle, hfirst, hlater⟩ := ih hrest
      exact ⟨middle, ⟨hlower, htext, hfirst⟩, hlater⟩

end Placed

theorem scanFrom_nil (steps pos : Nat) : (scanFrom steps pos []).tokens = [.endOfInput pos] := by
  cases steps <;> rfl

theorem tokens_eq_nil {tokens : List Token} {stop pos : Nat}
    (h : [Token.endOfInput pos] = tokens ++ [.endOfInput stop]) : tokens = [] := by
  have hlength := congrArg List.length h
  rw [List.length_append, List.length_singleton, List.length_singleton] at hlength
  exact List.length_eq_zero_iff.1 (by omega)

/-- The tokens of a scan stand one after the other in the source. -/
theorem scanFrom_placed (steps pos : Nat) (rest : Text) {tokens : List Token} {stop : Nat}
    (h : (scanFrom steps pos rest).tokens = tokens ++ [.endOfInput stop]) :
    Placed pos (pos + rest.length) tokens := by
  induction steps generalizing pos rest tokens with
  | zero =>
      rw [tokens_eq_nil h]
      exact Nat.le_add_right pos _
  | succ steps ih =>
      -- what comes after a lexeme stands after its text
      have hafter : ∀ (length : Nat) (tokens : List Token),
          (scanFrom steps (pos + length) (rest.drop length)).tokens =
            tokens ++ [.endOfInput stop] →
          Placed (pos + (rest.take length).length) (pos + rest.length) tokens := by
        intro length tokens htokens
        rw [List.length_take]
        by_cases hlength : length ≤ rest.length
        · have hplaced := ih (pos + length) (rest.drop length) htokens
          rw [List.length_drop] at hplaced
          have hend : pos + length + (rest.length - length) = pos + rest.length := by omega
          rw [Nat.min_eq_left hlength, ← hend]
          exact hplaced
        · rw [List.drop_eq_nil_of_le (by omega), scanFrom_nil] at htokens
          rw [tokens_eq_nil htokens]
          show pos + min length rest.length ≤ pos + rest.length
          omega
      unfold scanFrom at h
      split at h
      · rw [tokens_eq_nil h]
        exact Nat.le_refl pos
      · next c later =>
          split at h
          · simp at h
          · next length _ => exact (hafter length tokens h).lower_le (Nat.le_add_right pos _)
          · next kind length hlexeme =>
              obtain ⟨hlength, hkind⟩ := lexeme_spec hlexeme
              cases tokens with
              | nil =>
                  have hend := (List.cons.inj h).1
                  exact absurd (congrArg Lexeme.token (congrArg Token.kind hend)) hkind
              | cons token tokens =>
                  obtain ⟨rfl, htokens⟩ := List.cons.inj h
                  refine ⟨Nat.le_refl pos, ?_, hafter length tokens htokens⟩
                  show pos < pos + ((c :: later).take length).length
                  rw [List.length_take, List.length_cons]
                  omega

/-- A parsed tree stands for a valid tree that has all the tokens of the source. -/
theorem parse_yield {source : Text} {e : Expr} (h : parse source = .ok e) :
    ∃ (tree : Tree) (stop : Nat), tree.Valid ∧
      scan source = ⟨tree.yield ++ [.endOfInput stop], none⟩ ∧
      (∀ t ∈ tree.yield, t.kind ≠ .eof) ∧ tree.desugar = e := by
  obtain ⟨hshaped, -⟩ := scan_shape source
  obtain ⟨tokens, htokens, ⟨hfailure, stop, hscan⟩ | ⟨hfailure, -⟩⟩ := id hshaped
  · have hscanned : scan source = ⟨tokens ++ [.endOfInput stop], none⟩ := by
      rw [← hscan, ← hfailure]
    rw [parse, hscanned] at h
    obtain ⟨tree, hvalid, rfl, -, rfl⟩ := valid_of_ofScan htokens h
    exact ⟨tree, stop, hvalid, hscanned, htokens, rfl⟩
  · exact absurd h (failure_ne_ok hshaped hfailure e)

/-- The tokens of a scanned source stand one after the other in it. -/
theorem scan_placed {source : Text} {tokens : List Token} {stop : Nat}
    (h : scan source = ⟨tokens ++ [.endOfInput stop], none⟩) : Placed 0 source.length tokens := by
  have hplaced := scanFrom_placed source.length 0 source (congrArg Scan.tokens h)
  rwa [Nat.zero_add] at hplaced

/-! ## Nodes -/

namespace Expr

theorem children_withStop (stop : Nat) (e : Expr) : (e.withStop stop).children = e.children := by
  cases e <;> rfl

theorem span_withStop (stop : Nat) (e : Expr) : (e.withStop stop).span = ⟨e.span.start, stop⟩ := by
  cases e <;> rfl

/-! ### What holds of all children of a node -/

section Children

variable {P : Expr → Prop} {span : Span} {body : Expr}

theorem forall_children_apply {callee argument : Expr} :
    (∀ e ∈ (apply span callee argument).children, P e) ↔ P callee ∧ P argument := by
  simp [children]

theorem forall_children_function {parameter : Text} :
    (∀ e ∈ (function span parameter body).children, P e) ↔ P body := by
  simp [children]

theorem forall_children_block {bindings : List (Text × Expr)} :
    (∀ e ∈ (block span bindings body).children, P e) ↔
      (∀ binding ∈ bindings, P binding.2) ∧ P body := by
  simp only [children, List.forall_mem_append, List.forall_mem_map, List.forall_mem_singleton]

theorem forall_children_choice {condition whenTrue whenFalse : Expr} :
    (∀ e ∈ (choice span condition whenTrue whenFalse).children, P e) ↔
      P condition ∧ P whenTrue ∧ P whenFalse := by
  simp [children]

end Children

/-! ### Nodes that are spread out -/

namespace Spread

variable {lower upper : Nat} {tree : Expr}

theorem span (h : tree.Spread lower upper) : tree.span.Lies lower upper :=
  h tree .refl

theorem child (h : tree.Spread lower upper) {e : Expr} (he : e ∈ tree.children) :
    e.Spread lower upper :=
  fun node hnode => h node (.head he hnode)

/-- A tree is spread out if it covers some text and its children are spread out. -/
theorem of_children (hspan : tree.span.Lies lower upper)
    (hchildren : ∀ e ∈ tree.children, e.Spread lower upper) : tree.Spread lower upper := by
  intro node hnode
  rcases hnode.cases_head with rfl | ⟨e, he, hnode⟩
  · exact hspan
  · exact hchildren e he node hnode

theorem widen (h : tree.Spread lower upper) {least most : Nat} (hleast : least ≤ lower)
    (hmost : upper ≤ most) : tree.Spread least most := by
  intro node hnode
  obtain ⟨hlower, htext, hupper⟩ := h node hnode
  exact ⟨Nat.le_trans hleast hlower, htext, Nat.le_trans hupper hmost⟩

/-- An application of spread out expressions is spread out, if it covers some text there itself. -/
theorem apply {callee argument : Expr} {span : Span} (hcallee : callee.Spread lower upper)
    (hargument : argument.Spread lower upper) (hspan : span.Lies lower upper) :
    (Expr.apply span callee argument).Spread lower upper :=
  of_children hspan (forall_children_apply.2 ⟨hcallee, hargument⟩)

theorem leaf (hspan : tree.span.Lies lower upper) (hleaf : tree.children = []) :
    tree.Spread lower upper := by
  refine of_children hspan fun e he => ?_
  rw [hleaf] at he
  exact absurd he List.not_mem_nil

theorem withStop (h : tree.Spread lower upper) {stop most : Nat} (hstop : upper ≤ stop)
    (hmost : stop ≤ most) : (tree.withStop stop).Spread lower most := by
  obtain ⟨hlower, htext, hupper⟩ := h.span
  refine of_children ?_ fun e he => ?_
  · rw [span_withStop]
    refine ⟨hlower, ?_, hmost⟩
    show tree.span.start < stop
    omega
  · rw [children_withStop] at he
    exact (h.child he).widen (Nat.le_refl lower) (by omega)

end Spread

end Expr

/-- An application of one expression to another that comes after it. -/
theorem applied_across {lower middle middle' upper : Nat} {callee argument : Expr}
    (hcallee : callee.Spread lower middle) (hargument : argument.Spread middle' upper)
    (hmiddle : middle ≤ middle') :
    (Expr.apply (Parse.across callee argument) callee argument).Spread lower upper := by
  obtain ⟨hlower, hcalleetext, hcalleestop⟩ := hcallee.span
  obtain ⟨hstart, htext, hupper⟩ := hargument.span
  refine .apply (hcallee.widen (Nat.le_refl lower) (by omega))
    (hargument.widen (by omega) (Nat.le_refl upper)) ⟨hlower, ?_, hupper⟩
  show callee.span.start < argument.span.stop
  omega

mutual

/-- The nodes of a tree lie where its tokens stand. -/
theorem Tree.spread (tree : Tree) {lower upper : Nat} (h : Placed lower upper tree.yield) :
    tree.desugar.Spread lower upper := by
  match tree, h with
  | .number token, h | .string token, h | .name token, h => exact .leaf h rfl
  | .unit opening closing, ⟨hlower, hopening, hbetween, hclosing, hupper⟩ =>
      refine .leaf ⟨hlower, ?_, hupper⟩ rfl
      show opening.pos < closing.stop
      omega
  | .parens opening inner closing, ⟨hlower, hopening, hrest⟩ =>
      obtain ⟨middle, hinner, hbetween, hclosing, hupper⟩ := hrest.split
      exact (inner.spread hinner).widen (by omega) (Nat.le_trans (by omega) hupper)
  | .array opening items closing, ⟨hlower, hopening, hrest⟩ =>
      obtain ⟨middle, hitems, hbetween, hclosing, hupper⟩ := hrest.split
      have hle := hitems.le
      refine .of_children ⟨hlower, ?_, hupper⟩ fun e he => ?_
      · show opening.pos < closing.stop
        omega
      · exact (items.spread hitems e he).widen (by omega) (Nat.le_trans (by omega) hupper)
  | .function opening parameter body, ⟨hlower, hopening, hbetween, hparameter, hrest⟩ =>
      have hbody := body.spread hrest
      obtain ⟨hstart, htext, hupper⟩ := hbody.span
      refine .of_children ⟨hlower, ?_, hupper⟩ (Expr.forall_children_function.2 ?_)
      · show opening.pos < body.desugar.span.stop
        omega
      · exact hbody.widen (by omega) (Nat.le_refl upper)
  | .sign operator operand, ⟨hlower, hoperator, hrest⟩ =>
      have hoperand := operand.spread hrest
      obtain ⟨hstart, htext, hupper⟩ := hoperand.span
      refine .apply (.leaf ⟨hlower, hoperator, ?_⟩ rfl) ?_ ⟨hlower, ?_, hupper⟩
      · show operator.stop ≤ upper
        omega
      · exact hoperand.widen (by omega) (Nat.le_refl upper)
      · show operator.pos < operand.desugar.span.stop
        omega
  | .block opening bindings joint body, ⟨hlower, hopening, hrest⟩ =>
      obtain ⟨middle, hbindings, hbetween, hjoint, hlater⟩ := hrest.split
      have hle := hbindings.le
      have hbody := body.spread hlater
      obtain ⟨hstart, htext, hupper⟩ := hbody.span
      refine .of_children ⟨hlower, ?_, hupper⟩ (Expr.forall_children_block.2 ⟨?_, ?_⟩)
      · show opening.pos < body.desugar.span.stop
        omega
      · intro binding hbinding
        exact (bindings.spread hbindings binding hbinding).widen (by omega) (by omega)
      · exact hbody.widen (by omega) (Nat.le_refl upper)
  | .choice opening condition first whenTrue second whenFalse, ⟨hlower, hopening, hrest⟩ =>
      obtain ⟨middle, hbefore, hmiddle, hfirst, hrest⟩ := hrest.split
      obtain ⟨last, hbetween, hlast, hsecond, hrest⟩ := hrest.split
      have hcondition := condition.spread hbefore
      have htrue := whenTrue.spread hbetween
      have hfalse := whenFalse.spread hrest
      have hle := hbefore.le
      have hle' := hbetween.le
      obtain ⟨hstart, htext, hupper⟩ := hfalse.span
      refine .of_children ⟨hlower, ?_, hupper⟩ (Expr.forall_children_choice.2 ⟨?_, ?_, ?_⟩)
      · show opening.pos < whenFalse.desugar.span.stop
        omega
      · exact hcondition.widen (by omega) (by omega)
      · exact htrue.widen (by omega) (by omega)
      · exact hfalse.widen (by omega) (Nat.le_refl upper)
  | .binary left operator right, h =>
      obtain ⟨middle, hbefore, hmiddle, hoperator, hafter⟩ := h.split
      have hleft := left.spread hbefore
      have hright := right.spread hafter
      obtain ⟨hlower, hlefttext, hleftstop⟩ := hleft.span
      obtain ⟨hrightstart, hrighttext, hupper⟩ := hright.span
      have hhead : (Expr.name operator.span operator.text).Spread lower upper := by
        refine .leaf ⟨?_, hoperator, ?_⟩ rfl
        · show lower ≤ operator.pos
          omega
        · show operator.stop ≤ upper
          omega
      refine .apply (.apply hhead ?_ ⟨hlower, ?_, ?_⟩) ?_ ⟨hlower, ?_, hupper⟩
      · exact hleft.widen (Nat.le_refl lower) (by omega)
      · show left.desugar.span.start < operator.stop
        omega
      · show operator.stop ≤ upper
        omega
      · exact hright.widen (by omega) (Nat.le_refl upper)
      · show left.desugar.span.start < right.desugar.span.stop
        omega
  | .comma left operator right, h =>
      obtain ⟨middle, hbefore, hmiddle, hoperator, hafter⟩ := h.split
      exact applied_across (left.spread hbefore) (right.spread hafter) (by omega)
  | .juxtaposition left right, h =>
      obtain ⟨middle, hbefore, hafter⟩ := h.split
      exact applied_across (left.spread hbefore) (right.spread hafter) (Nat.le_refl middle)
  | .emptyCall callee opening closing, h =>
      obtain ⟨middle, hbefore, hmiddle, hopening, hbetween, hclosing, hupper⟩ := h.split
      have hcallee := callee.spread hbefore
      obtain ⟨hlower, htext, hstop⟩ := hcallee.span
      refine .apply (hcallee.widen (Nat.le_refl lower) ?_) (.leaf ⟨?_, ?_, hupper⟩ rfl)
        ⟨hlower, ?_, hupper⟩
      · exact Nat.le_trans (by omega) hupper
      · show lower ≤ opening.pos
        omega
      · show opening.pos < closing.stop
        omega
      · show callee.desugar.span.start < closing.stop
        omega
  | .call callee opening arguments closing, h =>
      obtain ⟨middle, hbefore, hmiddle, hopening, hrest⟩ := h.split
      obtain ⟨last, harguments, hlast, hclosing, hupper⟩ := hrest.split
      have hcallee := (callee.spread hbefore).widen (Nat.le_refl lower)
        (show middle ≤ opening.stop by omega)
      exact (arguments.applied_spread hcallee harguments).withStop (by omega) hupper

theorem Items.spread (items : Items) {lower upper : Nat} (h : Placed lower upper items.yield) :
    ∀ e ∈ items.desugar, e.Spread lower upper := by
  match items, h with
  | .none, _ => exact fun e he => absurd he List.not_mem_nil
  | .last item, h =>
      intro e he
      rw [List.mem_singleton.1 he]
      exact item.spread h
  | .more item separator rest, h =>
      obtain ⟨middle, hitem, hmiddle, hseparator, hrest⟩ := h.split
      have hle := hitem.le
      have hle' := hrest.le
      refine List.forall_mem_cons.2 ⟨?_, fun e he => ?_⟩
      · exact (item.spread hitem).widen (Nat.le_refl lower) (by omega)
      · exact (rest.spread hrest e he).widen (by omega) (Nat.le_refl upper)

/-- A call covers what its callee and its arguments cover. -/
theorem Items.applied_spread (items : Items) {lower middle upper : Nat} {callee : Expr}
    (hcallee : callee.Spread lower middle) (h : Placed middle upper items.yield) :
    (items.applied callee.span.start callee).Spread lower upper := by
  match items, h with
  | .none, h => exact hcallee.widen (Nat.le_refl lower) h
  | .last item, h => exact applied_across hcallee (item.spread h) (Nat.le_refl middle)
  | .more item separator rest, h =>
      obtain ⟨last, hitem, hlast, hseparator, hrest⟩ := h.split
      have hpart := (applied_across hcallee (item.spread hitem) (Nat.le_refl middle)).widen
        (Nat.le_refl lower) (show last ≤ separator.stop by omega)
      exact rest.applied_spread hpart hrest

theorem Bindings.spread (bindings : Bindings) {lower upper : Nat}
    (h : Placed lower upper bindings.yield) :
    ∀ binding ∈ bindings.desugar, binding.2.Spread lower upper := by
  match bindings, h with
  | .last name value, ⟨hlower, hname, hvalue⟩ =>
      intro binding hbinding
      rw [List.mem_singleton.1 hbinding]
      exact (value.spread hvalue).widen (by omega) (Nat.le_refl upper)
  | .more name value joint rest, ⟨hlower, hname, hvalues⟩ =>
      obtain ⟨middle, hvalue, hmiddle, hjoint, hrest⟩ := hvalues.split
      have hle := hvalue.le
      have hle' := hrest.le
      refine List.forall_mem_cons.2 ⟨?_, fun binding hbinding => ?_⟩
      · exact (value.spread hvalue).widen (by omega) (by omega)
      · exact (rest.spread hrest binding hbinding).widen (by omega) (Nat.le_refl upper)

end

/-- Every node of a parsed tree covers some of the source. -/
theorem parse_spread {source : Text} {e : Expr} (h : parse source = .ok e) :
    e.Spread 0 source.length := by
  obtain ⟨tree, stop, -, hscan, -, rfl⟩ := parse_yield h
  exact tree.spread (scan_placed hscan)

end RollScript
