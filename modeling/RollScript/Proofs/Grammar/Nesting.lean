import RollScript.Proofs.Grammar.Lexemes
import RollScript.Proofs.Grammar.Spans

/-!
# Nested spans

The spans of a parsed tree are nested like its nodes, and those of its leaves are the places of what
they were read from. Read `Expr.Nests` and `Expr.Reads` first; `spans_nest` puts them together. That
the spans of children lie within the parent's span and apart from each other follows from the order of
the tokens alone (`Tree.nests`). What a leaf covers follows from where its tokens stand in the source
(`Tree.reads`).
-/

namespace RollScript

/-! ## Spans -/

namespace Span

/-- The text that a span covers. -/
def slice (source : Text) (span : Span) : Text :=
  (source.drop span.start).take (span.stop - span.start)

/-- A span lies within another one. -/
def Within (inner outer : Span) : Prop :=
  outer.start ≤ inner.start ∧ inner.stop ≤ outer.stop

/-- Two spans have nothing in common. -/
def Apart (a b : Span) : Prop :=
  a.stop ≤ b.start ∨ b.stop ≤ a.start

variable {lower upper : Nat} {inner outer : Span}

theorem Lies.within (h : inner.Lies lower upper) (hstart : outer.start ≤ lower)
    (hstop : upper ≤ outer.stop) : inner.Within outer :=
  ⟨Nat.le_trans hstart h.1, Nat.le_trans h.2.2 hstop⟩

/-- What lies between two offsets lies before its own end. -/
theorem Lies.tight (h : inner.Lies lower upper) : inner.Lies lower inner.stop :=
  ⟨h.1, h.2.1, Nat.le_refl _⟩

end Span

/-- A token's span covers the token's text. -/
theorem Token.Stands.slice_eq {source : Text} {t : Token} (h : t.Stands source) :
    t.span.slice source = t.text := by
  obtain ⟨before, after, hsource, hpos, -⟩ := h
  have hlength : t.span.stop - t.span.start = t.text.length := Nat.add_sub_cancel_left _ _
  rw [Span.slice, hlength, hsource]
  show ((before ++ (t.text ++ after)).drop t.pos).take t.text.length = t.text
  rw [← hpos, List.drop_left, List.take_left]

/-! ## Nodes and their children -/

namespace Expr

/-- A property holds of every node of a tree. -/
def All (P : Expr → Prop) (tree : Expr) : Prop :=
  ∀ node, tree.Contains node → P node

namespace All

variable {P : Expr → Prop} {tree : Expr}

theorem of_children (htree : P tree) (hchildren : ∀ e ∈ tree.children, e.All P) : tree.All P := by
  intro node hnode
  rcases hnode.cases_head with rfl | ⟨e, he, hnode⟩
  · exact htree
  · exact hchildren e he node hnode

theorem leaf (htree : P tree) (hleaf : tree.children = []) : tree.All P := by
  refine of_children htree ?_
  intro e he
  rw [hleaf] at he
  exact absurd he List.not_mem_nil

theorem apply {span : Span} {callee argument : Expr} (htree : P (.apply span callee argument))
    (hcallee : callee.All P) (hargument : argument.All P) : (Expr.apply span callee argument).All P :=
  of_children htree (forall_children_apply.2 ⟨hcallee, hargument⟩)

/-- Another end of the root leaves the nodes below it as they are. -/
theorem withStop {stop : Nat} (h : tree.All P) (hroot : P (tree.withStop stop)) :
    (tree.withStop stop).All P := by
  refine of_children hroot ?_
  intro e he node hnode
  rw [children_withStop] at he
  exact h node (.head he hnode)

end All

/-- The spans of a node's children lie within its own span and are pairwise disjoint. -/
def Nests (node : Expr) : Prop :=
  (∀ e ∈ node.children, e.span.Within node.span) ∧
    node.children.Pairwise fun e e' => e.span.Apart e'.span

/-- Expressions that come one after the other. -/
def InOrder (exprs : List Expr) : Prop :=
  exprs.Pairwise fun e e' => e.span.stop ≤ e'.span.start

namespace Nests

variable {node : Expr}

theorem leaf (hleaf : node.children = []) : node.Nests := by
  rw [Nests, hleaf]
  exact ⟨fun e he => absurd he List.not_mem_nil, .nil⟩

theorem of_inOrder (hwithin : ∀ e ∈ node.children, e.span.Within node.span)
    (horder : InOrder node.children) : node.Nests :=
  ⟨hwithin, horder.imp .inl⟩

theorem apply {span : Span} {callee argument : Expr} (hcallee : callee.span.Within span)
    (hargument : argument.span.Within span) (hapart : callee.span.Apart argument.span) :
    (Expr.apply span callee argument).Nests :=
  ⟨forall_children_apply.2 ⟨hcallee, hargument⟩, List.pairwise_pair.2 hapart⟩

/-- A node may end later than it does. -/
theorem withStop (h : node.Nests) {stop : Nat} (hstop : node.span.stop ≤ stop) :
    (node.withStop stop).Nests := by
  rw [Nests, children_withStop, span_withStop]
  refine ⟨?_, h.2⟩
  intro e he
  obtain ⟨hstart, hend⟩ := h.1 e he
  exact ⟨hstart, Nat.le_trans hend hstop⟩

end Nests

end Expr

/-! ## Nesting from the order of the tokens -/

/-- An application of one expression to another that comes after it, from the start of the one to the
end of the other. -/
theorem applied_nests {lower middle middle' upper : Nat} {callee argument : Expr}
    (hcallee : callee.span.Lies lower middle) (hargument : argument.span.Lies middle' upper)
    (hmiddle : middle ≤ middle') :
    (Expr.apply (Parse.across callee argument) callee argument).Nests := by
  obtain ⟨-, hcalleetext, hcalleestop⟩ := hcallee
  obtain ⟨hstart, htext, -⟩ := hargument
  refine .apply ⟨Nat.le_refl _, ?_⟩ ⟨?_, Nat.le_refl _⟩ (.inl ?_)
  · show callee.span.stop ≤ argument.span.stop
    omega
  · show callee.span.start ≤ argument.span.start
    omega
  · omega

/-- The elements of an array come one after the other. -/
theorem Items.inOrder (items : Items) {lower upper : Nat} (h : Placed lower upper items.yield) :
    Expr.InOrder items.desugar := by
  cases items with
  | none => exact .nil
  | last item => exact List.pairwise_singleton _ _
  | more item separator rest =>
      obtain ⟨middle, hitem, hmiddle, hseparator, hrest⟩ := h.split
      refine .cons ?_ (rest.inOrder hrest)
      intro e he
      have hstop := (item.spread hitem).span.2.2
      have hstart := (rest.spread hrest e he).span.1
      omega

/-- The values of a block come one after the other. -/
theorem Bindings.inOrder (bindings : Bindings) {lower upper : Nat}
    (h : Placed lower upper bindings.yield) :
    Expr.InOrder (bindings.desugar.map Prod.snd) := by
  cases bindings with
  | last name value => exact List.pairwise_singleton _ _
  | more name value joint rest =>
      obtain ⟨-, -, hvalues⟩ := h
      obtain ⟨middle, hvalue, hmiddle, hjoint, hrest⟩ := hvalues.split
      refine .cons ?_ (rest.inOrder hrest)
      intro e he
      obtain ⟨binding, hbinding, rfl⟩ := List.mem_map.1 he
      have hstop := (value.spread hvalue).span.2.2
      have hstart := (rest.spread hrest binding hbinding).span.1
      show value.desugar.span.stop ≤ binding.2.span.start
      omega

mutual

/-- The spans of a tree's nodes are nested. -/
theorem Tree.nests (tree : Tree) {lower upper : Nat} (h : Placed lower upper tree.yield) :
    tree.desugar.All Expr.Nests := by
  match tree, h with
  | .number token, _ | .string token, _ | .name token, _ | .unit opening closing, _ =>
      exact .leaf (.leaf rfl) rfl
  | .parens opening inner closing, ⟨_, _, hrest⟩ =>
      obtain ⟨middle, hinner, -⟩ := hrest.split
      exact inner.nests hinner
  | .array opening items closing, ⟨_, hopening, hrest⟩ =>
      obtain ⟨middle, hitems, hbetween, hclosing, -⟩ := hrest.split
      refine .of_children (.of_inOrder ?_ (items.inOrder hitems)) (items.nests hitems)
      intro e he
      exact (items.spread hitems e he).span.within hopening.le (Nat.le_trans hbetween hclosing.le)
  | .function opening parameter body, ⟨_, hopening, hbetween, hparameter, hrest⟩ =>
      refine .of_children (.of_inOrder (Expr.forall_children_function.2 ?_) (List.pairwise_singleton _ _))
        (Expr.forall_children_function.2 (body.nests hrest))
      exact (body.spread hrest).span.tight.within (show opening.pos ≤ parameter.stop by omega)
        (Nat.le_refl _)
  | .sign operator operand, ⟨hlower, hoperator, hrest⟩ =>
      have hsign : operator.span.Lies lower operator.stop := ⟨hlower, hoperator, Nat.le_refl _⟩
      exact .apply (applied_nests hsign (operand.spread hrest).span (Nat.le_refl _))
        (.leaf (.leaf rfl) rfl) (operand.nests hrest)
  | .block opening bindings joint body, ⟨_, hopening, hrest⟩ =>
      obtain ⟨middle, hbindings, hbetween, hjoint, hlater⟩ := hrest.split
      have hle := hbindings.le
      have hbody := (body.spread hlater).span.tight
      have ⟨hstart, htext, _⟩ := hbody
      refine .of_children (.of_inOrder (Expr.forall_children_block.2 ⟨?_, ?_⟩) ?_)
        (Expr.forall_children_block.2 ⟨bindings.nests hbindings, body.nests hlater⟩)
      · intro binding hbinding
        exact (bindings.spread hbindings binding hbinding).span.within hopening.le
          (show middle ≤ body.desugar.span.stop by omega)
      · exact hbody.within (show opening.pos ≤ joint.stop by omega) (Nat.le_refl _)
      · refine List.pairwise_append.2 ⟨bindings.inOrder hbindings, List.pairwise_singleton _ _, ?_⟩
        intro e he e' he'
        obtain ⟨binding, hbinding, rfl⟩ := List.mem_map.1 he
        rw [List.mem_singleton.1 he']
        have hstop := (bindings.spread hbindings binding hbinding).span.2.2
        omega
  | .choice opening condition first whenTrue second whenFalse, ⟨_, hopening, hrest⟩ =>
      obtain ⟨middle, hbefore, hmiddle, hfirst, hrest⟩ := hrest.split
      obtain ⟨last, hbetween, hlast, hsecond, hrest⟩ := hrest.split
      have hle := hbefore.le
      have hle' := hbetween.le
      have hcondition := (condition.spread hbefore).span
      have htrue := (whenTrue.spread hbetween).span
      have hfalse := (whenFalse.spread hrest).span.tight
      have ⟨_, _, hstop⟩ := hcondition
      have ⟨hstart', _, hstop'⟩ := htrue
      have ⟨hstart'', htext'', _⟩ := hfalse
      refine .of_children (.of_inOrder (Expr.forall_children_choice.2 ⟨?_, ?_, ?_⟩) ?_)
        (Expr.forall_children_choice.2
          ⟨condition.nests hbefore, whenTrue.nests hbetween, whenFalse.nests hrest⟩)
      · exact hcondition.within hopening.le (show middle ≤ whenFalse.desugar.span.stop by omega)
      · exact htrue.within (show opening.pos ≤ first.stop by omega)
          (show last ≤ whenFalse.desugar.span.stop by omega)
      · exact hfalse.within (show opening.pos ≤ second.stop by omega) (Nat.le_refl _)
      · refine .cons ?_ (List.pairwise_pair.2 (by omega))
        intro e he
        rcases List.mem_pair.1 he with rfl | rfl <;> omega
  | .binary left operator right, h =>
      obtain ⟨middle, hbefore, hmiddle, hoperator, hafter⟩ := h.split
      obtain ⟨hstart, htext, hstop⟩ := (left.spread hbefore).span
      -- the operator's name stands after the operand to which it is applied first
      have hpartial : (Expr.apply ⟨left.desugar.span.start, operator.stop⟩
          (.name operator.span operator.text) left.desugar).Nests := by
        refine .apply ⟨?_, Nat.le_refl _⟩ ⟨Nat.le_refl _, ?_⟩ (.inr ?_)
        · show left.desugar.span.start ≤ operator.pos
          omega
        · show left.desugar.span.stop ≤ operator.stop
          omega
        · show left.desugar.span.stop ≤ operator.pos
          omega
      have hlies : Span.Lies lower operator.stop ⟨left.desugar.span.start, operator.stop⟩ := by
        refine ⟨hstart, ?_, Nat.le_refl _⟩
        show left.desugar.span.start < operator.stop
        omega
      exact .apply (applied_nests hlies (right.spread hafter).span (Nat.le_refl _))
        (.apply hpartial (.leaf (.leaf rfl) rfl) (left.nests hbefore)) (right.nests hafter)
  | .comma left operator right, h =>
      obtain ⟨middle, hbefore, hmiddle, hoperator, hafter⟩ := h.split
      exact .apply
        (applied_nests (left.spread hbefore).span (right.spread hafter).span (by omega))
        (left.nests hbefore) (right.nests hafter)
  | .juxtaposition left right, h =>
      obtain ⟨middle, hbefore, hafter⟩ := h.split
      exact .apply
        (applied_nests (left.spread hbefore).span (right.spread hafter).span (Nat.le_refl middle))
        (left.nests hbefore) (right.nests hafter)
  | .emptyCall callee opening closing, h =>
      obtain ⟨middle, hbefore, hmiddle, hopening, hbetween, hclosing, -⟩ := h.split
      have hunit : Span.Lies opening.pos closing.stop ⟨opening.pos, closing.stop⟩ := by
        refine ⟨Nat.le_refl _, ?_, Nat.le_refl _⟩
        show opening.pos < closing.stop
        omega
      exact .apply (applied_nests (callee.spread hbefore).span hunit hmiddle)
        (callee.nests hbefore) (.leaf (.leaf rfl) rfl)
  | .call callee opening arguments closing, h =>
      obtain ⟨middle, hbefore, hmiddle, hopening, hrest⟩ := h.split
      obtain ⟨last, harguments, hlast, hclosing, -⟩ := hrest.split
      have hcallee := (callee.spread hbefore).widen (Nat.le_refl lower)
        (show middle ≤ opening.stop by omega)
      have happlied := arguments.applied_nests hcallee (callee.nests hbefore) harguments
      -- only the outermost application is moved to the end of the closing parenthesis
      have hend := (arguments.applied_spread hcallee harguments).span.2.2
      exact happlied.withStop ((happlied _ .refl).withStop (by omega))

theorem Items.nests (items : Items) {lower upper : Nat} (h : Placed lower upper items.yield) :
    ∀ e ∈ items.desugar, e.All Expr.Nests := by
  match items, h with
  | .none, _ => exact fun e he => absurd he List.not_mem_nil
  | .last item, h =>
      intro e he
      rw [List.mem_singleton.1 he]
      exact item.nests h
  | .more item separator rest, h =>
      obtain ⟨middle, hitem, _, _, hrest⟩ := h.split
      exact List.forall_mem_cons.2 ⟨item.nests hitem, rest.nests hrest⟩

theorem Items.applied_nests (items : Items) {lower middle upper : Nat} {callee : Expr}
    (hcallee : callee.Spread lower middle) (hnests : callee.All Expr.Nests)
    (h : Placed middle upper items.yield) :
    (items.applied callee.span.start callee).All Expr.Nests := by
  match items, h with
  | .none, _ => exact hnests
  | .last item, h =>
      exact .apply
        (RollScript.applied_nests hcallee.span (item.spread h).span (Nat.le_refl middle))
        hnests (item.nests h)
  | .more item separator rest, h =>
      obtain ⟨last, hitem, hlast, hseparator, hrest⟩ := h.split
      have hpart := (applied_across hcallee (item.spread hitem) (Nat.le_refl middle)).widen
        (Nat.le_refl lower) (show last ≤ separator.stop by omega)
      refine rest.applied_nests hpart ?_ hrest
      exact .apply
        (RollScript.applied_nests hcallee.span (item.spread hitem).span (Nat.le_refl middle))
        hnests (item.nests hitem)

theorem Bindings.nests (bindings : Bindings) {lower upper : Nat}
    (h : Placed lower upper bindings.yield) :
    ∀ binding ∈ bindings.desugar, binding.2.All Expr.Nests := by
  match bindings, h with
  | .last name value, ⟨_, _, hvalue⟩ =>
      intro binding hbinding
      rw [List.mem_singleton.1 hbinding]
      exact value.nests hvalue
  | .more name value joint rest, ⟨_, _, hvalues⟩ =>
      obtain ⟨middle, hvalue, _, _, hrest⟩ := hvalues.split
      exact List.forall_mem_cons.2 ⟨value.nests hvalue, rest.nests hrest⟩

end

/-! ## What leaves were read from -/

/-- How a name is written in a source. The signs before a term have names of their own. -/
def Parse.written (x : Text) : Text :=
  if x = .ofString "+x" then .ofString "+"
  else if x = .ofString "-x" then .ofString "-"
  else x

/-- The span of a leaf covers what the leaf was read from: that of a number or a string its token, that of
a name the name as it is written, and that of a unit two parentheses with no token in between. -/
def Expr.Reads (source : Text) (tokens : List Token) : Expr → Prop
  | .number span value =>
    ∃ t ∈ tokens, t.kind = .number ∧ span = t.span ∧ span.slice source = t.text ∧
      value = Numeral.value t.text
  | .string span value =>
    ∃ t ∈ tokens, t.kind = .string ∧ span = t.span ∧ span.slice source = t.text ∧
      Literal.decode t.text = some value
  | .name span x =>
    ∃ t ∈ tokens, span = t.span ∧ span.slice source = Parse.written x
  | .unit span =>
    ∃ opening closing, [opening, closing] <:+: tokens ∧
      opening.kind = .lparen ∧ closing.kind = .rparen ∧ span = ⟨opening.pos, closing.stop⟩ ∧
      opening.span.slice source = .ofString "(" ∧ closing.span.slice source = .ofString ")"
  | _ => True

/-- Tokens next to each other among all those of a source, in which they stand. -/
structure Among (source : Text) (tokens part : List Token) : Prop where
  row : part <:+: tokens
  stands : ∀ t ∈ part, t.Stands source

namespace Among

variable {source : Text} {tokens part later : List Token} {t : Token}

theorem mem (h : Among source tokens (t :: later)) : t ∈ tokens :=
  h.row.subset List.mem_cons_self

theorem head (h : Among source tokens (t :: later)) : t.Stands source :=
  h.stands t List.mem_cons_self

theorem left (h : Among source tokens (part ++ later)) : Among source tokens part where
  row := (List.prefix_append part later).isInfix.trans h.row
  stands := fun t ht => h.stands t (List.mem_append_left later ht)

theorem right (h : Among source tokens (part ++ later)) : Among source tokens later where
  row := (List.suffix_append part later).isInfix.trans h.row
  stands := fun t ht => h.stands t (List.mem_append_right part ht)

theorem tail (h : Among source tokens (t :: later)) : Among source tokens later where
  row := (List.suffix_cons t later).isInfix.trans h.row
  stands := fun t' ht => h.stands t' (List.mem_cons_of_mem t ht)

end Among

/-- No token is written like the name of a sign before a term, since the sign ends the token. -/
theorem Token.Stands.written_eq {source : Text} {t : Token} (h : t.Stands source) :
    Parse.written t.text = t.text := by
  obtain ⟨-, after, -, -, hlexeme⟩ := h
  have hplus : t.text ≠ .ofString "+x" := by
    intro htext
    rw [htext] at hlexeme
    have hlength : 1 = 2 := congrArg Prod.snd (Option.some.inj hlexeme)
    omega
  have hminus : t.text ≠ .ofString "-x" := by
    intro htext
    rw [htext] at hlexeme
    have hlength : 1 = 2 := congrArg Prod.snd (Option.some.inj hlexeme)
    omega
  rw [Parse.written, if_neg hplus, if_neg hminus]

/-- The name of a sign before a term is written with that sign. -/
theorem Token.Stands.sign_eq {source : Text} {t : Token} (h : t.Stands source)
    (hsign : (Parse.signName t.kind).isSome) :
    t.text = Parse.written ((Parse.signName t.kind).getD []) := by
  have hsymbol : t.kind.symbol? = some (Parse.written ((Parse.signName t.kind).getD [])) := by
    cases hkind : t.kind <;> rw [hkind] at hsign <;> first | rfl | cases hsign
  exact h.text_eq hsymbol

/-- An application to at least one argument is an application. -/
theorem Items.applied_eq_apply (items : Items) (start : Nat) (callee : Expr)
    (hvalid : items.ValidArguments) :
    ∃ span left right, items.applied start callee = .apply span left right := by
  match items, hvalid with
  | .last item, _ => exact ⟨_, _, _, rfl⟩
  | .more item separator rest, ⟨_, _, _, _, hrest⟩ => exact rest.applied_eq_apply start _ hrest

section

variable {source : Text} {tokens : List Token}

theorem name_reads {t : Token} (ht : t ∈ tokens) (hstands : t.Stands source) :
    (Expr.name t.span t.text).Reads source tokens :=
  ⟨t, ht, rfl, hstands.slice_eq.trans hstands.written_eq.symm⟩

theorem unit_reads {opening closing : Token} (hopening : opening.kind = .lparen)
    (hclosing : closing.kind = .rparen) (h : Among source tokens [opening, closing]) :
    (Expr.unit ⟨opening.pos, closing.stop⟩).Reads source tokens := by
  have hopentext : opening.text = .ofString "(" := h.head.text_eq (by rw [hopening]; rfl)
  have hclosetext : closing.text = .ofString ")" := h.tail.head.text_eq (by rw [hclosing]; rfl)
  exact ⟨opening, closing, h.row, hopening, hclosing, rfl, h.head.slice_eq.trans hopentext,
    h.tail.head.slice_eq.trans hclosetext⟩

mutual

/-- The leaves of a tree were read from what their spans cover. -/
theorem Tree.reads (tree : Tree) (hvalid : tree.Valid) (h : Among source tokens tree.yield) :
    tree.desugar.All (Expr.Reads source tokens) := by
  match tree, hvalid, h with
  | .number token, hkind, h =>
      exact .leaf ⟨token, h.mem, hkind, rfl, h.head.slice_eq, rfl⟩ rfl
  | .string token, hkind, h =>
      obtain ⟨value, hvalue⟩ := h.head.decode_eq hkind
      refine .leaf ⟨token, h.mem, hkind, rfl, h.head.slice_eq, ?_⟩ rfl
      rw [hvalue, Option.getD_some]
  | .name token, _, h => exact .leaf (name_reads h.mem h.head) rfl
  | .unit opening closing, ⟨hopening, hclosing⟩, h =>
      exact .leaf (unit_reads hopening hclosing h) rfl
  | .parens opening inner closing, ⟨_, hinner, _⟩, h => exact inner.reads hinner h.tail.left
  | .array opening items closing, ⟨_, hitems, _⟩, h =>
      exact .of_children trivial (items.reads_elements hitems h.tail.left)
  | .function opening parameter body, ⟨_, _, hbody⟩, h =>
      exact .of_children trivial (Expr.forall_children_function.2 (body.reads hbody h.tail.tail))
  | .sign operator operand, ⟨hsign, hoperand, _⟩, h =>
      have hname : (Expr.name operator.span ((Parse.signName operator.kind).getD [])).Reads source
          tokens := ⟨operator, h.mem, rfl, h.head.slice_eq.trans (h.head.sign_eq hsign)⟩
      exact .apply trivial (.leaf hname rfl) (operand.reads hoperand h.tail)
  | .block opening bindings joint body, ⟨_, hbindings, _, hbody⟩, h =>
      exact .of_children trivial (Expr.forall_children_block.2
        ⟨bindings.reads hbindings h.tail.left, body.reads hbody h.tail.right.tail⟩)
  | .choice opening condition first whenTrue second whenFalse,
      ⟨_, hcondition, _, htrue, _, hfalse⟩, h =>
      exact .of_children trivial (Expr.forall_children_choice.2
        ⟨condition.reads hcondition h.tail.left, whenTrue.reads htrue h.tail.right.tail.left,
          whenFalse.reads hfalse h.tail.right.tail.right.tail⟩)
  | .binary left operator right, ⟨hleft, hright, _⟩, h =>
      have hname := name_reads h.right.mem h.right.head
      exact .apply trivial (.apply trivial (.leaf hname rfl) (left.reads hleft h.left))
        (right.reads hright h.right.tail)
  | .comma left operator right, ⟨hleft, hright, _⟩, h =>
      exact .apply trivial (left.reads hleft h.left) (right.reads hright h.right.tail)
  | .juxtaposition left right, ⟨hleft, hright, _⟩, h =>
      exact .apply trivial (left.reads hleft h.left) (right.reads hright h.right)
  | .emptyCall callee opening closing, ⟨hcallee, _, hopening, hclosing⟩, h =>
      exact .apply trivial (callee.reads hcallee h.left)
        (.leaf (unit_reads hopening hclosing h.right) rfl)
  | .call callee opening arguments closing, ⟨hcallee, _, _, harguments, _⟩, h =>
      have happlied := arguments.reads_applied callee.desugar.span.start harguments
        (callee.reads hcallee h.left) h.right.tail.left
      -- a call has an argument, so it is an application itself and not a leaf
      refine happlied.withStop ?_
      obtain ⟨span, left, right, happly⟩ := arguments.applied_eq_apply callee.desugar.span.start
        callee.desugar harguments
      rw [happly]
      trivial

theorem Items.reads_elements (items : Items) (hvalid : items.ValidElements)
    (h : Among source tokens items.yield) :
    ∀ e ∈ items.desugar, e.All (Expr.Reads source tokens) := by
  match items, hvalid, h with
  | .none, _, _ => exact fun e he => absurd he List.not_mem_nil
  | .last item, hitem, h =>
      intro e he
      rw [List.mem_singleton.1 he]
      exact item.reads hitem h
  | .more item separator rest, ⟨hitem, _, hrest⟩, h =>
      exact List.forall_mem_cons.2
        ⟨item.reads hitem h.left, rest.reads_elements hrest h.right.tail⟩

theorem Items.reads_applied (items : Items) (start : Nat) (hvalid : items.ValidArguments)
    {callee : Expr} (hcallee : callee.All (Expr.Reads source tokens))
    (h : Among source tokens items.yield) :
    (items.applied start callee).All (Expr.Reads source tokens) := by
  match items, hvalid, h with
  | .last item, ⟨hitem, _⟩, h => exact .apply trivial hcallee (item.reads hitem h)
  | .more item separator rest, ⟨hitem, _, _, _, hrest⟩, h =>
      exact rest.reads_applied start hrest (.apply trivial hcallee (item.reads hitem h.left))
        h.right.tail

theorem Bindings.reads (bindings : Bindings) (hvalid : bindings.Valid)
    (h : Among source tokens bindings.yield) :
    ∀ binding ∈ bindings.desugar, binding.2.All (Expr.Reads source tokens) := by
  match bindings, hvalid, h with
  | .last name value, ⟨_, hvalue⟩, h =>
      intro binding hbinding
      rw [List.mem_singleton.1 hbinding]
      exact value.reads hvalue h.tail
  | .more name value joint rest, ⟨_, hvalue, _, hrest⟩, h =>
      exact List.forall_mem_cons.2
        ⟨value.reads hvalue h.tail.left, rest.reads hrest h.tail.right.tail⟩

end

end

/-- The leaves of a parsed tree were read from what their spans cover. -/
theorem parse_reads {source : Text} {tree : Expr} (h : parse source = .ok tree) :
    tree.All (Expr.Reads source (scan source).tokens) := by
  obtain ⟨concrete, stop, hvalid, hscan, hkinds, rfl⟩ := parse_yield h
  refine concrete.reads hvalid ?_
  rw [hscan]
  refine ⟨(List.prefix_append _ _).isInfix, ?_⟩
  intro t ht
  refine scan_stands ?_ (hkinds t ht)
  rw [hscan]
  exact List.mem_append_left _ ht

/-- The spans of a parsed tree's nodes cover some of the source and are nested like the nodes, and those
of its leaves cover what the leaves were read from. -/
theorem spans_nest {source : Text} {tree : Expr} (h : parse source = .ok tree) (node : Expr)
    (hnode : tree.Contains node) :
    node.span.Lies 0 source.length ∧ node.Nests ∧ node.Reads source (scan source).tokens := by
  have hreads := parse_reads h node hnode
  obtain ⟨concrete, stop, hvalid, hscan, hkinds, rfl⟩ := parse_yield h
  exact ⟨parse_spread h node hnode, concrete.nests (scan_placed hscan) node hnode, hreads⟩

/-- A call with two arguments, of which one has a sign and the other is the unit. -/
def signedCall : Text :=
  .ofString "f(-x, ())"

/-- The sign's name in the tree of the call. -/
def signedCallSign : Expr :=
  .name ⟨2, 3⟩ (.ofString "-x")

/-- The tree of the call. -/
def signedCallTree : Expr :=
  .apply ⟨0, 9⟩
    (.apply ⟨0, 4⟩ (.name ⟨0, 1⟩ (.ofString "f"))
      (.apply ⟨2, 4⟩ signedCallSign (.name ⟨3, 4⟩ (.ofString "x"))))
    (.unit ⟨6, 8⟩)

theorem signedCall_nests :
    parse signedCall = .ok signedCallTree ∧ signedCallTree.Contains signedCallSign ∧
      signedCallSign.span.Lies 0 signedCall.length ∧ signedCallSign.Nests ∧
      signedCallSign.Reads signedCall (scan signedCall).tokens := by
  have hparse : parse signedCall = .ok signedCallTree := rfl
  have hcontains : signedCallTree.Contains signedCallSign :=
    .head (List.mem_cons_self) (.head (List.mem_cons_of_mem _ List.mem_cons_self)
      (.head List.mem_cons_self .refl))
  exact ⟨hparse, hcontains, spans_nest hparse signedCallSign hcontains⟩

end RollScript
