import RollScript.Proofs.Grammar.Reading

/-!
# Valid trees are read

Read `readable` first: in front of any stream, the tokens of a valid tree are read as that tree. The
statement that goes through the induction is `Tree.Readable`: reading the tokens of a tree comes down
to extending the tree by what follows, so the left operand of an operator can be read before the
operator is known.
-/

namespace RollScript

open RollScript.Parser
open RollScript.Stream

/-- A token of some kind does not continue an expression that is read with a bound. -/
def Stops (power : Nat) (kind : TokenKind) : Prop :=
  ∀ left, kind.leftPower? = some left → left < power

/-- A token of some kind is not taken by a node that is open on the right. -/
def Tree.Leaves (tree : Tree) (kind : TokenKind) : Prop :=
  ∀ right ∈ tree.rightPowers, Stops right kind

theorem stops_of_none {power : Nat} {kind : TokenKind} (h : kind.leftPower? = none) :
    Stops power kind := by
  intro left hleft
  rw [h] at hleft
  cases hleft

theorem Tree.leaves_of_none {tree : Tree} {kind : TokenKind} (h : kind.leftPower? = none) :
    tree.Leaves kind :=
  fun _ _ => stops_of_none h

theorem Tree.leaves_of_yields {tree : Tree} {kind : TokenKind} {left : Nat}
    (h : kind.leftPower? = some left) (hyields : tree.Yields left) : tree.Leaves kind := by
  intro right hright left' hleft'
  obtain rfl : left = left' := Option.some.inj (h.symm.trans hleft')
  exact hyields right hright

theorem TokenKind.leftPower?_operator {kind : TokenKind} {left right : Nat}
    (h : Parse.operatorPowers kind = some (left, right)) : kind.leftPower? = some left := by
  cases kind <;> cases h <;> rfl

theorem TokenKind.leftPower?_juxtaposed {kind : TokenKind} (h : Parse.startsTerm kind = true)
    (hparen : kind ≠ .lparen) : kind.leftPower? = some 20 := by
  cases kind <;> first | exact absurd rfl hparen | rfl | cases h

/-- Which tokens can follow an expression, and with which left powers. -/
theorem TokenKind.leftPower?_cases {kind : TokenKind} {left : Nat}
    (h : kind.leftPower? = some left) :
    (kind = .lparen ∧ left = 21) ∨ (kind = .comma ∧ left = 1) ∨
      (∃ right, Parse.operatorPowers kind = some (left, right)) ∨
      (Parse.startsTerm kind = true ∧ kind ≠ .lparen ∧ left = 20) := by
  cases kind <;> cases h <;> simp [Parse.operatorPowers, Parse.startsTerm]

theorem Tree.yield_length_pos (tree : Tree) : 0 < tree.yield.length := by
  match tree with
  | .juxtaposition left right =>
      have hleft := yield_length_pos left
      rw [yield, List.length_append]
      omega
  | .number _ | .string _ | .name _ | .unit _ _ | .parens _ _ _ | .array _ _ _
  | .function _ _ _ | .sign _ _ | .block _ _ _ _ | .choice _ _ _ _ _ _ | .binary _ _ _
  | .comma _ _ _ | .emptyCall _ _ _ | .call _ _ _ _ =>
      simp only [yield, List.length_append, List.length_cons, List.length_nil]
      omega

/-! ## Extending a tree -/

section Climb

variable {sub : Nat → Parser Tree} {size power rounds left right : Nat} {tree : Tree} {s : Stream}

theorem climb_stops (h : Stops power s.current.kind) :
    Read.climb sub size power (rounds + 1) tree s = .ok (tree, s) := by
  unfold Stops TokenKind.leftPower? at h
  rw [Read.climb, current_bind]
  split
  · next hkind =>
      rw [if_pos (h 21 (if_pos hkind))]
      rfl
  · next hparen =>
      rw [if_neg hparen] at h
      split
      · next hkind =>
          rw [if_pos (h 1 (if_pos hkind))]
          rfl
      · next hcomma =>
          rw [if_neg hcomma] at h
          cases hpowers : Parse.operatorPowers s.current.kind with
          | some powers =>
              rw [hpowers] at h
              simp only
              rw [if_pos (h powers.1 rfl)]
              rfl
          | none =>
              rw [hpowers] at h
              simp only
              split
              · next hstarts =>
                  rw [if_pos (h 20 (if_pos hstarts))]
                  rfl
              · rfl

theorem climb_call (hkind : s.current.kind = .lparen) (hpower : power ≤ 21) :
    Read.climb sub size power (rounds + 1) tree s =
      (Read.call sub size tree >>= Read.climb sub size power rounds) s := by
  rw [Read.climb, current_bind, if_pos hkind, if_neg (Nat.not_lt.2 hpower)]

theorem climb_comma (hkind : s.current.kind = .comma) (hpower : power ≤ 1) :
    Read.climb sub size power (rounds + 1) tree s =
      (advance >>= fun _ => sub 2 >>= fun right =>
        Read.climb sub size power rounds (.comma tree s.current right)) s := by
  rw [Read.climb, current_bind, if_neg (by rw [hkind]; decide), if_pos hkind,
    if_neg (Nat.not_lt.2 hpower)]

theorem climb_binary (hpowers : Parse.operatorPowers s.current.kind = some (left, right))
    (hpower : power ≤ left) :
    Read.climb sub size power (rounds + 1) tree s =
      (advance >>= fun _ => sub right >>= fun operand =>
        Read.climb sub size power rounds (.binary tree s.current operand)) s := by
  have hparen : s.current.kind ≠ .lparen := by
    intro h
    rw [h] at hpowers
    cases hpowers
  have hcomma : s.current.kind ≠ .comma := by
    intro h
    rw [h] at hpowers
    cases hpowers
  rw [Read.climb, current_bind, if_neg hparen, if_neg hcomma, hpowers]
  simp only
  rw [if_neg (Nat.not_lt.2 hpower)]

theorem climb_juxtaposition (hstarts : Parse.startsTerm s.current.kind = true)
    (hparen : s.current.kind ≠ .lparen) (hpower : power ≤ 20) :
    Read.climb sub size power (rounds + 1) tree s =
      (sub 19 >>= fun right =>
        Read.climb sub size power rounds (.juxtaposition tree right)) s := by
  have hcomma : s.current.kind ≠ .comma := by
    intro h
    rw [h] at hstarts
    cases hstarts
  have hpowers : Parse.operatorPowers s.current.kind = none := by
    revert hstarts
    cases s.current.kind <;> first | intro h; rfl | intro h; cases h
  rw [Read.climb, current_bind, if_neg hparen, if_neg hcomma, hpowers]
  simp only
  rw [if_pos hstarts, if_neg (Nat.not_lt.2 hpower)]

/-- A tree is left as it is, or extended by a call, a comma, an operator or a juxtaposition. -/
theorem climb_cases {result : Except SyntaxError (Tree × Stream)}
    (h : Read.climb sub size power (rounds + 1) tree s = result) :
    (Stops power s.current.kind ∧ result = .ok (tree, s)) ∨
    (s.current.kind = .lparen ∧ power ≤ 21 ∧
      (Read.call sub size tree >>= Read.climb sub size power rounds) s = result) ∨
    (s.current.kind = .comma ∧ power ≤ 1 ∧
      (advance >>= fun _ => sub 2 >>= fun right =>
        Read.climb sub size power rounds (.comma tree s.current right)) s = result) ∨
    (∃ left right, Parse.operatorPowers s.current.kind = some (left, right) ∧ power ≤ left ∧
      (advance >>= fun _ => sub right >>= fun operand =>
        Read.climb sub size power rounds (.binary tree s.current operand)) s = result) ∨
    (Parse.startsTerm s.current.kind = true ∧ s.current.kind ≠ .lparen ∧ power ≤ 20 ∧
      (sub 19 >>= fun right =>
        Read.climb sub size power rounds (.juxtaposition tree right)) s = result) := by
  cases hpower : s.current.kind.leftPower? with
  | none =>
      have hstops : Stops power s.current.kind := stops_of_none hpower
      exact .inl ⟨hstops, h.symm.trans (climb_stops hstops)⟩
  | some left =>
      by_cases hlt : left < power
      · have hstops : Stops power s.current.kind := by
          intro left' hleft'
          obtain rfl : left = left' := Option.some.inj (hpower.symm.trans hleft')
          exact hlt
        exact .inl ⟨hstops, h.symm.trans (climb_stops hstops)⟩
      · right
        rcases TokenKind.leftPower?_cases hpower with ⟨hkind, rfl⟩ | ⟨hkind, rfl⟩ |
          ⟨right, hkind⟩ | ⟨hstarts, hparen, rfl⟩
        · exact .inl ⟨hkind, by omega, (climb_call hkind (by omega)).symm.trans h⟩
        · exact .inr (.inl ⟨hkind, by omega, (climb_comma hkind (by omega)).symm.trans h⟩)
        · exact .inr (.inr (.inl ⟨left, right, hkind, by omega,
            (climb_binary hkind (by omega)).symm.trans h⟩))
        · exact .inr (.inr (.inr ⟨hstarts, hparen, by omega,
            (climb_juxtaposition hstarts hparen (by omega)).symm.trans h⟩))

end Climb

/-! ## Reading a tree -/

theorem Tree.height_pos (tree : Tree) : 0 < tree.height := by
  match tree with
  | .emptyCall callee _ _ =>
      rw [height]
      exact height_pos callee
  | .number _ | .string _ | .name _ | .unit _ _ | .parens _ _ _ | .array _ _ _
  | .function _ _ _ | .sign _ _ | .block _ _ _ _ | .choice _ _ _ _ _ _ | .binary _ _ _
  | .comma _ _ _ | .juxtaposition _ _ | .call _ _ _ _ =>
      simp only [height]
      omega

/-- The first token is one that a term starts with. -/
def Starts (tokens : List Token) : Prop :=
  ∃ first later, tokens = first :: later ∧
    (Parse.startsTerm first.kind = true ∨ (Parse.signName first.kind).isSome)

theorem Starts.append {tokens : List Token} (h : Starts tokens) (later : List Token) :
    Starts (tokens ++ later) := by
  obtain ⟨first, rest, rfl, hfirst⟩ := h
  exact ⟨first, rest ++ later, rfl, hfirst⟩

theorem Starts.current_ne {tokens : List Token} (h : Starts tokens) {kind : TokenKind}
    (hstarts : Parse.startsTerm kind = false) (hsign : Parse.signName kind = none) (s : Stream) :
    (prepend tokens s).current.kind ≠ kind := by
  obtain ⟨first, rest, rfl, hfirst⟩ := h
  rintro rfl
  rw [current_prepend_cons] at hstarts hsign
  simp [hstarts, hsign] at hfirst

/-- A valid tree starts with a token that starts a term, or with a sign. -/
theorem Tree.Valid.starts {tree : Tree} (h : tree.Valid) : Starts tree.yield := by
  match tree with
  | .number token | .string token | .name token =>
      exact ⟨token, [], rfl, .inl (by rw [show token.kind = _ from h]; rfl)⟩
  | .unit opening _ | .parens opening _ _ | .array opening _ _ | .function opening _ _
  | .block opening _ _ _ | .choice opening _ _ _ _ _ =>
      exact ⟨opening, _, rfl, .inl (by rw [h.1]; rfl)⟩
  | .sign operator _ => exact ⟨operator, _, rfl, .inr h.1⟩
  | .binary left _ _ | .comma left _ _ | .juxtaposition left _ | .emptyCall left _ _
  | .call left _ _ _ =>
      have hleft : left.Valid := h.1
      exact hleft.starts.append _

theorem Items.ValidArguments.starts {items : Items} (h : items.ValidArguments) :
    Starts items.yield := by
  cases items with
  | none => exact h.elim
  | last item =>
      have hitem : item.Valid := h.1
      exact hitem.starts
  | more item separator rest =>
      have hitem : item.Valid := h.1
      exact hitem.starts.append _

variable {size : Nat}

/-- Reading the tokens of a tree comes down to extending the tree by what follows. -/
def Tree.Readable (size : Nat) (tree : Tree) : Prop :=
  ∀ depth power s, tree.height ≤ depth + 1 → tree.Binds power → tree.Leaves s.current.kind →
    tree.yield.length + s.tokens.length ≤ size →
    ∃ rounds, s.tokens.length ≤ rounds ∧
      Read.expression size (depth + 1) power (prepend tree.yield s) =
        Read.climb (Read.expression size depth) size power rounds tree s

/-- A tree is read as a whole before a token that does not continue it. -/
theorem Tree.Readable.whole {tree : Tree} (h : tree.Readable size) {depth power : Nat} {s : Stream}
    (hheight : tree.height ≤ depth) (hbinds : tree.Binds power)
    (hleaves : tree.Leaves s.current.kind) (hstops : Stops power s.current.kind)
    (hsize : tree.yield.length + s.tokens.length ≤ size) :
    Read.expression size depth power (prepend tree.yield s) = .ok (tree, s) := by
  have hpos := tree.height_pos
  obtain ⟨depth, rfl⟩ : ∃ d, depth = d + 1 := ⟨depth - 1, by omega⟩
  obtain ⟨rounds, hrounds, hread⟩ := h depth power s hheight hbinds hleaves hsize
  obtain ⟨rounds, rfl⟩ : ∃ r, rounds = r + 1 := by
    rw [tokens, List.length_cons] at hrounds
    exact ⟨rounds - 1, by omega⟩
  rw [hread, climb_stops hstops]

theorem Tree.Readable.before {tree : Tree} (h : tree.Readable size) {depth power : Nat}
    {token : Token} {later : List Token} {s : Stream} (hheight : tree.height ≤ depth)
    (hbinds : tree.Binds power) (hnone : token.kind.leftPower? = none)
    (hsize : tree.yield.length + (later.length + 1 + s.tokens.length) ≤ size) :
    Read.expression size depth power (prepend (tree.yield ++ token :: later) s) =
      .ok (tree, prepend (token :: later) s) := by
  rw [prepend_append]
  refine h.whole hheight hbinds (leaves_of_none hnone) (stops_of_none hnone) ?_
  simp only [tokens_prepend, List.length_append, List.length_cons]
  omega

theorem Tree.binds_zero (tree : Tree) : tree.Binds 0 :=
  fun _ _ => Nat.zero_le _

theorem readable_of_term {tree : Tree}
    (h : ∀ depth s, tree.height ≤ depth + 1 → tree.Leaves s.current.kind →
      tree.yield.length + s.tokens.length ≤ size →
      Read.term (Read.expression size depth) size (prepend tree.yield s) = .ok (tree, s)) :
    tree.Readable size := by
  intro depth power s hheight _ hleaves hsize
  exact ⟨size, by omega, bind_run (h depth s hheight hleaves hsize)⟩

/-! ## Sequences and terms -/

section Terms

variable {sub : Nat → Parser Tree} {s : Stream}

theorem arguments_last {rounds : Nat} {item : Tree}
    (hitem : sub 2 (prepend item.yield s) = .ok (item, s)) (hkind : s.current.kind ≠ .comma) :
    Read.arguments sub (rounds + 1) (prepend item.yield s) = .ok (.last item, s) := by
  rw [Read.arguments, bind_run hitem, current_bind, if_neg hkind]
  rfl

theorem arguments_more {rounds : Nat} {item : Tree} {separator : Token} {rest : Items}
    (hitem : sub 2 (prepend (item.yield ++ separator :: rest.yield) s) =
      .ok (item, prepend (separator :: rest.yield) s))
    (hseparator : separator.kind = .comma)
    (hrest : Read.arguments sub rounds (prepend rest.yield s) = .ok (rest, s)) :
    Read.arguments sub (rounds + 1) (prepend (item.yield ++ separator :: rest.yield) s) =
      .ok (.more item separator rest, s) := by
  rw [Read.arguments, bind_run hitem, current_bind, current_prepend_cons, if_pos hseparator,
    bind_run (advance_prepend (by rw [hseparator]; decide) _ s)]
  exact bind_run hrest

theorem elements_none {rounds : Nat} (hkind : s.current.kind = .rbracket) :
    Read.elements sub (rounds + 1) s = .ok (.none, s) := by
  rw [Read.elements, current_bind, if_pos hkind]
  rfl

theorem elements_last {rounds : Nat} {item : Tree} (hvalid : item.Valid)
    (hitem : sub 0 (prepend item.yield s) = .ok (item, s)) (hkind : s.current.kind ≠ .dot) :
    Read.elements sub (rounds + 1) (prepend item.yield s) = .ok (.last item, s) := by
  have hfirst : (prepend item.yield s).current.kind ≠ .rbracket :=
    hvalid.starts.current_ne rfl rfl s
  rw [Read.elements, current_bind, if_neg hfirst, bind_run hitem, current_bind, if_neg hkind]
  rfl

theorem elements_more {rounds : Nat} {item : Tree} {separator : Token} {rest : Items}
    (hvalid : item.Valid)
    (hitem : sub 0 (prepend (item.yield ++ separator :: rest.yield) s) =
      .ok (item, prepend (separator :: rest.yield) s))
    (hseparator : separator.kind = .dot)
    (hrest : Read.elements sub rounds (prepend rest.yield s) = .ok (rest, s)) :
    Read.elements sub (rounds + 1) (prepend (item.yield ++ separator :: rest.yield) s) =
      .ok (.more item separator rest, s) := by
  rw [Read.elements, current_bind, if_neg ((hvalid.starts.append _).current_ne rfl rfl s),
    bind_run hitem,
    current_bind, current_prepend_cons, if_pos hseparator,
    bind_run (advance_prepend (by rw [hseparator]; decide) _ s)]
  exact bind_run hrest

theorem bindings_last {rounds : Nat} {name : Token} {value : Tree} (hname : name.kind = .name)
    (hvalue : sub 0 (prepend value.yield s) = .ok (value, s)) (hkind : s.current.kind ≠ .andWord) :
    Read.bindings sub (rounds + 1) (prepend (name :: value.yield) s) =
      .ok (.last name value, s) := by
  rw [Read.bindings, bind_run (expect_prepend _ hname (by decide) _ s), bind_run hvalue,
    current_bind, if_neg hkind]
  rfl

theorem bindings_more {rounds : Nat} {name joint : Token} {value : Tree} {rest : Bindings}
    (hname : name.kind = .name)
    (hvalue : sub 0 (prepend (value.yield ++ joint :: rest.yield) s) =
      .ok (value, prepend (joint :: rest.yield) s))
    (hjoint : joint.kind = .andWord)
    (hrest : Read.bindings sub rounds (prepend rest.yield s) = .ok (rest, s)) :
    Read.bindings sub (rounds + 1) (prepend (name :: (value.yield ++ joint :: rest.yield)) s) =
      .ok (.more name value joint rest, s) := by
  rw [Read.bindings, bind_run (expect_prepend _ hname (by decide) _ s), bind_run hvalue,
    current_bind, current_prepend_cons, if_pos hjoint,
    bind_run (advance_prepend (by rw [hjoint]; decide) _ s)]
  exact bind_run hrest

theorem call_empty {opening closing : Token} {callee : Tree} (hopening : opening.kind = .lparen)
    (hclosing : closing.kind = .rparen) :
    Read.call sub size callee (prepend [opening, closing] s) =
      .ok (.emptyCall callee opening closing, s) := by
  rw [Read.call, bind_run (expect_prepend _ hopening (by decide) _ s), current_bind,
    current_prepend_cons, if_pos hclosing]
  exact bind_run (advance_prepend (by rw [hclosing]; decide) [] s)

theorem call_arguments {opening closing : Token} {callee : Tree} {items : Items}
    (hopening : opening.kind = .lparen) (hclosing : closing.kind = .rparen)
    (hvalid : items.ValidArguments)
    (hitems : Read.arguments sub size (prepend (items.yield ++ [closing]) s) =
      .ok (items, prepend [closing] s)) :
    Read.call sub size callee (prepend (opening :: (items.yield ++ [closing])) s) =
      .ok (.call callee opening items closing, s) := by
  have hfirst : (prepend (items.yield ++ [closing]) s).current.kind ≠ .rparen :=
    (hvalid.starts.append _).current_ne rfl rfl s
  rw [Read.call, bind_run (expect_prepend _ hopening (by decide) _ s), current_bind, if_neg hfirst,
    bind_run hitems]
  exact bind_run (expect_prepend _ hclosing (by decide) [] s)

theorem term_number {token : Token} (h : token.kind = .number) :
    Read.term sub size (prepend [token] s) = .ok (.number token, s) := by
  rw [Read.term, current_bind, current_prepend_cons, h]
  exact bind_run (advance_prepend (by rw [h]; decide) [] s)

theorem term_string {token : Token} (h : token.kind = .string) :
    Read.term sub size (prepend [token] s) = .ok (.string token, s) := by
  rw [Read.term, current_bind, current_prepend_cons, h]
  exact bind_run (advance_prepend (by rw [h]; decide) [] s)

theorem term_name {token : Token} (h : token.kind = .name) :
    Read.term sub size (prepend [token] s) = .ok (.name token, s) := by
  rw [Read.term, current_bind, current_prepend_cons, h]
  exact bind_run (advance_prepend (by rw [h]; decide) [] s)

theorem term_unit {opening closing : Token} (hopening : opening.kind = .lparen)
    (hclosing : closing.kind = .rparen) :
    Read.term sub size (prepend [opening, closing] s) = .ok (.unit opening closing, s) := by
  rw [Read.term, current_bind, current_prepend_cons, hopening]
  simp only
  rw [Read.parenthesized, bind_run (advance_prepend (by rw [hopening]; decide) _ s), current_bind,
    current_prepend_cons, if_pos hclosing]
  exact bind_run (advance_prepend (by rw [hclosing]; decide) [] s)

theorem term_parens {opening closing : Token} {inner : Tree} (hopening : opening.kind = .lparen)
    (hclosing : closing.kind = .rparen) (hvalid : inner.Valid)
    (hinner : sub 0 (prepend (inner.yield ++ [closing]) s) = .ok (inner, prepend [closing] s)) :
    Read.term sub size (prepend (opening :: (inner.yield ++ [closing])) s) =
      .ok (.parens opening inner closing, s) := by
  have hfirst : (prepend (inner.yield ++ [closing]) s).current.kind ≠ .rparen :=
    (hvalid.starts.append _).current_ne rfl rfl s
  rw [Read.term, current_bind, current_prepend_cons, hopening]
  simp only
  rw [Read.parenthesized, bind_run (advance_prepend (by rw [hopening]; decide) _ s), current_bind,
    if_neg hfirst, bind_run hinner]
  exact bind_run (expect_prepend _ hclosing (by decide) [] s)

theorem term_array {opening closing : Token} {items : Items} (hopening : opening.kind = .lbracket)
    (hclosing : closing.kind = .rbracket)
    (hitems : Read.elements sub size (prepend (items.yield ++ [closing]) s) =
      .ok (items, prepend [closing] s)) :
    Read.term sub size (prepend (opening :: (items.yield ++ [closing])) s) =
      .ok (.array opening items closing, s) := by
  rw [Read.term, current_bind, current_prepend_cons, hopening]
  simp only
  rw [Read.array, bind_run (advance_prepend (by rw [hopening]; decide) _ s), bind_run hitems]
  exact bind_run (expect_prepend _ hclosing (by decide) [] s)

theorem term_function {opening parameter : Token} {body : Tree} (hopening : opening.kind = .atSign)
    (hparameter : parameter.kind = .name) (hbody : sub 0 (prepend body.yield s) = .ok (body, s)) :
    Read.term sub size (prepend (opening :: parameter :: body.yield) s) =
      .ok (.function opening parameter body, s) := by
  rw [Read.term, current_bind, current_prepend_cons, hopening]
  simp only
  rw [Read.function, bind_run (advance_prepend (by rw [hopening]; decide) _ s),
    bind_run (expect_prepend _ hparameter (by decide) _ s)]
  exact bind_run hbody

theorem term_sign {operator : Token} {operand : Tree}
    (hoperator : (Parse.signName operator.kind).isSome)
    (hoperand : sub 17 (prepend operand.yield s) = .ok (operand, s)) :
    Read.term sub size (prepend (operator :: operand.yield) s) =
      .ok (.sign operator operand, s) := by
  have hsign : Read.sign sub (prepend (operator :: operand.yield) s) =
      .ok (.sign operator operand, s) := by
    have heof : operator.kind ≠ .eof := by
      intro h
      rw [h] at hoperator
      cases hoperator
    rw [Read.sign, bind_run (advance_prepend heof _ s)]
    exact bind_run hoperand
  rw [Read.term, current_bind, current_prepend_cons]
  revert hoperator
  cases operator.kind with
  | plus | minus | bang => exact fun _ => hsign
  | _ => intro h; cases h

theorem term_block {opening joint : Token} {bindings : Bindings} {body : Tree}
    (hopening : opening.kind = .letWord) (hjoint : joint.kind = .inWord)
    (hbindings : Read.bindings sub size (prepend (bindings.yield ++ joint :: body.yield) s) =
      .ok (bindings, prepend (joint :: body.yield) s))
    (hbody : sub 0 (prepend body.yield s) = .ok (body, s)) :
    Read.term sub size (prepend (opening :: (bindings.yield ++ joint :: body.yield)) s) =
      .ok (.block opening bindings joint body, s) := by
  rw [Read.term, current_bind, current_prepend_cons, hopening]
  simp only
  rw [Read.block, bind_run (advance_prepend (by rw [hopening]; decide) _ s), bind_run hbindings,
    bind_run (expect_prepend _ hjoint (by decide) _ s)]
  exact bind_run hbody

theorem term_choice {opening first second : Token} {condition whenTrue whenFalse : Tree}
    (hopening : opening.kind = .ifWord) (hfirst : first.kind = .thenWord)
    (hsecond : second.kind = .elseWord)
    (hcondition : sub 0 (prepend (condition.yield ++ first :: (whenTrue.yield ++
      second :: whenFalse.yield)) s) =
        .ok (condition, prepend (first :: (whenTrue.yield ++ second :: whenFalse.yield)) s))
    (htrue : sub 0 (prepend (whenTrue.yield ++ second :: whenFalse.yield) s) =
      .ok (whenTrue, prepend (second :: whenFalse.yield) s))
    (hfalse : sub 0 (prepend whenFalse.yield s) = .ok (whenFalse, s)) :
    Read.term sub size (prepend (opening :: (condition.yield ++ first :: (whenTrue.yield ++
      second :: whenFalse.yield))) s) =
        .ok (.choice opening condition first whenTrue second whenFalse, s) := by
  rw [Read.term, current_bind, current_prepend_cons, hopening]
  simp only
  rw [Read.choice, bind_run (advance_prepend (by rw [hopening]; decide) _ s), bind_run hcondition,
    bind_run (expect_prepend _ hfirst (by decide) _ s), bind_run htrue,
    bind_run (expect_prepend _ hsecond (by decide) _ s)]
  exact bind_run hfalse

end Terms

/-! ## All valid trees -/

section Extensions

variable {left right : Tree}

/-- A tree that extends its left operand is readable if one step of extension leads to it. -/
theorem readable_of_climb {tree : Tree} {more : List Token}
    (hyield : tree.yield = left.yield ++ more) (hmore : 0 < more.length)
    (hleft : left.Readable size) (hheight : left.height ≤ tree.height)
    (hbinds : ∀ power, tree.Binds power → left.Binds power)
    (hleaves : ∀ s : Stream, left.Leaves (prepend more s).current.kind)
    (hclimb : ∀ depth power rounds s, tree.height ≤ depth + 1 → tree.Binds power →
      tree.Leaves s.current.kind → more.length + s.tokens.length ≤ size →
      Read.climb (Read.expression size depth) size power (rounds + 1) left (prepend more s) =
        Read.climb (Read.expression size depth) size power rounds tree s) :
    tree.Readable size := by
  intro depth power s htree hpower htaken hsize
  rw [hyield, List.length_append] at hsize
  obtain ⟨rounds, hrounds, hread⟩ := hleft depth power (prepend more s) (by omega)
    (hbinds power hpower) (hleaves s) (by simp only [tokens_prepend, List.length_append]; omega)
  rw [tokens_prepend, List.length_append] at hrounds
  obtain ⟨rounds, rfl⟩ : ∃ r, rounds = r + 1 := ⟨rounds - 1, by omega⟩
  refine ⟨rounds, by omega, ?_⟩
  rw [hyield, prepend_append, hread, hclimb depth power rounds s htree hpower htaken (by omega)]

theorem readable_binary {operator : Token} (h : (Tree.binary left operator right).Valid)
    (hleft : left.Readable size) (hright : right.Readable size) :
    (Tree.binary left operator right).Readable size := by
  obtain ⟨-, -, l, r, hpowers, hyields, hbinds⟩ := h
  have heof : operator.kind ≠ .eof := by
    intro heof
    rw [heof] at hpowers
    cases hpowers
  refine readable_of_climb rfl (Nat.succ_pos _) hleft (Nat.le_max_left _ _) ?_ ?_ ?_
  · exact fun power hpower q hq => hpower q (List.mem_append_right _ hq)
  · exact fun s => Tree.leaves_of_yields (TokenKind.leftPower?_operator hpowers) hyields
  · intro depth power rounds s hheight hpower hleaves hsize
    rw [Tree.height] at hheight
    rw [List.length_cons] at hsize
    have hl : power ≤ l := hpower l (by simp [Tree.leftPowers, hpowers])
    have hr : Stops r s.current.kind := hleaves r (by simp [Tree.rightPowers, hpowers])
    rw [climb_binary hpowers hl, bind_run (advance_prepend heof _ s)]
    refine bind_run (hright.whole (by omega) hbinds ?_ hr (by omega))
    exact fun q hq => hleaves q (List.mem_append_right _ hq)

theorem readable_comma {operator : Token} (h : (Tree.comma left operator right).Valid)
    (hleft : left.Readable size) (hright : right.Readable size) :
    (Tree.comma left operator right).Readable size := by
  obtain ⟨-, -, hkind, hyields, hbinds⟩ := h
  refine readable_of_climb rfl (Nat.succ_pos _) hleft (Nat.le_max_left _ _) ?_ ?_ ?_
  · exact fun power hpower q hq => hpower q (List.mem_cons_of_mem _ hq)
  · exact fun s => Tree.leaves_of_yields (by rw [current_prepend_cons, hkind]; rfl) hyields
  · intro depth power rounds s hheight hpower hleaves hsize
    rw [Tree.height] at hheight
    rw [List.length_cons] at hsize
    rw [climb_comma hkind (hpower 1 List.mem_cons_self),
      bind_run (advance_prepend (by rw [hkind]; decide) _ s)]
    refine bind_run (hright.whole (by omega) hbinds ?_ (hleaves 2 List.mem_cons_self) (by omega))
    exact fun q hq => hleaves q (List.mem_cons_of_mem _ hq)

theorem readable_juxtaposition (h : (Tree.juxtaposition left right).Valid)
    (hleft : left.Readable size) (hright : right.Readable size) :
    (Tree.juxtaposition left right).Readable size := by
  obtain ⟨-, -, hyields, hbinds, first, later, hyield, hstarts, hparen⟩ := h
  have hcurrent : ∀ s, (prepend right.yield s).current = first := by
    intro s
    rw [hyield, current_prepend_cons]
  refine readable_of_climb rfl right.yield_length_pos hleft (Nat.le_max_left _ _) ?_ ?_ ?_
  · exact fun power hpower q hq => hpower q (List.mem_cons_of_mem _ hq)
  · intro s
    rw [hcurrent]
    exact Tree.leaves_of_yields (TokenKind.leftPower?_juxtaposed hstarts hparen) hyields
  · intro depth power rounds s hheight hpower hleaves hsize
    rw [Tree.height] at hheight
    rw [climb_juxtaposition (by rwa [hcurrent]) (by rwa [hcurrent]) (hpower 20 List.mem_cons_self)]
    refine bind_run (hright.whole (by omega) hbinds ?_ (hleaves 19 List.mem_cons_self) hsize)
    exact fun q hq => hleaves q (List.mem_cons_of_mem _ hq)

theorem readable_emptyCall {opening closing : Token} (h : (Tree.emptyCall left opening closing).Valid)
    (hleft : left.Readable size) : (Tree.emptyCall left opening closing).Readable size := by
  obtain ⟨-, hyields, hopening, hclosing⟩ := h
  refine readable_of_climb rfl (Nat.succ_pos _) hleft (Nat.le_refl _) ?_ ?_ ?_
  · exact fun power hpower q hq => hpower q (List.mem_cons_of_mem _ hq)
  · exact fun s => Tree.leaves_of_yields (by rw [current_prepend_cons, hopening]; rfl) hyields
  · intro depth power rounds s _ hpower _ _
    rw [climb_call hopening (hpower 21 List.mem_cons_self)]
    exact bind_run (call_empty hopening hclosing)

theorem readable_call {opening closing : Token} {items : Items}
    (h : (Tree.call left opening items closing).Valid) (hleft : left.Readable size)
    (hitems : ∀ depth s, items.height ≤ depth → items.yield.length + 1 + s.tokens.length ≤ size →
      Read.arguments (Read.expression size depth) size (prepend (items.yield ++ [closing]) s) =
        .ok (items, prepend [closing] s)) :
    (Tree.call left opening items closing).Readable size := by
  obtain ⟨-, hyields, hopening, hvalid, hclosing⟩ := h
  refine readable_of_climb rfl (Nat.succ_pos _) hleft (Nat.le_max_left _ _) ?_ ?_ ?_
  · exact fun power hpower q hq => hpower q (List.mem_cons_of_mem _ hq)
  · exact fun s => Tree.leaves_of_yields (by rw [current_prepend_cons, hopening]; rfl) hyields
  · intro depth power rounds s hheight hpower _ hsize
    rw [Tree.height] at hheight
    simp only [List.length_cons, List.length_append, List.length_nil] at hsize
    rw [climb_call hopening (hpower 21 List.mem_cons_self)]
    exact bind_run (call_arguments hopening hclosing hvalid (hitems depth s (by omega) (by omega)))

end Extensions

mutual

/-- The tokens of a valid tree are read as that tree. -/
theorem readable (tree : Tree) (h : tree.Valid) : tree.Readable size := by
  match tree, h with
  | .number token, h => exact readable_of_term fun depth s _ _ _ => term_number h
  | .string token, h => exact readable_of_term fun depth s _ _ _ => term_string h
  | .name token, h => exact readable_of_term fun depth s _ _ _ => term_name h
  | .unit opening closing, h => exact readable_of_term fun depth s _ _ _ => term_unit h.1 h.2
  | .parens opening inner closing, ⟨hopening, hinner, hclosing⟩ =>
      refine readable_of_term fun depth s hheight _ hsize => ?_
      simp only [Tree.height, Tree.yield, List.length_cons, List.length_append, List.length_nil]
        at hheight hsize
      refine term_parens hopening hclosing hinner ?_
      exact (readable inner hinner).before (by omega) inner.binds_zero (by rw [hclosing]; rfl)
        (by rw [List.length_nil]; omega)
  | .array opening items closing, ⟨hopening, hitems, hclosing⟩ =>
      refine readable_of_term fun depth s hheight _ hsize => ?_
      simp only [Tree.height, Tree.yield, List.length_cons, List.length_append, List.length_nil]
        at hheight hsize
      refine term_array hopening hclosing ?_
      rw [prepend_append]
      refine elements_readable items hitems hclosing (by omega) ?_ (by omega)
      simp only [tokens_prepend, List.length_append, List.length_cons, List.length_nil]
      omega
  | .function opening parameter body, ⟨hopening, hparameter, hbody⟩ =>
      refine readable_of_term fun depth s hheight hleaves hsize => ?_
      simp only [Tree.height, Tree.yield, List.length_cons] at hheight hsize
      refine term_function hopening hparameter ?_
      exact (readable body hbody).whole (by omega) body.binds_zero
        (fun q hq => hleaves q (List.mem_cons_of_mem _ hq)) (hleaves 0 List.mem_cons_self) (by omega)
  | .sign operator operand, ⟨hoperator, hoperand, hbinds⟩ =>
      refine readable_of_term fun depth s hheight hleaves hsize => ?_
      simp only [Tree.height, Tree.yield, List.length_cons] at hheight hsize
      refine term_sign hoperator ?_
      exact (readable operand hoperand).whole (by omega) hbinds
        (fun q hq => hleaves q (List.mem_cons_of_mem _ hq)) (hleaves 17 List.mem_cons_self)
        (by omega)
  | .block opening bindings joint body, ⟨hopening, hbindings, hjoint, hbody⟩ =>
      refine readable_of_term fun depth s hheight hleaves hsize => ?_
      simp only [Tree.height, Tree.yield, List.length_cons, List.length_append] at hheight hsize
      refine term_block hopening hjoint ?_ ?_
      · rw [prepend_append]
        refine bindings_readable bindings hbindings hjoint (by omega) ?_ (by omega)
        simp only [tokens_prepend, List.length_append, List.length_cons]
        omega
      · exact (readable body hbody).whole (by omega) body.binds_zero
          (fun q hq => hleaves q (List.mem_cons_of_mem _ hq)) (hleaves 0 List.mem_cons_self)
          (by omega)
  | .choice opening condition first whenTrue second whenFalse,
      ⟨hopening, hcondition, hfirst, htrue, hsecond, hfalse⟩ =>
      refine readable_of_term fun depth s hheight hleaves hsize => ?_
      simp only [Tree.height, Tree.yield, List.length_cons, List.length_append] at hheight hsize
      refine term_choice hopening hfirst hsecond ?_ ?_ ?_
      · exact (readable condition hcondition).before (by omega) condition.binds_zero
          (by rw [hfirst]; rfl) (by simp only [List.length_append, List.length_cons]; omega)
      · exact (readable whenTrue htrue).before (by omega) whenTrue.binds_zero
          (by rw [hsecond]; rfl) (by omega)
      · exact (readable whenFalse hfalse).whole (by omega) whenFalse.binds_zero
          (fun q hq => hleaves q (List.mem_cons_of_mem _ hq)) (hleaves 0 List.mem_cons_self)
          (by omega)
  | .binary left operator right, h =>
      exact readable_binary h (readable left h.1) (readable right h.2.1)
  | .comma left operator right, h =>
      exact readable_comma h (readable left h.1) (readable right h.2.1)
  | .juxtaposition left right, h =>
      exact readable_juxtaposition h (readable left h.1) (readable right h.2.1)
  | .emptyCall callee opening closing, h => exact readable_emptyCall h (readable callee h.1)
  | .call callee opening items closing, h =>
      refine readable_call h (readable callee h.1) fun depth s hheight hsize => ?_
      rw [prepend_append]
      refine arguments_readable items h.2.2.2.1 h.2.2.2.2 hheight ?_ (by omega)
      simp only [tokens_prepend, List.length_append, List.length_cons, List.length_nil]
      omega

theorem arguments_readable (items : Items) (h : items.ValidArguments) {depth rounds : Nat}
    {s : Stream} (hkind : s.current.kind = .rparen) (hheight : items.height ≤ depth)
    (hsize : items.yield.length + s.tokens.length ≤ size) (hrounds : items.yield.length < rounds) :
    Read.arguments (Read.expression size depth) rounds (prepend items.yield s) =
      .ok (items, s) := by
  obtain ⟨rounds, rfl⟩ : ∃ r, rounds = r + 1 := ⟨rounds - 1, by omega⟩
  match items, h with
  | .last item, ⟨hitem, hbinds⟩ =>
      have hnone : s.current.kind.leftPower? = none := by
        rw [hkind]
        rfl
      refine arguments_last ?_ (by rw [hkind]; decide)
      exact (readable item hitem).whole hheight hbinds (Tree.leaves_of_none hnone)
        (stops_of_none hnone) hsize
  | .more item separator rest, ⟨hitem, hbinds, hseparator, hyields, hrest⟩ =>
      simp only [Items.height, Items.yield, List.length_append, List.length_cons]
        at hheight hsize hrounds
      have hpower : separator.kind.leftPower? = some 1 := by
        rw [hseparator]
        rfl
      refine arguments_more ?_ hseparator ?_
      · rw [prepend_append]
        refine (readable item hitem).whole (by omega) hbinds ?_ ?_ ?_
        · exact Tree.leaves_of_yields hpower hyields
        · intro left hleft
          obtain rfl : 1 = left := Option.some.inj (hpower.symm.trans hleft)
          decide
        · simp only [tokens_prepend, List.length_append, List.length_cons]
          omega
      · exact arguments_readable rest hrest hkind (by omega) (by omega) (by omega)

theorem elements_readable (items : Items) (h : items.ValidElements) {depth rounds : Nat}
    {s : Stream} (hkind : s.current.kind = .rbracket) (hheight : items.height ≤ depth)
    (hsize : items.yield.length + s.tokens.length ≤ size) (hrounds : items.yield.length < rounds) :
    Read.elements (Read.expression size depth) rounds (prepend items.yield s) = .ok (items, s) := by
  obtain ⟨rounds, rfl⟩ : ∃ r, rounds = r + 1 := ⟨rounds - 1, by omega⟩
  match items, h with
  | .none, _ => exact elements_none hkind
  | .last item, hitem =>
      have hnone : s.current.kind.leftPower? = none := by
        rw [hkind]
        rfl
      refine elements_last hitem ?_ (by rw [hkind]; decide)
      exact (readable item hitem).whole hheight item.binds_zero (Tree.leaves_of_none hnone)
        (stops_of_none hnone) hsize
  | .more item separator rest, ⟨hitem, hseparator, hrest⟩ =>
      simp only [Items.height, Items.yield, List.length_append, List.length_cons]
        at hheight hsize hrounds
      refine elements_more hitem ?_ hseparator ?_
      · exact (readable item hitem).before (by omega) item.binds_zero (by rw [hseparator]; rfl)
          (by omega)
      · exact elements_readable rest hrest hkind (by omega) (by omega) (by omega)

theorem bindings_readable (bindings : Bindings) (h : bindings.Valid) {depth rounds : Nat}
    {s : Stream} (hkind : s.current.kind = .inWord) (hheight : bindings.height ≤ depth)
    (hsize : bindings.yield.length + s.tokens.length ≤ size)
    (hrounds : bindings.yield.length < rounds) :
    Read.bindings (Read.expression size depth) rounds (prepend bindings.yield s) =
      .ok (bindings, s) := by
  obtain ⟨rounds, rfl⟩ : ∃ r, rounds = r + 1 := ⟨rounds - 1, by omega⟩
  match bindings, h with
  | .last name value, ⟨hname, hvalue⟩ =>
      simp only [Bindings.height, Bindings.yield, List.length_cons] at hheight hsize hrounds
      have hnone : s.current.kind.leftPower? = none := by
        rw [hkind]
        rfl
      refine bindings_last hname ?_ (by rw [hkind]; decide)
      exact (readable value hvalue).whole hheight value.binds_zero (Tree.leaves_of_none hnone)
        (stops_of_none hnone) (by omega)
  | .more name value joint rest, ⟨hname, hvalue, hjoint, hrest⟩ =>
      simp only [Bindings.height, Bindings.yield, List.length_append, List.length_cons]
        at hheight hsize hrounds
      refine bindings_more hname ?_ hjoint ?_
      · exact (readable value hvalue).before (by omega) value.binds_zero (by rw [hjoint]; rfl)
          (by omega)
      · exact bindings_readable rest hrest hkind (by omega) (by omega) (by omega)

end

end RollScript
