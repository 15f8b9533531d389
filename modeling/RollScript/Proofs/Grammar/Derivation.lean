import RollScript.Proofs.Grammar.Acceptance

/-!
# What is read is valid

Read `expression_derives` first: whenever an expression is read, the tokens that were taken are those
of the tree, the tree is valid, and the next token does not continue it. One lemma for each loop of the
reader says the same of the sequence that it reads.
-/

namespace RollScript

open RollScript.Parser
open RollScript.Stream

/-- A tree was taken from a stream: its tokens stood at the front, the tree is valid, its nesting stays
within a depth, and no node that is open on the right takes what comes next. -/
structure Taken (depth : Nat) (s : Stream) (tree : Tree) (later : Stream) : Prop where
  source : s = prepend tree.yield later
  proper : later.Proper
  valid : tree.Valid
  leaves : tree.Leaves later.current.kind
  height : tree.height ≤ depth

/-- A reader of expressions takes trees that bind as strongly as the bound it is given, as far as
there is anything to take. -/
def Derives (depth : Nat) (sub : Nat → Parser Tree) : Prop :=
  ∀ power s tree later, s.Proper → sub power s = .ok (tree, later) →
    Taken depth s tree later ∧ tree.Binds power ∧ Stops power later.current.kind

section Derives

variable {depth size : Nat} {sub : Nat → Parser Tree} {s later : Stream}

/-! ## Sequences -/

theorem arguments_derives (hsub : Derives depth sub) (hproper : s.Proper) {rounds : Nat}
    {items : Items} (h : Read.arguments sub rounds s = .ok (items, later)) :
    s = prepend items.yield later ∧ later.Proper ∧ items.ValidArguments ∧ items.height ≤ depth := by
  induction rounds generalizing s items with
  | zero => cases h
  | succ rounds ih =>
      rw [Read.arguments] at h
      obtain ⟨item, between, hitem, h⟩ := bind_eq_ok.1 h
      obtain ⟨htaken, hbinds, hstops⟩ := hsub _ _ _ _ hproper hitem
      rw [current_bind] at h
      split at h
      · next hkind =>
          obtain ⟨separator, after, hadvance, h⟩ := bind_eq_ok.1 h
          obtain ⟨rfl, hbetween, hafter⟩ :=
            advance_inv htaken.proper (by rw [hkind]; decide) hadvance
          obtain ⟨rest, later', hrest, h⟩ := bind_eq_ok.1 h
          cases h
          obtain ⟨hsource, hlater, hvalid, hheight⟩ := ih hafter hrest
          refine ⟨?_, hlater, ⟨htaken.valid, hbinds, hkind, ?_, hvalid⟩, ?_⟩
          · rw [Items.yield, prepend_append, prepend_cons, ← hsource, ← hbetween, ← htaken.source]
          · intro right hright
            exact htaken.leaves right hright 1 (by rw [hkind]; rfl)
          · exact Nat.max_le.2 ⟨htaken.height, hheight⟩
      · cases h
        exact ⟨htaken.source, htaken.proper, ⟨htaken.valid, hbinds⟩, htaken.height⟩

theorem elements_derives (hsub : Derives depth sub) (hproper : s.Proper) {rounds : Nat}
    {items : Items} (h : Read.elements sub rounds s = .ok (items, later)) :
    s = prepend items.yield later ∧ later.Proper ∧ items.ValidElements ∧ items.height ≤ depth := by
  induction rounds generalizing s items with
  | zero => cases h
  | succ rounds ih =>
      rw [Read.elements, current_bind] at h
      split at h
      · cases h
        exact ⟨rfl, hproper, trivial, Nat.zero_le _⟩
      · obtain ⟨item, between, hitem, h⟩ := bind_eq_ok.1 h
        obtain ⟨htaken, -, -⟩ := hsub _ _ _ _ hproper hitem
        rw [current_bind] at h
        split at h
        · next hkind =>
            obtain ⟨separator, after, hadvance, h⟩ := bind_eq_ok.1 h
            obtain ⟨rfl, hbetween, hafter⟩ :=
              advance_inv htaken.proper (by rw [hkind]; decide) hadvance
            obtain ⟨rest, later', hrest, h⟩ := bind_eq_ok.1 h
            cases h
            obtain ⟨hsource, hlater, hvalid, hheight⟩ := ih hafter hrest
            refine ⟨?_, hlater, ⟨htaken.valid, hkind, hvalid⟩, ?_⟩
            · rw [Items.yield, prepend_append, prepend_cons, ← hsource, ← hbetween,
                ← htaken.source]
            · exact Nat.max_le.2 ⟨htaken.height, hheight⟩
        · cases h
          exact ⟨htaken.source, htaken.proper, htaken.valid, htaken.height⟩

theorem bindings_derives (hsub : Derives depth sub) (hproper : s.Proper) {rounds : Nat}
    {bindings : Bindings} (h : Read.bindings sub rounds s = .ok (bindings, later)) :
    s = prepend bindings.yield later ∧ later.Proper ∧ bindings.Valid ∧
      bindings.height ≤ depth := by
  induction rounds generalizing s bindings with
  | zero => cases h
  | succ rounds ih =>
      rw [Read.bindings] at h
      obtain ⟨name, named, hname, h⟩ := bind_eq_ok.1 h
      obtain ⟨hkindName, hs, hnamed⟩ := expect_inv hproper (by decide) hname
      obtain ⟨value, between, hvalue, h⟩ := bind_eq_ok.1 h
      obtain ⟨htaken, -, -⟩ := hsub _ _ _ _ hnamed hvalue
      rw [current_bind] at h
      split at h
      · next hkind =>
          obtain ⟨joint, after, hadvance, h⟩ := bind_eq_ok.1 h
          obtain ⟨rfl, hbetween, hafter⟩ :=
            advance_inv htaken.proper (by rw [hkind]; decide) hadvance
          obtain ⟨rest, later', hrest, h⟩ := bind_eq_ok.1 h
          cases h
          obtain ⟨hsource, hlater, hvalid, hheight⟩ := ih hafter hrest
          refine ⟨?_, hlater, ⟨hkindName, htaken.valid, hkind, hvalid⟩, ?_⟩
          · rw [Bindings.yield, prepend_cons, prepend_append, prepend_cons between.current,
              ← hsource, ← hbetween, ← htaken.source, ← hs]
          · exact Nat.max_le.2 ⟨htaken.height, hheight⟩
      · cases h
        refine ⟨?_, htaken.proper, ⟨hkindName, htaken.valid⟩, htaken.height⟩
        rw [Bindings.yield, prepend_cons, ← htaken.source, ← hs]

/-! ## Terms -/

theorem Taken.of_closed {tree : Tree} (hs : s = prepend tree.yield later) (hlater : later.Proper)
    (hvalid : tree.Valid) (hclosed : tree.rightPowers = []) (hheight : tree.height ≤ depth) :
    Taken depth s tree later := by
  refine ⟨hs, hlater, hvalid, ?_, hheight⟩
  intro right hright
  rw [hclosed] at hright
  cases hright

/-- Nothing after the last part of a tree is taken by the tree itself. -/
theorem Tree.leaves_cons {tree part : Tree} {power : Nat} {kind : TokenKind}
    (h : tree.rightPowers = power :: part.rightPowers) (hstops : Stops power kind)
    (hleaves : part.Leaves kind) : tree.Leaves kind := by
  intro right hright
  rw [h] at hright
  rcases List.mem_cons.1 hright with rfl | hright
  · exact hstops
  · exact hleaves right hright

theorem parenthesized_derives (hsub : Derives depth sub) (hproper : s.Proper) {tree : Tree}
    (hkind : s.current.kind = .lparen) (h : Read.parenthesized sub s = .ok (tree, later)) :
    Taken (depth + 1) s tree later ∧ tree.leftPowers = [] := by
  rw [Read.parenthesized] at h
  obtain ⟨opening, inside, hadvance, h⟩ := bind_eq_ok.1 h
  obtain ⟨rfl, hs, hinside⟩ := advance_inv hproper (by rw [hkind]; decide) hadvance
  rw [current_bind] at h
  split at h
  · next hclosing =>
      obtain ⟨closing, after, hadvance, h⟩ := bind_eq_ok.1 h
      obtain ⟨rfl, hafter, hproper'⟩ := advance_inv hinside (by rw [hclosing]; decide) hadvance
      cases h
      refine ⟨.of_closed ?_ hproper' ⟨hkind, hclosing⟩ rfl (Nat.le_add_left _ _), rfl⟩
      rw [Tree.yield, prepend_cons, ← hafter, ← hs]
  · obtain ⟨inner, between, hinner, h⟩ := bind_eq_ok.1 h
    obtain ⟨htaken, -, -⟩ := hsub _ _ _ _ hinside hinner
    obtain ⟨closing, after, hexpect, h⟩ := bind_eq_ok.1 h
    obtain ⟨hclosing, hbetween, hproper'⟩ := expect_inv htaken.proper (by decide) hexpect
    cases h
    refine ⟨.of_closed ?_ hproper' ⟨hkind, htaken.valid, hclosing⟩ rfl
      (Nat.add_le_add_right htaken.height 1), rfl⟩
    rw [Tree.yield, prepend_cons, prepend_append, ← hbetween, ← htaken.source, ← hs]

theorem array_derives (hsub : Derives depth sub) (hproper : s.Proper) {tree : Tree}
    (hkind : s.current.kind = .lbracket) (h : Read.array sub size s = .ok (tree, later)) :
    Taken (depth + 1) s tree later ∧ tree.leftPowers = [] := by
  rw [Read.array] at h
  obtain ⟨opening, inside, hadvance, h⟩ := bind_eq_ok.1 h
  obtain ⟨rfl, hs, hinside⟩ := advance_inv hproper (by rw [hkind]; decide) hadvance
  obtain ⟨items, between, hitems, h⟩ := bind_eq_ok.1 h
  obtain ⟨hsource, hproper', hvalid, hheight⟩ := elements_derives hsub hinside hitems
  obtain ⟨closing, after, hexpect, h⟩ := bind_eq_ok.1 h
  obtain ⟨hclosing, hbetween, hafter⟩ := expect_inv hproper' (by decide) hexpect
  cases h
  refine ⟨.of_closed ?_ hafter ⟨hkind, hvalid, hclosing⟩ rfl (Nat.add_le_add_right hheight 1), rfl⟩
  rw [Tree.yield, prepend_cons, prepend_append, ← hbetween, ← hsource, ← hs]

theorem function_derives (hsub : Derives depth sub) (hproper : s.Proper) {tree : Tree}
    (hkind : s.current.kind = .atSign) (h : Read.function sub s = .ok (tree, later)) :
    Taken (depth + 1) s tree later ∧ tree.leftPowers = [] := by
  rw [Read.function] at h
  obtain ⟨opening, inside, hadvance, h⟩ := bind_eq_ok.1 h
  obtain ⟨rfl, hs, hinside⟩ := advance_inv hproper (by rw [hkind]; decide) hadvance
  obtain ⟨parameter, between, hexpect, h⟩ := bind_eq_ok.1 h
  obtain ⟨hparameter, hinside', hbetween⟩ := expect_inv hinside (by decide) hexpect
  obtain ⟨body, after, hbody, h⟩ := bind_eq_ok.1 h
  obtain ⟨htaken, -, hstops⟩ := hsub _ _ _ _ hbetween hbody
  cases h
  refine ⟨⟨?_, htaken.proper, ⟨hkind, hparameter, htaken.valid⟩, ?_,
    Nat.add_le_add_right htaken.height 1⟩, rfl⟩
  · rw [Tree.yield, prepend_cons, prepend_cons parameter, ← htaken.source, ← hinside', ← hs]
  · exact Tree.leaves_cons rfl hstops htaken.leaves

theorem block_derives (hsub : Derives depth sub) (hproper : s.Proper) {tree : Tree}
    (hkind : s.current.kind = .letWord) (h : Read.block sub size s = .ok (tree, later)) :
    Taken (depth + 1) s tree later ∧ tree.leftPowers = [] := by
  rw [Read.block] at h
  obtain ⟨opening, inside, hadvance, h⟩ := bind_eq_ok.1 h
  obtain ⟨rfl, hs, hinside⟩ := advance_inv hproper (by rw [hkind]; decide) hadvance
  obtain ⟨bindings, between, hbindings, h⟩ := bind_eq_ok.1 h
  obtain ⟨hsource, hproper', hvalid, hheight⟩ := bindings_derives hsub hinside hbindings
  obtain ⟨joint, joined, hexpect, h⟩ := bind_eq_ok.1 h
  obtain ⟨hjoint, hbetween, hjoined⟩ := expect_inv hproper' (by decide) hexpect
  obtain ⟨body, after, hbody, h⟩ := bind_eq_ok.1 h
  obtain ⟨htaken, -, hstops⟩ := hsub _ _ _ _ hjoined hbody
  cases h
  refine ⟨⟨?_, htaken.proper, ⟨hkind, hvalid, hjoint, htaken.valid⟩, ?_,
    Nat.add_le_add_right (Nat.max_le.2 ⟨hheight, htaken.height⟩) 1⟩, rfl⟩
  · rw [Tree.yield, prepend_cons, prepend_append, prepend_cons joint, ← htaken.source, ← hbetween,
      ← hsource, ← hs]
  · exact Tree.leaves_cons rfl hstops htaken.leaves

theorem choice_derives (hsub : Derives depth sub) (hproper : s.Proper) {tree : Tree}
    (hkind : s.current.kind = .ifWord) (h : Read.choice sub s = .ok (tree, later)) :
    Taken (depth + 1) s tree later ∧ tree.leftPowers = [] := by
  rw [Read.choice] at h
  obtain ⟨opening, inside, hadvance, h⟩ := bind_eq_ok.1 h
  obtain ⟨rfl, hs, hinside⟩ := advance_inv hproper (by rw [hkind]; decide) hadvance
  obtain ⟨condition, s₁, hcondition, h⟩ := bind_eq_ok.1 h
  obtain ⟨htaken₁, -, -⟩ := hsub _ _ _ _ hinside hcondition
  obtain ⟨first, s₂, hexpect, h⟩ := bind_eq_ok.1 h
  obtain ⟨hfirst, hs₁, hproper₂⟩ := expect_inv htaken₁.proper (by decide) hexpect
  obtain ⟨whenTrue, s₃, htrue, h⟩ := bind_eq_ok.1 h
  obtain ⟨htaken₂, -, -⟩ := hsub _ _ _ _ hproper₂ htrue
  obtain ⟨second, s₄, hexpect, h⟩ := bind_eq_ok.1 h
  obtain ⟨hsecond, hs₃, hproper₄⟩ := expect_inv htaken₂.proper (by decide) hexpect
  obtain ⟨whenFalse, s₅, hfalse, h⟩ := bind_eq_ok.1 h
  obtain ⟨htaken₃, -, hstops⟩ := hsub _ _ _ _ hproper₄ hfalse
  cases h
  refine ⟨⟨?_, htaken₃.proper,
    ⟨hkind, htaken₁.valid, hfirst, htaken₂.valid, hsecond, htaken₃.valid⟩, ?_, ?_⟩, rfl⟩
  · rw [Tree.yield, prepend_cons, prepend_append, prepend_cons first, prepend_append,
      prepend_cons second, ← htaken₃.source, ← hs₃, ← htaken₂.source, ← hs₁, ← htaken₁.source, ← hs]
  · exact Tree.leaves_cons rfl hstops htaken₃.leaves
  · exact Nat.add_le_add_right
      (Nat.max_le.2 ⟨htaken₁.height, Nat.max_le.2 ⟨htaken₂.height, htaken₃.height⟩⟩) 1

theorem sign_derives (hsub : Derives depth sub) (hproper : s.Proper) {tree : Tree}
    (hkind : (Parse.signName s.current.kind).isSome) (h : Read.sign sub s = .ok (tree, later)) :
    Taken (depth + 1) s tree later ∧ tree.leftPowers = [] := by
  have heof : s.current.kind ≠ .eof := by
    intro heof
    rw [heof] at hkind
    cases hkind
  rw [Read.sign] at h
  obtain ⟨operator, inside, hadvance, h⟩ := bind_eq_ok.1 h
  obtain ⟨rfl, hs, hinside⟩ := advance_inv hproper heof hadvance
  obtain ⟨operand, after, hoperand, h⟩ := bind_eq_ok.1 h
  obtain ⟨htaken, hbinds, hstops⟩ := hsub _ _ _ _ hinside hoperand
  cases h
  refine ⟨⟨?_, htaken.proper, ⟨hkind, htaken.valid, hbinds⟩, ?_,
    Nat.add_le_add_right htaken.height 1⟩, rfl⟩
  · rw [Tree.yield, prepend_cons, ← htaken.source, ← hs]
  · exact Tree.leaves_cons rfl hstops htaken.leaves

/-- A token that is a tree by itself. -/
theorem leaf_derives (hproper : s.Proper) {leaf tree : Tree} (heof : s.current.kind ≠ .eof)
    (h : (advance >>= fun _ => (pure leaf : Parser Tree)) s = .ok (tree, later))
    (hyield : leaf.yield = [s.current]) (hvalid : leaf.Valid) (hleft : leaf.leftPowers = [])
    (hright : leaf.rightPowers = []) (hheight : leaf.height = 1) :
    Taken (depth + 1) s tree later ∧ tree.leftPowers = [] := by
  obtain ⟨token, after, hadvance, h⟩ := bind_eq_ok.1 h
  obtain ⟨rfl, hs, hafter⟩ := advance_inv hproper heof hadvance
  cases h
  exact ⟨.of_closed (by rw [hyield, ← hs]) hafter hvalid hright (by omega), hleft⟩

theorem term_derives (hsub : Derives depth sub) (hproper : s.Proper) {tree : Tree}
    (h : Read.term sub size s = .ok (tree, later)) :
    Taken (depth + 1) s tree later ∧ tree.leftPowers = [] := by
  rw [Read.term, current_bind] at h
  cases hkind : s.current.kind <;> rw [hkind] at h
  case number | string | name =>
      exact leaf_derives hproper (by rw [hkind]; decide) h rfl hkind rfl rfl rfl
  case lparen => exact parenthesized_derives hsub hproper hkind h
  case lbracket => exact array_derives hsub hproper hkind h
  case atSign => exact function_derives hsub hproper hkind h
  case letWord => exact block_derives hsub hproper hkind h
  case ifWord => exact choice_derives hsub hproper hkind h
  case plus | minus | bang => exact sign_derives hsub hproper (by rw [hkind]; rfl) h
  all_goals cases h

/-! ## Extensions and expressions -/

/-- What has been read so far, when a tree is extended by what follows. -/
structure Extends (depth power : Nat) (tree : Tree) (s : Stream) : Prop where
  proper : s.Proper
  valid : tree.Valid
  binds : tree.Binds power
  leaves : tree.Leaves s.current.kind
  height : tree.height ≤ depth + 1

/-- Tokens at the front of a stream extend a tree to another one. -/
def Grows (depth power : Nat) (left : Tree) (s : Stream) (tree : Tree) (later : Stream) : Prop :=
  ∃ taken, s = prepend taken later ∧ tree.yield = left.yield ++ taken ∧ Extends depth power tree later

section Extends

variable {power l q : Nat} {left right tree : Tree} {between after : Stream} {token : Token}

theorem Grows.result (h : Grows depth power left s tree later) : Extends depth power tree later := by
  obtain ⟨-, -, -, h⟩ := h
  exact h

theorem Grows.shorter (h : Grows depth power left s tree later)
    (hlength : left.yield.length < tree.yield.length) : later.tokens.length < s.tokens.length := by
  obtain ⟨taken, hs, hyield, -⟩ := h
  rw [length_tokens hs]
  rw [hyield, List.length_append] at hlength
  omega

theorem Grows.trans (h : Grows depth power left s tree between) {final : Tree}
    (h' : Grows depth power tree between final later) : Grows depth power left s final later := by
  obtain ⟨taken, hs, hyield, -⟩ := h
  obtain ⟨more, hbetween, hfinal, hextends⟩ := h'
  refine ⟨taken ++ more, ?_, ?_, hextends⟩
  · rw [prepend_append, ← hbetween, ← hs]
  · rw [hfinal, hyield, List.append_assoc]

/-- A node that takes the next token for its operator has a left operand with nothing to take it. -/
theorem Extends.yields (hleft : Extends depth power left s)
    (hkind : s.current.kind.leftPower? = some l) : left.Yields l :=
  fun right hright => hleft.leaves right hright l hkind

/-- A node on top of a left operand binds as strongly as its own left power allows. -/
theorem Extends.binds_cons (hleft : Extends depth power left s) (hpower : power ≤ l)
    (hpowers : tree.leftPowers = l :: left.leftPowers) : tree.Binds power := by
  intro m hm
  rw [hpowers] at hm
  rcases List.mem_cons.1 hm with rfl | hm
  · exact hpower
  · exact hleft.binds m hm

/-- What an extension by an operator and its right operand leaves to be extended. -/
theorem Extends.operate (hleft : Extends depth power left s) (hpower : power ≤ l)
    (hright : Taken depth between right later) (hstops : Stops q later.current.kind)
    (hvalid : tree.Valid) (hleftPowers : tree.leftPowers = l :: left.leftPowers)
    (hrightPowers : tree.rightPowers = q :: right.rightPowers)
    (hheight : tree.height = max left.height (right.height + 1)) :
    Extends depth power tree later := by
  refine ⟨hright.proper, hvalid, hleft.binds_cons hpower hleftPowers,
    Tree.leaves_cons hrightPowers hstops hright.leaves, ?_⟩
  rw [hheight]
  exact Nat.max_le.2 ⟨hleft.height, Nat.add_le_add_right hright.height 1⟩

theorem grows_call (hsub : Derives depth sub) (hleft : Extends depth power left s)
    (hpower : power ≤ 21) (h : Read.call sub size left s = .ok (tree, later)) :
    Grows depth power left s tree later ∧ left.yield.length < tree.yield.length := by
  rw [Read.call] at h
  obtain ⟨opening, inside, hexpect, h⟩ := bind_eq_ok.1 h
  obtain ⟨hopening, hs, hinside⟩ := expect_inv hleft.proper (by decide) hexpect
  have hyields : left.Yields 21 := by
    refine hleft.yields ?_
    rw [hs, current_prepend_cons, hopening]
    rfl
  -- A call is closed on the right.
  have hextends : ∀ {node : Tree} {after : Stream}, after.Proper → node.Valid →
      node.leftPowers = 21 :: left.leftPowers → node.rightPowers = [] → node.height ≤ depth + 1 →
      Extends depth power node after := by
    intro node after hafter hvalid hpowers hclosed hheight
    refine ⟨hafter, hvalid, hleft.binds_cons hpower hpowers, ?_, hheight⟩
    intro right hright
    rw [hclosed] at hright
    cases hright
  rw [current_bind] at h
  split at h
  · next hclosing =>
      obtain ⟨closing, after, hadvance, h⟩ := bind_eq_ok.1 h
      obtain ⟨rfl, hafter, hproper⟩ := advance_inv hinside (by rw [hclosing]; decide) hadvance
      cases h
      refine ⟨⟨[opening, inside.current], ?_, rfl, hextends hproper
        ⟨hleft.valid, hyields, hopening, hclosing⟩ rfl rfl hleft.height⟩, by simp [Tree.yield]⟩
      rw [prepend_cons, ← hafter, ← hs]
  · obtain ⟨items, between, hitems, h⟩ := bind_eq_ok.1 h
    obtain ⟨hsource, hproper, hvalid, hheight⟩ := arguments_derives hsub hinside hitems
    obtain ⟨closing, after, hexpect, h⟩ := bind_eq_ok.1 h
    obtain ⟨hclosing, hbetween, hafter⟩ := expect_inv hproper (by decide) hexpect
    cases h
    refine ⟨⟨opening :: (items.yield ++ [closing]), ?_, rfl, hextends hafter
      ⟨hleft.valid, hyields, hopening, hvalid, hclosing⟩ rfl rfl
      (Nat.max_le.2 ⟨hleft.height, Nat.add_le_add_right hheight 1⟩)⟩, by simp [Tree.yield]⟩
    rw [prepend_cons, prepend_append, ← hbetween, ← hsource, ← hs]

theorem grows_comma (hsub : Derives depth sub) (hleft : Extends depth power left s)
    (hkind : s.current.kind = .comma) (hpower : power ≤ 1)
    (hadvance : advance s = .ok (token, between)) (hright : sub 2 between = .ok (right, later)) :
    Grows depth power left s (.comma left s.current right) later := by
  obtain ⟨rfl, hs, hbetween⟩ := advance_inv hleft.proper (by rw [hkind]; decide) hadvance
  obtain ⟨htaken, hbinds, hstops⟩ := hsub _ _ _ _ hbetween hright
  have hvalid : (Tree.comma left s.current right).Valid :=
    ⟨hleft.valid, htaken.valid, hkind, hleft.yields (by rw [hkind]; rfl), hbinds⟩
  refine ⟨s.current :: right.yield, ?_, rfl,
    hleft.operate hpower htaken hstops hvalid rfl rfl rfl⟩
  rw [prepend_cons, ← htaken.source, ← hs]

theorem grows_binary (hsub : Derives depth sub) (hleft : Extends depth power left s)
    (hpowers : Parse.operatorPowers s.current.kind = some (l, q)) (hpower : power ≤ l)
    (hadvance : advance s = .ok (token, between)) (hright : sub q between = .ok (right, later)) :
    Grows depth power left s (.binary left s.current right) later := by
  have heof : s.current.kind ≠ .eof := by
    intro heof
    rw [heof] at hpowers
    cases hpowers
  obtain ⟨rfl, hs, hbetween⟩ := advance_inv hleft.proper heof hadvance
  obtain ⟨htaken, hbinds, hstops⟩ := hsub _ _ _ _ hbetween hright
  have hvalid : (Tree.binary left s.current right).Valid :=
    ⟨hleft.valid, htaken.valid, l, q, hpowers,
      hleft.yields (TokenKind.leftPower?_operator hpowers), hbinds⟩
  refine ⟨s.current :: right.yield, ?_, rfl,
    hleft.operate hpower htaken hstops hvalid ?_ ?_ rfl⟩
  · rw [prepend_cons, ← htaken.source, ← hs]
  · rw [Tree.leftPowers, hpowers]
    rfl
  · rw [Tree.rightPowers, hpowers]
    rfl

theorem grows_juxtaposition (hsub : Derives depth sub) (hleft : Extends depth power left s)
    (hstarts : Parse.startsTerm s.current.kind = true) (hparen : s.current.kind ≠ .lparen)
    (hpower : power ≤ 20) (hright : sub 19 s = .ok (right, later)) :
    Grows depth power left s (.juxtaposition left right) later := by
  obtain ⟨htaken, hbinds, hstops⟩ := hsub _ _ _ _ hleft.proper hright
  obtain ⟨first, rest, hyield, -⟩ := htaken.valid.starts
  have hfirst : s.current = first := by rw [htaken.source, hyield, current_prepend_cons]
  have hvalid : (Tree.juxtaposition left right).Valid :=
    ⟨hleft.valid, htaken.valid, hleft.yields (TokenKind.leftPower?_juxtaposed hstarts hparen),
      hbinds, first, rest, hyield, hfirst ▸ hstarts, hfirst ▸ hparen⟩
  exact ⟨right.yield, htaken.source, rfl, hleft.operate hpower htaken hstops hvalid rfl rfl rfl⟩

end Extends

theorem climb_derives (hsub : Derives depth sub) {power rounds : Nat} {left tree : Tree}
    (hleft : Extends depth power left s)
    (h : Read.climb sub size power rounds left s = .ok (tree, later)) :
    Grows depth power left s tree later ∧ Stops power later.current.kind := by
  induction rounds generalizing s left with
  | zero => cases h
  | succ rounds ih =>
      -- The rest of the extension starts where one node has been put on top of the left operand.
      have hrest : ∀ {node : Tree} {after : Stream}, Grows depth power left s node after →
          Read.climb sub size power rounds node after = .ok (tree, later) →
          Grows depth power left s tree later ∧ Stops power later.current.kind := by
        intro node after hgrows hclimb
        obtain ⟨hmore, hstops⟩ := ih hgrows.result hclimb
        exact ⟨hgrows.trans hmore, hstops⟩
      rcases climb_cases h with ⟨hstops, h⟩ | ⟨-, hpower, h⟩ | ⟨hkind, hpower, h⟩ |
        ⟨l, q, hpowers, hpower, h⟩ | ⟨hstarts, hparen, hpower, h⟩
      · cases h
        exact ⟨⟨[], rfl, (List.append_nil _).symm, hleft⟩, hstops⟩
      · obtain ⟨node, after, hcall, h⟩ := bind_eq_ok.1 h
        exact hrest (grows_call hsub hleft hpower hcall).1 h
      · obtain ⟨operator, between, hadvance, h⟩ := bind_eq_ok.1 h
        obtain ⟨right, after, hright, h⟩ := bind_eq_ok.1 h
        exact hrest (grows_comma hsub hleft hkind hpower hadvance hright) h
      · obtain ⟨operator, between, hadvance, h⟩ := bind_eq_ok.1 h
        obtain ⟨right, after, hright, h⟩ := bind_eq_ok.1 h
        exact hrest (grows_binary hsub hleft hpowers hpower hadvance hright) h
      · obtain ⟨right, after, hright, h⟩ := bind_eq_ok.1 h
        exact hrest (grows_juxtaposition hsub hleft hstarts hparen hpower hright) h

theorem expression_derives (size depth : Nat) : Derives depth (Read.expression size depth) := by
  induction depth with
  | zero =>
      intro power s tree later hproper h
      cases h
  | succ depth ih =>
      intro power s tree later hproper h
      rw [Read.expression] at h
      obtain ⟨left, between, hterm, h⟩ := bind_eq_ok.1 h
      obtain ⟨htaken, hpowers⟩ := term_derives ih hproper hterm
      have hleft : Extends depth power left between := by
        refine ⟨htaken.proper, htaken.valid, ?_, htaken.leaves, htaken.height⟩
        intro q hq
        rw [hpowers] at hq
        cases hq
      obtain ⟨⟨more, hbetween, hyield, htree⟩, hstops⟩ := climb_derives ih hleft h
      refine ⟨⟨?_, htree.proper, htree.valid, htree.leaves, htree.height⟩, htree.binds, hstops⟩
      rw [hyield, prepend_append, ← hbetween, ← htaken.source]

end Derives

end RollScript
