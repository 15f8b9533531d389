import RollScript.Proofs.Grammar.Derivation

/-!
# The parser and the grammar

Read `parses_iff_valid_tree` first: the parser accepts exactly the tokens of valid trees that are
nested no deeper than its limit, gives the expression that the tree stands for, and no two valid trees
have the same tokens.
-/

namespace RollScript

open RollScript.Parser
open RollScript.Stream

variable {tokens : List Token} {stop depth : Nat}

/-- The stream at the end of the input. -/
def Stream.ended (stop : Nat) : Stream :=
  ⟨.endOfInput stop, [], none⟩

theorem Stream.proper_ended (stop : Nat) : (Stream.ended stop).Proper :=
  fun _ => ⟨_, List.mem_cons_self, rfl⟩

theorem Stream.ofScan_append (tokens : List Token) (stop : Nat) :
    Stream.ofScan ⟨tokens ++ [.endOfInput stop], none⟩ = .ok (prepend tokens (.ended stop)) := by
  cases tokens <;> rfl

/-- The tokens before the end of the input are those before the first end of the input. -/
theorem append_endOfInput_inj {taken : List Token} {later : Stream}
    (htokens : ∀ t ∈ tokens, t.kind ≠ .eof) (hlater : later.current.kind = .eof)
    (h : tokens ++ [.endOfInput stop] = taken ++ later.tokens) : taken = tokens := by
  induction tokens generalizing taken with
  | nil =>
      cases taken with
      | nil => rfl
      | cons t taken => cases taken <;> cases h
  | cons t tokens ih =>
      cases taken with
      | nil =>
          obtain ⟨rfl, -⟩ := List.cons.inj h
          exact absurd hlater (htokens _ List.mem_cons_self)
      | cons t' taken =>
          obtain ⟨rfl, hrest⟩ := List.cons.inj h
          rw [ih (fun t ht => htokens t (List.mem_cons_of_mem _ ht)) hrest]

/-- What a program is, by the tree that is read. -/
theorem program_eq_ok {size : Nat} {s later : Stream} {e : Expr} :
    Parse.program size depth s = .ok (e, later) ↔
      ∃ tree, Read.expression size depth 0 s = .ok (tree, later) ∧ tree.desugar = e ∧
        later.current.kind = .eof := by
  rw [Parse.program, parse_expression_eq, bind_map_left]
  constructor
  · intro h
    obtain ⟨tree, between, htree, h⟩ := bind_eq_ok.1 h
    rw [current_bind] at h
    split at h
    · next hkind =>
        cases h
        exact ⟨tree, htree, rfl, hkind⟩
    · cases h
  · rintro ⟨tree, htree, rfl, hkind⟩
    rw [bind_run htree, current_bind, if_pos hkind]
    rfl

theorem ofScan_eq_ok {s : Stream} {scan : Scan} (hstream : Stream.ofScan scan = .ok s) {e : Expr} :
    Parse.ofScan depth scan = .ok e ↔
      ∃ later, Parse.program (scan.tokens.length + 1) depth s = .ok (e, later) := by
  rw [Parse.ofScan, hstream]
  show (Parse.program _ depth s >>= fun p => Except.ok p.1) = .ok e ↔ _
  cases Parse.program (scan.tokens.length + 1) depth s with
  | error error => simp [bind, Except.bind]
  | ok p =>
      obtain ⟨tree, later⟩ := p
      simp [bind, Except.bind]

theorem ofScan_of_valid {tree : Tree} (h : tree.Valid) (hheight : tree.height ≤ depth) (stop : Nat) :
    Parse.ofScan depth ⟨tree.yield ++ [.endOfInput stop], none⟩ = .ok tree.desugar := by
  rw [ofScan_eq_ok (ofScan_append tree.yield stop)]
  refine ⟨.ended stop, program_eq_ok.2 ⟨tree, ?_, rfl, rfl⟩⟩
  have hnone : (Stream.ended stop).current.kind.leftPower? = none := rfl
  refine (readable tree h).whole hheight tree.binds_zero (Tree.leaves_of_none hnone)
    (stops_of_none hnone) ?_
  simp [Stream.tokens, Stream.ended]

theorem valid_of_ofScan (htokens : ∀ t ∈ tokens, t.kind ≠ .eof) {e : Expr}
    (h : Parse.ofScan depth ⟨tokens ++ [.endOfInput stop], none⟩ = .ok e) :
    ∃ tree : Tree, tree.Valid ∧ tree.yield = tokens ∧ tree.height ≤ depth ∧ tree.desugar = e := by
  obtain ⟨later, h⟩ := (ofScan_eq_ok (ofScan_append tokens stop)).1 h
  obtain ⟨tree, hread, rfl, hkind⟩ := program_eq_ok.1 h
  have hproper : (prepend tokens (.ended stop)).Proper :=
    (proper_prepend htokens).2 (proper_ended stop)
  obtain ⟨htaken, -, -⟩ := expression_derives _ _ _ _ _ _ hproper hread
  have hsource := congrArg Stream.tokens htaken.source
  rw [tokens_prepend, tokens_prepend] at hsource
  exact ⟨tree, htaken.valid, append_endOfInput_inj htokens hkind hsource, htaken.height, rfl⟩

/-- A valid tree is determined by its tokens. -/
theorem Tree.eq_of_yield_eq {tree tree' : Tree} (h : tree.Valid) (h' : tree'.Valid)
    (hyield : tree.yield = tree'.yield) : tree = tree' := by
  have hnone : (Stream.ended 0).current.kind.leftPower? = none := rfl
  have hread : Read.expression (tree.yield.length + 1) (max tree.height tree'.height) 0
      (prepend tree.yield (.ended 0)) = .ok (tree, .ended 0) :=
    (readable tree h).whole (Nat.le_max_left _ _) tree.binds_zero (leaves_of_none hnone)
      (stops_of_none hnone) (Nat.le_refl _)
  have hread' : Read.expression (tree'.yield.length + 1) (max tree.height tree'.height) 0
      (prepend tree'.yield (.ended 0)) = .ok (tree', .ended 0) :=
    (readable tree' h').whole (Nat.le_max_right _ _) tree'.binds_zero (leaves_of_none hnone)
      (stops_of_none hnone) (Nat.le_refl _)
  rw [hyield, hread'] at hread
  cases hread
  rfl

/-- The parser accepts exactly the tokens of valid trees within its limit to nesting, with the
expression that the tree stands for as its result, and at most one valid tree has those tokens. -/
theorem parses_iff_valid_tree (tokens : List Token) (htokens : ∀ t ∈ tokens, t.kind ≠ .eof)
    (stop : Nat) :
    (∀ depth e, Parse.ofScan depth ⟨tokens ++ [.endOfInput stop], none⟩ = .ok e ↔
      ∃ tree : Tree, tree.Valid ∧ tree.yield = tokens ∧ tree.height ≤ depth ∧ tree.desugar = e) ∧
    (∀ tree tree' : Tree, tree.Valid → tree'.Valid → tree.yield = tokens → tree'.yield = tokens →
      tree = tree') := by
  refine ⟨fun depth e => ⟨valid_of_ofScan htokens, ?_⟩, ?_⟩
  · rintro ⟨tree, hvalid, rfl, hheight, rfl⟩
    exact ofScan_of_valid hvalid hheight stop
  · intro tree tree' h h' hyield hyield'
    exact Tree.eq_of_yield_eq h h' (hyield.trans hyield'.symm)

/-- The tree of `a ** -b ** c`, in which the sign stands before a power and the powers group to the
right. -/
def signedPower : Tree :=
  .binary (.name ⟨.name, .ofString "a", 0⟩) ⟨.power, .ofString "**", 2⟩
    (.binary (.sign ⟨.minus, .ofString "-", 5⟩ (.name ⟨.name, .ofString "b", 6⟩))
      ⟨.power, .ofString "**", 8⟩ (.name ⟨.name, .ofString "c", 11⟩))

theorem signedPower_parses :
    (∀ t ∈ signedPower.yield, t.kind ≠ .eof) ∧ signedPower.Valid ∧
      Parse.ofScan 3 ⟨signedPower.yield ++ [.endOfInput 12], none⟩ = .ok signedPower.desugar := by
  have htokens : ∀ t ∈ signedPower.yield, t.kind ≠ .eof := by decide
  have hvalid : signedPower.Valid := by
    refine ⟨rfl, ⟨⟨rfl, rfl, ?_⟩, rfl, 16, 15, rfl, ?_, ?_⟩, 16, 15, rfl, ?_, ?_⟩ <;>
      simp [Tree.Binds, Tree.Yields, Tree.leftPowers, Tree.rightPowers, Parse.operatorPowers]
  refine ⟨htokens, hvalid, ?_⟩
  exact ((parses_iff_valid_tree signedPower.yield htokens 12).1 3 _).2
    ⟨signedPower, hvalid, rfl, by decide, rfl⟩

end RollScript
