import RollScript.Proofs.Grammar.Correspondence
import RollScript.Proofs.Grammar.Relocation

/-!
# Calls and commas

A function may be applied to several arguments in parentheses, or to the same arguments after commas.
Read `call_agrees_with_commas` last: whenever a name, a comma and some tokens make a program, so do the
name and the tokens in parentheses, and the two trees are the same up to spans. `Items.chained` is the
tree with commas; `chains_of_valid` says that there is no other tree that starts with a name and a comma.
-/

namespace RollScript

/-- A callee with arguments after commas, the first of them after the given one. -/
def Items.chained (left : Tree) (operator : Token) : Items → Tree
  | .none => left
  | .last item => .comma left operator item
  | .more item separator rest => rest.chained (.comma left operator item) separator

/-- Arguments with another one after them. -/
def Items.snoc (separator : Token) (new : Tree) : Items → Items
  | .none => .last new
  | .last item => .more item separator (.last new)
  | .more item between rest => .more item between (rest.snoc separator new)

namespace Items

theorem yield_chained (left : Tree) (operator : Token) :
    ∀ items : Items, items.ValidArguments →
      (items.chained left operator).yield = left.yield ++ operator :: items.yield
  | .last _, _ => rfl
  | .more item separator rest, h => by
      rw [chained, yield_chained _ separator rest h.2.2.2.2, Tree.yield, Items.yield,
        List.append_assoc, List.cons_append]

theorem height_chained (left : Tree) (operator : Token) :
    ∀ items : Items, items.ValidArguments →
      (items.chained left operator).height = max left.height (items.height + 1)
  | .last _, _ => rfl
  | .more item separator rest, h => by
      rw [chained, height_chained _ separator rest h.2.2.2.2, Tree.height, Items.height]
      omega

theorem valid_chained {left : Tree} {operator : Token} (hleft : left.Valid) (hyields : left.Yields 1)
    (hoperator : operator.kind = .comma) :
    ∀ items : Items, items.ValidArguments → (items.chained left operator).Valid
  | .last _, h => ⟨hleft, h.1, hoperator, hyields, h.2⟩
  | .more item separator rest, ⟨hitem, hbinds, hseparator, hitemYields, hrest⟩ => by
      have hvalid : (Tree.comma left operator item).Valid := ⟨hleft, hitem, hoperator, hyields, hbinds⟩
      refine valid_chained hvalid ?_ hseparator rest hrest
      intro right hright
      rcases List.mem_cons.1 hright with rfl | hright
      · decide
      · exact hitemYields right hright

/-- A callee with arguments after commas stands for the callee applied to the arguments one by one. -/
theorem bare_chained (start : Nat) {left : Tree} {callee : Expr} (operator : Token)
    (hcallee : left.desugar.SameBare callee) :
    ∀ items : Items, (items.chained left operator).desugar.SameBare (items.applied start callee)
  | .none => hcallee
  | .last _ => hcallee.apply rfl _ _
  | .more item separator rest =>
      have happlied : (Tree.comma left operator item).desugar.SameBare (.apply _ callee item.desugar) :=
        hcallee.apply rfl _ ⟨start, item.desugar.span.stop⟩
      bare_chained start separator happlied rest

/-! ## One argument more -/

variable {separator : Token} {new : Tree}

theorem chained_snoc (left : Tree) (operator : Token) :
    ∀ items : Items, items.ValidArguments →
      (items.snoc separator new).chained left operator = .comma (items.chained left operator) separator new
  | .last _, _ => rfl
  | .more _ _ rest, h => chained_snoc _ _ rest h.2.2.2.2

theorem yield_snoc :
    ∀ items : Items, items.ValidArguments →
      (items.snoc separator new).yield = items.yield ++ separator :: new.yield
  | .last _, _ => rfl
  | .more item between rest, h => by
      rw [snoc, yield, yield, yield_snoc rest h.2.2.2.2, List.append_assoc, List.cons_append]

theorem validArguments_snoc {left : Tree} (hseparator : separator.kind = .comma) (hnew : new.Valid)
    (hbinds : new.Binds 2) (operator : Token) :
    ∀ items : Items, items.ValidArguments → (items.chained left operator).Yields 1 →
      (items.snoc separator new).ValidArguments
  | .last _, ⟨hitem, hitemBinds⟩, hyields =>
      ⟨hitem, hitemBinds, hseparator, fun q hq => hyields q (List.mem_cons_of_mem _ hq), hnew, hbinds⟩
  | .more _ _ rest, ⟨hitem, hitemBinds, hbetween, hitemYields, hrest⟩, hyields =>
      ⟨hitem, hitemBinds, hbetween, hitemYields,
        validArguments_snoc hseparator hnew hbinds _ rest hrest hyields⟩

end Items

/-! ## Programs that start with a name and a comma -/

/-- A tree is a callee with arguments after commas, which are the given tokens. -/
def Tree.Chains (callee : Tree) (operator : Token) (s : List Token) (tree : Tree) : Prop :=
  ∃ items : Items, items.ValidArguments ∧ items.yield = s ∧ tree = items.chained callee operator

theorem Items.not_yields_chained {left : Tree} {operator : Token} {power : Nat} (hpower : 2 ≤ power) :
    ∀ items : Items, items.ValidArguments → ¬ (items.chained left operator).Yields power
  | .last _, _, hyields => Nat.not_lt.2 hpower (hyields 2 List.mem_cons_self)
  | .more _ _ rest, h, hyields => not_yields_chained hpower rest h.2.2.2.2 hyields

/-- Nothing that binds more strongly than a comma takes arguments after commas as its left operand. -/
theorem Tree.Chains.not_yields {callee tree : Tree} {operator : Token} {s : List Token}
    (h : Tree.Chains callee operator s tree) {power : Nat} (hpower : 2 ≤ power) : ¬ tree.Yields power := by
  obtain ⟨items, hitems, -, rfl⟩ := h
  exact Items.not_yields_chained hpower items hitems

/-- The left part of a tree that starts with a name and a comma is the name alone, or it starts with
the name and the comma itself. -/
theorem starts_with_name {f comma : Token} {s more : List Token} {left : Tree}
    (h : left.yield ++ more = f :: comma :: s) :
    left.yield = [f] ∧ more = comma :: s ∨ ∃ u, left.yield = f :: comma :: u ∧ s = u ++ more := by
  have hpos := left.yield_length_pos
  generalize left.yield = tokens at h hpos
  match tokens, h, hpos with
  | [t], h, _ =>
      obtain ⟨rfl, rfl⟩ := List.cons.inj h
      exact .inl ⟨rfl, rfl⟩
  | t :: t' :: u, h, _ =>
      obtain ⟨rfl, htail⟩ := List.cons.inj h
      obtain ⟨rfl, rfl⟩ := List.cons.inj htail
      exact .inr ⟨u, rfl, rfl⟩

/-- Every operator other than the comma binds more strongly than the comma. -/
theorem two_le_of_operator {kind : TokenKind} {l r : Nat} (h : Parse.operatorPowers kind = some (l, r)) :
    2 ≤ l := by
  cases kind <;> cases h <;> decide

/-- A valid tree whose first token is of another kind does not start with a name. -/
theorem not_name_first {t f : Token} {u v : List Token} {kind : TokenKind} (h : t :: u = f :: v)
    (ht : t.kind = kind) (hkind : kind ≠ .name) : f.kind ≠ .name := by
  obtain ⟨rfl, -⟩ := List.cons.inj h
  exact ht ▸ hkind

/-- A valid tree that starts with a name and a comma is the name with arguments after commas. -/
theorem chains_of_valid {f comma : Token} (hf : f.kind = .name) (hcomma : comma.kind = .comma) :
    ∀ (tree : Tree) (s : List Token), tree.Valid → tree.yield = f :: comma :: s →
      Tree.Chains (.name f) comma s tree
  | .number _, _, _, hyield | .string _, _, _, hyield | .name _, _, _, hyield => nomatch hyield
  | .unit .., _, h, hyield | .parens .., _, h, hyield | .array .., _, h, hyield
  | .function .., _, h, hyield | .block .., _, h, hyield | .choice .., _, h, hyield =>
      absurd hf (not_name_first hyield h.1 (by decide))
  | .sign operator operand, s, h, hyield => by
      obtain ⟨rfl, -⟩ := List.cons.inj hyield
      have hsign := h.1
      rw [hf] at hsign
      cases hsign
  | .binary left operator right, s, ⟨hleft, _, l, r, hpowers, hyields, _⟩, hyield => by
      rcases starts_with_name hyield with ⟨-, hmore⟩ | ⟨u, hu, -⟩
      · obtain ⟨rfl, -⟩ := List.cons.inj hmore
        rw [hcomma] at hpowers
        cases hpowers
      · have hchains := chains_of_valid hf hcomma left u hleft hu
        exact absurd hyields (hchains.not_yields (two_le_of_operator hpowers))
  | .comma left operator right, s, ⟨hleft, hright, hoperator, hyields, hbinds⟩, hyield => by
      rcases starts_with_name hyield with ⟨hname, hmore⟩ | ⟨u, hu, rfl⟩
      · obtain ⟨rfl, rfl⟩ := List.cons.inj hmore
        obtain rfl : left = .name f := Tree.eq_of_yield_eq hleft hf hname
        exact ⟨.last right, ⟨hright, hbinds⟩, rfl, rfl⟩
      · obtain ⟨items, hitems, rfl, rfl⟩ := chains_of_valid hf hcomma left u hleft hu
        exact ⟨items.snoc operator right,
          Items.validArguments_snoc hoperator hright hbinds comma items hitems hyields,
          Items.yield_snoc items hitems, (Items.chained_snoc _ _ items hitems).symm⟩
  | .juxtaposition left right, s, ⟨hleft, _, hyields, _, first, later, hright, hstarts, _⟩, hyield => by
      rcases starts_with_name hyield with ⟨-, hmore⟩ | ⟨u, hu, -⟩
      · obtain ⟨rfl, -⟩ := List.cons.inj (hright.symm.trans hmore)
        rw [hcomma] at hstarts
        cases hstarts
      · have hchains := chains_of_valid hf hcomma left u hleft hu
        exact absurd hyields (hchains.not_yields (by decide))
  | .emptyCall callee opening closing, s, ⟨hcallee, hyields, hopening, _⟩, hyield => by
      rcases starts_with_name hyield with ⟨-, hmore⟩ | ⟨u, hu, -⟩
      · obtain ⟨rfl, -⟩ := List.cons.inj hmore
        exact absurd (hopening.symm.trans hcomma) (by decide)
      · have hchains := chains_of_valid hf hcomma callee u hcallee hu
        exact absurd hyields (hchains.not_yields (by decide))
  | .call callee opening arguments closing, s, ⟨hcallee, hyields, hopening, _, _⟩, hyield => by
      rcases starts_with_name hyield with ⟨-, hmore⟩ | ⟨u, hu, -⟩
      · obtain ⟨rfl, -⟩ := List.cons.inj hmore
        exact absurd (hopening.symm.trans hcomma) (by decide)
      · have hchains := chains_of_valid hf hcomma callee u hcallee hu
        exact absurd hyields (hchains.not_yields (by decide))

/-! ## The same program in both forms -/

theorem Tree.name_yields (f : Token) (power : Nat) : (Tree.name f).Yields power := by
  intro right hright
  cases hright

section Forms

variable {f f' comma opening closing : Token} {s s' : List Token} {items : Items}

/-- A name with arguments after commas is parsed to the name applied to them one by one. -/
theorem ofScan_commas (hf : f.kind = .name) (hcomma : comma.kind = .comma) (h : items.ValidArguments)
    {depth : Nat} (hdepth : items.height < depth) (stop : Nat) :
    ∃ e, Parse.ofScan depth ⟨f :: comma :: items.yield ++ [.endOfInput stop], none⟩ = .ok e ∧
      e.SameBare (items.applied f.pos (.name f.span f.text)) := by
  have hvalid : (items.chained (.name f) comma).Valid :=
    Items.valid_chained (show (Tree.name f).Valid from hf) (Tree.name_yields f 1) hcomma items h
  have hyield : (items.chained (.name f) comma).yield = f :: comma :: items.yield :=
    Items.yield_chained (.name f) comma items h
  have hheight : (items.chained (.name f) comma).height = max 1 (items.height + 1) :=
    Items.height_chained (.name f) comma items h
  have hbare : (Tree.name f).desugar.SameBare (.name f.span f.text) := rfl
  refine ⟨_, ?_, Items.bare_chained f.pos comma hbare items⟩
  rw [← hyield]
  exact ofScan_of_valid hvalid (by omega) stop

/-- So is a name with arguments in parentheses. -/
theorem ofScan_call (hf : f.kind = .name) (hopening : opening.kind = .lparen)
    (hclosing : closing.kind = .rparen) (h : items.ValidArguments) {depth : Nat}
    (hdepth : items.height < depth) (stop : Nat) :
    ∃ e, Parse.ofScan depth ⟨f :: opening :: items.yield ++ [closing, .endOfInput stop], none⟩ = .ok e ∧
      e.SameBare (items.applied f.pos (.name f.span f.text)) := by
  have hvalid : (Tree.call (.name f) opening items closing).Valid :=
    ⟨hf, Tree.name_yields f 21, hopening, h, hclosing⟩
  have hheight : (Tree.call (.name f) opening items closing).height = max 1 (items.height + 1) := rfl
  have hyield : (Tree.call (.name f) opening items closing).yield ++ [.endOfInput stop] =
      f :: opening :: items.yield ++ [closing, .endOfInput stop] := by
    simp only [Tree.yield, List.cons_append, List.append_assoc, List.nil_append]
  refine ⟨_, ?_, Expr.bare_withStop closing.stop _⟩
  rw [← hyield]
  exact ofScan_of_valid hvalid (by omega) stop

/-- The arguments that a program with a name and a comma has after them. -/
theorem exists_arguments (hf : f.kind = .name) (hcomma : comma.kind = .comma)
    (hs : ∀ t ∈ s, t.kind ≠ .eof) {stop depth : Nat} {e : Expr}
    (h : Parse.ofScan depth ⟨f :: comma :: s ++ [.endOfInput stop], none⟩ = .ok e) :
    ∃ items : Items, items.ValidArguments ∧ items.yield = s ∧ items.height < depth ∧
      e.SameBare (items.applied f.pos (.name f.span f.text)) := by
  have htokens : ∀ t ∈ f :: comma :: s, t.kind ≠ .eof := by
    intro t ht
    rcases List.mem_cons.1 ht with rfl | ht
    · rw [hf]
      decide
    · rcases List.mem_cons.1 ht with rfl | ht
      · rw [hcomma]
        decide
      · exact hs t ht
  obtain ⟨tree, hvalid, hyield, hheight, rfl⟩ := valid_of_ofScan htokens h
  obtain ⟨items, hitems, hrest, rfl⟩ := chains_of_valid hf hcomma tree s hvalid hyield
  rw [Items.height_chained _ _ items hitems] at hheight
  exact ⟨items, hitems, hrest, by omega, Items.bare_chained f.pos comma rfl items⟩

end Forms

/-- If a name, a comma and some tokens make a program, then the name and the same tokens in parentheses
make one too, and their trees are the same up to spans. The programs of this form are those with valid
arguments, and they stand for the name applied to the arguments one by one. -/
theorem call_agrees_with_commas {f f' comma opening closing : Token} {s s' : List Token}
    (hf : f.kind = .name) (hcomma : comma.kind = .comma) (hopening : opening.kind = .lparen)
    (hclosing : closing.kind = .rparen) (hs : ∀ t ∈ s, t.kind ≠ .eof) (hname : f.SameWord f')
    (hsame : List.Forall₂ Token.SameWord s s') (stop stop' : Nat) :
    (∀ depth e, Parse.ofScan depth ⟨f :: comma :: s ++ [.endOfInput stop], none⟩ = .ok e →
      ∃ e', Parse.ofScan depth ⟨f' :: opening :: s' ++ [closing, .endOfInput stop'], none⟩ = .ok e' ∧
        e.bare = e'.bare) ∧
    (∀ items : Items, items.ValidArguments → items.yield = s → ∀ depth, items.height < depth →
      ∃ e, Parse.ofScan depth ⟨f :: comma :: s ++ [.endOfInput stop], none⟩ = .ok e ∧
        e.bare = (items.applied f.pos (.name f.span f.text)).bare) := by
  refine ⟨fun depth e h => ?_, ?_⟩
  · obtain ⟨items, hitems, rfl, hheight, he⟩ := exists_arguments hf hcomma hs h
    obtain ⟨called, hcalled, hbare⟩ := ofScan_call hf hopening hclosing hitems hheight stop'
    -- the same tokens at other places are parsed to the same tree but for its spans
    have hends : List.Forall₂ Token.SameWord [closing, Token.endOfInput stop']
        [closing, .endOfInput stop'] := .cons ⟨rfl, rfl⟩ (.cons ⟨rfl, rfl⟩ .nil)
    have hmoved := parse_ofScan_alike (fun _ _ hword => hword) depth (by simp)
      (.cons hname (.cons (⟨rfl, rfl⟩ : opening.SameWord opening) (List.rel_append hsame hends)))
    rw [List.cons_append, List.cons_append] at hcalled
    rw [hcalled] at hmoved
    generalize hresult : Parse.ofScan depth
      ⟨f' :: opening :: (s' ++ [closing, .endOfInput stop']), none⟩ = result at hmoved
    cases hmoved with
    | tree htree => exact ⟨_, hresult, (he.trans hbare.symm).trans htree⟩
  · rintro items hitems rfl depth hdepth
    exact ofScan_commas hf hcomma hitems hdepth stop

/-- The arguments `1, @x x, 2`: the function literal takes the comma after its body. -/
def swallowing : Items :=
  .more (.number ⟨.number, .ofString "1", 3⟩) ⟨.comma, .ofString ",", 4⟩
    (.last (.function ⟨.atSign, .ofString "@", 6⟩ ⟨.name, .ofString "x", 7⟩
      (.comma (.name ⟨.name, .ofString "x", 9⟩) ⟨.comma, .ofString ",", 10⟩
        (.number ⟨.number, .ofString "2", 12⟩))))

/-- The programs `f, 1, @x x, 2` and `f(1, @x x, 2)`, in which the arguments start one offset earlier. -/
theorem swallowing_agrees :
    let f : Token := ⟨.name, .ofString "f", 0⟩
    let comma : Token := ⟨.comma, .ofString ",", 1⟩
    let opening : Token := ⟨.lparen, .ofString "(", 1⟩
    let closing : Token := ⟨.rparen, .ofString ")", 12⟩
    let moved := swallowing.yield.map fun t => { t with pos := t.pos - 1 }
    (∀ t ∈ swallowing.yield, t.kind ≠ .eof) ∧ swallowing.ValidArguments ∧ swallowing.height < 4 ∧
      List.Forall₂ Token.SameWord swallowing.yield moved ∧
      ∃ e e', Parse.ofScan 4 ⟨f :: comma :: swallowing.yield ++ [.endOfInput 13], none⟩ = .ok e ∧
        Parse.ofScan 4 ⟨f :: opening :: moved ++ [closing, .endOfInput 13], none⟩ = .ok e' ∧
        e.bare = e'.bare := by
  intro f comma opening closing moved
  have htokens : ∀ t ∈ swallowing.yield, t.kind ≠ .eof := by decide
  have hvalid : swallowing.ValidArguments := by
    refine ⟨rfl, ?_, rfl, ?_, ⟨rfl, rfl, rfl, rfl, rfl, ?_, ?_⟩, ?_⟩ <;>
      simp [Tree.Binds, Tree.Yields, Tree.leftPowers, Tree.rightPowers]
  have hsame : List.Forall₂ Token.SameWord swallowing.yield moved :=
    List.forall₂_map_right_iff.2 (List.forall₂_same.2 fun _ _ => ⟨rfl, rfl⟩)
  obtain ⟨hcalls, hparses⟩ := @call_agrees_with_commas f f comma opening closing _ _ rfl rfl rfl rfl
    htokens ⟨rfl, rfl⟩ hsame 13 13
  obtain ⟨e, he, -⟩ := hparses swallowing hvalid rfl 4 (by decide)
  obtain ⟨e', he', hbare⟩ := hcalls 4 e he
  exact ⟨htokens, hvalid, by decide, hsame, e, e', he, he', hbare⟩

end RollScript
