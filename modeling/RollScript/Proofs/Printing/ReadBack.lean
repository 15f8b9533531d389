import RollScript.Program
import RollScript.Proofs.Evaluation.Following
import RollScript.Proofs.Grammar.Correspondence
import RollScript.Proofs.Printing.Values
import RollScript.Proofs.Values.Equality

/-!
# Printed values are read back

Read `printed_value_reads_back` first: the text of a value without functions and with finite numbers is
parsed and evaluated to a value with the same text, which is equal to the first one unless a string has
the two halves of a surrogate pair next to each other. The evaluation leaves the world as it is, whatever
the world does when it is asked for random bits.
-/

namespace RollScript

/-! ## Literals are evaluated to what they denote -/

section Evaluation

variable {ω : Type} {world : World ω} {config : Config} {env : Env} {frames : List (Frame × Expr)}
  {s u : ω} {o : Outcome}

/-- The function that changes the sign of a number. -/
def negation : Function :=
  .primitive (Registry.operation "-x" [.number] .negate) []

theorem rootEnvironment_negation :
    (rootEnvironment .standard []).lookup (.ofString "-x") = some (.function negation) := by
  rfl

/-- A sign before a numeral is found under its name and called with the number. -/
theorem halts_negative (henv : env.lookup (.ofString "-x") = some (.function negation))
    (outer operator inner : Span) (x : Float)
    (h : Halts world config (returning (.number (-x)) frames s) o u) :
    Halts world config
      (evaluating (.apply outer (.name operator (.ofString "-x")) (.number inner x)) env frames s) o u := by
  refine halts_evaluating rfl (proceeds_ok (responds_push ?_))
  have hname : (Expr.name operator (.ofString "-x")).requests world.room env =
      .ok [.produce (.function negation)] := by
    rw [Expr.requests, henv]
  refine halts_evaluating hname (proceeds_ok (responds_produce ?_))
  refine halts_deliver (by simp) rfl (proceeds_ok (responds_push ?_))
  refine halts_evaluating rfl (proceeds_ok (responds_produce ?_))
  refine halts_deliver (by simp) rfl (proceeds_ok ?_)
  have hrespond : negation.respond world 0 (.number x) s = (.ok [.produce (.number (-x))], s) := rfl
  exact responds_invoke (Nat.zero_le _) hrespond (proceeds_ok (responds_produce h))

mutual

/-- A literal ends as its value does when it is handed to the frames that wait. -/
theorem Denotes.halts (henv : env.lookup (.ofString "-x") = some (.function negation)) {e : Expr}
    {v : Value} : Denotes e v → ∀ {frames : List (Frame × Expr)},
      Halts world config (returning v frames s) o u → Halts world config (evaluating e env frames s) o u
  | .number _ _, _, h => halts_evaluating rfl (proceeds_ok (responds_produce h))
  | .negative outer operator inner x, _, h => halts_negative henv outer operator inner x h
  | .string _ _, _, h => halts_evaluating rfl (proceeds_ok (responds_produce h))
  | .unit _, _, h => halts_evaluating rfl (proceeds_ok (responds_produce h))
  | .array _ hitems, _, h => halts_evaluating rfl (proceeds_ok (hitems.responds henv [] h))

theorem DenoteItems.responds (henv : env.lookup (.ofString "-x") = some (.function negation))
    {elements : List Expr} {items : List Value} : DenoteItems elements items →
      ∀ {frames : List (Frame × Expr)} {budget : Nat} {blame : Expr} (done : List Value),
        Halts world config (returning (.array (done.reverse ++ items)) frames s) o u →
        Responds world config budget (elementNext done env elements) (between frames blame s) o u
  | .nil, _, _, _, done, h => by
      rw [List.append_nil] at h
      exact responds_produce h
  | .cons hfirst hrest, _, _, _, done, h => by
      refine responds_push (hfirst.halts henv ?_)
      refine halts_deliver (by simp) rfl (proceeds_ok (hrest.responds henv (_ :: done) ?_))
      rw [List.reverse_cons, List.append_assoc]
      exact h

end

/-- A literal is evaluated to the value that it denotes, in every world and without a change to it. -/
theorem Denotes.evaluates {e : Expr} {v : Value} (h : Denotes e v) (world : World ω) (config : Config)
    (s : ω) :
    ∃ fuel, ∀ more, fuel ≤ more →
      evaluateWithin more world config (rootEnvironment .standard []) e s = (.value v, s) := by
  have hhalts : Halts world config (Machine.start e (rootEnvironment .standard []) s) (.value v) s :=
    (h.halts rootEnvironment_negation (halts_finish v e)).any_blame (.inr (by simp)) e
  obtain ⟨hdone, fuel, final, hrun, hworld⟩ := hhalts
  refine ⟨fuel, fun more hmore => ?_⟩
  rw [evaluateWithin, Machine.run_mono hmore hrun hdone]
  exact congrArg (Prod.mk _) hworld

end Evaluation

/-! ## What is read back -/

namespace Value

mutual

/-- A value and what it is read back as have the same text. -/
theorem render_readBack : ∀ v : Value, v.readBack.render = v.render
  | number x => print_readBack x
  | string s => Literal.encode_joinPairs s
  | unit => rfl
  | array items => by rw [readBack, render, render, renderItems_readBack items]
  | function _ => rfl

theorem renderItems_readBack : ∀ items : List Value,
    renderItems (readBackItems items) = renderItems items
  | [] => rfl
  | [v] => render_readBack v
  | v :: w :: rest => by
      have hrest := renderItems_readBack (w :: rest)
      show v.readBack.render ++ ". " ++ renderItems (readBackItems (w :: rest)) = _
      rw [render_readBack v, hrest]
      rfl

end

mutual

/-- A plain value equals what it is read back as, unless a surrogate pair is joined in it. -/
theorem same_readBack : ∀ v : Value, v.Plain → v.Unpaired → v.readBack.same v = true
  | number x, h, _ => readBack_beq x h
  | string s, _, h => by
      show (s.joinPairs == s) = true
      rw [Text.joinPairs_eq_self h]
      exact beq_self_eq_true s
  | unit, _, _ => rfl
  | array items, h, hunpaired => by
      rw [readBack, same]
      exact sameItems_readBack items h hunpaired
  | function _, h, _ => h.elim

theorem sameItems_readBack : ∀ items : List Value, PlainItems items → UnpairedItems items →
    sameItems (readBackItems items) items = true
  | [], _, _ => rfl
  | v :: rest, h, hunpaired => by
      rw [readBackItems, sameItems, same_readBack v h.1 hunpaired.1,
        sameItems_readBack rest h.2 hunpaired.2, Bool.and_true]

end

end Value

/-! ## The parser on printed values -/

/-- The scan of a printed value. -/
theorem Tree.Spells.scan_eq {tree : Tree} {v : Value} (h : tree.Spells v 0) :
    scan (Text.ofString v.print) =
      ⟨tree.yield ++ [.endOfInput v.render.toList.length], none⟩ := by
  have hscanned := h.scanned [] .nil
  rw [List.append_nil, scanAt_nil, Nat.zero_add] at hscanned
  rw [v.print_eq_render, Text.ofString_eq]
  exact hscanned

/-- A printed value parses as far as its levels are within the limit, to a literal of what it is read
back as. -/
theorem parse_print (v : Value) (h : v.Plain) (hlevels : v.levels ≤ nestingLimit) :
    ∃ e, parse (Text.ofString v.print) = .ok e ∧ Denotes e v.readBack := by
  obtain ⟨tree, htree⟩ := v.spelled h 0
  refine ⟨tree.desugar, ?_, htree.denotes⟩
  rw [parse, htree.scan_eq]
  exact ofScan_of_valid htree.valid (htree.height.trans_le hlevels) _

theorem levels_of_parse_print (v : Value) (h : v.Plain) {e : Expr}
    (hparse : parse (Text.ofString v.print) = .ok e) : v.levels ≤ nestingLimit := by
  obtain ⟨tree, htree⟩ := v.spelled h 0
  obtain ⟨tokens, htokens, hshape⟩ := (scan_shape (Text.ofString v.print)).1
  rw [htree.scan_eq] at hshape
  have hyield : tree.yield = tokens := by
    rcases hshape with ⟨-, stop, hsplit⟩ | ⟨hfailure, -⟩
    · exact (List.append_inj' hsplit rfl).1
    · exact absurd rfl hfailure
  rw [parse, htree.scan_eq] at hparse
  obtain ⟨tree', hvalid, hyield', hheight, -⟩ := valid_of_ofScan (hyield ▸ htokens) hparse
  rw [← htree.height, Tree.eq_of_yield_eq htree.valid hvalid hyield'.symm]
  exact hheight

/-- A printed value parses exactly if it is nested no deeper than the parser's limit. Then its expression
is evaluated with the functions of the language, in every world and without a change to it, to a value
that is printed alike; and that value equals the first one, unless a string of it has a high surrogate
directly before a low one. -/
theorem printed_value_reads_back (v : Value) (h : v.Plain) :
    ((∃ e, parse (Text.ofString v.print) = .ok e) ↔ v.levels ≤ nestingLimit) ∧
    (v.levels ≤ nestingLimit → ∃ e w, parse (Text.ofString v.print) = .ok e ∧
      (∀ (ω : Type) (world : World ω) (config : Config) (s : ω), ∃ fuel, ∀ more, fuel ≤ more →
        evaluateWithin more world config (rootEnvironment .standard []) e s = (.value w, s)) ∧
      w.print = v.print ∧ (v.Unpaired → Value.equal w v = true)) := by
  refine ⟨⟨fun ⟨e, hparse⟩ => levels_of_parse_print v h hparse, fun hlevels => ?_⟩, fun hlevels => ?_⟩
  · obtain ⟨e, hparse, -⟩ := parse_print v h hlevels
    exact ⟨e, hparse⟩
  · obtain ⟨e, hparse, hdenotes⟩ := parse_print v h hlevels
    refine ⟨e, v.readBack, hparse, fun ω world config s => hdenotes.evaluates world config s, ?_, ?_⟩
    · rw [Value.print_eq_render, Value.print_eq_render, Value.render_readBack]
    · intro hunpaired
      rw [Value.equal_eq_same]
      exact v.same_readBack h hunpaired

/-- An array with a negative number, a string with a quote and a character outside the first plane, and
an array in it. -/
def assorted : Value :=
  .array [.number (-2.5), .string (.ofString "a\"𝄞"), .array [.unit, .number 1e30]]

theorem assorted_reads_back :
    assorted.Plain ∧ assorted.levels ≤ nestingLimit ∧ assorted.Unpaired ∧
      ∃ e w, parse (Text.ofString assorted.print) = .ok e ∧
        (∀ (ω : Type) (world : World ω) (config : Config) (s : ω), ∃ fuel, ∀ more, fuel ≤ more →
          evaluateWithin more world config (rootEnvironment .standard []) e s = (.value w, s)) ∧
        w.print = assorted.print ∧ Value.equal w assorted = true := by
  have hnumbers : (-2.5 : Float).isFinite = true ∧ (1e30 : Float).isFinite = true := by decide +kernel
  have hplain : assorted.Plain := ⟨hnumbers.1, trivial, ⟨trivial, hnumbers.2, trivial⟩, trivial⟩
  have hlevels : assorted.levels ≤ nestingLimit := by decide +kernel
  have hstring : Text.Unpaired (.ofString "a\"𝄞") := by decide
  have hunpaired : assorted.Unpaired := ⟨trivial, hstring, ⟨trivial, trivial, trivial⟩, trivial⟩
  obtain ⟨e, w, hparse, hevaluates, hprint, hequal⟩ := (printed_value_reads_back assorted hplain).2 hlevels
  exact ⟨hplain, hlevels, hunpaired, e, w, hparse, hevaluates, hprint, hequal hunpaired⟩

end RollScript
