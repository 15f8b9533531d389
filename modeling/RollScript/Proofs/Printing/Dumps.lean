import Mathlib
import RollScript.Expr.Dump
import RollScript.Proofs.Grammar.Naming
import RollScript.Proofs.Grammar.Nesting
import RollScript.Proofs.Numbers.Unsigned
import RollScript.Proofs.Printing.Parentheses
import RollScript.Proofs.Printing.Surrogates

/-!
# Dumps are read in one way

Two parsed trees with the same dump are the same, but for their spans and for a number out of range, which is
dumped like the name `inf`: `dump_readable`. `Expr.form` is the tree as nested parentheses, which are read
in one way (`Sexp.render_append_inj`), and `Sexp.expr` gets the tree back from them. `Expr.Legible` is what
the parser's trees have that makes this possible: numbers without a sign, strings whose surrogate pairs are
joined, and names that are words.
-/

namespace RollScript

open Sexp (IsWord)

/-! ## Words that are dumped -/

namespace CodePoint

theorem isNameChar_toNat {c : CodePoint} (h : c.isNameChar = true) :
    97 ≤ c.toNat ∧ c.toNat ≤ 122 ∨ 65 ≤ c.toNat ∧ c.toNat ≤ 90 ∨ c.toNat = 95 := by
  cases c with
  | surrogate index => cases h
  | scalar c =>
      simp only [isNameChar, Bool.or_eq_true, Bool.and_eq_true, decide_eq_true_eq, beq_iff_eq,
        Char.le_def, UInt32.le_iff_toNat_le] at h
      rcases h with (hletter | hletter) | rfl
      · exact .inl hletter
      · exact .inr (.inl hletter)
      · exact .inr (.inr rfl)

theorem isDigit_of_isNameChar {c : CodePoint} (h : c.isNameChar = true) : c.isDigit = false := by
  have hzeros : ∀ first ∈ digitZeros, first = 48 ∨ 128 ≤ first := by decide
  have hrange := isNameChar_toNat h
  rw [isDigit, digit?, Option.isSome_map, Option.isSome_eq_false_iff, Option.isNone_iff_eq_none,
    List.find?_eq_none]
  intro first hfirst hdigit
  simp only [Bool.and_eq_true, decide_eq_true_eq] at hdigit
  have hzero := hzeros first hfirst
  omega

theorem isDelimiter_of_isNameChar {c : CodePoint} (h : c.isNameChar = true) :
    Sexp.isDelimiter c = false := by
  have hrange := isNameChar_toNat h
  refine Bool.eq_false_iff.2 fun hdelimiter => ?_
  simp only [Sexp.isDelimiter, decide_eq_true_eq, List.mem_cons, List.not_mem_nil, or_false] at hdelimiter
  rcases hdelimiter with rfl | rfl | rfl | rfl <;> exact absurd hrange (by decide)

end CodePoint

/-- A word that is not read as a number. -/
structure IsName (x : Text) : Prop extends IsWord x where
  start : Numeral.digitRun x = 0

instance (x : Text) : Decidable (IsName x) :=
  decidable_of_iff ((x ≠ [] ∧ ∀ c ∈ x, Sexp.isDelimiter c = false) ∧ Numeral.digitRun x = 0)
    ⟨fun ⟨⟨hne, hplain⟩, hstart⟩ => ⟨⟨hne, hplain⟩, hstart⟩, fun h => ⟨⟨h.nonempty, h.plain⟩, h.start⟩⟩

theorem IsIdentifier.isName {x : Text} (h : IsIdentifier x) : IsName x := by
  rcases h with rfl | ⟨hne, hletters, -⟩
  · decide
  · obtain ⟨c, later, rfl⟩ := List.exists_cons_of_ne_nil hne
    exact ⟨⟨hne, fun d hd => CodePoint.isDelimiter_of_isNameChar (hletters d hd)⟩,
      Numeral.digitRun_eq_zero (CodePoint.isDigit_of_isNameChar (hletters c List.mem_cons_self)) later⟩

theorem IsOperator.isName {x : Text} (h : IsOperator x) : IsName x := by
  have hnames : ∀ name ∈ infixNames ++ signNames, IsName name := by decide
  exact hnames x (List.mem_append.2 h)

theorem Spelling.Proper.chars_cases {s : Spelling} (hs : s.Proper) :
    ∀ c ∈ s.chars, c.isDigit = true ∨ c ∈ ['.', 'e', '+', '-'] := by
  intro c hc
  rcases List.mem_append.1 hc with hc | hc
  · exact .inl (hs.whole.1 c hc)
  · rcases List.mem_append.1 hc with hc | hc
    · unfold fractionChars at hc
      split at hc
      · cases hc
      · rcases List.mem_cons.1 hc with rfl | hc
        · exact .inr (by decide)
        · exact .inl (hs.fraction c hc)
    · cases hexponent : s.exponent with
      | none =>
          rw [hexponent] at hc
          cases hc
      | some p =>
          obtain ⟨negative, digits⟩ := p
          rw [hexponent] at hc
          rcases List.mem_cons.1 hc with rfl | hc
          · exact .inr (by decide)
          · rcases List.mem_cons.1 hc with rfl | hc
            · cases negative <;> exact .inr (by decide)
            · exact .inl ((hs.exponent negative digits hexponent).1 c hc)

/-- A numeral is a word. -/
theorem Spelling.Proper.isWord {s : Spelling} (hs : s.Proper) : IsWord (Text.ofChars s.chars) := by
  constructor
  · intro hnil
    have hwhole : s.whole = [] := (List.append_eq_nil_iff.1 (List.map_eq_nil_iff.1 hnil)).1
    exact hs.whole.2 hwhole
  · intro c hc
    obtain ⟨d, hd, rfl⟩ := List.mem_map.1 hc
    refine Bool.eq_false_iff.2 fun hdelimiter => ?_
    simp only [Sexp.isDelimiter, decide_eq_true_eq, List.mem_cons, List.not_mem_nil, or_false,
      CodePoint.scalar.injEq] at hdelimiter
    rcases hs.chars_cases d hd with hdigit | hmark
    · rcases hdelimiter with rfl | rfl | rfl | rfl <;> exact absurd hdigit (by decide)
    · rcases hdelimiter with rfl | rfl | rfl | rfl <;> exact absurd hmark (by decide)

theorem Spelling.Proper.digitRun_ne_zero {s : Spelling} (hs : s.Proper) :
    Numeral.digitRun (Text.ofChars s.chars) ≠ 0 := by
  have hpos : s.whole.length ≠ 0 := fun hzero => hs.whole.2 (List.length_eq_zero_iff.1 hzero)
  rw [Spelling.chars, Text.ofChars_append, Numeral.digitRun_append hs.whole.1]
  omega

/-- The text of a number out of range. -/
def infinityText : Text :=
  .ofString "inf"

/-- A double without a sign is dumped as a numeral that is read as the double, unless it is infinite. -/
theorem dump_cases {x : Float} (h : Unsigned x.toModel.unpack) :
    Binary.decode x = .infinite false ∧ Number.dump x = "inf" ∨
      Binary.decode x ≠ .infinite false ∧ ∃ s : Spelling, s.Proper ∧ (Number.dump x).toList = s.chars ∧
        Numeral.value (Text.ofChars s.chars) = x := by
  have hpack := pack_unpack x.toModel
  have hx : Float.ofModel x.toModel = x := rfl
  generalize hunpack : x.toModel.unpack = f at h hpack
  cases h with
  | infinity =>
      have hdecode : Binary.decode x = .infinite false := by
        simp only [Binary.decode, hunpack]
        rfl
      refine .inl ⟨hdecode, ?_⟩
      simp only [Number.dump, Layout.write, hdecode]
      rfl
  | zero =>
      have hdecode := decode_zero hunpack
      have hinteger : Binary.integer? x = some 0 := by
        simp only [Binary.integer?, hdecode]
        rfl
      refine .inr ⟨by rw [hdecode]; exact Binary.noConfusion, ⟨['0'], [], none⟩,
        ⟨⟨areDigits_zeros 1, by simp⟩, fun _ hc => (by cases hc), by simp⟩, ?_, ?_⟩
      · simp only [Number.dump, Layout.write, hdecode, hinteger]
        rfl
      · rw [← hx, ← hpack]
        rfl
  | finite m e hm =>
      obtain ⟨s, hcanonical, hs, hchars, hvalue⟩ := Number.dumped.write_reads_back hunpack
      refine .inr ⟨by rw [decode_of_unpack hunpack]; exact Binary.noConfusion, s, hs, hchars, ?_⟩
      rw [hvalue, ← hx, ← hpack]
      rfl

/-! ## Trees as nested parentheses -/

namespace Expr

mutual

/-- A tree as nested parentheses. -/
def form : Expr → Sexp
  | number _ x => .word (.ofString (Number.dump x))
  | string _ s => .string s
  | unit _ => .list []
  | name _ x => .word x
  | array _ elements => .list (.word (.ofString "array") :: forms elements)
  | apply _ callee argument => .list [.word (.ofString "apply"), callee.form, argument.form]
  | function _ parameter body => .list [.word (.ofString "fn"), .word parameter, body.form]
  | block _ bindings body => .list [.word (.ofString "let"), .list (bindingForms bindings), body.form]
  | choice _ condition whenTrue whenFalse =>
    .list [.word (.ofString "if"), condition.form, whenTrue.form, whenFalse.form]

/-- Several trees as nested parentheses. -/
def forms : List Expr → List Sexp
  | [] => []
  | e :: rest => e.form :: forms rest

/-- Definitions as nested parentheses. -/
def bindingForms : List (Text × Expr) → List Sexp
  | [] => []
  | (x, e) :: rest => .list [.word x, e.form] :: bindingForms rest

end

mutual

/-- The dump of a tree is the text of its nested parentheses. -/
theorem dump_eq (e : Expr) : e.dump = e.form.render := by
  match e with
  | number _ x => rfl
  | string _ s => rfl
  | unit _ => rfl
  | name _ x => rfl
  | array _ elements =>
      rw [dump, form, Sexp.render, Sexp.render, ← dumpElements_eq elements, List.append_assoc]
      rfl
  | apply _ callee argument =>
      simp only [dump, form, Sexp.render, Sexp.renderRest, dump_eq callee, dump_eq argument,
        List.append_assoc]
      rfl
  | function _ parameter body =>
      simp only [dump, form, Sexp.render, Sexp.renderRest, dump_eq body, List.append_assoc]
      rfl
  | block _ bindings body =>
      rw [dump, form, Sexp.render, Sexp.renderRest, Sexp.renderRest, ← dumpBindings_eq bindings,
        dump_eq body]
      simp only [Sexp.render, Sexp.renderRest, List.append_assoc]
      rfl
  | choice _ condition whenTrue whenFalse =>
      simp only [dump, form, Sexp.render, Sexp.renderRest, dump_eq condition, dump_eq whenTrue,
        dump_eq whenFalse, List.append_assoc]
      rfl

theorem dumpElements_eq (elements : List Expr) :
    dumpElements elements ++ .ofString ")" = Sexp.renderRest (forms elements) := by
  match elements with
  | [] => rfl
  | e :: rest =>
      rw [dumpElements, forms, Sexp.renderRest, ← dumpElements_eq rest, dump_eq e, List.append_assoc,
        List.append_assoc]
      rfl

theorem dumpBindings_eq (bindings : List (Text × Expr)) :
    .ofString "(" ++ (dumpBindings bindings ++ .ofString ")") =
      (Sexp.list (bindingForms bindings)).render := by
  match bindings with
  | [] => rfl
  | [(x, e)] =>
      simp only [dumpBindings, bindingForms, Sexp.render, Sexp.renderRest, dump_eq e, List.append_assoc,
        List.cons_append]
      rfl
  | (x, e) :: (y, f) :: rest =>
      have hrest : dumpBindings ((y, f) :: rest) ++ .ofString ")" =
          (Sexp.list [.word y, f.form]).render ++ Sexp.renderRest (bindingForms rest) :=
        (List.cons.inj (dumpBindings_eq ((y, f) :: rest))).2
      rw [bindingForms, bindingForms, Sexp.render, Sexp.renderRest, ← hrest, dumpBindings]
      · simp only [Sexp.render, Sexp.renderRest, List.append_assoc, List.cons_append, dump_eq e]
        rfl
      · simp

end

end Expr

/-! ## Trees back from nested parentheses -/

namespace Sexp

/-- A word as a tree: a number if it starts with a digit, and otherwise a name. -/
def ofWord (t : Text) : Expr :=
  if Numeral.digitRun t = 0 then .name default t else .number default (Numeral.value t)

/-- The first item as the name of a parameter. -/
def parameter : List Sexp → Text
  | word x :: _ => x
  | _ => []

/-- The tree of a list by the word that heads it, from the trees of its other items and from what the first
of them is as a name and as definitions. -/
def form (head : Text) (parts : List Expr) (parameter : Text) (bindings : List (Text × Expr)) : Expr :=
  if head = .ofString "array" then .array default parts
  else if head = .ofString "apply" then .apply default (parts.getD 0 default) (parts.getD 1 default)
  else if head = .ofString "fn" then .function default parameter (parts.getD 1 default)
  else if head = .ofString "let" then .block default bindings (parts.getD 1 default)
  else .choice default (parts.getD 0 default) (parts.getD 1 default) (parts.getD 2 default)

mutual

/-- The tree of nested parentheses, by the word that heads them. -/
def expr : Sexp → Expr
  | word t => ofWord t
  | string s => .string default s
  | list (word head :: items) =>
    form head (exprs items) (parameter items) (definitions items)
  | list _ => .unit default

/-- The trees of several items. -/
def exprs : List Sexp → List Expr
  | [] => []
  | item :: rest => item.expr :: exprs rest

/-- The first item as definitions. -/
def definitions : List Sexp → List (Text × Expr)
  | list items :: _ => bindings items
  | _ => []

/-- The definitions of several items, each a name and a tree in parentheses. -/
def bindings : List Sexp → List (Text × Expr)
  | list [word x, item] :: rest => (x, item.expr) :: bindings rest
  | _ => []

end

end Sexp

namespace Expr

mutual

/-- A tree without its spans, and with the name `inf` in place of a number out of range. -/
def shown : Expr → Expr
  | number _ x => if Binary.decode x = .infinite false then name default infinityText else number default x
  | string _ s => string default s
  | unit _ => unit default
  | name _ x => name default x
  | array _ elements => array default (shownElements elements)
  | apply _ callee argument => apply default callee.shown argument.shown
  | function _ parameter body => function default parameter body.shown
  | block _ bindings body => block default (shownBindings bindings) body.shown
  | choice _ condition whenTrue whenFalse =>
    choice default condition.shown whenTrue.shown whenFalse.shown

def shownElements : List Expr → List Expr
  | [] => []
  | e :: rest => e.shown :: shownElements rest

def shownBindings : List (Text × Expr) → List (Text × Expr)
  | [] => []
  | (x, e) :: rest => (x, e.shown) :: shownBindings rest

end

/-- The names of a node are words. -/
def Named : Expr → Prop
  | name _ x => IsName x
  | function _ parameter _ => IsName parameter
  | block _ bindings _ => ∀ binding ∈ bindings, IsName binding.1
  | _ => True

/-- What makes a node legible in a dump: a number without a sign, a string without surrogate pairs, and
names that are words. -/
def Legible : Expr → Prop
  | number _ x => Unsigned x.toModel.unpack
  | string _ s => s.Unpaired
  | e => e.Named

/-- The children of a node have what all nodes below it have. -/
theorem All.child {P : Expr → Prop} {tree e : Expr} (h : tree.All P) (he : e ∈ tree.children) : e.All P :=
  fun node hnode => h node (.head he hnode)

theorem All.binding {P : Expr → Prop} {span : Span} {bindings : List (Text × Expr)} {body : Expr}
    (h : (block span bindings body).All P) : ∀ binding ∈ bindings, binding.2.All P :=
  fun _ hbinding => h.child (List.mem_append_left _ (List.mem_map_of_mem hbinding))

theorem All.root {P : Expr → Prop} {tree : Expr} (h : tree.All P) : P tree :=
  h tree .refl

/-- A word of a dumped number is read as that number. -/
theorem ofWord_dump {x : Float} (h : Unsigned x.toModel.unpack) (span : Span) :
    Sexp.ofWord (.ofString (Number.dump x)) = (number span x).shown := by
  rw [shown]
  rcases dump_cases h with ⟨hdecode, hdump⟩ | ⟨hdecode, s, hs, hdump, hvalue⟩
  · rw [if_pos hdecode, hdump]
    rfl
  · rw [if_neg hdecode, Text.ofString_eq, hdump, Sexp.ofWord, if_neg hs.digitRun_ne_zero, hvalue]

mutual

/-- A tree of legible nodes is got back from its nested parentheses. -/
theorem expr_form (e : Expr) (h : e.All Legible) : e.form.expr = e.shown := by
  match e with
  | number span x => rw [form, Sexp.expr, ofWord_dump h.root span]
  | string _ s => rw [form, Sexp.expr, shown]
  | unit _ => rfl
  | name _ x =>
      have hx : IsName x := h.root
      rw [form, Sexp.expr, shown, Sexp.ofWord, if_pos hx.start]
  | array _ elements =>
      rw [form, Sexp.expr, shown, exprs_forms elements fun e he => h.child he]
      rfl
  | apply _ callee argument =>
      have hcallee := expr_form callee (h.child (by simp [children]))
      have hargument := expr_form argument (h.child (by simp [children]))
      simp only [form, Sexp.expr, Sexp.exprs, shown, hcallee, hargument]
      rfl
  | function _ parameter body =>
      have hbody := expr_form body (h.child (by simp [children]))
      simp only [form, Sexp.expr, Sexp.exprs, shown, hbody]
      rfl
  | block _ bindings body =>
      have hbindings := bindings_forms bindings h.binding
      have hbody := expr_form body (h.child (by simp [children]))
      rw [form, Sexp.expr, shown, Sexp.definitions, hbindings, Sexp.exprs, Sexp.exprs, Sexp.exprs, hbody]
      rfl
  | choice _ condition whenTrue whenFalse =>
      have hcondition := expr_form condition (h.child (by simp [children]))
      have htrue := expr_form whenTrue (h.child (by simp [children]))
      have hfalse := expr_form whenFalse (h.child (by simp [children]))
      simp only [form, Sexp.expr, Sexp.exprs, shown, hcondition, htrue, hfalse]
      rfl

theorem exprs_forms (elements : List Expr) (h : ∀ e ∈ elements, e.All Legible) :
    Sexp.exprs (forms elements) = shownElements elements := by
  match elements with
  | [] => rfl
  | e :: rest =>
      rw [List.forall_mem_cons] at h
      rw [forms, Sexp.exprs, shownElements, expr_form e h.1, exprs_forms rest h.2]

theorem bindings_forms (bindings : List (Text × Expr)) (h : ∀ binding ∈ bindings, binding.2.All Legible) :
    Sexp.bindings (bindingForms bindings) = shownBindings bindings := by
  match bindings with
  | [] => rfl
  | (x, e) :: rest =>
      rw [List.forall_mem_cons] at h
      rw [bindingForms, Sexp.bindings, shownBindings, expr_form e h.1, bindings_forms rest h.2]

end

/-- A list is legible if its items are, behind the word that heads it. -/
theorem legible_list (head : String) (hhead : IsName (.ofString head)) {items : List Sexp}
    (h : ∀ item ∈ items, item.Legible) : (Sexp.list (.word (.ofString head) :: items)).Legible :=
  .list (List.forall_mem_cons.2 ⟨.word hhead.toIsWord, h⟩)

mutual

/-- The nested parentheses of a tree of legible nodes can be read. -/
theorem form_legible (e : Expr) (h : e.All Legible) : e.form.Legible := by
  match e with
  | number span x =>
      refine .word ?_
      rcases dump_cases h.root with ⟨-, hdump⟩ | ⟨-, s, hs, hdump, -⟩
      · rw [hdump]
        exact (by decide : IsName infinityText).toIsWord
      · rw [Text.ofString_eq, hdump]
        exact hs.isWord
  | string _ s => exact .string h.root
  | unit _ => exact .list fun item hitem => absurd hitem List.not_mem_nil
  | name _ x => exact .word (IsName.toIsWord h.root)
  | array _ elements =>
      exact legible_list "array" (by decide) (forms_legible elements fun e he => h.child he)
  | apply _ callee argument =>
      have hcallee := form_legible callee (h.child (by simp [children]))
      have hargument := form_legible argument (h.child (by simp [children]))
      exact legible_list "apply" (by decide) (by simp [hcallee, hargument])
  | function _ parameter body =>
      have hbody := form_legible body (h.child (by simp [children]))
      have hparameter : IsName parameter := h.root
      exact legible_list "fn" (by decide) (by simp [hbody, Sexp.Legible.word hparameter.toIsWord])
  | block _ bindings body =>
      have hbindings := bindingForms_legible bindings h.root h.binding
      have hbody := form_legible body (h.child (by simp [children]))
      exact legible_list "let" (by decide) (by simp [hbody, Sexp.Legible.list hbindings])
  | choice _ condition whenTrue whenFalse =>
      have hcondition := form_legible condition (h.child (by simp [children]))
      have htrue := form_legible whenTrue (h.child (by simp [children]))
      have hfalse := form_legible whenFalse (h.child (by simp [children]))
      exact legible_list "if" (by decide) (by simp [hcondition, htrue, hfalse])

theorem forms_legible (elements : List Expr) (h : ∀ e ∈ elements, e.All Legible) :
    ∀ item ∈ forms elements, item.Legible := by
  match elements with
  | [] => exact fun item hitem => absurd hitem List.not_mem_nil
  | e :: rest =>
      rw [List.forall_mem_cons] at h
      exact List.forall_mem_cons.2 ⟨form_legible e h.1, forms_legible rest h.2⟩

theorem bindingForms_legible (bindings : List (Text × Expr)) (hnames : ∀ binding ∈ bindings, IsName binding.1)
    (h : ∀ binding ∈ bindings, binding.2.All Legible) : ∀ item ∈ bindingForms bindings, item.Legible := by
  match bindings with
  | [] => exact fun item hitem => absurd hitem List.not_mem_nil
  | (x, e) :: rest =>
      rw [List.forall_mem_cons] at h hnames
      have he := form_legible e h.1
      have hx : (Sexp.word x).Legible := .word hnames.1.toIsWord
      exact List.forall_mem_cons.2
        ⟨.list (by simp [hx, he]), bindingForms_legible rest hnames.2 h.2⟩

end

/-- Trees of legible nodes with the same dump are shown alike. -/
theorem shown_eq_of_dump_eq {e e' : Expr} (h : e.All Legible) (h' : e'.All Legible)
    (hdump : e.dump = e'.dump) : e.shown = e'.shown := by
  rw [dump_eq, dump_eq] at hdump
  have hform : e.form = e'.form := by
    have hend : Sexp.Closed [] := fun _ hc => by cases hc
    refine (Sexp.render_append_inj e.form e'.form (form_legible e h) (form_legible e' h') hend hend ?_).1
    rw [hdump]
  rw [← expr_form e h, hform, expr_form e' h']

mutual

/-- A tree is dumped as it is shown. -/
theorem dump_shown (e : Expr) : e.shown.dump = e.dump := by
  match e with
  | number _ x =>
      rw [shown]
      split
      · next hdecode =>
          simp only [dump, Number.dump, Layout.write, hdecode]
          rfl
      · rfl
  | string _ s => rfl
  | unit _ => rfl
  | name _ x => rfl
  | array _ elements => simp only [shown, dump, dumpElements_shown elements]
  | apply _ callee argument => simp only [shown, dump, dump_shown callee, dump_shown argument]
  | function _ parameter body => simp only [shown, dump, dump_shown body]
  | block _ bindings body => simp only [shown, dump, dumpBindings_shown bindings, dump_shown body]
  | choice _ condition whenTrue whenFalse =>
      simp only [shown, dump, dump_shown condition, dump_shown whenTrue, dump_shown whenFalse]

theorem dumpElements_shown (elements : List Expr) :
    dumpElements (shownElements elements) = dumpElements elements := by
  match elements with
  | [] => rfl
  | e :: rest => rw [shownElements, dumpElements, dumpElements, dump_shown e, dumpElements_shown rest]

theorem dumpBindings_shown (bindings : List (Text × Expr)) :
    dumpBindings (shownBindings bindings) = dumpBindings bindings := by
  match bindings with
  | [] => rfl
  | [(x, e)] => simp only [shownBindings, dumpBindings, dump_shown e]
  | (x, e) :: (y, f) :: rest =>
      have hrest := dumpBindings_shown ((y, f) :: rest)
      rw [shownBindings] at hrest
      simp only [shownBindings, dumpBindings, dump_shown e, hrest]

end

/-- Trees of legible nodes have the same dump just if they are shown alike. -/
theorem dump_eq_iff {e e' : Expr} (h : e.All Legible) (h' : e'.All Legible) :
    e.dump = e'.dump ↔ e.shown = e'.shown := by
  constructor
  · exact shown_eq_of_dump_eq h h'
  · intro hshown
    rw [← dump_shown e, hshown, dump_shown e']

/-! ## The trees of the parser -/

theorem WellNamed.named {e : Expr} (h : e.WellNamed) : e.All Named := by
  induction h with
  | number | string | unit => exact .leaf trivial rfl
  | name hx => exact .leaf hx.isName rfl
  | array _ ih => exact .of_children trivial ih
  | apply _ _ ihcallee ihargument => exact .apply trivial ihcallee ihargument
  | operator hx _ ih => exact .apply trivial (.leaf hx.isName rfl) ih
  | function hparameter _ ih => exact .of_children hparameter.isName (forall_children_function.2 ih)
  | block hnames _ _ ihbindings ihbody =>
      exact .of_children (fun binding hbinding => (hnames binding hbinding).isName)
        (forall_children_block.2 ⟨ihbindings, ihbody⟩)
  | choice _ _ _ ihcondition ihtrue ihfalse =>
      exact .of_children trivial (forall_children_choice.2 ⟨ihcondition, ihtrue, ihfalse⟩)

end Expr

theorem Text.scalars_of_isUnicode {t : Text} (h : t.isUnicode = true) : ∀ c ∈ t, ∃ d, c = .scalar d := by
  intro c hc
  have hscalar := List.all_eq_true.1 h c hc
  cases c with
  | scalar d => exact ⟨d, rfl⟩
  | surrogate index => cases hscalar

/-- The nodes of a parsed tree are legible, if the source has no surrogates in it. -/
theorem parse_legible {source : Text} {e : Expr} (hsource : source.isUnicode = true)
    (h : parse source = .ok e) : e.All Expr.Legible := by
  intro node hnode
  have hreads := parse_reads h node hnode
  have hnamed := (parse_wellNamed h).named node hnode
  cases node with
  | number span x =>
      obtain ⟨t, -, -, -, -, rfl⟩ := hreads
      exact unsigned_nearest _ _
  | string span s =>
      obtain ⟨t, ht, hkind, -, -, hdecode⟩ := hreads
      have hstands : t.Stands source := scan_stands ht (by simp [hkind])
      obtain ⟨before, after, hsplit, -, -⟩ := hstands
      refine Literal.decode_unpaired (fun c hc => ?_) hdecode
      refine Text.scalars_of_isUnicode hsource c ?_
      rw [hsplit]
      exact List.mem_append_right _ (List.mem_append_left _ hc)
  | unit | name | array | apply | function | block | choice => exact hnamed

/-- Two programs without surrogates have trees with the same dump just if the trees are the same, up to spans
and to numbers out of range, which stand where the other tree may have the name `inf`. -/
theorem dump_readable {source source' : Text} {e e' : Expr} (hsource : source.isUnicode = true)
    (hsource' : source'.isUnicode = true) (h : parse source = .ok e) (h' : parse source' = .ok e') :
    e.dump = e'.dump ↔ e.shown = e'.shown :=
  Expr.dump_eq_iff (parse_legible hsource h) (parse_legible hsource' h')

/-- The tree of `f "a) (b", 1e+999`. -/
def outOfRange : Expr :=
  .apply ⟨0, 17⟩ (.apply ⟨0, 9⟩ (.name ⟨0, 1⟩ (.ofString "f")) (.string ⟨2, 9⟩ (.ofString "a) (b")))
    (.number ⟨11, 17⟩ (Numeral.value (.ofString "1e+999")))

/-- The tree of `f("a) (b", inf)`. -/
def namedInf : Expr :=
  .apply ⟨0, 15⟩ (.apply ⟨0, 9⟩ (.name ⟨0, 1⟩ (.ofString "f")) (.string ⟨2, 9⟩ (.ofString "a) (b")))
    (.name ⟨11, 14⟩ (.ofString "inf"))

theorem outOfRange_read :
    (Text.ofString "f \"a) (b\", 1e+999").isUnicode = true ∧
      (Text.ofString "f(\"a) (b\", inf)").isUnicode = true ∧
      parse (.ofString "f \"a) (b\", 1e+999") = .ok outOfRange ∧
      parse (.ofString "f(\"a) (b\", inf)") = .ok namedInf ∧
      outOfRange.dump = namedInf.dump ∧ outOfRange.shown = namedInf.shown := by
  have hparse : parse (.ofString "f \"a) (b\", 1e+999") = .ok outOfRange := rfl
  have hparse' : parse (.ofString "f(\"a) (b\", inf)") = .ok namedInf := by cbv
  have hdump : outOfRange.dump = namedInf.dump := by decide +kernel
  exact ⟨rfl, rfl, hparse, hparse', hdump, (dump_readable rfl rfl hparse hparse').1 hdump⟩

end RollScript
