import RollScript.Proofs.Printing.Literals

/-!
# Nested parentheses

A `Sexp` is a word, a string, or a list in parentheses with a blank between any two items. Read
`render_append_inj` first: what is written so is read in one way only, also with more text after it, if the
words have no character in them that ends a word.
-/

namespace RollScript

/-- A word, a string, or a list of such. -/
inductive Sexp where
  | word (t : Text)
  | string (s : Text)
  | list (items : List Sexp)

namespace Sexp

mutual

/-- The text of an item. -/
def render : Sexp → Text
  | word t => t
  | string s => .ofString (Literal.encode s)
  | list [] => [.scalar '(', .scalar ')']
  | list (first :: rest) => .scalar '(' :: (first.render ++ renderRest rest)

/-- The text of a list after an item of it: the items that are left, each after a blank, and the closing
parenthesis. -/
def renderRest : List Sexp → Text
  | [] => [.scalar ')']
  | item :: rest => .scalar ' ' :: (item.render ++ renderRest rest)

end

theorem render_list_append (first : Sexp) (more : List Sexp) (rest : Text) :
    (list (first :: more)).render ++ rest =
      .scalar '(' :: (first.render ++ (renderRest more ++ rest)) := by
  rw [render, List.cons_append, List.append_assoc]

theorem renderRest_cons_append (item : Sexp) (more : List Sexp) (rest : Text) :
    renderRest (item :: more) ++ rest =
      .scalar ' ' :: (item.render ++ (renderRest more ++ rest)) := by
  rw [renderRest, List.cons_append, List.append_assoc]

/-! ## Words -/

/-- The characters that end a word. -/
def isDelimiter (c : CodePoint) : Bool :=
  c ∈ [CodePoint.scalar ' ', .scalar '(', .scalar ')', .scalar '"']

/-- A text with at least one character and none that ends a word. -/
structure IsWord (t : Text) : Prop where
  nonempty : t ≠ []
  plain : ∀ c ∈ t, isDelimiter c = false

/-- A text before which a word ends. -/
def Closed (rest : Text) : Prop :=
  ∀ c ∈ rest.head?, isDelimiter c = true

theorem closed_cons {c : CodePoint} (h : isDelimiter c = true) (rest : Text) : Closed (c :: rest) := by
  intro d hd
  cases hd
  exact h

theorem closed_renderRest (items : List Sexp) (rest : Text) : Closed (renderRest items ++ rest) := by
  cases items <;> exact closed_cons rfl _

variable {t t' rest rest' : Text} {a b : Sexp}

theorem IsWord.takeWhile_eq (h : IsWord t) (hrest : Closed rest) :
    (t ++ rest).takeWhile (fun c => !isDelimiter c) = t := by
  have hnone : rest.takeWhile (fun c => !isDelimiter c) = [] := by
    cases rest with
    | nil => rfl
    | cons c rest => exact List.takeWhile_cons_of_neg (by simp [hrest c rfl])
  rw [List.takeWhile_append_of_pos (fun c hc => by simp [h.plain c hc]), hnone, List.append_nil]

/-- A word is read up to the first character that ends it. -/
theorem IsWord.append_inj (h : IsWord t) (h' : IsWord t') (hrest : Closed rest) (hrest' : Closed rest')
    (heq : t ++ rest = t' ++ rest') : t = t' ∧ rest = rest' := by
  have hword : t = t' := by rw [← h.takeWhile_eq hrest, heq, h'.takeWhile_eq hrest']
  subst hword
  exact ⟨rfl, List.append_cancel_left heq⟩

/-! ## Strings -/

/-- A written string is read up to its closing quote. -/
theorem encode_append_inj {s s' : Text} (h : s.Unpaired) (h' : s'.Unpaired)
    (heq : Text.ofString (Literal.encode s) ++ rest = Text.ofString (Literal.encode s') ++ rest') :
    s = s' ∧ rest = rest' := by
  obtain ⟨body, hbody, hlength⟩ := Literal.literalRest_encode s rest
  obtain ⟨body', hbody', hlength'⟩ := Literal.literalRest_encode s' rest'
  have hafter : Text.ofChars body ++ rest = Text.ofChars body' ++ rest' := by
    rw [Text.ofString_eq, Text.ofString_eq, hbody, hbody'] at heq
    exact (List.cons.inj heq).2
  rw [hafter, hlength'] at hlength
  have hsame : (Text.ofChars body).length = (Text.ofChars body').length := by
    rw [Text.length_ofChars, Text.length_ofChars, Option.some.inj hlength]
  obtain ⟨hchars, hrest⟩ := List.append_inj hafter hsame
  refine ⟨?_, hrest⟩
  have hvalue := Literal.decode_encode s
  have hliteral : Text.ofString (Literal.encode s) = Text.ofString (Literal.encode s') := by
    rw [Text.ofString_eq, Text.ofString_eq, hbody, hbody', Text.ofChars_cons, Text.ofChars_cons, hchars]
  rw [hliteral, Literal.decode_encode, Text.joinPairs_eq_self h', Text.joinPairs_eq_self h] at hvalue
  exact (Option.some.inj hvalue).symm

/-! ## Items -/

/-- What can be read back: the words are words, and no string has two halves of a surrogate pair in it that
would be read as one character. -/
inductive Legible : Sexp → Prop where
  | word {t : Text} : IsWord t → Legible (.word t)
  | string {s : Text} : s.Unpaired → Legible (.string s)
  | list {items : List Sexp} : (∀ item ∈ items, Legible item) → Legible (.list items)

/-- How the text of an item starts. -/
inductive Starts : Sexp → CodePoint → Prop where
  | word {t : Text} {c : CodePoint} : isDelimiter c = false → Starts (.word t) c
  | string (s : Text) : Starts (.string s) (.scalar '"')
  | list (items : List Sexp) : Starts (.list items) (.scalar '(')

theorem Legible.starts (h : a.Legible) : ∃ c later, a.render = c :: later ∧ a.Starts c := by
  cases h with
  | @word t ht =>
      obtain ⟨c, later, rfl⟩ := List.exists_cons_of_ne_nil ht.nonempty
      exact ⟨c, later, rfl, .word (ht.plain c List.mem_cons_self)⟩
  | @string s hs =>
      obtain ⟨body, hbody, -⟩ := Literal.literalRest_encode s []
      refine ⟨.scalar '"', Text.ofChars body, ?_, .string s⟩
      rw [render, Text.ofString_eq, hbody, Text.ofChars_cons]
  | @list items hitems =>
      cases items with
      | nil => exact ⟨_, _, rfl, .list []⟩
      | cons first rest => exact ⟨_, _, rfl, .list (first :: rest)⟩

/-- Items with the same text start alike. -/
theorem Legible.exists_start (ha : a.Legible) (hb : b.Legible)
    (h : a.render ++ rest = b.render ++ rest') : ∃ c, a.Starts c ∧ b.Starts c := by
  obtain ⟨c, later, hc, hstarts⟩ := ha.starts
  obtain ⟨d, later', hd, hstarts'⟩ := hb.starts
  rw [hc, hd] at h
  obtain rfl : c = d := (List.cons.inj h).1
  exact ⟨c, hstarts, hstarts'⟩

theorem Legible.render_ne_close (h : a.Legible) (later : Text) :
    a.render ++ later ≠ .scalar ')' :: rest := by
  obtain ⟨c, after, hc, hstarts⟩ := h.starts
  rw [hc]
  intro heq
  obtain rfl : c = .scalar ')' := (List.cons.inj heq).1
  cases hstarts with
  | word hplain => cases hplain

mutual

/-- An item is read in one way, and so is what comes after it. -/
theorem render_append_inj (a b : Sexp) (ha : a.Legible) (hb : b.Legible) {rest rest' : Text}
    (hrest : Closed rest) (hrest' : Closed rest') (h : a.render ++ rest = b.render ++ rest') :
    a = b ∧ rest = rest' := by
  match a, b, ha, hb with
  | .word t, .word t', .word ht, .word ht' =>
      obtain ⟨rfl, hrest⟩ := ht.append_inj ht' hrest hrest' h
      exact ⟨rfl, hrest⟩
  | .string s, .string s', .string hs, .string hs' =>
      obtain ⟨rfl, hrest⟩ := encode_append_inj hs hs' h
      exact ⟨rfl, hrest⟩
  | .list [], .list [], _, _ =>
      exact ⟨rfl, (List.append_inj h rfl).2⟩
  | .list [], .list (first :: more), _, .list hitems =>
      rw [render_list_append] at h
      exact absurd (List.cons.inj h).2.symm ((hitems first List.mem_cons_self).render_ne_close _)
  | .list (first :: more), .list [], .list hitems, _ =>
      rw [render_list_append] at h
      exact absurd (List.cons.inj h).2 ((hitems first List.mem_cons_self).render_ne_close _)
  | .list (first :: more), .list (first' :: more'), .list hitems, .list hitems' =>
      rw [List.forall_mem_cons] at hitems hitems'
      rw [render_list_append, render_list_append] at h
      obtain ⟨rfl, hmore⟩ := render_append_inj first first' hitems.1 hitems'.1
        (closed_renderRest more rest) (closed_renderRest more' rest') (List.cons.inj h).2
      obtain ⟨rfl, hrest⟩ := renderRest_append_inj more more' hitems.2 hitems'.2 hmore
      exact ⟨rfl, hrest⟩
  | .word t, .string s, ha, hb | .string s, .word t, ha, hb | .word t, .list items, ha, hb
  | .list items, .word t, ha, hb | .string s, .list items, ha, hb | .list items, .string s, ha, hb =>
      -- A blank, a quote and a parenthesis end a word, so none of them starts one.
      obtain ⟨c, hstarts, hstarts'⟩ := ha.exists_start hb h
      cases hstarts
      cases hstarts' <;> contradiction

/-- The items of a list are read in one way. -/
theorem renderRest_append_inj (items items' : List Sexp) (h : ∀ item ∈ items, item.Legible)
    (h' : ∀ item ∈ items', item.Legible) {rest rest' : Text}
    (heq : renderRest items ++ rest = renderRest items' ++ rest') : items = items' ∧ rest = rest' := by
  match items, items' with
  | [], [] => exact ⟨rfl, (List.cons.inj heq).2⟩
  | [], _ :: _ | _ :: _, [] => cases (List.cons.inj heq).1
  | item :: more, item' :: more' =>
      rw [List.forall_mem_cons] at h h'
      rw [renderRest_cons_append, renderRest_cons_append] at heq
      obtain ⟨rfl, hmore⟩ := render_append_inj item item' h.1 h'.1 (closed_renderRest more rest)
        (closed_renderRest more' rest') (List.cons.inj heq).2
      obtain ⟨rfl, hrest⟩ := renderRest_append_inj more more' h.2 h'.2 hmore
      exact ⟨rfl, hrest⟩

end

end Sexp

end RollScript
