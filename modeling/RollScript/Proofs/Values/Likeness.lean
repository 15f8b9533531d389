import Mathlib.Data.List.Forall2
import RollScript.Primitive.Die
import RollScript.Primitive.Tally
import RollScript.Proofs.Printing.Values
import RollScript.Proofs.Values.Equality

/-!
# Values that differ in their functions

Two values are alike if they are the same but for their functions, which a given relation ties
together. Nothing that the language computes looks inside a function: alike values print alike, are
equal to the same values, pass the same guards, and operations, dice and removal take them to alike
values. Read `Operation.apply_alike` first. With functions that satisfy a property and are tied to
themselves only, all this says that computations keep to values whose functions have the property.
-/

namespace RollScript

variable {F : Function → Function → Prop}

/-- Two values are the same but for their functions, which `F` ties together. -/
inductive Value.Alike (F : Function → Function → Prop) : Value → Value → Prop where
  | number (x : Float) : Alike F (.number x) (.number x)
  | string (s : Text) : Alike F (.string s) (.string s)
  | unit : Alike F .unit .unit
  | array {items others : List Value} :
      List.Forall₂ (Alike F) items others → Alike F (.array items) (.array others)
  | function {f g : Function} : F f g → Alike F (.function f) (.function g)

/-- Two computations stop for the same reason, or have results that `R` relates. -/
inductive AnswersAlike {α β : Type} (R : α → β → Prop) : Except Stop α → Except Stop β → Prop where
  | ok {a : α} {b : β} : R a b → AnswersAlike R (.ok a) (.ok b)
  | error (stop : Stop) : AnswersAlike R (.error stop) (.error stop)

namespace AnswersAlike

variable {α β γ δ : Type} {R : α → β → Prop} {Q : γ → δ → Prop}

theorem map {a : Except Stop α} {b : Except Stop β} {f : α → γ} {g : β → δ}
    (h : AnswersAlike R a b) (hfg : ∀ x y, R x y → Q (f x) (g y)) :
    AnswersAlike Q (a.map f) (b.map g) := by
  cases h with
  | ok h => exact .ok (hfg _ _ h)
  | error stop => exact .error stop

theorem bind {a : Except Stop α} {b : Except Stop β} {f : α → Except Stop γ}
    {g : β → Except Stop δ} (h : AnswersAlike R a b)
    (hfg : ∀ x y, R x y → AnswersAlike Q (f x) (g y)) : AnswersAlike Q (a >>= f) (b >>= g) := by
  cases h with
  | ok h => exact hfg _ _ h
  | error stop => exact .error stop

end AnswersAlike

namespace Value

theorem Alike.array_left {items : List Value} {w : Value} (h : Alike F (.array items) w) :
    ∃ others, w = .array others ∧ List.Forall₂ (Alike F) items others := by
  cases h with
  | array hitems => exact ⟨_, rfl, hitems⟩

theorem Alike.function_left {f : Function} {w : Value} (h : Alike F (.function f) w) :
    ∃ g, w = .function g ∧ F f g := by
  cases h with
  | function hf => exact ⟨_, rfl, hf⟩

theorem Alike.array_right {others : List Value} {v : Value} (h : Alike F v (.array others)) :
    ∃ items, v = .array items := by
  cases h with
  | array => exact ⟨_, rfl⟩

theorem Alike.function_right {g : Function} {v : Value} (h : Alike F v (.function g)) :
    ∃ f, v = .function f := by
  cases h with
  | function => exact ⟨_, rfl⟩
theorem Alike.isNumber_eq {v w : Value} (h : Alike F v w) : v.isNumber = w.isNumber := by
  cases h <;> rfl

theorem Alike.truthy_eq {v w : Value} (h : Alike F v w) : v.truthy = w.truthy := by
  cases h <;> rfl

theorem Alike.number?_eq {v w : Value} (h : Alike F v w) : v.number? = w.number? := by
  cases h <;> rfl

theorem alike_ofNumbers (xs : List Float) : Alike F (ofNumbers xs) (ofNumbers xs) := by
  refine .array ?_
  induction xs with
  | nil => exact .nil
  | cons x rest ih => exact .cons (.number x) ih

theorem all_isNumber_eq {items others : List Value} (h : List.Forall₂ (Alike F) items others) :
    items.all isNumber = others.all isNumber := by
  induction h with
  | nil => rfl
  | cons hv _ ih => rw [List.all_cons, List.all_cons, hv.isNumber_eq, ih]

theorem mapM_number?_eq {items others : List Value} (h : List.Forall₂ (Alike F) items others) :
    items.mapM number? = others.mapM number? := by
  induction h with
  | nil => rfl
  | cons hv _ ih => rw [List.mapM_cons, List.mapM_cons, hv.number?_eq, ih]

/-! ## Texts and equality -/

mutual

theorem Alike.render_eq : ∀ {v w : Value}, Alike F v w → v.render = w.render
  | .number _, _, .number _ => rfl
  | .string _, _, .string _ => rfl
  | .unit, _, .unit => rfl
  | .array _, _, .array h => by rw [render, render, renderItems_eq h]
  | .function _, _, .function _ => rfl

theorem renderItems_eq : ∀ {items others : List Value}, List.Forall₂ (Alike F) items others →
    renderItems items = renderItems others
  | [], _, .nil => rfl
  | [v], _, .cons hv .nil => by rw [renderItems, renderItems, hv.render_eq]
  | v :: w :: rest, v' :: w' :: rest', .cons hv (.cons hw hrest) => by
      show v.render ++ ". " ++ renderItems (w :: rest) = v'.render ++ ". " ++ renderItems (w' :: rest')
      rw [hv.render_eq, renderItems_eq (.cons hw hrest)]

end

/-- Alike values print alike. -/
theorem Alike.print_eq {v w : Value} (h : Alike F v w) : v.print = w.print := by
  rw [print_eq_render, print_eq_render, h.render_eq]

mutual

theorem Alike.same_eq : ∀ {v w v' w' : Value}, Alike F v v' → Alike F w w' → v.same w = v'.same w'
  | .array _, _, _, _, .array h, .array h' => by rw [same, same, sameItems_eq_of_alike h h']
  | _, _, _, _, .number _, h' => by cases h' <;> rfl
  | _, _, _, _, .string _, h' => by cases h' <;> rfl
  | _, _, _, _, .unit, h' => by cases h' <;> rfl
  | _, _, _, _, .function _, h' => by cases h' <;> rfl
  | _, _, _, _, .array _, .number _ => rfl
  | _, _, _, _, .array _, .string _ => rfl
  | _, _, _, _, .array _, .unit => rfl
  | _, _, _, _, .array _, .function _ => rfl

theorem sameItems_eq_of_alike : ∀ {items others items' others' : List Value},
    List.Forall₂ (Alike F) items items' → List.Forall₂ (Alike F) others others' →
    sameItems items others = sameItems items' others'
  | [], _, _, _, .nil, .nil => rfl
  | [], _, _, _, .nil, .cons _ _ => rfl
  | _ :: _, _, _, _, .cons _ _, .nil => rfl
  | _ :: _, _, _, _, .cons hv hrest, .cons hw hrest' => by
      rw [sameItems, sameItems, hv.same_eq hw, sameItems_eq_of_alike hrest hrest']

end

/-- Alike values are equal to alike values. -/
theorem Alike.equal_eq {v w v' w' : Value} (hv : Alike F v v') (hw : Alike F w w') :
    v.equal w = v'.equal w' := by
  rw [equal_eq_same, equal_eq_same, hv.same_eq hw]

end Value

open Value (Alike)

theorem Stop.mismatch_eq {v w : Value} (h : Alike F v w) (expected : Expected) :
    Stop.mismatch expected v = Stop.mismatch expected w := by
  rw [mismatch, mismatch, h.print_eq]

theorem answers_mismatch {α β : Type} {R : α → β → Prop} {v w : Value} (h : Alike F v w)
    (expected : Expected) :
    AnswersAlike R (.error (.mismatch expected v)) (.error (.mismatch expected w)) := by
  rw [Stop.mismatch_eq h]
  exact .error _

/-- Alike values pass the same guards. -/
theorem Guard.refusal?_eq {v w : Value} (h : Alike F v w) (guard : Guard) :
    guard.refusal? v = guard.refusal? w := by
  cases h with
  | number | string | unit | function => cases guard <;> rfl
  | array h =>
      cases guard with
      | numbers => rw [refusal?, refusal?, Value.all_isNumber_eq h]
      | _ => rfl

theorem Guard.refusal?_of_check {guard : Guard} {v : Value} (h : guard.check v = .ok ()) :
    guard.refusal? v = none := by
  unfold check at h
  split at h
  · assumption
  · cases h

theorem Guard.check_eq {v w : Value} (h : Alike F v w) (guard : Guard) :
    guard.check v = guard.check w := by
  rw [check, check, refusal?_eq h]
  split
  · rfl
  · rw [Stop.mismatch_eq h]

/-! ## Operations -/

namespace Value

theorem add_alike {v w v' w' : Value} (hv : Alike F v v') (hw : Alike F w w') :
    AnswersAlike (Alike F) (v.add w) (v'.add w') := by
  cases hv with
  | array hitems =>
      cases hw with
      | array hothers => exact .ok (.array (List.rel_append hitems hothers))
      | number x => exact .ok (.array (List.rel_append hitems (.cons (.number x) .nil)))
      | string s => exact .ok (.array (List.rel_append hitems (.cons (.string s) .nil)))
      | unit => exact .ok (.array (List.rel_append hitems (.cons .unit .nil)))
      | function hf => exact .ok (.array (List.rel_append hitems (.cons (.function hf) .nil)))
  | number x =>
      cases hw with
      | array hothers => exact .ok (.array (.cons (.number x) hothers))
      | number y => exact .ok (.number (x + y))
      | string s => exact .error _
      | unit => exact .error _
      | function hf => exact answers_mismatch (.function hf) .number
  | string s =>
      cases hw with
      | array hothers => exact .ok (.array (.cons (.string s) hothers))
      | number y => exact .error _
      | string t => exact .ok (.string (s ++ t))
      | unit => exact .error _
      | function hf => exact answers_mismatch (.function hf) .string
  | unit =>
      cases hw with
      | array hothers => exact .ok (.array (.cons .unit hothers))
      | number | string | unit | function => exact .error _
  | function hf =>
      cases hw with
      | array hothers => exact .ok (.array (.cons (.function hf) hothers))
      | number | string | unit | function => exact answers_mismatch (.function hf) .addend

theorem sum_alike {items others : List Value} (h : List.Forall₂ (Alike F) items others) :
    AnswersAlike (Alike F) (sum items) (sum others) := by
  cases h with
  | nil => exact .ok .unit
  | @cons first first' rest rest' hfirst hrest =>
      show AnswersAlike (Alike F) (rest.foldlM add first) (rest'.foldlM add first')
      induction hrest generalizing first first' with
      | nil => exact .ok hfirst
      | cons hv _ ih =>
          rw [List.foldlM_cons, List.foldlM_cons]
          exact (add_alike hfirst hv).bind fun total total' htotal => ih htotal

end Value

namespace Operation

variable {args args' : List Value}

theorem onNumber_alike (f : Float → Float) (h : List.Forall₂ (Alike F) args args') :
    AnswersAlike (Alike F) (onNumber f args) (onNumber f args') := by
  cases h with
  | nil => exact .error _
  | cons hv hrest =>
      cases hrest with
      | cons => cases hv <;> exact .error _
      | nil =>
          cases hv with
          | number x => exact .ok (.number (f x))
          | _ => exact .error _

theorem onNumbers_alike {f : Float → Float → Except Stop Value}
    (hf : ∀ x y, AnswersAlike (Alike F) (f x y) (f x y)) (h : List.Forall₂ (Alike F) args args') :
    AnswersAlike (Alike F) (onNumbers f args) (onNumbers f args') := by
  cases h with
  | nil => exact .error _
  | cons hv hrest =>
      cases hrest with
      | nil => cases hv <;> exact .error _
      | cons hw hrest =>
          cases hv <;> cases hw <;> cases hrest <;> first | exact hf _ _ | exact .error _

theorem onList_alike {f : List Float → Except Stop Value}
    (hf : ∀ xs, AnswersAlike (Alike F) (f xs) (f xs)) (h : List.Forall₂ (Alike F) args args') :
    AnswersAlike (Alike F) (onList f args) (onList f args') := by
  cases h with
  | nil => exact .error _
  | cons hv hrest =>
      cases hrest with
      | cons => cases hv <;> exact .error _
      | nil =>
          cases hv with
          | array hitems =>
              simp only [onList, Value.mapM_number?_eq hitems]
              split
              · exact hf _
              · exact .error _
          | number | string | unit | function => exact .error _

theorem onCounted_alike (f : Nat → List Float → List Float)
    (h : List.Forall₂ (Alike F) args args') :
    AnswersAlike (Alike F) (onCounted f args) (onCounted f args') := by
  cases h with
  | nil => exact .error _
  | cons hv hrest =>
      cases hrest with
      | nil => cases hv <;> exact .error _
      | cons hw hrest =>
          cases hrest with
          | cons => cases hv <;> cases hw <;> exact .error _
          | nil =>
              cases hv with
              | number x =>
                  cases hw with
                  | array hitems =>
                      simp only [onCounted, Value.mapM_number?_eq hitems]
                      split
                      · cases Number.repetitions x with
                        | ok count => exact .ok (Value.alike_ofNumbers _)
                        | error stop => exact .error stop
                      · exact .error _
                  | number | string | unit | function => exact .error _
              | string | unit | array | function => cases hw <;> exact .error _

theorem quotient_alike (x y : Float) :
    AnswersAlike (Alike F) (quotient x y) (quotient x y) := by
  unfold quotient
  split
  · exact .error _
  · exact .ok (.number _)

theorem remainder_alike (x y : Float) :
    AnswersAlike (Alike F) (remainder x y) (remainder x y) := by
  unfold remainder
  split
  · exact .error _
  · exact .ok (.number _)

theorem raised_alike (x y : Float) : AnswersAlike (Alike F) (raised x y) (raised x y) := by
  unfold raised
  split
  · exact .ok (.number _)
  · exact .error _
  · exact .error _

theorem extreme_alike (none : DomainCause) (pick : Float → Float → Float) (xs : List Float) :
    AnswersAlike (Alike F) (extreme none pick xs) (extreme none pick xs) := by
  cases xs with
  | nil => exact .error _
  | cons x rest => exact .ok (.number _)

/-- Operations take alike arguments to alike results, and stop alike. -/
theorem apply_alike (op : Operation) (h : List.Forall₂ (Alike F) args args') :
    AnswersAlike (Alike F) (op.apply args) (op.apply args') := by
  cases op with
  | floor | ceil | round | abs | identity | negate | complement => exact onNumber_alike _ h
  | subtract | multiply | larger | smaller | less | lessOrEqual | greater | greaterOrEqual =>
      exact onNumbers_alike (fun x y => .ok (.number _)) h
  | divide => exact onNumbers_alike quotient_alike h
  | modulo => exact onNumbers_alike remainder_alike h
  | power => exact onNumbers_alike raised_alike h
  | sort => exact onList_alike (fun xs => .ok (Value.alike_ofNumbers _)) h
  | least => exact onList_alike (extreme_alike _ _) h
  | greatest => exact onList_alike (extreme_alike _ _) h
  | highest | lowest => exact onCounted_alike _ h
  | add =>
      cases h with
      | nil => exact .error _
      | cons hv hrest =>
          cases hrest with
          | nil => exact .error _
          | cons hw hrest =>
              cases hrest with
              | nil => exact Value.add_alike hv hw
              | cons => exact .error _
  | equal | notEqual =>
      cases h with
      | nil => exact .error _
      | cons hv hrest =>
          cases hrest with
          | nil => exact .error _
          | cons hw hrest =>
              cases hrest with
              | nil =>
                  simp only [apply, hv.equal_eq hw]
                  exact .ok (.number _)
              | cons => exact .error _
  | sum =>
      cases h with
      | nil => exact .error _
      | cons hv hrest =>
          cases hrest with
          | cons => cases hv <;> exact .error _
          | nil =>
              cases hv with
              | array hitems => exact Value.sum_alike hitems
              | number | string | unit | function => exact .error _
  | length =>
      cases h with
      | nil => exact .error _
      | cons hv hrest =>
          cases hrest with
          | cons => cases hv <;> exact .error _
          | nil =>
              cases hv with
              | array hitems =>
                  simp only [apply, hitems.length_eq]
                  exact .ok (.number _)
              | number | string | unit | function => exact .error _

end Operation

/-! ## Removal -/

namespace Tally

/-- Two tallies count alike values alike. -/
def Alike (F : Function → Function → Prop) : Tally → Tally → Prop :=
  List.Forall₂ fun entry other => Value.Alike F entry.1 other.1 ∧ entry.2 = other.2

theorem insert_alike {v w : Value} (hv : Value.Alike F v w) {t u : Tally} (h : Alike F t u) :
    Alike F (insert v t) (insert w u) := by
  induction h with
  | nil => exact .cons ⟨hv, rfl⟩ .nil
  | @cons entry other rest rest' hentry hrest ih =>
      obtain ⟨x, count⟩ := entry
      obtain ⟨y, count'⟩ := other
      obtain ⟨hx, rfl⟩ := hentry
      simp only [insert, hx.equal_eq hv]
      split
      · exact .cons ⟨hx, rfl⟩ hrest
      · exact .cons ⟨hx, rfl⟩ ih

theorem ofList_alike {items others : List Value} (h : List.Forall₂ (Value.Alike F) items others) :
    Alike F (ofList items) (ofList others) := by
  have hfold : ∀ {t u : Tally}, Alike F t u →
      Alike F (items.foldl (fun counted v => insert v counted) t)
        (others.foldl (fun counted v => insert v counted) u) := by
    induction h with
    | nil => exact id
    | cons hv _ ih => exact fun ht => ih (insert_alike hv ht)
  exact hfold .nil

theorem take?_alike {v w : Value} (hv : Value.Alike F v w) {t u : Tally} (h : Alike F t u) :
    Option.Rel (Alike F) (take? v t) (take? w u) := by
  induction h with
  | nil => exact .none
  | @cons entry other rest rest' hentry hrest ih =>
      obtain ⟨x, count⟩ := entry
      obtain ⟨y, count'⟩ := other
      obtain ⟨hx, rfl⟩ := hentry
      simp only [take?, hx.equal_eq hv]
      split
      · exact .some (.cons ⟨hx, rfl⟩ hrest)
      · revert ih
        generalize take? v rest = taken
        generalize take? w rest' = taken'
        intro ih
        cases ih with
        | none => exact .none
        | some htaken => exact .some (.cons ⟨hx, rfl⟩ htaken)

theorem keep_alike {items others : List Value} (h : List.Forall₂ (Value.Alike F) items others)
    {t u : Tally} (ht : Alike F t u) :
    List.Forall₂ (Value.Alike F) (keep t items) (keep u others) := by
  induction h generalizing t u with
  | nil => exact .nil
  | @cons v w rest rest' hv hrest ih =>
      have htake := take?_alike hv ht
      simp only [keep]
      revert htake
      generalize take? v t = taken
      generalize take? w u = taken'
      intro htake
      cases htake with
      | none => exact .cons hv (ih ht)
      | some hfewer => exact ih hfewer

/-- Removal takes alike sequences to alike sequences. -/
theorem remove_alike {selected selected' items items' : List Value}
    (hselected : List.Forall₂ (Value.Alike F) selected selected')
    (hitems : List.Forall₂ (Value.Alike F) items items') :
    List.Forall₂ (Value.Alike F) (remove selected items) (remove selected' items') :=
  keep_alike hitems (ofList_alike hselected)

end Tally

/-! ## Dice -/

variable {ω ω' : Type} {S : ω → ω' → Prop}

/-- Two computations in two worlds answer alike and leave related states. -/
inductive ResultsAlike {α β : Type} (R : α → β → Prop) (S : ω → ω' → Prop) :
    Except Stop α × ω → Except Stop β × ω' → Prop where
  | mk {a : Except Stop α} {b : Except Stop β} {s : ω} {s' : ω'} :
      AnswersAlike R a b → S s s' → ResultsAlike R S (a, s) (b, s')

/-- Two sources give the same numbers in related states, and leave related states. -/
def DrawsAlike (S : ω → ω' → Prop) (draw : Random.BitSource ω) (draw' : Random.BitSource ω') :
    Prop :=
  ∀ width s s', S s s' → Option.Rel (fun drawn drawn' => drawn.1 = drawn'.1 ∧ S drawn.2 drawn'.2)
    (draw width s) (draw' width s')

section Dice

variable {draw : Random.BitSource ω} {draw' : Random.BitSource ω'} {s : ω} {s' : ω'}

theorem Random.below_alike (hdraw : DrawsAlike S draw draw') (bound patience : Nat) (hs : S s s') :
    ResultsAlike (· = ·) S (below draw bound patience s) (below draw' bound patience s') := by
  induction patience generalizing s s' with
  | zero => exact .mk (.error _) hs
  | succ patience ih =>
      simp only [below]
      have hdrawn := hdraw (bitLength bound) s s' hs
      revert hdrawn
      generalize draw (bitLength bound) s = drawn
      generalize draw' (bitLength bound) s' = drawn'
      intro hdrawn
      cases hdrawn with
      | none => exact .mk (.error _) hs
      | @some first second h =>
          obtain ⟨n, t⟩ := first
          obtain ⟨n', t'⟩ := second
          obtain ⟨rfl, ht⟩ := h
          simp only
          split
          · exact .mk (.ok rfl) ht
          · exact ih ht

theorem forall₂_getD {α β : Type} {R : α → β → Prop} {items : List α} {others : List β} {a : α}
    {b : β} (h : List.Forall₂ R items others) (hdefault : R a b) (index : Nat) :
    R (items.getD index a) (others.getD index b) := by
  induction h generalizing index with
  | nil => exact hdefault
  | cons hfirst _ ih =>
      cases index with
      | zero => exact hfirst
      | succ index => exact ih index

theorem Random.choose_alike {α β : Type} {R : α → β → Prop} (hdraw : DrawsAlike S draw draw')
    (patience : Nat) {first : α} {first' : β} {rest : List α} {rest' : List β}
    (hfirst : R first first') (hrest : List.Forall₂ R rest rest') (hs : S s s') :
    ResultsAlike R S (choose draw patience first rest s) (choose draw' patience first' rest' s') := by
  have hbelow := below_alike hdraw (rest.length + 1) patience hs
  unfold choose
  rw [← hrest.length_eq]
  revert hbelow
  generalize below draw (rest.length + 1) patience s = found
  generalize below draw' (rest.length + 1) patience s' = found'
  rintro ⟨hanswers, hstate⟩
  cases hanswers with
  | error stop => exact .mk (.error stop) hstate
  | @ok index _ hindex =>
      obtain rfl := hindex
      exact .mk (.ok (forall₂_getD (.cons hfirst hrest) hfirst index)) hstate

theorem Die.face_alike (hdraw : DrawsAlike S draw draw') (patience : Nat) {v w : Value}
    (h : Alike F v w) (hs : S s s') :
    ResultsAlike (Alike F) S (face draw patience v s) (face draw' patience w s') := by
  induction patience generalizing v w s s' with
  | zero =>
      simp only [face]
      exact .mk (.error _) hs
  | succ patience ih =>
      cases h with
      | number x => exact .mk (.ok (.number x)) hs
      | string t => exact .mk (.ok (.string t)) hs
      | unit => exact .mk (.ok .unit) hs
      | function hf => exact .mk (.ok (.function hf)) hs
      | array hitems =>
          cases hitems with
          | nil => exact .mk (.error _) hs
          | @cons first first' rest rest' hfirst hrest =>
              have hchosen := Random.choose_alike hdraw patience hfirst hrest hs
              simp only [face]
              revert hchosen
              generalize Random.choose draw patience first rest s = chosen
              generalize Random.choose draw' patience first' rest' s' = chosen'
              rintro ⟨hanswers, hstate⟩
              cases hanswers with
              | error stop => exact .mk (.error stop) hstate
              | ok hface => exact ih hface hstate

theorem Die.numbered_alike (hdraw : DrawsAlike S draw draw') (patience sides : Nat) (hs : S s s') :
    ResultsAlike (Alike F) S (numbered draw patience sides s) (numbered draw' patience sides s') := by
  have hbelow := Random.below_alike hdraw sides patience hs
  unfold numbered
  revert hbelow
  generalize Random.below draw sides patience s = found
  generalize Random.below draw' sides patience s' = found'
  rintro ⟨hanswers, hstate⟩
  cases hanswers with
  | error stop => exact .mk (.error stop) hstate
  | ok hn =>
      obtain rfl := hn
      exact .mk (.ok (.number _)) hstate

theorem Die.rollFaces_alike (hdraw : DrawsAlike S draw draw') (patience : Nat) {v w : Value}
    (h : Alike F v w) (hs : S s s') :
    ResultsAlike (Alike F) S (rollFaces draw patience v s) (rollFaces draw' patience w s') := by
  cases h with
  | number x =>
      simp only [rollFaces]
      split
      · exact .mk (.error _) hs
      · split
        · exact .mk (.error _) hs
        · exact numbered_alike hdraw patience _ hs
  | array hitems => exact face_alike hdraw patience (.array hitems) hs
  | string | unit => exact .mk (.error _) hs
  | function hf => exact .mk (answers_mismatch (.function hf) .faces) hs

/-- Dice of alike faces fall alike, if the sources of random bits give the same numbers. -/
theorem Die.roll_alike (hdraw : DrawsAlike S draw draw') (patience : Nat) (die : Die)
    {args args' : List Value} (h : List.Forall₂ (Alike F) args args') (hs : S s s') :
    ResultsAlike (Alike F) S (die.roll draw patience args s) (die.roll draw' patience args' s') := by
  cases h with
  | nil => cases die <;> exact .mk (.error _) hs
  | cons hv hrest =>
      cases hrest with
      | cons => cases die <;> cases hv <;> exact .mk (.error _) hs
      | nil =>
          cases die with
          | faces => exact rollFaces_alike hdraw patience hv hs
          | fudge =>
              cases hv with
              | unit =>
                  refine Random.choose_alike hdraw patience (.number _) ?_ hs
                  exact .cons (.number _) (.cons (.number _) .nil)
              | number | string | array | function => exact .mk (.error _) hs

end Dice

end RollScript
