import RollScript.Proofs.Evaluation.Likeness

/-!
# Free names

`Expr.free` lists the names that an expression takes from the environment it is evaluated in. Two
environments agree on some names if they have the same values for them, up to the environments that
closures keep: those need to agree only on the names that are free in the closure's body. Read
`Env.AgreeOn.lookup` first, which says that agreement is enough to find corresponding values.
-/

namespace RollScript

namespace Expr

mutual

/-- The names that an expression takes from its environment. An operator counts as the name that it
stands for. The function literals that a block defines see the names of the block, and the other values
of the block do not. -/
def free : Expr → List Text
  | number .. => []
  | string .. => []
  | unit _ => []
  | name _ x => [x]
  | array _ elements => freeElements elements
  | apply _ callee argument => callee.free ++ argument.free
  | function _ parameter body => body.free.filter (· ≠ parameter)
  | block _ bindings body =>
    freeValues (bindings.map Prod.fst) bindings ++ body.free.filter (· ∉ bindings.map Prod.fst)
  | choice _ condition whenTrue whenFalse => condition.free ++ whenTrue.free ++ whenFalse.free

/-- The free names of several expressions. -/
def freeElements : List Expr → List Text
  | [] => []
  | e :: rest => e.free ++ freeElements rest

/-- The free names of the values of a block that defines the names `own`. -/
def freeValues (own : List Text) : List (Text × Expr) → List Text
  | [] => []
  | (_, value) :: rest =>
    (if value.isLiteral then value.free.filter (· ∉ own) else value.free) ++ freeValues own rest

end

variable {x : Text}

theorem mem_freeElements {elements : List Expr} :
    x ∈ freeElements elements ↔ ∃ e ∈ elements, x ∈ e.free := by
  induction elements with
  | nil => simp [freeElements]
  | cons e rest ih => simp [freeElements, ih]

theorem mem_free_function {span : Span} {parameter : Text} {body : Expr} :
    x ∈ (function span parameter body).free ↔ x ∈ body.free ∧ x ≠ parameter := by
  simp [free]

theorem mem_freeValues {own : List Text} {bindings : List (Text × Expr)} :
    x ∈ freeValues own bindings ↔ ∃ binding ∈ bindings, x ∈ binding.2.free ∧
      (binding.2.isLiteral = true → x ∉ own) := by
  induction bindings with
  | nil => simp [freeValues]
  | cons binding rest ih =>
      obtain ⟨name, value⟩ := binding
      cases hvalue : value.isLiteral <;> simp [freeValues, hvalue, ih]

theorem mem_free_block {span : Span} {bindings : List (Text × Expr)} {body : Expr} :
    x ∈ (block span bindings body).free ↔
      (∃ binding ∈ bindings, x ∈ binding.2.free ∧
        (binding.2.isLiteral = true → x ∉ bindings.map Prod.fst)) ∨
      (x ∈ body.free ∧ x ∉ bindings.map Prod.fst) := by
  rw [free, List.mem_append, mem_freeValues, List.mem_filter, decide_eq_true_eq]

end Expr

/-! ## Agreement -/

mutual

/-- Functions of the same code that cannot be told apart by calling them: closures whose environments
agree on the free names of the body, and primitives with corresponding arguments. -/
inductive Function.Agree : Function → Function → Prop where
  | closure {parameter : Text} {body : Expr} {env env' : Env} :
      Env.AgreeOn (fun x => x ∈ body.free ∧ x ≠ parameter) env env' →
      Function.Agree (.closure parameter body env) (.closure parameter body env')
  | primitive {p : Primitive} {bound bound' : List Value} :
      List.Forall₂ (Value.Alike Function.Agree) bound bound' →
      Function.Agree (.primitive p bound) (.primitive p bound')

/-- Two environments agree on names: they have equal values for them, or they are scopes that agree
entry by entry, in environments that agree on the names that are left. -/
inductive Env.AgreeOn : (Text → Prop) → Env → Env → Prop where
  | same {names : Text → Prop} {env env' : Env} :
      (∀ x, names x → env.lookup x = env'.lookup x) → Env.AgreeOn names env env'
  | scope {names seen : Text → Prop} {entries entries' : List (Text × Entry)} {parent parent' : Env} :
      (∀ x, names x → seen x) → Entries.AgreeOn seen entries entries' →
      Env.AgreeOn (fun x => seen x ∧ x ∉ entries.map Prod.fst) parent parent' →
      Env.AgreeOn names (.scope entries parent) (.scope entries' parent')

/-- Entries of the same names that agree one by one. -/
inductive Entries.AgreeOn : (Text → Prop) → List (Text × Entry) → List (Text × Entry) → Prop where
  | nil {seen : Text → Prop} : Entries.AgreeOn seen [] []
  | cons {seen : Text → Prop} {name : Text} {entry entry' : Entry}
      {rest rest' : List (Text × Entry)} :
      Entry.AgreeOn seen entry entry' → Entries.AgreeOn seen rest rest' →
      Entries.AgreeOn seen ((name, entry) :: rest) ((name, entry') :: rest')

/-- Corresponding values, or one function literal whose free names are among those on which the scopes
of the two entries agree. -/
inductive Entry.AgreeOn : (Text → Prop) → Entry → Entry → Prop where
  | value {seen : Text → Prop} {v w : Value} :
      Value.Alike Function.Agree v w → Entry.AgreeOn seen (.value v) (.value w)
  | literal {seen : Text → Prop} {parameter : Text} {body : Expr} :
      (∀ x ∈ body.free, x ≠ parameter → seen x) →
      Entry.AgreeOn seen (.literal parameter body) (.literal parameter body)

end

mutual

theorem Value.agree_refl : ∀ v : Value, Value.Alike Function.Agree v v
  | .number x => .number x
  | .string s => .string s
  | .unit => .unit
  | .array items => .array (Value.agreeItems_refl items)
  | .function f => .function (Function.agree_refl f)

theorem Value.agreeItems_refl : ∀ items : List Value,
    List.Forall₂ (Value.Alike Function.Agree) items items
  | [] => .nil
  | v :: rest => .cons (Value.agree_refl v) (Value.agreeItems_refl rest)

theorem Function.agree_refl : ∀ f : Function, Function.Agree f f
  | .closure .. => .closure (.same fun _ _ => rfl)
  | .primitive _ bound => .primitive (Value.agreeItems_refl bound)

end

/-- Equal finds correspond. -/
theorem agree_found (found : Option Value) : Option.Rel (Value.Alike Function.Agree) found found := by
  cases found with
  | none => exact .none
  | some v => exact .some v.agree_refl

theorem Entries.AgreeOn.lookup {seen : Text → Prop} {entries entries' : List (Text × Entry)}
    (h : Entries.AgreeOn seen entries entries') (x : Text) :
    Option.Rel (Entry.AgreeOn seen) (entries.lookup x) (entries'.lookup x) := by
  induction entries generalizing entries' with
  | nil =>
      cases h
      exact .none
  | cons first rest ih =>
      cases h with
      | cons hentry hrest =>
          rw [List.lookup_cons, List.lookup_cons]
          split
          · exact .some hentry
          · exact ih hrest

theorem not_mem_of_lookup {α : Type} {entries : List (Text × α)} {x : Text}
    (h : entries.lookup x = none) : x ∉ entries.map Prod.fst := by
  intro hx
  obtain ⟨entry, hentry, rfl⟩ := List.mem_map.1 hx
  exact bne_iff_ne.1 (List.lookup_eq_none_iff.1 h entry hentry) rfl

namespace Env.AgreeOn

variable {names fewer : Text → Prop} {env env' : Env}

theorem mono (h : AgreeOn names env env') (hle : ∀ x, fewer x → names x) :
    AgreeOn fewer env env' := by
  cases h with
  | same h => exact .same fun x hx => h x (hle x hx)
  | scope hseen hentries hparent =>
      exact .scope (fun x hx => hseen x (hle x hx)) hentries hparent

/-- Environments that agree on a name have corresponding values for it. -/
theorem lookup {x : Text} : ∀ {env env' : Env} {names : Text → Prop}, AgreeOn names env env' →
    names x → Option.Rel (Value.Alike Function.Agree) (env.lookup x) (env'.lookup x)
  | _, env', _, .same h, hx => by
      rw [h x hx]
      exact agree_found _
  | .scope entries parent, .scope entries' parent', _, .scope hseen hentries hparent, hx => by
      -- the scopes bind the same names, so either both have the name or both leave it to their parents
      have hown := hentries.lookup x
      rw [Env.lookup, Env.lookup]
      cases hfound : entries.lookup x with
      | none =>
          rw [hfound] at hown
          cases hfound' : entries'.lookup x with
          | none => exact lookup hparent ⟨hseen x hx, not_mem_of_lookup hfound⟩
          | some entry' =>
              rw [hfound'] at hown
              cases hown
      | some entry =>
          rw [hfound] at hown
          cases hfound' : entries'.lookup x with
          | none =>
              rw [hfound'] at hown
              cases hown
          | some entry' =>
              rw [hfound'] at hown
              cases hown with
              | some hentry =>
                  cases hentry with
                  | value hv => exact .some hv
                  | @literal _ parameter body hbody =>
                      -- a literal becomes a closure of the scope that it stands in
                      have hscope : AgreeOn (fun y => y ∈ body.free ∧ y ≠ parameter)
                          (.scope entries parent) (.scope entries' parent') :=
                        .scope (fun y hy => hbody y hy.1 hy.2) hentries hparent
                      exact .some (.function (.closure hscope))

end Env.AgreeOn

end RollScript
