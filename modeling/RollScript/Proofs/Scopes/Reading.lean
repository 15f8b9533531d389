import RollScript.Proofs.Evaluation.Keeping
import RollScript.Proofs.Grammar.Spans
import RollScript.Proofs.Scopes.Histories
import RollScript.Proofs.Scopes.Machine

/-!
# Scopes read as environments

A scope whose names are all defined is read as an environment that holds the same. Which scopes are
read, and as what, is given by a function of their numbers (a reading): it only grows, since a scope
that is read never changes. Read `Models` first: it ties a reading to a store, scope by scope, and from
it follows that a name has the same value in a scope and in what the scope is read as
(`Models.lookup`), and that all scopes around a scope that is read are read too (`Models.around`).
-/

namespace RollScript

namespace ScopeStore

variable {s : ScopeStore} {id : Nat}

/-- The scopes that a lookup in a scope can come to: the scope itself and those around it. -/
def Within (s : ScopeStore) : Nat → Nat → Prop :=
  Relation.ReflTransGen fun id parent => s.outer id = some parent

theorem outer_of_scope {scope : Scope} (h : s.scopes[id]? = some scope) :
    s.outer id = scope.parent := by
  rw [outer, h, Option.bind_some]

theorem lt_of_outer {parent : Nat} (h : s.outer id = some parent) : id < s.scopes.length := by
  by_contra hge
  rw [outer, List.getElem?_eq_none (not_lt.1 hge)] at h
  cases h

/-- Names that are defined one after the other stand in the scope with the latest in front. -/
theorem fill_scopes {entries : List (Text × Value)} {parent : Option Nat}
    (h : s.scopes[id]? = some ⟨entries, parent⟩) (values : List (Text × Value)) :
    (s.fill id values).scopes = s.scopes.set id ⟨values.reverse ++ entries, parent⟩ := by
  induction values generalizing s entries with
  | nil =>
      obtain ⟨hlt, hget⟩ := List.getElem?_eq_some_iff.1 h
      rw [List.reverse_nil, List.nil_append, ← hget, List.set_getElem_self]
      rfl
  | cons definition rest ih =>
      obtain ⟨name, v⟩ := definition
      -- the first definition changes this scope only
      have hfirst : (s.define id name v).scopes = s.scopes.set id ⟨(name, v) :: entries, parent⟩ := by
        rw [define, List.modify_eq_set_getElem?, h]
        rfl
      have hlt := (List.getElem?_eq_some_iff.1 h).1
      have hthere : (s.define id name v).scopes[id]? = some ⟨(name, v) :: entries, parent⟩ := by
        rw [hfirst, List.getElem?_set_self hlt]
      show ((s.define id name v).fill id rest).scopes = _
      rw [ih hthere, hfirst, List.set_set, List.reverse_cons, List.append_assoc,
        List.singleton_append]

/-- Names that are defined in an empty scope are all its names. -/
theorem fill_empty {parent : Nat} (h : s.scopes[id]? = some ⟨[], some parent⟩)
    (values : List (Text × Value)) :
    (s.fill id values.reverse).scopes = s.scopes.set id ⟨values, some parent⟩ := by
  rw [fill_scopes h, List.reverse_reverse, List.append_nil]

end ScopeStore

namespace Scoped

/-! ## Functions, entries and scopes -/

/-- A function, and the function that stands for it where environments are addresses. -/
inductive Reads (tree : Expr) (reading : Nat → Option Env) : Function → Function → Prop where
  | closure {parameter : Text} {body : Expr} {env : Env} {id : Nat} :
      tree.Contains body → reading id = some env →
      Reads tree reading (.closure parameter body env) (.closure parameter body (address id))
  | primitive {p : Primitive} {bound bound' : List Value} :
      (∀ id, p.routine ≠ .host id) →
      List.Forall₂ (Value.Alike (Reads tree reading)) bound bound' →
      Reads tree reading (.primitive p bound) (.primitive p bound')

/-- An entry of an environment, and what stands for it in the scope with a number. -/
inductive Held (tree : Expr) (reading : Nat → Option Env) (id : Nat) :
    Text × Entry → Text × Value → Prop where
  | value {name : Text} {v w : Value} :
      Value.Alike (Reads tree reading) v w → Held tree reading id (name, .value v) (name, w)
  | literal {name parameter : Text} {body : Expr} :
      tree.Contains body →
      Held tree reading id (name, .literal parameter body)
        (name, .function (.closure parameter body (address id)))

/-- A scope with a number, and the environment that it is read as. -/
inductive ReadsScope (tree : Expr) (reading : Nat → Option Env) (id : Nat) : Scope → Env → Prop where
  | outermost {entries : List (Text × Entry)} {values : List (Text × Value)} :
      List.Forall₂ (Held tree reading id) entries values →
      ReadsScope tree reading id ⟨values, none⟩ (.scope entries .empty)
  | inside {entries : List (Text × Entry)} {values : List (Text × Value)} {parent : Nat} {env : Env} :
      List.Forall₂ (Held tree reading id) entries values → parent < id → reading parent = some env →
      ReadsScope tree reading id ⟨values, some parent⟩ (.scope entries env)

/-- Every scope that is read holds what its environment does. -/
def Models (tree : Expr) (reading : Nat → Option Env) (s : ScopeStore) : Prop :=
  ∀ id env, reading id = some env →
    ∃ scope, s.scopes[id]? = some scope ∧ ReadsScope tree reading id scope env

variable {tree : Expr} {reading reading' : Nat → Option Env} {s s' : ScopeStore} {id : Nat}
  {env : Env}

/-! ## Readings that grow -/

/-- A reading goes on with another one. -/
def Extends (reading reading' : Nat → Option Env) : Prop :=
  ∀ id env, reading id = some env → reading' id = some env

theorem extends_refl (reading : Nat → Option Env) : Extends reading reading :=
  fun _ _ h => h

/-- One more scope is read. -/
theorem extends_update (hfresh : reading id = none) (env : Env) :
    Extends reading (Function.update reading id (some env)) := by
  intro other around hother
  have hne : other ≠ id := by
    intro heq
    rw [heq, hfresh] at hother
    cases hother
  rw [Function.update_of_ne hne, hother]

mutual

theorem Reads.mono (hle : Extends reading reading') :
    ∀ {f g : Function}, Reads tree reading f g → Reads tree reading' f g
  | .closure .., _, .closure hbody hid => .closure hbody (hle _ _ hid)
  | .primitive .., _, .primitive hp hbound => .primitive hp (alikeItems_mono hle hbound)

theorem alike_mono (hle : Extends reading reading') :
    ∀ {v w : Value}, Value.Alike (Reads tree reading) v w → Value.Alike (Reads tree reading') v w
  | .number x, _, .number _ => .number x
  | .string s, _, .string _ => .string s
  | .unit, _, .unit => .unit
  | .array _, _, .array h => .array (alikeItems_mono hle h)
  | .function _, _, .function h => .function (h.mono hle)

theorem alikeItems_mono (hle : Extends reading reading') : ∀ {items others : List Value},
    List.Forall₂ (Value.Alike (Reads tree reading)) items others →
    List.Forall₂ (Value.Alike (Reads tree reading')) items others
  | [], _, .nil => .nil
  | _ :: _, _, .cons hv hrest => .cons (alike_mono hle hv) (alikeItems_mono hle hrest)

end

theorem Held.mono (hle : Extends reading reading') {entry : Text × Entry} {slot : Text × Value}
    (h : Held tree reading id entry slot) : Held tree reading' id entry slot := by
  cases h with
  | value hv => exact .value (alike_mono hle hv)
  | literal hbody => exact .literal hbody

theorem ReadsScope.mono (hle : Extends reading reading') {scope : Scope}
    (h : ReadsScope tree reading id scope env) : ReadsScope tree reading' id scope env := by
  cases h with
  | outermost hentries => exact .outermost (hentries.imp fun _ _ => Held.mono hle)
  | inside hentries hlt hparent =>
      exact .inside (hentries.imp fun _ _ => Held.mono hle) hlt (hle _ _ hparent)

/-- The scopes that are read stay as they are, and one more is read. -/
theorem Models.settle (h : Models tree reading s) (hfresh : reading id = none)
    (hsame : ∀ other env, reading other = some env → s'.scopes[other]? = s.scopes[other]?)
    {scope : Scope} (hscope : s'.scopes[id]? = some scope)
    (hreads : ReadsScope tree reading id scope env) :
    Models tree (Function.update reading id (some env)) s' := by
  have hle := extends_update hfresh env
  intro other around hother
  by_cases heq : other = id
  · subst heq
    rw [Function.update_self] at hother
    cases hother
    exact ⟨scope, hscope, hreads.mono hle⟩
  · rw [Function.update_of_ne heq] at hother
    obtain ⟨found, hfound, hold⟩ := h other around hother
    exact ⟨found, by rw [hsame other around hother, hfound], hold.mono hle⟩

/-- A store may change in the scopes that are not read. -/
theorem Models.same (h : Models tree reading s)
    (hsame : ∀ other env, reading other = some env → s'.scopes[other]? = s.scopes[other]?) :
    Models tree reading s' := by
  intro other around hother
  obtain ⟨found, hfound, hold⟩ := h other around hother
  exact ⟨found, by rw [hsame other around hother, hfound], hold⟩

theorem Models.lt_length (h : Models tree reading s) (hid : reading id = some env) :
    id < s.scopes.length := by
  obtain ⟨scope, hscope, -⟩ := h id env hid
  exact (List.getElem?_eq_some_iff.1 hscope).1

/-! ## Names in scopes -/

/-- A name stands for corresponding things in corresponding entries. -/
theorem held_lookup {entries : List (Text × Entry)} {values : List (Text × Value)}
    (h : List.Forall₂ (Held tree reading id) entries values) (x : Text) :
    (entries.lookup x = none ∧ values.lookup x = none) ∨
    ∃ entry w, entries.lookup x = some entry ∧ values.lookup x = some w ∧
      Held tree reading id (x, entry) (x, w) := by
  induction h with
  | nil => exact .inl ⟨rfl, rfl⟩
  | @cons entry slot entries values hfirst _ ih =>
      obtain ⟨name, held⟩ := entry
      obtain ⟨name', w⟩ := slot
      have hname : name = name' := by cases hfirst <;> rfl
      subst hname
      rw [List.lookup_cons, List.lookup_cons]
      by_cases hx : x = name
      · subst hx
        rw [beq_self_eq_true]
        exact .inr ⟨held, w, rfl, rfl, hfirst⟩
      · rw [beq_eq_false_iff_ne.2 hx]
        exact ih

theorem Models.lookupWithin (h : Models tree reading s) (x : Text) {steps : Nat} (hlt : id < steps)
    (hid : reading id = some env) :
    Option.Rel (Value.Alike (Reads tree reading)) (env.lookup x) (s.lookupWithin x steps id) := by
  induction steps generalizing id env with
  | zero => omega
  | succ steps ih =>
      obtain ⟨scope, hscope, hreads⟩ := h id env hid
      rw [ScopeStore.lookupWithin_scope hscope]
      -- a scope either has the name itself or leaves it to the scopes around it
      have hown : ∀ {entries : List (Text × Entry)} {values : List (Text × Value)} {parent : Env}
          {found : Option Value}, env = .scope entries parent →
          List.Forall₂ (Held tree reading id) entries values →
          Option.Rel (Value.Alike (Reads tree reading)) (parent.lookup x) found →
          Option.Rel (Value.Alike (Reads tree reading)) (env.lookup x)
            ((values.lookup x).or found) := by
        intro entries values parent found henv hentries hparent
        subst henv
        rw [Env.lookup]
        rcases held_lookup hentries x with ⟨hnone, hnone'⟩ | ⟨entry, w, hsome, hsome', hheld⟩
        · rw [hnone, hnone']
          exact hparent
        · rw [hsome, hsome']
          cases hheld with
          | value hv => exact .some hv
          | literal hbody => exact .some (.function (.closure hbody hid))
      cases hreads with
      | outermost hentries => exact hown rfl hentries .none
      | inside hentries hparent hread => exact hown rfl hentries (ih (by omega) hread)

/-- A name has corresponding values in a scope and in the environment that it is read as. -/
theorem Models.lookup (h : Models tree reading s) (hid : reading id = some env) (x : Text) :
    Option.Rel (Value.Alike (Reads tree reading)) (env.lookup x) (s.lookup id x) :=
  h.lookupWithin x (h.lt_length hid) hid

/-- The scopes around a scope that is read are read too. -/
theorem Models.around (h : Models tree reading s) (hid : reading id = some env) {around : Nat}
    (hwithin : s.Within id around) : ∃ env, reading around = some env := by
  induction hwithin with
  | refl => exact ⟨env, hid⟩
  | @tail inner parent _ hparent ih =>
      obtain ⟨env, hinner⟩ := ih
      obtain ⟨scope, hscope, hreads⟩ := h inner env hinner
      rw [ScopeStore.outer_of_scope hscope] at hparent
      cases hreads with
      | outermost => cases hparent
      | inside _ _ hread =>
          cases hparent
          exact ⟨_, hread⟩

/-- The outermost scope is read as the environment in which programs start. -/
theorem models_standard (tree : Expr) :
    Models tree (Function.update (fun _ => none) 0 (some (rootEnvironment .standard [])))
      .standard := by
  have hnothing : Models tree (fun _ => none) .standard := by
    intro id env hid
    cases hid
  have hreads : ReadsScope tree (fun _ => none) 0 ⟨Registry.standard.values, none⟩
      (rootEnvironment .standard []) := by
    refine .outermost (List.forall₂_map_left_iff.2 (List.forall₂_same.2 ?_))
    rintro ⟨name, v⟩ hv
    obtain ⟨⟨name', p⟩, hp, hsame⟩ := List.mem_map.1 hv
    cases hsame
    obtain ⟨q, hq, hsame⟩ := List.mem_map.1 hp
    cases hsame
    exact .value (.function (.primitive (Registry.primitives_spec hq).2 .nil))
  exact hnothing.settle rfl (fun _ _ _ => rfl) rfl hreads

end Scoped

end RollScript
