import Mathlib
import RollScript.Scope.Store

/-!
# Shadowing under any history

A `ScopeHistory` is what has been done to a store: scopes were made, on their own or inside others, and
names were defined in them, in any order. It says of itself which scope lies around which
(`ScopeHistory.parent`) and what was last defined where (`ScopeHistory.latest`). Read `ObeysShadowing`
first: a lookup in the store gives what the history says for the nearest scope that binds the name, and a
definition is seen in exactly those scopes that it reaches without being shadowed. `lookup_eq` is the step
from a scope to the one around it, on which everything here is an induction. The search for a name is a walk
of its own, and `ScopeStore.containsWithin_eq` says that it agrees with the lookup.
-/

namespace RollScript

namespace ScopeStore

section Walks

variable {s : ScopeStore} {id : Nat} {scope : Scope}

/-- A name is looked up in a scope first, and then in the one around it. -/
theorem lookupWithin_scope (hscope : s.scopes[id]? = some scope) (x : Text) (steps : Nat) :
    s.lookupWithin x (steps + 1) id =
      (scope.entries.lookup x).or (scope.parent.bind (s.lookupWithin x steps)) := by
  simp only [lookupWithin, hscope]
  cases scope.entries.lookup x <;> rfl

/-- A name is searched for in a scope first, and then in the one around it. -/
theorem containsWithin_scope (hscope : s.scopes[id]? = some scope) (x : Text) (steps : Nat) :
    s.containsWithin x (steps + 1) id =
      ((scope.entries.lookup x).isSome || scope.parent.any (s.containsWithin x steps)) := by
  have hown : scope.entries.any (x == ·.1) = (scope.entries.lookup x).isSome :=
    Bool.eq_iff_iff.2 (List.any_eq_true.trans List.lookup_isSome_iff.symm)
  simp only [containsWithin, hscope, hown]
  cases (scope.entries.lookup x).isSome <;> rfl

end Walks

/-- The search for a name and its lookup go through the same scopes. -/
theorem containsWithin_eq (s : ScopeStore) (x : Text) (steps id : Nat) :
    s.containsWithin x steps id = (s.lookupWithin x steps id).isSome := by
  induction steps generalizing id with
  | zero => rfl
  | succ steps ih =>
      cases hscope : s.scopes[id]? with
      | none => simp only [containsWithin, lookupWithin, hscope, Option.isSome_none]
      | some scope =>
          rw [containsWithin_scope hscope, lookupWithin_scope hscope, Option.isSome_or]
          congr 1
          cases scope.parent with
          | none => rfl
          | some around => exact ih around

end ScopeStore

/-- What has been done to a store, the latest operation outermost: the scopes that have been made are
numbered from zero, and an operation names only scopes that are there. -/
inductive ScopeHistory : Nat → Type where
  | empty : ScopeHistory 0
  | create {n : Nat} (before : ScopeHistory n) (parent : Option (Fin n))
      (values : List (Text × Value)) : ScopeHistory (n + 1)
  | define {n : Nat} (before : ScopeHistory n) (id : Fin n) (name : Text) (v : Value) : ScopeHistory n

namespace ScopeHistory

/-- The store that a history leaves. -/
def store : {n : Nat} → ScopeHistory n → ScopeStore
  | _, .empty => .empty
  | _, .create before parent values => (before.store.create (parent.map Fin.val) values).2
  | _, .define before id name v => before.store.define id name v

/-- The scope around a scope. -/
def parent : {n : Nat} → ScopeHistory n → Nat → Option Nat
  | _, .empty, _ => none
  | n + 1, .create before around _, id => if id = n then around.map Fin.val else before.parent id
  | _, .define before _ _ _, id => before.parent id

/-- The value most recently defined for a name in a scope itself. Of the values that a scope is made with,
the last one for a name counts. -/
def latest : {n : Nat} → ScopeHistory n → Nat → Text → Option Value
  | _, .empty, _, _ => none
  | n + 1, .create before _ values, id, x => if id = n then values.reverse.lookup x else before.latest id x
  | _, .define before f name v, id, x => if id = f ∧ x = name then some v else before.latest id x

/-- A scope itself has a value for a name. -/
def Binds {n : Nat} (h : ScopeHistory n) (id : Nat) (x : Text) : Prop :=
  h.latest id x ≠ none

/-- A scope lies on the chain of scopes around another, which begins with that one itself; the scopes
strictly nearer to it are listed. -/
inductive Leads {n : Nat} (h : ScopeHistory n) : Nat → List Nat → Nat → Prop where
  | here (id : Nat) : Leads h id [] id
  | up {id around far : Nat} {nearer : List Nat} : h.parent id = some around →
      Leads h around nearer far → Leads h id (id :: nearer) far

/-- A scope lies on the chain of another. -/
def OnChain {n : Nat} (h : ScopeHistory n) (id far : Nat) : Prop :=
  ∃ nearer, h.Leads id nearer far

/-- A scope lies on the chain of another, and none that is strictly nearer binds the name. -/
def Unshadowed {n : Nat} (h : ScopeHistory n) (id : Nat) (x : Text) (far : Nat) : Prop :=
  ∃ nearer, h.Leads id nearer far ∧ ∀ other ∈ nearer, ¬ h.Binds other x

/-- A history goes on from another one without a definition on the chain of a scope. -/
inductive Spares {n : Nat} (h : ScopeHistory n) (id : Nat) : {m : Nat} → ScopeHistory m → Prop where
  | refl : Spares h id h
  | create {m : Nat} {later : ScopeHistory m} (parent : Option (Fin m)) (values : List (Text × Value)) :
      Spares h id later → Spares h id (later.create parent values)
  | define {m : Nat} {later : ScopeHistory m} (far : Fin m) (name : Text) (v : Value) :
      ¬ h.OnChain id far → Spares h id later → Spares h id (later.define far name v)

/-! ## The store of a history -/

section Stores

variable {n : Nat}

theorem length_store (h : ScopeHistory n) : h.store.scopes.length = n := by
  induction h with
  | empty => rfl
  | create before around values ih =>
      rw [store, ScopeStore.create, List.length_append, ih]
      rfl
  | define before f name v ih =>
      rw [store, ScopeStore.define, List.length_modify, ih]

/-- A scope is made inside one that was there before. -/
theorem parent_lt (h : ScopeHistory n) {id around : Nat} (hparent : h.parent id = some around) :
    around < id := by
  induction h with
  | empty => cases hparent
  | create before outer values ih =>
      rw [parent] at hparent
      split at hparent
      · next hid =>
          obtain ⟨p, -, rfl⟩ := Option.map_eq_some_iff.1 hparent
          exact p.isLt.trans_eq hid.symm
      · exact ih hparent
  | define before f name v ih => exact ih hparent

/-- Each scope of the store is as the history says. -/
theorem store_scope (h : ScopeHistory n) {id : Nat} (hid : id < n) :
    ∃ scope, h.store.scopes[id]? = some scope ∧ scope.parent = h.parent id ∧
      ∀ x, scope.entries.lookup x = h.latest id x := by
  induction h with
  | empty => exact absurd hid (Nat.not_lt_zero _)
  | @create m before around values ih =>
      have hlength := before.length_store
      rcases Nat.lt_or_ge id m with hlt | hge
      · obtain ⟨scope, hscope, hparent, hlatest⟩ := ih hlt
        refine ⟨scope, ?_, ?_, fun x => ?_⟩
        · rw [store, ScopeStore.create, List.getElem?_append_left (by omega), hscope]
        · rw [parent, if_neg hlt.ne, hparent]
        · rw [latest, if_neg hlt.ne, hlatest]
      · obtain rfl : id = m := by omega
        refine ⟨⟨values.reverse, around.map Fin.val⟩, ?_, ?_, fun x => ?_⟩
        · rw [store, ScopeStore.create, List.getElem?_append_right hlength.le, hlength, Nat.sub_self]
          rfl
        · rw [parent, if_pos rfl]
        · rw [latest, if_pos rfl]
  | define before f name v ih =>
      obtain ⟨scope, hscope, hparent, hlatest⟩ := ih hid
      by_cases hf : id = f
      · refine ⟨⟨(name, v) :: scope.entries, scope.parent⟩, ?_, hparent, fun x => ?_⟩
        · rw [store, ScopeStore.define, ← hf, List.getElem?_modify_eq, hscope]
          rfl
        · rw [latest, List.lookup_cons]
          by_cases hx : x = name
          · rw [if_pos ⟨hf, hx⟩, beq_iff_eq.2 hx]
          · rw [if_neg (fun hboth => hx hboth.2), beq_eq_false_iff_ne.2 hx]
            exact hlatest x
      · refine ⟨scope, ?_, hparent, fun x => ?_⟩
        · rw [store, ScopeStore.define, List.getElem?_modify_ne _ _ (Ne.symm hf), hscope]
        · rw [latest, if_neg (fun hboth => hf hboth.1), hlatest]

/-- A lookup goes from scope to scope outwards and needs no more steps than there are scopes before. -/
theorem lookupWithin_congr (h : ScopeHistory n) (x : Text) {id steps steps' : Nat} (hid : id < n)
    (hsteps : id < steps) (hsteps' : id < steps') :
    h.store.lookupWithin x steps id = h.store.lookupWithin x steps' id := by
  induction id using Nat.strong_induction_on generalizing steps steps' with
  | _ id ih =>
      obtain ⟨scope, hscope, hparent, -⟩ := h.store_scope hid
      obtain ⟨k, rfl⟩ := Nat.exists_eq_add_one_of_ne_zero (Nat.ne_zero_of_lt hsteps)
      obtain ⟨k', rfl⟩ := Nat.exists_eq_add_one_of_ne_zero (Nat.ne_zero_of_lt hsteps')
      rw [ScopeStore.lookupWithin_scope hscope, ScopeStore.lookupWithin_scope hscope]
      congr 1
      cases haround : scope.parent with
      | none => rfl
      | some around =>
          have hlt := h.parent_lt (hparent.symm.trans haround)
          exact ih around hlt (hlt.trans hid) (by omega) (by omega)

/-- The value of a name in a scope is the latest of the scope itself, or else that in the scope around
it. -/
theorem lookup_eq (h : ScopeHistory n) {id : Nat} (hid : id < n) (x : Text) :
    h.store.lookup id x = (h.latest id x).or ((h.parent id).bind fun p => h.store.lookup p x) := by
  obtain ⟨scope, hscope, hparent, hlatest⟩ := h.store_scope hid
  obtain ⟨steps, rfl⟩ := Nat.exists_eq_add_one_of_ne_zero (Nat.ne_zero_of_lt hid)
  rw [ScopeStore.lookup, length_store, ScopeStore.lookupWithin_scope hscope, hlatest, hparent]
  congr 1
  cases haround : h.parent id with
  | none => rfl
  | some around =>
      have hlt := h.parent_lt haround
      show h.store.lookupWithin x steps around = h.store.lookup around x
      rw [ScopeStore.lookup, length_store]
      exact h.lookupWithin_congr x (hlt.trans hid) (by omega) (by omega)

end Stores

/-! ## Chains -/

section Chains

variable {n : Nat} {h : ScopeHistory n} {id far : Nat} {x : Text}

/-- Scopes on a chain are not later than the one where it begins. -/
theorem Leads.le {nearer : List Nat} (hleads : h.Leads id nearer far) : far ≤ id := by
  induction hleads with
  | here => exact Nat.le_refl _
  | up hparent _ ih => exact ih.trans (h.parent_lt hparent).le

theorem OnChain.le (hchain : h.OnChain id far) : far ≤ id := by
  obtain ⟨nearer, hleads⟩ := hchain
  exact hleads.le

theorem onChain_self (h : ScopeHistory n) (id : Nat) : h.OnChain id id :=
  ⟨[], .here id⟩

theorem OnChain.up {around : Nat} (hparent : h.parent id = some around) (hchain : h.OnChain around far) :
    h.OnChain id far := by
  obtain ⟨nearer, hleads⟩ := hchain
  exact ⟨id :: nearer, .up hparent hleads⟩

/-- A chain consists of the scope where it begins and the chain of the scope around it. -/
theorem onChain_cases (hchain : h.OnChain id far) :
    far = id ∨ ∃ around, h.parent id = some around ∧ h.OnChain around far := by
  obtain ⟨nearer, hleads⟩ := hchain
  cases hleads with
  | here => exact .inl rfl
  | up hparent hrest => exact .inr ⟨_, hparent, _, hrest⟩

theorem unshadowed_self (h : ScopeHistory n) (id : Nat) (x : Text) : h.Unshadowed id x id :=
  ⟨[], .here id, fun _ hmem => absurd hmem List.not_mem_nil⟩

theorem Unshadowed.up {around : Nat} (hparent : h.parent id = some around) (hid : h.latest id x = none)
    (hreach : h.Unshadowed around x far) : h.Unshadowed id x far := by
  obtain ⟨nearer, hleads, hfree⟩ := hreach
  exact ⟨id :: nearer, .up hparent hleads, List.forall_mem_cons.2 ⟨fun hbinds => hbinds hid, hfree⟩⟩

/-- A name reaches its own scope, and the scopes inside that do not bind it. -/
theorem unshadowed_cases (hreach : h.Unshadowed id x far) :
    far = id ∨ ∃ around, h.parent id = some around ∧ h.latest id x = none ∧ h.Unshadowed around x far := by
  obtain ⟨nearer, hleads, hfree⟩ := hreach
  cases hleads with
  | here => exact .inl rfl
  | up hparent hrest =>
      obtain ⟨hid, hrestFree⟩ := List.forall_mem_cons.1 hfree
      exact .inr ⟨_, hparent, not_not.1 hid, _, hrest, hrestFree⟩

/-- A lookup finds the latest value of the nearest scope that binds the name. -/
theorem lookup_eq_some_iff (hid : id < n) {v : Value} :
    h.store.lookup id x = some v ↔ ∃ far, h.Unshadowed id x far ∧ h.latest far x = some v := by
  induction id using Nat.strong_induction_on with
  | _ id ih =>
      rw [h.lookup_eq hid, Option.or_eq_some_iff, Option.bind_eq_some_iff]
      constructor
      · rintro (hown | ⟨hnone, around, hparent, hfound⟩)
        · exact ⟨id, h.unshadowed_self id x, hown⟩
        · have hlt := h.parent_lt hparent
          obtain ⟨far, hreach, hlatest⟩ := (ih around hlt (hlt.trans hid)).1 hfound
          exact ⟨far, hreach.up hparent hnone, hlatest⟩
      · rintro ⟨far, hreach, hlatest⟩
        obtain rfl | ⟨around, hparent, hnone, hrest⟩ := unshadowed_cases hreach
        · exact .inl hlatest
        · have hlt := h.parent_lt hparent
          exact .inr ⟨hnone, around, hparent, (ih around hlt (hlt.trans hid)).2 ⟨far, hrest, hlatest⟩⟩

/-- A lookup finds nothing exactly if no scope on the chain binds the name. -/
theorem lookup_eq_none_iff (hid : id < n) :
    h.store.lookup id x = none ↔ ∀ far, h.OnChain id far → ¬ h.Binds far x := by
  induction id using Nat.strong_induction_on with
  | _ id ih =>
      rw [h.lookup_eq hid, Option.or_eq_none_iff]
      constructor
      · rintro ⟨hnone, hrest⟩ far hchain
        obtain rfl | ⟨around, hparent, hchain⟩ := onChain_cases hchain
        · exact fun hbinds => hbinds hnone
        · have hlt := h.parent_lt hparent
          rw [hparent, Option.bind_some] at hrest
          exact (ih around hlt (hlt.trans hid)).1 hrest far hchain
      · intro hfree
        refine ⟨not_not.1 (hfree id (h.onChain_self id)), ?_⟩
        cases hparent : h.parent id with
        | none => rfl
        | some around =>
            have hlt := h.parent_lt hparent
            exact (ih around hlt (hlt.trans hid)).2 fun far hchain => hfree far (hchain.up hparent)

end Chains

/-! ## Definitions -/

section Definitions

variable {n : Nat} {h : ScopeHistory n} {id : Nat} {x y : Text} {v : Value}

theorem latest_define (h : ScopeHistory n) (f : Fin n) (x : Text) (v : Value) (id : Nat) (y : Text) :
    (h.define f x v).latest id y = if id = f ∧ y = x then some v else h.latest id y :=
  rfl

theorem parent_define (h : ScopeHistory n) (f : Fin n) (x : Text) (v : Value) (id : Nat) :
    (h.define f x v).parent id = h.parent id :=
  rfl

/-- A definition reaches every scope on whose chain it is made, unless a nearer scope binds the name. -/
theorem lookup_define_of_unshadowed (hid : id < n) {f : Fin n} (hreach : h.Unshadowed id x f) (v : Value) :
    (h.define f x v).store.lookup id x = some v := by
  induction id using Nat.strong_induction_on with
  | _ id ih =>
      rw [lookup_eq _ hid, latest_define, parent_define]
      by_cases hf : id = f
      · rw [if_pos ⟨hf, rfl⟩, Option.some_or]
      · obtain heq | ⟨around, hparent, hnone, hrest⟩ := unshadowed_cases hreach
        · exact absurd heq.symm hf
        · have hlt := h.parent_lt hparent
          rw [if_neg (fun hboth => hf hboth.1), hnone, Option.none_or, hparent, Option.bind_some]
          exact ih around hlt (hlt.trans hid) hrest

/-- A definition of another name, off the chain, or behind a scope that binds the name changes nothing. -/
theorem lookup_define_of_not (hid : id < n) {f : Fin n} (hnot : ¬ (y = x ∧ h.Unshadowed id x f))
    (v : Value) : (h.define f x v).store.lookup id y = h.store.lookup id y := by
  induction id using Nat.strong_induction_on with
  | _ id ih =>
      have hown : ¬ (id = f ∧ y = x) := by
        rintro ⟨rfl, hy⟩
        exact hnot ⟨hy, h.unshadowed_self f x⟩
      rw [lookup_eq _ hid, h.lookup_eq hid, latest_define, parent_define, if_neg hown]
      cases hlatest : h.latest id y with
      | some w => rfl
      | none =>
          cases hparent : h.parent id with
          | none => rfl
          | some around =>
              have hlt := h.parent_lt hparent
              refine ih around hlt (hlt.trans hid) ?_
              rintro ⟨rfl, hreach⟩
              exact hnot ⟨rfl, hreach.up hparent hlatest⟩

/-- A definition is seen exactly in the scopes that it reaches, if the value is another one. -/
theorem lookup_define_ne_iff (hid : id < n) (f : Fin n) :
    (h.define f x v).store.lookup id y ≠ h.store.lookup id y ↔
      y = x ∧ h.Unshadowed id x f ∧ h.store.lookup id x ≠ some v := by
  constructor
  · intro hne
    by_cases hreach : y = x ∧ h.Unshadowed id x f
    · obtain ⟨rfl, hreach⟩ := hreach
      rw [lookup_define_of_unshadowed hid hreach] at hne
      exact ⟨rfl, hreach, hne.symm⟩
    · exact absurd (lookup_define_of_not hid hreach v) hne
  · rintro ⟨rfl, hreach, hne⟩
    rw [lookup_define_of_unshadowed hid hreach]
    exact hne.symm

/-- A new scope is seen from no scope that was there before. -/
theorem lookup_create (hid : id < n) (around : Option (Fin n)) (values : List (Text × Value)) (y : Text) :
    (h.create around values).store.lookup id y = h.store.lookup id y := by
  induction id using Nat.strong_induction_on with
  | _ id ih =>
      rw [lookup_eq _ (Nat.lt_succ_of_lt hid), h.lookup_eq hid, latest, parent, if_neg hid.ne,
        if_neg hid.ne]
      cases hparent : h.parent id with
      | none => rfl
      | some outer =>
          have hlt := h.parent_lt hparent
          rw [Option.bind_some, Option.bind_some, ih outer hlt (hlt.trans hid)]

end Definitions

/-! ## Going on elsewhere -/

section Elsewhere

variable {n m : Nat} {h : ScopeHistory n} {later : ScopeHistory m} {id far : Nat}

/-- A chain is the same in every history with the same scopes around its scopes. -/
theorem Leads.of_parents {nearer : List Nat} (hleads : h.Leads id nearer far)
    (hparents : ∀ other ≤ id, later.parent other = h.parent other) : later.Leads id nearer far := by
  induction hleads with
  | here => exact .here _
  | up hparent _ ih =>
      have hlt := h.parent_lt hparent
      refine .up ((hparents _ (Nat.le_refl _)).trans hparent) (ih fun other hother => ?_)
      exact hparents other (hother.trans hlt.le)

/-- Scopes that are there stay there, inside the same ones. -/
theorem Spares.parent_eq (hspares : h.Spares id later) :
    n ≤ m ∧ ∀ other < n, later.parent other = h.parent other := by
  induction hspares with
  | refl => exact ⟨Nat.le_refl n, fun _ _ => rfl⟩
  | create around values _ ih =>
      obtain ⟨hle, heq⟩ := ih
      refine ⟨Nat.le_succ_of_le hle, fun other hother => ?_⟩
      rw [parent, if_neg (hother.trans_le hle).ne, heq other hother]
  | define far name w hoff _ ih => exact ih

/-- A lookup gives what it did, whatever is done elsewhere than on the chain of its scope. -/
theorem Spares.lookup_eq (hspares : h.Spares id later) (hid : id < n) (y : Text) :
    later.store.lookup id y = h.store.lookup id y := by
  induction hspares with
  | refl => rfl
  | create around values hbefore ih =>
      have hle := hbefore.parent_eq.1
      exact (lookup_create (hid.trans_le hle) around values y).trans ih
  | define far name w hoff hbefore ih =>
      obtain ⟨hle, hparents⟩ := hbefore.parent_eq
      refine (lookup_define_of_not (hid.trans_le hle) ?_ w).trans ih
      rintro ⟨-, nearer, hleads, -⟩
      refine hoff ⟨nearer, hleads.of_parents fun other hother => ?_⟩
      exact (hparents other (hother.trans_lt hid)).symm

/-- No scope inside another is on the chain of that one. -/
theorem not_onChain_of_inside (hparent : h.parent far = some id) : ¬ h.OnChain id far := by
  intro hchain
  have hlt := h.parent_lt hparent
  exact absurd hchain.le (Nat.not_le.2 hlt)

/-- Of two scopes inside the same one neither is on the chain of the other. -/
theorem not_onChain_of_beside {around : Nat} (hid : h.parent id = some around)
    (hfar : h.parent far = some around) (hne : far ≠ id) : ¬ h.OnChain id far := by
  intro hchain
  obtain rfl | ⟨outer, houter, hrest⟩ := onChain_cases hchain
  · exact hne rfl
  · obtain rfl := Option.some.inj (hid.symm.trans houter)
    exact not_onChain_of_inside hfar hrest

end Elsewhere

/-! ## Shadowing -/

/-- What lookups in a scope give after a history. -/
structure ObeysShadowing {n : Nat} (h : ScopeHistory n) (id : Nat) : Prop where
  /-- The value most recently defined in the nearest scope on the chain that binds the name. -/
  found : ∀ x v, h.store.lookup id x = some v ↔ ∃ far, h.Unshadowed id x far ∧ h.latest far x = some v
  /-- Nothing exactly if no scope on the chain binds the name. -/
  missing : ∀ x, h.store.lookup id x = none ↔ ∀ far, h.OnChain id far → ¬ h.Binds far x
  /-- Asking whether there is a value agrees with looking it up. -/
  contains : ∀ x, h.store.contains id x = true ↔ ∃ v, h.store.lookup id x = some v
  /-- A definition is seen if it is one of the name, on the chain and not shadowed, and of another
  value. -/
  seen : ∀ (far : Fin n) x v y, (h.define far x v).store.lookup id y ≠ h.store.lookup id y ↔
    y = x ∧ h.Unshadowed id x far ∧ h.store.lookup id x ≠ some v
  /-- What is defined on the chain is found where it is not shadowed, however long the scope has been
  there. -/
  reached : ∀ (far : Fin n) x v, h.Unshadowed id x far → (h.define far x v).store.lookup id x = some v
  /-- Scopes that are made and names that are defined elsewhere, however many, change nothing. -/
  kept : ∀ {m : Nat} (later : ScopeHistory m), h.Spares id later →
    ∀ y, later.store.lookup id y = h.store.lookup id y
  /-- The scopes inside a scope are elsewhere, and so are those beside it. -/
  apart : (∀ inner, h.parent inner = some id → ¬ h.OnChain id inner) ∧
    ∀ around beside, h.parent id = some around → h.parent beside = some around → beside ≠ id →
      ¬ h.OnChain id beside

/-- Lookups obey shadowing in every scope and after every history. -/
theorem lookups_obey_shadowing {n : Nat} (h : ScopeHistory n) (id : Fin n) : h.ObeysShadowing id where
  found := fun _ _ => lookup_eq_some_iff id.isLt
  missing := fun _ => lookup_eq_none_iff id.isLt
  contains := fun x => by
    rw [ScopeStore.contains, ScopeStore.containsWithin_eq]
    exact Option.isSome_iff_exists
  seen := fun far _ _ _ => lookup_define_ne_iff id.isLt far
  reached := fun _ _ v hreach => lookup_define_of_unshadowed id.isLt hreach v
  kept := fun _ hspares y => hspares.lookup_eq id.isLt y
  apart := ⟨fun _ => not_onChain_of_inside, fun _ _ => not_onChain_of_beside⟩

/-- A scope sees what is defined around it later, unless it has a value of its own. -/
example : let inside := (empty.create none []).create (some 0) []
    (inside.define 0 [] .unit).store.lookup 1 [] = some .unit ∧
      ((inside.define 1 [] (.array [])).define 0 [] .unit).store.lookup 1 [] = some (.array []) :=
  ⟨rfl, rfl⟩

end ScopeHistory

end RollScript
