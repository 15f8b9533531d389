import RollScript.Proofs.Evaluation.Likeness
import RollScript.Proofs.Grammar.Spans
import RollScript.Proofs.Scopes.Machine

/-!
# The course of definitions

A turn of the machine with changing scopes does one of three things to the scopes of blocks: it leaves
them alone, it goes on to the next value that has to be evaluated, or it defines all names of one scope
at once. Read `Course` first. A scope is open while a frame waits for the value of one of its names, and
settled otherwise. What follows from the turns alone is proved here: open scopes are empty and have one
frame each (`Course.wellOpen`), a settled scope never changes (`Course.settled`), and every scope is
empty or complete (`Course.kinds`).
-/

namespace RollScript

/-- The scope of a call: one name inside another scope. -/
def Scope.IsCall (scope : Scope) : Prop :=
  ∃ parameter v parent, scope = ⟨[(parameter, v)], some parent⟩

namespace Scoped

variable {ω : Type}

/-! ## Open scopes -/

/-- The frames that wait for the value of a definition. -/
def waiting (frames : List (Frame × Expr)) : List (Frame × Expr) :=
  frames.filter fun entry => entry.1.isDefinition

/-- The scope of the block whose definition a frame waits for. -/
def scopeOf? : Frame → Option Nat
  | .definition _ _ _ _ env => some (number env)
  | _ => none

/-- The scopes of the blocks whose definitions are under way. -/
def openScopes (frames : List (Frame × Expr)) : List Nat :=
  (waiting frames).filterMap fun entry => scopeOf? entry.1

/-- A scope that has been made and whose definitions are not under way. -/
def Settled (m : Machine (ω × ScopeStore)) (id : Nat) : Prop :=
  id < m.world.2.scopes.length ∧ id ∉ openScopes m.frames

/-- Scopes whose definitions are under way are empty, and each has one frame. -/
structure WellOpen (m : Machine (ω × ScopeStore)) : Prop where
  distinct : (openScopes m.frames).Nodup
  empty : ∀ id ∈ openScopes m.frames, ∃ parent, m.world.2.scopes[id]? = some ⟨[], some parent⟩

@[simp] theorem waiting_cons_of_not {frame : Frame} {blame : Expr} {frames : List (Frame × Expr)}
    (h : frame.isDefinition = false) : waiting ((frame, blame) :: frames) = waiting frames := by
  simp [waiting, h]

@[simp] theorem openScopes_definition {done : List (Text × Entry)} {name : Text}
    {rest : List (Text × Expr)} {body blame : Expr} {id : Nat} {frames : List (Frame × Expr)} :
    openScopes ((.definition done name rest body (address id), blame) :: frames) =
      id :: openScopes frames := by
  simp [openScopes, waiting, Frame.isDefinition, scopeOf?]

theorem openScopes_cons (entry : Frame × Expr) {frames : List (Frame × Expr)} {id : Nat}
    (h : id ∈ openScopes frames) : id ∈ openScopes (entry :: frames) := by
  obtain ⟨other, hother, hid⟩ := List.mem_filterMap.1 h
  obtain ⟨hmem, hdefinition⟩ := List.mem_filter.1 hother
  refine List.mem_filterMap.2 ⟨other, List.mem_filter.2 ⟨?_, hdefinition⟩, hid⟩
  exact List.mem_cons_of_mem entry hmem

theorem openScopes_of_waiting {frames frames' : List (Frame × Expr)}
    (h : waiting frames' = waiting frames) : openScopes frames' = openScopes frames := by
  rw [openScopes, openScopes, h]

/-! ## Definitions of a block -/

/-- Values as entries of a frame. -/
def entriesOf (values : List (Text × Value)) : List (Text × Entry) :=
  values.map fun slot => (slot.1, .value slot.2)

/-- The values of function literals in the scope with a given number. -/
def closures (id : Nat) : List (Text × Expr) → List (Text × Value)
  | (name, .function _ parameter body) :: rest =>
    (name, .function (.closure parameter body (address id))) :: closures id rest
  | _ => []

/-- A definition of a block, and its value in the block's scope: a function literal is closed over
that scope. -/
def Binds (id : Nat) (binding : Text × Expr) (slot : Text × Value) : Prop :=
  slot.1 = binding.1 ∧ ∀ span parameter body, binding.2 = .function span parameter body →
    slot.2 = .function (.closure parameter body (address id))

/-- Values, the latest first, of the definitions of a block of the program before `rest`. -/
def OfBlock (tree : Expr) (id : Nat) (values : List (Text × Value)) (rest : List (Text × Expr))
    (body : Expr) : Prop :=
  ∃ span front, tree.Contains (.block span (front ++ rest) body) ∧
    List.Forall₂ (Binds id) front values.reverse

theorem OfBlock.literal {tree body literal : Expr} {id : Nat} {values : List (Text × Value)}
    {name parameter : Text} {span : Span} {rest : List (Text × Expr)}
    (h : OfBlock tree id values ((name, .function span parameter literal) :: rest) body) :
    OfBlock tree id ((name, .function (.closure parameter literal (address id))) :: values) rest
      body := by
  obtain ⟨whole, front, hblock, hfront⟩ := h
  refine ⟨whole, front ++ [(name, .function span parameter literal)], ?_, ?_⟩
  · rw [List.append_assoc]
    exact hblock
  · rw [List.reverse_cons]
    refine List.rel_append hfront (.cons ⟨rfl, fun _ _ _ hliteral => ?_⟩ .nil)
    cases hliteral
    rfl

theorem OfBlock.value {tree body value : Expr} {id : Nat} {values : List (Text × Value)}
    {name : Text} {rest : List (Text × Expr)} (hvalue : value.isLiteral = false)
    (h : OfBlock tree id values ((name, value) :: rest) body) (v : Value) :
    OfBlock tree id ((name, v) :: values) rest body := by
  obtain ⟨whole, front, hblock, hfront⟩ := h
  refine ⟨whole, front ++ [(name, value)], ?_, ?_⟩
  · rw [List.append_assoc]
    exact hblock
  · rw [List.reverse_cons]
    refine List.rel_append hfront (.cons ⟨rfl, fun _ _ _ hliteral => ?_⟩ .nil)
    rw [show value = _ from hliteral] at hvalue
    cases hvalue

/-- The function literals at the end of a block complete its values. -/
theorem OfBlock.closures {tree body : Expr} {id : Nat} {values : List (Text × Value)}
    {literals rest : List (Text × Expr)} (hliterals : ∀ b ∈ literals, b.2.isLiteral = true)
    (h : OfBlock tree id values (literals ++ rest) body) :
    OfBlock tree id ((closures id literals).reverse ++ values) rest body := by
  induction literals generalizing values with
  | nil => exact h
  | cons binding literals ih =>
      obtain ⟨hfirst, hothers⟩ := List.forall_mem_cons.1 hliterals
      obtain ⟨name, value⟩ := binding
      cases value with
      | function span parameter literal =>
          have hnext := ih hothers h.literal
          rw [Scoped.closures, List.reverse_cons, List.append_assoc]
          exact hnext
      | _ => cases hfirst

/-- A machine is at the definitions of a block: it starts the block, whose scope it makes, or a value
has come for one of the block's names. -/
inductive Arrives (tree : Expr) (m : Machine (ω × ScopeStore)) (body : Expr) :
    (id parent : Nat) → (values : List (Text × Value)) → (rest : List (Text × Expr)) →
    (work : List (Expr × Env)) → (frames : List (Frame × Expr)) → (scopes : List Scope) → Prop where
  | block {span : Span} {bindings : List (Text × Expr)} {parent : Nat} {work : List (Expr × Env)} :
      m.pending = none → m.work = (.block span bindings body, address parent) :: work →
      OfBlock tree m.world.2.scopes.length [] bindings body →
      Arrives tree m body m.world.2.scopes.length parent [] bindings work m.frames
        (m.world.2.scopes ++ [⟨[], some parent⟩])
  | value {id parent : Nat} {values : List (Text × Value)} {name : Text} {value blame : Expr}
      {rest : List (Text × Expr)} {frames : List (Frame × Expr)} {v : Value} :
      m.pending = some v →
      m.frames = (.definition (entriesOf values) name rest body (address id), blame) :: frames →
      m.world.2.scopes[id]? = some ⟨[], some parent⟩ → value.isLiteral = false →
      OfBlock tree id values ((name, value) :: rest) body →
      Arrives tree m body id parent ((name, v) :: values) rest m.work frames m.world.2.scopes

/-- What a turn does to the scopes of blocks. -/
inductive Course (tree : Expr) (m m' : Machine (ω × ScopeStore)) : Prop where
  /-- No definition starts or ends, and the scopes that are made are those of calls. -/
  | elsewhere {calls : List Scope} :
      waiting m'.frames = waiting m.frames → m'.world.2.scopes = m.world.2.scopes ++ calls →
      (∀ scope ∈ calls, scope.IsCall) → Course tree m m'
  /-- The block goes on to the next value that is not a function literal, which is evaluated in the
  scope around the block's. -/
  | waits {body value blame : Expr} {id parent : Nat} {values : List (Text × Value)} {name : Text}
      {literals rest : List (Text × Expr)} {work : List (Expr × Env)}
      {frames : List (Frame × Expr)} {scopes : List Scope} :
      Arrives tree m body id parent values (literals ++ (name, value) :: rest) work frames scopes →
      (∀ binding ∈ literals, binding.2.isLiteral = true) → value.isLiteral = false →
      m'.work = (value, address parent) :: work →
      m'.frames = (.definition (entriesOf ((closures id literals).reverse ++ values)) name rest body
        (address id), blame) :: frames →
      m'.world.2.scopes = scopes → Course tree m m'
  /-- All values are there: the names are defined, and the body is evaluated in the block's scope. -/
  | fills {body : Expr} {id parent : Nat} {values : List (Text × Value)}
      {literals : List (Text × Expr)} {work : List (Expr × Env)} {frames : List (Frame × Expr)}
      {scopes : List Scope} :
      Arrives tree m body id parent values literals work frames scopes →
      (∀ binding ∈ literals, binding.2.isLiteral = true) →
      m'.work = (body, address id) :: work → m'.frames = frames →
      m'.world.2.scopes = scopes.set id ⟨(closures id literals).reverse ++ values, some parent⟩ →
      Course tree m m'

variable {tree body : Expr} {m m' : Machine (ω × ScopeStore)} {id parent : Nat}
  {values : List (Text × Value)} {rest : List (Text × Expr)} {work : List (Expr × Env)}
  {frames : List (Frame × Expr)} {scopes : List Scope}

namespace Arrives

theorem ofBlock (h : Arrives tree m body id parent values rest work frames scopes) :
    OfBlock tree id values rest body := by
  cases h with
  | block _ _ hblock => exact hblock
  | value _ _ _ hvalue hblock => exact hblock.value hvalue _

/-- The scope is empty, and the scopes of other definitions are too. -/
theorem fresh (h : Arrives tree m body id parent values rest work frames scopes)
    (hm : WellOpen m) :
    scopes[id]? = some ⟨[], some parent⟩ ∧ (id :: openScopes frames).Nodup ∧
      ∀ other ∈ openScopes frames, ∃ parent, scopes[other]? = some ⟨[], some parent⟩ := by
  cases h with
  | block =>
      refine ⟨List.getElem?_concat_length, List.nodup_cons.2 ⟨?_, hm.distinct⟩, ?_⟩
      · intro hopen
        obtain ⟨parent, hscope⟩ := hm.empty _ hopen
        exact absurd (List.getElem?_eq_some_iff.1 hscope).1 (lt_irrefl _)
      · intro other hother
        obtain ⟨parent, hscope⟩ := hm.empty other hother
        have hlt := (List.getElem?_eq_some_iff.1 hscope).1
        exact ⟨parent, by rw [List.getElem?_append_left hlt, hscope]⟩
  | value _ hframes hscope =>
      obtain ⟨hdistinct, hempty⟩ := hm
      rw [hframes, openScopes_definition] at hdistinct hempty
      exact ⟨hscope, hdistinct, fun other hother => hempty other (List.mem_cons_of_mem _ hother)⟩

/-- Scopes that are settled are not that of the block, and are left as they are. -/
theorem settled (h : Arrives tree m body id parent values rest work frames scopes) {other : Nat}
    (hother : Settled m other) :
    other ≠ id ∧ other ∉ openScopes frames ∧ scopes[other]? = m.world.2.scopes[other]? := by
  obtain ⟨hlt, hclosed⟩ := hother
  cases h with
  | block => exact ⟨by omega, hclosed, List.getElem?_append_left hlt⟩
  | value _ hframes _ =>
      rw [hframes, openScopes_definition, List.mem_cons, not_or] at hclosed
      exact ⟨hclosed.1, hclosed.2, rfl⟩

/-- Every scope is there before, but for that of the block. -/
theorem other (h : Arrives tree m body id parent values rest work frames scopes) {other : Nat}
    (hne : other ≠ id) {scope : Scope} (hscope : scopes[other]? = some scope) :
    m.world.2.scopes[other]? = some scope ∧
      (other ∈ openScopes m.frames → other ∈ openScopes frames) := by
  cases h with
  | block =>
      have hlt : other < m.world.2.scopes.length := by
        have hlt := (List.getElem?_eq_some_iff.1 hscope).1
        rw [List.length_append, List.length_singleton] at hlt
        omega
      rw [List.getElem?_append_left hlt] at hscope
      exact ⟨hscope, fun hopen => hopen⟩
  | value _ hframes _ =>
      refine ⟨hscope, fun hopen => ?_⟩
      rw [hframes, openScopes_definition] at hopen
      exact (List.mem_cons.1 hopen).resolve_left hne

end Arrives

namespace Course

/-- Open scopes stay empty, and each has one frame. -/
theorem wellOpen (h : Course tree m m') (hm : WellOpen m) : WellOpen m' := by
  cases h with
  | elsewhere hwaiting hscopes _ =>
      have hopen := openScopes_of_waiting hwaiting
      refine ⟨by rw [hopen]; exact hm.distinct, fun id hid => ?_⟩
      rw [hopen] at hid
      obtain ⟨parent, hscope⟩ := hm.empty id hid
      refine ⟨parent, ?_⟩
      rw [hscopes, List.getElem?_append_left (List.getElem?_eq_some_iff.1 hscope).1, hscope]
  | waits harrives _ _ _ hframes hscopes =>
      obtain ⟨hscope, hdistinct, hempty⟩ := harrives.fresh hm
      constructor
      · rw [hframes, openScopes_definition]
        exact hdistinct
      · intro id hid
        rw [hframes, openScopes_definition] at hid
        rw [hscopes]
        rcases List.mem_cons.1 hid with rfl | hid
        · exact ⟨_, hscope⟩
        · exact hempty id hid
  | @fills _ filled _ _ _ _ _ _ harrives _ _ hframes hscopes =>
      obtain ⟨-, hdistinct, hempty⟩ := harrives.fresh hm
      obtain ⟨hnot, hdistinct⟩ := List.nodup_cons.1 hdistinct
      constructor
      · rw [hframes]
        exact hdistinct
      · intro id hid
        rw [hframes] at hid
        have hne : filled ≠ id := by
          rintro rfl
          exact hnot hid
        rw [hscopes, List.getElem?_set_ne hne]
        exact hempty id hid

/-- A settled scope stays as it is. -/
theorem settled (h : Course tree m m') (hid : Settled m id) :
    Settled m' id ∧ m'.world.2.scopes[id]? = m.world.2.scopes[id]? := by
  -- a scope that is the same is still there
  have hthere : m'.world.2.scopes[id]? = m.world.2.scopes[id]? → id < m'.world.2.scopes.length := by
    intro hsame
    rw [List.getElem?_eq_getElem hid.1] at hsame
    exact (List.getElem?_eq_some_iff.1 hsame).1
  cases h with
  | elsewhere hwaiting hscopes _ =>
      have hsame : m'.world.2.scopes[id]? = m.world.2.scopes[id]? := by
        rw [hscopes, List.getElem?_append_left hid.1]
      refine ⟨⟨hthere hsame, ?_⟩, hsame⟩
      rw [openScopes_of_waiting hwaiting]
      exact hid.2
  | waits harrives _ _ _ hframes hscopes =>
      obtain ⟨hne, hclosed, hsame⟩ := harrives.settled hid
      rw [← hscopes] at hsame
      refine ⟨⟨hthere hsame, ?_⟩, hsame⟩
      rw [hframes, openScopes_definition]
      exact List.not_mem_cons_of_ne_of_not_mem hne hclosed
  | fills harrives _ _ hframes hscopes =>
      obtain ⟨hne, hclosed, hsame⟩ := harrives.settled hid
      rw [← List.getElem?_set_ne hne.symm, ← hscopes] at hsame
      refine ⟨⟨hthere hsame, ?_⟩, hsame⟩
      rw [hframes]
      exact hclosed

end Course

/-! ## Kinds of scopes -/

/-- What a scope of a machine can be. -/
inductive Kind (tree : Expr) (m : Machine (ω × ScopeStore)) (id : Nat) (scope : Scope) : Prop where
  /-- The outermost scope, with the primitives of the language. -/
  | outermost : id = 0 → scope = ⟨Registry.standard.values, none⟩ → Settled m id →
      Kind tree m id scope
  /-- The scope of a call. -/
  | call : scope.IsCall → Settled m id → Kind tree m id scope
  /-- The scope of a block whose definitions are under way: it has no names. -/
  | opened : id ∈ openScopes m.frames → scope.entries = [] → Kind tree m id scope
  /-- The scope of a block with all its names. -/
  | complete {body : Expr} : OfBlock tree id scope.entries [] body → Settled m id →
      Kind tree m id scope

/-- A settled scope is of the same kind after a turn. -/
theorem Kind.kept {scope : Scope} (h : Kind tree m id scope) (hcourse : Course tree m m')
    (hopen : id ∈ openScopes m.frames → id ∈ openScopes m'.frames) : Kind tree m' id scope := by
  cases h with
  | outermost hid hscope hsettled => exact .outermost hid hscope (hcourse.settled hsettled).1
  | call hcall hsettled => exact .call hcall (hcourse.settled hsettled).1
  | opened hid hempty => exact .opened (hopen hid) hempty
  | complete hblock hsettled => exact .complete hblock (hcourse.settled hsettled).1

/-- Every scope is empty or complete after a turn if it was so before. -/
theorem Course.kinds (h : Course tree m m') (hm : WellOpen m)
    (hkinds : ∀ id scope, m.world.2.scopes[id]? = some scope → Kind tree m id scope) :
    ∀ id scope, m'.world.2.scopes[id]? = some scope → Kind tree m' id scope := by
  intro id scope hscope
  have hcourse := h
  cases h with
  | @elsewhere calls hwaiting hscopes hcalls =>
      rw [hscopes] at hscope
      -- a scope that was there keeps its kind, and a new one is that of a call
      by_cases hlt : id < m.world.2.scopes.length
      · rw [List.getElem?_append_left hlt] at hscope
        refine (hkinds id scope hscope).kept hcourse fun hopen => ?_
        rw [openScopes_of_waiting hwaiting]
        exact hopen
      · refine .call (hcalls scope ?_) ⟨?_, ?_⟩
        · rw [List.getElem?_append_right (by omega)] at hscope
          exact List.mem_of_getElem? hscope
        · rw [hscopes]
          exact (List.getElem?_eq_some_iff.1 hscope).1
        · rw [openScopes_of_waiting hwaiting]
          intro hopen
          obtain ⟨_, hold⟩ := hm.empty id hopen
          exact hlt (List.getElem?_eq_some_iff.1 hold).1
  | @waits _ _ _ defined _ _ _ _ _ _ _ _ harrives _ _ _ hframes hscopes =>
      rw [hscopes] at hscope
      by_cases heq : id = defined
      · subst heq
        rw [(harrives.fresh hm).1] at hscope
        cases hscope
        refine .opened ?_ rfl
        rw [hframes, openScopes_definition]
        exact List.mem_cons_self
      · obtain ⟨hbefore, hstays⟩ := harrives.other heq hscope
        refine (hkinds id scope hbefore).kept hcourse fun hopen => ?_
        rw [hframes, openScopes_definition]
        exact List.mem_cons_of_mem _ (hstays hopen)
  | @fills _ filled _ values literals _ _ _ harrives hliterals _ hframes hscopes =>
      by_cases heq : id = filled
      · subst heq
        have hlt := (List.getElem?_eq_some_iff.1 hscope).1
        have hsettled : Settled m' id := by
          refine ⟨hlt, ?_⟩
          rw [hframes]
          exact (List.nodup_cons.1 (harrives.fresh hm).2.1).1
        rw [hscopes, List.length_set] at hlt
        rw [hscopes, List.getElem?_set_self hlt] at hscope
        cases hscope
        -- the definitions that are left are function literals, so no name is missing
        have hblock := harrives.ofBlock
        rw [← List.append_nil literals] at hblock
        exact .complete (hblock.closures hliterals) hsettled
      · rw [hscopes, List.getElem?_set_ne (Ne.symm heq)] at hscope
        obtain ⟨hbefore, hstays⟩ := harrives.other heq hscope
        refine (hkinds id scope hbefore).kept hcourse fun hopen => ?_
        rw [hframes]
        exact hstays hopen

end Scoped

end RollScript
