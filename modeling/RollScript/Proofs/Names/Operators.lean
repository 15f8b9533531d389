import RollScript.Proofs.Evaluation.Custody
import RollScript.Proofs.Grammar.Naming
import RollScript.Proofs.Names.Dependence

/-!
# What operators mean

Nothing that a program binds can change what an operator means. Read `Env.Surrounds` first: an environment
that a program gets hold of consists of scopes with identifiers around which lies the outermost scope,
with the primitives and the host's values. `operators_keep_meaning` puts this together with what is
known of names in parsed trees. Functions of the host may keep closures that they are given and hand
them on later, but they come up with no others (`World.Discreet`).
-/

namespace RollScript

variable {ω : Type}

/-! ## Closures in values -/

mutual

/-- A value all of whose closures are among some. -/
inductive Value.Carries (C : Function → Prop) : Value → Prop where
  | number (x : Float) : Value.Carries C (.number x)
  | string (s : Text) : Value.Carries C (.string s)
  | unit : Value.Carries C .unit
  | array {items : List Value} : (∀ v ∈ items, Value.Carries C v) → Value.Carries C (.array items)
  | function {f : Function} : Function.Carries C f → Value.Carries C (.function f)

/-- A function that is a closure among some, or has received such closures only. -/
inductive Function.Carries (C : Function → Prop) : Function → Prop where
  | closure {parameter : Text} {body : Expr} {env : Env} :
      C (.closure parameter body env) → Function.Carries C (.closure parameter body env)
  | primitive {p : Primitive} {bound : List Value} :
      (∀ v ∈ bound, Value.Carries C v) → Function.Carries C (.primitive p bound)

end

/-- A value without closures. -/
abbrev Value.Closureless (v : Value) : Prop :=
  v.Carries fun _ => False

section Carries

variable {C : Function → Prop}

mutual

theorem Value.Closureless.carries : ∀ {v : Value}, v.Closureless → v.Carries C
  | .number x, _ => .number x
  | .string s, _ => .string s
  | .unit, _ => .unit
  | .array _, .array h => .array (closureless_items h)
  | .function (.closure ..), .function (.closure h) => h.elim
  | .function (.primitive ..), .function (.primitive h) => .function (.primitive (closureless_items h))

theorem Value.closureless_items : ∀ {items : List Value}, (∀ v ∈ items, v.Closureless) →
    ∀ v ∈ items, v.Carries C
  | [], _ => fun _ hv => absurd hv List.not_mem_nil
  | v :: _, h =>
      List.forall_mem_cons.2 ⟨(h v List.mem_cons_self).carries,
        closureless_items fun w hw => h w (List.mem_cons_of_mem v hw)⟩

end

/-- Functions tied to themselves if their closures are among some. -/
abbrev Carried (C : Function → Prop) (f g : Function) : Prop :=
  f = g ∧ f.Carries C

mutual

theorem Value.Carries.alike : ∀ {v : Value}, v.Carries C → Value.Alike (Carried C) v v
  | .number x, _ => .number x
  | .string s, _ => .string s
  | .unit, _ => .unit
  | .array _, .array h => .array (carried_items h)
  | .function _, .function h => .function ⟨rfl, h⟩

theorem Value.carried_items : ∀ {items : List Value}, (∀ v ∈ items, v.Carries C) →
    List.Forall₂ (Value.Alike (Carried C)) items items
  | [], _ => .nil
  | v :: _, h =>
      .cons (h v List.mem_cons_self).alike
        (carried_items fun w hw => h w (List.mem_cons_of_mem v hw))

end

mutual

theorem Value.Alike.carries : ∀ {v w : Value}, Value.Alike (Carried C) v w → v = w ∧ v.Carries C
  | .number x, _, .number _ => ⟨rfl, .number x⟩
  | .string s, _, .string _ => ⟨rfl, .string s⟩
  | .unit, _, .unit => ⟨rfl, .unit⟩
  | .array _, _, .array h => by
      obtain ⟨rfl, hitems⟩ := carries_items h
      exact ⟨rfl, .array hitems⟩
  | .function _, _, .function ⟨hsame, h⟩ => ⟨congrArg Value.function hsame, .function h⟩

theorem Value.carries_items : ∀ {items others : List Value},
    List.Forall₂ (Value.Alike (Carried C)) items others →
    items = others ∧ ∀ v ∈ items, v.Carries C
  | [], _, .nil => ⟨rfl, fun _ hv => absurd hv List.not_mem_nil⟩
  | _ :: _, _, .cons hv hrest => by
      obtain ⟨rfl, hfirst⟩ := hv.carries
      obtain ⟨rfl, hitems⟩ := carries_items hrest
      exact ⟨rfl, List.forall_mem_cons.2 ⟨hfirst, hitems⟩⟩

end

end Carries

/-! ## Functions of the host -/

/-- A request of a function of the host that hands on closures among some only. Such a function can wait
for what it asks for, but it evaluates nothing in an environment of its own. -/
inductive Request.HandsOn (C : Function → Prop) : Request → Prop where
  | produce {v : Value} : v.Carries C → HandsOn C (.produce v)
  | invoke {f : Function} {v : Value} : f.Carries C → v.Carries C → HandsOn C (.invoke f v)
  | call {f : Function} {v : Value} {id : Nat} {saved : List Value} : f.Carries C → v.Carries C →
      (∀ w ∈ saved, w.Carries C) → HandsOn C (.call f v (.host id saved))

/-- A function of the host has handed on closures among some only, and keeps no others. -/
def HandedOn (C : Function → Prop) (keeps : ω → Function → Prop)
    (returned : Except Stop (List Request) × ω) : Prop :=
  (∀ f, keeps returned.2 f → C f) ∧
    ∀ requests, returned.1 = .ok requests → ∀ request ∈ requests, request.HandsOn C

/-- The functions of the host come up with no closures of their own: whichever closures they are given
and have kept from earlier calls, they hand on and keep these only. -/
structure World.Discreet (world : World ω) (keeps : ω → Function → Prop) : Prop where
  draw {width n : Nat} {s t : ω} : world.draw width s = some (n, t) → ∀ f, keeps t f → keeps s f
  call (C : Function → Prop) {id : Nat} {args : List Value} {s : ω} : (∀ v ∈ args, v.Carries C) →
    (∀ f, keeps s f → C f) → HandedOn C keeps (world.call id args s)
  resume (C : Function → Prop) {id : Nat} {saved : List Value} {v : Value} {s : ω} :
    (∀ w ∈ saved, w.Carries C) → v.Carries C → (∀ f, keeps s f → C f) →
    HandedOn C keeps (world.resume id saved v s)

/-! ## Environments around programs -/

/-- Code whose names a program can mention: part of a parsed tree. -/
inductive Expr.Mentions : Expr → Prop where
  | wellNamed {e : Expr} : e.WellNamed → Mentions e
  | operator {span : Span} {x : Text} : IsOperator x → Mentions (.name span x)

mutual

/-- A closure of a program that is run in an environment. -/
inductive Function.Rooted (root : Env) : Function → Prop where
  | closure {parameter : Text} {body : Expr} {env : Env} : IsIdentifier parameter → body.WellNamed →
      Env.Surrounds root env → Function.Rooted root (.closure parameter body env)

/-- An environment with scopes of identifiers inside another one. -/
inductive Env.Surrounds (root : Env) : Env → Prop where
  | root {env : Env} : env = root → Env.Surrounds root env
  | scope {entries : List (Text × Entry)} {parent : Env} : (∀ entry ∈ entries, IsIdentifier entry.1) →
      (∀ entry ∈ entries, Entry.Rooted root entry.2) → Env.Surrounds root parent →
      Env.Surrounds root (.scope entries parent)

/-- An entry of a scope of a program. -/
inductive Entry.Rooted (root : Env) : Entry → Prop where
  | value {v : Value} : v.Carries (Function.Rooted root) → Entry.Rooted root (.value v)
  | literal {parameter : Text} {body : Expr} : IsIdentifier parameter → body.WellNamed →
      Entry.Rooted root (.literal parameter body)

end

/-- The value of an operator's name is found in the environment around the program. -/
theorem Env.Surrounds.lookup_operator {root : Env} {x : Text} (hx : IsOperator x) {env : Env}
    (h : root.Surrounds env) : env.lookup x = root.lookup x := by
  cases h with
  | root hsame => rw [hsame]
  | @scope entries parent hnames _ hparent =>
      -- the scope binds identifiers only, so the operator is found further out
      have hnone : entries.lookup x = none := by
        refine List.lookup_eq_none_iff.2 fun entry hentry => ?_
        rw [bne_iff_ne]
        rintro rfl
        exact hx.not_identifier (hnames entry hentry)
      rw [lookup, hnone]
      exact hparent.lookup_operator hx

/-- The scopes of an environment lie inside the one around the program. -/
theorem Env.Surrounds.inside {root env : Env} (h : root.Surrounds env) :
    ∃ inner, env.scopes = inner ++ root.scopes ∧ ∀ scope ∈ env :: inner, root.Surrounds scope := by
  cases h with
  | root hsame => exact ⟨[], congrArg Env.scopes hsame, List.forall_mem_singleton.2 (.root hsame)⟩
  | @scope entries parent hnames hentries hparent =>
      obtain ⟨inner, hscopes, hinner⟩ := hparent.inside
      have hscope : root.Surrounds (.scope entries parent) := .scope hnames hentries hparent
      refine ⟨.scope entries parent :: inner, congrArg (_ :: ·) hscopes, ?_⟩
      refine List.forall_mem_cons.2 ⟨hscope, List.forall_mem_cons.2 ⟨hscope, ?_⟩⟩
      exact fun scope h => hinner scope (List.mem_cons_of_mem parent h)

/-! ## The outermost scope -/

/-- An environment of values without closures. -/
inductive Env.Closureless : Env → Prop where
  | empty : Env.Closureless .empty
  | extend {env : Env} {values : List (Text × Value)} : env.Closureless →
      (∀ binding ∈ values, binding.2.Closureless) → (env.extend values).Closureless

theorem rootEnvironment_closureless (registry : Registry) {values : List (Text × Value)}
    (hvalues : ∀ binding ∈ values, binding.2.Closureless) :
    (rootEnvironment registry values).Closureless := by
  have hregistry : registry.environment.Closureless := by
    refine .extend .empty ?_
    intro binding hbinding
    obtain ⟨entry, -, rfl⟩ := List.mem_map.1 hbinding
    exact .function (.primitive fun v hv => absurd hv List.not_mem_nil)
  unfold rootEnvironment
  split
  · exact hregistry
  · exact .extend hregistry hvalues

theorem Registry.environment_lookup (registry : Registry) (x : Text) :
    registry.environment.lookup x =
      (registry.get? x).map fun p => .function (.primitive p []) := by
  rw [Registry.environment, Env.lookup_extend, Registry.values, Registry.get?]
  rw [show Env.empty.lookup x = none from rfl, Option.or_none]
  induction registry.entries with
  | nil => rfl
  | cons entry rest ih =>
      rw [List.map_cons, List.lookup_cons, List.lookup_cons, ih]
      split <;> rfl

section Closureless

variable {C : Function → Prop}

/-- What is found in a scope of an environment without closures has none. -/
theorem Env.Closureless.entry {env : Env} (h : env.Closureless) {entries : List (Text × Entry)}
    {parent : Env} {x : Text} {entry : Entry} (hscope : .scope entries parent ∈ env.scopes)
    (hentry : (x, entry) ∈ entries) : ∃ v, entry = .value v ∧ v.Carries C := by
  induction h with
  | empty => cases hscope
  | @extend env values _ hvalues ih =>
      rcases List.mem_cons.1 hscope with hsame | hscope
      · cases hsame
        obtain ⟨binding, hbinding, heq⟩ := List.mem_map.1 hentry
        cases heq
        exact ⟨_, rfl, (hvalues binding hbinding).carries⟩
      · exact ih hscope

theorem Env.Closureless.lookup {env : Env} (h : env.Closureless) {x : Text} {v : Value}
    (hv : env.lookup x = some v) : v.Carries C := by
  induction h with
  | empty => cases hv
  | @extend env values _ hvalues ih =>
      rw [lookup_extend] at hv
      rcases Option.or_eq_some_iff.1 hv with hfound | ⟨-, hfound⟩
      · exact (hvalues _ (mem_of_lookup hfound)).carries
      · exact ih hfound

end Closureless

/-! ## What a program gets hold of -/

section Rooted

variable {root : Env} (hroot : root.Closureless)

include hroot

/-- What is found in an environment around code of a program is that of the program too. -/
theorem Env.Surrounds.lookup {x : Text} {v : Value} {env : Env} (h : root.Surrounds env)
    (hv : env.lookup x = some v) : v.Carries (Function.Rooted root) := by
  cases h with
  | root hsame =>
      rw [hsame] at hv
      exact hroot.lookup hv
  | @scope entries parent hnames hentries hparent =>
      have hscope : root.Surrounds (.scope entries parent) := .scope hnames hentries hparent
      rw [Env.lookup] at hv
      split at hv
      · next hfound =>
          cases hv
          cases hentries _ (mem_of_lookup hfound) with
          | value hvalue => exact hvalue
      · -- a literal becomes a closure in the scope it is found in
        next hfound =>
          cases hv
          cases hentries _ (mem_of_lookup hfound) with
          | literal hparameter hbody => exact .function (.closure (.closure hparameter hbody hscope))
      · exact lookup hparent hv

theorem Env.Surrounds.entry {entries : List (Text × Entry)} {parent : Env} {x : Text} {v : Value}
    (hentry : (x, .value v) ∈ entries) {env : Env} (h : root.Surrounds env)
    (hscope : .scope entries parent ∈ env.scopes) : v.Carries (Function.Rooted root) := by
  cases h with
  | root hsame =>
      rw [hsame] at hscope
      obtain ⟨w, hw, hcarries⟩ := hroot.entry hscope hentry
      cases hw
      exact hcarries
  | scope _ hentries hparent =>
      rcases List.mem_cons.1 hscope with hinnermost | hscope
      · cases hinnermost
        cases hentries _ hentry with
        | value hvalue => exact hvalue
      · exact entry hentry hparent hscope

/-- Something held that is of a program that is run in an environment. -/
def Held.Rooted (root : Env) : Held → Prop
  | .value v => v.Carries (Function.Rooted root)
  | .function f => f.Carries (Function.Rooted root)
  | .env scope => root.Surrounds scope

theorem Held.Rooted.part {held part : Held} (h : held.Rooted root) (hpart : held.Part part) :
    part.Rooted root := by
  cases hpart with
  | item hv =>
      cases h with
      | array hitems => exact hitems _ hv
  | function =>
      cases h with
      | function hf => exact hf
  | argument hv =>
      cases h with
      | primitive hbound => exact hbound _ hv
  | scope =>
      cases h with
      | closure hf =>
          cases hf with
          | closure _ _ henv => exact henv
  | entry hscope hentry => exact Env.Surrounds.entry hroot hentry h hscope

end Rooted

/-- A program tied to itself in an environment. -/
def Env.ties (root : Env) : Ties where
  function := Carried (Function.Rooted root)
  scene expr env env' := env = env' ∧ expr.Mentions ∧ root.Surrounds env
  block done done' rest body env env' :=
    done = done' ∧ env = env' ∧ (∀ entry ∈ done, IsIdentifier entry.1) ∧
      (∀ entry ∈ done, entry.2.Rooted root) ∧ (∀ binding ∈ rest, IsIdentifier binding.1) ∧
      (∀ binding ∈ rest, binding.2.WellNamed) ∧ body.WellNamed ∧ root.Surrounds env
  limits := True

section Ties

variable {root : Env} (hroot : root.Closureless)

include hroot

theorem Env.ties_scopes : root.ties.Scopes where
  array := by
    rintro span elements env _ ⟨rfl, hcode, henv⟩ e he
    cases hcode with
    | wellNamed hcode =>
        cases hcode with
        | array helements => exact ⟨rfl, .wellNamed (helements e he), henv⟩
  apply := by
    rintro span callee operand env _ ⟨rfl, hcode, henv⟩
    cases hcode with
    | wellNamed hcode =>
        cases hcode with
        | apply hcallee hoperand =>
            exact ⟨⟨rfl, .wellNamed hcallee, henv⟩, ⟨rfl, .wellNamed hoperand, henv⟩⟩
        | operator hx hoperand => exact ⟨⟨rfl, .operator hx, henv⟩, ⟨rfl, .wellNamed hoperand, henv⟩⟩
  choice := by
    rintro span condition whenTrue whenFalse env _ ⟨rfl, hcode, henv⟩
    cases hcode with
    | wellNamed hcode =>
        cases hcode with
        | choice hcondition htrue hfalse =>
            exact ⟨⟨rfl, .wellNamed hcondition, henv⟩, ⟨rfl, .wellNamed htrue, henv⟩,
              ⟨rfl, .wellNamed hfalse, henv⟩⟩
  name := by
    rintro span x env _ ⟨rfl, -, henv⟩
    cases hfound : env.lookup x with
    | none => exact .none
    | some v => exact .some (henv.lookup hroot hfound).alike
  function := by
    rintro span parameter body env _ ⟨rfl, hcode, henv⟩
    cases hcode with
    | wellNamed hcode =>
        cases hcode with
        | function hparameter hbody => exact ⟨rfl, .closure (.closure hparameter hbody henv)⟩
  call := by
    rintro parameter body env _ ⟨rfl, hf⟩
    cases hf with
    | closure hf =>
        cases hf with
        | closure hparameter hbody henv =>
            refine ⟨env, rfl, fun v w hv => ?_⟩
            obtain ⟨rfl, hvalue⟩ := hv.carries
            refine ⟨rfl, .wellNamed hbody, .scope ?_ ?_ henv⟩
            · exact List.forall_mem_singleton.2 hparameter
            · exact List.forall_mem_singleton.2 (.value hvalue)
  block := by
    rintro span bindings body env _ ⟨rfl, hcode, henv⟩
    cases hcode with
    | wellNamed hcode =>
        cases hcode with
        | block hnames hvalues hbody =>
            exact ⟨rfl, rfl, by simp, by simp, hnames, hvalues, hbody, henv⟩
  literal := by
    rintro done _ name parameter span literal rest body env _
      ⟨rfl, rfl, hdone, hentries, hnames, hvalues, hbody, henv⟩
    obtain ⟨hname, hnames⟩ := List.forall_mem_cons.1 hnames
    obtain ⟨hliteral, hvalues⟩ := List.forall_mem_cons.1 hvalues
    cases hliteral with
    | function hparameter hcode =>
        exact ⟨rfl, rfl, List.forall_mem_cons.2 ⟨hname, hdone⟩,
          List.forall_mem_cons.2 ⟨.literal hparameter hcode, hentries⟩, hnames, hvalues, hbody, henv⟩
  next := by
    rintro done _ name value rest body env _ ⟨rfl, rfl, -, -, -, hvalues, -, henv⟩ -
    exact ⟨rfl, .wellNamed (hvalues _ List.mem_cons_self), henv⟩
  value := by
    rintro done _ name value v w rest body env _
      ⟨rfl, rfl, hdone, hentries, hnames, hvalues, hbody, henv⟩ - hv
    obtain ⟨rfl, hvalue⟩ := hv.carries
    obtain ⟨hname, hnames⟩ := List.forall_mem_cons.1 hnames
    exact ⟨rfl, rfl, List.forall_mem_cons.2 ⟨hname, hdone⟩,
      List.forall_mem_cons.2 ⟨.value hvalue, hentries⟩, hnames,
      (List.forall_mem_cons.1 hvalues).2, hbody, henv⟩
  body := by
    rintro done _ body env _ ⟨rfl, rfl, hdone, hentries, -, -, hbody, henv⟩
    exact ⟨rfl, .wellNamed hbody, .scope hdone hentries henv⟩

omit hroot in
theorem Request.HandsOn.safe {request : Request} (h : request.HandsOn (Function.Rooted root)) :
    request.Safe root.ties := by
  cases h with
  | produce hv => exact .produce hv.alike
  | invoke hf hv => exact .invoke ⟨rfl, hf⟩ hv.alike
  | call hf hv hsaved => exact .call ⟨rfl, hf⟩ hv.alike (.host fun w hw => (hsaved w hw).alike)

variable {world : World ω} {keeps : ω → Function → Prop}

omit hroot in
theorem HandedOn.safe {returned : Except Stop (List Request) × ω}
    (h : HandedOn (Function.Rooted root) keeps returned) :
    SafeReturn root.ties (fun s => ∀ f, keeps s f → f.Rooted root) returned :=
  ⟨h.1, fun requests hrequests request hrequest => (h.2 requests hrequests request hrequest).safe⟩

/-- A machine that runs a program keeps to what is of the program, if the functions of the host come up
with no closures of their own. -/
theorem World.Discreet.guards (hworld : world.Discreet keeps) :
    root.ties.Guards (fun s => ∀ f, keeps s f → f.Rooted root) world where
  toScopes := Env.ties_scopes hroot
  inversion := by
    rintro p bound _ ⟨rfl, hf⟩
    cases hf with
    | primitive hbound => exact ⟨bound, rfl, Value.carried_items hbound⟩
  more := by
    rintro p bound bound' v w guard ⟨hsame, hf⟩ hv - - -
    cases hsame
    obtain ⟨rfl, hvalue⟩ := hv.carries
    cases hf with
    | primitive hbound =>
        refine ⟨rfl, .primitive (List.forall_mem_append.2 ⟨hbound, ?_⟩)⟩
        exact List.forall_mem_singleton.2 hvalue
  reroll _ _ := trivial
  draws _ _ := World.alone_draws fun hdrawn hs f hf => hs f (hworld.draw hdrawn f hf)
  host := by
    rintro p bound _ id - - args args' s _ - ⟨rfl, hs⟩
    exact .mk (.error _) ⟨rfl, hs⟩
  limited := trivial
  calls hargs hs :=
    (hworld.call _ (fun v hv => (hargs v hv).carries.2) hs).safe
  resumes hsaved hv hs :=
    (hworld.resume _ (fun w hw => (hsaved w hw).carries.2) hv.carries.2 hs).safe

theorem Env.ties_covers : root.ties.Covers (Held.Rooted root) where
  value hv := hv.carries.2
  function hf := hf.2
  scene hscene := hscene.2.2
  block := by
    rintro done rest body env ⟨-, -, hnames, hentries, -, -, -, henv⟩
    exact ⟨henv, .scope hnames hentries henv⟩
  part hheld hpart := hheld.part hroot hpart

end Ties

/-- The names that a parsed program binds are identifiers, and it mentions an operator only to apply it.
So, if neither the values that the host gives to names have closures nor its functions come up with any,
then an operator means the same throughout an evaluation, whatever the program binds: what the host has
given it, or else the primitive of that name. -/
theorem operators_keep_meaning {source : Text} {tree : Expr} (hparse : parse source = .ok tree)
    (registry : Registry) {values : List (Text × Value)}
    (hvalues : ∀ binding ∈ values, binding.2.Closureless) {world : World ω}
    {keeps : ω → Function → Prop} (hworld : world.Discreet keeps) (config : Config) {s : ω}
    (hs : ∀ f, ¬ keeps s f) :
    tree.WellNamed ∧
      ∀ m, Machine.Reaches world config (.start tree (rootEnvironment registry values) s) m →
        ∀ env, m.Holds (.env env) →
          ∃ inner, env.scopes = inner ++ (rootEnvironment registry values).scopes ∧
            ∀ scope ∈ env :: inner, ∀ x, IsOperator x →
              scope.lookup x = (rootEnvironment registry values).lookup x ∧
              scope.lookup x = (values.lookup x).or
                ((registry.get? x).map fun p => .function (.primitive p [])) := by
  have hroot := rootEnvironment_closureless registry hvalues
  have hnamed := parse_wellNamed hparse
  refine ⟨hnamed, ?_⟩
  intro m hreaches env henv
  have hstart : (Machine.start tree (rootEnvironment registry values) s).Safe
      (rootEnvironment registry values).ties
      fun s => ∀ f, keeps s f → f.Rooted (rootEnvironment registry values) :=
    start_safe ⟨rfl, .wellNamed hnamed, .root rfl⟩ fun f hf => absurd hf (hs f)
  have hsafe := Machine.reaches_safe (hworld.guards hroot) hreaches hstart
  have hrooted : (rootEnvironment registry values).Surrounds env :=
    (Env.ties_covers hroot).holds hsafe henv
  obtain ⟨inner, hscopes, hinner⟩ := hrooted.inside
  refine ⟨inner, hscopes, ?_⟩
  intro scope hscope x hx
  have hlookup := (hinner scope hscope).lookup_operator hx
  refine ⟨hlookup, ?_⟩
  rw [hlookup, rootEnvironment_lookup, Registry.environment_lookup]

theorem World.applying_discreet : World.applying.Discreet fun _ _ => False where
  draw hdrawn := by cases hdrawn
  call C id args s hargs _ := by
    refine ⟨fun f hf => hf.elim, fun requests hrequests request hrequest => ?_⟩
    simp only [World.applying] at hrequests
    split at hrequests
    · cases hrequests
      rw [List.mem_singleton.1 hrequest]
      obtain ⟨hf, hv⟩ := List.forall_mem_cons.1 hargs
      cases hf with
      | function hf => exact .call hf (List.forall_mem_singleton.1 hv) (List.forall_mem_nil _)
    · cases hrequests
  resume C id saved v s _ hv _ := by
    refine ⟨fun f hf => hf.elim, fun requests hrequests request hrequest => ?_⟩
    cases hrequests
    rw [List.mem_singleton.1 hrequest]
    exact .produce hv

/-- A program that uses an operator to which the host has given another meaning. -/
def doubled : Text :=
  .ofString "let double @x x + x in double * 4"

/-- The value that the host gives to the operator: its function of two arguments. -/
def applied : List (Text × Value) :=
  [(.ofString "*", .function (.primitive ⟨.ofString "apply", [.function, .any], .suspending, .host 0⟩ []))]

theorem doubled_keeps_meaning :
    ∃ tree, parse doubled = .ok tree ∧ (∀ binding ∈ applied, binding.2.Closureless) ∧
      World.applying.Discreet (fun _ _ => False) ∧ tree.WellNamed ∧
      ∀ m, Machine.Reaches .applying .standard (.start tree (rootEnvironment .standard applied) ()) m →
        ∀ env, m.Holds (.env env) →
          ∃ inner, env.scopes = inner ++ (rootEnvironment .standard applied).scopes ∧
            ∀ scope ∈ env :: inner, ∀ x, IsOperator x →
              scope.lookup x = (rootEnvironment .standard applied).lookup x ∧
              scope.lookup x = (applied.lookup x).or
                ((Registry.standard.get? x).map fun p => .function (.primitive p [])) := by
  obtain ⟨tree, hparse, -⟩ : ∃ tree, parse doubled = .ok tree ∧
      tree.free = [.ofString "+", .ofString "*"] :=
    parse_free (by decide +kernel)
  have hvalues : ∀ binding ∈ applied, binding.2.Closureless :=
    List.forall_mem_singleton.2 (.function (.primitive (List.forall_mem_nil _)))
  exact ⟨tree, hparse, hvalues, World.applying_discreet,
    operators_keep_meaning hparse .standard hvalues World.applying_discreet .standard fun _ hf => hf⟩

end RollScript
