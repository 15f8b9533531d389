import RollScript.Program
import RollScript.Proofs.Evaluation.Conversations
import RollScript.Proofs.Numbers.Overflow

/-!
# Exploding

`explode` makes a number of base rolls, and after each roll one more as long as the roll explodes. Read
`explode_conversation` first: it says for the conversation of any call of `explode` what the array it returns
has to do with its calls, and when it returns. `Phase` lists what such a conversation can be.
-/

namespace RollScript

namespace Exploding

open Combinator

/-- The primitive `explode`. -/
def primitive : Primitive :=
  Registry.combinator "explode" [.number, .function, .function] .explode

/-- The point at which `explode` is called with its last argument. -/
abbrev called {ω : Type} (n : Float) (roll again : Function) (base : List (Frame × Expr)) (blame : Expr)
    (results : List Value) (s : ω) (room : Nat) : Point ω :=
  .calling (.primitive primitive [.number n, .function roll]) (.function again) base blame results s room

/-- How many of the rolls have not exploded. -/
def settled (attempts : List (Value × Value)) : Nat :=
  attempts.countP fun attempt => !attempt.2.truthy

/-- How many of the rolls have exploded. -/
def exploded (attempts : List (Value × Value)) : Nat :=
  attempts.countP fun attempt => attempt.2.truthy

/-- How `explode` behaves that has been called at a point for waiting frames, to make `count` base rolls. -/
structure Behaves {ω : Type} (world : World ω) (config : Config) (count : Nat) (roll again : Function)
    (base : List (Frame × Expr)) (p : Point ω) : Prop where
  /-- It rolls and asks about the roll in turn, and no more after the last base roll has not exploded. -/
  alternates : ∀ events q, Records world config base p events q →
    ∃ attempts, events <+: rounds roll again attempts ∧ (attempts ≠ [] → settled attempts.dropLast < count)
  /-- It returns exactly the rolls it has made, in order. As many of them as there are base rolls have not
  exploded, the last one among them. -/
  returns : ∀ events q w, Records world config base p events q → q.Brings w base →
    ∃ attempts, events = rounds roll again attempts ∧ w = .array (attempts.map Prod.fst) ∧
      settled attempts = count ∧
      (0 < count → ∃ rest v verdict, attempts = rest ++ [(v, verdict)] ∧ verdict.truthy = false) ∧
      (count = 0 → attempts = [])
  /-- It returns if rolls explode only so often and every call is answered. -/
  finishes : ∀ bound,
    (∀ attempts q, Records world config base p (rounds roll again attempts) q → exploded attempts ≤ bound) →
    (∀ events f v q, Records world config base p (events ++ [Exchange.call f v]) q →
      ∃ w r, q.Comes world config r ∧
        Records world config base p (events ++ [Exchange.call f v, .answer w]) r) →
    ∃ events q items, Records world config base p events q ∧ q.Brings (.array items) base

/-! ## What the conversation can be -/

section Phase

variable {config : Config} {count : Nat} {roll again : Function} {events : List Exchange}
  {v verdict : Value} {attempts : List (Value × Value)} {next : Except Stop (List Request)}

theorem settled_concat (attempts : List (Value × Value)) (v verdict : Value) :
    settled (attempts ++ [(v, verdict)]) = settled attempts + if verdict.truthy then 0 else 1 := by
  rw [settled, List.countP_append, ← settled]
  cases hverdict : verdict.truthy <;> simp [hverdict]

/-- Rolls that can have been made when `count` base rolls are asked for: no more is rolled after as many have
not exploded. -/
def Due (count : Nat) (attempts : List (Value × Value)) : Prop :=
  attempts = [] ∨ ∃ rest v verdict, attempts = rest ++ [(v, verdict)] ∧ settled rest < count

theorem Due.settled_le (h : Due count attempts) : settled attempts ≤ count := by
  rcases h with rfl | ⟨rest, v, verdict, rfl, hrest⟩
  · exact Nat.zero_le _
  · rw [settled_concat]
    split <;> omega

/-- The rolls so far, the last one first, as the frames of `explode` keep them. -/
def done (attempts : List (Value × Value)) : List Value :=
  (attempts.map Prod.fst).reverse

theorem done_concat (attempts : List (Value × Value)) (v verdict : Value) :
    done (attempts ++ [(v, verdict)]) = v :: done attempts := by
  simp [done]

/-- The conversation of `explode` so far, and what it goes on with: a roll or its end after whole rounds, or
the question about a roll. -/
inductive Phase (count : Nat) (roll again : Function) :
    List Exchange → Except Stop (List Request) → Prop where
  | rests {attempts : List (Value × Value)} : Due count attempts →
      Phase count roll again (rounds roll again attempts)
        (.ok (nextBase roll again (done attempts) (count - settled attempts)))
  | asks {attempts : List (Value × Value)} (v : Value) : settled attempts < count →
      Phase count roll again (rounds roll again attempts ++ [Exchange.call roll .unit, .answer v])
        (.ok [.call again v (.repeated roll again (v :: done attempts) (count - settled attempts - 1))])

/-- The answer to a call takes the conversation to its next phase. -/
theorem Phase.answers {f : Function} {w : Value} {frame : Frame} (u : Value)
    (h : Phase count roll again events (.ok [.call f w frame])) :
    Phase count roll again (events ++ [Exchange.call f w, .answer u]) (frame.answered config u) := by
  generalize hnext : (Except.ok [Request.call f w frame] : Except Stop (List Request)) = next at h
  cases h with
  | @rests attempts hdue =>
      cases hleft : count - settled attempts with
      | zero =>
          rw [hleft] at hnext
          cases hnext
      | succ left =>
          rw [hleft] at hnext
          cases hnext
          have hasks : Phase count roll again
              (rounds roll again attempts ++ [Exchange.call roll .unit, .answer u])
              (.ok [.call again u
                (.repeated roll again (u :: done attempts) (count - settled attempts - 1))]) :=
            .asks u (by omega)
          rw [hleft] at hasks
          exact hasks
  | @asks attempts v hless =>
      cases hnext
      have hleft : (if u.truthy then count - settled attempts - 1 + 1 else count - settled attempts - 1) =
          count - settled (attempts ++ [(w, u)]) := by
        rw [settled_concat]
        split <;> omega
      have hdecide : Frame.answered config
          (.repeated roll again (w :: done attempts) (count - settled attempts - 1)) u =
          .ok (nextBase roll again (done (attempts ++ [(w, u)]))
            (count - settled (attempts ++ [(w, u)]))) := by
        rw [← hleft, done_concat]
        exact congrArg Except.ok (decideExplode_eq roll again _ _ u)
      rw [hdecide, ← rounds_concat]
      exact .rests (.inr ⟨attempts, w, u, rfl, hless⟩)

theorem talks_phase (h : Talks config (.ok (nextBase roll again [] count)) events next) :
    Phase count roll again events next := by
  induction h with
  | begins => exact .rests (.inl rfl)
  | answers u _ ih => exact ih.answers u

/-- After whole rounds `explode` rolls again, or it returns. -/
theorem Phase.of_rounds (h : Phase count roll again (rounds roll again attempts) next) :
    Due count attempts ∧ next = .ok (nextBase roll again (done attempts) (count - settled attempts)) := by
  generalize hevents : rounds roll again attempts = events at h
  cases h with
  | rests hdue =>
      obtain rfl := rounds_injective roll again hevents
      exact ⟨hdue, rfl⟩
  | asks v => exact absurd hevents.symm (rounds_ne_half roll again _ _ v)

/-- After a roll `explode` asks about it. -/
theorem Phase.of_half
    (h : Phase count roll again (rounds roll again attempts ++ [Exchange.call roll .unit, .answer v]) next) :
    ∃ frame, next = .ok [.call again v frame] := by
  generalize hevents : rounds roll again attempts ++ [Exchange.call roll .unit, .answer v] = events at h
  cases h with
  | rests => exact absurd hevents (rounds_ne_half roll again _ _ v)
  | asks w =>
      obtain ⟨-, hlast⟩ := List.append_inj' hevents rfl
      cases hlast
      exact ⟨_, rfl⟩

/-- Whatever the phase, no roll has been made after as many had not exploded as there are base rolls. -/
theorem Phase.alternates (h : Phase count roll again events next) :
    ∃ attempts, events <+: rounds roll again attempts ∧
      (attempts ≠ [] → settled attempts.dropLast < count) := by
  cases h with
  | @rests attempts hdue =>
      refine ⟨attempts, List.prefix_refl _, fun hne => ?_⟩
      rcases hdue with hnil | ⟨rest, v, verdict, rfl, hrest⟩
      · exact absurd hnil hne
      · simpa using hrest
  | @asks attempts v hless =>
      refine ⟨attempts ++ [(v, v)], ?_, fun _ => by simpa using hless⟩
      rw [rounds_concat]
      exact List.prefix_append _ _

/-- If `explode` returns it returns the rolls, and as many as there are base rolls have not exploded. -/
theorem Phase.returns {w : Value} (h : Phase count roll again events (.ok [.produce w])) :
    ∃ attempts, events = rounds roll again attempts ∧ w = .array (attempts.map Prod.fst) ∧
      Due count attempts ∧ settled attempts = count := by
  generalize hnext : (Except.ok [Request.produce w] : Except Stop (List Request)) = next at h
  cases h with
  | @rests attempts hdue =>
      cases hleft : count - settled attempts with
      | zero =>
          rw [hleft] at hnext
          cases hnext
          have hsettled : settled attempts = count :=
            Nat.le_antisymm hdue.settled_le (Nat.le_of_sub_eq_zero hleft)
          exact ⟨attempts, rfl, by simp [done], hdue, hsettled⟩
      | succ left =>
          rw [hleft] at hnext
          cases hnext
  | asks => cases hnext

/-- The last of the rolls has not exploded, and there is one unless there are no base rolls. -/
theorem Due.last_settled (h : Due count attempts) (hsettled : settled attempts = count) :
    (0 < count → ∃ rest v verdict, attempts = rest ++ [(v, verdict)] ∧ verdict.truthy = false) ∧
      (count = 0 → attempts = []) := by
  rcases h with rfl | ⟨rest, v, verdict, rfl, hrest⟩
  · exact ⟨fun hpos => absurd hsettled (Nat.ne_of_lt hpos), fun _ => rfl⟩
  · refine ⟨fun _ => ⟨rest, v, verdict, rfl, ?_⟩, fun hzero => absurd hrest (by omega)⟩
    cases hverdict : verdict.truthy with
    | false => rfl
    | true =>
        rw [settled_concat, hverdict] at hsettled
        exact absurd hsettled (Nat.ne_of_lt hrest)

end Phase

/-! ## The behaviour -/

section Behaves

variable {ω : Type} {world : World ω} {config : Config} {n : Float} {k : Int} {roll again : Function}
  {base : List (Frame × Expr)} {blame : Expr} {results : List Value} {s : ω} {room : Nat}

theorem opens (hk : Binary.roundHalfUp? n = some k) (roll again : Function) :
    (Function.primitive primitive [.number n, .function roll]).Opens (.function again)
      (.ok (nextBase roll again [] k.toNat)) where
  responds world patience s := by
    have hstart : (Function.primitive primitive [.number n, .function roll]).respond world patience
        (.function again) s =
        ((Number.repetitions n).map fun count => nextBase roll again [] count, s) := rfl
    rw [hstart, repetitions_eq hk]
    rfl
  continues := nextBase_continues roll again [] k.toNat

/-- One more round: `explode` returns, or it rolls and asks about the roll. -/
theorem next_round (hworld : world.Courteous) (hk : Binary.roundHalfUp? n = some k) (hroom : 4 ≤ room)
    (hanswers : ∀ events f v q,
      Records world config base (called n roll again base blame results s room)
        (events ++ [Exchange.call f v]) q →
      ∃ w r, q.Comes world config r ∧
        Records world config base (called n roll again base blame results s room)
          (events ++ [Exchange.call f v, .answer w]) r)
    {attempts : List (Value × Value)} {q : Point ω}
    (h : Records world config base (called n roll again base blame results s room)
      (rounds roll again attempts) q) :
    (∃ r items, Records world config base (called n roll again base blame results s room)
        (rounds roll again attempts) r ∧ r.Brings (.array items) base) ∨
      ∃ attempt r, Records world config base (called n roll again base blame results s room)
        (rounds roll again (attempts ++ [attempt])) r := by
  have hopens := opens hk roll again
  obtain ⟨next, htalks⟩ := h.talks_of_even hworld hopens (even_length_rounds roll again attempts)
  obtain ⟨-, rfl⟩ := (talks_phase htalks).of_rounds
  cases hleft : k.toNat - settled attempts with
  | zero =>
      rw [hleft] at htalks
      obtain ⟨r, -, hr, hbrings⟩ := h.comes_value hworld hopens hroom htalks
      exact .inl ⟨r, _, hr, hbrings⟩
  | succ left =>
      rw [hleft] at htalks
      obtain ⟨r, -, hrolls⟩ := h.comes_call hworld hopens hroom htalks
      obtain ⟨v, r, -, hrolled⟩ := hanswers _ _ _ _ hrolls
      obtain ⟨next, htalks⟩ := hrolled.talks_of_even hworld hopens (even_length_half roll again attempts v)
      obtain ⟨frame, rfl⟩ := (talks_phase htalks).of_half
      obtain ⟨r, -, hasks⟩ := hrolled.comes_call hworld hopens hroom htalks
      obtain ⟨verdict, r, -, hasked⟩ := hanswers _ _ _ _ hasks
      rw [← rounds_concat] at hasked
      exact .inr ⟨(v, verdict), r, hasked⟩

theorem length_eq (attempts : List (Value × Value)) :
    attempts.length = exploded attempts + settled attempts := by
  rw [List.length_eq_countP_add_countP fun attempt => attempt.2.truthy]
  simp [exploded, settled]

/-- Wherever `explode` is called it behaves as it should, if there is room for its calls. -/
theorem behaves (hworld : world.Courteous) (hk : Binary.roundHalfUp? n = some k) (hroom : 4 ≤ room) :
    Behaves world config k.toNat roll again base (called n roll again base blame results s room) where
  alternates events q h := by
    obtain ⟨all, next, hevents, htalks⟩ := h.exists_talks hworld (opens hk roll again)
    obtain ⟨attempts, hall, hattempts⟩ := (talks_phase htalks).alternates
    exact ⟨attempts, hevents.trans hall, hattempts⟩
  returns events q w h hbrings := by
    have htalks := h.talks_of_brings hworld (opens hk roll again) hbrings
    obtain ⟨attempts, hevents, hw, hdue, hsettled⟩ := (talks_phase htalks).returns
    exact ⟨attempts, hevents, hw, hsettled, hdue.last_settled hsettled⟩
  finishes bound hbound hanswers := by
    -- Without an end there are rounds of any number, but only so many of them can be.
    have hrounds : ∀ m, (∃ events q items, Records world config base
          (called n roll again base blame results s room) events q ∧ q.Brings (.array items) base) ∨
        ∃ attempts q, attempts.length = m ∧ Records world config base
          (called n roll again base blame results s room) (rounds roll again attempts) q := by
      intro m
      induction m with
      | zero => exact .inr ⟨[], _, rfl, .begins⟩
      | succ m ih =>
          rcases ih with hdone | ⟨attempts, q, hlength, h⟩
          · exact .inl hdone
          · rcases next_round hworld hk hroom hanswers h with ⟨r, items, hr, hbrings⟩ | ⟨attempt, r, hr⟩
            · exact .inl ⟨_, r, items, hr, hbrings⟩
            · exact .inr ⟨_, r, by simp [hlength], hr⟩
    rcases hrounds (bound + k.toNat + 1) with hdone | ⟨attempts, q, hlength, h⟩
    · exact hdone
    · have hexploded := hbound attempts q h
      obtain ⟨next, htalks⟩ := h.talks_of_even hworld (opens hk roll again) (even_length_rounds roll again _)
      have hsettled := (talks_phase htalks).of_rounds.1.settled_le
      rw [length_eq] at hlength
      omega

end Behaves

/-! ## The program -/

/-- The values of the program's names. -/
def given (n : Float) (roll again : Function) : List (Text × Value) :=
  [(.ofString "n", .number n), (.ofString "roll", .function roll), (.ofString "again", .function again)]

/-- The tree of `explode n`. -/
def count : Expr :=
  .apply ⟨0, 9⟩ (.name ⟨0, 7⟩ (.ofString "explode")) (.name ⟨8, 9⟩ (.ofString "n"))

/-- The tree of `explode n, roll, again`. -/
def tree : Expr :=
  .apply ⟨0, 22⟩ (.apply ⟨0, 15⟩ count (.name ⟨11, 15⟩ (.ofString "roll")))
    (.name ⟨17, 22⟩ (.ofString "again"))

theorem parse_eq : parse (.ofString "explode n, roll, again") = .ok tree := by
  cbv

theorem yields_callee (n : Float) (roll again : Function) :
    Yields (rootEnvironment .standard (given n roll again))
      (.apply ⟨0, 15⟩ count (.name ⟨11, 15⟩ (.ofString "roll")))
      (.function (.primitive primitive [.number n, .function roll])) := by
  have hexplode : Yields (rootEnvironment .standard (given n roll again))
      (.name ⟨0, 7⟩ (.ofString "explode")) (.function (.primitive primitive [])) := yields_name rfl
  have hcount : Yields (rootEnvironment .standard (given n roll again)) count
      (.function (.primitive primitive [.number n])) :=
    yields_partial .number hexplode (yields_name rfl) rfl rfl (by decide)
  exact yields_partial .function hcount (yields_name rfl) rfl rfl (Nat.lt_succ_self 2)

end Exploding

open Exploding

/-- In any world with a courteous host, for any finite number and any two functions: wherever in a run
`explode` is called with them, and there is room for its calls, it behaves as `Exploding.Behaves` says,
whatever the functions do and whatever else is called meanwhile. The program `explode n, roll, again` comes to
such a call, and what the call returns is its value. -/
theorem explode_conversation {ω : Type} {world : World ω} (hworld : world.Courteous) (config : Config)
    {n : Float} (hn : n.isFinite = true) (roll again : Function) :
    Registry.standard.get? (.ofString "explode") = some primitive ∧
    ∃ k, Binary.roundHalfUp? n = some k ∧
    (∀ base blame results s room, 4 ≤ room →
      Behaves world config k.toNat roll again base (called n roll again base blame results s room)) ∧
    (∀ expr env s q rest, (Point.head (.start expr env s)).Comes world config q →
      q.requests = .invoke (.primitive primitive [.number n, .function roll]) (.function again) :: rest →
      ∃ base blame t room, q = called n roll again base blame [] t room) ∧
    ∃ expr, parse (.ofString "explode n, roll, again") = .ok expr ∧
      ∀ s, (Point.head (.start expr (rootEnvironment .standard (Exploding.given n roll again)) s)).Comes
          world config (called n roll again [(.finish, expr)] expr [] s world.room) ∧
        ∀ q v, (called n roll again [(.finish, expr)] expr [] s world.room).Comes world config q →
          q.Brings v [(.finish, expr)] →
          Halts world config (.start expr (rootEnvironment .standard (Exploding.given n roll again)) s)
            (.value v) q.machine.world := by
  obtain ⟨k, hk⟩ := exists_roundHalfUp hn
  refine ⟨rfl, k, hk, fun base blame results s room hroom => behaves hworld hk hroom, ?_, tree, parse_eq,
    fun s => ?_⟩
  · intro expr env s q rest hcomes hinvoke
    exact hcomes.asking_of_invoke hworld hinvoke
  · have hcalled :
        (Point.head (.start tree (rootEnvironment .standard (Exploding.given n roll again)) s)).Comes
          world config (called n roll again [(.finish, tree)] tree [] s world.room) :=
      comes_calling (yields_callee n roll again) (yields_name rfl) s
    exact ⟨hcalled, fun q v hcomes => Point.Comes.halts_of_brings hworld (hcalled.trans hcomes)⟩

/-- One base roll that does not explode is the only element of the program's value. -/
theorem one_roll_settled :
    World.applying.Courteous ∧ (1 : Float).isFinite = true ∧
      ∃ expr, parse (.ofString "explode n, roll, again") = .ok expr ∧
        Halts .applying .standard
          (.start expr (rootEnvironment .standard (Exploding.given 1 (constant 6) (constant 0))) ())
          (.value (.array [.number 6])) () := by
  let roll : Function := constant 6
  let again : Function := constant 0
  obtain ⟨-, k, hk, hbehaves, -, expr, hparse, hprogram⟩ :=
    explode_conversation World.applying_courteous .standard (n := 1) rfl roll again
  obtain ⟨hcalled, hhalts⟩ := hprogram ()
  obtain rfl : 1 = k := Option.some.inj hk
  have hroom : 4 ≤ World.applying.room := by decide
  have hfirst : Records .applying .standard [(.finish, expr)]
      (called 1 roll again [(.finish, expr)] expr [] () World.applying.room) [.call roll .unit]
      (.asking [(.finish, expr)] expr [] () (World.applying.room - 4)
        (.call roll .unit (.exploded roll again [] 0))) :=
    Records.begins.moves (fun v hv => by cases hv.1)
      (.of_respond hroom ((opens hk roll again).responds _ 0 ()))
  obtain ⟨before, left, hrolled⟩ := hfirst.constant
  have hask : Records .applying .standard [(.finish, expr)]
      (called 1 roll again [(.finish, expr)] expr [] () World.applying.room)
      [.call roll .unit, .answer (.number 6), .call again (.number 6)]
      (.asking [(.finish, expr)] expr [] () World.applying.room
        (.call again (.number 6) (.repeated roll again [.number 6] 0))) :=
    hrolled.moves (fun v hv => by cases hv.2.2) (.deliver [] expr _ before [] left (by simp) rfl)
  obtain ⟨before, left, hasked⟩ := hask.constant
  have hdecided : (called 1 roll again [(.finish, expr)] expr [] () World.applying.room).Comes .applying
      .standard (.asking [(.finish, expr)] expr [] () World.applying.room (.produce (.array [.number 6]))) :=
    hasked.comes.tail (.deliver [] expr _ before [] left (by simp) rfl)
  have hreturned : (called 1 roll again [(.finish, expr)] expr [] () World.applying.room).Comes .applying
      .standard
      ⟨⟨[], [(.finish, expr)], some (.array [.number 6]), expr, [], ()⟩, World.applying.room, []⟩ :=
    hdecided.tail (.produce _ _ [] rfl)
  exact ⟨World.applying_courteous, rfl, expr, hparse, hhalts _ _ hreturned ⟨rfl, rfl, rfl⟩⟩

end RollScript
