import RollScript.Program
import RollScript.Proofs.Evaluation.Conversations

/-!
# Rerolling

`reroll` rolls until a roll is accepted, but not more often than the configuration allows. Read
`reroll_conversation` first: it says for the conversation of any call of `reroll` with its two functions how
often they are called, in which order, and what comes of it. `Phase` lists what such a conversation can be,
and the rest reads the statement off it.
-/

namespace RollScript

namespace Rerolling

open Combinator

/-- The primitive `reroll`. -/
def primitive : Primitive :=
  Registry.combinator "reroll" [.function, .function] .reroll

/-- The point at which `reroll` is called with its second function. -/
abbrev called {ω : Type} (roll accept : Function) (base : List (Frame × Expr)) (blame : Expr)
    (results : List Value) (s : ω) (room : Nat) : Point ω :=
  .calling (.primitive primitive [.function roll]) (.function accept) base blame results s room

/-- None of the verdicts is truthy. -/
def Refused (attempts : List (Value × Value)) : Prop :=
  ∀ attempt ∈ attempts, attempt.2.truthy = false

/-- How `reroll` behaves that has been called at a point for waiting frames. -/
structure Behaves {ω : Type} (world : World ω) (config : Config) (roll accept : Function)
    (base : List (Frame × Expr)) (blame : Expr) (p : Point ω) : Prop where
  /-- It rolls and judges in turn, no more often than it may, and no more after a roll that was accepted. -/
  alternates : ∀ events q, Records world config base p events q →
    ∃ attempts, events <+: rounds roll accept attempts ∧ attempts.length ≤ config.maxRerolls ∧
      Refused attempts.dropLast
  /-- Before the first roll and after a roll that was refused it rolls, as long as it may. -/
  rolls : ∀ attempts q, Records world config base p (rounds roll accept attempts) q → Refused attempts →
    attempts.length < config.maxRerolls →
    ∃ r, q.Comes world config r ∧
      Records world config base p (rounds roll accept attempts ++ [Exchange.call roll .unit]) r
  /-- It has every roll judged. -/
  judges : ∀ attempts v q,
    Records world config base p (rounds roll accept attempts ++ [Exchange.call roll .unit, .answer v]) q →
    ∃ r, q.Comes world config r ∧ Records world config base p
      (rounds roll accept attempts ++ [Exchange.call roll .unit, .answer v] ++ [Exchange.call accept v]) r
  /-- It returns the first roll that is accepted. -/
  accepts : ∀ attempts v verdict q,
    Records world config base p (rounds roll accept (attempts ++ [(v, verdict)])) q →
    verdict.truthy = true →
    ∃ r, q.Comes world config r ∧
      Records world config base p (rounds roll accept (attempts ++ [(v, verdict)])) r ∧ r.Brings v base
  /-- When it may roll no more it returns the last roll, or it fails. -/
  exhausts : ∀ attempts v verdict q,
    Records world config base p (rounds roll accept (attempts ++ [(v, verdict)])) q →
    verdict.truthy = false → attempts.length + 1 = config.maxRerolls →
    (config.whenExhausted = .last → ∃ r, q.Comes world config r ∧
      Records world config base p (rounds roll accept (attempts ++ [(v, verdict)])) r ∧ r.Brings v base) ∧
    (config.whenExhausted = .error →
      ∃ t, q.Ends world config (.failed (.domain .rerollsExhausted) blame) t)
  /-- It returns nothing else. -/
  returns : ∀ events q v, Records world config base p events q → q.Brings v base →
    ∃ refused verdict, events = rounds roll accept (refused ++ [(v, verdict)]) ∧ Refused refused ∧
      refused.length < config.maxRerolls ∧
      (verdict.truthy = true ∨
        refused.length + 1 = config.maxRerolls ∧ config.whenExhausted = .last)
  /-- If the evaluation ends before it returns, a call has not been answered, or it has failed itself. This
  is how the evaluation as a whole ends. -/
  ends : ∀ events q o t, Records world config base p events q → (∀ v, ¬ q.Brings v base) →
    q.Ends world config o t →
    (∀ m, (Point.head m).Comes world config p → Halts world config m o t) ∧
    (∀ r, ¬ q.Moves world config r) ∧
    ((∃ before g w, events = before ++ [Exchange.call g w]) ∨
      ∃ refused, events = rounds roll accept refused ∧ Refused refused ∧
        refused.length = config.maxRerolls ∧ config.whenExhausted = .error ∧
        o = .failed (.domain .rerollsExhausted) blame)

/-! ## What the conversation can be -/

section Phase

variable {config : Config} {roll accept : Function} {events : List Exchange} {v verdict : Value}
  {attempts : List (Value × Value)} {next : Except Stop (List Request)}

theorem decideReroll_accepted (config : Config) (roll accept : Function) (attempts : Nat) (result : Value)
    (h : verdict.truthy = true) :
    decideReroll config roll accept attempts result verdict = .ok [.produce result] :=
  if_pos h

theorem decideReroll_last (roll accept : Function) {attempts : Nat} (result : Value)
    (h : verdict.truthy = false) (hlimit : config.maxRerolls ≤ attempts)
    (hpolicy : config.whenExhausted = .last) :
    decideReroll config roll accept attempts result verdict = .ok [.produce result] := by
  rw [decideReroll, if_neg (by simp [h]), if_pos hlimit, hpolicy]

theorem decideReroll_error (roll accept : Function) {attempts : Nat} (result : Value)
    (h : verdict.truthy = false) (hlimit : config.maxRerolls ≤ attempts)
    (hpolicy : config.whenExhausted = .error) :
    decideReroll config roll accept attempts result verdict = .error (.domain .rerollsExhausted) := by
  rw [decideReroll, if_neg (by simp [h]), if_pos hlimit, hpolicy]

theorem decideReroll_refused (roll accept : Function) {attempts : Nat} (result : Value)
    (h : verdict.truthy = false) (hlimit : attempts < config.maxRerolls) :
    decideReroll config roll accept attempts result verdict = .ok (rollAgain roll accept (attempts + 1)) := by
  rw [decideReroll, if_neg (by simp [h]), if_neg (Nat.not_le_of_lt hlimit)]

/-- The conversation of `reroll` so far, and what it goes on with: it rolls for the first time, it has a roll
judged, or it decides on a roll. -/
inductive Phase (config : Config) (roll accept : Function) :
    List Exchange → Except Stop (List Request) → Prop where
  | rolls : Phase config roll accept [] (.ok (rollAgain roll accept 1))
  | judges {attempts : List (Value × Value)} (v : Value) : Refused attempts →
      attempts.length < config.maxRerolls →
      Phase config roll accept (rounds roll accept attempts ++ [Exchange.call roll .unit, .answer v])
        (.ok [.call accept v (.judged roll accept (attempts.length + 1) v)])
  | decides {attempts : List (Value × Value)} (v verdict : Value) : Refused attempts →
      attempts.length < config.maxRerolls →
      Phase config roll accept (rounds roll accept (attempts ++ [(v, verdict)]))
        (decideReroll config roll accept (attempts.length + 1) v verdict)

theorem refused_concat (v : Value) (h : Refused attempts) (hverdict : verdict.truthy = false) :
    Refused (attempts ++ [(v, verdict)]) := by
  intro attempt hattempt
  rcases List.mem_append.1 hattempt with hattempt | hattempt
  · exact h attempt hattempt
  · rw [List.mem_singleton.1 hattempt]
    exact hverdict

/-- What `reroll` can decide on a roll. -/
theorem decideReroll_cases (config : Config) (roll accept : Function) (attempts : Nat) (v verdict : Value) :
    (decideReroll config roll accept attempts v verdict = .ok [.produce v] ∧
        (verdict.truthy = true ∨ config.maxRerolls ≤ attempts ∧ config.whenExhausted = .last)) ∨
      (decideReroll config roll accept attempts v verdict = .error (.domain .rerollsExhausted) ∧
        verdict.truthy = false ∧ config.maxRerolls ≤ attempts ∧ config.whenExhausted = .error) ∨
      (decideReroll config roll accept attempts v verdict = .ok (rollAgain roll accept (attempts + 1)) ∧
        verdict.truthy = false ∧ attempts < config.maxRerolls) := by
  cases hverdict : verdict.truthy with
  | true => exact .inl ⟨decideReroll_accepted config roll accept attempts v hverdict, .inl rfl⟩
  | false =>
      by_cases hlimit : config.maxRerolls ≤ attempts
      · cases hpolicy : config.whenExhausted with
        | last => exact .inl ⟨decideReroll_last roll accept v hverdict hlimit hpolicy, .inr ⟨hlimit, rfl⟩⟩
        | error =>
            exact .inr (.inl ⟨decideReroll_error roll accept v hverdict hlimit hpolicy, rfl, hlimit, rfl⟩)
      · have hless : attempts < config.maxRerolls := Nat.lt_of_not_le hlimit
        exact .inr (.inr ⟨decideReroll_refused roll accept v hverdict hless, rfl, hless⟩)

/-- The answer to a call takes the conversation to its next phase. -/
theorem Phase.answers {f : Function} {w : Value} {frame : Frame} (u : Value)
    (h : Phase config roll accept events (.ok [.call f w frame])) :
    Phase config roll accept (events ++ [Exchange.call f w, .answer u]) (frame.answered config u) := by
  generalize hnext : (Except.ok [Request.call f w frame] : Except Stop (List Request)) = next at h
  cases h with
  | rolls =>
      cases hnext
      have hnone : Refused [] := by simp [Refused]
      exact .judges u hnone config.maxRerolls_pos
  | judges v hrefused hlimit =>
      cases hnext
      rw [← rounds_concat]
      exact .decides w u hrefused hlimit
  | @decides attempts v verdict hrefused hlimit =>
      rcases decideReroll_cases config roll accept (attempts.length + 1) v verdict with
        ⟨hdecide, -⟩ | ⟨hdecide, -⟩ | ⟨hdecide, hverdict, hless⟩
      · cases hnext.trans hdecide
      · cases hnext.trans hdecide
      · cases hnext.trans hdecide
        have hlength : (attempts ++ [(v, verdict)]).length = attempts.length + 1 := List.length_append
        have hjudges : Phase config roll accept _ _ :=
          .judges u (refused_concat v hrefused hverdict) (hlength ▸ hless)
        rw [hlength] at hjudges
        exact hjudges

theorem talks_phase (h : Talks config (.ok (rollAgain roll accept 1)) events next) :
    Phase config roll accept events next := by
  induction h with
  | begins => exact .rolls
  | answers u _ ih => exact ih.answers u

/-- After whole rounds `reroll` rolls for the first time or decides on the last roll. -/
theorem Phase.of_rounds (h : Phase config roll accept events next)
    (hevents : events = rounds roll accept attempts) :
    (attempts = [] ∧ next = .ok (rollAgain roll accept 1)) ∨
      ∃ refused v verdict, attempts = refused ++ [(v, verdict)] ∧ Refused refused ∧
        refused.length < config.maxRerolls ∧
        next = decideReroll config roll accept (refused.length + 1) v verdict := by
  cases h with
  | rolls =>
      have hnone : rounds roll accept [] = rounds roll accept attempts := hevents
      exact .inl ⟨(rounds_injective roll accept hnone).symm, rfl⟩
  | judges v => exact absurd hevents (rounds_ne_half roll accept _ _ v)
  | decides v verdict hrefused hlimit =>
      exact .inr ⟨_, v, verdict, (rounds_injective roll accept hevents).symm, hrefused, hlimit, rfl⟩

/-- On the last of whole rounds `reroll` decides. -/
theorem Phase.of_concat
    (h : Phase config roll accept (rounds roll accept (attempts ++ [(v, verdict)])) next) :
    next = decideReroll config roll accept (attempts.length + 1) v verdict := by
  rcases h.of_rounds rfl with ⟨hnil, -⟩ | ⟨refused, w, judgement, hconcat, -, -, hnext⟩
  · simp at hnil
  · obtain ⟨rfl, hlast⟩ := List.append_inj' hconcat rfl
    cases hlast
    exact hnext

/-- After a roll `reroll` has it judged. -/
theorem Phase.of_half
    (h : Phase config roll accept (rounds roll accept attempts ++ [Exchange.call roll .unit, .answer v])
      next) :
    next = .ok [.call accept v (.judged roll accept (attempts.length + 1) v)] := by
  generalize hevents : rounds roll accept attempts ++ [Exchange.call roll .unit, .answer v] = events at h
  cases h with
  | rolls => simp at hevents
  | judges w =>
      obtain ⟨hrounds, hlast⟩ := List.append_inj' hevents rfl
      cases hlast
      rw [rounds_injective roll accept hrounds]
  | decides => exact absurd hevents (rounds_ne_half roll accept _ _ v)

/-- Whatever the phase, no more rolls have been made than there may be, and only the last can have been
accepted. -/
theorem Phase.alternates (h : Phase config roll accept events next) :
    ∃ attempts, events <+: rounds roll accept attempts ∧ attempts.length ≤ config.maxRerolls ∧
      Refused attempts.dropLast := by
  cases h with
  | rolls => exact ⟨[], List.nil_prefix, Nat.zero_le _, by simp [Refused]⟩
  | @judges attempts v hrefused hlimit =>
      refine ⟨attempts ++ [(v, v)], ?_, by simpa using hlimit, by simpa using hrefused⟩
      rw [rounds_concat]
      exact List.prefix_append _ _
  | @decides attempts v verdict hrefused hlimit =>
      exact ⟨attempts ++ [(v, verdict)], List.prefix_refl _, by simpa using hlimit, by simpa using hrefused⟩

end Phase

/-! ## The behaviour -/

section Behaves

variable {ω : Type} {world : World ω} {config : Config} {roll accept : Function}
  {base : List (Frame × Expr)} {blame : Expr} {results : List Value} {s : ω} {room : Nat}

theorem opens (roll accept : Function) :
    (Function.primitive primitive [.function roll]).Opens (.function accept)
      (.ok (rollAgain roll accept 1)) where
  responds _ _ _ := rfl
  continues := .calls roll .unit rfl

/-- After whole rounds `reroll` goes on with its decision on the last roll. -/
theorem talks_decide (hworld : world.Courteous) {attempts : List (Value × Value)} {v verdict : Value}
    {q : Point ω} (h : Records world config base (called roll accept base blame results s room)
      (rounds roll accept (attempts ++ [(v, verdict)])) q) :
    Talks config (.ok (rollAgain roll accept 1)) (rounds roll accept (attempts ++ [(v, verdict)]))
      (decideReroll config roll accept (attempts.length + 1) v verdict) := by
  obtain ⟨next, htalks⟩ := h.talks_of_even hworld (opens roll accept) (even_length_rounds roll accept _)
  rwa [(talks_phase htalks).of_concat] at htalks

/-- Wherever `reroll` is called it behaves as it should, if there is room for its calls. -/
theorem behaves (hworld : world.Courteous) (hroom : 4 ≤ room) :
    Behaves world config roll accept base blame
      (called roll accept base blame results s room) where
  alternates events q h := by
    obtain ⟨all, next, hevents, htalks⟩ := h.exists_talks hworld (opens roll accept)
    obtain ⟨attempts, hall, hattempts⟩ := (talks_phase htalks).alternates
    exact ⟨attempts, hevents.trans hall, hattempts⟩
  rolls attempts q h hrefused hlimit := by
    obtain ⟨next, htalks⟩ := h.talks_of_even hworld (opens roll accept)
      (even_length_rounds roll accept attempts)
    rcases (talks_phase htalks).of_rounds rfl with ⟨-, rfl⟩ | ⟨refused, v, verdict, rfl, -, -, rfl⟩
    · exact h.comes_call hworld (opens roll accept) hroom htalks
    · have hverdict : verdict.truthy = false := hrefused (v, verdict) (by simp)
      rw [decideReroll_refused roll accept v hverdict (by simpa using hlimit)] at htalks
      exact h.comes_call hworld (opens roll accept) hroom htalks
  judges attempts v q h := by
    obtain ⟨next, htalks⟩ := h.talks_of_even hworld (opens roll accept)
      (even_length_half roll accept attempts v)
    rw [(talks_phase htalks).of_half] at htalks
    exact h.comes_call hworld (opens roll accept) hroom htalks
  accepts attempts v verdict q h hverdict := by
    have htalks := talks_decide hworld h
    rw [decideReroll_accepted _ _ _ _ _ hverdict] at htalks
    exact h.comes_value hworld (opens roll accept) hroom htalks
  exhausts attempts v verdict q h hverdict hlimit := by
    have htalks := talks_decide hworld h
    refine ⟨fun hpolicy => ?_, fun hpolicy => ?_⟩
    · rw [decideReroll_last roll accept v hverdict (Nat.le_of_eq hlimit.symm) hpolicy] at htalks
      exact h.comes_value hworld (opens roll accept) hroom htalks
    · rw [decideReroll_error roll accept v hverdict (Nat.le_of_eq hlimit.symm) hpolicy] at htalks
      obtain ⟨x, t, hx, hends⟩ := h.ends_failed hworld (opens roll accept) hroom htalks
      cases hx
      exact ⟨t, hends⟩
  returns events q v h hbrings := by
    have hphase := talks_phase (h.talks_of_brings hworld (opens roll accept) hbrings)
    generalize hnext : (Except.ok [Request.produce v] : Except Stop (List Request)) = next at hphase
    cases hphase with
    | rolls | judges => cases hnext
    | @decides refused w verdict hrefused hless =>
        rcases decideReroll_cases config roll accept (refused.length + 1) w verdict with
          ⟨hdecide, hwhy⟩ | ⟨hdecide, -⟩ | ⟨hdecide, -⟩
        · cases hnext.trans hdecide
          refine ⟨refused, verdict, rfl, hrefused, hless, hwhy.imp_right fun ⟨hlimit, hpolicy⟩ => ?_⟩
          exact ⟨Nat.le_antisymm hless hlimit, hpolicy⟩
        · cases hnext.trans hdecide
        · cases hnext.trans hdecide
  ends events q o t h hbusy hends := by
    refine ⟨fun m hm => Point.halts_iff_comes.2 ⟨q, hm.trans h.comes, hends⟩, fun r => hends.not_moves, ?_⟩
    rcases h.unanswered_or_failed hworld (opens roll accept) hroom hbusy hends with
      hunanswered | ⟨stop, x, htalks, hx, rfl⟩
    · exact .inl hunanswered
    · have hphase := talks_phase htalks
      generalize hnext : (Except.error stop : Except Stop (List Request)) = next at hphase
      cases hphase with
      | rolls | judges => cases hnext
      | @decides refused w verdict hrefused hless =>
          rcases decideReroll_cases config roll accept (refused.length + 1) w verdict with
            ⟨hdecide, -⟩ | ⟨hdecide, hverdict, hlimit, hpolicy⟩ | ⟨hdecide, -⟩
          · cases hnext.trans hdecide
          · cases hnext.trans hdecide
            cases hx
            refine .inr ⟨_, rfl, refused_concat w hrefused hverdict, ?_, hpolicy, rfl⟩
            rw [List.length_append]
            exact Nat.le_antisymm hless hlimit
          · cases hnext.trans hdecide

end Behaves

/-! ## The program -/

/-- The values of the program's names. -/
def given (roll accept : Function) : List (Text × Value) :=
  [(.ofString "roll", .function roll), (.ofString "accept", .function accept)]

/-- The tree of `reroll roll, accept`. -/
def tree : Expr :=
  .apply ⟨0, 19⟩
    (.apply ⟨0, 11⟩ (.name ⟨0, 6⟩ (.ofString "reroll")) (.name ⟨7, 11⟩ (.ofString "roll")))
    (.name ⟨13, 19⟩ (.ofString "accept"))

theorem parse_eq : parse (.ofString "reroll roll, accept") = .ok tree := by
  cbv

theorem yields_callee (roll accept : Function) :
    Yields (rootEnvironment .standard (given roll accept))
      (.apply ⟨0, 11⟩ (.name ⟨0, 6⟩ (.ofString "reroll")) (.name ⟨7, 11⟩ (.ofString "roll")))
      (.function (.primitive primitive [.function roll])) := by
  have hreroll : Yields (rootEnvironment .standard (given roll accept))
      (.name ⟨0, 6⟩ (.ofString "reroll")) (.function (.primitive primitive [])) := yields_name rfl
  exact yields_partial .function hreroll (yields_name rfl) rfl rfl (by decide)

end Rerolling

open Rerolling

/-- In any world with a courteous host and for any two functions: wherever in a run `reroll` is called with
the two, and there is room for its calls, it behaves as `Rerolling.Behaves` says, whatever the functions do
and whatever else is called meanwhile. The program `reroll roll, accept` comes to such a call, and what the
call returns is its value. -/
theorem reroll_conversation {ω : Type} {world : World ω} (hworld : world.Courteous) (config : Config)
    (roll accept : Function) :
    Registry.standard.get? (.ofString "reroll") = some primitive ∧
    (∀ base blame results s room, 4 ≤ room →
      Behaves world config roll accept base blame (called roll accept base blame results s room)) ∧
    (∀ expr env s q rest, (Point.head (.start expr env s)).Comes world config q →
      q.requests = .invoke (.primitive primitive [.function roll]) (.function accept) :: rest →
      ∃ base blame t room, q = called roll accept base blame [] t room) ∧
    ∃ expr, parse (.ofString "reroll roll, accept") = .ok expr ∧
      ∀ s, (Point.head (.start expr (rootEnvironment .standard (Rerolling.given roll accept)) s)).Comes
          world config (called roll accept [(.finish, expr)] expr [] s world.room) ∧
        ∀ q v, (called roll accept [(.finish, expr)] expr [] s world.room).Comes world config q →
          q.Brings v [(.finish, expr)] →
          Halts world config (.start expr (rootEnvironment .standard (Rerolling.given roll accept)) s)
            (.value v) q.machine.world := by
  refine ⟨rfl, fun base blame results s room hroom => behaves hworld hroom, ?_, tree, parse_eq, fun s => ?_⟩
  · intro expr env s q rest hcomes hinvoke
    exact hcomes.asking_of_invoke hworld hinvoke
  · have hcalled :
        (Point.head (.start tree (rootEnvironment .standard (Rerolling.given roll accept)) s)).Comes
          world config (called roll accept [(.finish, tree)] tree [] s world.room) :=
      comes_calling (yields_callee roll accept) (yields_name rfl) s
    exact ⟨hcalled, fun q v hcomes => Point.Comes.halts_of_brings hworld (hcalled.trans hcomes)⟩

/-- A first roll that is accepted is the value of the program. -/
theorem first_roll_accepted :
    World.applying.Courteous ∧ ∃ expr, parse (.ofString "reroll roll, accept") = .ok expr ∧
      Halts .applying .standard
        (.start expr (rootEnvironment .standard (Rerolling.given (constant 3) (constant 1))) ())
        (.value (.number 3)) () := by
  obtain ⟨-, hbehaves, -, expr, hparse, hprogram⟩ :=
    reroll_conversation World.applying_courteous .standard (constant 3) (constant 1)
  obtain ⟨hcalled, hhalts⟩ := hprogram ()
  have hroom : 4 ≤ World.applying.room := by decide
  have hfirst : Records .applying .standard [(.finish, expr)]
      (called (constant 3) (constant 1) [(.finish, expr)] expr [] () World.applying.room)
      [.call (constant 3) .unit] (.asking [(.finish, expr)] expr [] () (World.applying.room - 4)
        (.call (constant 3) .unit (.rolled (constant 3) (constant 1) 1))) :=
    Records.begins.moves (fun v hv => by cases hv.1)
      (.of_respond hroom ((opens (constant 3) (constant 1)).responds _ 0 ()))
  obtain ⟨before, left, hrolled⟩ := hfirst.constant
  have hjudge : Records .applying .standard [(.finish, expr)]
      (called (constant 3) (constant 1) [(.finish, expr)] expr [] () World.applying.room)
      [.call (constant 3) .unit, .answer (.number 3), .call (constant 1) (.number 3)]
      (.asking [(.finish, expr)] expr [] () World.applying.room
        (.call (constant 1) (.number 3) (.judged (constant 3) (constant 1) 1 (.number 3)))) :=
    hrolled.moves (fun v hv => by cases hv.2.2) (.deliver [] expr _ before [] left (by simp) rfl)
  obtain ⟨_, _, hjudged⟩ := hjudge.constant
  obtain ⟨r, -, hr, hbrings⟩ := (hbehaves _ _ _ _ _ hroom).accepts [] (.number 3) (.number 1) _ hjudged rfl
  exact ⟨World.applying_courteous, expr, hparse, hhalts r (.number 3) hr.comes hbrings⟩

end RollScript
