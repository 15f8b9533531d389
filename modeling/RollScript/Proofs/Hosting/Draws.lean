import RollScript.Host.Stock
import RollScript.Proofs.Evaluation.Endings

/-!
# The random bits of a program

A program without values from the host changes nothing in the world but the source of random bits, and
that by its draws alone. `World.recording` is a world that writes down the width of every draw:
`run_recorded` says that a program runs in it as in the world itself, and that it leaves the state
after exactly the draws that were written down, however it ends. `run_rolling` says that a program sees
nothing of a host but its dice.
-/

namespace RollScript

variable {ω : Type}

/-! ## Draws that are written down -/

namespace World

/-- A world that writes down the width of every draw. -/
def recording (world : World ω) : World (ω × List Nat) where
  draw width s := (world.draw width s.1).map fun drawn => (drawn.1, drawn.2, s.2 ++ [width])
  call id args s := ((world.call id args s.1).1, (world.call id args s.1).2, s.2)
  resume id saved v s := ((world.resume id saved v s.1).1, (world.resume id saved v s.1).2, s.2)
  room := world.room

/-- The state after draws of given widths, one after the other, if there are bits for all of them. -/
def after (world : World ω) : List Nat → ω → Option ω
  | [], s => some s
  | width :: rest, s => (world.draw width s).bind fun drawn => after world rest drawn.2

theorem after_append (world : World ω) (widths more : List Nat) (s : ω) :
    world.after (widths ++ more) s = (world.after widths s).bind (world.after more) := by
  induction widths generalizing s with
  | nil => rfl
  | cons width rest ih =>
      rw [List.cons_append, after, after, Option.bind_assoc]
      exact congrArg _ (funext fun drawn => ih drawn.2)

/-- A state and the draws written down since `first`. -/
def Recorded (world : World ω) (first s : ω) (record : ω × List Nat) : Prop :=
  record.1 = s ∧ world.after record.2 first = some s

theorem recording_draws (world : World ω) (first : ω) :
    DrawsAlike (world.Recorded first) world.draw world.recording.draw := by
  intro width s record hrecord
  obtain ⟨rfl, hafter⟩ := hrecord
  simp only [recording]
  cases hdraw : world.draw width record.1 with
  | none => exact .none
  | some drawn =>
      refine .some ⟨rfl, rfl, ?_⟩
      simp only [after_append, hafter, Option.bind_some, after, hdraw]

end World

/-- Two worlds that draw alike run a program without values from the host alike. -/
theorem Evaluator.run_alike {ω' : Type} {S : ω → ω' → Prop} {world : World ω} {world' : World ω'}
    (hdraw : DrawsAlike S world.draw world'.draw) (hroom : world.room = world'.room)
    (config : Config) (source : Text) {s : ω} {s' : ω'} (hs : S s s') :
    (run { world, config } [] source s).1 = (run { world := world', config } [] source s').1 ∧
      S (run { world, config } [] source s).2 (run { world := world', config } [] source s').2 := by
  cases hparse : parse source with
  | error error =>
      rw [run_of_error hparse, run_of_error hparse]
      exact ⟨rfl, hs⟩
  | ok tree =>
      have hsound : (Trait.standard fun _ => True).ties.Sound S world world' config config :=
        (Trait.standard_kept any_code).sound hdraw hroom ⟨rfl, rfl⟩
      have hscene : (Trait.standard fun _ => True).ties.scene tree (rootEnvironment .standard [])
          (rootEnvironment .standard []) := ⟨rfl, trivial, rootEnvironment_has _⟩
      obtain ⟨houtcome, hstate⟩ := evaluateWithin_alike hsound stepLimit hscene hs
      rw [run_of_parse hparse, run_of_parse hparse]
      exact ⟨congrArg Outcome.toResult houtcome.eq, hstate⟩

/-- A program leaves the state after exactly the draws that it made. -/
theorem run_recorded (world : World ω) (config : Config) (source : Text) (s : ω) :
    ∃ widths, Evaluator.run { world := world.recording, config } [] source (s, []) =
        ((Evaluator.run { world, config } [] source s).1,
          (Evaluator.run { world, config } [] source s).2, widths) ∧
      world.after widths s = some (Evaluator.run { world, config } [] source s).2 := by
  have hstart : world.Recorded s s (s, []) := ⟨rfl, rfl⟩
  obtain ⟨hresult, hstate, hafter⟩ :=
    Evaluator.run_alike (world.recording_draws s) rfl config source hstart
  refine ⟨_, Prod.ext hresult.symm (Prod.ext hstate rfl), hafter⟩

/-! ## Dice alone -/

/-- The world of a generator alone, which never runs out of bits. -/
def Random.Twister.world (room : Nat) : World Random.Twister where
  draw width t := some (t.bits width)
  call _ _ t := (.error (.aborted .misapplied), t)
  resume _ _ _ t := (.error (.aborted .misapplied), t)
  room := room

/-- An evaluator that has nothing but a generator. -/
def Evaluator.ofDice (config : Config) : Evaluator Random.Twister :=
  { world := Random.Twister.world Host.world.room, config }

/-- A host with the dice of a generator. -/
def Host.rolling (h : Host) (t : Random.Twister) : Host :=
  { h with dice := .seeded t }

theorem Host.rolling_draws (h : Host) (room : Nat) :
    DrawsAlike (fun host t => host = h.rolling t) Host.draw (Random.Twister.world room).draw := by
  intro width host t hhost
  rw [hhost]
  exact .some ⟨rfl, rfl⟩

/-- A program sees nothing of a host but its dice, and changes nothing else. -/
theorem run_rolling (config : Config) (source : Text) (h : Host) (t : Random.Twister) :
    Evaluator.run { world := Host.world, config } [] source (h.rolling t) =
      (((Evaluator.ofDice config).run [] source t).1,
        h.rolling ((Evaluator.ofDice config).run [] source t).2) := by
  have hdraws : DrawsAlike (fun host t => host = h.rolling t) Host.world.draw
      (Random.Twister.world Host.world.room).draw := h.rolling_draws Host.world.room
  obtain ⟨hresult, hstate⟩ := Evaluator.run_alike hdraws rfl config source (s := h.rolling t) rfl
  exact Prod.ext hresult hstate

/-- A program that has dice ends with a value or with an error, unless its room or its steps run out. -/
theorem Evaluator.ofDice_ends (config : Config) (source : Text) (t : Random.Twister) {abort : Abort}
    (h : ((ofDice config).run [] source t).1 = .aborted abort) : abort = .tooDeep := by
  cases hparse : parse source with
  | error error =>
      rw [run_of_error hparse] at h
      cases h
  | ok tree =>
      rw [run_of_parse hparse] at h
      generalize hevaluated : evaluateWithin stepLimit (ofDice config).world (ofDice config).config
        (rootEnvironment (ofDice config).registry []) tree t = evaluated at h
      obtain ⟨outcome, state⟩ := evaluated
      cases outcome with
      | aborted other =>
          cases h
          have hdraw : ∀ width s, (ofDice config).world.draw width s ≠ none := nofun
          exact evaluateWithin_ends hdraw hevaluated
      | value | failed | unfinished => cases h

end RollScript
