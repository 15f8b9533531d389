import RollScript.Cli.Command
import RollScript.Proofs.Hosting.Draws
import RollScript.Proofs.Hosting.Replies

/-!
# Hosts isolate programs

Programs that are run one after the other have nothing to do with each other but the dice that they
share. Read `Isolates` first, which says this of the worker, of the dialogue and of single programs, and
then `hosts_isolate_programs`. Of the dialogue and of single programs it says what is handed to the console,
and what the console writes for it. A host has the dice of a generator here, as every command gives it. What
is left aside is the room for nested activations: an end for lack of room is excluded where it matters.
-/

namespace RollScript

open RollScript.Random (Twister)

variable {ω : Type}

/-! ## Reports -/

namespace Worker

/-- What is reported of a result. Only an abort is not reported. -/
def reported (program : Text) : Result → Except Abort Reply
  | .aborted abort => .error abort
  | result => .ok ⟨result.isValue, result.render program⟩

theorem report_eq (e : Evaluator ω) (program : Text) (s : ω) :
    report e program s = (reported program (e.run [] program s).1, (e.run [] program s).2) := by
  unfold report
  cases e.run [] program s with
  | mk result t => cases result <;> rfl

variable {e : Evaluator ω} {line : Text} {s : ω}

theorem answer_of_malformed {problem : Malformed} (h : programOf line = .error problem) :
    answer e line s = (.ok (Reply.encode ⟨false, .ofString problem.message⟩), s) := by
  simp only [answer, h]

theorem answer_of_program {program : Text} (h : programOf line = .ok program) :
    answer e line s =
      ((reported program (e.run [] program s).1).map Reply.encode, (e.run [] program s).2) := by
  simp only [answer, h, report_eq]

end Worker

/-! ## Dice and nothing else -/

section Rolling

variable (config : Config) (h : Host) (t : Twister)

theorem evaluator_rolling (program : Text) :
    (Command.evaluator config).run [] program (h.rolling t) =
      (((Evaluator.ofDice config).run [] program t).1,
        h.rolling ((Evaluator.ofDice config).run [] program t).2) :=
  run_rolling config program h t

/-- An answer depends on the dice of the host alone, and changes nothing else. -/
theorem answer_rolling (line : Text) :
    Worker.answer (Command.evaluator config) line (h.rolling t) =
      ((Worker.answer (Evaluator.ofDice config) line t).1,
        h.rolling (Worker.answer (Evaluator.ofDice config) line t).2) := by
  cases hline : Worker.programOf line with
  | error problem => rw [Worker.answer_of_malformed hline, Worker.answer_of_malformed hline]
  | ok program =>
      rw [Worker.answer_of_program hline, Worker.answer_of_program hline, evaluator_rolling]

theorem serve_rolling (lines : List Text) :
    Worker.serve (Command.evaluator config) lines (h.rolling t) =
      ((Worker.serve (Evaluator.ofDice config) lines t).1,
        h.rolling (Worker.serve (Evaluator.ofDice config) lines t).2) := by
  induction lines generalizing t with
  | nil => rfl
  | cons line rest ih =>
      cases hblank : line.isBlank with
      | true => rw [Worker.serve_blank hblank, Worker.serve_blank hblank, ih]
      | false =>
          rw [Worker.serve_cons hblank, Worker.serve_cons hblank, answer_rolling]
          cases Worker.answer (Evaluator.ofDice config) line t with
          | mk answered u =>
              cases answered with
              | error abort => rfl
              | ok reply => simp only [ih]

theorem reported_ends (program : Text) {abort : Abort}
    (habort : Worker.reported program ((Evaluator.ofDice config).run [] program t).1 =
      .error abort) : abort = .tooDeep := by
  generalize hresult : ((Evaluator.ofDice config).run [] program t).1 = result at habort
  cases result with
  | aborted other =>
      cases habort
      exact Evaluator.ofDice_ends config program t hresult
  | value | syntaxError | cannotBind | evaluationError | unfinished => cases habort

theorem answer_ends (line : Text) {abort : Abort}
    (habort : (Worker.answer (Evaluator.ofDice config) line t).1 = .error abort) :
    abort = .tooDeep := by
  cases hline : Worker.programOf line with
  | error problem =>
      rw [Worker.answer_of_malformed hline] at habort
      cases habort
  | ok program =>
      rw [Worker.answer_of_program hline] at habort
      cases hreported : Worker.reported program ((Evaluator.ofDice config).run [] program t).1 with
      | error other =>
          rw [hreported] at habort
          cases habort
          exact reported_ends config t program hreported
      | ok r =>
          rw [hreported] at habort
          cases habort

end Rolling

/-! ## Transcripts -/

/-- What is handed to the console for the result of a program: the text of a value is shown, and an error
is reported. -/
def Result.handed (program : Text) (r : Result) : Console.Message :=
  if r.isValue then .shown (r.render program) else .reported (r.render program)

/-- What is handed to the console in a dialogue about programs with given results. -/
def conversation (pairs : List (Text × Result)) : List Console.Message :=
  pairs.flatMap (fun pair => [.question Command.prompt, pair.2.handed pair.1]) ++
    [.question Command.prompt, .shown []]

/-- What is written for the result of a program: a value goes to the output, and an error to the error
output. -/
def Result.output (program : Text) (r : Result) : Output :=
  if r.isValue then { stdout := Console.line (r.render program) }
  else { stderr := Console.line (r.render program) }

/-- What is written in a dialogue about programs with given results. -/
def transcript (pairs : List (Text × Result)) : Output where
  stdout := pairs.flatMap (fun pair => Command.prompt ++ (pair.2.output pair.1).stdout) ++
    (Command.prompt ++ [.scalar '\n'])
  stderr := pairs.flatMap fun pair => (pair.2.output pair.1).stderr

theorem Result.stdout_handed (program : Text) (r : Result) :
    (r.handed program).stdout = (r.output program).stdout := by
  unfold handed output
  split <;> rfl

theorem Result.stderr_handed (program : Text) (r : Result) :
    (r.handed program).stderr = (r.output program).stderr := by
  unfold handed output
  split <;> rfl

/-- What is handed over for a result is written as its output. -/
theorem Result.output_handed (program : Text) (r : Result) (exitCode : Nat) :
    Printout.output { exitCode, messages := [r.handed program] } =
      { r.output program with exitCode } := by
  simp only [Printout.output, List.flatMap_singleton, stdout_handed, stderr_handed]

@[simp] theorem Console.Message.stdout_question (t : Text) : (question t).stdout = t :=
  rfl

@[simp] theorem Console.Message.stderr_question (t : Text) : (question t).stderr = [] :=
  rfl

@[simp] theorem Console.Message.stdout_shown_nil : (shown []).stdout = [.scalar '\n'] := by
  rw [stdout, line, Pictograph.replaceNames]
  rfl

@[simp] theorem Console.Message.stderr_shown (t : Text) : (shown t).stderr = [] :=
  rfl

/-- A conversation is written as its transcript. -/
theorem output_conversation (pairs : List (Text × Result)) :
    Printout.output { messages := conversation pairs } = transcript pairs := by
  simp [Printout.output, conversation, transcript, List.flatMap_assoc, Result.stdout_handed,
    Result.stderr_handed]

theorem respond_eq {config : Config} {line : Text} {h : Host} (hblank : line.isBlank = false)
    (hresult : ∀ abort, ((Command.evaluator config).run [] line h).1 ≠ .aborted abort) :
    Command.respond config line h =
      ({ messages := [((Command.evaluator config).run [] line h).1.handed line] },
        ((Command.evaluator config).run [] line h).2) := by
  unfold Command.respond
  rw [if_neg (by simp [hblank])]
  cases hrun : (Command.evaluator config).run [] line h with
  | mk result t =>
      cases result with
      | aborted abort => exact absurd (by rw [hrun]) (hresult abort)
      | value | syntaxError | cannotBind | evaluationError | unfinished => rfl

theorem session_cons (e : Evaluator ω) (program : Text) (rest : List Text) (s : ω) :
    (e.session [] (program :: rest) s).1 =
      (e.run [] program s).1 :: (e.session [] rest (e.run [] program s).2).1 :=
  rfl

section Dialogue

variable {config : Config} {h : Host} {t : Twister}

theorem not_aborted {program : Text}
    (hroom : ((Command.evaluator config).run [] program (h.rolling t)).1 ≠ .aborted .tooDeep)
    (abort : Abort) :
    ((Command.evaluator config).run [] program (h.rolling t)).1 ≠ .aborted abort := by
  intro habort
  rw [evaluator_rolling] at habort hroom
  rw [Evaluator.ofDice_ends config program t habort] at habort
  exact hroom habort

/-- A dialogue prints the results of a session of the same programs. -/
theorem dialogue_eq_conversation {programs : List Text}
    (hblank : ∀ program ∈ programs, program.isBlank = false)
    (hroom : ∀ r ∈ ((Command.evaluator config).session [] programs (h.rolling t)).1,
      r ≠ .aborted .tooDeep) :
    Command.dialogue config programs (h.rolling t) =
      { messages := conversation
          (programs.zip ((Command.evaluator config).session [] programs (h.rolling t)).1) } := by
  induction programs generalizing t with
  | nil => rfl
  | cons program rest ih =>
      rw [session_cons] at hroom ⊢
      obtain ⟨hfirst, hroom⟩ := List.forall_mem_cons.1 hroom
      obtain ⟨hprogram, hblank⟩ := List.forall_mem_cons.1 hblank
      rw [Command.dialogue, respond_eq hprogram (not_aborted hfirst), List.zip_cons_cons]
      rw [evaluator_rolling] at hroom ⊢
      simp only [ne_eq, not_true_eq_false, if_false]
      rw [ih hblank hroom]
      rfl

/-- A program that is run alone prints the result of the first program of a session. -/
theorem showValue_eq {entropy : Int} {program : Text} {rest : List Text} {r : Result}
    {later : List Result}
    (hsession : ((Command.evaluator config).session [] (program :: rest)
      (Command.host config entropy)).1 = r :: later)
    (hroom : r ≠ .aborted .tooDeep) :
    Command.showValue config entropy false program =
      { exitCode := if r.isValue then 0 else 1, messages := [r.handed program] } := by
  rw [session_cons] at hsession
  obtain ⟨rfl, -⟩ := List.cons.inj hsession
  have haborted := not_aborted (h := Command.host config entropy)
    (t := .ofSeed (config.seed.getD entropy)) hroom
  unfold Command.showValue
  cases hparse : parse program with
  | error error =>
      rw [Evaluator.run_of_error hparse]
      rfl
  | ok tree =>
      have hevaluate : ((Command.evaluator config).evaluate [] tree
          (Command.host config entropy)).1 =
            ((Command.evaluator config).run [] program (Command.host config entropy)).1 := by
        rw [Evaluator.run_of_parse hparse]
        rfl
      simp only [Bool.false_eq_true, if_false, hevaluate]
      generalize hresult : ((Command.evaluator config).run [] program
        (Command.host config entropy)).1 = result
      cases result with
      | aborted abort => exact absurd hresult (haborted abort)
      | value | syntaxError | cannotBind | evaluationError | unfinished => rfl

end Dialogue

/-! ## Requests as a session -/

theorem Worker.Answered.session {e : Evaluator ω} {lines programs replies : List Text} {s u : ω}
    (h : Answered e lines s replies u) (hprograms : lines.map programOf = programs.map .ok) :
    replies = (programs.zip (e.session [] programs s).1).map fun pair =>
      Reply.encode ⟨pair.2.isValue, pair.2.render pair.1⟩ := by
  induction h generalizing programs with
  | nil s =>
      obtain rfl : programs = [] := List.map_eq_nil_iff.1 hprograms.symm
      rfl
  | @cons line reply rest replies s t u hanswer _ ih =>
      cases programs with
      | nil => cases hprograms
      | cons program programs =>
          obtain ⟨hline, hrest⟩ := List.cons.inj hprograms
          rw [answer_of_program hline] at hanswer
          obtain ⟨hreply, rfl⟩ := Prod.mk.inj hanswer
          rw [session_cons, List.zip_cons_cons, List.map_cons, ← ih hrest]
          congr 1
          generalize (e.run [] program s).1 = result at hreply
          cases result with
          | aborted abort => cases hreply
          | value | syntaxError | cannotBind | evaluationError | unfinished =>
              cases hreply
              rfl

/-! ## Isolation -/

/-- The lines that are answered. -/
def requestLines (lines : List Text) : List Text :=
  lines.filter fun line => !line.isBlank

/-- Programs are isolated from each other. Everywhere the dice are those of a generator `t`, and `h` is
what else there is in the host. -/
structure Isolates (config : Config) : Prop where
  /-- A worker answers every line that is not blank, in order and on one line each. -/
  served (lines : List Text) (h : Host) (t : Twister) :
    (Worker.serve (Command.evaluator config) lines (h.rolling t)).1.2 ≠ some .tooDeep →
    ∃ replies u,
      Worker.serve (Command.evaluator config) lines (h.rolling t) =
        ((replies, none), h.rolling u) ∧
      Worker.Answered (Command.evaluator config) (requestLines lines) (h.rolling t) replies
        (h.rolling u) ∧
      replies.length = (requestLines lines).length ∧
      (∀ reply ∈ replies, CodePoint.scalar '\n' ∉ reply) ∧
      (Command.serve config lines (h.rolling t)).1.stdout.lines = replies
  /-- No program ends in any other way than with a report. -/
  reported (program : Text) (h : Host) (t : Twister) (abort : Abort) :
    (Worker.report (Command.evaluator config) program (h.rolling t)).1 = .error abort →
    abort = .tooDeep
  /-- An answer depends on the line and the dice alone, and changes nothing but the dice. -/
  dice_only (line : Text) (h h' : Host) (t : Twister) :
    ∃ answer u, Worker.answer (Command.evaluator config) line (h.rolling t) = (answer, h.rolling u) ∧
      Worker.answer (Command.evaluator config) line (h'.rolling t) = (answer, h'.rolling u)
  /-- A line that is malformed, or whose program cannot be parsed, leaves everything as it is. -/
  untouched (line : Text) (h : Host) :
    (∀ program tree, Worker.programOf line = .ok program → parse program ≠ .ok tree) →
    (Worker.answer (Command.evaluator config) line h).2 = h
  /-- A program leaves exactly the draws that it made, however it ends. -/
  drawn (line program : Text) (h : Host) : Worker.programOf line = .ok program →
    ∃ widths, Evaluator.run { world := Host.world.recording, config } [] program (h, []) =
        (((Command.evaluator config).run [] program h).1,
          (Worker.answer (Command.evaluator config) line h).2, widths) ∧
      Host.world.after widths h = some (Worker.answer (Command.evaluator config) line h).2
  /-- Well-formed requests are answered with the results of a session of their programs. -/
  as_session (lines programs : List Text) (h : Host) :
    (requestLines lines).map Worker.programOf = programs.map .ok →
    (Worker.serve (Command.evaluator config) lines h).1.2 = none →
    (Worker.serve (Command.evaluator config) lines h).1.1 =
      (programs.zip ((Command.evaluator config).session [] programs h).1).map fun pair =>
        Reply.encode ⟨pair.2.isValue, pair.2.render pair.1⟩
  /-- A dialogue hands the results of a session of the same programs with the same seed to the console,
  and they are written. -/
  dialogue (programs : List Text) (entropy : Int) :
    (∀ program ∈ programs, program.isBlank = false) →
    (∀ r ∈ ((Command.evaluator config).session [] programs (Command.host config entropy)).1,
      r ≠ .aborted .tooDeep) →
    Command.dialogue config programs (Command.host config entropy) =
      { messages := conversation (programs.zip
          ((Command.evaluator config).session [] programs (Command.host config entropy)).1) } ∧
    (Command.dialogue config programs (Command.host config entropy)).output =
      transcript (programs.zip
        ((Command.evaluator config).session [] programs (Command.host config entropy)).1)
  /-- A program that is run alone hands the result of the first program of a session to the console, and
  it is written. -/
  single (program : Text) (rest : List Text) (entropy : Int) (r : Result) (later : List Result) :
    ((Command.evaluator config).session [] (program :: rest) (Command.host config entropy)).1 =
      r :: later →
    r ≠ .aborted .tooDeep →
    Command.showValue config entropy false program =
      { exitCode := if r.isValue then 0 else 1, messages := [r.handed program] } ∧
    (Command.showValue config entropy false program).output =
      { r.output program with exitCode := if r.isValue then 0 else 1 }

theorem served_lines (config : Config) (lines : List Text) (h : Host) (t : Twister)
    (hroom : (Worker.serve (Command.evaluator config) lines (h.rolling t)).1.2 ≠ some .tooDeep) :
    (Worker.serve (Command.evaluator config) lines (h.rolling t)).1.2 = none := by
  cases habort : (Worker.serve (Command.evaluator config) lines (h.rolling t)).1.2 with
  | none => rfl
  | some abort =>
      rw [serve_rolling] at habort hroom
      obtain ⟨line, u, hanswer⟩ := Worker.serve_aborted habort
      rw [answer_ends config u line hanswer] at habort
      exact absurd habort hroom

/-- Hosts isolate the programs that they run. -/
theorem hosts_isolate_programs (config : Config) : Isolates config where
  served := by
    intro lines h t hroom
    have hnone := served_lines config lines h t hroom
    have hanswered := Worker.serve_answered hnone
    have hstate : (Worker.serve (Command.evaluator config) lines (h.rolling t)).2 =
        h.rolling (Worker.serve (Evaluator.ofDice config) lines t).2 :=
      congrArg Prod.snd (serve_rolling config h t lines)
    have hlines : ∀ reply ∈ (Worker.serve (Command.evaluator config) lines (h.rolling t)).1.1,
        CodePoint.scalar '\n' ∉ reply :=
      fun reply hreply => (hanswered.printable reply hreply).no_line_feed
    refine ⟨_, _, Prod.ext (Prod.ext rfl hnone) hstate, ?_, hanswered.length, hlines, ?_⟩
    · rw [← hstate]
      exact hanswered
    · exact lines_flatMap hlines
  reported := by
    intro program h t abort habort
    rw [Worker.report_eq, evaluator_rolling] at habort
    exact reported_ends config t program habort
  dice_only := by
    intro line h h' t
    exact ⟨_, _, answer_rolling config h t line, answer_rolling config h' t line⟩
  untouched := by
    intro line h hline
    cases hprogram : Worker.programOf line with
    | error problem => rw [Worker.answer_of_malformed hprogram]
    | ok program =>
        cases hparse : parse program with
        | error error =>
            rw [Worker.answer_of_program hprogram, Evaluator.run_of_error hparse]
        | ok tree => exact absurd hparse (hline program tree hprogram)
  drawn := by
    intro line program h hprogram
    rw [Worker.answer_of_program hprogram]
    exact run_recorded Host.world config program h
  as_session := by
    intro lines programs h hprograms hnone
    exact (Worker.serve_answered hnone).session hprograms
  dialogue := by
    intro programs entropy hblank hroom
    have hdialogue := dialogue_eq_conversation (h := Command.host config entropy)
      (t := .ofSeed (config.seed.getD entropy)) hblank hroom
    exact ⟨hdialogue, (congrArg Printout.output hdialogue).trans (output_conversation _)⟩
  single := by
    intro program rest entropy r later hsession hroom
    have hvalue := showValue_eq hsession hroom
    exact ⟨hvalue, (congrArg Printout.output hvalue).trans (r.output_handed program _)⟩

/-- A request, a blank line, a request for a program that fails, and a line that is no request. -/
def fourLines : List Text :=
  [.ofString "\x7b\"program\": \"2 * 3\"\x7d", .ofString "  ",
    .ofString "\x7b\"programText\": \"1 + x\"\x7d", .ofString "nope"]

/-- A host with nothing. -/
def Host.idle : Host :=
  { dice := .prepared [] }

theorem fourLines_served :
    (Worker.serve (Command.evaluator .standard) fourLines (Host.idle.rolling ⟨#[], 0⟩)).1.2 ≠
        some .tooDeep ∧
      ∃ replies u,
        Worker.serve (Command.evaluator .standard) fourLines (Host.idle.rolling ⟨#[], 0⟩) =
          ((replies, none), Host.idle.rolling u) ∧ replies.length = 3 := by
  have hroom : (Worker.serve (Command.evaluator .standard) fourLines
      (Host.idle.rolling ⟨#[], 0⟩)).1.2 ≠ some .tooDeep := by decide +kernel
  obtain ⟨replies, u, hserve, -, hlength, -, -⟩ :=
    (hosts_isolate_programs .standard).served fourLines .idle ⟨#[], 0⟩ hroom
  have hcount : (requestLines fourLines).length = 3 := by decide +kernel
  exact ⟨hroom, replies, u, hserve, hlength.trans hcount⟩

end RollScript
