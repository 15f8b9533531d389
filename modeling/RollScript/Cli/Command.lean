import RollScript.Cli.Arguments
import RollScript.Cli.Console
import RollScript.Config.Validate
import RollScript.Expr.Dump
import RollScript.Host.Stock
import RollScript.Worker

/-!
# Commands

`Command.run` carries out a command, given the files it can read and the text of its standard input,
and returns what it writes and its exit code. `eval` prints a program's value, `parse` its tree,
`repl` answers programs line by line, and `worker` answers requests line by line. Errors go to the
error output. What the first three print goes through the console: they return a `Printout`.
-/

namespace RollScript

/-- What a command writes, and its exit code. -/
structure Output where
  exitCode : Nat := 0
  stdout : Text := []
  stderr : Text := []

namespace Output

/-- A line of error output that ends a command. -/
def failure (message : Text) : Output :=
  { exitCode := 1, stderr := message ++ [.scalar '\n'] }

/-- How a character is written on the error output: a surrogate that stands alone by its number. -/
def errorCharacter : CodePoint → Text
  | .scalar c => [.scalar c]
  | .surrogate index => .ofString ("\\u" ++ hex 4 (0xD800 + index.val))

/-- What is written when surrogates that stand alone cannot be. -/
def writable (o : Output) : Output :=
  { o with stderr := o.stderr.flatMap errorCharacter }

end Output

/-- What a command hands to the console, in order, and its exit code. -/
structure Printout where
  exitCode : Nat := 0
  messages : List Console.Message := []

/-- What the console writes for a command. -/
def Printout.output (p : Printout) : Output where
  exitCode := p.exitCode
  stdout := p.messages.flatMap Console.Message.stdout
  stderr := p.messages.flatMap Console.Message.stderr

namespace Command

/-- What to write when the configuration cannot be loaded. -/
def loadFailure : Config.LoadError → Output
  | .noFile path .notFound => .failure (.ofString "Config file not found: " ++ path)
  | .noFile _ _ => { exitCode := 1 }
  | .unreadable .malformed => { exitCode := 1, stderr := .ofString "Error loading config" }
  | .unreadable _ => { exitCode := 1 }
  | .notTable _ => { exitCode := 1 }
  | .invalid _ => { exitCode := 1, stderr := .ofString "Error loading config" }

/-- The configuration of a command: that of its file, with the seed of the command line. -/
def settings (files : Text → Option FileNode) (path : Option Text) (seed : Option Int) :
    Except Output Config :=
  match Config.load files path with
  | .error error => .error (loadFailure error)
  | .ok config => .ok (if seed.isSome then { config with seed } else config)

/-- The program of `eval`: its argument or a file, and not both. -/
def source (files : Text → Option FileNode) : Option Text → Option Text → Except Output Text
  | some _, some _ => .error (.failure (.ofString "Give either an expression or --file, not both"))
  | none, some path =>
    match readPath files (normalPath path) with
    | .ok t => .ok t.unifyLineEnds
    | .error .notFound => .error (.failure (.ofString "File not found: " ++ normalPath path))
    | .error _ => .error { exitCode := 1 }
  | some expression, none => .ok expression
  | none, none => .error (.failure (.ofString "Missing expression (or use --file)"))

/-- An evaluator with the functions and operators of the language. -/
def evaluator (config : Config) : Evaluator Host :=
  { world := Host.world, config }

/-- A host with dice of the configured seed, or of another if none is configured. -/
def host (config : Config) (entropy : Int) : Host :=
  { dice := .ofSeed (config.seed.getD entropy) }

/-- Prints a program's value, after its tree if that is wanted. -/
def showValue (config : Config) (entropy : Int) (withTree : Bool) (program : Text) : Printout :=
  match RollScript.parse program with
  | .error error => { exitCode := 1, messages := [.reported (error.render program)] }
  | .ok tree =>
    match if withTree then tree.dump?.map fun dump => [Console.Message.shown dump] else some [] with
    | none => { exitCode := 1 }
    | some before =>
      match ((evaluator config).evaluate [] tree (host config entropy)).1 with
      | .aborted _ => { exitCode := 1, messages := before }
      | result =>
        let text := result.render program
        if result.isValue then { messages := before ++ [.shown text] }
        else { exitCode := 1, messages := before ++ [.reported text] }

/-- Prints a program's tree. -/
def showTree (program : Text) : Printout :=
  match RollScript.parse program with
  | .error error => { exitCode := 1, messages := [.reported (error.render program)] }
  | .ok tree =>
    match tree.dump? with
    | none => { exitCode := 1 }
    | some dump => { messages := [.shown dump] }

/-- The prompt of `repl`. -/
def prompt : Text := .ofString "> "

/-- What `repl` prints for a line, and the host after it. A blank line is passed over. An exit code
other than zero ends the dialogue. -/
def respond (config : Config) (line : Text) (h : Host) : Printout × Host :=
  if line.isBlank then ({}, h)
  else
    match (evaluator config).run [] line h with
    | (.aborted _, h) => ({ exitCode := 1 }, h)
    | (result, h) =>
      let text := result.render line
      ({ messages := [if result.isValue then .shown text else .reported text] }, h)

/-- What `repl` prints for several lines up to the end of the input. -/
def dialogue (config : Config) : List Text → Host → Printout
  | [], _ => { messages := [.question prompt, .shown []] }
  | line :: rest, h =>
    let (now, h) := respond config line h
    let asked := .question prompt :: now.messages
    if now.exitCode ≠ 0 then { exitCode := now.exitCode, messages := asked }
    else
      let later := dialogue config rest h
      { exitCode := later.exitCode, messages := asked ++ later.messages }

/-- What `worker` writes for several lines, and the host after them. -/
def serve (config : Config) (lines : List Text) (h : Host) : Output × Host :=
  let ((replies, abort), h) := Worker.serve (evaluator config) lines h
  ({ exitCode := if abort.isSome then 1 else 0
     stdout := replies.flatMap (· ++ [.scalar '\n']) }, h)

/-- Carries out a command. `entropy` seeds the dice when nothing else does. -/
def run (files : Text → Option FileNode) (stdin : Text) (entropy : Int) : Command → Output
  | .eval expression file seed path withTree =>
    match source files expression file with
    | .error output => output
    | .ok program =>
      match settings files path seed with
      | .error output => output
      | .ok config => (showValue config entropy withTree program).output
  | .parse expression => (showTree expression).output
  | .repl seed path =>
    match settings files path seed with
    | .error output => output
    | .ok config => (dialogue config stdin.unifyLineEnds.lines (host config entropy)).output
  | .worker seed path =>
    match settings files path seed with
    | .error output => output
    | .ok config => (serve config stdin.unifyLineEnds.lines (host config entropy)).1

/-- The paths of the files that a command may read. -/
def paths : Command → List Text
  | .eval _ file _ config _ => file.toList ++ [config.getD Config.fileName]
  | .parse _ => []
  | .repl _ config => [config.getD Config.fileName]
  | .worker _ config => [config.getD Config.fileName]

end Command

/-- Carries out a command line. One that does not make sense has the exit code 2. -/
def runCommandLine (files : Text → Option FileNode) (stdin : Text) (entropy : Int)
    (args : List Text) : Output :=
  match Arguments.parse args with
  | none => { exitCode := 2 }
  | some command => (command.run files stdin entropy).writable

end RollScript
