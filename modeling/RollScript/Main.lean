import RollScript.Cli.Command

/-!
# The command line

Reads the files and the standard input that a command needs, and writes what it returns. `repl` and
`worker` answer line by line.
-/

namespace RollScript

/-- What a path leads to, if it can be read. -/
def readNode? (path : String) : IO (Option FileNode) := do
  try
    return some (.file (.ofString (← IO.FS.readFile path)))
  catch _ =>
    return none

/-- A seed from the system. -/
def freshSeed : IO Int := do
  let bytes ← IO.getRandomBytes 16
  return (bytes.toList.foldl (fun n byte => 256 * n + byte.toNat) 0 : Nat)

/-- Writes what a command returns. -/
def writeOutput (output : Output) : IO Unit := do
  let stdout ← IO.getStdout
  stdout.putStr output.stdout.toString
  stdout.flush
  (← IO.getStderr).putStr output.stderr.toString

/-- Answers lines until the input or an answer ends it, and returns the exit code. -/
partial def answerLines (stdin : IO.FS.Stream) (before : IO Unit) (answer : Text → Host → Output × Host)
    (h : Host) : IO UInt32 := do
  before
  let line ← stdin.getLine
  if line.isEmpty then return 0
  let (output, h) := answer ((Text.ofString line).unifyLineEnds.filter (· ≠ .scalar '\n')) h
  writeOutput output
  if output.exitCode ≠ 0 then return output.exitCode.toUInt32
  answerLines stdin before answer h

/-- Carries out a command and returns its exit code. -/
def runCommand (command : Command) : IO UInt32 := do
  let known ← command.paths.mapM fun path => do
    return (normalPath path, ← readNode? path.toString)
  let files := fun path => (known.lookup path).join
  let entropy ← freshSeed
  let lineByLine := fun path seed before answer => do
    match Command.settings files path seed with
    | .error output => writeOutput output; return output.exitCode.toUInt32
    | .ok config =>
      answerLines (← IO.getStdin) before (answer config) (Command.host config entropy)
  match command with
  | .repl seed path =>
    let prompt := writeOutput { stdout := Command.prompt }
    let code ← lineByLine path seed prompt fun config line h =>
      (Command.respond config line h).map Printout.output id
    if code = 0 then IO.println ""
    return code
  | .worker seed path =>
    lineByLine path seed (pure ()) fun config line => Command.serve config [line]
  | command =>
    let output := (command.run files [] entropy).writable
    writeOutput output
    return output.exitCode.toUInt32

end RollScript

/-- The command line. -/
def main (args : List String) : IO UInt32 :=
  match RollScript.Arguments.parse (args.map .ofString) with
  | none => do
    IO.eprintln "usage: eval EXPRESSION | parse EXPRESSION | repl | worker"
    return 2
  | some command => RollScript.runCommand command
