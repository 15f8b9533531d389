import RollScript.Config.IntegerText

/-!
# Command lines

A command line names a command and gives it options and arguments in any order. `Arguments.parse`
sorts them out; it gives nothing when they do not fit the command.
-/

namespace RollScript

/-- A command with its options and arguments. -/
inductive Command where
  | eval (expression file : Option Text) (seed : Option Int) (config : Option Text)
      (withTree : Bool)
  | parse (expression : Text)
  | repl (seed : Option Int) (config : Option Text)
  | worker (seed : Option Int) (config : Option Text)

namespace Arguments

/-- An option: its long name, its letter if it has one, and whether a value follows it. -/
structure Switch where
  name : String
  letter : Option Char := none
  takesValue : Bool := true

/-- Sorted arguments: options with their values, the last first, and the others in order. -/
structure Sorted where
  options : List (String × Text) := []
  positional : List Text := []

/-- Adds an option. -/
def Sorted.withOption (s : Sorted) (name : String) (value : Text) : Sorted :=
  { s with options := (name, value) :: s.options }

/-- Adds an argument that is no option. -/
def Sorted.withPositional (s : Sorted) (argument : Text) : Sorted :=
  { s with positional := s.positional ++ [argument] }

/-- A long option, perhaps with a value after an equals sign; the rest of the arguments may give the
value too. -/
def longOption (switches : List Switch) (argument : Text) (rest : List Text) (s : Sorted) :
    Option (List Text × Sorted) :=
  let name := argument.takeWhile (· ≠ .scalar '=')
  let value := argument.dropWhile (· ≠ .scalar '=')
  match switches.find? (Text.ofString ·.name = name), value, rest with
  | none, _, _ => none
  | some switch, _ :: value, rest =>
    if switch.takesValue then some (rest, s.withOption switch.name value) else none
  | some switch, [], rest =>
    if switch.takesValue then
      match rest with
      | value :: rest => some (rest, s.withOption switch.name value)
      | [] => none
    else
      some (rest, s.withOption switch.name [])

/-- Options given by letters after a single dash. The first that takes a value takes the letters
after it, or the next argument. -/
def letterOptions (switches : List Switch) (rest : List Text) :
    Text → Sorted → Option (List Text × Sorted)
  | [], s => some (rest, s)
  | c :: letters, s =>
    match switches.find? fun switch => switch.letter.map .scalar = some c with
    | none => none
    | some switch =>
      if !switch.takesValue then letterOptions switches rest letters (s.withOption switch.name [])
      else
        match letters, rest with
        | _ :: _, rest => some (rest, s.withOption switch.name letters)
        | [], value :: rest => some (rest, s.withOption switch.name value)
        | [], [] => none

/-- Sorts arguments into options and others. Two dashes end the options. With `early` set, so does
the first argument that is no option. -/
def sort (switches : List Switch) (early : Bool) : Nat → List Text → Sorted → Option Sorted
  | 0, _, _ => none
  | _, [], s => some s
  | rounds + 1, argument :: rest, s =>
    match argument with
    | [.scalar '-', .scalar '-'] => some { s with positional := s.positional ++ rest }
    | .scalar '-' :: .scalar '-' :: _ => do
      let (rest, s) ← longOption switches argument rest s
      sort switches early rounds rest s
    | .scalar '-' :: c :: letters => do
      let (rest, s) ← letterOptions switches rest (c :: letters) s
      sort switches early rounds rest s
    | _ =>
      if early then some { s with positional := s.positional ++ argument :: rest }
      else sort switches early rounds rest (s.withPositional argument)

/-- The value of an option. -/
def Sorted.option? (s : Sorted) (name : String) : Option Text :=
  s.options.lookup name

/-- The seed that an option gives, if it is there. Its text is read as in a configuration. -/
def seed (s : Sorted) : Option (Option Int) :=
  match s.option? "--seed" with
  | none => some none
  | some text =>
    match IntegerText.read text with
    | .ok n => some (some n)
    | .error _ => none

/-- The options of commands that throw dice. -/
def diceSwitches : List Switch := [⟨"--seed", none, true⟩, ⟨"--config", none, true⟩]

/-- The command `eval`. -/
def evalCommand (args : List Text) : Option Command := do
  let switches := diceSwitches ++ [⟨"--file", some 'f', true⟩, ⟨"--sexpr", none, false⟩]
  let s ← sort switches false (args.length + 1) args {}
  let seed ← seed s
  let command := fun expression =>
    Command.eval expression (s.option? "--file") seed (s.option? "--config")
      (s.option? "--sexpr").isSome
  match s.positional with
  | [] => return command none
  | [expression] => return command (some expression)
  | _ => none

/-- The command `parse`. -/
def parseCommand (args : List Text) : Option Command := do
  let s ← sort [] false (args.length + 1) args {}
  match s.positional with
  | [expression] => return .parse expression
  | _ => none

/-- A command without arguments of its own. -/
def sessionCommand (command : Option Int → Option Text → Command) (args : List Text) :
    Option Command := do
  let s ← sort diceSwitches false (args.length + 1) args {}
  let seed ← seed s
  if s.positional.isEmpty then return command seed (s.option? "--config") else none

/-- The command that a command line gives. -/
def parse (args : List Text) : Option Command := do
  let s ← sort [⟨"--verbose", none, false⟩] true (args.length + 1) args {}
  match s.positional with
  | [] => none
  | name :: rest =>
    match name.toString with
    | "eval" => evalCommand rest
    | "parse" => parseCommand rest
    | "repl" => sessionCommand .repl rest
    | "worker" => sessionCommand .worker rest
    | _ => none

end Arguments

end RollScript
