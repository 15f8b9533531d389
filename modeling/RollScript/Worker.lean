import RollScript.Data.Json
import RollScript.Program

/-!
# Answering requests

A worker gets programs as JSON records, one on a line, and answers each with a JSON record on a line:
whether the program returned a value, and the value's text or the rendered error. A request that is
malformed is answered too. `Worker.serve` answers the lines that are not blank, in one world.
-/

namespace RollScript

/-- The answer to a request. -/
structure Reply where
  success : Bool
  output : Text

/-- An answer as a JSON record. -/
def Reply.encode (r : Reply) : Text :=
  .ofString ("\x7b\"success\":" ++ (if r.success then "true" else "false") ++ ",\"output\":") ++
    Json.quote r.output ++ .ofString "\x7d"

/-- What is wrong with a request. -/
inductive Malformed where
  | notUnicode
  | notJson
  | notRecord
  | noProgram
  | notText (field : String)

/-- The message of a malformed request. -/
def Malformed.message : Malformed → String
  | notUnicode =>
    "Malformed request: Input should be a valid string, unable to parse raw data as a unicode string"
  | notJson => "Malformed request: Invalid JSON"
  | notRecord => "Malformed request: Input should be an object"
  | noProgram => "Malformed request: programText: Field required"
  | notText field => "Malformed request: " ++ field ++ ": Input should be a valid string"

namespace Worker

/-- A field of a request that must be a text. -/
def textField (name : String) : Data → Except Malformed Text
  | .text t => .ok t
  | _ => .error (.notText name)

/-- The program of a request: the field `programText`, or else the field `program`. -/
def programOf (message : Text) : Except Malformed Text :=
  if !message.isUnicode then .error .notUnicode
  else
    match Json.read Json.requests message with
    | none => .error .notJson
    | some (.record fields) =>
      match (Data.record fields).field? "programText", (Data.record fields).field? "program" with
      | some given, _ => textField "programText" given
      | none, some given => textField "program" given
      | none, none => .error .noProgram
    | some _ => .error .notRecord

variable {ω : Type}

/-- Runs a program and reports its result. Only an abort is not reported. -/
def report (e : Evaluator ω) (program : Text) (state : ω) : Except Abort Reply × ω :=
  match e.run [] program state with
  | (.aborted abort, state) => (.error abort, state)
  | (result, state) => (.ok ⟨result.isValue, result.render program⟩, state)

/-- Answers a request. -/
def answer (e : Evaluator ω) (message : Text) (state : ω) : Except Abort Text × ω :=
  match programOf message with
  | .error problem => (.ok (Reply.encode ⟨false, .ofString problem.message⟩), state)
  | .ok program =>
    let (reply, state) := report e program state
    (reply.map Reply.encode, state)

/-- Answers the lines that are not blank, in order, up to the first that is aborted. -/
def serve (e : Evaluator ω) : List Text → ω → (List Text × Option Abort) × ω
  | [], state => (([], none), state)
  | line :: rest, state =>
    if line.isBlank then serve e rest state
    else
      match answer e line state with
      | (.error abort, state) => (([], some abort), state)
      | (.ok reply, state) =>
        let ((replies, abort), state) := serve e rest state
        ((reply :: replies, abort), state)

end Worker

end RollScript
