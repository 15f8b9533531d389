import RollScript.Config.Basic
import RollScript.Config.IntegerText
import RollScript.Data.Toml.Document
import RollScript.Number.Binary
import RollScript.Path

/-!
# Checked configurations

A configuration is made from the fields of a record. Whole numbers may be given as numbers, truth
values or decimal texts. Every field that does not fit is reported, in the order of the fields; fields
that a configuration does not have are ignored.
-/

namespace RollScript

namespace Config

/-- Numbers with a point are read as integers if they lie strictly between this and its negative. -/
def wordLimit : Int := 9223372036854775808

/-- The integer that a field gives. -/
def integer : Data → Except FieldProblem Int
  | .integer n => .ok n
  | .boolean b => .ok (if b then 1 else 0)
  | .number x =>
    if !x.isFinite then .error .notFinite
    else
      match Binary.integer? x with
      | some n => if -wordLimit < n ∧ n < wordLimit then .ok n else .error .tooLarge
      | none => .error .fractional
  | .text t => if t.isUnicode then IntegerText.read t else .error .notUnicode
  | _ => .error .notInteger

/-- The limit that a field gives, at least one. -/
def limit (d : Data) : Except FieldProblem { n : Nat // 0 < n } :=
  match integer d with
  | .error problem => .error problem
  | .ok n => if h : 0 < n.toNat then .ok ⟨n.toNat, h⟩ else .error .tooSmall

/-- The policy that a field gives. -/
def policy : Data → Except FieldProblem Exhausted
  | .text t =>
    if t = .ofString "last" then .ok .last
    else if t = .ofString "error" then .ok .error
    else if t.isUnicode then .error .notPolicy
    else .error .notUnicode
  | _ => .error .notPolicy

/-- The seed that a field gives. -/
def seedOf : Data → Except FieldProblem (Option Int)
  | .null => .ok none
  | d => (integer d).map some

/-- The value of a field, or its default when the record does not have it. -/
def read {α : Type} (d : Data) (name : String) (default : α) (f : Data → Except FieldProblem α) :
    Except FieldError α :=
  match d.field? name with
  | none => .ok default
  | some given =>
    match f given with
    | .ok a => .ok a
    | .error problem => .error ⟨name, problem⟩

/-- The error of a field, if it has one. -/
def errorOf {α : Type} : Except FieldError α → List FieldError
  | .ok _ => []
  | .error e => [e]

/-- The configuration that a record gives, or all its errors. -/
def ofData (d : Data) : Except (List FieldError) Config :=
  let rerolls := read d "max_rerolls" ⟨standard.maxRerolls, standard.maxRerolls_pos⟩ limit
  let exhausted := read d "reroll_exhausted" standard.whenExhausted policy
  let seed := read d "seed" standard.seed seedOf
  match rerolls, exhausted, seed with
  | .ok rerolls, .ok exhausted, .ok seed =>
    .ok { maxRerolls := rerolls.val
          whenExhausted := exhausted
          seed := seed
          maxRerolls_pos := rerolls.property }
  | _, _, _ => .error (errorOf rerolls ++ errorOf exhausted ++ errorOf seed)

/-- The name of the configuration file that is read when none is named. -/
def fileName : Text := .ofString "dicelang.toml"

/-- Why a configuration cannot be loaded. -/
inductive LoadError where
  | noFile (path : Text) (error : PathError)
  | unreadable (problem : Toml.Problem)
  | notTable (given : Data)
  | invalid (errors : List FieldError)

/-- The configuration of a file's text: that of its table `evaluator`. -/
def ofText (t : Text) : Except LoadError Config :=
  match Toml.read t with
  | .error problem => .error (.unreadable problem)
  | .ok document =>
    match (document.field? "evaluator").getD (.record []) with
    | .record fields =>
      match ofData (.record fields) with
      | .ok config => .ok config
      | .error errors => .error (.invalid errors)
    | given => .error (.notTable given)

/-- Loads the named file, or the default one, which may be missing. -/
def load (files : Text → Option FileNode) (path : Option Text) : Except LoadError Config :=
  match path with
  | some path =>
    match readPath files (normalPath path) with
    | .ok t => ofText t
    | .error error => .error (.noFile (normalPath path) error)
  | none =>
    match readPath files fileName with
    | .ok t => ofText t
    | .error .notFound => .ok .standard
    | .error error => .error (.noFile fileName error)

end Config

end RollScript
