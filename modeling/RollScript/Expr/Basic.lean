import RollScript.Span

/-!
# Expression trees

Every node carries the span of source it was read from. Operators have no nodes of their own: the
operator is a variable with the operator's text as its name, applied to its operands one by one. So
is a call with several arguments.
-/

namespace RollScript

/-- An expression. -/
inductive Expr where
  /-- A number. -/
  | number (span : Span) (value : Float)
  /-- A string, with its escapes resolved. -/
  | string (span : Span) (value : Text)
  /-- The value without content, written `()`. -/
  | unit (span : Span)
  /-- A reference to a name. -/
  | name (span : Span) (name : Text)
  /-- An array of the elements' values. -/
  | array (span : Span) (elements : List Expr)
  /-- A function called, an array indexed or an expression repeated, as the callee's value says. -/
  | apply (span : Span) (callee argument : Expr)
  /-- A function of one parameter. -/
  | function (span : Span) (parameter : Text) (body : Expr)
  /-- A block of simultaneous definitions for a body. -/
  | block (span : Span) (bindings : List (Text × Expr)) (body : Expr)
  /-- A choice between two expressions. -/
  | choice (span : Span) (condition whenTrue whenFalse : Expr)
deriving Inhabited

namespace Expr

/-- The source that a node was read from. -/
def span : Expr → Span
  | number span _ => span
  | string span _ => span
  | unit span => span
  | name span _ => span
  | array span _ => span
  | apply span _ _ => span
  | function span _ _ => span
  | block span _ _ => span
  | choice span _ _ _ => span

/-- The same node with another end. -/
def withStop (stop : Nat) : Expr → Expr
  | number span value => number { span with stop } value
  | string span value => string { span with stop } value
  | unit span => unit { span with stop }
  | name span x => name { span with stop } x
  | array span elements => array { span with stop } elements
  | apply span callee argument => apply { span with stop } callee argument
  | function span parameter body => function { span with stop } parameter body
  | block span bindings body => block { span with stop } bindings body
  | choice span condition whenTrue whenFalse =>
    choice { span with stop } condition whenTrue whenFalse

/-- The direct children of a node, in source order. -/
def children : Expr → List Expr
  | array _ elements => elements
  | apply _ callee argument => [callee, argument]
  | function _ _ body => [body]
  | block _ bindings body => bindings.map Prod.snd ++ [body]
  | choice _ condition whenTrue whenFalse => [condition, whenTrue, whenFalse]
  | _ => []

end Expr

end RollScript
