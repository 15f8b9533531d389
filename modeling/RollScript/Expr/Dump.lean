import RollScript.Expr.Basic
import RollScript.Number.Layout
import RollScript.Text.Literal

/-!
# The dump of a tree

`Expr.dump` writes a tree in nested parentheses, without its spans. `Expr.dump?` does so only for trees
that are not nested too deeply to be shown. `Expr.outline` lists the nodes of a tree in preorder.
-/

namespace RollScript.Expr

mutual

/-- A tree in nested parentheses. -/
def dump : Expr → Text
  | number _ value => .ofString (Number.dump value)
  | string _ value => .ofString (Literal.encode value)
  | unit _ => .ofString "()"
  | name _ x => x
  | array _ elements => .ofString "(array" ++ dumpElements elements ++ .ofString ")"
  | apply _ callee argument =>
    .ofString "(apply " ++ callee.dump ++ .ofString " " ++ argument.dump ++ .ofString ")"
  | function _ parameter body =>
    .ofString "(fn " ++ parameter ++ .ofString " " ++ body.dump ++ .ofString ")"
  | block _ bindings body =>
    .ofString "(let (" ++ dumpBindings bindings ++ .ofString ") " ++ body.dump ++ .ofString ")"
  | choice _ condition whenTrue whenFalse =>
    .ofString "(if " ++ condition.dump ++ .ofString " " ++ whenTrue.dump ++ .ofString " " ++
      whenFalse.dump ++ .ofString ")"

/-- The elements of an array, each after a blank. -/
def dumpElements : List Expr → Text
  | [] => []
  | e :: rest => .ofString " " ++ e.dump ++ dumpElements rest

/-- The definitions of a block, each in parentheses, with blanks between them. -/
def dumpBindings : List (Text × Expr) → Text
  | [] => []
  | [(x, e)] => .ofString "(" ++ x ++ .ofString " " ++ e.dump ++ .ofString ")"
  | (x, e) :: rest =>
    .ofString "(" ++ x ++ .ofString " " ++ e.dump ++ .ofString ") " ++ dumpBindings rest

end

mutual

/-- Whether no path of a tree has more than `depth` nodes. -/
def isNestedAtMost : Nat → Expr → Bool
  | 0, _ => false
  | depth + 1, e =>
    match e with
    | array _ elements => areNestedAtMost depth elements
    | apply _ callee argument =>
      callee.isNestedAtMost depth && argument.isNestedAtMost depth
    | function _ _ body => body.isNestedAtMost depth
    | block _ bindings body => valuesNestedAtMost depth bindings && body.isNestedAtMost depth
    | choice _ condition whenTrue whenFalse =>
      condition.isNestedAtMost depth && whenTrue.isNestedAtMost depth &&
        whenFalse.isNestedAtMost depth
    | _ => true

/-- Whether no path of several trees has more than `depth` nodes. -/
def areNestedAtMost (depth : Nat) : List Expr → Bool
  | [] => true
  | e :: rest => e.isNestedAtMost depth && areNestedAtMost depth rest

/-- Whether no path of the values of a block has more than `depth` nodes. -/
def valuesNestedAtMost (depth : Nat) : List (Text × Expr) → Bool
  | [] => true
  | (_, e) :: rest => e.isNestedAtMost depth && valuesNestedAtMost depth rest

end

/-- How many nodes a path of a tree that is shown may have. -/
def dumpLimit : Nat := 330

/-- A tree in nested parentheses, if it is not nested too deeply. -/
def dump? (e : Expr) : Option Text :=
  if e.isNestedAtMost dumpLimit then some e.dump else none

mutual

/-- A tree's nodes in preorder: each node, then its children from left to right. -/
def outline (e : Expr) : List Expr :=
  e :: match e with
    | array _ elements => outlineElements elements
    | apply _ callee argument => callee.outline ++ argument.outline
    | function _ _ body => body.outline
    | block _ bindings body => outlineBindings bindings ++ body.outline
    | choice _ condition whenTrue whenFalse =>
      condition.outline ++ whenTrue.outline ++ whenFalse.outline
    | _ => []

/-- The nodes of several trees, one tree after the other. -/
def outlineElements : List Expr → List Expr
  | [] => []
  | e :: rest => e.outline ++ outlineElements rest

/-- The nodes of the values of a block, one definition after the other. -/
def outlineBindings : List (Text × Expr) → List Expr
  | [] => []
  | (_, e) :: rest => e.outline ++ outlineBindings rest

end

end RollScript.Expr
