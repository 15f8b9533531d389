import RollScript.Cause

/-!
# Frames and requests

A `Frame` waits for a value and says what happens with it. A `Request` is what an evaluation rule, a
frame or a function asks of the machine: to deliver a value to the waiting frame, to evaluate an
expression or call a function for the frame that waits already, or to do so for a new frame.
-/

namespace RollScript

/-- A computation that waits for a value. Values collected so far are kept in reverse. -/
inductive Frame where
  /-- The whole evaluation waits for its result. -/
  | finish
  /-- An application waits for its callee. -/
  | callee (argument : Expr) (env : Env)
  /-- A call waits for its argument. -/
  | argument (f : Function)
  /-- An array literal waits for an element, with more to come. -/
  | element (done : List Value) (rest : List Expr) (env : Env)
  /-- A repetition waits for a value, with `left` more to come. -/
  | repetition (done : List Value) (left : Nat) (expr : Expr) (env : Env)
  /-- An array waits for an index. -/
  | index (items : List Value)
  /-- A block waits for the value of a name, with more definitions to come. -/
  | definition (done : List (Text × Entry)) (name : Text) (rest : List (Text × Expr))
      (body : Expr) (env : Env)
  /-- A choice waits for its condition. -/
  | branch (whenTrue whenFalse : Expr) (env : Env)
  /-- `map` waits for an element's image. -/
  | mapped (f : Function) (done rest : List Value)
  /-- `reduce` waits for the function that takes the next item. -/
  | combining (f : Function) (item : Value) (rest : List Value)
  /-- `reduce` waits for the next accumulated value. -/
  | combined (f : Function) (rest : List Value)
  /-- `drop` waits for the values to remove. -/
  | selected (items : List Value)
  /-- `reroll` waits for a roll, its `attempts`-th. -/
  | rolled (roll accept : Function) (attempts : Nat)
  /-- `reroll` waits for the verdict on a roll. -/
  | judged (roll accept : Function) (attempts : Nat) (result : Value)
  /-- `explode` waits for a roll, with `left` base rolls to come. -/
  | exploded (roll again : Function) (done : List Value) (left : Nat)
  /-- `explode` waits for the verdict on its last roll. -/
  | repeated (roll again : Function) (done : List Value) (left : Nat)
  /-- A function of the host waits, with what it has saved. -/
  | host (id : Nat) (saved : List Value)

/-- What is asked of the machine. -/
inductive Request where
  /-- Delivers a value to the waiting frame. -/
  | produce (v : Value)
  /-- Evaluates an expression for the waiting frame. -/
  | evaluate (expr : Expr) (env : Env)
  /-- Evaluates an expression for a new frame. -/
  | push (expr : Expr) (env : Env) (frame : Frame)
  /-- Calls a function for the waiting frame. -/
  | invoke (f : Function) (argument : Value)
  /-- Calls a function for a new frame. -/
  | call (f : Function) (argument : Value) (frame : Frame)

/-- The world around an evaluation, with states of type `ω`: random bits, functions of the host, and
room for activations that are nested. -/
structure World (ω : Type) where
  /-- The next number of a given width in bits. -/
  draw : Nat → ω → Option (Nat × ω)
  /-- Calls a function of the host. -/
  call : Nat → List Value → ω → Except Stop (List Request) × ω
  /-- Goes on with a function of the host that has waited for a value. -/
  resume : Nat → List Value → Value → ω → Except Stop (List Request) × ω
  /-- How many activations may be nested: those of functions that call others before they return, and
  those of definitions of functions that follow each other in a block. -/
  room : Nat

end RollScript
