import RollScript.Main
import RollScript.Proofs.Evaluation.Refinement
import RollScript.Scope.Store
import RollScript.Token.Lexer
import RollScript.Proofs.Grammar.Reading
import RollScript.Proofs.Grammar.Acceptance
import RollScript.Proofs.Grammar.Derivation
import RollScript.Proofs.Grammar.Correspondence
import RollScript.Proofs.Grammar.Locality
import RollScript.Proofs.Grammar.Viability
import RollScript.Proofs.Grammar.FirstError
import RollScript.Proofs.Numbers.Packing
import RollScript.Proofs.Numbers.Rounding
import RollScript.Proofs.Numbers.Nearest
import RollScript.Proofs.Numbers.Digits
import RollScript.Proofs.Numbers.Numerals
import RollScript.Proofs.Printing.Literals
import RollScript.Proofs.Printing.Pieces
import RollScript.Proofs.Printing.Tokens
import RollScript.Proofs.Printing.Values
import RollScript.Proofs.Values.Equality
import RollScript.Proofs.Printing.ReadBack
import RollScript.Proofs.Evaluation.Stops
import RollScript.Proofs.Evaluation.Discipline
import RollScript.Proofs.Values.Likeness
import RollScript.Proofs.Evaluation.Likeness
import RollScript.Proofs.Evaluation.Simulation
import RollScript.Proofs.Evaluation.Arguments
import RollScript.Proofs.Evaluation.Keeping
import RollScript.Proofs.Evaluation.Fulfilment
import RollScript.Proofs.Grammar.Spans
import RollScript.Proofs.Evaluation.Blame
import RollScript.Proofs.Evaluation.Endings
import RollScript.Proofs.Hosting.Draws
import RollScript.Proofs.Hosting.Replies
import RollScript.Proofs.Hosting.Isolation
import RollScript.Proofs.Scopes.Machine
import RollScript.Proofs.Scopes.Course
import RollScript.Proofs.Scopes.Reading
import RollScript.Proofs.Scopes.Mirroring
import RollScript.Proofs.Scopes.Lockstep
import RollScript.Proofs.Scopes.Observation
import RollScript.Proofs.Evaluation.Tracing
import RollScript.Proofs.Names.Free
import RollScript.Proofs.Names.Dependence
import RollScript.Proofs.Names.Purity
import RollScript.Proofs.Grammar.Lexemes
import RollScript.Proofs.Grammar.Trivia
import RollScript.Proofs.Grammar.Relocation
import RollScript.Proofs.Grammar.Layout
import RollScript.Proofs.Grammar.Nesting
import RollScript.Proofs.Grammar.Words
import RollScript.Proofs.Grammar.Partition
import RollScript.Proofs.Grammar.Naming
import RollScript.Proofs.Evaluation.Custody
import RollScript.Proofs.Names.Operators
import RollScript.Proofs.Evaluation.Currying
import RollScript.Proofs.Evaluation.Activations
import RollScript.Proofs.Grammar.Lookahead
import RollScript.Proofs.Printing.Strings
import RollScript.Proofs.Numbers.Order
import RollScript.Proofs.Values.Equivalence
import RollScript.Proofs.Values.Difference
import RollScript.Proofs.Evaluation.Dropping
import RollScript.Proofs.Sorting.Permutation
import RollScript.Proofs.Numbers.Sorting
import RollScript.Proofs.Values.Numbers
import RollScript.Proofs.Numbers.Overflow
import RollScript.Proofs.Evaluation.Applications
import RollScript.Proofs.Evaluation.Selections
import RollScript.Proofs.Evaluation.Points
import RollScript.Proofs.Evaluation.Conversations
import RollScript.Proofs.Evaluation.Rerolling
import RollScript.Proofs.Evaluation.Exploding
import RollScript.Proofs.Evaluation.Folding
import RollScript.Proofs.Values.Structure
import RollScript.Proofs.Diagnostics.Lines
import RollScript.Proofs.Grammar.Calls
import RollScript.Proofs.Numbers.Whole
import RollScript.Proofs.Dice.Rolls
import RollScript.Proofs.Numbers.Unsigned
import RollScript.Proofs.Printing.Parentheses
import RollScript.Proofs.Printing.Surrogates
import RollScript.Proofs.Printing.Dumps
import RollScript.Proofs.Scopes.Histories
import RollScript.Proofs.Numbers.Neighbours
import RollScript.Proofs.Numbers.HalfUp
import RollScript.Proofs.Numbers.Powers
import RollScript.Proofs.Numbers.Shortest
import RollScript.Proofs.Numbers.Printed
