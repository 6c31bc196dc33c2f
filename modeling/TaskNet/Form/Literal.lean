import TaskNet.ArgumentList

/-!
# Literals

A literal is a predicate with its arguments, possibly negated. It is written `(name ?x y)`, a
negated one `(not(name ?x y))`.
-/

namespace TaskNet

/-- A name with arguments in parentheses. -/
def application (name : String) (arguments : List String) : String :=
  "(" ++ name ++ spaced arguments ++ ")"

/-- A predicate that is stated, required, added or deleted. -/
structure Literal where
  /-- Whether the predicate is negated. -/
  negated : Bool := false
  /-- The name of the predicate. -/
  name : String
  /-- The arguments, as they are written. -/
  arguments : List String
deriving DecidableEq, Repr

namespace Literal

/-- The literal as it is written. -/
def text (literal : Literal) : String :=
  let positive := application literal.name literal.arguments
  if literal.negated then "(not" ++ positive ++ ")" else positive

/-- Literals written one directly after the other. -/
def textAll (literals : List Literal) : String := String.join (literals.map text)

/-- Literals in a pair of parentheses of their own. -/
def group (literals : List Literal) : String := "(" ++ textAll literals ++ ")"

end Literal

end TaskNet
