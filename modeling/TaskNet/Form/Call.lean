import TaskNet.Form.Literal

/-!
# Calls

A call names a task, that is a method or an operator, with its arguments. Operators are primitive
tasks, and their names are written behind an exclamation mark.
-/

namespace TaskNet

/-- The two kinds of tasks. -/
inductive TaskKind where
  /-- A task that methods break down into other tasks. -/
  | method
  /-- A primitive task. -/
  | operator
deriving DecidableEq, Repr

/-- What is written in front of the name of a task. -/
def TaskKind.marker : TaskKind → String
  | method => ""
  | operator => "!"

/-- A task with its arguments; its kind follows from the place where it stands. -/
structure Call where
  /-- The name of the task. -/
  name : String
  /-- The arguments, as they are written. -/
  arguments : List String
deriving DecidableEq, Repr

namespace Call

/-- The call of a task of this kind, as it is written. -/
def text (kind : TaskKind) (call : Call) : String :=
  application (kind.marker ++ call.name) call.arguments

/-- Calls written one directly after the other. -/
def textAll (kind : TaskKind) (calls : List Call) : String := String.join (calls.map (text kind))

end Call

end TaskNet
