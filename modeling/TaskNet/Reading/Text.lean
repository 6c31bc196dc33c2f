import TaskNet.Reading.Form

/-!
# Written forms

The text of everything that can be read from a knowledge base: what is read is written as it
stands, so a rendering fails and warns exactly when the reading does.
-/

namespace TaskNet.Reading

/-- A predicate as it is written. -/
def renderLiteral (reading : Reading) (predicate : EntityId) : Emission String :=
  Literal.text <$> reading.literal predicate

/-- Predicates as they are written, one directly after the other. -/
def renderLiterals (reading : Reading) (predicates : List EntityId) : Emission String :=
  Literal.textAll <$> reading.literals predicates

/-- The preconditions of an entity as they are written. -/
def renderPreconditions (reading : Reading) (entity : EntityId) (relation : Relation) :
    Emission String :=
  Literal.group <$> reading.preconditions entity relation

/-- A call as it is written. -/
def renderCall (reading : Reading) (kind : TaskKind) (task : EntityId) : Emission String :=
  Call.text kind <$> reading.call kind task

/-- The clauses of a method as they are written. -/
def renderMethod (reading : Reading) (method : EntityId) : Emission (List String) :=
  List.map MethodClause.text <$> reading.method method

/-- The clause of an operator as it is written. -/
def renderOperator (reading : Reading) (operator : EntityId) : Emission String :=
  OperatorClause.text <$> reading.operator operator

/-- A domain definition as it is written. -/
def renderDomain (reading : Reading) (domain : EntityId) : Emission String :=
  DomainForm.text <$> reading.domain domain

/-- A problem definition as it is written. -/
def renderProblem (reading : Reading) (problem : EntityId) : Emission String :=
  ProblemForm.text <$> reading.problem problem

/-- An initial state as it is written. -/
def renderInitialState (reading : Reading) (state : EntityId) : Emission String :=
  Literal.group <$> reading.initialState state

/-- A goal as it is written: its calls, in no parentheses of their own. -/
def renderGoal (reading : Reading) (goal : EntityId) : Emission String :=
  Call.textAll .method <$> reading.goal goal

end TaskNet.Reading
