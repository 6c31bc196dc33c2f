import TaskNet.Form.Clause

/-!
# Definitions

The two top-level forms: a domain with the clauses of its methods and operators, and a problem
with its initial states and the tasks of its goals.
-/

namespace TaskNet

/-- A planning domain. -/
structure DomainForm where
  /-- The name of the domain. -/
  name : String
  /-- The clauses of the methods. -/
  methods : List MethodClause
  /-- The clauses of the operators. -/
  operators : List OperatorClause
deriving DecidableEq, Repr

namespace DomainForm

/-- The clauses of the domain as they are written: methods come before operators. -/
def clauseTexts (form : DomainForm) : List String :=
  form.methods.map MethodClause.text ++ form.operators.map OperatorClause.text

/-- The domain as it is written, every clause on lines of its own. -/
def text (form : DomainForm) : String :=
  "(defdomain " ++ form.name ++ " (" ++
    String.join (form.clauseTexts.map fun clause => "\n" ++ clause ++ "\n") ++ "))\n"

end DomainForm

/-- A planning problem. -/
structure ProblemForm where
  /-- The name of the problem. -/
  name : String
  /-- The name of its domain. -/
  domain : String
  /-- What holds in each initial state. -/
  initialStates : List (List Literal)
  /-- The tasks of each goal. -/
  goals : List (List Call)
deriving DecidableEq, Repr

/-- The problem as it is written: a line for its names, a line for every initial state, and the
tasks of all goals. -/
def ProblemForm.text (form : ProblemForm) : String :=
  "(defproblem " ++ form.name ++ " " ++ form.domain ++ "\n" ++
    String.join (form.initialStates.map fun state => Literal.group state ++ "\n") ++
    String.join (form.goals.map (Call.textAll .method)) ++ ")\n"

end TaskNet
