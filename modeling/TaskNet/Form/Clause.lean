import TaskNet.Form.Call

/-!
# Clauses

The clauses of a domain: one for every flow of a method, which says into which tasks the method
breaks down when its preconditions hold, and one for every operator, which says what the operator
deletes and adds.
-/

namespace TaskNet

/-- One way to carry out a method. -/
structure MethodClause where
  /-- The task that the clause is about. -/
  head : Call
  /-- What has to hold, in the order in which it is written. -/
  preconditions : List Literal
  /-- The methods to carry out. -/
  methods : List Call
  /-- The operators to carry out after them. -/
  operators : List Call
deriving DecidableEq, Repr

/-- The clause as it is written. Methods come before operators. -/
def MethodClause.text (clause : MethodClause) : String :=
  "(:method " ++ clause.head.text .method ++ "\n" ++ Literal.group clause.preconditions ++ "\n(" ++
    Call.textAll .method clause.methods ++ Call.textAll .operator clause.operators ++ "))"

/-- What an operator needs and does. -/
structure OperatorClause where
  /-- The operator that the clause is about. -/
  head : Call
  /-- What has to hold, in the order in which it is written. -/
  preconditions : List Literal
  /-- What no longer holds afterwards. -/
  deletes : List Literal
  /-- What holds afterwards. -/
  adds : List Literal
deriving DecidableEq, Repr

/-- The clause as it is written. -/
def OperatorClause.text (clause : OperatorClause) : String :=
  "(:operator " ++ clause.head.text .operator ++ "\n" ++ Literal.group clause.preconditions ++
    "\n" ++ Literal.group clause.deletes ++ "\n" ++ Literal.group clause.adds ++ ")"

end TaskNet
