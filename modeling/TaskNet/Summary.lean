import TaskNet.Knowledge.Base

/-!
# Summaries

A summary lists the definitions of a knowledge base with their labels and the numbers of their
parts, whether or not they can be rendered.
-/

namespace TaskNet

/-- A domain definition at a glance. -/
structure DomainSummary where
  /-- The number of the entity. -/
  id : Nat
  /-- The name by which the entity is shown. -/
  iri : String
  /-- The label of the entity. -/
  label : Option String
  /-- How many methods the domain lists. -/
  methods : Nat
  /-- How many operators the domain lists. -/
  operators : Nat
deriving DecidableEq, Repr

/-- A problem definition at a glance. -/
structure ProblemSummary where
  /-- The number of the entity. -/
  id : Nat
  /-- The name by which the entity is shown. -/
  iri : String
  /-- The label of the entity. -/
  label : Option String
  /-- The label of the first domain that the problem names. -/
  domain : Option String
  /-- How many initial states the problem lists. -/
  initialStates : Nat
  /-- How many goals the problem lists. -/
  goals : Nat
deriving DecidableEq, Repr

/-- The definitions of a knowledge base at a glance. -/
structure Summary where
  /-- The domain definitions. -/
  domains : List DomainSummary := []
  /-- The problem definitions. -/
  problems : List ProblemSummary := []
deriving DecidableEq, Repr

/-- The line that lists a domain. -/
def DomainSummary.line (domain : DomainSummary) : String :=
  "domain  " ++ domain.label.getD "<unlabeled>" ++ " (" ++ domain.iri ++ "): " ++
    toString domain.methods ++ " methods, " ++ toString domain.operators ++ " operators\n"

/-- The line that lists a problem. -/
def ProblemSummary.line (problem : ProblemSummary) : String :=
  "problem " ++ problem.label.getD "<unlabeled>" ++ " (" ++ problem.iri ++ "): domain " ++
    problem.domain.getD "<none>" ++ ", " ++ toString problem.initialStates ++
    " initial states, " ++ toString problem.goals ++ " goals\n"

/-- One line for every definition, domains first. -/
def Summary.text (summary : Summary) : String :=
  String.join (summary.domains.map DomainSummary.line) ++
    String.join (summary.problems.map ProblemSummary.line)

/-- The definitions of a knowledge base at a glance. -/
def KnowledgeBase.summary (knowledge : KnowledgeBase) : Summary where
  domains := (knowledge.entitiesOfKind .domain).map fun entity =>
    { id := entity.number
      iri := knowledge.describe entity
      label := knowledge.label entity
      methods := (knowledge.related entity .hasMethod).length
      operators := (knowledge.related entity .hasOperator).length }
  problems := (knowledge.entitiesOfKind .problem).map fun entity =>
    { id := entity.number
      iri := knowledge.describe entity
      label := knowledge.label entity
      domain := (knowledge.related entity .hasDomain).head?.bind knowledge.label
      initialStates := (knowledge.related entity .hasInitialState).length
      goals := (knowledge.related entity .hasGoal).length }

end TaskNet
