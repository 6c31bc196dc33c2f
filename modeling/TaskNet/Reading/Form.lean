import TaskNet.Form.Definition
import TaskNet.Reading.Basic

/-!
# Reading forms

Literals, calls, clauses and definitions are read from the entities that stand for them. A literal
may be a negation of another predicate, and a predicate, method or operator may specialize a
generic one: then the generic one gives the name and the entity itself the arguments. The order in
which labels, comments and relations are looked at decides which of several faults is reported.
-/

namespace TaskNet

/-- Whether a precondition with this label binds the objects that others range over: the part of
the label in front of its first dash is `predicate`. -/
def isTypeFilter (label : String) : Bool :=
  label.toList.takeWhile (· ≠ '-') = "predicate".toList

namespace TaskKind

/-- The relation from a task to the generic task that it specializes. -/
def specialization : TaskKind → Relation
  | method => .meSpecializationOf
  | operator => .opSpecializationOf

/-- The relation from a task to its parameters. -/
def parameters : TaskKind → Relation
  | method => .meHasParameter
  | operator => .opHasParameter

/-- The relation from a specialized task to its objects. -/
def objects : TaskKind → Relation
  | method => .meHasObject
  | operator => .opHasObject

end TaskKind

namespace Reading

/-- The predicate that an entity stands for, its own negation apart. -/
def positive (reading : Reading) (predicate : EntityId) : Emission Literal := do
  match ← reading.single predicate .prSpecializationOf with
  | none =>
    let name ← reading.label predicate
    let arguments ← reading.arguments predicate .prHasParameter .parameters
    return { name, arguments }
  | some generic =>
    let name ← reading.label generic
    let arguments ←
      match ← reading.fromComment predicate ArgumentList.mode with
      | .objects => reading.arguments predicate .prHasObject .objects
      | .parameters => reading.arguments predicate .prHasParameter .parameters
      | .mixed => reading.listed predicate .mixed
    return { name, arguments }

/-- The literal that an entity stands for. An entity that is the negative of another one stands for
the negation of what that one is apart from its own negation. -/
def literal (reading : Reading) (predicate : EntityId) : Emission Literal := do
  match ← reading.single predicate .negativeOf with
  | some counterpart =>
    let literal ← reading.positive counterpart
    return { literal with negated := true }
  | none => reading.positive predicate

/-- The literals that entities stand for. -/
def literals (reading : Reading) (predicates : List EntityId) : Emission (List Literal) :=
  Emission.forEach reading.literal predicates

/-- The call that an entity stands for. -/
def call (reading : Reading) (kind : TaskKind) (task : EntityId) : Emission Call := do
  match ← reading.single task kind.specialization with
  | none =>
    let name ← reading.label task
    let arguments ← reading.arguments task kind.parameters .parameters
    return { name, arguments }
  | some generic =>
    let name ← reading.label generic
    let arguments ← reading.arguments task kind.objects .objects
    return { name, arguments }

/-- The calls that the targets of a relation stand for. -/
def calls (reading : Reading) (kind : TaskKind) (entity : EntityId) (relation : Relation) :
    Emission (List Call) :=
  Emission.forEach (reading.call kind) (reading.knowledge.related entity relation)

/-- A precondition, with the answer whether its own label makes it a type filter. -/
def precondition (reading : Reading) (predicate : EntityId) : Emission (Bool × Literal) := do
  let label ← reading.label predicate
  let literal ← reading.literal predicate
  return (isTypeFilter label, literal)

/-- The preconditions that the targets of a relation stand for: type filters first, and each of the
two groups in the order in which it was stated. -/
def preconditions (reading : Reading) (entity : EntityId) (relation : Relation) :
    Emission (List Literal) := do
  let entries ← Emission.forEach reading.precondition (reading.knowledge.related entity relation)
  let (filters, others) := entries.partition (·.1)
  return (filters ++ others).map (·.2)

/-- Type filters are taken out of the preconditions and put in front of the others. -/
theorem preconditions_eq_map (reading : Reading) (entity : EntityId) (relation : Relation) :
    reading.preconditions entity relation =
      (fun entries => (entries.filter (·.1) ++ entries.filter (!·.1)).map (·.2)) <$>
        Emission.forEach reading.precondition (reading.knowledge.related entity relation) := by
  simp only [preconditions, List.partition_eq_filter_filter, map_eq_pure_bind]
  rfl

/-- The head of the clauses of a task. Clauses define what they name, so a specialization does not
change the head. -/
def head (reading : Reading) (kind : TaskKind) (task : EntityId) : Emission Call := do
  let name ← reading.label task
  let arguments ← reading.arguments task kind.parameters .parameters
  return { name, arguments }

/-- The clause of one flow of a method. -/
def flow (reading : Reading) (head : Call) (flow : EntityId) : Emission MethodClause := do
  let preconditions ← reading.preconditions flow .mfHasPrecondition
  let methods ← reading.calls .method flow .hasPostconditionMe
  let operators ← reading.calls .operator flow .hasPostconditionOp
  return { head, preconditions, methods, operators }

/-- The clauses of a method, one for each of its flows. -/
def method (reading : Reading) (method : EntityId) : Emission (List MethodClause) := do
  let head ← reading.head .method method
  let flows := reading.knowledge.related method .hasFlow
  if flows = [] then
    Emission.warn (.noFlows (reading.knowledge.describe method))
  Emission.forEach (reading.flow head) flows

/-- The clause of an operator. -/
def operator (reading : Reading) (operator : EntityId) : Emission OperatorClause := do
  let head ← reading.head .operator operator
  let preconditions ← reading.preconditions operator .opHasPrecondition
  let deletes ← reading.literals (reading.knowledge.related operator .deletesPredicate)
  let adds ← reading.literals (reading.knowledge.related operator .addsPredicate)
  return { head, preconditions, deletes, adds }

/-- The domain that a domain definition stands for. -/
def domain (reading : Reading) (domain : EntityId) : Emission DomainForm := do
  let name ← reading.label domain
  let methods ← Emission.forEach reading.method (reading.knowledge.related domain .hasMethod)
  let operators ← Emission.forEach reading.operator (reading.knowledge.related domain .hasOperator)
  return { name, methods := methods.flatten, operators }

/-- The targets of a relation that needs at least one. -/
def required (reading : Reading) (entity : EntityId) (relation : Relation) :
    Emission (List EntityId) :=
  match reading.knowledge.related entity relation with
  | [] => .fail (.missingRelation (reading.knowledge.describe entity) relation)
  | targets => pure targets

/-- The literals of an initial state. -/
def initialState (reading : Reading) (state : EntityId) : Emission (List Literal) :=
  reading.literals (reading.knowledge.related state .hasPredicate)

/-- The tasks of a goal. -/
def goal (reading : Reading) (goal : EntityId) : Emission (List Call) :=
  reading.calls .method goal .consistsOfMethod

/-- The problem that a problem definition stands for. -/
def problem (reading : Reading) (problem : EntityId) : Emission ProblemForm := do
  let name ← reading.label problem
  let some domain ← reading.single problem .hasDomain
    | .fail (.missingRelation (reading.knowledge.describe problem) .hasDomain)
  let domainName ← reading.label domain
  let states ← reading.required problem .hasInitialState
  let goals ← reading.required problem .hasGoal
  let initialStates ← Emission.forEach reading.initialState states
  let goals ← Emission.forEach reading.goal goals
  return { name, domain := domainName, initialStates, goals }

end Reading

end TaskNet
