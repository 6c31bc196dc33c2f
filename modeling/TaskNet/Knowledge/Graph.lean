import TaskNet.Knowledge.Base

/-!
# Knowledge graphs

A knowledge graph is a knowledge base that is stored as plain data: the entities in the order of
their numbers, a table from what they are known by to their numbers, and the assertions between
them. The store yields assertions newest first; every look-up sorts what it finds by ordinal, so
that targets come in the order in which they were stated.
-/

namespace TaskNet

/-- What an assertion says apart from its two ends. -/
structure Link where
  /-- The relation that is asserted. -/
  relation : Relation
  /-- How many assertions were stated before this one, up to the largest ordinal. -/
  ordinal : Nat
deriving DecidableEq, Repr

/-- The statement that a relation holds between two entities. -/
structure Assertion where
  /-- The entity that the relation starts from. -/
  subject : EntityId
  /-- The relation that is asserted. -/
  relation : Relation
  /-- The entity that the relation leads to. -/
  object : EntityId
  /-- How many assertions were stated before this one, up to the largest ordinal. -/
  ordinal : Nat
deriving DecidableEq, Repr

namespace Assertion

/-- An assertion without its ends. -/
def link (assertion : Assertion) : Link :=
  ⟨assertion.relation, assertion.ordinal⟩

/-- The largest ordinal: ordinals are kept in 32 bits, and assertions beyond share this one. -/
def lastOrdinal : Nat := UInt32.size - 1

end Assertion

/-- A knowledge base as data: entity number `n` is described in slot `n - 1`. -/
structure KnowledgeGraph where
  /-- The profile of every entity, in the order of their numbers. -/
  profiles : Array Profile := #[]
  /-- The number of every entity under what it is known by; the first entry counts. -/
  numbers : List (Identifier × EntityId) := []
  /-- The assertions between existing entities, in the order in which the store yields them: the
  newest first. -/
  assertions : List Assertion := []
deriving DecidableEq, Repr

namespace KnowledgeGraph

/-- The number of entities. -/
def entityCount (graph : KnowledgeGraph) : Nat := graph.profiles.size

/-- The number of assertions. -/
def assertionCount (graph : KnowledgeGraph) : Nat := graph.assertions.length

/-- Whether the graph has an entity of this number. -/
def has (graph : KnowledgeGraph) (entity : EntityId) : Bool := entity.slot < graph.profiles.size

/-- Stores an assertion, unless the graph lacks one of its ends. -/
def store (graph : KnowledgeGraph) (assertion : Assertion) : KnowledgeGraph :=
  if graph.has assertion.subject && graph.has assertion.object then
    { graph with assertions := assertion :: graph.assertions }
  else graph

/-- The graph of these entities and of the assertions between them. -/
def assemble (profiles : Array Profile) (assertions : Array Assertion) : KnowledgeGraph :=
  let numbers := profiles.foldl (fun table profile => (profile.identifier, profile.id) :: table) []
  assertions.foldl store { profiles, numbers }

/-- Every entity number of the graph, in order. -/
def ids (graph : KnowledgeGraph) : List EntityId := EntityId.first graph.entityCount

/-- The profile of an entity, if the graph has the entity. -/
def profile? (graph : KnowledgeGraph) (entity : EntityId) : Option Profile :=
  graph.profiles[entity.slot]?

/-- The entity with this identifier. -/
def find? (graph : KnowledgeGraph) (identifier : Identifier) : Option EntityId :=
  graph.numbers.lookup identifier

/-- How many of the entities up to this one are anonymous. -/
def anonymousCount (graph : KnowledgeGraph) (entity : EntityId) : Nat :=
  (graph.profiles.toList.take entity.number).countP (·.identifier.isAnonymous)

/-- The name by which an entity is shown. Anonymous entities are counted in the order of their
numbers. No entity is found by such a name, and a document may use the same text for another
one. -/
def name? (graph : KnowledgeGraph) (entity : EntityId) : Option String :=
  (graph.profile? entity).map fun profile =>
    match profile.identifier with
    | .named text => text
    | .anonymous _ => "_:anon" ++ toString (graph.anonymousCount entity)

/-- The kind of an entity; what the graph does not have is of no special kind. -/
def kind (graph : KnowledgeGraph) (entity : EntityId) : EntityKind :=
  ((graph.profile? entity).map (·.kind)).getD .other

/-- The assertions about an entity, as the store yields them. -/
def outgoing (graph : KnowledgeGraph) (entity : EntityId) : List Assertion :=
  graph.assertions.filter (·.subject = entity)

/-- The targets of a relation on an entity, in the order in which they were stated. -/
def related (graph : KnowledgeGraph) (entity : EntityId) (relation : Relation) : List EntityId :=
  if graph.has entity then
    let hits := (graph.outgoing entity).filter (·.relation = relation)
    (hits.mergeSort fun hit other => hit.ordinal ≤ other.ordinal).map (·.object)
  else []

/-- The lookups of the graph. -/
def base (graph : KnowledgeGraph) : KnowledgeBase where
  entitiesOfKind kind := graph.ids.filter fun entity => graph.kind entity = kind
  related := graph.related
  label entity := (graph.profile? entity).bind (·.label)
  comment entity := (graph.profile? entity).bind (·.comment)
  iri := graph.name?

@[simp] theorem entitiesOfKind_base (graph : KnowledgeGraph) (kind : EntityKind) :
    graph.base.entitiesOfKind kind = graph.ids.filter fun entity => graph.kind entity = kind := rfl

@[simp] theorem related_base (graph : KnowledgeGraph) : graph.base.related = graph.related := rfl

@[simp] theorem label_base (graph : KnowledgeGraph) (entity : EntityId) :
    graph.base.label entity = (graph.profile? entity).bind (·.label) := rfl

@[simp] theorem comment_base (graph : KnowledgeGraph) (entity : EntityId) :
    graph.base.comment entity = (graph.profile? entity).bind (·.comment) := rfl

@[simp] theorem iri_base (graph : KnowledgeGraph) : graph.base.iri = graph.name? := rfl

/-- The size of a graph on one line, for logs. -/
def sizeText (graph : KnowledgeGraph) : String :=
  "KnowledgeSnapshot \x7b entities: " ++ toString graph.entityCount ++ ", assertions: " ++
    toString graph.assertionCount ++ " \x7d"

end KnowledgeGraph

end TaskNet
