import TaskNet.Entity
import TaskNet.Relation

/-!
# Knowledge bases

A knowledge base is known only by five lookups. Everything that is rendered is read through them,
so two knowledge bases that answer alike are rendered alike.
-/

namespace TaskNet

/-- Read access to a planning knowledge base. -/
structure KnowledgeBase where
  /-- The entities of a kind, in the order of their numbers. -/
  entitiesOfKind : EntityKind → List EntityId
  /-- The targets of a relation on an entity, in the order in which they were stated. -/
  related : EntityId → Relation → List EntityId
  /-- The display label of an entity. -/
  label : EntityId → Option String
  /-- The comment of an entity. -/
  comment : EntityId → Option String
  /-- The name by which an entity is shown, usually its IRI. -/
  iri : EntityId → Option String

/-- How messages refer to an entity: by its name, or by its number if it has none. -/
def KnowledgeBase.describe (knowledge : KnowledgeBase) (entity : EntityId) : String :=
  (knowledge.iri entity).getD entity.text

end TaskNet
