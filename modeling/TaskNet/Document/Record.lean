import TaskNet.Json.Reader
import TaskNet.Json.Record

/-!
# Knowledge documents

A knowledge document lists records of entities: each with an identifier, and if need be with a
label, a comment, class names and relations to other identifiers. Documents are kept as JSON.
-/

namespace TaskNet

open Json (Value Fields)

/-- A relation from the entity of a record to another one. -/
structure RelationRecord where
  /-- The name of the relation. -/
  relation : String
  /-- The identifier of the other entity. -/
  target : String
deriving DecidableEq, Repr

/-- What a document says about an entity in one place. -/
structure EntityRecord where
  /-- The identifier of the entity. -/
  id : String
  /-- The label, if the record gives one. -/
  label : Option String := none
  /-- The comment, if the record gives one. -/
  comment : Option String := none
  /-- The names of the classes that the entity belongs to. -/
  types : List String := []
  /-- The relations of the entity. -/
  relations : List RelationRecord := []
deriving DecidableEq, Repr

/-- A list of records. -/
structure KnowledgeDocument where
  /-- The records, in order. -/
  entities : List EntityRecord := []
deriving DecidableEq, Repr

namespace RelationRecord

/-- A relation record as a JSON value. -/
def toJson (record : RelationRecord) : Value :=
  .object [("relation", .string record.relation), ("target", .string record.target)]

/-- The relation record that a JSON value describes. -/
def ofJson? (value : Value) : Option RelationRecord := do
  let fields ← Fields.ofValue? ["relation", "target"] true value
  let relation ← fields.required "relation" Value.asString?
  let target ← fields.required "target" Value.asString?
  return { relation, target }

end RelationRecord

namespace EntityRecord

/-- An entity record as a JSON value. What the record does not give is left out. -/
def toJson (record : EntityRecord) : Value :=
  .object <|
    [("id", .string record.id)] ++
    (record.label.map fun label => ("label", .string label)).toList ++
    (record.comment.map fun comment => ("comment", .string comment)).toList ++
    (if record.types = [] then [] else [("types", .array (record.types.map .string))]) ++
    (if record.relations = [] then []
      else [("relations", .array (record.relations.map RelationRecord.toJson))])

/-- The entity record that a JSON value describes. -/
def ofJson? (value : Value) : Option EntityRecord := do
  let fields ← Fields.ofValue? ["id", "label", "comment", "types", "relations"] true value
  let id ← fields.required "id" Value.asString?
  let label ← fields.withDefault "label" none (Value.asOption? Value.asString?)
  let comment ← fields.withDefault "comment" none (Value.asOption? Value.asString?)
  let types ← fields.withDefault "types" [] (Value.asList? Value.asString?)
  let relations ← fields.withDefault "relations" [] (Value.asList? RelationRecord.ofJson?)
  return { id, label, comment, types, relations }

end EntityRecord

namespace KnowledgeDocument

/-- A document as a JSON value. -/
def toJson (document : KnowledgeDocument) : Value :=
  .object [("entities", .array (document.entities.map EntityRecord.toJson))]

/-- The document that a JSON value describes. -/
def ofJson? (value : Value) : Option KnowledgeDocument := do
  let fields ← Fields.ofValue? ["entities"] true value
  let entities ← fields.required "entities" (Value.asList? EntityRecord.ofJson?)
  return { entities }

/-- The document that a text spells. -/
def parse? (text : List Char) : Option KnowledgeDocument :=
  (Value.parse? text).bind ofJson?

end KnowledgeDocument

end TaskNet
