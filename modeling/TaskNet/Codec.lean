import TaskNet.Json.Record
import TaskNet.Knowledge.Graph
import TaskNet.Settings
import TaskNet.Summary

/-!
# JSON forms of the domain types

How relations, entities, assertions, settings and summaries are written as JSON values and read
back. Entity numbers and counts take at most 64 binary digits, ordinals at most 32.
-/

namespace TaskNet

open Json (Value Fields)

namespace Relation

/-- A relation as a JSON value: its name. -/
def toJson (relation : Relation) : Value := .string relation.name

/-- The relation that a JSON value names. -/
def ofJson? : Value → Option Relation := Value.asName? ofName?

end Relation

namespace EntityId

/-- An entity number as a JSON value. -/
def toJson (id : EntityId) : Value := .natural id.number

/-- The entity number that a JSON value spells. -/
def ofJson? (value : Value) : Option EntityId := (value.asNatural? UInt64.size).bind ofNumber?

end EntityId

namespace EntityKind

/-- An entity kind as a JSON value: its name. -/
def toJson (kind : EntityKind) : Value := .string kind.name

/-- The entity kind that a JSON value names. -/
def ofJson? : Value → Option EntityKind := Value.asName? ofName?

end EntityKind

namespace Entity

/-- An entity as a JSON value. -/
def toJson (entity : Entity) : Value :=
  .object [("id", entity.id.toJson), ("iri", .string entity.iri), ("kind", entity.kind.toJson),
    ("label", .ofOption .string entity.label), ("comment", .ofOption .string entity.comment)]

/-- The entity that a JSON value describes. -/
def ofJson? (value : Value) : Option Entity := do
  let fields ← Fields.ofValue? ["id", "iri", "kind", "label", "comment"] false value
  let id ← fields.required "id" EntityId.ofJson?
  let iri ← fields.required "iri" Value.asString?
  let kind ← fields.required "kind" EntityKind.ofJson?
  let label ← fields.nullable "label" (Value.asOption? Value.asString?)
  let comment ← fields.nullable "comment" (Value.asOption? Value.asString?)
  return { id, iri, kind, label, comment }

end Entity

namespace Assertion

/-- An assertion as a JSON value. -/
def toJson (assertion : Assertion) : Value :=
  .object [("subject", assertion.subject.toJson), ("relation", assertion.relation.toJson),
    ("object", assertion.object.toJson), ("ordinal", .natural assertion.ordinal)]

/-- The assertion that a JSON value describes. -/
def ofJson? (value : Value) : Option Assertion := do
  let fields ← Fields.ofValue? ["subject", "relation", "object", "ordinal"] false value
  let subject ← fields.required "subject" EntityId.ofJson?
  let relation ← fields.required "relation" Relation.ofJson?
  let object ← fields.required "object" EntityId.ofJson?
  let ordinal ← fields.required "ordinal" (Value.asNatural? UInt32.size)
  return { subject, relation, object, ordinal }

end Assertion

namespace Link

/-- A link as a JSON value. -/
def toJson (link : Link) : Value :=
  .object [("relation", link.relation.toJson), ("ordinal", .natural link.ordinal)]

/-- The link that a JSON value describes. -/
def ofJson? (value : Value) : Option Link := do
  let fields ← Fields.ofValue? ["relation", "ordinal"] false value
  let relation ← fields.required "relation" Relation.ofJson?
  let ordinal ← fields.required "ordinal" (Value.asNatural? UInt32.size)
  return { relation, ordinal }

end Link

namespace Settings

/-- Settings as a JSON value. -/
def toJson (settings : Settings) : Value :=
  .object [("domain_type", .string settings.domainType),
    ("problem_type", .string settings.problemType),
    ("strict_ambiguity", .bool settings.strictAmbiguity), ("parallel", .bool settings.parallel)]

/-- The settings that a JSON value describes. What it does not give has its default. -/
def ofJson? (value : Value) : Option Settings := do
  let fields ←
    Fields.ofValue? ["domain_type", "problem_type", "strict_ambiguity", "parallel"] true value
  let default : Settings := {}
  let domainType ← fields.withDefault "domain_type" default.domainType Value.asString?
  let problemType ← fields.withDefault "problem_type" default.problemType Value.asString?
  let strictAmbiguity ←
    fields.withDefault "strict_ambiguity" default.strictAmbiguity Value.asBool?
  let parallel ← fields.withDefault "parallel" default.parallel Value.asBool?
  return { domainType, problemType, strictAmbiguity, parallel }

end Settings

namespace DomainSummary

/-- The summary of a domain as a JSON value. -/
def toJson (domain : DomainSummary) : Value :=
  .object [("id", .natural domain.id), ("iri", .string domain.iri),
    ("label", .ofOption .string domain.label), ("methods", .natural domain.methods),
    ("operators", .natural domain.operators)]

/-- The summary of a domain that a JSON value describes. -/
def ofJson? (value : Value) : Option DomainSummary := do
  let fields ← Fields.ofValue? ["id", "iri", "label", "methods", "operators"] false value
  let id ← fields.required "id" (Value.asNatural? UInt64.size)
  let iri ← fields.required "iri" Value.asString?
  let label ← fields.nullable "label" (Value.asOption? Value.asString?)
  let methods ← fields.required "methods" (Value.asNatural? UInt64.size)
  let operators ← fields.required "operators" (Value.asNatural? UInt64.size)
  return { id, iri, label, methods, operators }

end DomainSummary

namespace ProblemSummary

/-- The summary of a problem as a JSON value. -/
def toJson (problem : ProblemSummary) : Value :=
  .object [("id", .natural problem.id), ("iri", .string problem.iri),
    ("label", .ofOption .string problem.label), ("domain", .ofOption .string problem.domain),
    ("initial_states", .natural problem.initialStates), ("goals", .natural problem.goals)]

/-- The summary of a problem that a JSON value describes. -/
def ofJson? (value : Value) : Option ProblemSummary := do
  let fields ←
    Fields.ofValue? ["id", "iri", "label", "domain", "initial_states", "goals"] false value
  let id ← fields.required "id" (Value.asNatural? UInt64.size)
  let iri ← fields.required "iri" Value.asString?
  let label ← fields.nullable "label" (Value.asOption? Value.asString?)
  let domain ← fields.nullable "domain" (Value.asOption? Value.asString?)
  let initialStates ← fields.required "initial_states" (Value.asNatural? UInt64.size)
  let goals ← fields.required "goals" (Value.asNatural? UInt64.size)
  return { id, iri, label, domain, initialStates, goals }

end ProblemSummary

namespace Summary

/-- A summary as a JSON value. -/
def toJson (summary : Summary) : Value :=
  .object [("domains", .array (summary.domains.map DomainSummary.toJson)),
    ("problems", .array (summary.problems.map ProblemSummary.toJson))]

/-- The summary that a JSON value describes. -/
def ofJson? (value : Value) : Option Summary := do
  let fields ← Fields.ofValue? ["domains", "problems"] false value
  let domains ← fields.required "domains" (Value.asList? DomainSummary.ofJson?)
  let problems ← fields.required "problems" (Value.asList? ProblemSummary.ofJson?)
  return { domains, problems }

end Summary

end TaskNet
