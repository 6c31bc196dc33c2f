import TaskNet.Document.Record
import TaskNet.Failure
import TaskNet.Knowledge.Draft
import TaskNet.Settings

/-!
# From documents to knowledge graphs

A document is read twice: first for its records, so that entities are numbered in the order of
their records, then for their relations, whose targets may have no record at all.
-/

namespace TaskNet

namespace Draft

/-- States what a record says about its entity alone. Class names that mark no definition have no
effect. -/
def describe (settings : Settings) (draft : Draft) (record : EntityRecord) : Draft :=
  let (id, draft) := draft.mention (.named record.id)
  let draft := record.label.elim draft (draft.setLabel id)
  let draft := record.comment.elim draft (draft.setComment id)
  let kinds := (record.types.map settings.classify).filter (· ≠ .other)
  kinds.foldl (fun draft kind => draft.setKind id kind) draft

/-- States one relation of a record. -/
def connect (record : EntityRecord) (draft : Draft) (link : RelationRecord) :
    Except LoadError Draft :=
  match Relation.ofName? link.relation with
  | none => .error (.unknownRelation record.id link.relation)
  | some relation =>
    let (subject, draft) := draft.mention (.named record.id)
    let (object, draft) := draft.mention (.named link.target)
    .ok (draft.relate subject relation object)

end Draft

/-- The knowledge graph of a document, unless a record uses a relation that is not in the
vocabulary. -/
def KnowledgeDocument.graph (document : KnowledgeDocument) (settings : Settings) :
    Except LoadError KnowledgeGraph := do
  let declared := document.entities.foldl (Draft.describe settings) Draft.empty
  let connected ← document.entities.foldlM (fun draft record =>
    record.relations.foldlM (Draft.connect record) draft) declared
  return connected.freeze

end TaskNet
