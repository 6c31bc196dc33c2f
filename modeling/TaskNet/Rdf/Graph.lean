import TaskNet.Knowledge.Draft
import TaskNet.Rdf.Statement
import TaskNet.Settings

/-!
# From statements to knowledge graphs

A statement is used if it gives a node a label or a comment, marks it as a definition, or relates
it to another node by a property whose local name is a relation. All other statements are counted
and otherwise ignored.
-/

namespace TaskNet.Rdf

/-- What a statement says that is of use. -/
inductive Use where
  /-- Its subject has this label. -/
  | label (text : String)
  /-- Its subject has this comment. -/
  | comment (text : String)
  /-- Its subject is a definition of this kind. -/
  | kind (kind : EntityKind)
  /-- Its subject is related to this node. -/
  | relation (relation : Relation) (object : Node)
deriving DecidableEq, Repr

namespace Statement

/-- What a statement says that is of use, if anything. -/
def use? (settings : Settings) (statement : Statement) : Option Use :=
  if statement.predicate = Vocabulary.label then
    match statement.object with
    | .literal text => some (.label text)
    | .node _ => none
  else if statement.predicate = Vocabulary.comment then
    match statement.object with
    | .literal text => some (.comment text)
    | .node _ => none
  else if statement.predicate = Vocabulary.type then
    match statement.object with
    | .node (.iri name) =>
      let kind := settings.classify (localName name)
      if kind = .other then none else some (.kind kind)
    | _ => none
  else
    match Relation.ofIri? statement.predicate, statement.object with
    | some relation, .node object => some (.relation relation object)
    | _, _ => none

end Statement

/-! ### Loading -/

/-- The knowledge graph of a document and the number of statements that were of no use. -/
structure Loaded where
  /-- The knowledge graph. -/
  graph : KnowledgeGraph
  /-- How many statements were of no use. -/
  skipped : Nat

/-- What has been stated so far, and how many statements were of no use. -/
structure Progress where
  /-- What has been stated. -/
  draft : Draft := Draft.empty
  /-- How many statements were of no use. -/
  skipped : Nat := 0

/-- States what a statement says, if it is of use. Its subject is known by how it is written, and
its object by itself. -/
def Progress.add (settings : Settings) (progress : Progress) (statement : Statement) : Progress :=
  match statement.use? settings with
  | none => { progress with skipped := progress.skipped + 1 }
  | some use =>
    let (subject, draft) := progress.draft.mention statement.subject.spelling.identifier
    let draft := match use with
      | .label text => draft.setLabel subject text
      | .comment text => draft.setComment subject text
      | .kind kind => draft.setKind subject kind
      | .relation relation object =>
        let (object, draft) := draft.mention object.identifier
        draft.relate subject relation object
    { progress with draft }

/-- The knowledge graph of statements. -/
def load (settings : Settings) (statements : List Statement) : Loaded :=
  let progress := statements.foldl (Progress.add settings) {}
  { graph := progress.draft.freeze, skipped := progress.skipped }

end TaskNet.Rdf
