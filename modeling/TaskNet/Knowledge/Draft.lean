import TaskNet.Knowledge.Graph

/-!
# Drafts

A draft collects what a document states, in any order, and is frozen into a knowledge graph. An
identifier becomes an entity when it is first mentioned. Labels, comments and kinds overwrite
earlier ones; on numbers that do not exist yet they have no effect. Assertions are kept in order,
and freezing drops those with an end that does not exist.
-/

namespace TaskNet

/-- What has been stated so far. -/
structure Draft where
  /-- The number of the entity that is mentioned next for the first time. -/
  next : EntityId := EntityId.ofSlot 0
  /-- The number of every entity that was mentioned; the first entry counts. -/
  numbers : List (Identifier × EntityId) := []
  /-- The profile of every entity that was mentioned, in the order of first mention. -/
  profiles : Array Profile := #[]
  /-- Every assertion that was stated, in order. -/
  assertions : Array Assertion := #[]

namespace Draft

/-- The draft in which nothing has been stated. -/
def empty : Draft := {}

/-- The entity with this identifier, if it has been mentioned. -/
def find? (draft : Draft) (identifier : Identifier) : Option EntityId :=
  draft.numbers.lookup identifier

/-- The entity with this identifier, new if it has not been mentioned before. -/
def mention (draft : Draft) (identifier : Identifier) : EntityId × Draft :=
  match draft.find? identifier with
  | some id => (id, draft)
  | none =>
    (draft.next,
      { draft with
        next := draft.next.next
        numbers := (identifier, draft.next) :: draft.numbers
        profiles := draft.profiles.push { id := draft.next, identifier } })

/-- Changes the profile of an entity, if the entity exists. -/
def update (draft : Draft) (id : EntityId) (change : Profile → Profile) : Draft :=
  { draft with profiles := draft.profiles.modify id.slot change }

/-- Sets the label of an entity. -/
def setLabel (draft : Draft) (id : EntityId) (label : String) : Draft :=
  draft.update id fun profile => { profile with label := some label }

/-- Sets the comment of an entity. -/
def setComment (draft : Draft) (id : EntityId) (comment : String) : Draft :=
  draft.update id fun profile => { profile with comment := some comment }

/-- Sets the kind of an entity. -/
def setKind (draft : Draft) (id : EntityId) (kind : EntityKind) : Draft :=
  draft.update id fun profile => { profile with kind }

/-- The entity with this identifier, which from now on has this label. -/
def mentionLabeled (draft : Draft) (identifier : Identifier) (label : String) :
    EntityId × Draft :=
  let (id, draft) := draft.mention identifier
  (id, draft.setLabel id label)

/-- States a relation between two entities, after everything stated so far. -/
def relate (draft : Draft) (subject : EntityId) (relation : Relation) (object : EntityId) :
    Draft :=
  let ordinal := min draft.assertions.size Assertion.lastOrdinal
  { draft with assertions := draft.assertions.push { subject, relation, object, ordinal } }

/-- The knowledge graph of everything stated between existing entities. -/
def freeze (draft : Draft) : KnowledgeGraph :=
  KnowledgeGraph.assemble draft.profiles draft.assertions

end Draft

end TaskNet
