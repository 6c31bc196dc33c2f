import TaskNet.Emission
import TaskNet.Knowledge.Base

/-!
# Reading entities

A reading is a knowledge base together with the rule for relations that take one target but have
several: a strict reading fails there, any other takes the first target and gives a warning. This
module reads what all forms need: labels, single targets and argument lists.
-/

namespace TaskNet

/-- A knowledge base that forms are read from. -/
structure Reading where
  /-- Where labels, comments and relations are looked up. -/
  knowledge : KnowledgeBase
  /-- Whether several targets of a relation that takes one are an error. -/
  strict : Bool := false

namespace Reading

/-- The label of an entity, without which it cannot be named in a form. -/
def label (reading : Reading) (entity : EntityId) : Emission String :=
  match reading.knowledge.label entity with
  | some label => pure label
  | none => .fail (.missingLabel (reading.knowledge.describe entity))

theorem outcome_label_eq_ok_iff {reading : Reading} {entity : EntityId} {label : String} :
    (reading.label entity).outcome = .ok label ↔ reading.knowledge.label entity = some label := by
  unfold Reading.label
  split
  · next other hother =>
    rw [hother, Emission.pure_eq, Except.ok.injEq, Option.some.injEq]
  · next hnone =>
    rw [hnone]
    exact iff_of_false nofun nofun

/-- What a comment yields, with a fault put down to the entity. -/
def blame {α : Type} (reading : Reading) (entity : EntityId) :
    Except CommentFault α → Emission α
  | .ok value => pure value
  | .error fault => .fail (.malformedComment (reading.knowledge.describe entity) fault)

/-- What is read from the comment of an entity, which has to have one. -/
def fromComment {α : Type} (reading : Reading) (entity : EntityId)
    (read : String → Except CommentFault α) : Emission α :=
  reading.blame entity <|
    match reading.knowledge.comment entity with
    | some comment => read comment
    | none => .error .absent

theorem outcome_fromComment_eq_ok_iff {α : Type} {reading : Reading} {entity : EntityId}
    {read : String → Except CommentFault α} {value : α} :
    (reading.fromComment entity read).outcome = .ok value ↔
      ∃ comment, reading.knowledge.comment entity = some comment ∧ read comment = .ok value := by
  unfold fromComment
  cases reading.knowledge.comment entity with
  | none => exact iff_of_false nofun nofun
  | some comment =>
    simp only [Option.some.injEq, exists_eq_left']
    cases read comment with
    | error fault => exact iff_of_false nofun nofun
    | ok other => simp only [blame, Emission.pure_eq, Except.ok.injEq]

/-- The target of a relation that takes one. -/
def single (reading : Reading) (entity : EntityId) (relation : Relation) :
    Emission (Option EntityId) := do
  let targets := reading.knowledge.related entity relation
  if 1 < targets.length then
    let name := reading.knowledge.describe entity
    if reading.strict then
      Emission.fail (.ambiguous name relation targets.length)
    Emission.warn (.severalTargets name relation targets.length)
  return targets.head?

/-- Of several targets the first is taken, unless the reading is strict. -/
theorem outcome_single (reading : Reading) (entity : EntityId) (relation : Relation) :
    (reading.single entity relation).outcome =
      if 1 < (reading.knowledge.related entity relation).length ∧ reading.strict then
        .error (.ambiguous (reading.knowledge.describe entity) relation
          (reading.knowledge.related entity relation).length)
      else .ok (reading.knowledge.related entity relation).head? := by
  by_cases hseveral : 1 < (reading.knowledge.related entity relation).length
  · cases hstrict : reading.strict with
    | false => simp [single, hseveral, hstrict, Emission.warn]
    | true => simp [single, hseveral, hstrict, Emission.fail]
  · simp [single, hseveral]

/-- Of the targets of a relation that takes one, the first is taken. -/
theorem eq_head?_of_single {reading : Reading} {entity : EntityId} {relation : Relation}
    {target : Option EntityId} (h : (reading.single entity relation).outcome = .ok target) :
    target = (reading.knowledge.related entity relation).head? := by
  rw [outcome_single] at h
  split at h
  · cases h
  · exact (Except.ok.inj h).symm

/-- The argument list of a kind from the comment of an entity, as it is written. -/
def listed (reading : Reading) (entity : EntityId) (kind : ListKind) :
    Emission (List String) := do
  let tokens ← reading.fromComment entity (ArgumentList.extract kind)
  return tokens.map kind.written

/-- The argument list of a kind, but no arguments at all unless the relation has a target. -/
def arguments (reading : Reading) (entity : EntityId) (relation : Relation) (kind : ListKind) :
    Emission (List String) :=
  if reading.knowledge.related entity relation = [] then pure []
  else reading.listed entity kind

/-- The rule of the reading on one line, for logs. -/
def ruleText (reading : Reading) : String :=
  "Emitter \x7b strict_ambiguity: " ++ (if reading.strict then "true" else "false") ++ ", .. \x7d"

end Reading

end TaskNet
