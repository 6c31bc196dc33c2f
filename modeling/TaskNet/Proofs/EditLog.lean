import Mathlib.Data.List.TakeWhile
import TaskNet.Proofs.Mentions

/-!
# Drafts and their logs

Everything that is done to a draft can be written down as a log. This module says in plain terms
what a log means: which identifiers it introduces, what it says of each of them, and what it
relates. A draft that was made by replaying a log represents it, whatever numbers the log uses.
-/

namespace TaskNet.Draft

/-- Something that is done to a draft. The numbers may be those of entities that do not exist, or
do not exist yet. -/
inductive Edit where
  /-- Mentions an identifier. -/
  | mention (identifier : Identifier)
  /-- Mentions an identifier and sets the label of its entity. -/
  | mentionLabeled (identifier : Identifier) (label : String)
  /-- Sets the label of an entity. -/
  | setLabel (id : EntityId) (label : String)
  /-- Sets the comment of an entity. -/
  | setComment (id : EntityId) (comment : String)
  /-- Sets the kind of an entity. -/
  | setKind (id : EntityId) (kind : EntityKind)
  /-- States a relation between two entities. -/
  | relate (subject : EntityId) (relation : Relation) (object : EntityId)
deriving DecidableEq, Repr

/-- The draft after one edit. -/
def apply (draft : Draft) : Edit → Draft
  | .mention identifier => (draft.mention identifier).2
  | .mentionLabeled identifier label => (draft.mentionLabeled identifier label).2
  | .setLabel id label => draft.setLabel id label
  | .setComment id comment => draft.setComment id comment
  | .setKind id kind => draft.setKind id kind
  | .relate subject relation object => draft.relate subject relation object

/-- The draft after all edits of a log. -/
def replay (log : List Edit) : Draft := log.foldl apply empty

/-! ### What a log says -/

namespace Edit

/-- The identifier that an edit mentions. -/
def mentioned? : Edit → Option Identifier
  | mention identifier => some identifier
  | mentionLabeled identifier _ => some identifier
  | _ => none

/-- The label that an edit gives to the entity with this number and this identifier. -/
def label? (id : EntityId) (identifier : Identifier) : Edit → Option String
  | mentionLabeled other label => if identifier = other then some label else none
  | setLabel other label => if id = other then some label else none
  | _ => none

/-- The comment that an edit gives to the entity with this number. -/
def comment? (id : EntityId) (_ : Identifier) : Edit → Option String
  | setComment other comment => if id = other then some comment else none
  | _ => none

/-- The kind that an edit gives to the entity with this number. -/
def kind? (id : EntityId) (_ : Identifier) : Edit → Option EntityKind
  | setKind other kind => if id = other then some kind else none
  | _ => none

/-- The relation that an edit states, with its subject in front and its object behind it. -/
def stated? : Edit → Option (EntityId × Relation × EntityId)
  | relate subject relation object => some (subject, relation, object)
  | _ => none

/-- The effect of an edit on an entity that exists. -/
def revise (edit : Edit) (profile : Profile) : Profile :=
  { profile with
    label := (edit.label? profile.id profile.identifier).or profile.label
    comment := (edit.comment? profile.id profile.identifier).or profile.comment
    kind := (edit.kind? profile.id profile.identifier).getD profile.kind }

end Edit

/-- The identifiers that a log mentions, in the order of their first mention. -/
def introduced (log : List Edit) : List Identifier := (log.filterMap Edit.mentioned?).eraseDups

/-- The part of a log that begins with the first mention of an identifier. -/
def since (identifier : Identifier) (log : List Edit) : List Edit :=
  log.dropWhile (·.mentioned? ≠ some identifier)

/-- The last value that a log gives to the entity with this number after it was introduced. -/
def lastSet {α : Type} (value? : EntityId → Identifier → Edit → Option α) (log : List Edit)
    (id : EntityId) : Option α :=
  (introduced log)[id.slot]?.bind fun identifier =>
    lastGiven (value? id identifier) (since identifier log)

/-- What a log says of an entity apart from its relations. -/
def profileIn (log : List Edit) (id : EntityId) (identifier : Identifier) : Profile where
  id := id
  identifier := identifier
  label := lastGiven (Edit.label? id identifier) (since identifier log)
  comment := lastGiven (Edit.comment? id identifier) (since identifier log)
  kind := (lastGiven (Edit.kind? id identifier) (since identifier log)).getD .other

/-- Whether a log introduces an entity with this number. -/
def introduces (log : List Edit) (id : EntityId) : Bool := id.slot < (introduced log).length

/-- The relations that a log states between entities that it introduces, before or after that. -/
def kept (log : List Edit) : List (EntityId × Relation × EntityId) :=
  (log.filterMap Edit.stated?).filter fun (subject, _, object) =>
    introduces log subject && introduces log object

/-- The entities to which a log relates an entity, in the order in which it states that. -/
def targets (log : List Edit) (entity : EntityId) (relation : Relation) : List EntityId :=
  ((kept log).filter fun (subject, stated, _) => subject = entity && stated = relation).map (·.2.2)

/-! ### One more edit -/

section

variable {log : List Edit} {edit : Edit} {identifier : Identifier}

theorem mem_introduced :
    identifier ∈ introduced log ↔ ∃ edit ∈ log, edit.mentioned? = some identifier := by
  rw [introduced, List.mem_eraseDups, List.mem_filterMap]

/-- Once an identifier is introduced, the log since then grows with every edit. -/
theorem since_append_of_mem (h : identifier ∈ introduced log) :
    since identifier (log ++ [edit]) = since identifier log ++ [edit] := by
  obtain ⟨first, hfirst, hmentioned⟩ := mem_introduced.1 h
  have hnonempty : since identifier log ≠ [] := by
    intro hnil
    have hall := List.dropWhile_eq_nil_iff.1 hnil first hfirst
    exact of_decide_eq_true hall hmentioned
  unfold since at hnonempty ⊢
  rw [List.dropWhile_append, if_neg]
  rwa [List.isEmpty_iff]

/-- A log begins for an identifier with the edit that introduces it. -/
theorem since_append_of_notMem (h : identifier ∉ introduced log)
    (hedit : edit.mentioned? = some identifier) : since identifier (log ++ [edit]) = [edit] := by
  have hnone : log.dropWhile (·.mentioned? ≠ some identifier) = [] := by
    rw [List.dropWhile_eq_nil_iff]
    intro other hother
    rw [decide_eq_true_eq]
    exact fun hmentioned => h (mem_introduced.2 ⟨other, hother, hmentioned⟩)
  rw [since, List.dropWhile_append, if_pos (List.isEmpty_iff.2 hnone)]
  simp [hedit]

/-- An edit has its effect on every entity that was introduced before. -/
theorem profileIn_append_of_mem (id : EntityId) (h : identifier ∈ introduced log) :
    profileIn (log ++ [edit]) id identifier = edit.revise (profileIn log id identifier) := by
  unfold profileIn Edit.revise
  simp only [since_append_of_mem h, lastGiven_append_singleton, Option.getD_or]

/-- The edit that introduces an entity has its effect on it, too. -/
theorem profileIn_append_of_notMem (id : EntityId) (h : identifier ∉ introduced log)
    (hedit : edit.mentioned? = some identifier) :
    profileIn (log ++ [edit]) id identifier = edit.revise { id, identifier } := by
  unfold profileIn Edit.revise
  simp only [since_append_of_notMem h hedit, lastGiven_singleton, Option.or_none]

end

end TaskNet.Draft
