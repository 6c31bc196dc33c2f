import TaskNet.Document.Graph
import TaskNet.Proofs.Sayings
import TaskNet.Rdf.Graph

/-!
# What loaders say

Loading a document of records says first of every record what it says of its own entity, and then
what all records say of their relations. Loading statements says what each statement of use says,
one after the other. So a document and its statements say the same, but they mention it in
different orders.
-/

namespace TaskNet

/-! ### Documents of records -/

namespace EntityRecord

/-- What a record says of its own entity. Class names that mark no definition say nothing. -/
def remarks (settings : Settings) (record : EntityRecord) : List Remark :=
  record.label.toList.map .label ++ record.comment.toList.map .comment ++
    ((record.types.map settings.classify).filter (· ≠ .other)).map .kind

/-- The relations of a record that are in the vocabulary. -/
def links (record : EntityRecord) : List Remark :=
  record.relations.filterMap fun link =>
    (Relation.ofName? link.relation).map fun relation => .link relation (.named link.target)

/-- Remarks as sayings about the entity of a record. -/
def about (record : EntityRecord) (remarks : List Remark) : List Saying :=
  remarks.map (⟨.named record.id, ·⟩)

end EntityRecord

namespace KnowledgeDocument

/-- All relations of a document are in the vocabulary. -/
def InVocabulary (document : KnowledgeDocument) : Prop :=
  ∀ record ∈ document.entities, ∀ link ∈ record.relations,
    (Relation.ofName? link.relation).isSome

instance (document : KnowledgeDocument) : Decidable document.InVocabulary :=
  inferInstanceAs (Decidable (∀ record ∈ document.entities, ∀ link ∈ record.relations,
    (Relation.ofName? link.relation).isSome))

/-- What is said when a document is loaded: the presence of all records comes first, and relations
come last. -/
def sayings (settings : Settings) (document : KnowledgeDocument) : List Saying :=
  (document.entities.flatMap fun record => record.about (.presence :: record.remarks settings)) ++
    document.entities.flatMap fun record => record.about record.links

end KnowledgeDocument

namespace Draft

section

variable {draft : Draft} {subject : Identifier} {id : EntityId}

/-- Of what is found, kinds are said by setting them. -/
theorem foldl_setKind_eq_foldl_say (h : draft.find? subject = some id) (kinds : List EntityKind) :
    kinds.foldl (fun draft kind => draft.setKind id kind) draft =
      ((kinds.map Remark.kind).map (⟨subject, ·⟩)).foldl say draft := by
  induction kinds generalizing draft with
  | nil => rfl
  | cons kind rest ih =>
    have hsay : draft.say ⟨subject, .kind kind⟩ = draft.setKind id kind := by
      simp only [say, mention_of_find?_eq_some h]
    rw [List.foldl_cons, List.map_cons, List.map_cons, List.foldl_cons, hsay]
    exact ih h

theorem elim_setLabel_eq_foldl_say (h : draft.find? subject = some id) (label : Option String) :
    label.elim draft (draft.setLabel id) =
      ((label.toList.map Remark.label).map (⟨subject, ·⟩)).foldl say draft := by
  cases label with
  | none => rfl
  | some text => simp [say, mention_of_find?_eq_some h]

theorem elim_setComment_eq_foldl_say (h : draft.find? subject = some id)
    (comment : Option String) :
    comment.elim draft (draft.setComment id) =
      ((comment.toList.map Remark.comment).map (⟨subject, ·⟩)).foldl say draft := by
  cases comment with
  | none => rfl
  | some text => simp [say, mention_of_find?_eq_some h]

/-- Describing an entity says that it is there, and then everything that its record says of it. -/
theorem describe_eq_foldl_say (settings : Settings) (draft : Draft) (record : EntityRecord) :
    draft.describe settings record =
      (record.about (.presence :: record.remarks settings)).foldl say draft := by
  have hmention := find?_mention draft (.named record.id)
  have hlabeled : (record.label.elim (draft.mention (.named record.id)).2
      ((draft.mention (.named record.id)).2.setLabel (draft.mention (.named record.id)).1)).find?
        (.named record.id) = some (draft.mention (.named record.id)).1 := by
    cases record.label with
    | none => exact hmention
    | some text => exact hmention
  have hcommented {draft : Draft} {id : EntityId}
      (h : draft.find? (.named record.id) = some id) :
      (record.comment.elim draft (draft.setComment id)).find? (.named record.id) = some id := by
    cases record.comment with
    | none => exact h
    | some text => exact h
  have hpresence : draft.say ⟨.named record.id, .presence⟩ =
      (draft.mention (.named record.id)).2 := rfl
  unfold EntityRecord.about EntityRecord.remarks
  simp only [List.map_cons, List.map_append, List.foldl_cons, List.foldl_append]
  rw [hpresence, ← elim_setLabel_eq_foldl_say hmention, ← elim_setComment_eq_foldl_say hlabeled,
    ← foldl_setKind_eq_foldl_say (hcommented hlabeled)]
  rfl

/-- Connecting entities says what a record says of its relations. -/
theorem foldlM_connect_eq_foldl_say (draft : Draft) {record : EntityRecord}
    (hvocabulary : ∀ link ∈ record.relations, (Relation.ofName? link.relation).isSome) :
    record.relations.foldlM (connect record) draft =
      .ok ((record.about record.links).foldl say draft) := by
  unfold EntityRecord.about EntityRecord.links
  revert hvocabulary
  generalize record.relations = relations
  induction relations generalizing draft with
  | nil => exact fun _ => rfl
  | cons link rest ih =>
    intro hvocabulary
    obtain ⟨hlink, hrest⟩ := List.forall_mem_cons.1 hvocabulary
    obtain ⟨relation, hrelation⟩ := Option.isSome_iff_exists.1 hlink
    have hconnect : draft.connect record link =
        .ok (draft.say ⟨.named record.id, .link relation (.named link.target)⟩) := by
      simp only [connect, hrelation, say]
    rw [List.foldlM_cons, hconnect, List.filterMap_cons_some (by rw [hrelation]; rfl),
      List.map_cons, List.foldl_cons]
    exact ih _ hrest

end

end Draft

/-- A document whose relations are in the vocabulary is loaded by saying all that it says. -/
theorem KnowledgeDocument.graph_eq (settings : Settings) {document : KnowledgeDocument}
    (hvocabulary : document.InVocabulary) : document.graph settings =
      .ok ((document.sayings settings).foldl Draft.say Draft.empty).freeze := by
  have hdeclared (records : List EntityRecord) (draft : Draft) :
      records.foldl (Draft.describe settings) draft =
        (records.flatMap fun record =>
          record.about (.presence :: record.remarks settings)).foldl Draft.say draft := by
    rw [List.foldl_flatMap]
    congr 1
    funext draft record
    exact Draft.describe_eq_foldl_say settings draft record
  have hconnected (records : List EntityRecord) (draft : Draft)
      (hrecords : ∀ record ∈ records, ∀ link ∈ record.relations,
        (Relation.ofName? link.relation).isSome) :
      records.foldlM (fun draft record => record.relations.foldlM (Draft.connect record) draft)
        draft = (.ok ((records.flatMap fun record =>
          record.about record.links).foldl Draft.say draft) : Except LoadError Draft) := by
    induction records generalizing draft with
    | nil => rfl
    | cons record rest ih =>
      obtain ⟨hrecord, hrest⟩ := List.forall_mem_cons.1 hrecords
      rw [List.foldlM_cons, Draft.foldlM_connect_eq_foldl_say draft hrecord, List.flatMap_cons,
        List.foldl_append]
      exact ih _ hrest
  unfold KnowledgeDocument.graph KnowledgeDocument.sayings
  simp only [hdeclared, hconnected _ _ hvocabulary, List.foldl_append]
  rfl

/-! ### Statements -/

namespace Rdf

/-- What is said by a statement of use. -/
def Use.remark : Use → Remark
  | .label text => .label text
  | .comment text => .comment text
  | .kind value => .kind value
  | .relation name object => .link name object.identifier

/-- What a statement says that is of use, if anything. -/
def Statement.saying? (settings : Settings) (statement : Statement) : Option Saying :=
  (statement.use? settings).map fun use => ⟨statement.subject.identifier, use.remark⟩

theorem draft_add (settings : Settings) (progress : Progress) (statement : Statement) :
    (progress.add settings statement).draft =
      (statement.saying? settings).elim progress.draft progress.draft.say := by
  unfold Progress.add Statement.saying?
  cases statement.use? settings with
  | none => simp only [Option.map_none, Option.elim_none]
  | some use =>
    simp only [Option.map_some, Option.elim_some, Node.identifier_spelling]
    cases use <;> rfl

/-- Adding statements says what those of use say. -/
theorem draft_foldl_add (settings : Settings) (progress : Progress) (statements : List Statement) :
    (statements.foldl (Progress.add settings) progress).draft =
      (statements.filterMap (Statement.saying? settings)).foldl Draft.say progress.draft := by
  induction statements generalizing progress with
  | nil => rfl
  | cons statement rest ih =>
    rw [List.foldl_cons, ih, draft_add]
    cases hsaying : statement.saying? settings with
    | none => rw [List.filterMap_cons_none hsaying, Option.elim_none]
    | some saying => rw [List.filterMap_cons_some hsaying, Option.elim_some, List.foldl_cons]

/-- Statements are loaded by saying what those of use say. -/
theorem graph_load (settings : Settings) (statements : List Statement) :
    (load settings statements).graph =
      ((statements.filterMap (Statement.saying? settings)).foldl Draft.say Draft.empty).freeze :=
  congrArg Draft.freeze (draft_foldl_add settings {} statements)

end Rdf

end TaskNet
