import TaskNet.Proofs.Loading

/-!
# Documents of records as statements

Every fact in a document of records can be stated in a linked document: labels and comments by their
properties, class names and relations by IRIs with these local names. The statements of all facts,
record by record, say what the document says, with the same links in the same order. Only the order
in which identifiers are mentioned may be another one.
-/

namespace TaskNet

/-! ### Facts -/

/-- What a record gives of its entity. -/
inductive Fact where
  /-- Its label. -/
  | label (text : String)
  /-- Its comment. -/
  | comment (text : String)
  /-- A class that it belongs to. -/
  | type (name : String)
  /-- A relation to another entity. -/
  | relation (name target : String)
deriving DecidableEq, Repr

/-- The remark that a fact amounts to, if any. -/
def Fact.remark? (settings : Settings) : Fact → Option Remark
  | .label text => some (.label text)
  | .comment text => some (.comment text)
  | .type name =>
    if settings.classify name = .other then none else some (.kind (settings.classify name))
  | .relation name target =>
    (Relation.ofName? name).map fun relation => .link relation (.named target)

/-- The facts in a record, in order. -/
def EntityRecord.facts (record : EntityRecord) : List Fact :=
  record.label.toList.map .label ++ record.comment.toList.map .comment ++
    record.types.map .type ++ record.relations.map fun link => .relation link.relation link.target

/-- The facts in a document, each with the identifier that it is about. -/
def KnowledgeDocument.facts (document : KnowledgeDocument) : List (String × Fact) :=
  document.entities.flatMap fun record => record.facts.map (record.id, ·)

/-- A statement that states a fact, in any graph. -/
def Rdf.Statement.States (fact : String × Fact) (statement : Rdf.Statement) : Prop :=
  statement.subject.identifier = .named fact.1 ∧
    match fact.2 with
    | .label text =>
      statement.predicate = Rdf.Vocabulary.label ∧ statement.object = .literal text
    | .comment text =>
      statement.predicate = Rdf.Vocabulary.comment ∧ statement.object = .literal text
    | .type name =>
      statement.predicate = Rdf.Vocabulary.type ∧
        ∃ iri, statement.object = .node (.iri iri) ∧ localName iri = name
    | .relation name target =>
      localName statement.predicate = name ∧
        ∃ node, statement.object = .node node ∧ node.identifier = .named target

/-! ### Statements say what the facts amount to -/

namespace Rdf

theorem ofIri?_label : Relation.ofIri? Vocabulary.label = none := by decide

theorem ofIri?_comment : Relation.ofIri? Vocabulary.comment = none := by decide

theorem ofIri?_type : Relation.ofIri? Vocabulary.type = none := by decide

/-- A property that is a relation is none of the properties with a meaning of their own. -/
theorem use?_of_relation {settings : Settings} {statement : Statement} {relation : Relation}
    {object : Node} (hrelation : Relation.ofIri? statement.predicate = some relation)
    (hobject : statement.object = .node object) :
    statement.use? settings = some (.relation relation object) := by
  have hlabel : statement.predicate ≠ Vocabulary.label := by
    intro heq
    rw [heq, ofIri?_label] at hrelation
    cases hrelation
  have hcomment : statement.predicate ≠ Vocabulary.comment := by
    intro heq
    rw [heq, ofIri?_comment] at hrelation
    cases hrelation
  have htype : statement.predicate ≠ Vocabulary.type := by
    intro heq
    rw [heq, ofIri?_type] at hrelation
    cases hrelation
  unfold Statement.use?
  simp only [if_neg hlabel, if_neg hcomment, if_neg htype, hrelation, hobject]

theorem Statement.States.saying?_eq {settings : Settings} {subject : String} {fact : Fact}
    {statement : Statement} (h : statement.States (subject, fact))
    (hvocabulary : ∀ name target, fact = .relation name target →
      (Relation.ofName? name).isSome) :
    statement.saying? settings = (fact.remark? settings).map (⟨.named subject, ·⟩) := by
  obtain ⟨hsubject, hfact⟩ := h
  have hcomment : Vocabulary.comment ≠ Vocabulary.label := by decide
  have htype : Vocabulary.type ≠ Vocabulary.label ∧ Vocabulary.type ≠ Vocabulary.comment := by
    decide
  unfold Statement.saying?
  cases fact with
  | label text =>
    obtain ⟨hpredicate, hobject⟩ := hfact
    simp [Statement.use?, hpredicate, hobject, hsubject, Use.remark, Fact.remark?]
  | comment text =>
    obtain ⟨hpredicate, hobject⟩ := hfact
    simp [Statement.use?, hpredicate, hobject, hsubject, Use.remark, Fact.remark?, hcomment]
  | type name =>
    obtain ⟨hpredicate, iri, hobject, rfl⟩ := hfact
    by_cases hother : settings.classify (localName iri) = .other
    · simp [Statement.use?, hpredicate, hobject, Fact.remark?, htype, hother]
    · simp [Statement.use?, hpredicate, hobject, hsubject, Use.remark, Fact.remark?, htype, hother]
  | relation name target =>
    obtain ⟨rfl, node, hobject, htarget⟩ := hfact
    obtain ⟨relation, hrelation⟩ := Option.isSome_iff_exists.1 (hvocabulary _ _ rfl)
    rw [use?_of_relation hrelation hobject]
    simp [hsubject, Use.remark, Fact.remark?, hrelation, htarget]

end Rdf

namespace EntityRecord

/-- The facts of a record amount to its remarks and its links. -/
theorem filterMap_remark?_facts (settings : Settings) (record : EntityRecord) :
    record.facts.filterMap (Fact.remark? settings) = record.remarks settings ++ record.links := by
  have htypes (types : List String) : (types.map Fact.type).filterMap (Fact.remark? settings) =
      ((types.map settings.classify).filter (· ≠ .other)).map Remark.kind := by
    induction types with
    | nil => rfl
    | cons name rest ih =>
      by_cases hother : settings.classify name = .other
      · simp [Fact.remark?, hother, ih]
      · simp [Fact.remark?, hother, ih]
  have hlabel : (record.label.toList.map Fact.label).filterMap (Fact.remark? settings) =
      record.label.toList.map Remark.label := by
    cases record.label with
    | none => rfl
    | some text => rfl
  have hcomment : (record.comment.toList.map Fact.comment).filterMap (Fact.remark? settings) =
      record.comment.toList.map Remark.comment := by
    cases record.comment with
    | none => rfl
    | some text => rfl
  unfold facts remarks links
  rw [List.filterMap_append, List.filterMap_append, List.filterMap_append, hlabel, hcomment,
    htypes, List.filterMap_map]
  rfl

/-- What a record says of its own entity is no link. -/
theorem link?_of_mem_remarks {settings : Settings} {record : EntityRecord} :
    ∀ remark ∈ record.remarks settings, remark.link? = none := by
  intro remark hremark
  unfold remarks at hremark
  rw [List.mem_append, List.mem_append, List.mem_map, List.mem_map, List.mem_map] at hremark
  obtain (⟨text, -, rfl⟩ | ⟨text, -, rfl⟩) | ⟨kind, -, rfl⟩ := hremark
  · rfl
  · rfl
  · rfl

theorem filterMap_link?_about_remarks (settings : Settings) (record : EntityRecord) :
    (record.about (record.remarks settings)).filterMap Saying.link? = [] := by
  rw [List.filterMap_eq_nil_iff]
  intro saying hsaying
  obtain ⟨remark, hremark, rfl⟩ := List.mem_map.1 hsaying
  simp only [Saying.link?, link?_of_mem_remarks remark hremark, Option.map_none]

theorem exists_of_mem_links {record : EntityRecord} :
    ∀ remark ∈ record.links, ∃ relation object, remark = .link relation (.named object) := by
  intro remark hremark
  obtain ⟨link, -, hlink⟩ := List.mem_filterMap.1 hremark
  obtain ⟨relation, -, rfl⟩ := Option.map_eq_some_iff.1 hlink
  exact ⟨relation, link.target, rfl⟩

end EntityRecord

/-! ### What documents and their statements say -/

namespace KnowledgeDocument

variable {settings : Settings} {document : KnowledgeDocument}

/-- What is said when the facts of a document are stated in order. -/
def told (settings : Settings) (document : KnowledgeDocument) : List Saying :=
  document.entities.flatMap fun record => record.about (record.remarks settings ++ record.links)

/-- Statements of all facts in order say what the records say, record by record. -/
theorem filterMap_saying?_of_states (hvocabulary : document.InVocabulary)
    {statements : List Rdf.Statement}
    (hstated : List.Forall₂ Rdf.Statement.States document.facts statements) :
    statements.filterMap (Rdf.Statement.saying? settings) = document.told settings := by
  have hfacts : ∀ fact ∈ document.facts, ∀ name target, fact.2 = .relation name target →
      (Relation.ofName? name).isSome := by
    intro fact hfact name target hrelation
    obtain ⟨record, hrecord, hmem⟩ := List.mem_flatMap.1 hfact
    obtain ⟨found, hfound, rfl⟩ := List.mem_map.1 hmem
    subst hrelation
    unfold EntityRecord.facts at hfound
    simp only [List.mem_append, List.mem_map, reduceCtorEq, and_false, exists_false, false_or,
      Fact.relation.injEq] at hfound
    obtain ⟨link, hlink, rfl, -⟩ := hfound
    exact hvocabulary record hrecord link hlink
  have hsayings : statements.filterMap (Rdf.Statement.saying? settings) =
      document.facts.filterMap fun fact =>
        (fact.2.remark? settings).map (⟨.named fact.1, ·⟩) := by
    revert hfacts
    generalize document.facts = facts at hstated
    induction hstated with
    | nil => exact fun _ => rfl
    | cons hstates _ ih =>
      intro hfacts
      obtain ⟨hfirst, hrest⟩ := List.forall_mem_cons.1 hfacts
      rw [List.filterMap_cons, List.filterMap_cons, ih hrest,
        Rdf.Statement.States.saying?_eq hstates hfirst]
  rw [hsayings, facts, List.filterMap_flatMap, told]
  congr 1
  funext record
  rw [List.filterMap_map, EntityRecord.about, ← EntityRecord.filterMap_remark?_facts,
    List.map_filterMap]
  rfl

/-- What is said of entities themselves is said alike, whenever links and presences are said. -/
theorem filterMap_told_eq {α : Type} {value? : Saying → Option α}
    (hpresence : ∀ subject, value? ⟨subject, .presence⟩ = none)
    (hlink : ∀ subject relation object, value? ⟨subject, .link relation object⟩ = none) :
    (document.told settings).filterMap value? = (document.sayings settings).filterMap value? := by
  have hlinks (record : EntityRecord) : (record.about record.links).filterMap value? = [] := by
    rw [List.filterMap_eq_nil_iff]
    intro saying hsaying
    obtain ⟨remark, hremark, rfl⟩ := List.mem_map.1 hsaying
    obtain ⟨relation, object, rfl⟩ := EntityRecord.exists_of_mem_links remark hremark
    exact hlink _ _ _
  unfold told sayings
  rw [List.filterMap_append, List.filterMap_flatMap, List.filterMap_flatMap,
    List.filterMap_flatMap, List.flatMap_eq_nil_iff.2 fun record _ => hlinks record,
    List.append_nil]
  congr 1
  funext record
  unfold EntityRecord.about at hlinks ⊢
  rw [List.map_append, List.filterMap_append, hlinks, List.append_nil, List.map_cons,
    List.filterMap_cons_none (hpresence _)]

/-- Of every identifier the same is said last. -/
theorem described_told (identifier : Identifier) :
    Saying.described (document.told settings) identifier =
      Saying.described (document.sayings settings) identifier := by
  have hgiven {α : Type} {value? : Remark → Option α} (hpresence : value? .presence = none)
      (hlink : ∀ relation object, value? (.link relation object) = none) :
      lastGiven (Saying.given? value? identifier) (document.told settings) =
        lastGiven (Saying.given? value? identifier) (document.sayings settings) := by
    unfold lastGiven
    rw [filterMap_told_eq]
    · intro subject
      simp only [Saying.given?, hpresence, ite_self]
    · intro subject relation object
      simp only [Saying.given?, hlink, ite_self]
  unfold Saying.described
  rw [hgiven rfl fun _ _ => rfl, hgiven rfl fun _ _ => rfl, hgiven rfl fun _ _ => rfl]

/-- The same links are given in the same order. -/
theorem links_told :
    Saying.links (document.told settings) = Saying.links (document.sayings settings) := by
  have hpresent (record : EntityRecord) :
      (record.about (.presence :: record.remarks settings)).filterMap Saying.link? = [] := by
    rw [EntityRecord.about, List.map_cons, List.filterMap_cons_none rfl, ← EntityRecord.about,
      EntityRecord.filterMap_link?_about_remarks]
  unfold Saying.links told sayings
  rw [List.filterMap_append, List.filterMap_flatMap, List.filterMap_flatMap,
    List.filterMap_flatMap, List.flatMap_eq_nil_iff.2 fun record _ => hpresent record,
    List.nil_append]
  congr 1
  funext record
  rw [EntityRecord.about, List.map_append, List.filterMap_append, ← EntityRecord.about,
    EntityRecord.filterMap_link?_about_remarks, List.nil_append]
  rfl

/-- Documents link names. -/
theorem named_of_mem_links : ∀ link ∈ Saying.links (document.sayings settings),
    link.1.isAnonymous = false ∧ link.2.2.isAnonymous = false := by
  intro link hlink
  rw [← links_told] at hlink
  obtain ⟨saying, hsaying, hsome⟩ := List.mem_filterMap.1 hlink
  obtain ⟨record, -, hmem⟩ := List.mem_flatMap.1 hsaying
  obtain ⟨remark, hremark, rfl⟩ := List.mem_map.1 hmem
  obtain hown | hrelated := List.mem_append.1 hremark
  · simp [Saying.link?, EntityRecord.link?_of_mem_remarks remark hown] at hsome
  · obtain ⟨relation, object, rfl⟩ := EntityRecord.exists_of_mem_links remark hrelated
    cases hsome
    exact ⟨rfl, rfl⟩

end KnowledgeDocument

end TaskNet
