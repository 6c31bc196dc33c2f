import TaskNet.Proofs.Encoding
import TaskNet.Proofs.RenderedDefinitions

/-!
# Programs of documents and of their statements

A document of records and the statements of its facts have the same definitions, and for each of
them the same is emitted. But records number their entities before they are related, while
statements number whatever they mention, so the definitions may come in another order. The programs
have the same text exactly if that makes no difference to the texts of the definitions.
-/

namespace TaskNet

/-- In blocks of equal entries, only the first entry of each block counts. -/
theorem eraseDups_flatMap {α β : Type} [DecidableEq β] {block : α → List β} {first : α → β}
    (hblock : ∀ entry, ∃ rest, block entry = first entry :: rest ∧
      ∀ other ∈ rest, other = first entry) (entries : List α) :
    (entries.flatMap block).eraseDups = (entries.map first).eraseDups := by
  induction entries using List.reverseRecOn with
  | nil => rfl
  | append_singleton entries entry ih =>
    obtain ⟨rest, heq, hrest⟩ := hblock entry
    have hmem : first entry ∈ entries.flatMap block ↔ first entry ∈ entries.map first := by
      rw [← List.mem_eraseDups, ih, List.mem_eraseDups]
    have hold : ∀ other ∈ rest, other ∈ entries.flatMap block ++ [first entry] := by
      intro other hother
      rw [hrest other hother]
      exact List.mem_append_right _ List.mem_cons_self
    rw [List.flatMap_append, List.flatMap_singleton, heq, ← List.singleton_append,
      ← List.append_assoc, eraseDups_append_of_subset hold, eraseDups_append_singleton, ih,
      List.map_append, List.map_singleton, eraseDups_append_singleton]
    simp only [hmem]

/-- What is not among the entries before is left out by a filter. -/
theorem filter_eraseDups_append {α : Type} [DecidableEq α] {keep : α → Bool}
    {entries others : List α} (h : ∀ other ∈ others, keep other → other ∈ entries) :
    (entries ++ others).eraseDups.filter keep = entries.eraseDups.filter keep := by
  have hnone : (others.removeAll entries).eraseDups.filter keep = [] := by
    rw [List.filter_eq_nil_iff]
    intro other hother hkeep
    rw [List.mem_eraseDups, List.removeAll, List.mem_filter] at hother
    simp [h other hother.1 hkeep] at hother
  rw [List.eraseDups_append, List.filter_append, hnone, List.append_nil]

namespace KnowledgeDocument

variable {settings : Settings} {document : KnowledgeDocument}

/-- The identifiers of the records, in the order in which each comes first. -/
def declared (document : KnowledgeDocument) : List Identifier :=
  (document.entities.map fun record => Identifier.named record.id).eraseDups

/-- The definitions of a kind that a document declares, in order. -/
def definitions (settings : Settings) (document : KnowledgeDocument) (kind : DefinitionKind) :
    List Identifier :=
  document.declared.filter fun identifier =>
    (Saying.described (document.sayings settings) identifier).kind = kind.entityKind

/-- Documents say things of their records only. -/
theorem subject_mem_declared : ∀ saying ∈ document.sayings settings,
    saying.subject ∈ document.declared := by
  have habout (remarks : EntityRecord → List Remark) :
      ∀ saying ∈ document.entities.flatMap fun record => record.about (remarks record),
        saying.subject ∈ document.declared := by
    intro saying hsaying
    obtain ⟨record, hrecord, hmem⟩ := List.mem_flatMap.1 hsaying
    obtain ⟨remark, -, rfl⟩ := List.mem_map.1 hmem
    rw [declared, List.mem_eraseDups]
    exact List.mem_map.2 ⟨record, hrecord, rfl⟩
  intro saying hsaying
  obtain hpresent | hrelated := List.mem_append.1 hsaying
  · exact habout (fun record => .presence :: record.remarks settings) saying hpresent
  · exact habout EntityRecord.links saying hrelated

/-- What records say of their own entities mentions the identifiers of the records. -/
theorem eraseDups_mentions_described (settings : Settings) (document : KnowledgeDocument) :
    ((document.entities.flatMap fun record =>
      record.about (.presence :: record.remarks settings)).flatMap Saying.mentions).eraseDups =
        document.declared := by
  rw [List.flatMap_assoc]
  refine eraseDups_flatMap (fun record => ?_) document.entities
  refine ⟨(record.about (record.remarks settings)).flatMap Saying.mentions, rfl, ?_⟩
  intro other hother
  obtain ⟨saying, hsaying, hmention⟩ := List.mem_flatMap.1 hother
  obtain ⟨remark, hremark, rfl⟩ := List.mem_map.1 hsaying
  rw [Saying.mentions, EntityRecord.link?_of_mem_remarks remark hremark] at hmention
  exact List.mem_singleton.1 hmention

/-- Definitions are declared, so they come in the order of their records. -/
theorem definitions_sayings :
    Saying.definitions (document.sayings settings) = document.definitions settings := by
  funext kind
  have hdeclared := document.eraseDups_mentions_described settings
  have hmentions : (document.sayings settings).flatMap Saying.mentions =
      (document.entities.flatMap fun record =>
        record.about (.presence :: record.remarks settings)).flatMap Saying.mentions ++
        (document.entities.flatMap fun record => record.about record.links).flatMap
          Saying.mentions := List.flatMap_append
  unfold Saying.definitions Saying.introduced definitions
  rw [← hdeclared, hmentions]
  refine filter_eraseDups_append fun identifier _ hkind => ?_
  obtain ⟨saying, hsaying, rfl⟩ := Saying.exists_subject_of_kind (of_decide_eq_true hkind)
  have hsubject := subject_mem_declared saying hsaying
  rwa [← hdeclared, List.mem_eraseDups] at hsubject

/-- The statements of the facts in a document amount to what its records say. -/
theorem told_agrees (settings : Settings) (document : KnowledgeDocument) :
    Saying.Agree (document.sayings settings) (document.told settings) where
  links := links_told.symm
  named := named_of_mem_links
  described identifier := (described_told identifier).symm

/-- The statements of facts mention names only. -/
theorem named_of_mem_introduced_told :
    ∀ identifier ∈ Saying.introduced (document.told settings),
      identifier.isAnonymous = false := by
  intro identifier hmem
  rw [Saying.introduced, List.mem_eraseDups] at hmem
  obtain ⟨saying, hsaying, hmention⟩ := List.mem_flatMap.1 hmem
  obtain ⟨record, -, habout⟩ := List.mem_flatMap.1 hsaying
  obtain ⟨remark, hremark, rfl⟩ := List.mem_map.1 habout
  obtain rfl | hobject := List.mem_cons.1 hmention
  · rfl
  · obtain hown | hrelated := List.mem_append.1 hremark
    · simp [EntityRecord.link?_of_mem_remarks remark hown] at hobject
    · obtain ⟨relation, object, rfl⟩ := EntityRecord.exists_of_mem_links remark hrelated
      obtain rfl := List.mem_singleton.1 hobject
      rfl

end KnowledgeDocument

/-- The definitions of a kind in statements, in the order in which they are first mentioned by a
statement of use. -/
def Rdf.definitions (settings : Settings) (statements : List Rdf.Statement) :
    DefinitionKind → List Identifier :=
  Saying.definitions (statements.filterMap (Rdf.Statement.saying? settings))

/-- A document and the statements of its facts are both loaded, have the same definitions and emit
the same for each of them. The definitions come in the order in which they are declared by records,
or first mentioned by statements. So both programs have the same text exactly if the texts of the
definitions are the same in both orders, as they are if both orders are the same. -/
theorem KnowledgeDocument.generate_stated (settings : Settings) {document : KnowledgeDocument}
    (hvocabulary : document.InVocabulary) {statements : List Rdf.Statement}
    (hstated : List.Forall₂ Rdf.Statement.States document.facts statements) :
    ∃ graph emission, document.graph settings = .ok graph ∧
      graph.Renders settings (document.definitions settings) emission ∧
      (Rdf.load settings statements).graph.Renders settings
        (Rdf.definitions settings statements) emission ∧
      (∀ kind, (document.definitions settings kind).Perm
        (Rdf.definitions settings statements kind)) ∧
      ((generate graph.base settings).text =
          (generate (Rdf.load settings statements).graph.base settings).text ↔
        written (document.definitions settings) emission =
          written (Rdf.definitions settings statements) emission) ∧
      (document.definitions settings = Rdf.definitions settings statements →
        (generate graph.base settings).text =
          (generate (Rdf.load settings statements).graph.base settings).text) := by
  have hsaid := Draft.outlines_foldl_say (document.sayings settings)
  have htold := Draft.outlines_foldl_say (document.told settings)
  have hagree := document.told_agrees settings
  have hload := Rdf.graph_load settings statements
  rw [filterMap_saying?_of_states hvocabulary hstated] at hload
  have hdefinitions : Rdf.definitions settings statements =
      Saying.definitions (document.told settings) := by
    rw [Rdf.definitions, filterMap_saying?_of_states hvocabulary hstated]
  have hrenders := hsaid.renders settings
  have hrenders' := hsaid.renders_alike htold hagree named_of_mem_introduced_told settings
  rw [definitions_sayings] at hrenders
  rw [← hload, ← hdefinitions] at hrenders'
  refine ⟨_, _, KnowledgeDocument.graph_eq settings hvocabulary, hrenders, hrenders',
    fun kind => ?_, ?_, fun horder => ?_⟩
  · rw [hdefinitions, ← definitions_sayings]
    exact Saying.definitions_perm hagree kind
  · rw [hrenders.text_eq, hrenders'.text_eq]
  · rw [hrenders.text_eq, hrenders'.text_eq, horder]

/-- A plan that is related to the second of two domains, before both of them. -/
def forwardDocument : KnowledgeDocument where
  entities := [
    { id := "urn:plan", relations := [⟨"hasDomain", "urn:water"⟩] },
    { id := "urn:road", label := some "Road", types := ["DomainDefinition"] },
    { id := "urn:water", label := some "Water", types := ["DomainDefinition"] }]

/-- The statements of the facts in the document, in order. -/
def forwardStatements : List Rdf.Statement := [
  { subject := .iri "urn:plan"
    predicate := "http://example.org/plan#hasDomain"
    object := .node (.iri "urn:water") },
  { subject := .iri "urn:road"
    predicate := Rdf.Vocabulary.label
    object := .literal "Road" },
  { subject := .iri "urn:road"
    predicate := Rdf.Vocabulary.type
    object := .node (.iri "http://example.org/plan#DomainDefinition") },
  { subject := .iri "urn:water"
    predicate := Rdf.Vocabulary.label
    object := .literal "Water" },
  { subject := .iri "urn:water"
    predicate := Rdf.Vocabulary.type
    object := .node (.iri "http://example.org/plan#DomainDefinition") }]

theorem forwardDocument_inVocabulary : forwardDocument.InVocabulary := by
  decide

theorem forwardStatements_states :
    List.Forall₂ Rdf.Statement.States forwardDocument.facts forwardStatements := by
  refine .cons ⟨rfl, by decide, .iri "urn:water", rfl, rfl⟩ ?_
  refine .cons ⟨rfl, rfl, rfl⟩ ?_
  refine .cons ⟨rfl, rfl, "http://example.org/plan#DomainDefinition", rfl, by decide⟩ ?_
  refine .cons ⟨rfl, rfl, rfl⟩ ?_
  exact .cons ⟨rfl, rfl, "http://example.org/plan#DomainDefinition", rfl, by decide⟩ .nil

/-- The statement about the plan mentions the second domain first, so its text comes first. -/
theorem forwardDocument_text_ne : forwardDocument.InVocabulary ∧
    List.Forall₂ Rdf.Statement.States forwardDocument.facts forwardStatements ∧
    ∃ graph, forwardDocument.graph {} = .ok graph ∧
      (generate graph.base {}).text = "(defdomain Road ())\n(defdomain Water ())\n" ∧
      (generate graph.base {}).text ≠
        (generate (Rdf.load {} forwardStatements).graph.base {}).text := by
  have htext : (generate ((forwardDocument.sayings {}).foldl Draft.say Draft.empty).freeze.base
      {}).text = "(defdomain Road ())\n(defdomain Water ())\n" := by decide +kernel
  have htext' : (generate (Rdf.load {} forwardStatements).graph.base {}).text =
      "(defdomain Water ())\n(defdomain Road ())\n" := by decide +kernel
  have hgraph := KnowledgeDocument.graph_eq {} forwardDocument_inVocabulary
  refine ⟨forwardDocument_inVocabulary, forwardStatements_states, _, hgraph, htext, ?_⟩
  rw [htext, htext']
  decide

/-- Still both have the same two definitions, and emit the same for each. Without the plan both have
the same text. -/
theorem forwardDocument_generate_stated :
    (∃ (graph : KnowledgeGraph) (emission : DefinitionKind → Identifier → Emission String),
      forwardDocument.graph {} = .ok graph ∧
        graph.emissions {} .domain =
          [(some (.named "urn:road"), emission .domain (.named "urn:road")),
            (some (.named "urn:water"), emission .domain (.named "urn:water"))] ∧
        (Rdf.load {} forwardStatements).graph.emissions {} .domain =
          [(some (.named "urn:water"), emission .domain (.named "urn:water")),
            (some (.named "urn:road"), emission .domain (.named "urn:road"))]) ∧
    ∃ graph, (KnowledgeDocument.mk forwardDocument.entities.tail).graph {} = .ok graph ∧
      (generate graph.base {}).text =
        (generate (Rdf.load {} forwardStatements.tail).graph.base {}).text := by
  constructor
  · have hdeclared : forwardDocument.definitions {} .domain =
        [.named "urn:road", .named "urn:water"] := by decide
    have hmentioned : Rdf.definitions {} forwardStatements .domain =
        [.named "urn:water", .named "urn:road"] := by decide
    obtain ⟨graph, emission, hgraph, hrenders, hrenders', -⟩ :=
      KnowledgeDocument.generate_stated {} forwardDocument_inVocabulary forwardStatements_states
    refine ⟨graph, emission, hgraph, ?_, ?_⟩
    · rw [hrenders, hdeclared]
      rfl
    · rw [hrenders', hmentioned]
      rfl
  · have hvocabulary : (KnowledgeDocument.mk forwardDocument.entities.tail).InVocabulary :=
      fun record hrecord => forwardDocument_inVocabulary record (List.mem_of_mem_tail hrecord)
    have hstated : List.Forall₂ Rdf.Statement.States
        (KnowledgeDocument.mk forwardDocument.entities.tail).facts forwardStatements.tail :=
      (List.forall₂_cons.1 forwardStatements_states).2
    have horder : (KnowledgeDocument.mk forwardDocument.entities.tail).definitions {} =
        Rdf.definitions {} forwardStatements.tail := by
      funext kind
      cases kind with
      | domain => decide
      | problem => decide
    obtain ⟨graph, -, hgraph, -, -, -, -, hsame⟩ :=
      KnowledgeDocument.generate_stated {} hvocabulary hstated
    exact ⟨graph, hgraph, hsame horder⟩

end TaskNet
