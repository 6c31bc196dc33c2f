import TaskNet.Proofs.DocumentReading
import TaskNet.Proofs.Rearrangement
import TaskNet.Summary

/-!
# Documents with their records in another order

If no identifier has two records, the records of a document may come in any order that keeps the
order of the domain definitions and that of the problem definitions. The entities get other numbers
and the links are stated in another order, but every record is still the only one of its identifier,
so the document says the same. What is rendered and what is listed is then the same, definition by
definition.
-/

namespace TaskNet

/-! ### Records in another order -/

/-- The kind of definition that the class names of a record mark last. -/
def EntityRecord.kind (settings : Settings) (record : EntityRecord) : EntityKind :=
  (lastGiven settings.marked? record.types).getD .other

namespace KnowledgeDocument

/-- No identifier has two records. -/
def HasDistinctRecords (document : KnowledgeDocument) : Prop :=
  (document.entities.map (·.id)).Nodup

instance (document : KnowledgeDocument) : Decidable document.HasDistinctRecords :=
  inferInstanceAs (Decidable (List.Nodup _))

/-- The same records in an order in which the definitions of each kind come as before. -/
structure Reorders (settings : Settings) (document document' : KnowledgeDocument) : Prop where
  perm : document.entities.Perm document'.entities
  definitions : ∀ kind : DefinitionKind,
    document.entities.filter (·.kind settings = kind.entityKind) =
      document'.entities.filter (·.kind settings = kind.entityKind)

variable {settings : Settings} {document document' : KnowledgeDocument}

/-- What has a record has only this one. -/
theorem HasDistinctRecords.recordsOf_eq (h : document.HasDistinctRecords) :
    ∀ record ∈ document.entities, document.recordsOf (.named record.id) = [record] := by
  revert h
  unfold HasDistinctRecords recordsOf
  induction document.entities with
  | nil => exact fun _ => nofun
  | cons first rest ih =>
    intro h record hrecord
    rw [List.map_cons, List.nodup_cons] at h
    rw [List.filter_cons]
    obtain rfl | hrest := List.mem_cons.1 hrecord
    · have hothers : ∀ other ∈ rest, ¬ decide (Identifier.named other.id = .named record.id) := by
        intro other hother hsame
        have hid := Identifier.named.inj (of_decide_eq_true hsame)
        exact h.1 (List.mem_map.2 ⟨other, hother, hid⟩)
      rw [if_pos (decide_eq_true rfl), List.filter_eq_nil_iff.2 hothers]
    · have hfirst : ¬ decide (Identifier.named first.id = .named record.id) := by
        intro hsame
        have hid := Identifier.named.inj (of_decide_eq_true hsame)
        exact h.1 (List.mem_map.2 ⟨record, hrest, hid.symm⟩)
      rw [if_neg hfirst]
      exact ih h.2 record hrest

/-- The entities of a document are its records and their targets. -/
theorem mem_identifiers {identifier : Identifier} : identifier ∈ document.identifiers ↔
    ∃ record ∈ document.entities, identifier = .named record.id ∨
      ∃ link ∈ record.relations, identifier = .named link.target := by
  have hdeclared : identifier ∈ document.declared ↔
      ∃ record ∈ document.entities, identifier = .named record.id := by
    simp only [declared, List.mem_eraseDups, List.mem_map, eq_comm]
  have htarget : identifier ∈ document.relations.map (fun relation =>
      Identifier.named relation.2.target) ↔ ∃ record ∈ document.entities,
        ∃ link ∈ record.relations, identifier = .named link.target := by
    rw [relations, List.map_flatMap]
    simp only [List.mem_flatMap, List.mem_map, List.map_map, Function.comp_apply, eq_comm]
  have hundeclared : identifier ∈ document.undeclared ↔ identifier ∈ document.relations.map
      (fun relation => Identifier.named relation.2.target) ∧ identifier ∉ document.declared := by
    rw [undeclared, List.mem_eraseDups, List.mem_filter, decide_eq_true_eq]
  rw [identifiers, List.mem_append, hundeclared, or_and_left, and_iff_left (em _), hdeclared,
    htarget, ← exists_or]
  simp only [and_or_left]

namespace Reorders

theorem distinct (h : Reorders settings document document')
    (hdistinct : document.HasDistinctRecords) : document'.HasDistinctRecords :=
  (h.perm.map _).nodup_iff.1 hdistinct

theorem inVocabulary (h : Reorders settings document document')
    (hvocabulary : document.InVocabulary) : document'.InVocabulary :=
  fun record hrecord => hvocabulary record (h.perm.mem_iff.2 hrecord)

/-- Each identifier has the same record as before, or none as before. -/
theorem recordsOf_eq (h : Reorders settings document document')
    (hdistinct : document.HasDistinctRecords) (identifier : Identifier) :
    document.recordsOf identifier = document'.recordsOf identifier := by
  have hperm : (document.recordsOf identifier).Perm (document'.recordsOf identifier) :=
    h.perm.filter _
  cases hrecords : document.recordsOf identifier with
  | nil =>
    rw [hrecords] at hperm
    exact hperm.nil_eq
  | cons record rest =>
    have hmem : record ∈ document.recordsOf identifier := by
      rw [hrecords]
      exact List.mem_cons_self
    obtain ⟨hrecord, hidentifier⟩ := List.mem_filter.1 hmem
    have hrecord' := h.perm.mem_iff.1 hrecord
    rw [← hrecords, ← of_decide_eq_true hidentifier, hdistinct.recordsOf_eq record hrecord,
      (h.distinct hdistinct).recordsOf_eq record hrecord']

theorem relations_perm (h : Reorders settings document document') :
    document.relations.Perm document'.relations :=
  h.perm.flatMap_right _

theorem description_eq (h : Reorders settings document document')
    (hdistinct : document.HasDistinctRecords) (identifier : Identifier) :
    document.description settings identifier = document'.description settings identifier := by
  rw [description, description, h.recordsOf_eq hdistinct]

theorem targetsOf_eq (h : Reorders settings document document')
    (hdistinct : document.HasDistinctRecords) (identifier : Identifier) (relation : Relation) :
    document.targetsOf identifier relation = document'.targetsOf identifier relation := by
  rw [targetsOf, targetsOf, h.recordsOf_eq hdistinct]

theorem mem_identifiers_iff (h : Reorders settings document document') (identifier : Identifier) :
    identifier ∈ document.identifiers ↔ identifier ∈ document'.identifiers := by
  simp only [mem_identifiers, h.perm.mem_iff]

end Reorders

/-- The definitions of a kind are the records of this kind. -/
theorem HasDistinctRecords.definitions_eq (h : document.HasDistinctRecords) (settings : Settings)
    (kind : DefinitionKind) : document.definitions settings kind =
      (document.entities.filter (·.kind settings = kind.entityKind)).map (.named ·.id) := by
  have hdeclared : document.declared = document.entities.map (.named ·.id) := by
    have hnodup := h.map fun _ _ => Identifier.named.inj
    rw [List.map_map] at hnodup
    exact eraseDups_of_nodup hnodup
  rw [definitions, hdeclared, List.filter_map]
  refine congrArg (List.map _) (List.filter_congr fun record hrecord => ?_)
  rw [Function.comp_apply, described_sayings, description, h.recordsOf_eq record hrecord,
    List.flatMap_singleton]
  rfl

/-- Reordered documents say the same in another order. -/
theorem Reorders.rearranges (h : Reorders settings document document')
    (hdistinct : document.HasDistinctRecords) (hvocabulary : document.InVocabulary) :
    Saying.Rearranges (document.sayings settings) (document'.sayings settings) where
  introduced identifier := by
    have hvocabulary' := h.inVocabulary hvocabulary
    rw [introduced_sayings settings (inVocabulary_iff.1 hvocabulary),
      introduced_sayings settings (inVocabulary_iff.1 hvocabulary')]
    exact h.mem_identifiers_iff identifier
  described identifier := by
    rw [described_sayings, described_sayings, h.description_eq hdistinct]
  objects subject relation := by
    rw [objects_sayings, objects_sayings, h.targetsOf_eq hdistinct]
  definitions kind := by
    rw [definitions_sayings, definitions_sayings, hdistinct.definitions_eq,
      (h.distinct hdistinct).definitions_eq, h.definitions]

end KnowledgeDocument

/-! ### What is listed -/

theorem DomainSummary.line_congr {domain domain' : DomainSummary} (hiri : domain.iri = domain'.iri)
    (hlabel : domain.label = domain'.label) (hmethods : domain.methods = domain'.methods)
    (hoperators : domain.operators = domain'.operators) : domain.line = domain'.line := by
  unfold line
  rw [hiri, hlabel, hmethods, hoperators]

theorem ProblemSummary.line_congr {problem problem' : ProblemSummary}
    (hiri : problem.iri = problem'.iri) (hlabel : problem.label = problem'.label)
    (hdomain : problem.domain = problem'.domain)
    (hstates : problem.initialStates = problem'.initialStates)
    (hgoals : problem.goals = problem'.goals) : problem.line = problem'.line := by
  unfold line
  rw [hiri, hlabel, hdomain, hstates, hgoals]

/-- Listings show no numbers, so bases that match on their definitions list them alike. -/
theorem KnowledgeBase.MatchesOn.text_summary {Paired : EntityId → EntityId → Prop}
    {knowledge knowledge' : KnowledgeBase} (h : knowledge.MatchesOn Paired knowledge')
    (hdefinitions : ∀ kind : DefinitionKind, List.Forall₂ Paired
      (knowledge.entitiesOfKind kind.entityKind) (knowledge'.entitiesOfKind kind.entityKind)) :
    knowledge.summary.text = knowledge'.summary.text := by
  have hfirstLabel {targets targets' : List EntityId} (htargets : List.Forall₂ Paired targets
      targets') : targets.head?.bind knowledge.label = targets'.head?.bind knowledge'.label := by
    cases htargets with
    | nil => rfl
    | cons hfirst _ => exact h.label hfirst
  have hdomains : knowledge.summary.domains.map DomainSummary.line =
      knowledge'.summary.domains.map DomainSummary.line := by
    rw [← List.forall₂_eq_eq_eq, summary, summary, List.map_map, List.map_map,
      List.forall₂_map_left_iff, List.forall₂_map_right_iff]
    refine (hdefinitions .domain).imp fun entity entity' hpair => ?_
    exact DomainSummary.line_congr (h.describe hpair) (h.label hpair)
      (h.related hpair .hasMethod).length_eq (h.related hpair .hasOperator).length_eq
  have hproblems : knowledge.summary.problems.map ProblemSummary.line =
      knowledge'.summary.problems.map ProblemSummary.line := by
    rw [← List.forall₂_eq_eq_eq, summary, summary, List.map_map, List.map_map,
      List.forall₂_map_left_iff, List.forall₂_map_right_iff]
    refine (hdefinitions .problem).imp fun entity entity' hpair => ?_
    exact ProblemSummary.line_congr (h.describe hpair) (h.label hpair)
      (hfirstLabel (h.related hpair .hasDomain)) (h.related hpair .hasInitialState).length_eq
      (h.related hpair .hasGoal).length_eq
  rw [Summary.text, Summary.text, hdomains, hproblems]

/-! ### What is rendered -/

/-- A document and the same document with its records in another order are both loaded, and if no
identifier has two records and the definitions of each kind come in the same order, both have the
same units, with the same names, texts or errors, and warnings, in the same order. So the programs
have the same texts, and the same is listed. The relations have to fit into the store, which takes
no more than there are ordinals. -/
theorem KnowledgeDocument.generate_reordered (settings : Settings)
    {document document' : KnowledgeDocument} (hdistinct : document.HasDistinctRecords)
    (hvocabulary : document.InVocabulary) (hfits : document.relations.length ≤ UInt32.size)
    (hreorders : Reorders settings document document') :
    ∃ graph graph', document.graph settings = .ok graph ∧ document'.graph settings = .ok graph' ∧
      (∀ choices, graph'.base.namedOutputs choices = graph.base.namedOutputs choices ∧
        (generate graph'.base choices).SameAs (generate graph.base choices)) ∧
      graph'.base.summary.text = graph.base.summary.text := by
  have hvocabulary' := hreorders.inVocabulary hvocabulary
  have hknown := inVocabulary_iff.1 hvocabulary
  have hknown' := inVocabulary_iff.1 hvocabulary'
  have hcount := (document.length_links_sayings settings hknown).trans_le hfits
  have hcount' := (document'.length_links_sayings settings hknown').trans_le
    (hreorders.relations_perm.length_eq ▸ hfits)
  have htells := tells_foldl_say hcount
  have htells' := tells_foldl_say hcount'
  have hsame := hreorders.rearranges hdistinct hvocabulary
  have hnamed : ∀ identifier ∈ Saying.introduced (document.sayings settings),
      identifier.isAnonymous = false := by
    rw [introduced_sayings settings hknown]
    intro identifier hmem
    obtain ⟨record, -, rfl | ⟨link, -, rfl⟩⟩ := mem_identifiers.1 hmem
    · rfl
    · rfl
  have hisomorphism := htells.isIsomorphism htells' hsame
  have hnames := htells.keepsNames htells' hsame hnamed
  have hdefinitions := htells.entitiesOfKind_renumber htells' hsame
  refine ⟨_, _, graph_eq settings hvocabulary, graph_eq settings hvocabulary', fun choices => ?_,
    ?_⟩
  · have hunits := hisomorphism.namedOutputs_generate hnames hdefinitions choices
    have houtputs := hisomorphism.outputs_generate hnames hdefinitions choices
    exact ⟨hunits, Program.sameAs_of_outputs houtputs⟩
  · refine ((hisomorphism.matchesOn hnames).text_summary fun kind => ?_).symm
    rw [hdefinitions]
    exact KnowledgeBase.forall₂_corresponds fun entity hentity => ⟨_, hentity⟩

/-- A road with a way to drive on it and a way to stop that has no record, behind an errand that
lacks its goal. -/
def errandFirst : KnowledgeDocument where
  entities := [
    { id := "urn:errand", label := some "errand", types := ["ProblemDefinition"]
      relations := [⟨"hasDomain", "urn:road"⟩, ⟨"hasInitialState", "urn:morning"⟩] },
    { id := "urn:road", label := some "road", types := ["DomainDefinition"]
      relations := [⟨"hasMethod", "urn:drive"⟩, ⟨"hasOperator", "urn:stop"⟩] },
    { id := "urn:stop", label := some "stop" },
    { id := "urn:drive", label := some "drive" }]

/-- The same records, with those of the definitions last. -/
def errandLast : KnowledgeDocument where
  entities := [
    { id := "urn:drive", label := some "drive" },
    { id := "urn:stop", label := some "stop" },
    { id := "urn:road", label := some "road", types := ["DomainDefinition"]
      relations := [⟨"hasMethod", "urn:drive"⟩, ⟨"hasOperator", "urn:stop"⟩] },
    { id := "urn:errand", label := some "errand", types := ["ProblemDefinition"]
      relations := [⟨"hasDomain", "urn:road"⟩, ⟨"hasInitialState", "urn:morning"⟩] }]

theorem errandLast_reorders : errandFirst.Reorders {} errandLast where
  perm := by decide
  definitions kind := by cases kind <;> decide

/-- The errand gets another number, and fails for the same reason. -/
theorem errandLast_generate :
    errandFirst.identifiers ≠ errandLast.identifiers ∧
    ∃ graph graph', errandFirst.graph {} = .ok graph ∧ errandLast.graph {} = .ok graph' ∧
      graph'.base.namedOutputs {} = graph.base.namedOutputs {} ∧
      graph'.base.summary.text = graph.base.summary.text := by
  have hdistinct : errandFirst.HasDistinctRecords := by decide
  have hvocabulary : errandFirst.InVocabulary := by decide
  have hfits : errandFirst.relations.length ≤ UInt32.size := by decide
  obtain ⟨graph, graph', hgraph, hgraph', hgenerate, hsummary⟩ :=
    KnowledgeDocument.generate_reordered {} hdistinct hvocabulary hfits errandLast_reorders
  exact ⟨by decide, graph, graph', hgraph, hgraph', (hgenerate {}).1, hsummary⟩

end TaskNet
