import TaskNet.Proofs.FrozenSayings
import TaskNet.Proofs.SameProgram

/-!
# What a document of records says

A document can be read without any draft: its entities are the identifiers of its records, and after
them the targets that have no record; each entity has the label and the comment that one of its
records gives last, the kind that its class names mark last, and the targets of its relations in
order. Loading a document yields exactly this reading, unless a relation is not in the vocabulary.
-/

namespace TaskNet

/-! ### The reading of a document -/

/-- The name of the relation is in the vocabulary. -/
def RelationRecord.IsKnown (link : RelationRecord) : Prop :=
  ∃ relation ∈ Relation.all, relation.name = link.relation

instance (link : RelationRecord) : Decidable link.IsKnown :=
  inferInstanceAs (Decidable (∃ relation ∈ Relation.all, relation.name = link.relation))

/-- The kind of definition that a class name marks, if it marks any. If both classes have the same
name, it marks domains. -/
def Settings.marked? (settings : Settings) (typeName : String) : Option EntityKind :=
  if typeName = settings.domainType then some .domain
  else if typeName = settings.problemType then some .problem
  else none

/-- Class names that mark no definition are left out. -/
theorem Settings.filter_classify (settings : Settings) (types : List String) :
    (types.map settings.classify).filter (· ≠ .other) = types.filterMap settings.marked? := by
  induction types with
  | nil => rfl
  | cons name rest ih =>
    rw [List.map_cons, List.filter_cons, List.filterMap_cons, ih, classify, marked?]
    split
    · rfl
    · split
      · rfl
      · rfl

namespace KnowledgeDocument

/-- The relations of all records in order, each with the identifier of its record. -/
def relations (document : KnowledgeDocument) : List (String × RelationRecord) :=
  document.entities.flatMap fun record => record.relations.map (record.id, ·)

/-- The first relation in a document that is not in the vocabulary. -/
def firstUnknown? (document : KnowledgeDocument) : Option (String × RelationRecord) :=
  document.relations.find? fun relation => ¬ relation.2.IsKnown

/-- The targets that have no record, in the order in which each comes first. -/
def undeclared (document : KnowledgeDocument) : List Identifier :=
  ((document.relations.map fun relation => Identifier.named relation.2.target).filter
    (· ∉ document.declared)).eraseDups

/-- The identifiers of all entities, in the order of their numbers. -/
def identifiers (document : KnowledgeDocument) : List Identifier :=
  document.declared ++ document.undeclared

/-- The records of an identifier, in order. -/
def recordsOf (document : KnowledgeDocument) (identifier : Identifier) : List EntityRecord :=
  document.entities.filter fun record => .named record.id = identifier

/-- What the records of an identifier give last. -/
def description (settings : Settings) (document : KnowledgeDocument) (identifier : Identifier) :
    Description where
  label := lastGiven EntityRecord.label (document.recordsOf identifier)
  comment := lastGiven EntityRecord.comment (document.recordsOf identifier)
  kind := (lastGiven settings.marked?
    ((document.recordsOf identifier).flatMap EntityRecord.types)).getD .other

/-- The targets of a relation in the records of an identifier, in order. -/
def targetsOf (document : KnowledgeDocument) (identifier : Identifier) (relation : Relation) :
    List Identifier :=
  ((document.recordsOf identifier).flatMap EntityRecord.relations).filterMap fun link =>
    if link.relation = relation.name then some (.named link.target) else none

end KnowledgeDocument

/-! ### Relations outside the vocabulary -/

theorem RelationRecord.isSome_ofName? {link : RelationRecord} :
    (Relation.ofName? link.relation).isSome ↔ link.IsKnown := by
  simp only [Relation.ofName?, List.find?_isSome, decide_eq_true_eq, IsKnown]

namespace Draft

/-- Stating a relation fails exactly if the vocabulary lacks it. -/
theorem connect_eq_error {record : EntityRecord} {link : RelationRecord} (h : ¬ link.IsKnown)
    (draft : Draft) :
    draft.connect record link = .error (.unknownRelation record.id link.relation) := by
  rw [← RelationRecord.isSome_ofName?, Option.not_isSome_iff_eq_none] at h
  rw [connect, h]

theorem exists_connect_eq_ok {link : RelationRecord} (h : link.IsKnown) (record : EntityRecord)
    (draft : Draft) : ∃ connected, draft.connect record link = .ok connected := by
  rw [← RelationRecord.isSome_ofName?, Option.isSome_iff_exists] at h
  obtain ⟨relation, hrelation⟩ := h
  rw [connect, hrelation]
  exact ⟨_, rfl⟩

/-- Stating relations one by one stops at the first that the vocabulary lacks. -/
theorem foldlM_connect_eq_error_iff (relations : List (String × RelationRecord)) (draft : Draft)
    (error : LoadError) :
    relations.foldlM (fun draft relation => connect { id := relation.1 } draft relation.2) draft =
        .error error ↔
      ∃ id link, relations.find? (fun relation => ¬ relation.2.IsKnown) = some (id, link) ∧
        error = .unknownRelation id link.relation := by
  induction relations generalizing draft with
  | nil =>
    rw [List.foldlM_nil, List.find?_nil]
    exact ⟨nofun, nofun⟩
  | cons first rest ih =>
    rw [List.foldlM_cons, List.find?_cons]
    by_cases hknown : first.2.IsKnown
    · obtain ⟨connected, hconnected⟩ := exists_connect_eq_ok hknown { id := first.1 } draft
      rw [hconnected, decide_eq_false (not_not_intro hknown)]
      exact ih connected
    · rw [connect_eq_error hknown, decide_eq_true hknown]
      constructor
      · rintro ⟨⟩
        exact ⟨first.1, first.2, rfl, rfl⟩
      · rintro ⟨_, _, ⟨⟩, rfl⟩
        rfl

end Draft

namespace EntityRecord

variable {record : EntityRecord}

/-- What is given by what a record says is given of its own identifier. -/
theorem filterMap_given?_about {α : Type} (value? : Remark → Option α) (identifier : Identifier)
    (remarks : List Remark) :
    (record.about remarks).filterMap (Saying.given? value? identifier) =
      if identifier = .named record.id then remarks.filterMap value? else [] := by
  rw [about, List.filterMap_map]
  by_cases hidentifier : identifier = .named record.id
  · rw [if_pos hidentifier]
    refine List.filterMap_congr fun remark _ => ?_
    rw [Function.comp_apply, Saying.given?, if_pos hidentifier]
  · rw [if_neg hidentifier, List.filterMap_eq_nil_iff]
    intro remark _
    rw [Function.comp_apply, Saying.given?, if_neg hidentifier]

/-- What a record says of its own entity is its label, its comment and the kinds that its class
names mark. -/
theorem filterMap_remarks {α : Type} (value? : Remark → Option α) (settings : Settings)
    (record : EntityRecord) : (record.remarks settings).filterMap value? =
      (record.label.bind fun text => value? (.label text)).toList ++
        (record.comment.bind fun text => value? (.comment text)).toList ++
          (record.types.filterMap settings.marked?).filterMap fun kind => value? (.kind kind) := by
  have hoption (text? : Option String) (remark : String → Remark) :
      (text?.toList.map remark).filterMap value? =
        (text?.bind fun text => value? (remark text)).toList := by
    cases text? with
    | none => rfl
    | some text =>
      rw [Option.toList_some, List.map_singleton, List.filterMap_eq_flatMap_toList,
        List.flatMap_singleton, Option.bind_some]
  rw [remarks, List.filterMap_append, List.filterMap_append, hoption, hoption,
    settings.filter_classify, List.filterMap_map]
  rfl

end EntityRecord

namespace KnowledgeDocument

variable {settings : Settings} {document : KnowledgeDocument}

/-- Record by record, the relations are connected one after the other. -/
theorem foldlM_connect_eq (records : List EntityRecord) (draft : Draft) :
    records.foldlM (fun draft record => record.relations.foldlM (Draft.connect record) draft)
        draft =
      (relations ⟨records⟩).foldlM (fun draft relation =>
        Draft.connect { id := relation.1 } draft relation.2) draft := by
  unfold relations
  induction records generalizing draft with
  | nil => rfl
  | cons record rest ih =>
    rw [List.foldlM_cons, List.flatMap_cons, List.foldlM_append, List.foldlM_map]
    congr 1
    funext next
    exact ih next

/-- Loading fails exactly at the first relation that the vocabulary lacks. -/
theorem graph_eq_error_iff (settings : Settings) (document : KnowledgeDocument)
    (error : LoadError) : document.graph settings = .error error ↔
      ∃ id link, document.firstUnknown? = some (id, link) ∧
        error = .unknownRelation id link.relation := by
  unfold firstUnknown?
  rw [← Draft.foldlM_connect_eq_error_iff _
    (document.entities.foldl (Draft.describe settings) Draft.empty) error, ← foldlM_connect_eq]
  unfold graph
  simp only
  cases document.entities.foldlM (fun draft record =>
    record.relations.foldlM (Draft.connect record) draft)
      (document.entities.foldl (Draft.describe settings) Draft.empty) with
  | error failure =>
    constructor
    · rintro ⟨⟩
      rfl
    · rintro ⟨⟩
      rfl
  | ok connected => exact ⟨nofun, nofun⟩

theorem inVocabulary_iff : document.InVocabulary ↔ document.firstUnknown? = none := by
  unfold InVocabulary firstUnknown? relations
  simp only [RelationRecord.isSome_ofName?, List.find?_eq_none, List.mem_flatMap, List.mem_map,
    decide_eq_true_eq, not_not]
  constructor
  · rintro h _ ⟨record, hrecord, link, hlink, rfl⟩
    exact h record hrecord link hlink
  · intro h record hrecord link hlink
    exact h (record.id, link) ⟨record, hrecord, link, hlink, rfl⟩

/-! ### Sayings of a document -/

/-- What a relation of a record says, if the vocabulary has it. -/
def linked? (relation : String × RelationRecord) : Option Saying :=
  (Relation.ofName? relation.2.relation).map fun name =>
    ⟨.named relation.1, .link name (.named relation.2.target)⟩

/-- Presences and descriptions are said first, and then the relations in order. -/
theorem sayings_eq (settings : Settings) (document : KnowledgeDocument) :
    document.sayings settings =
      (document.entities.flatMap fun record =>
        record.about (.presence :: record.remarks settings)) ++
      document.relations.filterMap linked? := by
  unfold sayings relations
  congr 1
  rw [List.filterMap_flatMap]
  refine List.flatMap_congr fun record _ => ?_
  rw [EntityRecord.about, EntityRecord.links, List.map_filterMap, List.filterMap_map]
  refine List.filterMap_congr fun link _ => ?_
  rw [Option.map_map]
  rfl

/-- The links of a document are its relations. -/
theorem links_sayings (settings : Settings) (document : KnowledgeDocument) :
    Saying.links (document.sayings settings) = document.relations.filterMap fun relation =>
      (Relation.ofName? relation.2.relation).map fun name =>
        (.named relation.1, name, .named relation.2.target) := by
  have hdescribed (record : EntityRecord) :
      (record.about (.presence :: record.remarks settings)).filterMap Saying.link? = [] :=
    EntityRecord.filterMap_link?_about_remarks settings record
  rw [sayings_eq, Saying.links, List.filterMap_append, List.filterMap_flatMap,
    List.flatMap_eq_nil_iff.2 fun record _ => hdescribed record, List.nil_append,
    List.filterMap_filterMap]
  refine List.filterMap_congr fun relation _ => ?_
  rw [linked?]
  cases Relation.ofName? relation.2.relation with
  | none => rfl
  | some name => rfl

theorem exists_ofName?_of_mem_relations (h : document.firstUnknown? = none) :
    ∀ relation ∈ document.relations,
      ∃ name, Relation.ofName? relation.2.relation = some name := by
  intro relation hrelation
  have hknown := List.find?_eq_none.1 h relation hrelation
  rw [decide_eq_true_eq, not_not] at hknown
  exact Option.isSome_iff_exists.1 (RelationRecord.isSome_ofName?.2 hknown)

/-- If the vocabulary has all relations, all of them are links. -/
theorem length_links_sayings (settings : Settings) (h : document.firstUnknown? = none) :
    (Saying.links (document.sayings settings)).length = document.relations.length := by
  rw [links_sayings, List.length_filterMap_eq_countP, List.countP_eq_length]
  intro relation hrelation
  obtain ⟨name, hname⟩ := exists_ofName?_of_mem_relations h relation hrelation
  rw [hname]
  rfl

/-- The records of an identifier are what is left if the others yield nothing. -/
theorem flatMap_recordsOf {α : Type} (document : KnowledgeDocument) (identifier : Identifier)
    (entries : EntityRecord → List α) :
    (document.recordsOf identifier).flatMap entries = document.entities.flatMap fun record =>
      if identifier = .named record.id then entries record else [] := by
  unfold recordsOf
  induction document.entities with
  | nil => rfl
  | cons record rest ih =>
    rw [List.filter_cons, List.flatMap_cons, ← ih]
    by_cases hrecord : identifier = .named record.id
    · rw [if_pos (decide_eq_true hrecord.symm), if_pos hrecord, List.flatMap_cons]
    · rw [if_neg fun hsame => hrecord (of_decide_eq_true hsame).symm, if_neg hrecord,
        List.nil_append]

/-- The objects of a subject are the targets in its records. -/
theorem objects_sayings (settings : Settings) (document : KnowledgeDocument)
    (identifier : Identifier) (relation : Relation) :
    Saying.objects (document.sayings settings) identifier relation =
      document.targetsOf identifier relation := by
  rw [Saying.objects, links_sayings, List.filter_filterMap, List.map_filterMap, targetsOf,
    flatMap_recordsOf, relations, List.filterMap_flatMap, List.filterMap_flatMap]
  refine List.flatMap_congr fun record _ => ?_
  rw [List.filterMap_map]
  by_cases hrecord : identifier = .named record.id
  · rw [if_pos hrecord]
    refine List.filterMap_congr fun link _ => ?_
    by_cases hrelation : link.relation = relation.name
    · have hfound := Relation.ofName?_eq_some_iff.2 hrelation
      rw [if_pos hrelation, Function.comp_apply, hfound]
      simp [hrecord]
    · rw [if_neg hrelation]
      cases hfound : Relation.ofName? link.relation with
      | none => simp [hfound]
      | some other =>
        have hother : other ≠ relation := by
          rintro rfl
          exact hrelation (Relation.ofName?_eq_some_iff.1 hfound)
        simp [hfound, hother]
  · have hother : ¬ Identifier.named record.id = identifier := fun hsame => hrecord hsame.symm
    rw [if_neg hrecord, List.filterMap_nil, List.filterMap_eq_nil_iff]
    intro link _
    simp [hother]

/-- Sayings mention the identifiers of the records first, and then the other targets. -/
theorem introduced_sayings (settings : Settings) (h : document.firstUnknown? = none) :
    Saying.introduced (document.sayings settings) = document.identifiers := by
  have hdeclared := document.eraseDups_mentions_described settings
  have hmentions : (document.relations.filterMap linked?).flatMap Saying.mentions =
      document.relations.flatMap fun relation =>
        [.named relation.1, .named relation.2.target] := by
    rw [List.filterMap_eq_flatMap_toList, List.flatMap_assoc]
    refine List.flatMap_congr fun relation hrelation => ?_
    obtain ⟨name, hname⟩ := exists_ofName?_of_mem_relations h relation hrelation
    rw [linked?, hname]
    rfl
  have hsubject : ∀ relation ∈ document.relations,
      Identifier.named relation.1 ∈ document.declared := by
    intro relation hrelation
    obtain ⟨record, hrecord, hmem⟩ := List.mem_flatMap.1 hrelation
    obtain ⟨link, -, rfl⟩ := List.mem_map.1 hmem
    rw [declared, List.mem_eraseDups]
    exact List.mem_map.2 ⟨record, hrecord, rfl⟩
  have hothers : (document.relations.flatMap fun relation =>
      [Identifier.named relation.1, .named relation.2.target]).filter (· ∉ document.declared) =
        (document.relations.map fun relation => Identifier.named relation.2.target).filter
          (· ∉ document.declared) := by
    rw [List.map_eq_flatMap, List.filter_flatMap, List.filter_flatMap]
    refine List.flatMap_congr fun relation hrelation => ?_
    rw [List.filter_cons_of_neg (by simp [hsubject relation hrelation])]
  have hremoved (entries : List Identifier) : entries.removeAll ((document.entities.flatMap
      fun record => record.about (.presence :: record.remarks settings)).flatMap
        Saying.mentions) = entries.filter (· ∉ document.declared) := by
    rw [← hdeclared, List.removeAll]
    refine List.filter_congr fun entry _ => ?_
    simp only [List.elem_eq_mem, List.mem_eraseDups, decide_not]
  rw [Saying.introduced, sayings_eq, List.flatMap_append, List.eraseDups_append, hdeclared,
    hremoved, hmentions, hothers]
  rfl

/-- What sayings say last of an identifier is what its records give last. -/
theorem described_sayings (settings : Settings) (document : KnowledgeDocument)
    (identifier : Identifier) :
    Saying.described (document.sayings settings) identifier =
      document.description settings identifier := by
  have hgiven {α : Type} (value? : Remark → Option α) (hpresence : value? .presence = none)
      (hlink : ∀ relation object, value? (.link relation object) = none) :
      (document.sayings settings).filterMap (Saying.given? value? identifier) =
        (document.recordsOf identifier).flatMap fun record =>
          (record.remarks settings).filterMap value? := by
    have hlinked : (document.relations.filterMap linked?).filterMap
        (Saying.given? value? identifier) = [] := by
      rw [List.filterMap_eq_nil_iff]
      intro saying hsaying
      obtain ⟨relation, -, hrelation⟩ := List.mem_filterMap.1 hsaying
      obtain ⟨name, -, rfl⟩ := Option.map_eq_some_iff.1 hrelation
      rw [Saying.given?, hlink, ite_self]
    rw [sayings_eq, List.filterMap_append, hlinked, List.append_nil, flatMap_recordsOf,
      List.filterMap_flatMap]
    refine List.flatMap_congr fun record _ => ?_
    rw [EntityRecord.filterMap_given?_about, List.filterMap_cons_none hpresence]
  have hlabel : lastGiven (Saying.given? Remark.label? identifier) (document.sayings settings) =
      lastGiven EntityRecord.label (document.recordsOf identifier) := by
    rw [lastGiven, lastGiven, hgiven _ rfl fun _ _ => rfl, List.filterMap_eq_flatMap_toList]
    simp [EntityRecord.filterMap_remarks, Remark.label?]
  have hcomment : lastGiven (Saying.given? Remark.comment? identifier)
      (document.sayings settings) =
      lastGiven EntityRecord.comment (document.recordsOf identifier) := by
    rw [lastGiven, lastGiven, hgiven _ rfl fun _ _ => rfl, List.filterMap_eq_flatMap_toList]
    simp [EntityRecord.filterMap_remarks, Remark.comment?]
  have hkind : lastGiven (Saying.given? Remark.kind? identifier) (document.sayings settings) =
      lastGiven settings.marked?
        ((document.recordsOf identifier).flatMap EntityRecord.types) := by
    rw [lastGiven, lastGiven, hgiven _ rfl fun _ _ => rfl, List.filterMap_flatMap]
    simp [EntityRecord.filterMap_remarks, Remark.kind?]
  rw [Saying.described, description, hlabel, hcomment, hkind]

end KnowledgeDocument

/-! ### Loading reads documents -/

/-- Loading a document fails exactly if a relation is not in the vocabulary, and then at the first
one. Otherwise, as long as ordinals suffice for the relations, the graph has what the document says:
entities are numbered in the order of their records, and then in that of targets without a record;
each has the label and the comment that its records give last, the kind that they mark last, and the
targets of its relations in order. -/
theorem KnowledgeDocument.graph_reads (settings : Settings) (document : KnowledgeDocument) :
    ((∃ error, document.graph settings = .error error) ↔
      ∃ record ∈ document.entities, ∃ link ∈ record.relations, ¬ link.IsKnown) ∧
    (∀ error, document.graph settings = .error error ↔
      ∃ id link, document.firstUnknown? = some (id, link) ∧
        error = .unknownRelation id link.relation) ∧
    (document.firstUnknown? = none → document.relations.length ≤ UInt32.size →
      ∃ graph, document.graph settings = .ok graph ∧
        graph.Holds document.identifiers (document.description settings) document.targetsOf ∧
        graph.assertionCount = document.relations.length) := by
  refine ⟨?_, document.graph_eq_error_iff settings, fun hknown hcount => ?_⟩
  · have hfirst : (∃ error, document.graph settings = .error error) ↔
        document.firstUnknown? ≠ none := by
      rw [Option.ne_none_iff_exists']
      constructor
      · rintro ⟨error, herror⟩
        obtain ⟨id, link, hlink, -⟩ := (document.graph_eq_error_iff settings error).1 herror
        exact ⟨(id, link), hlink⟩
      · rintro ⟨⟨id, link⟩, hlink⟩
        exact ⟨_, (document.graph_eq_error_iff settings _).2 ⟨id, link, hlink, rfl⟩⟩
    rw [hfirst, ne_eq, ← inVocabulary_iff, InVocabulary]
    simp only [RelationRecord.isSome_ofName?, not_forall, exists_prop]
  · have hvocabulary := inVocabulary_iff.2 hknown
    have hlinks := document.length_links_sayings settings hknown
    have htells := tells_foldl_say (hlinks.trans_le hcount)
    have hholds := htells.holds
    have hdescribed : Saying.described (document.sayings settings) =
        document.description settings := by
      funext identifier
      exact document.described_sayings settings identifier
    have hobjects : Saying.objects (document.sayings settings) = document.targetsOf := by
      funext identifier relation
      exact document.objects_sayings settings identifier relation
    rw [document.introduced_sayings settings hknown, hdescribed, hobjects] at hholds
    exact ⟨_, graph_eq settings hvocabulary, hholds, htells.assertionCount.trans hlinks⟩

/-- A road with two records, a way to drive on it that calls itself, and a way to stop that has no
record. -/
def repeatedDocument : KnowledgeDocument where
  entities := [
    { id := "urn:road", label := some "Way", types := ["Road", "DomainDefinition"]
      relations := [⟨"hasOperator", "urn:stop"⟩, ⟨"hasMethod", "urn:drive"⟩] },
    { id := "urn:drive", comment := some "Parameters: [car]"
      relations := [⟨"consistsOfMethod", "urn:drive"⟩] },
    { id := "urn:road", label := some "Road"
      relations := [⟨"hasOperator", "urn:drive"⟩, ⟨"hasOperator", "urn:stop"⟩] }]

/-- The label is that of the later record, the kind that of the earlier one, and the operators are
those of both. -/
theorem repeatedDocument_reads : ∃ graph, repeatedDocument.graph {} = .ok graph ∧
    graph.entityCount = 3 ∧ graph.assertionCount = 5 ∧
    graph.base.entitiesOfKind .domain = [.ofSlot 0] ∧
    graph.base.label (.ofSlot 0) = some "Road" ∧
    graph.base.related (.ofSlot 0) .hasOperator = [.ofSlot 2, .ofSlot 1, .ofSlot 2] ∧
    graph.base.iri (.ofSlot 2) = some "urn:stop" ∧ graph.base.label (.ofSlot 2) = none := by
  have hknown : repeatedDocument.firstUnknown? = none := by decide
  have hcount : repeatedDocument.relations.length ≤ UInt32.size := by decide
  obtain ⟨graph, hgraph, hholds, hassertions⟩ :=
    (repeatedDocument.graph_reads {}).2.2 hknown hcount
  have hroad : numberIn repeatedDocument.identifiers (.named "urn:road") = .ofSlot 0 := by decide
  have hstop : numberIn repeatedDocument.identifiers (.named "urn:stop") = .ofSlot 2 := by decide
  have hlabel := hholds.label (.named "urn:road") (by decide)
  have hrelated := hholds.related (.named "urn:road") (by decide) .hasOperator
  have hiri := hholds.iri "urn:stop" (by decide)
  have hunlabeled := hholds.label (.named "urn:stop") (by decide)
  rw [hroad] at hlabel hrelated
  rw [hstop] at hiri hunlabeled
  refine ⟨graph, hgraph, hholds.entityCount, hassertions, ?_, hlabel, ?_, hiri, hunlabeled⟩
  · rw [hholds.entitiesOfKind]
    decide
  · rw [hrelated]
    decide

end TaskNet
