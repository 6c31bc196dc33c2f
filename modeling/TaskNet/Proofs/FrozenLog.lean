import TaskNet.Proofs.Replay
import TaskNet.Proofs.StoredOrder

/-!
# Knowledge graphs and their logs

The knowledge graph that is frozen from a replayed log answers every look-up as the log alone does:
entities are numbered as the log introduces them, their labels, comments and kinds are the last ones
given to them, and their relations are those stated between existing entities.
-/

namespace TaskNet.Draft

section

variable {draft : Draft} {log : List Edit}

namespace Represents

/-- The places of entities are the places of their identifiers. -/
theorem getElem?_introduced (h : draft.Represents log) (slot : Nat) :
    (introduced log)[slot]? = draft.profiles[slot]?.map (·.identifier) := by
  rw [← h.identifiers, Draft.identifiers, List.getElem?_map, Array.getElem?_toList]

theorem size_profiles (h : draft.Represents log) :
    draft.profiles.size = (introduced log).length := by
  rw [← h.identifiers, Draft.identifiers, List.length_map, Array.length_toList]

theorem has_freeze (h : draft.Represents log) (id : EntityId) :
    draft.freeze.has id = introduces log id := by
  rw [Draft.has_freeze, h.size_profiles, introduces]

/-- An entity is what the log says of it. -/
theorem getElem?_profiles (h : draft.Represents log) (id : EntityId) :
    draft.profiles[id.slot]? = (introduced log)[id.slot]?.map (profileIn log id) := by
  rw [h.getElem?_introduced]
  cases hprofile : draft.profiles[id.slot]? with
  | none => rfl
  | some profile =>
    obtain ⟨hmem, rfl⟩ := h.wellFormed.getElem?_slot.1 hprofile
    rw [Option.map_some, Option.map_some, ← h.profile profile hmem]

theorem profile?_freeze (h : draft.Represents log) (id : EntityId) :
    draft.freeze.profile? id = (introduced log)[id.slot]?.map (profileIn log id) := by
  rw [KnowledgeGraph.profile?, profiles_freeze, h.getElem?_profiles]

/-- An identifier is found in the place where the log introduces it. -/
theorem find?_freeze (h : draft.Represents log) (identifier : Identifier) (id : EntityId) :
    draft.freeze.find? identifier = some id ↔ (introduced log)[id.slot]? = some identifier := by
  rw [h.wellFormed.find?_freeze, h.wellFormed.find?, h.getElem?_introduced, Option.map_eq_some_iff]
  constructor
  · rintro ⟨profile, hmem, hidentifier, hid⟩
    exact ⟨profile, h.wellFormed.getElem?_slot.2 ⟨hmem, hid⟩, hidentifier⟩
  · rintro ⟨profile, hprofile, hidentifier⟩
    obtain ⟨hmem, hid⟩ := h.wellFormed.getElem?_slot.1 hprofile
    exact ⟨profile, hmem, hidentifier, hid⟩

theorem ids_freeze (h : draft.Represents log) :
    draft.freeze.ids = EntityId.first (introduced log).length := by
  rw [KnowledgeGraph.ids, KnowledgeGraph.entityCount, profiles_freeze, h.size_profiles]

/-- The assertions that the draft has between existing entities are those that the log keeps. -/
theorem map_statement_filter (h : draft.Represents log) :
    (draft.assertions.toList.filter fun assertion =>
      draft.freeze.has assertion.subject && draft.freeze.has assertion.object).map statement =
        kept log := by
  rw [kept, ← h.assertions, List.filter_map]
  simp only [h.has_freeze, Function.comp_def, statement]

theorem assertionCount_freeze (h : draft.Represents log) :
    draft.freeze.assertionCount = (kept log).length := by
  rw [KnowledgeGraph.assertionCount, assertions_freeze, List.length_reverse,
    ← h.map_statement_filter, List.length_map]

/-- As long as ordinals suffice, targets are found in the order in which the log states them. -/
theorem related_freeze (h : draft.Represents log)
    (hcount : (log.filterMap Edit.stated?).length ≤ UInt32.size) (entity : EntityId)
    (relation : Relation) :
    draft.freeze.related entity relation = targets log entity relation := by
  have hsize : draft.assertions.size ≤ UInt32.size := by
    rwa [← h.assertions, List.length_map, Array.length_toList] at hcount
  have hperm : draft.freeze.assertions.Perm (draft.assertions.toList.filter fun assertion =>
      draft.freeze.has assertion.subject && draft.freeze.has assertion.object) := by
    rw [assertions_freeze]
    exact List.reverse_perm _
  have hordinals := (h.wellFormed.pairwise_ordinal hsize).filter fun assertion =>
    draft.freeze.has assertion.subject && draft.freeze.has assertion.object
  have htargets : targets log entity relation =
      ((draft.assertions.toList.filter fun assertion =>
        draft.freeze.has assertion.subject && draft.freeze.has assertion.object).filter
          fun assertion => assertion.subject = entity && assertion.relation = relation).map
            (·.object) := by
    rw [targets, ← h.map_statement_filter, List.filter_map, List.map_map]
    rfl
  rw [KnowledgeGraph.related_eq_of_perm hperm hordinals, htargets]
  by_cases hhas : draft.freeze.has entity
  · rw [if_pos hhas]
  · rw [if_neg hhas, eq_comm, List.map_eq_nil_iff, List.filter_eq_nil_iff]
    intro assertion hassertion hentity
    rw [List.mem_filter, Bool.and_eq_true] at hassertion
    rw [Bool.and_eq_true, decide_eq_true_eq] at hentity
    rw [hentity.1] at hassertion
    exact hhas hassertion.2.1

/-- The name of an entity is the text of its identifier, if it has one. -/
theorem name?_freeze (h : draft.Represents log) {id : EntityId} {text : String}
    (hidentifier : (introduced log)[id.slot]? = some (.named text)) :
    draft.freeze.name? id = some text := by
  rw [KnowledgeGraph.name?, h.profile?_freeze, hidentifier]
  rfl

theorem kind_freeze (h : draft.Represents log) (id : EntityId) :
    draft.freeze.kind id = (lastSet Edit.kind? log id).getD .other := by
  rw [KnowledgeGraph.kind, h.profile?_freeze, lastSet]
  cases (introduced log)[id.slot]? with
  | none => rfl
  | some identifier => rfl

/-- If all identifiers are names, names are turned back into the entities they are the names of. -/
theorem name?_freeze_iff (h : draft.Represents log)
    (hnamed : ∀ identifier ∈ introduced log, identifier.isAnonymous = false) (id : EntityId)
    (text : String) : draft.freeze.name? id = some text ↔
      draft.freeze.find? (.named text) = some id := by
  rw [h.find?_freeze]
  constructor
  · intro hname
    cases hidentifier : (introduced log)[id.slot]? with
    | none =>
      rw [KnowledgeGraph.name?, h.profile?_freeze, hidentifier] at hname
      cases hname
    | some identifier =>
      cases identifier with
      | named name =>
        rw [h.name?_freeze hidentifier] at hname
        rw [Option.some.inj hname]
      | anonymous number =>
        have hnot := hnamed _ (List.mem_of_getElem? hidentifier)
        cases hnot
  · exact h.name?_freeze

/-- The entities of the graph have the numbers that it lists. -/
theorem map_id_freeze (h : draft.Represents log) :
    draft.freeze.profiles.toList.map (·.id) = EntityId.first (introduced log).length := by
  rw [profiles_freeze, ← h.wellFormed.ids_freeze, h.ids_freeze]

end Represents

end

/-- A knowledge graph answers look-ups as a log alone does. -/
structure Answers (graph : KnowledgeGraph) (log : List Edit) : Prop where
  /-- The entities have the numbers from one on. -/
  ids : graph.profiles.toList.map (·.id) = EntityId.first (introduced log).length
  /-- The entities of a kind are those whose last kind it is. -/
  entitiesOfKind : ∀ kind, graph.base.entitiesOfKind kind =
    (EntityId.first (introduced log).length).filter fun id =>
      (lastSet Edit.kind? log id).getD .other = kind
  /-- Identifiers are numbered by their first mention. -/
  find? : ∀ identifier id,
    graph.find? identifier = some id ↔ (introduced log)[id.slot]? = some identifier
  /-- Names are turned back into the entities that they are the names of. -/
  iri : (∀ identifier ∈ introduced log, identifier.isAnonymous = false) → ∀ id text,
    graph.base.iri id = some text ↔ graph.find? (.named text) = some id
  /-- Labels are the last ones that were set once the entity existed. -/
  label : ∀ id, graph.base.label id = lastSet Edit.label? log id
  /-- Comments are the last ones that were set once the entity existed. -/
  comment : ∀ id, graph.base.comment id = lastSet Edit.comment? log id
  /-- Targets are those that were stated, in order, between entities that exist in the end. -/
  related : ∀ subject relation, graph.base.related subject relation = targets log subject relation
  /-- What does not exist is not related to anything. -/
  related_eq_nil : ∀ subject relation, introduces log subject = false →
    graph.base.related subject relation = []
  /-- The stored assertions are those between entities that exist in the end. -/
  assertionCount : graph.assertionCount = (kept log).length
  /-- Every stored assertion is found by one look-up. -/
  assertionCount_eq_sum : graph.assertionCount =
    ((EntityId.first (introduced log).length).map fun id =>
      (Relation.all.map fun relation => (graph.base.related id relation).length).sum).sum

/-- The knowledge graph of a replayed log answers as the log does, as long as ordinals suffice for
the assertions of the log. -/
theorem freeze_replay_answers (log : List Edit)
    (hcount : (log.filterMap Edit.stated?).length ≤ UInt32.size) :
    Answers (replay log).freeze log := by
  have h := represents_replay log
  have hrelated := h.related_freeze hcount
  refine ⟨h.map_id_freeze, fun kind => ?_, h.find?_freeze, h.name?_freeze_iff, fun id => ?_,
    fun id => ?_, hrelated, fun subject relation hmissing => ?_, h.assertionCount_freeze, ?_⟩
  · simp only [KnowledgeGraph.entitiesOfKind_base, h.ids_freeze, h.kind_freeze]
  · rw [KnowledgeGraph.label_base, h.profile?_freeze, Option.bind_map]
    rfl
  · rw [KnowledgeGraph.comment_base, h.profile?_freeze, Option.bind_map]
    rfl
  · rw [KnowledgeGraph.related_base, KnowledgeGraph.related, if_neg]
    rw [h.has_freeze, hmissing]
    exact Bool.false_ne_true
  · rw [← h.ids_freeze]
    exact KnowledgeGraph.assertionCount_eq_sum (has_subject_of_mem_freeze _)

/-- A log that uses numbers too early, and one that never comes to exist. -/
def hastyLog : List Edit :=
  [.setLabel (.ofSlot 1) "early", .relate (.ofSlot 0) .hasMethod (.ofSlot 1),
    .mention (.named "urn:a"), .relate (.ofSlot 0) .hasMethod (.ofSlot 8),
    .mentionLabeled (.named "urn:b") "first", .setKind (.ofSlot 0) .domain,
    .relate (.ofSlot 0) .hasMethod (.ofSlot 1), .mention (.named "urn:a"),
    .setLabel (.ofSlot 1) "second", .relate (.ofSlot 1) .hasFlow (.ofSlot 0)]

/-- Early labels are lost, early relations are not, and missing entities take theirs with them. -/
theorem hastyLog_answers :
    (replay hastyLog).freeze.base.label (.ofSlot 1) = some "second" ∧
      (replay hastyLog).freeze.base.label (.ofSlot 0) = none ∧
      (replay hastyLog).freeze.base.entitiesOfKind .domain = [.ofSlot 0] ∧
      (replay hastyLog).freeze.base.related (.ofSlot 0) .hasMethod = [.ofSlot 1, .ofSlot 1] ∧
      (replay hastyLog).freeze.find? (.named "urn:b") = some (.ofSlot 1) ∧
      (replay hastyLog).freeze.base.iri (.ofSlot 1) = some "urn:b" ∧
      (replay hastyLog).freeze.assertionCount = 3 := by
  have h := freeze_replay_answers hastyLog (by decide)
  have hfind : (replay hastyLog).freeze.find? (.named "urn:b") = some (.ofSlot 1) :=
    (h.find? _ _).2 (by decide)
  refine ⟨(h.label _).trans (by decide), (h.label _).trans (by decide),
    (h.entitiesOfKind _).trans (by decide), (h.related _ _).trans (by decide), hfind, ?_,
    h.assertionCount.trans (by decide)⟩
  exact (h.iri (by decide) _ _).2 hfind

end TaskNet.Draft
