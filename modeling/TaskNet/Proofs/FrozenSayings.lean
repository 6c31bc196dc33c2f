import TaskNet.Proofs.SameSayings
import TaskNet.Proofs.StoredOrder

/-!
# Knowledge graphs and what was said

The knowledge graph that is frozen after a sequence of sayings tells what they say and nothing else:
identifiers are numbered by their first mention, each entity is what was said last of it, and is
related to the objects of its links in order. So questions about a loaded knowledge base are
questions about lists of sayings.
-/

namespace TaskNet

/-- The number of the entity with this identifier, if the entities are listed by their
identifiers. -/
def numberIn (identifiers : List Identifier) (identifier : Identifier) : EntityId :=
  .ofSlot (identifiers.idxOf identifier)

namespace Saying

/-- The objects that sayings link a subject to by a relation, in order. -/
def objects (sayings : List Saying) (subject : Identifier) (relation : Relation) :
    List Identifier :=
  ((links sayings).filter fun (other, stated, _) => other = subject && stated = relation).map
    (·.2.2)

/-- The number of the entity of an identifier, if sayings mention it. -/
def number (sayings : List Saying) : Identifier → EntityId :=
  numberIn (introduced sayings)

theorem number_of_getElem? {sayings : List Saying} {identifier : Identifier} {id : EntityId}
    (h : (introduced sayings)[id.slot]? = some identifier) : number sayings identifier = id := by
  obtain ⟨hslot, rfl⟩ := List.getElem?_eq_some_iff.1 h
  have hnodup : (introduced sayings).Nodup := nodup_eraseDups _
  rw [number, numberIn, hnodup.idxOf_getElem, EntityId.ofSlot_slot]

theorem getElem?_number {sayings : List Saying} {identifier : Identifier}
    (h : identifier ∈ introduced sayings) :
    (introduced sayings)[(number sayings identifier).slot]? = some identifier := by
  obtain ⟨slot, hslot⟩ := List.mem_iff_getElem?.1 h
  have hnumber : number sayings identifier = .ofSlot slot := number_of_getElem? hslot
  rw [hnumber, EntityId.slot_ofSlot, hslot]

/-- Identifiers are numbered from one on. -/
theorem map_number (sayings : List Saying) :
    (introduced sayings).map (number sayings) = EntityId.first (introduced sayings).length := by
  apply List.ext_getElem?
  intro slot
  rw [EntityId.first, List.getElem?_map, List.getElem?_map]
  cases hidentifier : (introduced sayings)[slot]? with
  | none =>
    have hend : (List.range (introduced sayings).length).length ≤ slot := by
      rw [List.length_range]
      exact List.getElem?_eq_none_iff.1 hidentifier
    rw [List.getElem?_eq_none hend]
    rfl
  | some identifier =>
    obtain ⟨hslot, -⟩ := List.getElem?_eq_some_iff.1 hidentifier
    have hnumber : number sayings identifier = .ofSlot slot := number_of_getElem? hidentifier
    rw [List.getElem?_range hslot, Option.map_some, Option.map_some, hnumber]

/-- What sayings link to is mentioned by them. -/
theorem mem_introduced_of_mem_objects {sayings : List Saying} {subject : Identifier}
    {relation : Relation} : ∀ object ∈ objects sayings subject relation,
      object ∈ introduced sayings := by
  intro object hobject
  obtain ⟨link, hlink, rfl⟩ := List.mem_map.1 hobject
  obtain ⟨saying, hsaying, hgiven⟩ := List.mem_filterMap.1 (List.mem_filter.1 hlink).1
  obtain ⟨pair, hpair, rfl⟩ := Option.map_eq_some_iff.1 hgiven
  rw [introduced, List.mem_eraseDups, List.mem_flatMap]
  refine ⟨saying, hsaying, List.mem_cons_of_mem _ ?_⟩
  rw [hpair]
  exact List.mem_singleton_self _

/-- What sayings say of an identifier, as the profile of an entity with this number. -/
def profile (sayings : List Saying) (id : EntityId) (identifier : Identifier) : Profile :=
  { described sayings identifier with id, identifier }

end Saying

/-- A knowledge graph tells what sayings say, and nothing else. -/
structure KnowledgeGraph.Tells (graph : KnowledgeGraph) (sayings : List Saying) : Prop where
  /-- The entities have the numbers from one on. -/
  ids : graph.profiles.toList.map (·.id) = EntityId.first (Saying.introduced sayings).length
  /-- Identifiers are numbered by their first mention. -/
  find? : ∀ identifier id, graph.find? identifier = some id ↔
    (Saying.introduced sayings)[id.slot]? = some identifier
  /-- Each entity is what was said last of its identifier. -/
  profile? : ∀ id, graph.profile? id =
    (Saying.introduced sayings)[id.slot]?.map (Saying.profile sayings id)
  /-- Each entity is related to the objects of its links, in order. -/
  related : ∀ id relation, graph.related id relation =
    ((Saying.introduced sayings)[id.slot]?.elim [] (Saying.objects sayings · relation)).map
      (Saying.number sayings)
  /-- Every link is asserted. -/
  assertionCount : graph.assertionCount = (Saying.links sayings).length

namespace Draft.Outlines

variable {draft : Draft} {sayings : List Saying}

/-- The places of entities are the places of their identifiers. -/
theorem getElem?_introduced (h : draft.Outlines sayings) (slot : Nat) :
    (Saying.introduced sayings)[slot]? = draft.profiles[slot]?.map (·.identifier) := by
  rw [← h.identifiers, Draft.identifiers, List.getElem?_map, Array.getElem?_toList]

theorem find?_iff (h : draft.Outlines sayings) (identifier : Identifier) (id : EntityId) :
    draft.find? identifier = some id ↔
      (Saying.introduced sayings)[id.slot]? = some identifier := by
  rw [h.wellFormed.find?, h.getElem?_introduced, Option.map_eq_some_iff]
  constructor
  · rintro ⟨profile, hmem, hidentifier, hid⟩
    exact ⟨profile, h.wellFormed.getElem?_slot.2 ⟨hmem, hid⟩, hidentifier⟩
  · rintro ⟨profile, hprofile, hidentifier⟩
    obtain ⟨hmem, hid⟩ := h.wellFormed.getElem?_slot.1 hprofile
    exact ⟨profile, hmem, hidentifier, hid⟩

theorem size_profiles (h : draft.Outlines sayings) :
    draft.profiles.size = (Saying.introduced sayings).length := by
  rw [← h.identifiers, Draft.identifiers, List.length_map, Array.length_toList]

theorem profile?_eq (h : draft.Outlines sayings) (id : EntityId) :
    draft.freeze.profile? id =
      (Saying.introduced sayings)[id.slot]?.map (Saying.profile sayings id) := by
  rw [KnowledgeGraph.profile?, profiles_freeze, h.getElem?_introduced]
  cases hprofile : draft.profiles[id.slot]? with
  | none => rfl
  | some profile =>
    obtain ⟨hmem, rfl⟩ := h.wellFormed.getElem?_slot.1 hprofile
    rw [Option.map_some, Option.map_some, Saying.profile, ← h.profile profile hmem]

theorem length_assertions (h : draft.Outlines sayings) :
    draft.assertions.size = (Saying.links sayings).length := by
  rw [h.assertions.length_eq, Array.length_toList]

/-- As long as ordinals suffice, an entity is related to the objects of its links, in order. -/
theorem related_freeze (h : draft.Outlines sayings)
    (hcount : (Saying.links sayings).length ≤ UInt32.size) {subject : Identifier} {id : EntityId}
    (hsubject : draft.find? subject = some id) (relation : Relation) :
    draft.freeze.related id relation =
      (Saying.objects sayings subject relation).map (Saying.number sayings) := by
  have hperm : draft.freeze.assertions.Perm draft.assertions.toList := by
    rw [h.assertions_freeze]
    exact List.reverse_perm _
  have hordinals := h.wellFormed.pairwise_ordinal (h.length_assertions ▸ hcount)
  have hhits : List.Forall₂ draft.Asserts
      ((Saying.links sayings).filter fun (other, stated, _) =>
        other = subject && stated = relation)
      (draft.assertions.toList.filter fun assertion =>
        assertion.subject = id && assertion.relation = relation) := by
    refine List.rel_filter (fun link assertion hasserts => ?_) h.assertions
    have hsame : link.1 = subject ↔ assertion.subject = id := by
      constructor
      · rintro rfl
        exact Option.some.inj (hasserts.subject.symm.trans hsubject)
      · rintro rfl
        exact h.wellFormed.find?_inj hasserts.subject hsubject
    simp only [Bool.and_eq_true, decide_eq_true_eq, hsame, hasserts.relation]
  have hobjects : List.Forall₂ (fun object target => Saying.number sayings object = target)
      (Saying.objects sayings subject relation)
      ((draft.assertions.toList.filter fun assertion =>
        assertion.subject = id && assertion.relation = relation).map (·.object)) := by
    rw [Saying.objects, List.forall₂_map_left_iff, List.forall₂_map_right_iff]
    refine hhits.imp fun link assertion hasserts => ?_
    exact Saying.number_of_getElem? ((h.find?_iff _ _).1 hasserts.object)
  rw [KnowledgeGraph.related_eq_of_perm hperm hordinals, if_pos (h.has_freeze hsubject)]
  rw [← List.forall₂_map_left_iff, List.forall₂_eq_eq_eq] at hobjects
  exact hobjects.symm

/-- The graph of a draft tells what was said, as long as ordinals suffice for the links. -/
theorem tells (h : draft.Outlines sayings)
    (hcount : (Saying.links sayings).length ≤ UInt32.size) : draft.freeze.Tells sayings where
  ids := by
    rw [profiles_freeze, ← h.wellFormed.ids_freeze, KnowledgeGraph.ids, KnowledgeGraph.entityCount,
      profiles_freeze, h.size_profiles]
  find? identifier id := by rw [h.wellFormed.find?_freeze, h.find?_iff]
  profile? := h.profile?_eq
  related id relation := by
    cases hidentifier : (Saying.introduced sayings)[id.slot]? with
    | some subject => exact h.related_freeze hcount ((h.find?_iff _ _).2 hidentifier) relation
    | none =>
      have hmissing : draft.freeze.has id = false := by
        rw [Draft.has_freeze, decide_eq_false_iff_not, h.size_profiles, Nat.not_lt]
        exact List.getElem?_eq_none_iff.1 hidentifier
      rw [KnowledgeGraph.related, hmissing]
      rfl
  assertionCount := by
    rw [KnowledgeGraph.assertionCount, h.assertions_freeze, List.length_reverse,
      Array.length_toList, h.length_assertions]

end Draft.Outlines

/-- Whatever is said, the graph that is frozen then tells it, as long as ordinals suffice. -/
theorem tells_foldl_say {sayings : List Saying}
    (hcount : (Saying.links sayings).length ≤ UInt32.size) :
    (sayings.foldl Draft.say Draft.empty).freeze.Tells sayings :=
  (Draft.outlines_foldl_say sayings).tells hcount

namespace KnowledgeGraph.Tells

variable {graph : KnowledgeGraph} {sayings : List Saying}

theorem entityCount (h : graph.Tells sayings) :
    graph.entityCount = (Saying.introduced sayings).length := by
  have hlength := congrArg List.length h.ids
  rw [List.length_map, EntityId.first, List.length_map, List.length_range] at hlength
  exact hlength

theorem ids_eq (h : graph.Tells sayings) :
    graph.ids = EntityId.first (Saying.introduced sayings).length := by
  rw [KnowledgeGraph.ids, h.entityCount]

theorem label (h : graph.Tells sayings) (id : EntityId) : graph.base.label id =
    (Saying.introduced sayings)[id.slot]?.bind fun identifier =>
      (Saying.described sayings identifier).label := by
  rw [label_base, h.profile?, Option.bind_map]
  rfl

theorem comment (h : graph.Tells sayings) (id : EntityId) : graph.base.comment id =
    (Saying.introduced sayings)[id.slot]?.bind fun identifier =>
      (Saying.described sayings identifier).comment := by
  rw [comment_base, h.profile?, Option.bind_map]
  rfl

theorem kind (h : graph.Tells sayings) (id : EntityId) : graph.kind id =
    ((Saying.introduced sayings)[id.slot]?.map fun identifier =>
      (Saying.described sayings identifier).kind).getD .other := by
  rw [KnowledgeGraph.kind, h.profile?, Option.map_map]
  rfl

/-- The entities of a kind are numbered like their identifiers. -/
theorem entitiesOfKind (h : graph.Tells sayings) (kind : EntityKind) :
    graph.base.entitiesOfKind kind =
      ((Saying.introduced sayings).filter fun identifier =>
        (Saying.described sayings identifier).kind = kind).map (Saying.number sayings) := by
  rw [entitiesOfKind_base, h.ids_eq, ← Saying.map_number, List.filter_map]
  refine congrArg (List.map _) (List.filter_congr fun identifier hidentifier => ?_)
  rw [Function.comp_apply, h.kind, Saying.getElem?_number hidentifier]
  rfl

/-- Entities with a name are shown by it. -/
theorem iri (h : graph.Tells sayings) {id : EntityId} {text : String}
    (hidentifier : (Saying.introduced sayings)[id.slot]? = some (.named text)) :
    graph.base.iri id = some text := by
  rw [iri_base, name?, h.profile?, hidentifier]
  rfl

theorem iri_eq_none (h : graph.Tells sayings) {id : EntityId}
    (hidentifier : (Saying.introduced sayings)[id.slot]? = none) : graph.base.iri id = none := by
  rw [iri_base, name?, h.profile?, hidentifier]
  rfl

end KnowledgeGraph.Tells

/-! ### What a graph holds -/

/-- A knowledge graph answers all questions as these lists and functions do: its entities have these
identifiers in the order of their numbers, they are described like this, and they are related to
these targets in order. It has nothing else. -/
structure KnowledgeGraph.Holds (graph : KnowledgeGraph) (identifiers : List Identifier)
    (description : Identifier → Description)
    (targets : Identifier → Relation → List Identifier) : Prop where
  entityCount : graph.entityCount = identifiers.length
  find? : ∀ identifier, graph.find? identifier =
    if identifier ∈ identifiers then some (numberIn identifiers identifier) else none
  entitiesOfKind : ∀ kind, graph.base.entitiesOfKind kind =
    (identifiers.filter fun identifier => (description identifier).kind = kind).map
      (numberIn identifiers)
  iri : ∀ name, .named name ∈ identifiers →
    graph.base.iri (numberIn identifiers (.named name)) = some name
  label : ∀ identifier ∈ identifiers,
    graph.base.label (numberIn identifiers identifier) = (description identifier).label
  comment : ∀ identifier ∈ identifiers,
    graph.base.comment (numberIn identifiers identifier) = (description identifier).comment
  related : ∀ identifier ∈ identifiers, ∀ relation,
    graph.base.related (numberIn identifiers identifier) relation =
      (targets identifier relation).map (numberIn identifiers)
  absent : ∀ id : EntityId, identifiers.length ≤ id.slot →
    graph.base.iri id = none ∧ graph.base.label id = none ∧ graph.base.comment id = none ∧
      ∀ relation, graph.base.related id relation = []

/-- What is told is held. -/
theorem KnowledgeGraph.Tells.holds {graph : KnowledgeGraph} {sayings : List Saying}
    (h : graph.Tells sayings) : graph.Holds (Saying.introduced sayings)
      (Saying.described sayings) (Saying.objects sayings) where
  entityCount := h.entityCount
  find? identifier := by
    split
    case isTrue hmem => exact (h.find? _ _).2 (Saying.getElem?_number hmem)
    case isFalse hmem =>
      rw [Option.eq_none_iff_forall_ne_some]
      intro id hid
      exact hmem (List.mem_of_getElem? ((h.find? identifier id).1 hid))
  entitiesOfKind := h.entitiesOfKind
  iri name hmem := h.iri (Saying.getElem?_number hmem)
  label identifier hmem := by
    rw [h.label, ← Saying.number, Saying.getElem?_number hmem, Option.bind_some]
  comment identifier hmem := by
    rw [h.comment, ← Saying.number, Saying.getElem?_number hmem, Option.bind_some]
  related identifier hmem relation := by
    rw [related_base, h.related, ← Saying.number, Saying.getElem?_number hmem,
      Option.elim_some]
  absent id hid := by
    have hnone := List.getElem?_eq_none hid
    refine ⟨h.iri_eq_none hnone, ?_, ?_, fun relation => ?_⟩
    · rw [h.label, hnone, Option.bind_none]
    · rw [h.comment, hnone, Option.bind_none]
    · rw [related_base, h.related, hnone]
      rfl

end TaskNet
