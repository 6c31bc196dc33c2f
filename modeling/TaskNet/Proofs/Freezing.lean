import TaskNet.Proofs.WellFormedDraft

/-!
# Freezing drafts

Freezing keeps the entities of a draft and the assertions between them. The knowledge graph of a
well-formed draft finds the same entities as the draft.
-/

namespace TaskNet

/-! ### Assembling a graph -/

namespace KnowledgeGraph

/-- Storing assertions keeps the entities, and keeps every assertion between them. -/
theorem foldl_store (graph : KnowledgeGraph) (assertions : List Assertion) :
    assertions.foldl store graph =
      { graph with
        assertions := (assertions.filter fun assertion =>
          graph.has assertion.subject && graph.has assertion.object).reverse ++
            graph.assertions } := by
  induction assertions generalizing graph with
  | nil => rfl
  | cons assertion rest ih =>
    rw [List.foldl_cons, ih, List.filter_cons]
    unfold store
    split
    · simp [has]
    · rfl

theorem foldl_cons_eq_reverse (profiles : List Profile) (table : List (Identifier × EntityId)) :
    profiles.foldl (fun table profile => (profile.identifier, profile.id) :: table) table =
      (profiles.map fun profile => (profile.identifier, profile.id)).reverse ++ table := by
  induction profiles generalizing table with
  | nil => rfl
  | cons profile rest ih =>
    rw [List.foldl_cons, ih, List.map_cons, List.reverse_cons, List.append_assoc]
    rfl

/-- A graph has all entities and the assertions between them, the newest first. -/
theorem assemble_eq (profiles : Array Profile) (assertions : Array Assertion) :
    assemble profiles assertions =
      { profiles
        numbers := (profiles.toList.map fun profile => (profile.identifier, profile.id)).reverse
        assertions := (assertions.toList.filter fun assertion =>
          decide (assertion.subject.slot < profiles.size) &&
            decide (assertion.object.slot < profiles.size)).reverse } := by
  unfold assemble
  rw [← Array.foldl_toList, ← Array.foldl_toList, foldl_store, foldl_cons_eq_reverse,
    List.append_nil, List.append_nil]
  rfl

end KnowledgeGraph

namespace Draft

/-! ### The graph of a draft -/

@[simp] theorem profiles_freeze (draft : Draft) : draft.freeze.profiles = draft.profiles := by
  rw [freeze, KnowledgeGraph.assemble_eq]

theorem has_freeze (draft : Draft) (id : EntityId) :
    draft.freeze.has id = decide (id.slot < draft.profiles.size) := by
  rw [KnowledgeGraph.has, profiles_freeze]

theorem assertions_freeze (draft : Draft) : draft.freeze.assertions =
    (draft.assertions.toList.filter fun assertion =>
      draft.freeze.has assertion.subject && draft.freeze.has assertion.object).reverse := by
  simp only [has_freeze]
  rw [freeze, KnowledgeGraph.assemble_eq]

/-- The graph lists the numbers of the entities of a draft. -/
theorem WellFormed.ids_freeze {draft : Draft} (h : draft.WellFormed) :
    draft.freeze.ids = draft.profiles.toList.map (·.id) := by
  rw [KnowledgeGraph.ids, KnowledgeGraph.entityCount, profiles_freeze, EntityId.first]
  apply List.ext_getElem?
  intro slot
  rw [List.getElem?_map, List.getElem?_map]
  by_cases hslot : slot < draft.profiles.size
  · rw [List.getElem?_range hslot, Array.getElem?_toList, Array.getElem?_eq_getElem hslot,
      Option.map_some, Option.map_some, h.id slot _ (Array.getElem?_eq_getElem hslot)]
  · have hend : (List.range draft.profiles.size).length ≤ slot := by
      rw [List.length_range]
      omega
    rw [List.getElem?_eq_none hend, Array.getElem?_toList, Array.getElem?_eq_none (by omega)]
    rfl

/-- Assertions are stored only of entities that exist. -/
theorem has_subject_of_mem_freeze (draft : Draft) :
    ∀ assertion ∈ draft.freeze.assertions, draft.freeze.has assertion.subject := by
  intro assertion hassertion
  rw [assertions_freeze, List.mem_reverse, List.mem_filter, Bool.and_eq_true] at hassertion
  exact hassertion.2.1

/-- The graph finds the entities that the draft finds. -/
theorem WellFormed.find?_freeze {draft : Draft} (h : draft.WellFormed) (identifier : Identifier) :
    draft.freeze.find? identifier = draft.find? identifier := by
  have hfrozen : draft.freeze.find? identifier =
      (draft.profiles.toList.map fun profile =>
        (profile.identifier, profile.id)).reverse.lookup identifier := by
    rw [freeze, KnowledgeGraph.assemble_eq]
    rfl
  rw [hfrozen]
  cases hfind : draft.find? identifier with
  | none =>
    rw [List.lookup_eq_none_iff]
    intro entry hentry
    obtain ⟨profile, hmem, rfl⟩ := List.mem_map.1 (List.mem_reverse.1 hentry)
    have hnew := h.find?_eq_none hfind profile (Array.mem_toList_iff.1 hmem)
    exact bne_iff_ne.2 hnew.symm
  | some id =>
    obtain ⟨profile, hmem, rfl, rfl⟩ := (h.find? _ _).1 hfind
    have hentry : (profile.identifier, profile.id) ∈ (draft.profiles.toList.map fun profile =>
        (profile.identifier, profile.id)).reverse :=
      List.mem_reverse.2 (List.mem_map.2 ⟨profile, hmem.val, rfl⟩)
    cases hlookup : (draft.profiles.toList.map fun profile =>
        (profile.identifier, profile.id)).reverse.lookup profile.identifier with
    | none =>
      have habsent := List.lookup_eq_none_iff.1 hlookup _ hentry
      simp at habsent
    | some other =>
      obtain ⟨before, after, hsplit, -⟩ := List.lookup_eq_some_iff.1 hlookup
      have hother : (profile.identifier, other) ∈ (draft.profiles.toList.map fun profile =>
          (profile.identifier, profile.id)).reverse := by
        rw [hsplit]
        exact List.mem_append_right before List.mem_cons_self
      obtain ⟨found, hfound, heq⟩ := List.mem_map.1 (List.mem_reverse.1 hother)
      obtain ⟨hidentifier, rfl⟩ := Prod.mk.inj heq
      rw [h.eq_of_identifier_eq (Array.mem_toList_iff.1 hfound) hmem hidentifier]

end Draft

end TaskNet
