import TaskNet.Proofs.FrozenSayings
import TaskNet.Proofs.Isomorphism
import TaskNet.Proofs.RenderedDefinitions

/-!
# Rearranged sayings

The same can be said in many orders. As long as the objects of each subject and relation keep their
order, and the definitions are mentioned in the same order, the knowledge graphs are isomorphic, so
their programs have the same outputs: the numbers that other entities get, and the way in which
links of different subjects and relations alternate, make no difference.
-/

namespace TaskNet

namespace Saying

/-- Sayings that say the same in an order that may differ, except for the objects of each subject
and relation and for the first mentions of definitions. -/
structure Rearranges (sayings sayings' : List Saying) : Prop where
  introduced : ∀ identifier,
    identifier ∈ Saying.introduced sayings ↔ identifier ∈ Saying.introduced sayings'
  described : ∀ identifier,
    Saying.described sayings identifier = Saying.described sayings' identifier
  objects : ∀ subject relation,
    Saying.objects sayings subject relation = Saying.objects sayings' subject relation
  definitions : ∀ kind, Saying.definitions sayings kind = Saying.definitions sayings' kind

/-- The number that other sayings give to the identifier of an entity. -/
def renumber (sayings sayings' : List Saying) (id : EntityId) : EntityId :=
  ((introduced sayings)[id.slot]?.map (number sayings')).getD id

variable {sayings : List Saying} {id : EntityId} {identifier : Identifier}

theorem renumber_of_getElem? (sayings' : List Saying)
    (h : (introduced sayings)[id.slot]? = some identifier) :
    renumber sayings sayings' id = number sayings' identifier := by
  rw [renumber, h]
  rfl

theorem renumber_number (sayings' : List Saying) (h : identifier ∈ introduced sayings) :
    renumber sayings sayings' (number sayings identifier) = number sayings' identifier :=
  renumber_of_getElem? sayings' (getElem?_number h)

/-- An entity that is numbered anew has the same identifier as before. -/
theorem Rearranges.getElem?_renumber {sayings' : List Saying} (h : Rearranges sayings sayings')
    (hidentifier : (Saying.introduced sayings)[id.slot]? = some identifier) :
    (Saying.introduced sayings')[(renumber sayings sayings' id).slot]? = some identifier := by
  rw [renumber_of_getElem? sayings' hidentifier]
  exact getElem?_number ((h.introduced identifier).1 (List.mem_of_getElem? hidentifier))

end Saying

open Saying (introduced number renumber)

namespace KnowledgeGraph.Tells

variable {graph graph' : KnowledgeGraph} {sayings sayings' : List Saying} {id : EntityId}

theorem mem_ids (h : graph.Tells sayings) :
    id ∈ graph.ids ↔ ∃ identifier, (introduced sayings)[id.slot]? = some identifier := by
  rw [h.ids_eq, EntityId.mem_first]
  constructor
  · exact fun hslot => ⟨_, List.getElem?_eq_getElem hslot⟩
  · rintro ⟨identifier, hidentifier⟩
    exact (List.getElem?_eq_some_iff.1 hidentifier).1

/-- The entities of the graph are those that sayings mention. -/
theorem has_iff (h : graph.Tells sayings) :
    graph.base.Has id ↔ ∃ identifier, (introduced sayings)[id.slot]? = some identifier := by
  rw [← h.mem_ids]
  constructor
  · rintro ⟨kind, hmem⟩
    exact (List.mem_filter.1 hmem).1
  · intro hmem
    exact ⟨graph.kind id, List.mem_filter.2 ⟨hmem, decide_eq_true rfl⟩⟩

theorem mem_entitiesOfKind (h : graph.Tells sayings) {identifier : Identifier}
    (hidentifier : (introduced sayings)[id.slot]? = some identifier) (kind : EntityKind) :
    id ∈ graph.base.entitiesOfKind kind ↔ (Saying.described sayings identifier).kind = kind := by
  rw [entitiesOfKind_base, List.mem_filter, decide_eq_true_eq, h.kind, hidentifier]
  exact and_iff_right (h.mem_ids.2 ⟨identifier, hidentifier⟩)

/-- Entities are numbered anew one to one. -/
theorem bijOn_renumber (h : graph.Tells sayings) (h' : graph'.Tells sayings')
    (hsame : Saying.Rearranges sayings sayings') :
    Set.BijOn (renumber sayings sayings') {id | graph.base.Has id} {id | graph'.base.Has id} := by
  refine ⟨fun id hid => ?_, fun id hid other hother heq => ?_, fun id' hid' => ?_⟩
  · obtain ⟨identifier, hidentifier⟩ := h.has_iff.1 hid
    exact h'.has_iff.2 ⟨identifier, hsame.getElem?_renumber hidentifier⟩
  · obtain ⟨identifier, hidentifier⟩ := h.has_iff.1 hid
    obtain ⟨otherIdentifier, hotherIdentifier⟩ := h.has_iff.1 hother
    have hfound := hsame.getElem?_renumber hidentifier
    rw [heq, hsame.getElem?_renumber hotherIdentifier, Option.some.injEq] at hfound
    rw [← Saying.number_of_getElem? hidentifier, ← hfound,
      Saying.number_of_getElem? hotherIdentifier]
  · obtain ⟨identifier, hidentifier⟩ := h'.has_iff.1 hid'
    have hmem := (hsame.introduced identifier).2 (List.mem_of_getElem? hidentifier)
    refine ⟨number sayings identifier, h.has_iff.2 ⟨_, Saying.getElem?_number hmem⟩, ?_⟩
    rw [Saying.renumber_number sayings' hmem, Saying.number_of_getElem? hidentifier]

theorem related_renumber (h : graph.Tells sayings) (h' : graph'.Tells sayings')
    (hsame : Saying.Rearranges sayings sayings') {identifier : Identifier}
    (hidentifier : (introduced sayings)[id.slot]? = some identifier) (relation : Relation) :
    graph'.related (renumber sayings sayings' id) relation =
      (graph.related id relation).map (renumber sayings sayings') := by
  rw [h.related, h'.related, hidentifier, hsame.getElem?_renumber hidentifier, Option.elim_some,
    Option.elim_some, ← hsame.objects, List.map_map]
  refine List.map_congr_left fun object hobject => ?_
  have hmem := Saying.mem_introduced_of_mem_objects object hobject
  exact (Saying.renumber_number sayings' hmem).symm

/-- What entities are related to are entities. -/
theorem has_of_mem_related (h : graph.Tells sayings) {relation : Relation} :
    ∀ target ∈ graph.related id relation, graph.base.Has target := by
  intro target htarget
  rw [h.related, List.mem_map] at htarget
  obtain ⟨object, hobject, rfl⟩ := htarget
  cases hidentifier : (introduced sayings)[id.slot]? with
  | none =>
    rw [hidentifier] at hobject
    exact absurd hobject List.not_mem_nil
  | some identifier =>
    rw [hidentifier, Option.elim_some] at hobject
    have hmem := Saying.mem_introduced_of_mem_objects object hobject
    exact h.has_iff.2 ⟨object, Saying.getElem?_number hmem⟩

/-- Graphs that tell the same in another order are isomorphic. -/
theorem isIsomorphism (h : graph.Tells sayings) (h' : graph'.Tells sayings')
    (hsame : Saying.Rearranges sayings sayings') :
    KnowledgeBase.IsIsomorphism (renumber sayings sayings') graph.base graph'.base where
  bijOn := h.bijOn_renumber h' hsame
  kind id hid kind := by
    obtain ⟨identifier, hidentifier⟩ := h.has_iff.1 hid
    rw [h.mem_entitiesOfKind hidentifier,
      h'.mem_entitiesOfKind (hsame.getElem?_renumber hidentifier), hsame.described]
  label id hid := by
    obtain ⟨identifier, hidentifier⟩ := h.has_iff.1 hid
    rw [h.label, h'.label, hidentifier, hsame.getElem?_renumber hidentifier, Option.bind_some,
      Option.bind_some, hsame.described]
  comment id hid := by
    obtain ⟨identifier, hidentifier⟩ := h.has_iff.1 hid
    rw [h.comment, h'.comment, hidentifier, hsame.getElem?_renumber hidentifier, Option.bind_some,
      Option.bind_some, hsame.described]
  related id hid relation := by
    obtain ⟨identifier, hidentifier⟩ := h.has_iff.1 hid
    exact ⟨h.has_of_mem_related, h.related_renumber h' hsame hidentifier relation⟩

/-- If only names are mentioned, they are kept. -/
theorem keepsNames (h : graph.Tells sayings) (h' : graph'.Tells sayings')
    (hsame : Saying.Rearranges sayings sayings')
    (hnamed : ∀ identifier ∈ introduced sayings, identifier.isAnonymous = false) :
    KnowledgeBase.KeepsNames (renumber sayings sayings') graph.base graph'.base := by
  intro id hid
  obtain ⟨identifier, hidentifier⟩ := h.has_iff.1 hid
  obtain ⟨name, rfl⟩ :=
    Identifier.exists_eq_named (hnamed identifier (List.mem_of_getElem? hidentifier))
  exact ⟨name, h.iri hidentifier, h'.iri (hsame.getElem?_renumber hidentifier)⟩

/-- Definitions that are mentioned in the same order are listed in the same order. -/
theorem entitiesOfKind_renumber (h : graph.Tells sayings) (h' : graph'.Tells sayings')
    (hsame : Saying.Rearranges sayings sayings') (kind : DefinitionKind) :
    graph'.base.entitiesOfKind kind.entityKind =
      (graph.base.entitiesOfKind kind.entityKind).map (renumber sayings sayings') := by
  have hdefinitions := hsame.definitions kind
  unfold Saying.definitions at hdefinitions
  rw [h.entitiesOfKind, h'.entitiesOfKind, ← hdefinitions, List.map_map]
  refine List.map_congr_left fun identifier hidentifier => ?_
  exact (Saying.renumber_number sayings' (List.mem_filter.1 hidentifier).1).symm

end KnowledgeGraph.Tells

/-! ### What is rendered -/

open KnowledgeBase (IsIsomorphism KeepsNames KeepsOrder)

/-- Rendering sees a knowledge base only up to isomorphism. If names are kept, all renderings of
corresponding entities are equal, and so are the outputs of both programs if definitions correspond
in order; if names are changed, only the names in errors and warnings may differ. So the numbers of
entities make no difference, and neither do the order in which entities other than definitions are
introduced and the way in which links of different subjects and relations alternate. -/
theorem rendering_up_to_isomorphism :
    (∀ (map : EntityId → EntityId) (knowledge knowledge' : KnowledgeBase),
      IsIsomorphism map knowledge knowledge' →
        (KeepsNames map knowledge knowledge' →
          (∀ rendering : Rendering, (∀ entity ∈ rendering.entities, knowledge.Has entity) →
            ∀ strict, (rendering.transport map).run ⟨knowledge', strict⟩ =
              rendering.run ⟨knowledge, strict⟩) ∧
          (KeepsOrder map knowledge knowledge' → ∀ settings,
            (generate knowledge' settings).SameAs (generate knowledge settings))) ∧
        (∀ rendering : Rendering, (∀ entity ∈ rendering.entities, knowledge.Has entity) →
          ∀ strict, ((rendering.transport map).run ⟨knowledge', strict⟩).SameButNames
            (rendering.run ⟨knowledge, strict⟩)) ∧
        (KeepsOrder map knowledge knowledge' → ∀ settings,
          (generate knowledge' settings).SameButNames (generate knowledge settings))) ∧
    ∀ sayings sayings' : List Saying, Saying.Rearranges sayings sayings' →
      (Saying.links sayings).length ≤ UInt32.size →
      (Saying.links sayings').length ≤ UInt32.size →
        let knowledge := (sayings.foldl Draft.say Draft.empty).freeze.base
        let knowledge' := (sayings'.foldl Draft.say Draft.empty).freeze.base
        ((∀ identifier ∈ introduced sayings, identifier.isAnonymous = false) → ∀ settings,
          (generate knowledge' settings).SameAs (generate knowledge settings)) ∧
        ∀ settings, (generate knowledge' settings).SameButNames (generate knowledge settings) := by
  constructor
  · intro map knowledge knowledge' h
    refine ⟨fun hnames => ⟨fun rendering hentities => h.run_transport hnames hentities,
      fun horder settings => ?_⟩, fun rendering hentities => h.run_transport_sameButNames hentities,
      fun horder => h.generate_sameButNames (h.entitiesOfKind_eq_map horder)⟩
    exact Program.sameAs_of_outputs
      (h.outputs_generate hnames (h.entitiesOfKind_eq_map horder) settings)
  · intro sayings sayings' hsame hcount hcount'
    have htells := tells_foldl_say hcount
    have htells' := tells_foldl_say hcount'
    have hisomorphism := htells.isIsomorphism htells' hsame
    have hdefinitions := htells.entitiesOfKind_renumber htells' hsame
    refine ⟨fun hnamed settings => ?_, hisomorphism.generate_sameButNames hdefinitions⟩
    have hnames := htells.keepsNames htells' hsame hnamed
    exact Program.sameAs_of_outputs (hisomorphism.outputs_generate hnames hdefinitions settings)

/-- A road with a way to drive on it and a way to stop, where stopping comes first. -/
def stopFirst : List Saying := [
  ⟨.named "urn:stop", .label "stop"⟩,
  ⟨.named "urn:road", .label "Road"⟩,
  ⟨.named "urn:road", .link .hasOperator (.named "urn:stop")⟩,
  ⟨.named "urn:road", .kind .domain⟩,
  ⟨.named "urn:drive", .label "drive"⟩,
  ⟨.named "urn:road", .link .hasMethod (.named "urn:drive")⟩]

/-- The same road, where driving comes first. -/
def driveFirst : List Saying := [
  ⟨.named "urn:road", .kind .domain⟩,
  ⟨.named "urn:road", .link .hasMethod (.named "urn:drive")⟩,
  ⟨.named "urn:drive", .label "drive"⟩,
  ⟨.named "urn:road", .link .hasOperator (.named "urn:stop")⟩,
  ⟨.named "urn:stop", .label "stop"⟩,
  ⟨.named "urn:road", .label "Road"⟩]

theorem stopFirst_rearranges : Saying.Rearranges stopFirst driveFirst where
  introduced identifier := by
    have hperm : (introduced stopFirst).Perm (introduced driveFirst) := by decide
    exact hperm.mem_iff
  described identifier := by
    have hknown : ∀ identifier ∈ introduced stopFirst,
        Saying.described stopFirst identifier = Saying.described driveFirst identifier := by decide
    by_cases hmem : identifier ∈ introduced stopFirst
    · exact hknown identifier hmem
    · have hsubjects : ∀ saying ∈ stopFirst ++ driveFirst,
          saying.subject ∈ introduced stopFirst := by decide
      rw [Saying.described_eq_default, Saying.described_eq_default]
      · rintro saying hsaying rfl
        exact hmem (hsubjects saying (List.mem_append_right _ hsaying))
      · rintro saying hsaying rfl
        exact hmem (hsubjects saying (List.mem_append_left _ hsaying))
  objects subject relation := by
    by_cases hroad : subject = .named "urn:road"
    · subst hroad
      cases relation <;> decide
    · have hother : Identifier.named "urn:road" ≠ subject := fun heq => hroad heq.symm
      have hlinks : Saying.links stopFirst =
          [(.named "urn:road", .hasOperator, .named "urn:stop"),
            (.named "urn:road", .hasMethod, .named "urn:drive")] := by decide
      have hlinks' : Saying.links driveFirst =
          [(.named "urn:road", .hasMethod, .named "urn:drive"),
            (.named "urn:road", .hasOperator, .named "urn:stop")] := by decide
      rw [Saying.objects, Saying.objects, hlinks, hlinks']
      simp [hother]
  definitions kind := by cases kind <;> decide

/-- The road gets another number, and its program stays the same. -/
theorem driveFirst_generate :
    let knowledge := (stopFirst.foldl Draft.say Draft.empty).freeze.base
    let knowledge' := (driveFirst.foldl Draft.say Draft.empty).freeze.base
    renumber stopFirst driveFirst (.ofSlot 1) = .ofSlot 0 ∧
    (generate knowledge' {}).SameAs (generate knowledge {}) ∧
    (generate knowledge' {}).SameButNames (generate knowledge {}) ∧
    (Rendering.domain (.ofSlot 0)).run ⟨knowledge', true⟩ =
      (Rendering.domain (.ofSlot 1)).run ⟨knowledge, true⟩ := by
  intro knowledge knowledge'
  have hcount : (Saying.links stopFirst).length ≤ UInt32.size := by decide
  have hcount' : (Saying.links driveFirst).length ≤ UInt32.size := by decide
  have hnamed : ∀ identifier ∈ introduced stopFirst, identifier.isAnonymous = false := by decide
  have htells := tells_foldl_say hcount
  have htells' := tells_foldl_say hcount'
  have hisomorphism := htells.isIsomorphism htells' stopFirst_rearranges
  have hnames := htells.keepsNames htells' stopFirst_rearranges hnamed
  have horder : KeepsOrder (renumber stopFirst driveFirst) knowledge knowledge' := {
    ordered := KnowledgeGraph.isOrdered_base _
    ordered' := KnowledgeGraph.isOrdered_base _
    lt := fun kind => by cases kind <;> decide +kernel }
  have hnumber : renumber stopFirst driveFirst (.ofSlot 1) = .ofSlot 0 := by decide
  have hhas : ∀ entity ∈ (Rendering.domain (.ofSlot 1)).entities, knowledge.Has entity := by
    intro entity hentity
    rw [List.mem_singleton.1 hentity, htells.has_iff]
    exact ⟨.named "urn:road", by decide⟩
  have hkept := (rendering_up_to_isomorphism.1 _ _ _ hisomorphism).1 hnames
  have hdomain := hkept.1 (.domain (.ofSlot 1)) hhas true
  rw [Rendering.transport, hnumber] at hdomain
  have hbutNames := (rendering_up_to_isomorphism.2 stopFirst driveFirst stopFirst_rearranges hcount
    hcount').2 {}
  exact ⟨hnumber, hkept.2 horder {}, hbutNames, hdomain⟩

end TaskNet
