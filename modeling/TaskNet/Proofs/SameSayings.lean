import TaskNet.Proofs.Freezing
import TaskNet.Proofs.SameReading
import TaskNet.Proofs.Sayings

/-!
# Drafts of the same sayings

Two drafts may number their entities differently, because the same things were said in another
order. If all links were given in the same order, and the same was said last of every identifier,
then the sayings agree, and the knowledge graphs of both drafts match on the entities that have the
same name.
-/

namespace TaskNet

/-- Sorting keeps lists paired if pairs are ordered alike. -/
theorem forall₂_mergeSort {α β : Type} {Paired : α → β → Prop} {le : α → α → Bool}
    {le' : β → β → Bool}
    (hle : ∀ {a b a' b'}, Paired a a' → Paired b b' → le a b = le' a' b') {entries : List α}
    {entries' : List β} (h : List.Forall₂ Paired entries entries') :
    List.Forall₂ Paired (entries.mergeSort le) (entries'.mergeSort le') := by
  obtain ⟨hlength, hpaired⟩ := List.forall₂_iff_zip.1 h
  have hpairs : ∀ pair ∈ entries.zip entries', Paired pair.1 pair.2 := fun _ hpair => hpaired hpair
  have hleft : ((entries.zip entries').mergeSort fun pair other => le pair.1 other.1).map Prod.fst =
      entries.mergeSort le := by
    rw [List.map_mergeSort (s := le) fun _ _ _ _ => rfl, List.map_fst_zip (Nat.le_of_eq hlength)]
  have hright : ((entries.zip entries').mergeSort fun pair other => le pair.1 other.1).map Prod.snd =
      entries'.mergeSort le' := by
    rw [List.map_mergeSort (s := le') fun pair hpair other hother =>
      hle (hpairs pair hpair) (hpairs other hother), List.map_snd_zip (Nat.le_of_eq hlength.symm)]
  rw [← hleft, ← hright, List.forall₂_map_left_iff, List.forall₂_map_right_iff, List.forall₂_same]
  exact fun pair hpair => hpairs pair (List.mem_mergeSort.1 hpair)

/-- Sayings that amount to the same: the same links between names in the same order, and the same
that is said last of every identifier. -/
structure Saying.Agree (sayings sayings' : List Saying) : Prop where
  links : links sayings = links sayings'
  named : ∀ link ∈ Saying.links sayings, link.1.isAnonymous = false ∧ link.2.2.isAnonymous = false
  described : ∀ identifier, described sayings identifier = described sayings' identifier

namespace Draft

/-- Two entities of two drafts that have the same name. -/
def Paired (draft draft' : Draft) (entity entity' : EntityId) : Prop :=
  ∃ name, draft.find? (.named name) = some entity ∧ draft'.find? (.named name) = some entity'

/-- Two assertions of two drafts that state the same, at the same place. -/
structure SameAssertion (draft draft' : Draft) (assertion assertion' : Assertion) : Prop where
  subject : draft.Paired draft' assertion.subject assertion'.subject
  relation : assertion.relation = assertion'.relation
  object : draft.Paired draft' assertion.object assertion'.object
  ordinal : assertion.ordinal = assertion'.ordinal

section

variable {draft draft' : Draft} {sayings sayings' : List Saying}

/-- Different entities have different names, so entities are paired one to one. -/
theorem Paired.eq_iff (h : draft.WellFormed) (h' : draft'.WellFormed)
    {entity other entity' other' : EntityId} (hpair : draft.Paired draft' entity entity')
    (hother : draft.Paired draft' other other') : entity = other ↔ entity' = other' := by
  obtain ⟨name, hname, hname'⟩ := hpair
  obtain ⟨otherName, hotherName, hotherName'⟩ := hother
  constructor
  · rintro rfl
    obtain rfl := Identifier.named.inj (h.find?_inj hname hotherName)
    exact Option.some.inj (hname'.symm.trans hotherName')
  · rintro rfl
    obtain rfl := Identifier.named.inj (h'.find?_inj hname' hotherName')
    exact Option.some.inj (hname.symm.trans hotherName)

namespace Outlines

/-- What was said of an entity is found under its number. -/
theorem profile?_freeze (h : draft.Outlines sayings) {identifier : Identifier} {id : EntityId}
    (hfind : draft.find? identifier = some id) :
    ∃ profile, draft.freeze.profile? id = some profile ∧ profile.identifier = identifier ∧
      profile.toDescription = Saying.described sayings identifier := by
  obtain ⟨profile, hmem, rfl, rfl⟩ := (h.wellFormed.find? _ _).1 hfind
  refine ⟨profile, ?_, rfl, h.profile profile hmem⟩
  rw [KnowledgeGraph.profile?, profiles_freeze]
  exact h.wellFormed.getElem?_slot.2 ⟨hmem, rfl⟩

theorem has_freeze (h : draft.Outlines sayings) {identifier : Identifier} {id : EntityId}
    (hfind : draft.find? identifier = some id) : draft.freeze.has id := by
  obtain ⟨profile, hprofile, -⟩ := h.profile?_freeze hfind
  obtain ⟨hslot, -⟩ := Array.getElem?_eq_some_iff.1 hprofile
  exact decide_eq_true hslot

/-- Sayings mention both ends of what they link, so every assertion is stored. -/
theorem assertions_freeze (h : draft.Outlines sayings) :
    draft.freeze.assertions = draft.assertions.toList.reverse := by
  rw [Draft.assertions_freeze, List.filter_eq_self.2]
  intro assertion hassertion
  obtain ⟨link, -, hasserts⟩ := exists_of_mem_of_forall₂ h.assertions assertion hassertion
  rw [h.has_freeze hasserts.subject, h.has_freeze hasserts.object]
  rfl

/-- The same links are asserted alike. -/
theorem forall₂_assertions (h : draft.Outlines sayings) (h' : draft'.Outlines sayings')
    (hagree : Saying.Agree sayings sayings') :
    List.Forall₂ (SameAssertion draft draft') draft.assertions.toList draft'.assertions.toList := by
  have hassertions' := h'.assertions
  rw [← hagree.links] at hassertions'
  obtain ⟨hlength, hasserts⟩ := List.forall₂_iff_get.1 h.assertions
  obtain ⟨hlength', hasserts'⟩ := List.forall₂_iff_get.1 hassertions'
  rw [List.forall₂_iff_get]
  refine ⟨hlength.symm.trans hlength', fun place hplace hplace' => ?_⟩
  have hlink : place < (Saying.links sayings).length := by omega
  obtain ⟨hsubject, hobject⟩ := hagree.named _ (List.get_mem _ ⟨place, hlink⟩)
  obtain ⟨subject, hsubject⟩ := Identifier.exists_eq_named hsubject
  obtain ⟨object, hobject⟩ := Identifier.exists_eq_named hobject
  have hleft := hasserts place hlink hplace
  have hright := hasserts' place hlink hplace'
  refine ⟨⟨subject, ?_, ?_⟩, hleft.relation.symm.trans hright.relation, ⟨object, ?_, ?_⟩, ?_⟩
  · exact hsubject ▸ hleft.subject
  · exact hsubject ▸ hright.subject
  · exact hobject ▸ hleft.object
  · exact hobject ▸ hright.object
  · rw [Array.length_toList] at hplace hplace'
    have hordinal := h.wellFormed.ordinal place _ (Array.getElem?_eq_getElem hplace)
    have hordinal' := h'.wellFormed.ordinal place _ (Array.getElem?_eq_getElem hplace')
    rw [List.get_eq_getElem, List.get_eq_getElem, Array.getElem_toList, Array.getElem_toList,
      hordinal, hordinal']

/-- Entities with the same name are described alike. -/
theorem exists_profiles (h : draft.Outlines sayings) (h' : draft'.Outlines sayings')
    (hagree : Saying.Agree sayings sayings')
    {entity entity' : EntityId} (hpair : draft.Paired draft' entity entity') :
    ∃ name profile profile', draft.freeze.profile? entity = some profile ∧
      draft'.freeze.profile? entity' = some profile' ∧ profile.identifier = .named name ∧
      profile'.identifier = .named name ∧ profile.toDescription = profile'.toDescription := by
  obtain ⟨name, hname, hname'⟩ := hpair
  obtain ⟨profile, hprofile, hidentifier, hsaid⟩ := h.profile?_freeze hname
  obtain ⟨profile', hprofile', hidentifier', hsaid'⟩ := h'.profile?_freeze hname'
  rw [hagree.described, ← hsaid'] at hsaid
  exact ⟨name, profile, profile', hprofile, hprofile', hidentifier, hidentifier', hsaid⟩

/-- Entities with the same name are related to entities with the same names, in the same order. -/
theorem forall₂_related (h : draft.Outlines sayings) (h' : draft'.Outlines sayings')
    (hagree : Saying.Agree sayings sayings')
    {entity entity' : EntityId} (hpair : draft.Paired draft' entity entity')
    (relation : Relation) : List.Forall₂ (draft.Paired draft')
      (draft.freeze.related entity relation) (draft'.freeze.related entity' relation) := by
  have hstored : List.Forall₂ (SameAssertion draft draft') draft.freeze.assertions
      draft'.freeze.assertions := by
    rw [h.assertions_freeze, h'.assertions_freeze]
    exact List.rel_reverse (h.forall₂_assertions h' hagree)
  have houtgoing : List.Forall₂ (SameAssertion draft draft') (draft.freeze.outgoing entity)
      (draft'.freeze.outgoing entity') := by
    refine List.rel_filter (fun assertion assertion' hsame => ?_) hstored
    simp only [decide_eq_true_eq, hsame.subject.eq_iff h.wellFormed h'.wellFormed hpair]
  have hhits : List.Forall₂ (SameAssertion draft draft')
      ((draft.freeze.outgoing entity).filter (·.relation = relation))
      ((draft'.freeze.outgoing entity').filter (·.relation = relation)) := by
    refine List.rel_filter (fun assertion assertion' hsame => ?_) houtgoing
    simp only [hsame.relation]
  have hsorted : List.Forall₂ (SameAssertion draft draft')
      (((draft.freeze.outgoing entity).filter (·.relation = relation)).mergeSort
        fun hit other => hit.ordinal ≤ other.ordinal)
      (((draft'.freeze.outgoing entity').filter (·.relation = relation)).mergeSort
        fun hit other => hit.ordinal ≤ other.ordinal) := by
    refine forall₂_mergeSort (fun hhit hother => ?_) hhits
    rw [hhit.ordinal, hother.ordinal]
  obtain ⟨name, hname, hname'⟩ := hpair
  rw [KnowledgeGraph.related, KnowledgeGraph.related, if_pos (h.has_freeze hname),
    if_pos (h'.has_freeze hname'), List.forall₂_map_left_iff, List.forall₂_map_right_iff]
  exact hsorted.imp fun _ _ hsame => hsame.object

/-- The knowledge graphs of two drafts answer alike under the same names, if what was said amounts to
the same. -/
theorem matchesOn (h : draft.Outlines sayings) (h' : draft'.Outlines sayings')
    (hagree : Saying.Agree sayings sayings') :
    KnowledgeBase.MatchesOn (draft.Paired draft') draft.freeze.base draft'.freeze.base where
  label := by
    intro entity entity' hpair
    obtain ⟨name, profile, profile', hprofile, hprofile', -, -, hsame⟩ :=
      h.exists_profiles h' hagree hpair
    rw [KnowledgeGraph.label_base, KnowledgeGraph.label_base, hprofile, hprofile']
    exact congrArg Description.label hsame
  comment := by
    intro entity entity' hpair
    obtain ⟨name, profile, profile', hprofile, hprofile', -, -, hsame⟩ :=
      h.exists_profiles h' hagree hpair
    rw [KnowledgeGraph.comment_base, KnowledgeGraph.comment_base, hprofile, hprofile']
    exact congrArg Description.comment hsame
  describe := by
    intro entity entity' hpair
    obtain ⟨name, profile, profile', hprofile, hprofile', hidentifier, hidentifier', -⟩ :=
      h.exists_profiles h' hagree hpair
    unfold KnowledgeBase.describe
    rw [KnowledgeGraph.iri_base, KnowledgeGraph.iri_base, KnowledgeGraph.name?,
      KnowledgeGraph.name?, hprofile, hprofile', Option.map_some, Option.map_some, hidentifier,
      hidentifier']
    rfl
  related := h.forall₂_related h' hagree

end Outlines

end

end Draft

end TaskNet
