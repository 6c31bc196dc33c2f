import TaskNet.Knowledge.Draft

/-!
# Well-formed drafts

In a well-formed draft every entity has the number of its place, is found under its identifier and
under no other, and every assertion counts those before it. Whatever is stated keeps a draft
well-formed.
-/

namespace TaskNet

/-- The change of one entity as a change of every entity that leaves the others as they are. -/
def Profile.changeAt (id : EntityId) (change : Profile → Profile) (profile : Profile) : Profile :=
  if profile.id = id then change profile else profile

/-- What all changes leave alone is left alone by a change of one entity. -/
theorem Profile.changeAt_congr {α : Type} (field : Profile → α) {change : Profile → Profile}
    (hchange : ∀ profile, field (change profile) = field profile) (id : EntityId)
    (profile : Profile) : field (profile.changeAt id change) = field profile := by
  unfold changeAt
  split
  · exact hchange profile
  · rfl

namespace Draft

/-- Entities are numbered by their places and found under their identifiers, and assertions are
counted. -/
structure WellFormed (draft : Draft) : Prop where
  next : draft.next = .ofSlot draft.profiles.size
  id : ∀ (slot : Nat) (profile : Profile), draft.profiles[slot]? = some profile →
    profile.id = .ofSlot slot
  find? : ∀ identifier id, draft.find? identifier = some id ↔
    ∃ profile ∈ draft.profiles, profile.identifier = identifier ∧ profile.id = id
  ordinal : ∀ (place : Nat) (assertion : Assertion), draft.assertions[place]? = some assertion →
    assertion.ordinal = min place Assertion.lastOrdinal

namespace WellFormed

variable {draft : Draft}

/-- The entity of a number is the one in its place. -/
theorem getElem?_slot (h : draft.WellFormed) {id : EntityId} {profile : Profile} :
    draft.profiles[id.slot]? = some profile ↔ profile ∈ draft.profiles ∧ profile.id = id := by
  constructor
  · intro hprofile
    have hid := h.id id.slot profile hprofile
    rw [EntityId.ofSlot_slot] at hid
    exact ⟨Array.mem_of_getElem? hprofile, hid⟩
  · rintro ⟨hmem, rfl⟩
    obtain ⟨slot, hslot⟩ := Array.mem_iff_getElem?.1 hmem
    rw [h.id slot profile hslot, EntityId.slot_ofSlot, hslot]

/-- Entities with the same identifier are the same. -/
theorem eq_of_identifier_eq (h : draft.WellFormed) {profile other : Profile}
    (hprofile : profile ∈ draft.profiles) (hother : other ∈ draft.profiles)
    (hsame : profile.identifier = other.identifier) : profile = other := by
  have hfind := (h.find? _ _).2 ⟨profile, hprofile, rfl, rfl⟩
  rw [hsame, (h.find? _ _).2 ⟨other, hother, rfl, rfl⟩] at hfind
  have hslot := h.getElem?_slot.2 ⟨hprofile, (Option.some.inj hfind).symm⟩
  rw [h.getElem?_slot.2 ⟨hother, rfl⟩] at hslot
  exact (Option.some.inj hslot).symm

/-- Of an entity that is found, the identifier is as good as the number. -/
theorem identifier_eq_iff (h : draft.WellFormed) {identifier : Identifier} {id : EntityId}
    (hfind : draft.find? identifier = some id) {profile : Profile}
    (hmem : profile ∈ draft.profiles) : profile.identifier = identifier ↔ profile.id = id := by
  obtain ⟨found, hfound, rfl, rfl⟩ := (h.find? _ _).1 hfind
  constructor
  · intro hsame
    rw [h.eq_of_identifier_eq hmem hfound hsame]
  · intro hsame
    have hslot := h.getElem?_slot.2 ⟨hmem, hsame⟩
    rw [h.getElem?_slot.2 ⟨hfound, rfl⟩] at hslot
    rw [Option.some.inj hslot]

/-- What is found under two identifiers has both, so they are the same. -/
theorem find?_inj (h : draft.WellFormed) {identifier other : Identifier} {id : EntityId}
    (hfind : draft.find? identifier = some id) (hother : draft.find? other = some id) :
    identifier = other := by
  obtain ⟨profile, hmem, rfl, hid⟩ := (h.find? _ _).1 hfind
  exact (h.identifier_eq_iff hother hmem).2 hid

theorem find?_eq_none (h : draft.WellFormed) {identifier : Identifier}
    (hnone : draft.find? identifier = none) :
    ∀ profile ∈ draft.profiles, profile.identifier ≠ identifier := by
  rintro profile hmem rfl
  rw [(h.find? _ _).2 ⟨profile, hmem, rfl, rfl⟩] at hnone
  cases hnone

end WellFormed

/-! ### What is stated keeps drafts well-formed -/

theorem wellFormed_empty : empty.WellFormed where
  next := rfl
  id slot profile h := by simp [empty] at h
  find? identifier id := by simp [empty, find?]
  ordinal place assertion h := by simp [empty] at h

theorem mention_of_find?_eq_some {draft : Draft} {identifier : Identifier} {id : EntityId}
    (h : draft.find? identifier = some id) : draft.mention identifier = (id, draft) := by
  unfold mention
  rw [h]

theorem mention_of_find?_eq_none {draft : Draft} {identifier : Identifier}
    (h : draft.find? identifier = none) : draft.mention identifier =
      (draft.next,
        { draft with
          next := draft.next.next
          numbers := (identifier, draft.next) :: draft.numbers
          profiles := draft.profiles.push { id := draft.next, identifier } }) := by
  unfold mention
  rw [h]

/-- What was mentioned is found. -/
theorem find?_mention (draft : Draft) (identifier : Identifier) :
    (draft.mention identifier).2.find? identifier = some (draft.mention identifier).1 := by
  cases h : draft.find? identifier with
  | some id => rw [mention_of_find?_eq_some h, h]
  | none =>
    rw [mention_of_find?_eq_none h]
    exact List.lookup_cons_self

@[simp] theorem assertions_mention (draft : Draft) (identifier : Identifier) :
    (draft.mention identifier).2.assertions = draft.assertions := by
  unfold mention
  split <;> rfl

@[simp] theorem find?_update (draft : Draft) (id : EntityId) (change : Profile → Profile)
    (identifier : Identifier) : (draft.update id change).find? identifier = draft.find? identifier :=
  rfl

@[simp] theorem assertions_update (draft : Draft) (id : EntityId) (change : Profile → Profile) :
    (draft.update id change).assertions = draft.assertions := rfl

theorem WellFormed.mention {draft : Draft} (h : draft.WellFormed) (identifier : Identifier) :
    (draft.mention identifier).2.WellFormed := by
  cases hfind : draft.find? identifier with
  | some id =>
    rw [mention_of_find?_eq_some hfind]
    exact h
  | none =>
    rw [mention_of_find?_eq_none hfind]
    refine ⟨?_, fun slot profile hprofile => ?_, fun other id => ?_, h.ordinal⟩
    · rw [h.next, EntityId.next_ofSlot, Array.size_push]
    · rw [Array.getElem?_push] at hprofile
      split at hprofile
      · next hslot =>
        cases hprofile
        rw [h.next, hslot]
      · exact h.id slot profile hprofile
    · have hnew := h.find?_eq_none hfind
      have hold := h.find? other id
      unfold Draft.find? at hold ⊢
      rw [List.lookup_cons]
      simp only [Array.mem_push, or_and_right, exists_or, exists_eq_left]
      by_cases hsame : other = identifier
      · subst hsame
        simp only [beq_self_eq_true, Option.some.injEq, true_and]
        constructor
        · exact fun hid => .inr hid
        · rintro (⟨profile, hmem, hother, -⟩ | hid)
          · exact absurd hother (hnew profile hmem)
          · exact hid
      · have hbeq : (other == identifier) = false := beq_eq_false_iff_ne.2 hsame
        simp only [hbeq, hold, Ne.symm hsame, false_and, or_false]

/-- A change of an entity changes nothing in other places. -/
theorem WellFormed.profiles_update {draft : Draft} (h : draft.WellFormed) (id : EntityId)
    (change : Profile → Profile) :
    (draft.update id change).profiles = draft.profiles.map (Profile.changeAt id change) := by
  apply Array.ext_getElem?
  intro slot
  rw [Draft.update, Array.getElem?_modify, Array.getElem?_map]
  cases hprofile : draft.profiles[slot]? with
  | none => simp
  | some profile =>
    have hid := h.id slot profile hprofile
    rw [Option.map_some, Option.map_some, Profile.changeAt]
    by_cases hslot : id.slot = slot
    · rw [if_pos hslot, if_pos]
      rw [hid, ← hslot, EntityId.ofSlot_slot]
    · rw [if_neg hslot, if_neg]
      rw [hid]
      rintro rfl
      exact hslot (EntityId.slot_ofSlot slot)

theorem WellFormed.update {draft : Draft} (h : draft.WellFormed) (id : EntityId)
    {change : Profile → Profile} (hid : ∀ profile, (change profile).id = profile.id)
    (hidentifier : ∀ profile, (change profile).identifier = profile.identifier) :
    (draft.update id change).WellFormed := by
  have hchanged_id := Profile.changeAt_congr Profile.id hid id
  have hchanged_identifier := Profile.changeAt_congr Profile.identifier hidentifier id
  refine ⟨?_, fun slot profile hprofile => ?_, fun identifier other => ?_, h.ordinal⟩
  · rw [h.profiles_update, Array.size_map]
    exact h.next
  · rw [h.profiles_update, Array.getElem?_map, Option.map_eq_some_iff] at hprofile
    obtain ⟨old, hold, rfl⟩ := hprofile
    rw [hchanged_id]
    exact h.id slot old hold
  · rw [h.profiles_update, find?_update, h.find?]
    constructor
    · rintro ⟨old, hold, rfl, rfl⟩
      exact ⟨_, Array.mem_map_of_mem hold, hchanged_identifier old, hchanged_id old⟩
    · rintro ⟨profile, hprofile, rfl, rfl⟩
      obtain ⟨old, hold, rfl⟩ := Array.mem_map.1 hprofile
      exact ⟨old, hold, (hchanged_identifier old).symm, (hchanged_id old).symm⟩

theorem WellFormed.relate {draft : Draft} (h : draft.WellFormed) (subject : EntityId)
    (relation : Relation) (object : EntityId) :
    (draft.relate subject relation object).WellFormed := by
  refine ⟨h.next, h.id, h.find?, fun place assertion hassertion => ?_⟩
  rw [Draft.relate, Array.getElem?_push] at hassertion
  split at hassertion
  · next hplace =>
    cases hassertion
    rw [hplace]
  · exact h.ordinal place assertion hassertion

end Draft

end TaskNet
