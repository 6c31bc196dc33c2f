import Mathlib.Data.List.Induction
import TaskNet.Proofs.WellFormedDraft

/-!
# Mentions

What is stated of identifiers mentions them first. A new identifier becomes the last entity, of
which nothing has been said; any other one changes nothing. So identifiers are numbered by their
first mention, and what is said of them later takes the place of what was said before.
-/

namespace TaskNet

theorem filterMap_append_singleton {α β : Type} (value? : β → Option α) (entries : List β)
    (entry : β) :
    (entries ++ [entry]).filterMap value? = entries.filterMap value? ++ (value? entry).toList := by
  rw [List.filterMap_append]
  cases h : value? entry with
  | none => rw [List.filterMap_cons_none h, List.filterMap_nil, Option.toList_none]
  | some value => rw [List.filterMap_cons_some h, List.filterMap_nil, Option.toList_some]

/-- The last value that is given in a list in which some entries give one. -/
def lastGiven {α β : Type} (value? : β → Option α) (entries : List β) : Option α :=
  (entries.filterMap value?).getLast?

/-- What is given later takes the place of what was given before. -/
theorem lastGiven_append_singleton {α β : Type} (value? : β → Option α) (entries : List β)
    (entry : β) :
    lastGiven value? (entries ++ [entry]) = (value? entry).or (lastGiven value? entries) := by
  unfold lastGiven
  rw [filterMap_append_singleton, List.getLast?_append]
  cases value? entry with
  | none => rfl
  | some value => rfl

theorem lastGiven_singleton {α β : Type} (value? : β → Option α) (entry : β) :
    lastGiven value? [entry] = value? entry := by
  rw [← List.nil_append [entry], lastGiven_append_singleton]
  exact Option.or_none

/-- Duplicates are left out where they come up again. -/
theorem eraseDups_append_singleton {α : Type} [DecidableEq α] (entries : List α) (entry : α) :
    (entries ++ [entry]).eraseDups =
      entries.eraseDups ++ if entry ∈ entries then [] else [entry] := by
  rw [List.eraseDups_append, List.removeAll, List.filter_cons, List.filter_nil]
  by_cases hmem : entry ∈ entries
  · have helem : entries.elem entry = true := List.elem_eq_true_of_mem hmem
    rw [if_pos hmem, helem]
    rfl
  · have helem : entries.elem entry = false := by
      rw [Bool.eq_false_iff]
      exact fun htrue => hmem (List.mem_of_elem_eq_true htrue)
    rw [if_neg hmem, helem]
    rfl

theorem nodup_eraseDups {α : Type} [DecidableEq α] (entries : List α) :
    entries.eraseDups.Nodup := by
  induction entries using List.reverseRecOn with
  | nil => exact List.nodup_nil
  | append_singleton entries entry ih =>
    rw [eraseDups_append_singleton]
    by_cases hmem : entry ∈ entries
    · rwa [if_pos hmem, List.append_nil]
    · rw [if_neg hmem, List.nodup_append]
      refine ⟨ih, by simp, fun other hother same hsame => ?_⟩
      rw [List.mem_singleton.1 hsame]
      rintro rfl
      exact hmem (List.mem_eraseDups.1 hother)

/-- Where nothing occurs twice, nothing is left out. -/
theorem eraseDups_of_nodup {α : Type} [DecidableEq α] {entries : List α} (h : entries.Nodup) :
    entries.eraseDups = entries := by
  induction entries using List.reverseRecOn with
  | nil => rfl
  | append_singleton entries entry ih =>
    obtain ⟨hentries, -, hdisjoint⟩ := List.nodup_append.1 h
    have hnew : entry ∉ entries := fun hmem => hdisjoint entry hmem entry List.mem_cons_self rfl
    rw [eraseDups_append_singleton, ih hentries, if_neg hnew]

/-- What is all there already adds nothing. -/
theorem eraseDups_append_of_subset {α : Type} [DecidableEq α] {entries others : List α}
    (h : ∀ other ∈ others, other ∈ entries) :
    (entries ++ others).eraseDups = entries.eraseDups := by
  have hnone : others.removeAll entries = [] := by
    rw [List.removeAll, List.filter_eq_nil_iff]
    intro other hother
    simp [h other hother]
  rw [List.eraseDups_append, hnone, List.eraseDups_nil, List.append_nil]

namespace Draft

/-- The identifiers of all entities, in the order of their numbers. -/
def identifiers (draft : Draft) : List Identifier := draft.profiles.toList.map (·.identifier)

/-- The draft after several mentions. -/
def mentionAll (draft : Draft) (mentions : List Identifier) : Draft :=
  mentions.foldl (fun draft identifier => (draft.mention identifier).2) draft

section

variable {draft : Draft} {identifier : Identifier}

theorem mem_identifiers :
    identifier ∈ draft.identifiers ↔
      ∃ profile ∈ draft.profiles, profile.identifier = identifier := by
  rw [identifiers, List.mem_map]
  simp only [Array.mem_toList_iff]

theorem WellFormed.find?_eq_none_iff (h : draft.WellFormed) :
    draft.find? identifier = none ↔ identifier ∉ draft.identifiers := by
  rw [mem_identifiers]
  constructor
  · rintro hnone ⟨profile, hmem, hidentifier⟩
    exact h.find?_eq_none hnone profile hmem hidentifier
  · intro hnew
    cases hfind : draft.find? identifier with
    | none => rfl
    | some id =>
      obtain ⟨profile, hmem, hidentifier, -⟩ := (h.find? _ _).1 hfind
      exact absurd ⟨profile, hmem, hidentifier⟩ hnew

/-- A new identifier comes last. -/
theorem WellFormed.identifiers_mention (h : draft.WellFormed) (identifier : Identifier) :
    (draft.mention identifier).2.identifiers =
      draft.identifiers ++ if identifier ∈ draft.identifiers then [] else [identifier] := by
  by_cases hmem : identifier ∈ draft.identifiers
  · have hfind : draft.find? identifier ≠ none := fun hnone => h.find?_eq_none_iff.1 hnone hmem
    obtain ⟨id, hid⟩ := Option.ne_none_iff_exists'.1 hfind
    rw [mention_of_find?_eq_some hid, if_pos hmem, List.append_nil]
  · rw [mention_of_find?_eq_none (h.find?_eq_none_iff.2 hmem), if_neg hmem]
    simp [identifiers]

/-- A mention adds at most an entity of which nothing has been said. -/
theorem mem_profiles_mention {profile : Profile}
    (hmem : profile ∈ (draft.mention identifier).2.profiles) :
    profile ∈ draft.profiles ∨ draft.find? identifier = none ∧
      profile = { id := profile.id, identifier } := by
  cases hfind : draft.find? identifier with
  | some id =>
    rw [mention_of_find?_eq_some hfind] at hmem
    exact .inl hmem
  | none =>
    rw [mention_of_find?_eq_none hfind, Array.mem_push] at hmem
    obtain hold | rfl := hmem
    · exact .inl hold
    · exact .inr ⟨rfl, rfl⟩

/-- What is found is found again after a mention. -/
theorem find?_mention_of_find? {id : EntityId} (h : draft.find? identifier = some id)
    (other : Identifier) : (draft.mention other).2.find? identifier = some id := by
  cases hother : draft.find? other with
  | some _ => rwa [mention_of_find?_eq_some hother]
  | none =>
    have hne : (identifier == other) = false := by
      rw [beq_eq_false_iff_ne]
      rintro rfl
      rw [h] at hother
      cases hother
    rw [mention_of_find?_eq_none hother]
    unfold Draft.find? at h ⊢
    rw [List.lookup_cons, hne]
    exact h

end

/-! ### Several mentions -/

section

variable {draft : Draft} {mentions : List Identifier}

theorem WellFormed.mentionAll (h : draft.WellFormed) : (draft.mentionAll mentions).WellFormed := by
  induction mentions generalizing draft with
  | nil => exact h
  | cons identifier rest ih => exact ih (h.mention identifier)

theorem find?_mentionAll_of_find? {identifier : Identifier} {id : EntityId}
    (h : draft.find? identifier = some id) :
    (draft.mentionAll mentions).find? identifier = some id := by
  induction mentions generalizing draft with
  | nil => exact h
  | cons other rest ih => exact ih (find?_mention_of_find? h other)

/-- Identifiers are numbered by their first mention. -/
theorem WellFormed.identifiers_mentionAll (h : draft.WellFormed) {before : List Identifier}
    (hbefore : draft.identifiers = before.eraseDups) (mentions : List Identifier) :
    (draft.mentionAll mentions).identifiers = (before ++ mentions).eraseDups := by
  induction mentions generalizing draft before with
  | nil =>
    rw [List.append_nil]
    exact hbefore
  | cons identifier rest ih =>
    have hnext : (draft.mention identifier).2.identifiers = (before ++ [identifier]).eraseDups := by
      rw [h.identifiers_mention, eraseDups_append_singleton, hbefore]
      simp only [List.mem_eraseDups]
    have hrest := ih (h.mention identifier) hnext
    rwa [List.append_assoc] at hrest

/-- Mentions add only entities with these identifiers, of which nothing has been said. -/
theorem WellFormed.mem_profiles_mentionAll (h : draft.WellFormed) {profile : Profile}
    (hmem : profile ∈ (draft.mentionAll mentions).profiles) :
    profile ∈ draft.profiles ∨ profile.identifier ∈ mentions ∧
      profile.identifier ∉ draft.identifiers ∧
      profile = { id := profile.id, identifier := profile.identifier } := by
  induction mentions generalizing draft with
  | nil => exact .inl hmem
  | cons identifier rest ih =>
    obtain hfirst | ⟨hrest, hnew, hfresh⟩ := ih (h.mention identifier) hmem
    · obtain hold | ⟨hnone, hfresh⟩ := mem_profiles_mention hfirst
      · exact .inl hold
      · have hidentifier : profile.identifier = identifier := congrArg Profile.identifier hfresh
        refine .inr ⟨?_, ?_, ?_⟩
        · rw [hidentifier]
          exact List.mem_cons_self
        · rw [hidentifier]
          exact h.find?_eq_none_iff.1 hnone
        · rwa [hidentifier]
    · refine .inr ⟨List.mem_cons_of_mem identifier hrest, fun hold => hnew ?_, hfresh⟩
      rw [h.identifiers_mention]
      exact List.mem_append_left _ hold

end

end Draft

end TaskNet
