import Mathlib.Data.List.Induction
import TaskNet.Proofs.EditLog

/-!
# Replaying a log

A draft represents a log if it is well-formed, has the identifiers that the log introduces, says of
each what the log says of it, and has all stated relations in order. The empty draft represents the
empty log, and each edit keeps the draft and its log in step, so every replayed log is represented.
-/

namespace TaskNet.Draft

/-- The two ends of an assertion and the relation between them. -/
def statement (assertion : Assertion) : EntityId × Relation × EntityId :=
  (assertion.subject, assertion.relation, assertion.object)

/-- The state of a draft after the edits of a log. -/
structure Represents (draft : Draft) (log : List Edit) : Prop where
  wellFormed : draft.WellFormed
  identifiers : draft.identifiers = introduced log
  profile : ∀ profile ∈ draft.profiles, profile = profileIn log profile.id profile.identifier
  assertions : draft.assertions.toList.map statement = log.filterMap Edit.stated?

theorem represents_empty : empty.Represents [] where
  wellFormed := wellFormed_empty
  identifiers := rfl
  profile profile hmem := by simp [empty] at hmem
  assertions := rfl

/-! ### The effect of one edit -/

section

variable {draft : Draft} {log : List Edit} {edit : Edit}

theorem revise_setLabel (id : EntityId) (label : String) : (Edit.setLabel id label).revise =
    Profile.changeAt id fun profile => { profile with label := some label } := by
  funext profile
  unfold Edit.revise Profile.changeAt
  by_cases hid : profile.id = id
  · simp only [Edit.label?, if_pos hid]
    rfl
  · simp only [Edit.label?, if_neg hid]
    rfl

theorem revise_setComment (id : EntityId) (comment : String) :
    (Edit.setComment id comment).revise =
      Profile.changeAt id fun profile => { profile with comment := some comment } := by
  funext profile
  unfold Edit.revise Profile.changeAt
  by_cases hid : profile.id = id
  · simp only [Edit.comment?, if_pos hid]
    rfl
  · simp only [Edit.comment?, if_neg hid]
    rfl

theorem revise_setKind (id : EntityId) (kind : EntityKind) : (Edit.setKind id kind).revise =
    Profile.changeAt id fun profile => { profile with kind } := by
  funext profile
  unfold Edit.revise Profile.changeAt
  by_cases hid : profile.id = id
  · simp only [Edit.kind?, if_pos hid]
    rfl
  · simp only [Edit.kind?, if_neg hid]
    rfl

/-- A label that is given by identifier is given by number to the entity with this identifier. -/
theorem revise_mentionLabeled (h : draft.WellFormed) {identifier : Identifier} {id : EntityId}
    (hfind : draft.find? identifier = some id) (label : String) {profile : Profile}
    (hmem : profile ∈ draft.profiles) : (Edit.mentionLabeled identifier label).revise profile =
      profile.changeAt id fun profile => { profile with label := some label } := by
  have hid := h.identifier_eq_iff hfind hmem
  unfold Edit.revise Profile.changeAt
  by_cases hsame : profile.identifier = identifier
  · simp only [Edit.label?, if_pos hsame, if_pos (hid.1 hsame)]
    rfl
  · simp only [Edit.label?, if_neg hsame, if_neg (fun heq => hsame (hid.2 heq))]
    rfl

/-- Every entity is revised by an edit, after the one that the edit mentions was introduced. -/
theorem profiles_apply (h : draft.WellFormed) (edit : Edit) :
    (draft.apply edit).profiles =
      (draft.mentionAll edit.mentioned?.toList).profiles.map edit.revise := by
  cases edit with
  | mention identifier => exact (Array.map_id _).symm
  | mentionLabeled identifier label =>
    have hmention := h.mention identifier
    refine (hmention.profiles_update _ _).trans (Array.map_congr_left fun profile hmem => ?_)
    exact (revise_mentionLabeled hmention (find?_mention draft identifier) label hmem).symm
  | setLabel id label =>
    rw [revise_setLabel]
    exact h.profiles_update id _
  | setComment id comment =>
    rw [revise_setComment]
    exact h.profiles_update id _
  | setKind id kind =>
    rw [revise_setKind]
    exact h.profiles_update id _
  | relate subject relation object => exact (Array.map_id _).symm

theorem wellFormed_apply (h : draft.WellFormed) (edit : Edit) : (draft.apply edit).WellFormed := by
  cases edit with
  | mention identifier => exact h.mention identifier
  | mentionLabeled identifier label =>
    exact (h.mention identifier).update _ (fun _ => rfl) fun _ => rfl
  | setLabel id label => exact h.update id (fun _ => rfl) fun _ => rfl
  | setComment id comment => exact h.update id (fun _ => rfl) fun _ => rfl
  | setKind id kind => exact h.update id (fun _ => rfl) fun _ => rfl
  | relate subject relation object => exact h.relate subject relation object

/-- Assertions are only ever added at the end. -/
theorem assertions_apply (draft : Draft) (edit : Edit) :
    (draft.apply edit).assertions.toList.map statement =
      draft.assertions.toList.map statement ++ edit.stated?.toList := by
  cases edit with
  | mention identifier => simp [apply, Edit.stated?]
  | mentionLabeled identifier label => simp [apply, mentionLabeled, setLabel, Edit.stated?]
  | setLabel id label => simp [apply, setLabel, Edit.stated?]
  | setComment id comment => simp [apply, setComment, Edit.stated?]
  | setKind id kind => simp [apply, setKind, Edit.stated?]
  | relate subject relation object => simp [apply, relate, statement, Edit.stated?]

/-- The draft and its log stay in step. -/
theorem Represents.apply (h : draft.Represents log) (edit : Edit) :
    (draft.apply edit).Represents (log ++ [edit]) where
  wellFormed := wellFormed_apply h.wellFormed edit
  identifiers := by
    have hsame : (draft.apply edit).identifiers =
        (draft.mentionAll edit.mentioned?.toList).identifiers := by
      rw [Draft.identifiers, profiles_apply h.wellFormed, Array.toList_map, List.map_map]
      rfl
    rw [hsame, h.wellFormed.identifiers_mentionAll h.identifiers, introduced,
      filterMap_append_singleton]
  profile := by
    intro profile hprofile
    rw [profiles_apply h.wellFormed] at hprofile
    obtain ⟨before, hbefore, rfl⟩ := Array.mem_map.1 hprofile
    have hrevised : edit.revise before = profileIn (log ++ [edit]) before.id before.identifier := by
      obtain hold | ⟨hmentioned, hnew, hfresh⟩ := h.wellFormed.mem_profiles_mentionAll hbefore
      · have hintroduced : before.identifier ∈ introduced log := by
          rw [← h.identifiers]
          exact mem_identifiers.2 ⟨before, hold, rfl⟩
        rw [profileIn_append_of_mem _ hintroduced, ← h.profile before hold]
      · rw [h.identifiers] at hnew
        rw [profileIn_append_of_notMem _ hnew (Option.mem_toList.1 hmentioned), ← hfresh]
    exact hrevised
  assertions := by
    rw [assertions_apply, h.assertions, filterMap_append_singleton]

/-- A replayed log is represented. -/
theorem represents_replay (log : List Edit) : (replay log).Represents log := by
  induction log using List.reverseRecOn with
  | nil => exact represents_empty
  | append_singleton log edit ih =>
    rw [replay, List.foldl_append, ← replay]
    exact ih.apply edit

end

end TaskNet.Draft
