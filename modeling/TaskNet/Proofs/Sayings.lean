import Mathlib.Data.List.Forall2
import Mathlib.Data.List.Induction
import TaskNet.Proofs.Mentions

/-!
# Sayings

Documents of every format say things of identifiers, one after the other: that there is an entity,
what its label, its comment or its kind is, and what it is related to. A draft outlines a sequence
of sayings if it has the entities that they mention, with what they say of each, and asserts the
links between them in order. Stating the sayings one by one yields such a draft.
-/

namespace TaskNet

/-- What can be said of an identifier. -/
inductive Remark where
  /-- Nothing more than that there is such an entity. -/
  | presence
  /-- That the entity has this label. -/
  | label (text : String)
  /-- That the entity has this comment. -/
  | comment (text : String)
  /-- That the entity is of this kind. -/
  | kind (kind : EntityKind)
  /-- That the entity is related to another one. -/
  | link (relation : Relation) (object : Identifier)
deriving DecidableEq, Repr

namespace Remark

/-- The label that is given. -/
def label? : Remark → Option String
  | .label text => some text
  | _ => none

/-- The comment that is given. -/
def comment? : Remark → Option String
  | .comment text => some text
  | _ => none

/-- The kind that is given. -/
def kind? : Remark → Option EntityKind
  | .kind value => some value
  | _ => none

/-- The relation that is given, with its object. -/
def link? : Remark → Option (Relation × Identifier)
  | .link relation object => some (relation, object)
  | _ => none

/-- What changes in the entity of which this is said. -/
def change (remark : Remark) (profile : Profile) : Profile :=
  { profile with
    label := remark.label?.or profile.label
    comment := remark.comment?.or profile.comment
    kind := remark.kind?.getD profile.kind }

end Remark

/-- A remark and what it is about. -/
structure Saying where
  /-- What the remark is about. -/
  subject : Identifier
  /-- What is said of it. -/
  remark : Remark
deriving DecidableEq, Repr

namespace Saying

/-- The identifiers that occur in a saying. -/
def mentions (saying : Saying) : List Identifier :=
  saying.subject :: (saying.remark.link?.map (·.2)).toList

/-- What is given of an identifier by a saying, if the saying is about it. -/
def given? {α : Type} (value? : Remark → Option α) (identifier : Identifier) (saying : Saying) :
    Option α :=
  if identifier = saying.subject then value? saying.remark else none

/-- What changes in an entity with a saying. -/
def revise (saying : Saying) (profile : Profile) : Profile :=
  if profile.identifier = saying.subject then saying.remark.change profile else profile

/-- The link between two identifiers that a saying gives. -/
def link? (saying : Saying) : Option (Identifier × Relation × Identifier) :=
  saying.remark.link?.map (saying.subject, ·)

/-- The identifiers that occur in sayings, in the order of their first mention. -/
def introduced (sayings : List Saying) : List Identifier := (sayings.flatMap mentions).eraseDups

/-- What sayings say of an identifier: what they say last. -/
def described (sayings : List Saying) (identifier : Identifier) : Description where
  label := lastGiven (given? Remark.label? identifier) sayings
  comment := lastGiven (given? Remark.comment? identifier) sayings
  kind := (lastGiven (given? Remark.kind? identifier) sayings).getD .other

/-- The links that sayings give, in order. -/
def links (sayings : List Saying) : List (Identifier × Relation × Identifier) :=
  sayings.filterMap link?

/-- Nothing is given of what no saying is about. -/
theorem lastGiven_eq_none {α : Type} (value? : Remark → Option α) {sayings : List Saying}
    {identifier : Identifier} (h : ∀ saying ∈ sayings, identifier ≠ saying.subject) :
    lastGiven (given? value? identifier) sayings = none := by
  rw [lastGiven, List.getLast?_eq_none_iff, List.filterMap_eq_nil_iff]
  intro saying hsaying
  rw [given?, if_neg (h saying hsaying)]

theorem described_eq_default {sayings : List Saying} {identifier : Identifier}
    (h : ∀ saying ∈ sayings, identifier ≠ saying.subject) :
    described sayings identifier = {} := by
  unfold described
  rw [lastGiven_eq_none _ h, lastGiven_eq_none _ h, lastGiven_eq_none _ h]
  rfl

theorem subject_mem_introduced {sayings : List Saying} :
    ∀ saying ∈ sayings, saying.subject ∈ introduced sayings := by
  intro saying hsaying
  rw [introduced, List.mem_eraseDups, List.mem_flatMap]
  exact ⟨saying, hsaying, List.mem_cons_self⟩

/-- One more saying changes what it is about, and nothing else. -/
theorem toDescription_revise (saying : Saying) {sayings : List Saying} {profile : Profile}
    (h : profile.toDescription = described sayings profile.identifier) :
    (saying.revise profile).toDescription =
      described (sayings ++ [saying]) profile.identifier := by
  unfold described revise
  simp only [lastGiven_append_singleton, given?, Option.getD_or]
  by_cases habout : profile.identifier = saying.subject
  · simp only [if_pos habout, Remark.change, h, described]
  · simp only [if_neg habout, Option.none_or, Option.getD_none, h, described]

theorem identifier_revise (saying : Saying) (profile : Profile) :
    (saying.revise profile).identifier = profile.identifier := by
  unfold revise
  split
  · rfl
  · rfl

end Saying

namespace Draft

/-- The draft in which one more thing has been said. -/
def say (draft : Draft) (saying : Saying) : Draft :=
  let (subject, mentioned) := draft.mention saying.subject
  match saying.remark with
  | .presence => mentioned
  | .label text => mentioned.setLabel subject text
  | .comment text => mentioned.setComment subject text
  | .kind kind => mentioned.setKind subject kind
  | .link relation object =>
    let (object, mentioned) := mentioned.mention object
    mentioned.relate subject relation object

/-- An assertion states a link between two identifiers if they are those of its ends. -/
structure Asserts (draft : Draft) (link : Identifier × Relation × Identifier)
    (assertion : Assertion) : Prop where
  subject : draft.find? link.1 = some assertion.subject
  relation : link.2.1 = assertion.relation
  object : draft.find? link.2.2 = some assertion.object

/-- The state of a draft after sayings. -/
structure Outlines (draft : Draft) (sayings : List Saying) : Prop where
  wellFormed : draft.WellFormed
  identifiers : draft.identifiers = Saying.introduced sayings
  profile : ∀ profile ∈ draft.profiles,
    profile.toDescription = Saying.described sayings profile.identifier
  assertions : List.Forall₂ draft.Asserts (Saying.links sayings) draft.assertions.toList

theorem outlines_empty : empty.Outlines [] where
  wellFormed := wellFormed_empty
  identifiers := rfl
  profile profile hmem := by simp [empty] at hmem
  assertions := .nil

/-! ### The effect of one saying -/

section

variable {draft : Draft} {sayings : List Saying}

/-- Changing the entity of an identifier leaves the others as they are. -/
theorem WellFormed.profiles_update_of_find? (h : draft.WellFormed) {identifier : Identifier}
    {id : EntityId} (hfind : draft.find? identifier = some id) (change : Profile → Profile) :
    (draft.update id change).profiles = draft.profiles.map fun profile =>
      if profile.identifier = identifier then change profile else profile := by
  rw [h.profiles_update]
  refine Array.map_congr_left fun profile hmem => ?_
  simp only [Profile.changeAt, h.identifier_eq_iff hfind hmem]

theorem find?_say (draft : Draft) (saying : Saying) (identifier : Identifier) :
    (draft.say saying).find? identifier = (draft.mentionAll saying.mentions).find? identifier := by
  obtain ⟨subject, remark⟩ := saying
  cases remark <;> rfl

theorem wellFormed_say (h : draft.WellFormed) (saying : Saying) :
    (draft.say saying).WellFormed := by
  obtain ⟨subject, remark⟩ := saying
  have hsubject := h.mention subject
  cases remark with
  | presence => exact hsubject
  | label text => exact hsubject.update _ (fun _ => rfl) fun _ => rfl
  | comment text => exact hsubject.update _ (fun _ => rfl) fun _ => rfl
  | kind kind => exact hsubject.update _ (fun _ => rfl) fun _ => rfl
  | link relation object => exact (hsubject.mention object).relate _ relation _

/-- Every entity is revised, after those that are mentioned were introduced. -/
theorem profiles_say (h : draft.WellFormed) (saying : Saying) :
    (draft.say saying).profiles =
      (draft.mentionAll saying.mentions).profiles.map saying.revise := by
  obtain ⟨subject, remark⟩ := saying
  have hsubject := h.mention subject
  have hfind := find?_mention draft subject
  have hsame {profiles : Array Profile} (hchange : ∀ profile, remark.change profile = profile) :
      profiles = profiles.map (Saying.revise ⟨subject, remark⟩) := by
    have hrevise : Saying.revise ⟨subject, remark⟩ = id := by
      funext profile
      simp only [Saying.revise, hchange, ite_self, id]
    rw [hrevise, Array.map_id]
  cases remark with
  | presence => exact hsame fun _ => rfl
  | label text => exact hsubject.profiles_update_of_find? hfind (Remark.change (.label text))
  | comment text => exact hsubject.profiles_update_of_find? hfind (Remark.change (.comment text))
  | kind kind => exact hsubject.profiles_update_of_find? hfind (Remark.change (.kind kind))
  | link relation object => exact hsame fun _ => rfl

theorem Asserts.say {link : Identifier × Relation × Identifier} {assertion : Assertion}
    (h : draft.Asserts link assertion) (saying : Saying) :
    (draft.say saying).Asserts link assertion where
  subject := by
    rw [find?_say]
    exact find?_mentionAll_of_find? h.subject
  relation := h.relation
  object := by
    rw [find?_say]
    exact find?_mentionAll_of_find? h.object

/-- Assertions are added for links only. -/
theorem forall₂_asserts_say (saying : Saying)
    (h : List.Forall₂ draft.Asserts (Saying.links sayings) draft.assertions.toList) :
    List.Forall₂ (draft.say saying).Asserts (Saying.links (sayings ++ [saying]))
      (draft.say saying).assertions.toList := by
  have hold := h.imp fun _ _ hasserts => hasserts.say saying
  rw [Saying.links, filterMap_append_singleton, ← Saying.links]
  obtain ⟨subject, remark⟩ := saying
  cases remark with
  | presence => simpa [say, Saying.link?, Remark.link?] using hold
  | label text => simpa [say, setLabel, Saying.link?, Remark.link?] using hold
  | comment text => simpa [say, setComment, Saying.link?, Remark.link?] using hold
  | kind kind => simpa [say, setKind, Saying.link?, Remark.link?] using hold
  | link relation object =>
    have hsubject := find?_mention_of_find? (find?_mention draft subject) object
    have hobject := find?_mention (draft.mention subject).2 object
    have hnew : (draft.say ⟨subject, .link relation object⟩).assertions.toList =
        draft.assertions.toList ++ [{
          subject := (draft.mention subject).1
          relation
          object := ((draft.mention subject).2.mention object).1
          ordinal := min draft.assertions.size Assertion.lastOrdinal }] := by
      simp [say, relate]
    rw [hnew]
    exact List.rel_append hold (.cons ⟨hsubject, rfl, hobject⟩ .nil)

/-- The draft stays an outline of what has been said. -/
theorem Outlines.say (h : draft.Outlines sayings) (saying : Saying) :
    (draft.say saying).Outlines (sayings ++ [saying]) where
  wellFormed := wellFormed_say h.wellFormed saying
  identifiers := by
    have hsame : (draft.say saying).identifiers =
        (draft.mentionAll saying.mentions).identifiers := by
      rw [Draft.identifiers, profiles_say h.wellFormed, Array.toList_map, List.map_map]
      exact List.map_congr_left fun profile _ => saying.identifier_revise profile
    rw [hsame, h.wellFormed.identifiers_mentionAll h.identifiers, Saying.introduced,
      List.flatMap_append, List.flatMap_singleton]
  profile := by
    intro profile hprofile
    rw [profiles_say h.wellFormed] at hprofile
    obtain ⟨before, hbefore, rfl⟩ := Array.mem_map.1 hprofile
    have hdescribed : before.toDescription = Saying.described sayings before.identifier := by
      obtain hold | ⟨-, hnew, hfresh⟩ := h.wellFormed.mem_profiles_mentionAll hbefore
      · exact h.profile before hold
      · have hnone : ∀ other ∈ sayings, before.identifier ≠ other.subject := by
          intro other hother hsame
          rw [h.identifiers, hsame] at hnew
          exact hnew (Saying.subject_mem_introduced other hother)
        rw [Saying.described_eq_default hnone, hfresh]
    rw [saying.toDescription_revise hdescribed, saying.identifier_revise]
  assertions := forall₂_asserts_say saying h.assertions

/-- What was said is outlined. -/
theorem outlines_foldl_say (sayings : List Saying) :
    (sayings.foldl say empty).Outlines sayings := by
  induction sayings using List.reverseRecOn with
  | nil => exact outlines_empty
  | append_singleton sayings saying ih =>
    rw [List.foldl_append]
    exact ih.say saying

end

end Draft

end TaskNet
