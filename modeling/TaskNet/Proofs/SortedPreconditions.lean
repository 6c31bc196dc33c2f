import TaskNet.Proofs.Obligations

/-!
# Preconditions are sorted once

Preconditions are read once, in the order in which they are stated, and every one is put into one of
two groups by its own label, even if it is then stated by another entity. What is written is what
two passes over all of them would write, the first for type filters and the second for the rest. But
the error is that of the one pass: the first precondition that has no label or cannot be stated
stops it, whatever group it belongs to.
-/

namespace TaskNet

/-! ### Type filters -/

/-- A label that marks a type filter: `predicate` alone or in front of a dash. -/
def MarksTypeFilter (label : String) : Prop :=
  label = "predicate" ∨ ∃ rest, label = "predicate-" ++ rest

theorem isTypeFilter_iff {label : String} : isTypeFilter label = true ↔ MarksTypeFilter label := by
  have hdash : '-' ∉ "predicate".toList := by decide
  have hfilter : isTypeFilter label = true ↔
      String.ofList (label.toList.takeWhile (· ≠ '-')) = "predicate" := by
    rw [isTypeFilter, decide_eq_true_eq]
    exact ⟨fun h => by rw [h, String.ofList_toList], fun h => by rw [← h, String.toList_ofList]⟩
  rw [hfilter, Text.ofList_takeWhile_ne_eq_iff, and_iff_right hdash]
  exact or_congr_right (exists_congr fun rest => by rfl)

/-- An entity is sorted as a type filter by its own label. -/
def KnowledgeBase.IsTypeFilter (knowledge : KnowledgeBase) (predicate : EntityId) : Prop :=
  ∃ label ∈ knowledge.label predicate, MarksTypeFilter label

instance : DecidablePred MarksTypeFilter := fun _ => decidable_of_iff _ isTypeFilter_iff

instance (knowledge : KnowledgeBase) : DecidablePred knowledge.IsTypeFilter := fun predicate =>
  inferInstanceAs (Decidable (∃ label ∈ knowledge.label predicate, MarksTypeFilter label))

/-- What two passes over preconditions write if these are their texts: the type filters first, and
each of the two groups in the order in which it is stated. -/
def KnowledgeBase.sortedText (knowledge : KnowledgeBase) (predicates : List EntityId)
    (texts : EntityId → String) : String :=
  "(" ++ String.join ((predicates.filter (knowledge.IsTypeFilter ·)).map texts) ++
    String.join ((predicates.filter (¬knowledge.IsTypeFilter ·)).map texts) ++ ")"

/-! ### Reading the entries of a list -/

namespace Emission

variable {α β : Type} {read : α → Emission β}

/-- A list is read entry by entry. -/
theorem outcome_forEach_eq_ok_iff {entries : List α} {values : List β} :
    (forEach read entries).outcome = .ok values ↔
      List.Forall₂ (fun entry value => (read entry).outcome = .ok value) entries values := by
  induction entries generalizing values with
  | nil =>
    rw [List.forall₂_nil_left_iff]
    exact ⟨fun h => (Except.ok.inj h).symm, fun h => congrArg Except.ok h.symm⟩
  | cons entry rest ih =>
    rw [List.forall₂_cons_left_iff]
    constructor
    · intro h
      obtain ⟨value, hvalue, h⟩ := outcome_bind_eq_ok_iff.1 h
      obtain ⟨others, hothers, h⟩ := outcome_bind_eq_ok_iff.1 h
      exact ⟨value, others, hvalue, ih.1 hothers, (Except.ok.inj h).symm⟩
    · rintro ⟨value, others, hvalue, hothers, rfl⟩
      refine outcome_bind_eq_ok_iff.2 ⟨value, hvalue, ?_⟩
      exact outcome_bind_eq_ok_iff.2 ⟨others, ih.2 hothers, rfl⟩

/-- Of several entries that cannot be read, the first one stops the list. -/
theorem outcome_forEach_eq_error_iff {entries : List α} {error : EmitError} :
    (forEach read entries).outcome = .error error ↔
      ∃ before entry after, entries = before ++ entry :: after ∧
        (∀ earlier ∈ before, (read earlier).Succeeds) ∧ (read entry).outcome = .error error := by
  induction entries with
  | nil => simp [forEach]
  | cons first rest ih =>
    constructor
    · intro h
      obtain h | ⟨value, hvalue, h⟩ := outcome_bind_eq_error_iff.1 h
      · exact ⟨[], first, rest, rfl, by simp, h⟩
      · obtain h | ⟨values, -, h⟩ := outcome_bind_eq_error_iff.1 h
        · obtain ⟨before, entry, after, rfl, hbefore, herror⟩ := ih.1 h
          refine ⟨first :: before, entry, after, rfl, ?_, herror⟩
          exact List.forall_mem_cons.2 ⟨⟨value, hvalue⟩, hbefore⟩
        · cases h
    · rintro ⟨before, entry, after, hsplit, hbefore, herror⟩
      cases before with
      | nil =>
        obtain ⟨rfl, rfl⟩ := List.cons.inj hsplit
        exact outcome_bind_eq_error_iff.2 (.inl herror)
      | cons earlier before =>
        obtain ⟨rfl, hrest⟩ := List.cons.inj hsplit
        obtain ⟨⟨value, hvalue⟩, hbefore⟩ := List.forall_mem_cons.1 hbefore
        refine outcome_bind_eq_error_iff.2 (.inr ⟨value, hvalue, ?_⟩)
        refine outcome_bind_eq_error_iff.2 (.inl (ih.2 ?_))
        exact ⟨before, entry, after, hrest, hbefore, herror⟩

end Emission

/-! ### Single preconditions -/

namespace Reading

open Emission

variable (reading : Reading)

/-- A precondition is written as this text. It needs a label of its own to be sorted by, even if
its text comes from other labels. -/
def Requires (predicate : EntityId) (text : String) : Prop :=
  reading.knowledge.IsLabelled predicate ∧ (reading.renderLiteral predicate).outcome = .ok text

/-- A precondition cannot be written, for this reason. That its own label is missing is said before
anything else. -/
def Refuses (predicate : EntityId) (error : EmitError) : Prop :=
  match reading.knowledge.label predicate with
  | none => error = .missingLabel (reading.knowledge.describe predicate)
  | some _ => (reading.renderLiteral predicate).outcome = .error error

variable {reading} {predicate : EntityId}

/-- A precondition is read as its literal, with the answer whether it is a type filter. -/
theorem outcome_precondition_eq_ok_iff {filter : Bool} {literal : Literal} :
    (reading.precondition predicate).outcome = .ok (filter, literal) ↔
      reading.knowledge.IsLabelled predicate ∧ (reading.literal predicate).outcome = .ok literal ∧
        filter = decide (reading.knowledge.IsTypeFilter predicate) := by
  have hfilter {label : String} (hlabel : reading.knowledge.label predicate = some label) :
      isTypeFilter label = decide (reading.knowledge.IsTypeFilter predicate) := by
    rw [Bool.eq_iff_iff, isTypeFilter_iff, decide_eq_true_eq, KnowledgeBase.IsTypeFilter, hlabel]
    simp
  constructor
  · intro h
    obtain ⟨label, hlabel, h⟩ := outcome_bind_eq_ok_iff.1 h
    obtain ⟨other, hliteral, h⟩ := outcome_bind_eq_ok_iff.1 h
    obtain ⟨rfl, rfl⟩ := Prod.mk.inj (Except.ok.inj h)
    rw [outcome_label_eq_ok_iff] at hlabel
    exact ⟨⟨label, hlabel⟩, hliteral, hfilter hlabel⟩
  · rintro ⟨⟨label, hlabel⟩, hliteral, rfl⟩
    refine outcome_bind_eq_ok_iff.2 ⟨label, outcome_label_eq_ok_iff.2 hlabel, ?_⟩
    refine outcome_bind_eq_ok_iff.2 ⟨literal, hliteral, ?_⟩
    rw [← hfilter hlabel]
    rfl

theorem succeeds_precondition_iff :
    (reading.precondition predicate).Succeeds ↔ ∃ text, reading.Requires predicate text := by
  constructor
  · rintro ⟨⟨filter, literal⟩, h⟩
    obtain ⟨hlabelled, hliteral, -⟩ := outcome_precondition_eq_ok_iff.1 h
    exact ⟨literal.text, hlabelled, outcome_map_eq_ok_iff.2 ⟨literal, hliteral, rfl⟩⟩
  · rintro ⟨text, hlabelled, htext⟩
    obtain ⟨literal, hliteral, -⟩ := outcome_map_eq_ok_iff.1 htext
    exact ⟨_, outcome_precondition_eq_ok_iff.2 ⟨hlabelled, hliteral, rfl⟩⟩

theorem outcome_precondition_eq_error_iff {error : EmitError} :
    (reading.precondition predicate).outcome = .error error ↔ reading.Refuses predicate error := by
  unfold precondition Refuses label
  cases reading.knowledge.label predicate with
  | none => exact ⟨fun h => (Except.error.inj h).symm, fun h => congrArg Except.error h.symm⟩
  | some label =>
    simp only [pure_bind, renderLiteral, outcome_map_eq_error_iff, outcome_bind_eq_error_iff]
    refine or_iff_left ?_
    rintro ⟨literal, -, h⟩
    cases h

/-! ### All preconditions -/

/-- Both groups of what was read are the texts of the predicates of the group. -/
theorem map_text_filter {predicates : List EntityId} {entries : List (Bool × Literal)}
    {texts : EntityId → String}
    (hentries : List.Forall₂ (fun predicate entry =>
      (reading.precondition predicate).outcome = .ok entry) predicates entries)
    (htexts : ∀ predicate ∈ predicates, reading.Requires predicate (texts predicate)) :
    (entries.filter (·.1)).map (·.2.text) =
      (predicates.filter (reading.knowledge.IsTypeFilter ·)).map texts ∧
    (entries.filter (!·.1)).map (·.2.text) =
      (predicates.filter (¬reading.knowledge.IsTypeFilter ·)).map texts := by
  induction hentries with
  | nil => exact ⟨rfl, rfl⟩
  | @cons predicate entry predicates entries hentry _ ih =>
    obtain ⟨filter, literal⟩ := entry
    obtain ⟨⟨-, htext⟩, hrest⟩ := List.forall_mem_cons.1 htexts
    obtain ⟨-, hliteral, rfl⟩ := outcome_precondition_eq_ok_iff.1 hentry
    have hwritten : literal.text = texts predicate := by
      obtain ⟨other, hother, hwritten⟩ := outcome_map_eq_ok_iff.1 htext
      rw [hliteral] at hother
      rwa [Except.ok.inj hother]
    obtain ⟨hfilters, hothers⟩ := ih hrest
    by_cases hfilter : reading.knowledge.IsTypeFilter predicate
    · simp [hfilter, hwritten, hfilters, hothers]
    · simp [hfilter, hwritten, hfilters, hothers]

/-- What was read is sorted as the predicates are that it was read from. -/
theorem group_eq_sortedText {predicates : List EntityId} {entries : List (Bool × Literal)}
    {texts : EntityId → String}
    (hentries : List.Forall₂ (fun predicate entry =>
      (reading.precondition predicate).outcome = .ok entry) predicates entries)
    (htexts : ∀ predicate ∈ predicates, reading.Requires predicate (texts predicate)) :
    Literal.group ((entries.filter (·.1) ++ entries.filter (!·.1)).map (·.2)) =
      reading.knowledge.sortedText predicates texts := by
  obtain ⟨hfilters, hothers⟩ := map_text_filter hentries htexts
  unfold Literal.group Literal.textAll KnowledgeBase.sortedText
  rw [← hfilters, ← hothers, List.map_map, List.map_append, String.join_append]
  simp only [String.append_assoc]
  rfl

end Reading

/-- Preconditions can be written exactly if each of them has a label of its own and can be stated.
Then two passes over them, one for type filters and one for the others, write the same text.
Otherwise the first of them that cannot be written gives the error. -/
theorem preconditions_sorted_in_two_passes (reading : Reading) (entity : EntityId)
    (relation : Relation) :
    let predicates := reading.knowledge.related entity relation
    let written := (reading.renderPreconditions entity relation).outcome
    ((∃ text, written = .ok text) ↔
      ∀ predicate ∈ predicates, ∃ text, reading.Requires predicate text) ∧
    (∀ texts : EntityId → String,
      (∀ predicate ∈ predicates, reading.Requires predicate (texts predicate)) →
        written = .ok (reading.knowledge.sortedText predicates texts)) ∧
    ∀ error, written = .error error ↔
      ∃ before predicate after, predicates = before ++ predicate :: after ∧
        (∀ earlier ∈ before, ∃ text, reading.Requires earlier text) ∧
        reading.Refuses predicate error := by
  intro predicates written
  have hsucceeds : (∃ text, written = .ok text) ↔
      ∀ predicate ∈ predicates, ∃ text, reading.Requires predicate text := by
    have hread : (reading.renderPreconditions entity relation).Succeeds ↔
        (Emission.forEach reading.precondition predicates).Succeeds := by
      rw [Reading.renderPreconditions, Reading.preconditions_eq_map, Emission.succeeds_map_iff,
        Emission.succeeds_map_iff]
    refine hread.trans (Emission.succeeds_forEach_iff.trans ?_)
    exact forall₂_congr fun predicate _ => Reading.succeeds_precondition_iff
  refine ⟨hsucceeds, fun texts htexts => ?_, fun error => ?_⟩
  · obtain ⟨text, htext⟩ := hsucceeds.2 fun predicate hpredicate =>
      ⟨texts predicate, htexts predicate hpredicate⟩
    obtain ⟨literals, hliterals, hgroup⟩ := Emission.outcome_map_eq_ok_iff.1 htext
    rw [Reading.preconditions_eq_map] at hliterals
    obtain ⟨entries, hentries, hsorted⟩ := Emission.outcome_map_eq_ok_iff.1 hliterals
    have hread := Emission.outcome_forEach_eq_ok_iff.1 hentries
    rw [htext, ← hgroup, ← hsorted, Reading.group_eq_sortedText hread htexts]
  · have hread : written = .error error ↔
        (Emission.forEach reading.precondition predicates).outcome = .error error := by
      change (reading.renderPreconditions entity relation).outcome = .error error ↔ _
      rw [Reading.renderPreconditions, Reading.preconditions_eq_map,
        Emission.outcome_map_eq_error_iff, Emission.outcome_map_eq_error_iff]
    refine hread.trans (Emission.outcome_forEach_eq_error_iff.trans ?_)
    simp only [Reading.succeeds_precondition_iff, Reading.outcome_precondition_eq_error_iff]

/-- Two operators. The first one requires twice that the market is open, once that it is not closed
and once `predicates`, which is no type filter. The second one requires an entity without a label
that is the negative of another one. -/
def market : KnowledgeBase where
  entitiesOfKind _ := []
  related entity relation :=
    match entity.slot, relation with
    | 0, .opHasPrecondition => [.ofSlot 2, .ofSlot 3, .ofSlot 2, .ofSlot 4]
    | 1, .opHasPrecondition => [.ofSlot 2, .ofSlot 6, .ofSlot 5]
    | 3, .negativeOf => [.ofSlot 5]
    | 6, .negativeOf => [.ofSlot 2]
    | _, _ => []
  label entity :=
    match entity.slot with
    | 2 => some "open"
    | 3 => some "predicate-hours"
    | 4 => some "predicates"
    | 5 => some "closed"
    | _ => none
  comment _ := none
  iri _ := none

/-- The type filter comes first although another entity states it, and what is required twice is
written twice. A negation needs a label of its own. -/
theorem market_sorted_in_two_passes :
    (∃ texts : EntityId → String,
      (∀ predicate ∈ market.related (.ofSlot 0) .opHasPrecondition,
        Reading.Requires ⟨market, true⟩ predicate (texts predicate)) ∧
      (Reading.renderPreconditions ⟨market, true⟩ (.ofSlot 0) .opHasPrecondition).outcome =
        .ok "((not(closed))(open)(open)(predicates))") ∧
    (Reading.renderPreconditions ⟨market, true⟩ (.ofSlot 1) .opHasPrecondition).outcome =
      .error (.missingLabel "ent:7") := by
  let texts (predicate : EntityId) : String :=
    match predicate.slot with
    | 2 => "(open)"
    | 3 => "(not(closed))"
    | _ => "(predicates)"
  have hopen : Reading.Requires ⟨market, true⟩ (.ofSlot 2) "(open)" := ⟨⟨_, rfl⟩, rfl⟩
  have htexts : ∀ predicate ∈ market.related (.ofSlot 0) .opHasPrecondition,
      Reading.Requires ⟨market, true⟩ predicate (texts predicate) := by
    have hhours : Reading.Requires ⟨market, true⟩ (.ofSlot 3) "(not(closed))" := ⟨⟨_, rfl⟩, rfl⟩
    have hother : Reading.Requires ⟨market, true⟩ (.ofSlot 4) "(predicates)" := ⟨⟨_, rfl⟩, rfl⟩
    rintro predicate (_ | ⟨_, _ | ⟨_, _ | ⟨_, _ | ⟨_, ⟨⟩⟩⟩⟩⟩)
    · exact hopen
    · exact hhours
    · exact hopen
    · exact hother
  constructor
  · have hsorted : market.sortedText (market.related (.ofSlot 0) .opHasPrecondition) texts =
        "((not(closed))(open)(open)(predicates))" := by
      decide +kernel
    refine ⟨texts, htexts, ?_⟩
    rw [← hsorted]
    exact (preconditions_sorted_in_two_passes ⟨market, true⟩ _ _).2.1 texts htexts
  · refine ((preconditions_sorted_in_two_passes ⟨market, true⟩ _ _).2.2 _).2 ?_
    refine ⟨[.ofSlot 2], .ofSlot 6, [.ofSlot 5], rfl, ?_, rfl⟩
    intro earlier hearlier
    obtain rfl := List.mem_singleton.1 hearlier
    exact ⟨"(open)", hopen⟩

end TaskNet
