import TaskNet.Proofs.SameLookups
import TaskNet.Proofs.SelfDelimitingForms
import Mathlib.Logic.Relation

/-!
# Negations

A predicate that is the negative of another one, its counterpart, is written as a negation of the
counterpart, and nothing else that is said of the predicate itself makes a difference. Negation is
followed once: the counterpart is written as what it would be if it were the negative of nothing. So
the text of the counterpart is what is negated as long as the counterpart is no negation itself; if
it is one, its own name is negated in the place of its text.
-/

namespace TaskNet

/-- The negation of a written literal. -/
def negationOf (text : String) : String := "(not" ++ text ++ ")"

namespace KnowledgeBase

/-- A knowledge base without what an entity is the negative of. -/
def affirm (knowledge : KnowledgeBase) (entity : EntityId) : KnowledgeBase :=
  { knowledge with
    related := fun other relation =>
      if other = entity ∧ relation = .negativeOf then [] else knowledge.related other relation }

theorem related_affirm_self (knowledge : KnowledgeBase) (entity : EntityId) :
    (knowledge.affirm entity).related entity .negativeOf = [] :=
  if_pos ⟨rfl, rfl⟩

theorem related_affirm {relation : Relation} (h : relation ≠ .negativeOf)
    (knowledge : KnowledgeBase) (entity other : EntityId) :
    (knowledge.affirm entity).related other relation = knowledge.related other relation :=
  if_neg fun hboth => h hboth.2

/-- No entity is the negative of itself, not even by way of others. -/
def HasNoNegationCycle (knowledge : KnowledgeBase) : Prop :=
  ∀ entity, ¬Relation.TransGen
    (fun entity other => other ∈ knowledge.related entity .negativeOf) entity entity

/-- Two knowledge bases that differ at most in what they say of one entity itself, and even there
agree on the name and on what the entity is the negative of. -/
structure SameApart (entity : EntityId) (knowledge knowledge' : KnowledgeBase) : Prop where
  iri : ∀ other, knowledge.iri other = knowledge'.iri other
  negation : knowledge.related entity .negativeOf = knowledge'.related entity .negativeOf
  label : ∀ other, other ≠ entity → knowledge.label other = knowledge'.label other
  comment : ∀ other, other ≠ entity → knowledge.comment other = knowledge'.comment other
  related : ∀ other, other ≠ entity → ∀ relation,
    knowledge.related other relation = knowledge'.related other relation

end KnowledgeBase

theorem Literal.text_negate {literal : Literal} (h : literal.negated = false) :
    text { literal with negated := true } = negationOf literal.text := by
  unfold text
  rw [h]
  rfl

/-- Values that are changed alike wherever there are any make the same emission. -/
theorem Emission.map_congr_of_yields {α β : Type} {emission : Emission α} {f g : α → β}
    (h : emission.Yields fun value => f value = g value) : f <$> emission = g <$> emission := by
  rw [map_eq, map_eq]
  cases houtcome : emission.outcome with
  | error error => rfl
  | ok value => rw [Except.map, Except.map, h value houtcome]

namespace Reading

open Emission

variable {reading : Reading} {predicate counterpart : EntityId}

/-- What is read of a predicate apart from its own negation is not negated. -/
theorem yields_positive_affirmed (reading : Reading) (predicate : EntityId) :
    (reading.positive predicate).Yields (·.negated = false) := by
  refine yields_bind fun generic => ?_
  cases generic with
  | none => exact yields_bind fun name => yields_bind fun arguments => yields_pure rfl
  | some generic =>
    refine yields_bind fun name => yields_bind fun mode => ?_
    cases mode with
    | objects => exact yields_bind fun arguments => yields_pure rfl
    | parameters => exact yields_bind fun arguments => yields_pure rfl
    | mixed => exact yields_bind fun arguments => yields_pure rfl

/-- A predicate with one counterpart is written as the negation of what is read of the counterpart
apart from its own negation. -/
theorem renderLiteral_of_related_eq_singleton
    (h : reading.knowledge.related predicate .negativeOf = [counterpart]) :
    reading.renderLiteral predicate =
      negationOf <$> (Literal.text <$> reading.positive counterpart) := by
  have hsingle : reading.single predicate .negativeOf = pure (some counterpart) := by
    simp [single, h]
  have hliteral : reading.literal predicate =
      (fun literal : Literal => { literal with negated := true }) <$>
        reading.positive counterpart := by
    rw [literal, hsingle, pure_bind, map_eq_pure_bind]
  rw [renderLiteral, hliteral, ← comp_map, ← comp_map]
  exact map_congr_of_yields fun literal hok =>
    Literal.text_negate (yields_positive_affirmed reading counterpart literal hok)

/-- A predicate that is the negative of nothing is written as it is read. -/
theorem renderLiteral_of_related_eq_nil
    (h : reading.knowledge.related counterpart .negativeOf = []) :
    reading.renderLiteral counterpart = Literal.text <$> reading.positive counterpart := by
  have hsingle : reading.single counterpart .negativeOf = pure none := by
    simp [single, h]
  rw [renderLiteral, literal, hsingle, pure_bind]

/-- Agreement on everything that is said of a predicate but its negation, and on the label of what
it specializes, is all that its own reading needs. -/
theorem samePositive_of_related_eq {knowledge knowledge' : KnowledgeBase} {entity : EntityId}
    (hlabel : knowledge.label entity = knowledge'.label entity)
    (hcomment : knowledge.comment entity = knowledge'.comment entity)
    (hrelated : ∀ relation, relation ≠ .negativeOf →
      knowledge.related entity relation = knowledge'.related entity relation)
    (hgeneric : ∀ generic ∈ (knowledge.related entity .prSpecializationOf).head?,
      knowledge.label generic = knowledge'.label generic) :
    knowledge.SamePositive knowledge' entity where
  specialization := by
    have hsame := hrelated .prSpecializationOf (by decide)
    exact ⟨congrArg List.length hsame, congrArg List.head? hsame⟩
  own _ := by
    have hgate : knowledge.related entity .prHasParameter = [] ↔
        knowledge'.related entity .prHasParameter = [] := by
      rw [hrelated _ (by decide)]
    exact ⟨hlabel, hgate, fun _ => hcomment⟩
  generic := hgeneric
  comment _ := hcomment
  gate _ comment mode relation _ _ hgate := by
    have hother : relation ≠ .negativeOf := by
      rintro rfl
      cases mode <;> cases hgate
    rw [hrelated relation hother]

/-- Apart from its own negation an entity is read alike whether or not it is a negation. -/
theorem positive_affirm (knowledge : KnowledgeBase) (strict : Bool) (entity : EntityId) :
    Reading.positive ⟨knowledge.affirm entity, strict⟩ entity =
      Reading.positive ⟨knowledge, strict⟩ entity := by
  have hnames : ∀ other, (knowledge.affirm entity).iri other = knowledge.iri other := fun _ => rfl
  refine positive_congr hnames (samePositive_of_related_eq rfl rfl ?_ fun _ _ => rfl)
  exact fun relation hrelation => knowledge.related_affirm hrelation entity entity

/-- What is said of a predicate itself, and not of its counterpart, is not read. -/
theorem renderLiteral_congr_of_sameApart {knowledge knowledge' : KnowledgeBase} {strict : Bool}
    (h : KnowledgeBase.SameApart predicate knowledge knowledge')
    (hrelated : knowledge.related predicate .negativeOf = [counterpart])
    (hother : counterpart ≠ predicate)
    (hgeneric : predicate ∉ (knowledge.related counterpart .prSpecializationOf).head?) :
    Reading.renderLiteral ⟨knowledge, strict⟩ predicate =
      Reading.renderLiteral ⟨knowledge', strict⟩ predicate := by
  have hrelated' : knowledge'.related predicate .negativeOf = [counterpart] :=
    h.negation.symm.trans hrelated
  have hpositive : Reading.positive ⟨knowledge, strict⟩ counterpart =
      Reading.positive ⟨knowledge', strict⟩ counterpart := by
    refine positive_congr h.iri (samePositive_of_related_eq (h.label _ hother) (h.comment _ hother)
      (fun relation _ => h.related _ hother relation) fun generic hmem => h.label _ ?_)
    rintro rfl
    exact hgeneric hmem
  have hwritten := @renderLiteral_of_related_eq_singleton ⟨knowledge, strict⟩ _ _ hrelated
  have hwritten' := @renderLiteral_of_related_eq_singleton ⟨knowledge', strict⟩ _ _ hrelated'
  rw [hwritten, hwritten', hpositive]

/-- Whatever is the negative of something is read as a negation. -/
theorem negated_of_literal {literal : Literal}
    (h : reading.knowledge.related predicate .negativeOf ≠ [])
    (hliteral : (reading.literal predicate).outcome = .ok literal) : literal.negated = true := by
  obtain ⟨target, htarget, hliteral⟩ := outcome_bind_eq_ok_iff.1 hliteral
  rw [eq_head?_of_single htarget] at hliteral
  obtain ⟨counterpart, others, hcons⟩ := List.exists_cons_of_ne_nil h
  rw [hcons] at hliteral
  obtain ⟨positive, -, hliteral⟩ := outcome_bind_eq_ok_iff.1 hliteral
  rw [← Except.ok.inj hliteral]

/-- If the counterpart is a negation itself, what is negated is not its text: between the two
parentheses that open there is no name. -/
theorem ne_negationOf_of_related_ne_nil
    (hsymbols : ∀ entity label, reading.knowledge.label entity = some label → Text.IsSymbol label)
    (h : reading.knowledge.related predicate .negativeOf = [counterpart])
    (hchain : reading.knowledge.related counterpart .negativeOf ≠ []) {text text' : String}
    (htext : (reading.renderLiteral predicate).outcome = .ok text)
    (htext' : (reading.renderLiteral counterpart).outcome = .ok text') :
    text ≠ negationOf text' := by
  rw [renderLiteral_of_related_eq_singleton h] at htext
  obtain ⟨inner, hinner, rfl⟩ := outcome_map_eq_ok_iff.1 htext
  obtain ⟨⟨negated, name, arguments⟩, hread, rfl⟩ := outcome_map_eq_ok_iff.1 hinner
  obtain ⟨⟨negated', name', arguments'⟩, hread', rfl⟩ := outcome_map_eq_ok_iff.1 htext'
  obtain rfl : negated = false := yields_positive_affirmed reading counterpart _ hread
  obtain rfl : negated' = true := negated_of_literal hchain hread'
  let words : Wording := { IsName := Text.IsSymbol, IsArgument := fun _ => True }
  have hwords : words.AllowsKnowledge reading.knowledge :=
    { label := hsymbols, argument := fun _ _ _ _ _ _ _ _ => trivial }
  have hname : Text.IsSymbol name := (yields_positive hwords counterpart _ hread).1
  intro hsame
  have hlist := congrArg String.toList hsame
  simp only [negationOf, String.toList_append] at hlist
  have hinner := List.append_cancel_left (List.append_cancel_right hlist)
  have hforms : (application name arguments).toList ++ [] =
      (Literal.text { negated := true, name := name', arguments := arguments' }).toList ++ [] := by
    rw [List.append_nil, List.append_nil]
    exact hinner
  exact negation_ne_application hname [] [] hforms

end Reading

/-- A predicate with one counterpart is written as the negation of what the counterpart would be
written as if it were the negative of nothing, and it fails and warns as that does. So it negates
the text of a counterpart that is no negation itself, however that one is specialized. If the
counterpart is a negation and labels are symbols, then it never negates the text of the counterpart.
Nothing else that is said of the predicate is read, unless its counterpart specializes it. -/
theorem negation_wraps_affirmed_counterpart (reading : Reading) {predicate counterpart : EntityId}
    (h : reading.knowledge.related predicate .negativeOf = [counterpart]) :
    reading.renderLiteral predicate = negationOf <$> Reading.renderLiteral
      ⟨reading.knowledge.affirm counterpart, reading.strict⟩ counterpart ∧
    (reading.knowledge.related counterpart .negativeOf = [] →
      reading.renderLiteral predicate = negationOf <$> reading.renderLiteral counterpart) ∧
    (reading.knowledge.related counterpart .negativeOf ≠ [] →
      (∀ entity label, reading.knowledge.label entity = some label → Text.IsSymbol label) →
        ∀ text text', (reading.renderLiteral predicate).outcome = .ok text →
          (reading.renderLiteral counterpart).outcome = .ok text' → text ≠ negationOf text') ∧
    ∀ knowledge', reading.knowledge.SameApart predicate knowledge' → counterpart ≠ predicate →
      predicate ∉ (reading.knowledge.related counterpart .prSpecializationOf).head? →
        reading.renderLiteral predicate =
          Reading.renderLiteral ⟨knowledge', reading.strict⟩ predicate := by
  have hwritten := Reading.renderLiteral_of_related_eq_singleton h
  refine ⟨?_, fun hnone => ?_, fun hchain hsymbols text text' htext htext' => ?_,
    fun knowledge' hsame hother hgeneric => ?_⟩
  · have haffirmed : Reading.renderLiteral
        ⟨reading.knowledge.affirm counterpart, reading.strict⟩ counterpart =
          Literal.text <$> reading.positive counterpart := by
      rw [Reading.renderLiteral_of_related_eq_nil (reading.knowledge.related_affirm_self _),
        Reading.positive_affirm]
    rw [haffirmed, hwritten]
  · rw [Reading.renderLiteral_of_related_eq_nil hnone, hwritten]
  · exact Reading.ne_negationOf_of_related_ne_nil hsymbols h hchain htext htext'
  · exact Reading.renderLiteral_congr_of_sameApart hsame h hother hgeneric

/-- Restless is the negative of idle, and idle is the negative of busy. A remark is the label and
the comment of restless, and restless may specialize anything. -/
def moods (remark : String) (generics : List EntityId) : KnowledgeBase where
  entitiesOfKind _ := []
  related entity relation :=
    match entity.slot, relation with
    | 1, .negativeOf => [.ofSlot 0]
    | 2, .negativeOf => [.ofSlot 1]
    | 2, .prSpecializationOf => generics
    | _, _ => []
  label entity :=
    match entity.slot with
    | 0 => some "busy"
    | 1 => some "idle"
    | 2 => some remark
    | _ => none
  comment entity := if entity.slot = 2 then some remark else none
  iri _ := none

theorem moods_hasNoNegationCycle (remark : String) (generics : List EntityId) :
    (moods remark generics).HasNoNegationCycle := by
  -- Every mood comes behind what it is the negative of.
  have hstep (entity other : EntityId)
      (hother : other ∈ (moods remark generics).related entity .negativeOf) :
      other.slot < entity.slot := by
    simp only [moods] at hother
    split at hother <;> simp_all
  have hpath {entity other : EntityId} (hpath : Relation.TransGen (fun entity other =>
      other ∈ (moods remark generics).related entity .negativeOf) entity other) :
      other.slot < entity.slot := by
    induction hpath with
    | single hother => exact hstep _ _ hother
    | tail _ hother ih => exact Nat.lt_trans (hstep _ _ hother) ih
  intro entity hcycle
  exact Nat.lt_irrefl _ (hpath hcycle)

/-- Although there is no cycle, the text of idle is not what is negated: it is not law that a
predicate is written as the negation of the text of its counterpart. -/
theorem negation_of_negation_not_wrapped :
    ¬∀ (knowledge : KnowledgeBase) (strict : Bool) (predicate counterpart : EntityId),
      knowledge.HasNoNegationCycle →
        knowledge.related predicate .negativeOf = [counterpart] →
          ∀ text, (Reading.renderLiteral ⟨knowledge, strict⟩ counterpart).outcome = .ok text →
            (Reading.renderLiteral ⟨knowledge, strict⟩ predicate).outcome =
              .ok (negationOf text) := by
  intro hlaw
  have hmood := hlaw (moods "restless" []) false (.ofSlot 2) (.ofSlot 1)
    (moods_hasNoNegationCycle "restless" []) rfl "(not(busy))" rfl
  have hwritten : (Reading.renderLiteral ⟨moods "restless" [], false⟩ (.ofSlot 2)).outcome =
      .ok "(not(idle))" := rfl
  rw [hwritten] at hmood
  revert hmood
  decide

/-- Of two moods that differ in their own remarks and specializations nothing differs. -/
theorem moods_sameApart (remark remark' : String) (generics generics' : List EntityId) :
    (moods remark generics).SameApart (.ofSlot 2) (moods remark' generics') := by
  have hslot {other : EntityId} (hother : other ≠ .ofSlot 2) : other.slot ≠ 2 := by
    intro hslot
    rw [← EntityId.ofSlot_slot other, hslot] at hother
    exact hother rfl
  refine ⟨fun _ => rfl, rfl, fun other hother => ?_, fun other hother => ?_,
    fun other hother relation => ?_⟩
  · simp only [moods]
    split
    · rfl
    · rfl
    · exact absurd ‹other.slot = 2› (hslot hother)
    · rfl
  · simp only [moods, if_neg (hslot hother)]
  · simp only [moods]
    split
    · rfl
    · rfl
    · exact absurd ‹other.slot = 2› (hslot hother)
    · rfl

/-- Idle negates the text of busy. Restless does not negate the text of idle, and it is written
alike whatever its label and its comment are and whatever it specializes. -/
theorem moods_negation_wraps :
    Reading.renderLiteral ⟨moods "restless" [], true⟩ (.ofSlot 1) =
      negationOf <$> Reading.renderLiteral ⟨moods "restless" [], true⟩ (.ofSlot 0) ∧
    (Reading.renderLiteral ⟨moods "restless" [], true⟩ (.ofSlot 2)).outcome =
      .ok "(not(idle))" ∧
    "(not(idle))" ≠ negationOf "(not(busy))" ∧
    Reading.renderLiteral ⟨moods "restless" [], true⟩ (.ofSlot 2) =
      Reading.renderLiteral ⟨moods "Mixed: [" [.ofSlot 0, .ofSlot 1], true⟩ (.ofSlot 2) := by
  obtain ⟨-, hidle, -⟩ := @negation_wraps_affirmed_counterpart ⟨moods "restless" [], true⟩
    (.ofSlot 1) (.ofSlot 0) rfl
  obtain ⟨-, -, hchain, hown⟩ := @negation_wraps_affirmed_counterpart ⟨moods "restless" [], true⟩
    (.ofSlot 2) (.ofSlot 1) rfl
  have hsymbols (entity : EntityId) (label : String)
      (hlabel : (moods "restless" []).label entity = some label) : Text.IsSymbol label := by
    simp only [moods] at hlabel
    split at hlabel
    · cases hlabel
      decide
    · cases hlabel
      decide
    · cases hlabel
      decide
    · cases hlabel
  have hsame := moods_sameApart "restless" "Mixed: [" [] [.ofSlot 0, .ofSlot 1]
  refine ⟨hidle rfl, rfl, ?_, ?_⟩
  · exact hchain (List.cons_ne_nil _ _) hsymbols _ _ rfl rfl
  · exact hown _ hsame (by decide) nofun

end TaskNet
