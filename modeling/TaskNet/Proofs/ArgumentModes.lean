import TaskNet.Proofs.Negations
import TaskNet.Proofs.WrittenLists

/-!
# Arguments in a mode

A specialized predicate whose comment begins with a list is written with the name of the generic
predicate and with the tokens of this list, marked as its kind wants them. The kind in front of the
first colon and the list behind the first opening belong together then, whatever the comment goes
on to say. Only what the predicate is related to can still keep its arguments away.
-/

namespace TaskNet

/-- What is written in front of each token of a list of this kind. -/
def ListKind.mark : ListKind → String
  | parameters => " ?"
  | objects | mixed => " "

/-- A specialized predicate has the arguments that it lists in a mode: mixed ones in any case,
parameters and objects only if it is related to some. -/
def KnowledgeBase.HasArguments (knowledge : KnowledgeBase) (predicate : EntityId) :
    ListKind → Prop
  | .parameters => knowledge.related predicate .prHasParameter ≠ []
  | .objects => knowledge.related predicate .prHasObject ≠ []
  | .mixed => True

namespace ArgumentList

variable {kind : ListKind} {tokens : List String}

/-- The tokens of a list are written behind their marks. -/
theorem spaced_map_written (kind : ListKind) (tokens : List String) :
    spaced (tokens.map kind.written) = String.join (tokens.map (kind.mark ++ ·)) := by
  have hmark (token : String) : " " ++ kind.written token = kind.mark ++ token := by
    cases kind with
    | parameters =>
      rw [ListKind.written, ← String.append_assoc]
      rfl
    | objects => rfl
    | mixed => rfl
  rw [spaced, List.map_map]
  exact congrArg String.join (List.map_congr_left fun token _ => hmark token)

/-- Joined tokens are spelled as they stand. -/
theorem spells_joined (htokens : ∀ token ∈ tokens, IsToken token) :
    Spells (";".intercalate tokens).toList tokens := by
  have hspells := Spells.intercalate (tokens.map String.toList)
  have hkept : (tokens.map String.toList).filter (· ≠ []) = tokens.map String.toList := by
    refine List.filter_eq_self.2 fun piece hpiece => ?_
    obtain ⟨token, htoken, rfl⟩ := List.mem_map.1 hpiece
    simpa using (htokens token htoken).1
  rw [hkept, List.map_map] at hspells
  simpa [String.toList_intercalate] using hspells

/-- A comment that begins with a list has the kind of this list for its mode. -/
theorem mode_of_list (kind : ListKind) (tokens : List String) (rest : String) :
    mode (kind.name ++ ": [" ++ ";".intercalate tokens ++ "]" ++ rest) = .ok kind := by
  refine mode_eq_ok_iff.2 ⟨?_, .inr ⟨" [" ++ ";".intercalate tokens ++ "]" ++ rest, ?_⟩⟩
  · cases kind <;> decide
  · have hopening : ": [" = ":" ++ " [" := rfl
    rw [hopening]
    simp only [String.append_assoc]

/-- The list that a comment begins with is the one that is read from it. -/
theorem extract_of_list (htokens : ∀ token ∈ tokens, IsToken token) (rest : String) :
    extract kind (kind.name ++ ": [" ++ ";".intercalate tokens ++ "]" ++ rest) = .ok tokens := by
  have hcomment : (kind.name ++ ": [" ++ ";".intercalate tokens ++ "]" ++ rest).toList =
      [] ++ kind.opening ++ (";".intercalate tokens).toList ++ ']' :: rest.toList := by
    simp [ListKind.opening]
  have hfront : ¬kind.opening <:+: [] := by simp [ListKind.opening]
  exact extract_of_spells hcomment hfront (spells_joined htokens) htokens

end ArgumentList

namespace Reading

variable {reading : Reading} {predicate generic entity : EntityId} {name comment : String}
  {kind : ListKind} {tokens : List String}

theorem label_of_eq_some (h : reading.knowledge.label entity = some name) :
    reading.label entity = pure name := by
  unfold label
  rw [h]

/-- What can be read from the comment of an entity is read without a warning. -/
theorem fromComment_of_eq_ok {α : Type} {read : String → Except CommentFault α} {value : α}
    (hcomment : reading.knowledge.comment entity = some comment)
    (hread : read comment = .ok value) :
    reading.fromComment entity read = pure value := by
  unfold fromComment
  rw [hcomment]
  simp only [hread, blame]

theorem listed_of_extract (hcomment : reading.knowledge.comment entity = some comment)
    (hextract : ArgumentList.extract kind comment = .ok tokens) :
    reading.listed entity kind = pure (tokens.map kind.written) := by
  rw [listed, fromComment_of_eq_ok hcomment hextract, pure_bind]

theorem arguments_of_related_eq_nil {relation : Relation}
    (h : reading.knowledge.related entity relation = []) :
    reading.arguments entity relation kind = pure [] := if_pos h

theorem arguments_of_related_ne_nil {relation : Relation}
    (h : reading.knowledge.related entity relation ≠ []) :
    reading.arguments entity relation kind = reading.listed entity kind := if_neg h

/-- The predicate that is read from a specialization in the mode of its comment. -/
theorem positive_of_mode
    (hgeneric : reading.knowledge.related predicate .prSpecializationOf = [generic])
    (hname : reading.knowledge.label generic = some name)
    (hcomment : reading.knowledge.comment predicate = some comment)
    (hmode : ArgumentList.mode comment = .ok kind)
    (hextract : ArgumentList.extract kind comment = .ok tokens) :
    (reading.knowledge.HasArguments predicate kind →
      reading.positive predicate = pure { name, arguments := tokens.map kind.written }) ∧
    (¬reading.knowledge.HasArguments predicate kind →
      reading.positive predicate = pure { name, arguments := [] }) := by
  have hsingle : reading.single predicate .prSpecializationOf = pure (some generic) := by
    simp [single, hgeneric]
  have hlisted := listed_of_extract hcomment hextract
  rw [positive, hsingle, pure_bind]
  simp only [label_of_eq_some hname, fromComment_of_eq_ok hcomment hmode, pure_bind]
  cases kind with
  | parameters =>
    constructor
    · intro hgate
      simp only [arguments_of_related_ne_nil hgate, hlisted, pure_bind]
    · intro hgate
      simp only [arguments_of_related_eq_nil (not_not.1 hgate), pure_bind]
  | objects =>
    constructor
    · intro hgate
      simp only [arguments_of_related_ne_nil hgate, hlisted, pure_bind]
    · intro hgate
      simp only [arguments_of_related_eq_nil (not_not.1 hgate), pure_bind]
  | mixed =>
    constructor
    · intro _
      simp only [hlisted, pure_bind]
    · intro hgate
      exact absurd trivial hgate

end Reading

/-- A predicate that is the negative of nothing and specializes one labelled predicate is written
with this label and with the tokens of the list that its comment begins with, each behind the mark
of the kind. If the kind is that of parameters or of objects and the predicate has none, it is
written with the label alone. There are no warnings, and it makes no difference how the comment goes
on. -/
theorem specializations_written_in_mode (reading : Reading) {predicate generic : EntityId}
    {name rest : String} {kind : ListKind} {tokens : List String}
    (hnegation : reading.knowledge.related predicate .negativeOf = [])
    (hgeneric : reading.knowledge.related predicate .prSpecializationOf = [generic])
    (hname : reading.knowledge.label generic = some name)
    (htokens : ∀ token ∈ tokens, ArgumentList.IsToken token)
    (hcomment : reading.knowledge.comment predicate =
      some (kind.name ++ ": [" ++ ";".intercalate tokens ++ "]" ++ rest)) :
    (reading.knowledge.HasArguments predicate kind → reading.renderLiteral predicate =
      pure ("(" ++ name ++ String.join (tokens.map (kind.mark ++ ·)) ++ ")")) ∧
    (¬reading.knowledge.HasArguments predicate kind →
      reading.renderLiteral predicate = pure ("(" ++ name ++ ")")) := by
  have hread := Reading.positive_of_mode hgeneric hname hcomment
    (ArgumentList.mode_of_list kind tokens rest) (ArgumentList.extract_of_list htokens rest)
  rw [Reading.renderLiteral_of_related_eq_nil hnegation]
  constructor
  · intro hgate
    rw [hread.1 hgate, map_pure, ← ArgumentList.spaced_map_written]
    rfl
  · intro hgate
    have hbare : Literal.text { name, arguments := [] } = "(" ++ name ++ ")" := by
      simp [Literal.text, application, spaced]
    rw [hread.2 hgate, map_pure, hbare]

/-- Two facts that specialize `at`. Both list objects, and other lists behind them; the first one
has two objects and the second one none. -/
def berths : KnowledgeBase where
  entitiesOfKind _ := []
  related entity relation :=
    match entity.slot, relation with
    | 0, .prSpecializationOf => [.ofSlot 2]
    | 0, .prHasObject => [.ofSlot 3, .ofSlot 3]
    | 1, .prSpecializationOf => [.ofSlot 2]
    | 1, .prHasParameter => [.ofSlot 3]
    | _, _ => []
  label entity :=
    match entity.slot with
    | 0 => some "at-berth"
    | 2 => some "at"
    | _ => none
  comment _ := some "Objects: [ship 1;berth] Mixed: [?ship] Objects: [late] Parameters: [ship]"
  iri _ := none

theorem berths_written_in_mode :
    Reading.renderLiteral ⟨berths, true⟩ (.ofSlot 0) = pure "(at ship 1 berth)" ∧
      Reading.renderLiteral ⟨berths, true⟩ (.ofSlot 1) = pure "(at)" := by
  have htokens : ∀ token ∈ ["ship 1", "berth"], ArgumentList.IsToken token := by decide +kernel
  have hcomment : "Objects: [ship 1;berth] Mixed: [?ship] Objects: [late] Parameters: [ship]" =
      ListKind.objects.name ++ ": [" ++ ";".intercalate ["ship 1", "berth"] ++ "]" ++
        " Mixed: [?ship] Objects: [late] Parameters: [ship]" := by
    decide +kernel
  have hsome := congrArg some hcomment
  constructor
  · have hwritten := @specializations_written_in_mode ⟨berths, true⟩ (.ofSlot 0) (.ofSlot 2) "at" _
      .objects _ rfl rfl rfl htokens hsome
    exact hwritten.1 (List.cons_ne_nil _ _)
  · have hwritten := @specializations_written_in_mode ⟨berths, true⟩ (.ofSlot 1) (.ofSlot 2) "at" _
      .objects _ rfl rfl rfl htokens hsome
    exact hwritten.2 (not_not.2 rfl)

end TaskNet
