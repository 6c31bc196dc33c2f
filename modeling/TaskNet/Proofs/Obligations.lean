import TaskNet.Proofs.CommentLists
import TaskNet.Proofs.StrictReading

/-!
# What has to be stated

A definition is rendered exactly if the knowledge base meets the obligations of everything in it:
labels for all that is named, argument lists where something is related as an argument, a mode for
every specialized predicate, and for a problem a domain, an initial state and a goal. The
obligations are stated on the five lookups alone and say nothing of the order in which they are
checked.
-/

namespace TaskNet

/-! ### When an emission has a value -/

namespace Emission

variable {α β : Type}

/-- An emission that yields a value. -/
def Succeeds (emission : Emission α) : Prop := ∃ value, emission.outcome = .ok value

theorem succeeds_pure (value : α) : Succeeds (pure value) := ⟨value, rfl⟩

theorem succeeds_bind_iff {emission : Emission α} {next : α → Emission β} :
    (emission >>= next).Succeeds ↔
      ∃ value, emission.outcome = .ok value ∧ (next value).Succeeds := by
  obtain ⟨warnings, error | value⟩ := emission
  · exact iff_of_false nofun nofun
  · constructor
    · intro h
      exact ⟨value, rfl, h⟩
    · rintro ⟨other, hother, h⟩
      cases hother
      exact h

/-- If it makes no difference which value was read first, both parts just have to succeed. -/
theorem succeeds_bind_iff_and {emission : Emission α} {next : α → Emission β} {P : Prop}
    (hnext : ∀ value, (next value).Succeeds ↔ P) :
    (emission >>= next).Succeeds ↔ emission.Succeeds ∧ P := by
  simp only [succeeds_bind_iff, hnext, exists_and_right]
  rfl

theorem succeeds_bind_pure_iff {emission : Emission α} {f : α → β} :
    (emission >>= fun value => pure (f value)).Succeeds ↔ emission.Succeeds := by
  rw [succeeds_bind_iff_and fun value => iff_true_intro (succeeds_pure (f value)), and_true]

theorem succeeds_map_iff {emission : Emission α} {f : α → β} :
    (f <$> emission).Succeeds ↔ emission.Succeeds := by
  rw [map_eq_pure_bind, succeeds_bind_pure_iff]

/-- Every entry of a list has to be read. -/
theorem succeeds_forEach_iff {read : β → Emission α} {entries : List β} :
    (forEach read entries).Succeeds ↔ ∀ entry ∈ entries, (read entry).Succeeds := by
  induction entries with
  | nil => exact iff_of_true (succeeds_pure []) nofun
  | cons entry rest ih =>
    rw [List.forall_mem_cons, ← ih]
    exact succeeds_bind_iff_and fun value => succeeds_bind_pure_iff

end Emission

/-! ### Obligations -/

namespace KnowledgeBase

variable (knowledge : KnowledgeBase)

/-- An entity can be named. -/
def IsLabelled (entity : EntityId) : Prop := ∃ label, knowledge.label entity = some label

/-- The comment of an entity opens a list of a kind and closes it behind the first opening. -/
def Lists (entity : EntityId) (kind : ListKind) : Prop :=
  ∃ comment, knowledge.comment entity = some comment ∧ kind.IsReadableIn comment

/-- An entity with a target of a relation has to list what is related to it. -/
def ListsTargets (entity : EntityId) (relation : Relation) (kind : ListKind) : Prop :=
  knowledge.related entity relation ≠ [] → knowledge.Lists entity kind

/-- The comment of an entity begins with the name of a kind, in front of its first colon. -/
def HasMode (entity : EntityId) (kind : ListKind) : Prop :=
  ∃ comment, knowledge.comment entity = some comment ∧ DeclaresMode comment kind.name

/-- A specialized predicate has the list that its mode asks for. Parameters and objects have to be
listed only if it has any, mixed arguments in any case. -/
def ListsArguments (predicate : EntityId) : ListKind → Prop
  | .parameters => knowledge.ListsTargets predicate .prHasParameter .parameters
  | .objects => knowledge.ListsTargets predicate .prHasObject .objects
  | .mixed => knowledge.Lists predicate .mixed

/-- An entity can be stated, its own negation apart. A specialization is named by the generic
predicate. -/
def IsCompletePositive (predicate : EntityId) : Prop :=
  match (knowledge.related predicate .prSpecializationOf).head? with
  | none => knowledge.IsLabelled predicate ∧
      knowledge.ListsTargets predicate .prHasParameter .parameters
  | some generic => knowledge.IsLabelled generic ∧
      ∃ kind, knowledge.HasMode predicate kind ∧ knowledge.ListsArguments predicate kind

/-- An entity can be stated: itself, or what it is the negative of. -/
def IsCompletePredicate (predicate : EntityId) : Prop :=
  knowledge.IsCompletePositive ((knowledge.related predicate .negativeOf).head?.getD predicate)

/-- An entity can be required: it has a label of its own to be sorted by, and it can be stated. -/
def IsCompletePrecondition (predicate : EntityId) : Prop :=
  knowledge.IsLabelled predicate ∧ knowledge.IsCompletePredicate predicate

/-- An entity can be called. -/
def IsCompleteTask (kind : TaskKind) (task : EntityId) : Prop :=
  match (knowledge.related task kind.specialization).head? with
  | none => knowledge.IsLabelled task ∧ knowledge.ListsTargets task kind.parameters .parameters
  | some generic => knowledge.IsLabelled generic ∧
      knowledge.ListsTargets task kind.objects .objects

/-- What has to be stated of a flow. -/
structure IsCompleteFlow (flow : EntityId) : Prop where
  preconditions : ∀ predicate ∈ knowledge.related flow .mfHasPrecondition,
    knowledge.IsCompletePrecondition predicate
  methods : ∀ task ∈ knowledge.related flow .hasPostconditionMe,
    knowledge.IsCompleteTask .method task
  operators : ∀ task ∈ knowledge.related flow .hasPostconditionOp,
    knowledge.IsCompleteTask .operator task

/-- What has to be stated of a method. It need not have any flows. -/
structure IsCompleteMethod (method : EntityId) : Prop where
  labelled : knowledge.IsLabelled method
  parameters : knowledge.ListsTargets method .meHasParameter .parameters
  flows : ∀ flow ∈ knowledge.related method .hasFlow, knowledge.IsCompleteFlow flow

/-- What has to be stated of an operator. -/
structure IsCompleteOperator (operator : EntityId) : Prop where
  labelled : knowledge.IsLabelled operator
  parameters : knowledge.ListsTargets operator .opHasParameter .parameters
  preconditions : ∀ predicate ∈ knowledge.related operator .opHasPrecondition,
    knowledge.IsCompletePrecondition predicate
  deletes : ∀ predicate ∈ knowledge.related operator .deletesPredicate,
    knowledge.IsCompletePredicate predicate
  adds : ∀ predicate ∈ knowledge.related operator .addsPredicate,
    knowledge.IsCompletePredicate predicate

/-- What has to be stated of a domain. -/
structure IsCompleteDomain (domain : EntityId) : Prop where
  labelled : knowledge.IsLabelled domain
  methods : ∀ method ∈ knowledge.related domain .hasMethod, knowledge.IsCompleteMethod method
  operators : ∀ operator ∈ knowledge.related domain .hasOperator,
    knowledge.IsCompleteOperator operator

/-- What has to be stated of a problem. Of several domains the first counts. -/
structure IsCompleteProblem (problem : EntityId) : Prop where
  labelled : knowledge.IsLabelled problem
  domain : ∃ domain, (knowledge.related problem .hasDomain).head? = some domain ∧
    knowledge.IsLabelled domain
  hasInitialState : knowledge.related problem .hasInitialState ≠ []
  hasGoal : knowledge.related problem .hasGoal ≠ []
  initialStates : ∀ state ∈ knowledge.related problem .hasInitialState,
    ∀ predicate ∈ knowledge.related state .hasPredicate, knowledge.IsCompletePredicate predicate
  goals : ∀ goal ∈ knowledge.related problem .hasGoal,
    ∀ task ∈ knowledge.related goal .consistsOfMethod, knowledge.IsCompleteTask .method task

end KnowledgeBase

/-! ### Readings succeed exactly if the obligations are met -/

namespace Reading

open Emission

variable (knowledge : KnowledgeBase)

theorem succeeds_label_iff {reading : Reading} {entity : EntityId} :
    (reading.label entity).Succeeds ↔ reading.knowledge.IsLabelled entity := by
  simp only [Succeeds, outcome_label_eq_ok_iff]
  rfl

theorem succeeds_listed_iff {reading : Reading} {entity : EntityId} {kind : ListKind} :
    (reading.listed entity kind).Succeeds ↔ reading.knowledge.Lists entity kind := by
  rw [listed, succeeds_bind_pure_iff]
  simp only [Succeeds, outcome_fromComment_eq_ok_iff]
  rw [exists_comm]
  simp only [exists_and_left, ArgumentList.exists_extract_iff]
  rfl

theorem succeeds_arguments_iff {reading : Reading} {entity : EntityId} {relation : Relation}
    {kind : ListKind} : (reading.arguments entity relation kind).Succeeds ↔
      reading.knowledge.ListsTargets entity relation kind := by
  unfold arguments KnowledgeBase.ListsTargets
  split
  · next hnone => exact iff_of_true (succeeds_pure []) fun hsome => absurd hnone hsome
  · next hsome => rw [succeeds_listed_iff, forall_prop_of_true hsome]

/-- A label and the arguments of a relation are all that most applications are made of. -/
theorem succeeds_application_iff {α : Type} {reading : Reading} {named entity : EntityId}
    {relation : Relation} {kind : ListKind} {make : String → List String → α} :
    (reading.label named >>= fun name =>
      reading.arguments entity relation kind >>= fun arguments =>
        pure (make name arguments)).Succeeds ↔
      reading.knowledge.IsLabelled named ∧
        reading.knowledge.ListsTargets entity relation kind := by
  rw [← succeeds_label_iff, ← succeeds_arguments_iff]
  exact succeeds_bind_iff_and fun name => succeeds_bind_pure_iff

/-- A lenient reading goes on with the first target, whatever warning it gives. -/
theorem succeeds_single_bind_iff {α : Type} {entity : EntityId} {relation : Relation}
    {next : Option EntityId → Emission α} :
    (knowledge.leniently.single entity relation >>= next).Succeeds ↔
      (next (knowledge.related entity relation).head?).Succeeds := by
  have houtcome : (knowledge.leniently.single entity relation).outcome =
      .ok (knowledge.related entity relation).head? := by
    rw [outcome_single]
    exact if_neg (by simp [KnowledgeBase.leniently])
  rw [succeeds_bind_iff, houtcome]
  simp only [Except.ok.injEq, exists_eq_left']

theorem succeeds_positive_iff (predicate : EntityId) :
    (knowledge.leniently.positive predicate).Succeeds ↔ knowledge.IsCompletePositive predicate := by
  rw [positive, succeeds_single_bind_iff, KnowledgeBase.IsCompletePositive]
  cases (knowledge.related predicate .prSpecializationOf).head? with
  | none => exact succeeds_application_iff
  | some generic =>
    refine (succeeds_bind_iff_and fun name => ?_).trans (and_congr_left' succeeds_label_iff)
    rw [succeeds_bind_iff]
    refine exists_congr fun kind => and_congr ?_ ?_
    · simp only [outcome_fromComment_eq_ok_iff, ArgumentList.mode_eq_ok_iff]
      rfl
    · cases kind with
      | parameters => exact succeeds_bind_pure_iff.trans succeeds_arguments_iff
      | objects => exact succeeds_bind_pure_iff.trans succeeds_arguments_iff
      | mixed => exact succeeds_bind_pure_iff.trans succeeds_listed_iff

/-- Of a negation only the counterpart has to be there. -/
theorem succeeds_literal_iff (predicate : EntityId) :
    (knowledge.leniently.literal predicate).Succeeds ↔ knowledge.IsCompletePredicate predicate := by
  rw [literal, succeeds_single_bind_iff, KnowledgeBase.IsCompletePredicate]
  cases (knowledge.related predicate .negativeOf).head? with
  | none => exact succeeds_positive_iff knowledge predicate
  | some counterpart =>
    exact succeeds_bind_pure_iff.trans (succeeds_positive_iff knowledge counterpart)

theorem succeeds_literals_iff (predicates : List EntityId) :
    (knowledge.leniently.literals predicates).Succeeds ↔
      ∀ predicate ∈ predicates, knowledge.IsCompletePredicate predicate := by
  simp only [literals, succeeds_forEach_iff, succeeds_literal_iff]

theorem succeeds_call_iff (kind : TaskKind) (task : EntityId) :
    (knowledge.leniently.call kind task).Succeeds ↔ knowledge.IsCompleteTask kind task := by
  rw [call, succeeds_single_bind_iff, KnowledgeBase.IsCompleteTask]
  cases (knowledge.related task kind.specialization).head? with
  | none => exact succeeds_application_iff
  | some generic => exact succeeds_application_iff

theorem succeeds_calls_iff (kind : TaskKind) (entity : EntityId) (relation : Relation) :
    (knowledge.leniently.calls kind entity relation).Succeeds ↔
      ∀ task ∈ knowledge.related entity relation, knowledge.IsCompleteTask kind task := by
  simp only [calls, succeeds_forEach_iff, succeeds_call_iff]
  rfl

theorem succeeds_preconditions_iff (entity : EntityId) (relation : Relation) :
    (knowledge.leniently.preconditions entity relation).Succeeds ↔
      ∀ predicate ∈ knowledge.related entity relation,
        knowledge.IsCompletePrecondition predicate := by
  rw [preconditions_eq_map, succeeds_map_iff, succeeds_forEach_iff]
  refine forall₂_congr fun predicate _ => ?_
  refine (succeeds_bind_iff_and fun label => ?_).trans (and_congr_left' succeeds_label_iff)
  exact succeeds_bind_pure_iff.trans (succeeds_literal_iff knowledge predicate)

theorem succeeds_head_iff (kind : TaskKind) (task : EntityId) :
    (knowledge.leniently.head kind task).Succeeds ↔
      knowledge.IsLabelled task ∧ knowledge.ListsTargets task kind.parameters .parameters :=
  succeeds_application_iff

theorem succeeds_flow_iff (head : Call) (flow : EntityId) :
    (knowledge.leniently.flow head flow).Succeeds ↔ knowledge.IsCompleteFlow flow := by
  have hparts : (knowledge.leniently.flow head flow).Succeeds ↔
      (knowledge.leniently.preconditions flow .mfHasPrecondition).Succeeds ∧
        (knowledge.leniently.calls .method flow .hasPostconditionMe).Succeeds ∧
          (knowledge.leniently.calls .operator flow .hasPostconditionOp).Succeeds :=
    succeeds_bind_iff_and fun _ => succeeds_bind_iff_and fun _ => succeeds_bind_pure_iff
  rw [hparts, succeeds_preconditions_iff, succeeds_calls_iff, succeeds_calls_iff]
  exact ⟨fun h => ⟨h.1, h.2.1, h.2.2⟩, fun h => ⟨h.preconditions, h.methods, h.operators⟩⟩

theorem succeeds_method_iff (method : EntityId) :
    (knowledge.leniently.method method).Succeeds ↔ knowledge.IsCompleteMethod method := by
  have hflows (head : Call) :
      (forEach (knowledge.leniently.flow head) (knowledge.related method .hasFlow)).Succeeds ↔
        ∀ flow ∈ knowledge.related method .hasFlow, knowledge.IsCompleteFlow flow := by
    simp only [succeeds_forEach_iff, succeeds_flow_iff]
  have hparts : (knowledge.leniently.method method).Succeeds ↔
      (knowledge.leniently.head .method method).Succeeds ∧
        ∀ flow ∈ knowledge.related method .hasFlow, knowledge.IsCompleteFlow flow := by
    refine succeeds_bind_iff_and fun head => ?_
    by_cases hnone : knowledge.leniently.knowledge.related method .hasFlow = []
    -- A method without flows is only warned of.
    · simp only [if_pos hnone]
      exact (succeeds_bind_iff_and fun _ => hflows head).trans (and_iff_right ⟨(), rfl⟩)
    · simp only [if_neg hnone]
      exact hflows head
  rw [hparts, succeeds_head_iff]
  exact ⟨fun h => ⟨h.1.1, h.1.2, h.2⟩, fun h => ⟨⟨h.labelled, h.parameters⟩, h.flows⟩⟩

theorem succeeds_operator_iff (operator : EntityId) :
    (knowledge.leniently.operator operator).Succeeds ↔ knowledge.IsCompleteOperator operator := by
  have hparts : (knowledge.leniently.operator operator).Succeeds ↔
      (knowledge.leniently.head .operator operator).Succeeds ∧
        (knowledge.leniently.preconditions operator .opHasPrecondition).Succeeds ∧
          (knowledge.leniently.literals (knowledge.related operator .deletesPredicate)).Succeeds ∧
            (knowledge.leniently.literals (knowledge.related operator .addsPredicate)).Succeeds :=
    succeeds_bind_iff_and fun _ => succeeds_bind_iff_and fun _ => succeeds_bind_iff_and fun _ =>
      succeeds_bind_pure_iff
  rw [hparts, succeeds_head_iff, succeeds_preconditions_iff, succeeds_literals_iff,
    succeeds_literals_iff]
  exact ⟨fun h => ⟨h.1.1, h.1.2, h.2.1, h.2.2.1, h.2.2.2⟩,
    fun h => ⟨⟨h.labelled, h.parameters⟩, h.preconditions, h.deletes, h.adds⟩⟩

theorem succeeds_domain_iff (domain : EntityId) :
    (knowledge.leniently.domain domain).Succeeds ↔ knowledge.IsCompleteDomain domain := by
  have hparts : (knowledge.leniently.domain domain).Succeeds ↔
      (knowledge.leniently.label domain).Succeeds ∧
        (forEach knowledge.leniently.method (knowledge.related domain .hasMethod)).Succeeds ∧
          (forEach knowledge.leniently.operator
            (knowledge.related domain .hasOperator)).Succeeds :=
    succeeds_bind_iff_and fun _ => succeeds_bind_iff_and fun _ => succeeds_bind_pure_iff
  rw [hparts, succeeds_label_iff, succeeds_forEach_iff, succeeds_forEach_iff]
  simp only [succeeds_method_iff, succeeds_operator_iff]
  exact ⟨fun h => ⟨h.1, h.2.1, h.2.2⟩, fun h => ⟨h.labelled, h.methods, h.operators⟩⟩

/-- What needs a target goes on with all of them. -/
theorem succeeds_required_bind_iff {α : Type} {reading : Reading} {entity : EntityId}
    {relation : Relation} {next : List EntityId → Emission α} :
    (reading.required entity relation >>= next).Succeeds ↔
      reading.knowledge.related entity relation ≠ [] ∧
        (next (reading.knowledge.related entity relation)).Succeeds := by
  unfold required
  split
  · next hnone => exact iff_of_false nofun fun h => h.1 hnone
  · next targets hsome =>
    rw [pure_bind]
    exact (and_iff_right hsome).symm

theorem succeeds_problem_iff (problem : EntityId) :
    (knowledge.leniently.problem problem).Succeeds ↔ knowledge.IsCompleteProblem problem := by
  have hparts : (knowledge.leniently.problem problem).Succeeds ↔
      (knowledge.leniently.label problem).Succeeds ∧
        (∃ domain, (knowledge.related problem .hasDomain).head? = some domain ∧
          (knowledge.leniently.label domain).Succeeds) ∧
        knowledge.related problem .hasInitialState ≠ [] ∧
        knowledge.related problem .hasGoal ≠ [] ∧
        (forEach knowledge.leniently.initialState
          (knowledge.related problem .hasInitialState)).Succeeds ∧
        (forEach knowledge.leniently.goal (knowledge.related problem .hasGoal)).Succeeds := by
    refine succeeds_bind_iff_and fun name => ?_
    rw [succeeds_single_bind_iff]
    cases (knowledge.related problem .hasDomain).head? with
    | none => exact iff_of_false nofun nofun
    | some domain =>
      simp only [Option.some.injEq, exists_eq_left']
      refine succeeds_bind_iff_and fun domainName => ?_
      refine succeeds_required_bind_iff.trans (and_congr_right' ?_)
      refine succeeds_required_bind_iff.trans (and_congr_right' ?_)
      exact succeeds_bind_iff_and fun _ => succeeds_bind_pure_iff
  simp only [hparts, succeeds_label_iff, succeeds_forEach_iff, initialState, goal,
    succeeds_literals_iff, succeeds_calls_iff]
  constructor
  · rintro ⟨hlabel, hdomain, hstate, hgoal, hstates, hgoals⟩
    exact ⟨hlabel, hdomain, hstate, hgoal, hstates, hgoals⟩
  · intro h
    exact ⟨h.labelled, h.domain, h.hasInitialState, h.hasGoal, h.initialStates, h.goals⟩

end Reading

/-- A predicate, a call, a domain or a problem is rendered leniently exactly if everything in it is
stated that has to be. -/
theorem renders_iff_complete (knowledge : KnowledgeBase) :
    (∀ domain,
      (knowledge.leniently.renderDomain domain).Succeeds ↔ knowledge.IsCompleteDomain domain) ∧
    (∀ problem, (knowledge.leniently.renderProblem problem).Succeeds ↔
      knowledge.IsCompleteProblem problem) ∧
    (∀ predicate, (knowledge.leniently.renderLiteral predicate).Succeeds ↔
      knowledge.IsCompletePredicate predicate) ∧
    ∀ kind task, (knowledge.leniently.renderCall kind task).Succeeds ↔
      knowledge.IsCompleteTask kind task := by
  refine ⟨fun domain => ?_, fun problem => ?_, fun predicate => ?_, fun kind task => ?_⟩
  · exact Emission.succeeds_map_iff.trans (Reading.succeeds_domain_iff knowledge domain)
  · exact Emission.succeeds_map_iff.trans (Reading.succeeds_problem_iff knowledge problem)
  · exact Emission.succeeds_map_iff.trans (Reading.succeeds_literal_iff knowledge predicate)
  · exact Emission.succeeds_map_iff.trans (Reading.succeeds_call_iff knowledge kind task)

end TaskNet
