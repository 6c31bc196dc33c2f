import TaskNet.Generation

/-!
# Readings without names

The names of entities stand in errors and warnings, and nowhere in what is read. So it makes no
difference whether they are left out of what a reading emits, or whether the reading is of a
knowledge base in which no entity has a name to speak of.
-/

namespace TaskNet

/-! ### Leaving names out -/

/-- An error without the name of the entity that it is about. -/
def EmitError.nameless : EmitError → EmitError
  | missingLabel _ => missingLabel ""
  | malformedComment _ fault => malformedComment "" fault
  | ambiguous _ relation count => ambiguous "" relation count
  | missingRelation _ relation => missingRelation "" relation

/-- A warning without the name of the entity that it is about. -/
def Warning.nameless : Warning → Warning
  | severalTargets _ relation count => severalTargets "" relation count
  | noFlows _ => noFlows ""

/-- The knowledge base with the same empty name for all entities. -/
def KnowledgeBase.nameless (knowledge : KnowledgeBase) : KnowledgeBase :=
  { knowledge with iri := fun _ => some "" }

/-- The reading of a knowledge base without its names. -/
def Reading.nameless (reading : Reading) : Reading :=
  { reading with knowledge := reading.knowledge.nameless }

namespace Emission

variable {α β : Type}

/-- What is emitted, with no names in its error and its warnings. -/
def nameless (emission : Emission α) : Emission α where
  warnings := emission.warnings.map Warning.nameless
  outcome := emission.outcome.mapError EmitError.nameless

theorem nameless_pure (value : α) : (pure value : Emission α).nameless = pure value := rfl

theorem nameless_bind (first : Emission α) (next : α → Emission β) :
    (first >>= next).nameless = first.nameless >>= fun value => (next value).nameless := by
  obtain ⟨warnings, error | value⟩ := first
  · rfl
  · exact congrArg (fun all => (⟨all, _⟩ : Emission β)) List.map_append

theorem nameless_map (f : α → β) (emission : Emission α) :
    (f <$> emission).nameless = f <$> emission.nameless := by
  rw [map_eq_pure_bind, map_eq_pure_bind, nameless_bind]
  rfl

theorem nameless_forEach (read : α → Emission β) (entries : List α) :
    (forEach read entries).nameless = forEach (fun entry => (read entry).nameless) entries := by
  induction entries with
  | nil => rfl
  | cons entry rest ih => simp only [forEach, nameless_bind, ih, nameless_pure]

/-- Whatever names are left out, a value stays as it is. -/
theorem outcome_nameless_eq_ok_iff {emission : Emission α} {value : α} :
    emission.nameless.outcome = .ok value ↔ emission.outcome = .ok value := by
  unfold nameless
  cases emission.outcome with
  | error error => exact iff_of_false nofun nofun
  | ok other => exact Iff.rfl

/-- Two emissions of the same value, or of errors that differ in a name at most. -/
structure SameButNames (emission emission' : Emission α) : Prop where
  nameless : emission.nameless = emission'.nameless
  value : ∀ value, emission.outcome = .ok value ↔ emission'.outcome = .ok value

theorem sameButNames_of_nameless {emission emission' : Emission α}
    (h : emission.nameless = emission'.nameless) : emission.SameButNames emission' := by
  refine ⟨h, fun value => ?_⟩
  rw [← outcome_nameless_eq_ok_iff, h, outcome_nameless_eq_ok_iff]

end Emission

/-! ### What is read without names -/

namespace Reading

open Emission (nameless_pure nameless_bind nameless_map nameless_forEach)

variable (reading : Reading)

theorem related_nameless :
    reading.nameless.knowledge.related = reading.knowledge.related := rfl

theorem nameless_label (entity : EntityId) :
    (reading.label entity).nameless = reading.nameless.label entity := by
  have hlabel : reading.nameless.knowledge.label entity = reading.knowledge.label entity := rfl
  unfold label
  rw [hlabel]
  cases reading.knowledge.label entity with
  | none => rfl
  | some label => rfl

theorem nameless_fromComment {α : Type} (entity : EntityId)
    (read : String → Except CommentFault α) :
    (reading.fromComment entity read).nameless = reading.nameless.fromComment entity read := by
  have hblame (result : Except CommentFault α) :
      (reading.blame entity result).nameless = reading.nameless.blame entity result := by
    cases result with
    | error fault => rfl
    | ok value => rfl
  exact hblame _

theorem nameless_single (entity : EntityId) (relation : Relation) :
    (reading.single entity relation).nameless = reading.nameless.single entity relation := by
  have hstrict : reading.nameless.strict = reading.strict := rfl
  unfold single
  rw [related_nameless, hstrict]
  by_cases hseveral : 1 < (reading.knowledge.related entity relation).length
  · cases reading.strict with
    | true =>
      simp only [if_pos hseveral, reduceIte]
      rfl
    | false =>
      simp only [if_pos hseveral, Bool.false_eq_true, reduceIte]
      rfl
  · simp only [if_neg hseveral]
    rfl

theorem nameless_listed (entity : EntityId) (kind : ListKind) :
    (reading.listed entity kind).nameless = reading.nameless.listed entity kind := by
  simp only [listed, nameless_bind, nameless_fromComment, nameless_pure]

theorem nameless_arguments (entity : EntityId) (relation : Relation) (kind : ListKind) :
    (reading.arguments entity relation kind).nameless =
      reading.nameless.arguments entity relation kind := by
  unfold arguments
  rw [related_nameless]
  split
  · rfl
  · exact reading.nameless_listed entity kind

theorem nameless_positive (predicate : EntityId) :
    (reading.positive predicate).nameless = reading.nameless.positive predicate := by
  unfold positive
  rw [nameless_bind, nameless_single]
  congr 1
  funext generic
  cases generic with
  | none => simp only [nameless_bind, nameless_label, nameless_arguments, nameless_pure]
  | some generic =>
    simp only [nameless_bind, nameless_label, nameless_fromComment]
    congr 1
    funext name
    congr 1
    funext mode
    cases mode with
    | objects => simp only [nameless_bind, nameless_arguments, nameless_pure]
    | parameters => simp only [nameless_bind, nameless_arguments, nameless_pure]
    | mixed => simp only [nameless_bind, nameless_listed, nameless_pure]

theorem nameless_literal (predicate : EntityId) :
    (reading.literal predicate).nameless = reading.nameless.literal predicate := by
  unfold literal
  rw [nameless_bind, nameless_single]
  congr 1
  funext counterpart
  cases counterpart with
  | none => exact reading.nameless_positive predicate
  | some counterpart => simp only [nameless_bind, nameless_positive, nameless_pure]

theorem nameless_literals (predicates : List EntityId) :
    (reading.literals predicates).nameless = reading.nameless.literals predicates := by
  simp only [literals, nameless_forEach, nameless_literal]

theorem nameless_call (kind : TaskKind) (task : EntityId) :
    (reading.call kind task).nameless = reading.nameless.call kind task := by
  unfold call
  rw [nameless_bind, nameless_single]
  congr 1
  funext generic
  cases generic with
  | none => simp only [nameless_bind, nameless_label, nameless_arguments, nameless_pure]
  | some generic => simp only [nameless_bind, nameless_label, nameless_arguments, nameless_pure]

theorem nameless_calls (kind : TaskKind) (entity : EntityId) (relation : Relation) :
    (reading.calls kind entity relation).nameless =
      reading.nameless.calls kind entity relation := by
  simp only [calls, nameless_forEach, nameless_call]
  rfl

theorem nameless_preconditions (entity : EntityId) (relation : Relation) :
    (reading.preconditions entity relation).nameless =
      reading.nameless.preconditions entity relation := by
  have hprecondition (predicate : EntityId) :
      (reading.precondition predicate).nameless = reading.nameless.precondition predicate := by
    simp only [precondition, nameless_bind, nameless_label, nameless_literal, nameless_pure]
  simp only [preconditions_eq_map, nameless_map, nameless_forEach, hprecondition]
  rfl

theorem nameless_head (kind : TaskKind) (task : EntityId) :
    (reading.head kind task).nameless = reading.nameless.head kind task := by
  simp only [head, nameless_bind, nameless_label, nameless_arguments, nameless_pure]

theorem nameless_flow (head : Call) (flow : EntityId) :
    (reading.flow head flow).nameless = reading.nameless.flow head flow := by
  simp only [Reading.flow, nameless_bind, nameless_preconditions, nameless_calls, nameless_pure]

theorem nameless_method (method : EntityId) :
    (reading.method method).nameless = reading.nameless.method method := by
  unfold Reading.method
  rw [nameless_bind, nameless_head, related_nameless]
  congr 1
  funext head
  by_cases hflows : reading.knowledge.related method .hasFlow = []
  · simp only [if_pos hflows, nameless_bind, nameless_forEach, nameless_flow]
    rfl
  · simp only [if_neg hflows, nameless_forEach, nameless_flow]

theorem nameless_operator (operator : EntityId) :
    (reading.operator operator).nameless = reading.nameless.operator operator := by
  simp only [Reading.operator, nameless_bind, nameless_head, nameless_preconditions,
    nameless_literals, nameless_pure]
  rfl

/-- Domains are read without names as they are read with them. -/
theorem nameless_domain (domain : EntityId) :
    (reading.domain domain).nameless = reading.nameless.domain domain := by
  simp only [Reading.domain, nameless_bind, nameless_label, nameless_forEach, nameless_method,
    nameless_operator, nameless_pure]
  rfl

theorem nameless_required (entity : EntityId) (relation : Relation) :
    (reading.required entity relation).nameless = reading.nameless.required entity relation := by
  unfold required
  rw [related_nameless]
  cases reading.knowledge.related entity relation with
  | nil => rfl
  | cons target targets => rfl

theorem nameless_initialState (state : EntityId) :
    (reading.initialState state).nameless = reading.nameless.initialState state :=
  reading.nameless_literals _

theorem nameless_goal (goal : EntityId) :
    (reading.goal goal).nameless = reading.nameless.goal goal :=
  reading.nameless_calls .method goal .consistsOfMethod

/-- Problems are read without names as they are read with them. -/
theorem nameless_problem (problem : EntityId) :
    (reading.problem problem).nameless = reading.nameless.problem problem := by
  unfold Reading.problem
  simp only [nameless_bind, nameless_label, nameless_single]
  congr 1
  funext name
  congr 1
  funext domain
  cases domain with
  | none => rfl
  | some domain =>
    simp only [nameless_bind, nameless_label, nameless_required, nameless_forEach,
      nameless_initialState, nameless_goal, nameless_pure]

end Reading

end TaskNet
