import TaskNet.Proofs.CommentLists
import TaskNet.Proofs.Freezing
import TaskNet.Proofs.Replay
import TaskNet.Reading.Text

/-!
# Errors are true

An error names an entity and says something about it: that it lacks a label, that its comment lacks
a list or a mode, that a relation has several targets or none. Whatever is rendered from the graph
of a log, and however deep in the traversal the failure happened, the error that comes out says what
is so of an entity that has the name.
-/

namespace TaskNet

/-! ### How an emission fails -/

namespace Emission

variable {α β : Type} {P : EmitError → Prop}

/-- Every error that an emission may fail with satisfies the condition. -/
def FailsOnly (emission : Emission α) (P : EmitError → Prop) : Prop :=
  ∀ error, emission.outcome = .error error → P error

theorem failsOnly_pure (value : α) : FailsOnly (pure value) P := nofun

theorem failsOnly_fail {error : EmitError} (h : P error) :
    FailsOnly (fail error : Emission α) P := by
  intro other hother
  cases hother
  exact h

/-- What follows may rely on the value that was read before. -/
theorem FailsOnly.bind {emission : Emission α} {next : α → Emission β}
    (hfirst : emission.FailsOnly P)
    (hnext : ∀ value, emission.outcome = .ok value → (next value).FailsOnly P) :
    (emission >>= next).FailsOnly P := by
  obtain ⟨warnings, error | value⟩ := emission
  · intro other hother
    cases hother
    exact hfirst error rfl
  · exact hnext value rfl

theorem FailsOnly.map {emission : Emission α} (f : α → β) (h : emission.FailsOnly P) :
    (f <$> emission).FailsOnly P := by
  rw [map_eq_pure_bind]
  exact h.bind fun value _ => failsOnly_pure (f value)

theorem failsOnly_forEach {read : β → Emission α} (h : ∀ entry, (read entry).FailsOnly P)
    (entries : List β) : (forEach read entries).FailsOnly P := by
  induction entries with
  | nil => exact failsOnly_pure []
  | cons entry rest ih =>
    exact (h entry).bind fun value _ => ih.bind fun values _ => failsOnly_pure (value :: values)

end Emission

/-! ### What errors say -/

/-- A renderer with what it is called on. -/
inductive Rendering where
  | literal (predicate : EntityId)
  | literals (predicates : List EntityId)
  | call (kind : TaskKind) (task : EntityId)
  | preconditions (entity : EntityId) (relation : Relation)
  | method (method : EntityId)
  | operator (operator : EntityId)
  | domain (domain : EntityId)
  | problem (problem : EntityId)
  | initialState (state : EntityId)
  | goal (goal : EntityId)
deriving DecidableEq, Repr

/-- The texts that a renderer emits: one for every clause of a method, and otherwise a single
one. -/
def Rendering.run (reading : Reading) : Rendering → Emission (List String)
  | .literal predicate => List.singleton <$> reading.renderLiteral predicate
  | .literals predicates => List.singleton <$> reading.renderLiterals predicates
  | .call kind task => List.singleton <$> reading.renderCall kind task
  | .preconditions entity relation => List.singleton <$> reading.renderPreconditions entity relation
  | .method entity => reading.renderMethod entity
  | .operator entity => List.singleton <$> reading.renderOperator entity
  | .domain entity => List.singleton <$> reading.renderDomain entity
  | .problem entity => List.singleton <$> reading.renderProblem entity
  | .initialState entity => List.singleton <$> reading.renderInitialState entity
  | .goal entity => List.singleton <$> reading.renderGoal entity

namespace KnowledgeGraph

/-- A reading of a graph. -/
def reading (graph : KnowledgeGraph) (strict : Bool) : Reading where
  knowledge := graph.base
  strict

/-- A name stands for an entity: the entity is shown by it, and is found by it as well unless some
entities are anonymous, whose names are made up. -/
structure Names (graph : KnowledgeGraph) (name : String) (entity : EntityId) : Prop where
  shown : graph.base.iri entity = some name
  found : (∀ profile ∈ graph.profiles, profile.identifier.isAnonymous = false) →
    graph.find? (.named name) = some entity

end KnowledgeGraph

/-- What a fault says of the comment of an entity. -/
def CommentFault.IsTrueOf (graph : KnowledgeGraph) (entity : EntityId) : CommentFault → Prop
  | absent => graph.base.comment entity = none
  | noList kind => ∃ comment, graph.base.comment entity = some comment ∧
      ¬kind.opening <:+: comment.toList
  | notClosed kind => ∃ comment front back, graph.base.comment entity = some comment ∧
      kind.FirstOpening comment front back ∧ ']' ∉ back
  | unknownMode mode => graph.base.related entity .prSpecializationOf ≠ [] ∧
      ∃ comment, graph.base.comment entity = some comment ∧ DeclaresMode comment mode ∧
        mode ∉ ["Parameters", "Objects", "Mixed"]

/-- The relations that take one target. -/
def Relation.takingOne : List Relation :=
  [negativeOf, prSpecializationOf, meSpecializationOf, opSpecializationOf, hasDomain]

/-- What an error of a renderer says. Only problems miss relations, and only their own. -/
def EmitError.IsTrueOf (graph : KnowledgeGraph) (strict : Bool) (rendering : Rendering) :
    EmitError → Prop
  | missingLabel name => ∃ entity, graph.base.describe entity = name ∧
      graph.base.label entity = none
  | malformedComment name fault => ∃ entity, graph.Names name entity ∧ fault.IsTrueOf graph entity
  | ambiguous name relation count => strict = true ∧ relation ∈ Relation.takingOne ∧ 2 ≤ count ∧
      ∃ entity, graph.Names name entity ∧ (graph.base.related entity relation).length = count
  | missingRelation name relation =>
      relation ∈ [Relation.hasDomain, .hasInitialState, .hasGoal] ∧
      ∃ problem, rendering = .problem problem ∧ graph.Names name problem ∧
        graph.base.related problem relation = []

/-! ### Entities that have names -/

namespace KnowledgeGraph

variable {graph : KnowledgeGraph} {entity : EntityId}

/-- Only entities of the graph are related to anything. -/
theorem has_of_related {relation : Relation} (h : graph.base.related entity relation ≠ []) :
    graph.has entity := by
  by_contra hhas
  rw [related_base, related, if_neg hhas] at h
  exact h rfl

/-- Only entities of the graph have labels. -/
theorem has_of_label {label : String} (h : graph.base.label entity = some label) :
    graph.has entity := by
  obtain ⟨profile, hprofile, -⟩ := Option.bind_eq_some_iff.1 h
  obtain ⟨hslot, -⟩ := Array.getElem?_eq_some_iff.1 hprofile
  exact decide_eq_true hslot

/-- Every entity of the graph has the name that messages refer to it by. -/
def IsNamed (graph : KnowledgeGraph) : Prop :=
  ∀ entity, graph.has entity → graph.Names (graph.base.describe entity) entity

end KnowledgeGraph

/-- Whatever is stated, entities are shown by their identifiers, and no two have the same. -/
theorem Draft.WellFormed.isNamed_freeze {draft : Draft} (h : draft.WellFormed) :
    draft.freeze.IsNamed := by
  intro entity hhas
  have hslot : entity.slot < draft.profiles.size := by
    rw [has_freeze] at hhas
    exact of_decide_eq_true hhas
  have hprofile := Array.getElem?_eq_getElem hslot
  generalize draft.profiles[entity.slot] = profile at hprofile
  obtain ⟨hmem, hid⟩ := h.getElem?_slot.1 hprofile
  have hname : ∃ name, draft.freeze.base.iri entity = some name ∧
      (profile.identifier.isAnonymous = false → profile.identifier = .named name) := by
    rw [KnowledgeGraph.iri_base, KnowledgeGraph.name?, KnowledgeGraph.profile?, profiles_freeze,
      hprofile, Option.map_some]
    cases profile.identifier with
    | named text => exact ⟨text, rfl, fun _ => rfl⟩
    | anonymous number => exact ⟨_, rfl, nofun⟩
  obtain ⟨name, hshown, hidentifier⟩ := hname
  rw [KnowledgeBase.describe, hshown, Option.getD_some]
  refine ⟨hshown, fun hnamed => ?_⟩
  rw [profiles_freeze] at hnamed
  rw [h.find?_freeze, h.find?]
  exact ⟨profile, hmem, hidentifier (hnamed profile hmem), hid⟩

/-! ### Every reader fails with true errors -/

namespace Reading

open Emission

variable {graph : KnowledgeGraph} (hgraph : graph.IsNamed) {strict : Bool} {rendering : Rendering}

theorem failsOnly_label (entity : EntityId) :
    ((graph.reading strict).label entity).FailsOnly
      (EmitError.IsTrueOf graph strict rendering) := by
  unfold label
  split
  · exact failsOnly_pure _
  · next hnone => exact failsOnly_fail ⟨entity, rfl, hnone⟩

include hgraph

/-- A fault is put down to the entity whose comment has it. -/
theorem failsOnly_fromComment {α : Type} {entity : EntityId}
    {read : String → Except CommentFault α} (hhas : graph.has entity)
    (hread : ∀ comment fault, graph.base.comment entity = some comment →
      read comment = .error fault → fault.IsTrueOf graph entity) :
    ((graph.reading strict).fromComment entity read).FailsOnly
      (EmitError.IsTrueOf graph strict rendering) := by
  unfold fromComment
  cases hcomment : (graph.reading strict).knowledge.comment entity with
  | none => exact failsOnly_fail ⟨entity, hgraph entity hhas, hcomment⟩
  | some comment =>
    cases hresult : read comment with
    | error fault =>
      simp only [hresult]
      exact failsOnly_fail ⟨entity, hgraph entity hhas, hread comment fault hcomment hresult⟩
    | ok value =>
      simp only [hresult]
      exact failsOnly_pure value

theorem failsOnly_listed {entity : EntityId} (hhas : graph.has entity) (kind : ListKind) :
    ((graph.reading strict).listed entity kind).FailsOnly
      (EmitError.IsTrueOf graph strict rendering) := by
  refine (failsOnly_fromComment hgraph hhas fun comment fault hcomment hfault => ?_).bind
    fun _ _ => failsOnly_pure _
  obtain ⟨hopened, herror⟩ | ⟨front, back, hopening, hclosed, herror⟩ | ⟨-, -, tokens, -, -, hok⟩ :=
    ArgumentList.extract_cases kind comment
  · rw [hfault] at herror
    obtain rfl := Except.error.inj herror
    exact ⟨comment, hcomment, hopened⟩
  · rw [hfault] at herror
    obtain rfl := Except.error.inj herror
    exact ⟨comment, front, back, hcomment, hopening, hclosed⟩
  · rw [hfault] at hok
    cases hok

/-- A list is only asked for if something is related to the entity, which then has a name. -/
theorem failsOnly_arguments (entity : EntityId) (relation : Relation) (kind : ListKind) :
    ((graph.reading strict).arguments entity relation kind).FailsOnly
      (EmitError.IsTrueOf graph strict rendering) := by
  unfold arguments
  split
  · exact failsOnly_pure []
  · next hrelated => exact failsOnly_listed hgraph (KnowledgeGraph.has_of_related hrelated) kind

/-- A label and the arguments of a relation are all that most applications are made of. -/
theorem failsOnly_application {α : Type} (named entity : EntityId) (relation : Relation)
    (kind : ListKind) (make : String → List String → α) :
    ((graph.reading strict).label named >>= fun name =>
      (graph.reading strict).arguments entity relation kind >>= fun arguments =>
        pure (make name arguments)).FailsOnly (EmitError.IsTrueOf graph strict rendering) :=
  (failsOnly_label named).bind fun name _ =>
    (failsOnly_arguments hgraph entity relation kind).bind fun arguments _ =>
      failsOnly_pure (make name arguments)

/-- The mode is only asked of specializations. -/
theorem failsOnly_mode {entity : EntityId}
    (hrelated : graph.base.related entity .prSpecializationOf ≠ []) :
    ((graph.reading strict).fromComment entity ArgumentList.mode).FailsOnly
      (EmitError.IsTrueOf graph strict rendering) := by
  refine failsOnly_fromComment hgraph (KnowledgeGraph.has_of_related hrelated)
    fun comment fault hcomment hfault => ?_
  obtain ⟨kind, -, hok⟩ | ⟨mode, hdeclared, hunknown, herror⟩ := ArgumentList.mode_cases comment
  · rw [hfault] at hok
    cases hok
  · rw [hfault] at herror
    obtain rfl := Except.error.inj herror
    exact ⟨hrelated, comment, hcomment, hdeclared, hunknown⟩

/-- Several targets are an error of strict readings, which count them. -/
theorem failsOnly_single (entity : EntityId) {relation : Relation}
    (hrelation : relation ∈ Relation.takingOne) :
    ((graph.reading strict).single entity relation).FailsOnly
      (EmitError.IsTrueOf graph strict rendering) := by
  intro error herror
  rw [outcome_single] at herror
  split at herror
  · next hboth =>
    obtain ⟨hseveral, hstrict⟩ := hboth
    obtain rfl := Except.error.inj herror
    have hrelated : graph.base.related entity relation ≠ [] :=
      List.ne_nil_of_length_pos (Nat.lt_trans Nat.zero_lt_one hseveral)
    have hnames := hgraph entity (KnowledgeGraph.has_of_related hrelated)
    exact ⟨hstrict, hrelation, hseveral, entity, hnames, rfl⟩
  · cases herror

theorem failsOnly_positive (predicate : EntityId) :
    ((graph.reading strict).positive predicate).FailsOnly
      (EmitError.IsTrueOf graph strict rendering) := by
  refine (failsOnly_single hgraph predicate (by decide)).bind fun generic hgeneric => ?_
  cases generic with
  | none => exact failsOnly_application hgraph predicate predicate _ _ _
  | some generic =>
    refine (failsOnly_label generic).bind fun _ _ => ?_
    have hrelated : graph.base.related predicate .prSpecializationOf ≠ [] := by
      intro hnone
      have hhead := eq_head?_of_single hgeneric
      rw [KnowledgeGraph.reading, hnone] at hhead
      cases hhead
    refine (failsOnly_mode hgraph hrelated).bind fun mode _ => ?_
    cases mode with
    | objects => exact (failsOnly_arguments hgraph predicate _ _).bind fun _ _ => failsOnly_pure _
    | parameters =>
      exact (failsOnly_arguments hgraph predicate _ _).bind fun _ _ => failsOnly_pure _
    | mixed =>
      exact (failsOnly_listed hgraph (KnowledgeGraph.has_of_related hrelated) _).bind
        fun _ _ => failsOnly_pure _

/-- A negation fails as its counterpart does. -/
theorem failsOnly_literal (predicate : EntityId) :
    ((graph.reading strict).literal predicate).FailsOnly
      (EmitError.IsTrueOf graph strict rendering) := by
  refine (failsOnly_single hgraph predicate (by decide)).bind fun counterpart _ => ?_
  cases counterpart with
  | none => exact failsOnly_positive hgraph predicate
  | some counterpart =>
    exact (failsOnly_positive hgraph counterpart).bind fun _ _ => failsOnly_pure _

theorem failsOnly_literals (predicates : List EntityId) :
    ((graph.reading strict).literals predicates).FailsOnly
      (EmitError.IsTrueOf graph strict rendering) :=
  failsOnly_forEach (failsOnly_literal hgraph) predicates

theorem failsOnly_call (kind : TaskKind) (task : EntityId) :
    ((graph.reading strict).call kind task).FailsOnly
      (EmitError.IsTrueOf graph strict rendering) := by
  have htakes : kind.specialization ∈ Relation.takingOne := by
    cases kind with
    | method => decide
    | operator => decide
  refine (failsOnly_single hgraph task htakes).bind fun generic _ => ?_
  cases generic with
  | none => exact failsOnly_application hgraph task task _ _ _
  | some generic => exact failsOnly_application hgraph generic task _ _ _

theorem failsOnly_calls (kind : TaskKind) (entity : EntityId) (relation : Relation) :
    ((graph.reading strict).calls kind entity relation).FailsOnly
      (EmitError.IsTrueOf graph strict rendering) :=
  failsOnly_forEach (failsOnly_call hgraph kind) _

theorem failsOnly_preconditions (entity : EntityId) (relation : Relation) :
    ((graph.reading strict).preconditions entity relation).FailsOnly
      (EmitError.IsTrueOf graph strict rendering) := by
  refine (failsOnly_forEach (fun predicate => ?_) _).bind fun _ _ => failsOnly_pure _
  exact (failsOnly_label predicate).bind fun _ _ =>
    (failsOnly_literal hgraph predicate).bind fun _ _ => failsOnly_pure _

theorem failsOnly_head (kind : TaskKind) (task : EntityId) :
    ((graph.reading strict).head kind task).FailsOnly
      (EmitError.IsTrueOf graph strict rendering) :=
  failsOnly_application hgraph task task _ _ _

theorem failsOnly_flow (head : Call) (flow : EntityId) :
    ((graph.reading strict).flow head flow).FailsOnly
      (EmitError.IsTrueOf graph strict rendering) :=
  (failsOnly_preconditions hgraph flow _).bind fun _ _ =>
    (failsOnly_calls hgraph .method flow _).bind fun _ _ =>
      (failsOnly_calls hgraph .operator flow _).bind fun _ _ => failsOnly_pure _

theorem failsOnly_method (method : EntityId) :
    ((graph.reading strict).method method).FailsOnly
      (EmitError.IsTrueOf graph strict rendering) := by
  refine (failsOnly_head hgraph .method method).bind fun head _ => ?_
  have hflows : (forEach ((graph.reading strict).flow head)
      (graph.base.related method .hasFlow)).FailsOnly (EmitError.IsTrueOf graph strict rendering) :=
    failsOnly_forEach (failsOnly_flow hgraph head) _
  by_cases hnone : (graph.reading strict).knowledge.related method .hasFlow = []
  · simp only [if_pos hnone]
    exact FailsOnly.bind nofun fun _ _ => hflows
  · simp only [if_neg hnone]
    exact hflows

theorem failsOnly_operator (operator : EntityId) :
    ((graph.reading strict).operator operator).FailsOnly
      (EmitError.IsTrueOf graph strict rendering) :=
  (failsOnly_head hgraph .operator operator).bind fun _ _ =>
    (failsOnly_preconditions hgraph operator _).bind fun _ _ =>
      (failsOnly_literals hgraph _).bind fun _ _ =>
        (failsOnly_literals hgraph _).bind fun _ _ => failsOnly_pure _

theorem failsOnly_domain (domain : EntityId) :
    ((graph.reading strict).domain domain).FailsOnly
      (EmitError.IsTrueOf graph strict rendering) :=
  (failsOnly_label domain).bind fun _ _ =>
    (failsOnly_forEach (failsOnly_method hgraph) _).bind fun _ _ =>
      (failsOnly_forEach (failsOnly_operator hgraph) _).bind fun _ _ => failsOnly_pure _

theorem failsOnly_required {problem : EntityId} (hhas : graph.has problem) {relation : Relation}
    (hrelation : relation ∈ [Relation.hasDomain, .hasInitialState, .hasGoal]) :
    ((graph.reading strict).required problem relation).FailsOnly
      (EmitError.IsTrueOf graph strict (.problem problem)) := by
  unfold required
  split
  · next hnone =>
    exact failsOnly_fail ⟨hrelation, problem, rfl, hgraph problem hhas, hnone⟩
  · exact failsOnly_pure _

/-- Problems have labels when their relations are looked at, and so they have names. -/
theorem failsOnly_problem (problem : EntityId) :
    ((graph.reading strict).problem problem).FailsOnly
      (EmitError.IsTrueOf graph strict (.problem problem)) := by
  refine (failsOnly_label problem).bind fun name hname =>
    (failsOnly_single hgraph problem (by decide)).bind fun domain hdomain => ?_
  have hhas := KnowledgeGraph.has_of_label (outcome_label_eq_ok_iff.1 hname)
  cases domain with
  | none =>
    have hnone := List.head?_eq_none_iff.1 (eq_head?_of_single hdomain).symm
    exact failsOnly_fail ⟨by decide, problem, rfl, hgraph problem hhas, hnone⟩
  | some domain =>
    exact (failsOnly_label domain).bind fun _ _ =>
      (failsOnly_required hgraph hhas (by decide)).bind fun _ _ =>
        (failsOnly_required hgraph hhas (by decide)).bind fun _ _ =>
          (failsOnly_forEach (fun _ => failsOnly_literals hgraph _) _).bind fun _ _ =>
            (failsOnly_forEach (fun _ => failsOnly_calls hgraph _ _ _) _).bind fun _ _ =>
              failsOnly_pure _

end Reading

/-- Whatever a renderer is called on, the error that it fails with is true of the graph. -/
theorem Rendering.error_isTrueOf (log : List Draft.Edit) (strict : Bool) (rendering : Rendering)
    (error : EmitError)
    (h : (rendering.run ((Draft.replay log).freeze.reading strict)).outcome = .error error) :
    error.IsTrueOf (Draft.replay log).freeze strict rendering := by
  have hgraph := (Draft.represents_replay log).wellFormed.isNamed_freeze
  revert error
  change (rendering.run _).FailsOnly _
  cases rendering with
  | literal predicate => exact ((Reading.failsOnly_literal hgraph predicate).map _).map _
  | literals predicates => exact ((Reading.failsOnly_literals hgraph predicates).map _).map _
  | call kind task => exact ((Reading.failsOnly_call hgraph kind task).map _).map _
  | preconditions entity relation =>
    exact ((Reading.failsOnly_preconditions hgraph entity relation).map _).map _
  | method method => exact (Reading.failsOnly_method hgraph method).map _
  | operator operator => exact ((Reading.failsOnly_operator hgraph operator).map _).map _
  | domain domain => exact ((Reading.failsOnly_domain hgraph domain).map _).map _
  | problem problem => exact ((Reading.failsOnly_problem hgraph problem).map _).map _
  | initialState state => exact ((Reading.failsOnly_literals hgraph _).map _).map _
  | goal goal => exact ((Reading.failsOnly_calls hgraph _ goal _).map _).map _

/-- An errand that starts away from a place: what it is away from specializes `at`, and the comment
of that has no mode. -/
def errandLog : List Draft.Edit :=
  [.mentionLabeled (.named "urn:errand") "errand", .mentionLabeled (.named "urn:haulage") "haulage",
    .mention (.named "urn:start"), .mention (.named "urn:away"), .mention (.named "urn:near"),
    .mentionLabeled (.named "urn:at") "at", .setComment (.ofSlot 4) "Cargo: Objects: [truck]",
    .relate (.ofSlot 0) .hasDomain (.ofSlot 1), .relate (.ofSlot 0) .hasInitialState (.ofSlot 2),
    .relate (.ofSlot 0) .hasGoal (.ofSlot 2), .relate (.ofSlot 2) .hasPredicate (.ofSlot 3),
    .relate (.ofSlot 3) .negativeOf (.ofSlot 4),
    .relate (.ofSlot 4) .prSpecializationOf (.ofSlot 5)]

/-- The error is about the comment of the counterpart, not about the problem or the negation. -/
theorem errandLog_error :
    let graph := (Draft.replay errandLog).freeze
    let error := EmitError.malformedComment "urn:near" (.unknownMode "Cargo")
    ((Rendering.problem (.ofSlot 0)).run (graph.reading true)).outcome = .error error ∧
      error.IsTrueOf graph true (.problem (.ofSlot 0)) := by
  have herror : ((Rendering.problem (.ofSlot 0)).run
      ((Draft.replay errandLog).freeze.reading true)).outcome =
        .error (.malformedComment "urn:near" (.unknownMode "Cargo")) := by
    decide +kernel
  exact ⟨herror, Rendering.error_isTrueOf errandLog true _ _ herror⟩

end TaskNet
