import TaskNet.Knowledge.Graph
import TaskNet.Proofs.SameReading

/-!
# What a definition reads

A definition is rendered from few of the answers that a knowledge base can give: from some labels,
from the targets of some relations, from the comments of entities whose lists are asked for, and of
a specialization from the label of the generic entity only. Two knowledge bases that agree on these
answers render the definition alike, with the same warnings and the same error, whatever else they
say.
-/

namespace TaskNet

/-! ### Agreement on what is looked up -/

/-- The relation that has to have targets if a specialized predicate in this mode is to have
arguments. -/
def ListKind.gate? : ListKind → Option Relation
  | parameters => some .prHasParameter
  | objects => some .prHasObject
  | mixed => none

namespace KnowledgeBase

variable (knowledge knowledge' : KnowledgeBase)

/-- Of a relation that takes one target, the same number of targets and the same first one. -/
structure SameSingle (entity : EntityId) (relation : Relation) : Prop where
  count : (knowledge.related entity relation).length = (knowledge'.related entity relation).length
  first : (knowledge.related entity relation).head? = (knowledge'.related entity relation).head?

/-- Of a relation that gates a list, whether there are targets, and if so the same comment. -/
structure SameArguments (entity : EntityId) (relation : Relation) : Prop where
  gate : knowledge.related entity relation = [] ↔ knowledge'.related entity relation = []
  comment : knowledge.related entity relation ≠ [] →
    knowledge.comment entity = knowledge'.comment entity

/-- The same targets of a relation, and for each of them this agreement. -/
structure SameTargets (Agree : EntityId → Prop) (entity : EntityId) (relation : Relation) :
    Prop where
  related : knowledge.related entity relation = knowledge'.related entity relation
  each : ∀ target ∈ knowledge.related entity relation, Agree target

/-- Agreement on a name with a gated argument list. -/
structure SameApplication (entity : EntityId) (relation : Relation) : Prop where
  label : knowledge.label entity = knowledge'.label entity
  arguments : SameArguments knowledge knowledge' entity relation

/-- Agreement on a predicate, its own negation apart. The gate of a specialized one matters only in
the mode that its comment declares. -/
structure SamePositive (predicate : EntityId) : Prop where
  specialization : SameSingle knowledge knowledge' predicate .prSpecializationOf
  own : (knowledge.related predicate .prSpecializationOf).head? = none →
    SameApplication knowledge knowledge' predicate .prHasParameter
  generic : ∀ generic ∈ (knowledge.related predicate .prSpecializationOf).head?,
    knowledge.label generic = knowledge'.label generic
  comment : (knowledge.related predicate .prSpecializationOf).head? ≠ none →
    knowledge.comment predicate = knowledge'.comment predicate
  gate : (knowledge.related predicate .prSpecializationOf).head? ≠ none →
    ∀ comment mode relation, knowledge.comment predicate = some comment →
      ArgumentList.mode comment = .ok mode → mode.gate? = some relation →
        (knowledge.related predicate relation = [] ↔ knowledge'.related predicate relation = [])

/-- Agreement on a literal: on what it is the negative of, and on the predicate that is then read,
which is the counterpart or the predicate itself. -/
structure SameLiteral (predicate : EntityId) : Prop where
  negation : SameSingle knowledge knowledge' predicate .negativeOf
  resolved : SamePositive knowledge knowledge'
    ((knowledge.related predicate .negativeOf).head?.getD predicate)

/-- Agreement on a precondition. Of its own label only it matters whether there is one and whether
it is that of a type filter. -/
structure SamePrecondition (predicate : EntityId) : Prop where
  filter : (knowledge.label predicate).map isTypeFilter =
    (knowledge'.label predicate).map isTypeFilter
  literal : SameLiteral knowledge knowledge' predicate

/-- Agreement on a call. -/
structure SameCall (kind : TaskKind) (task : EntityId) : Prop where
  specialization : SameSingle knowledge knowledge' task kind.specialization
  own : (knowledge.related task kind.specialization).head? = none →
    SameApplication knowledge knowledge' task kind.parameters
  generic : ∀ generic ∈ (knowledge.related task kind.specialization).head?,
    knowledge.label generic = knowledge'.label generic
  objects : (knowledge.related task kind.specialization).head? ≠ none →
    SameArguments knowledge knowledge' task kind.objects

/-- Agreement on a flow, which needs neither a label nor a comment. -/
structure SameFlow (flow : EntityId) : Prop where
  preconditions : SameTargets knowledge knowledge' (SamePrecondition knowledge knowledge') flow
    .mfHasPrecondition
  methods : SameTargets knowledge knowledge' (SameCall knowledge knowledge' .method) flow
    .hasPostconditionMe
  operators : SameTargets knowledge knowledge' (SameCall knowledge knowledge' .operator) flow
    .hasPostconditionOp

/-- Agreement on a method. -/
structure SameMethod (method : EntityId) : Prop where
  head : SameApplication knowledge knowledge' method .meHasParameter
  flows : SameTargets knowledge knowledge' (SameFlow knowledge knowledge') method .hasFlow

/-- Agreement on an operator. -/
structure SameOperator (operator : EntityId) : Prop where
  head : SameApplication knowledge knowledge' operator .opHasParameter
  preconditions : SameTargets knowledge knowledge' (SamePrecondition knowledge knowledge') operator
    .opHasPrecondition
  deletes : SameTargets knowledge knowledge' (SameLiteral knowledge knowledge') operator
    .deletesPredicate
  adds : SameTargets knowledge knowledge' (SameLiteral knowledge knowledge') operator
    .addsPredicate

/-- Agreement on a domain definition. -/
structure SameDomain (domain : EntityId) : Prop where
  label : knowledge.label domain = knowledge'.label domain
  methods : SameTargets knowledge knowledge' (SameMethod knowledge knowledge') domain .hasMethod
  operators : SameTargets knowledge knowledge' (SameOperator knowledge knowledge') domain
    .hasOperator

/-- Agreement on a problem definition. Of its domain only the label matters. -/
structure SameProblem (problem : EntityId) : Prop where
  label : knowledge.label problem = knowledge'.label problem
  domain : SameSingle knowledge knowledge' problem .hasDomain
  domainLabel : ∀ domain ∈ (knowledge.related problem .hasDomain).head?,
    knowledge.label domain = knowledge'.label domain
  states : SameTargets knowledge knowledge'
    (SameTargets knowledge knowledge' (SameLiteral knowledge knowledge') · .hasPredicate) problem
    .hasInitialState
  goals : SameTargets knowledge knowledge'
    (SameTargets knowledge knowledge' (SameCall knowledge knowledge' .method) · .consistsOfMethod)
    problem .hasGoal

end KnowledgeBase

/-! ### Equal readings -/

namespace Reading

open Emission (bind_eq forEach_eq)
open KnowledgeBase

variable {knowledge knowledge' : KnowledgeBase} {entity : EntityId} {relation : Relation}

/-- The same targets are read alike if each of them is. -/
theorem forEach_related_congr {α : Type} {Agree : EntityId → Prop}
    {read read' : EntityId → Emission α}
    (h : SameTargets knowledge knowledge' Agree entity relation)
    (hread : ∀ target, Agree target → read target = read' target) :
    Emission.forEach read (knowledge.related entity relation) =
      Emission.forEach read' (knowledge'.related entity relation) := by
  rw [← h.related]
  have hsame : List.Forall₂ (fun target target' => read target = read' target')
      (knowledge.related entity relation) (knowledge.related entity relation) :=
    List.forall₂_same.2 fun target htarget => hread target (h.each target htarget)
  exact forEach_eq hsame fun _ _ htarget => htarget

variable (hnames : ∀ entity, knowledge.iri entity = knowledge'.iri entity) {strict : Bool}

include hnames

theorem describe_congr (entity : EntityId) :
    knowledge.describe entity = knowledge'.describe entity := by
  rw [describe, describe, hnames]

theorem related_arguments_congr (h : SameArguments knowledge knowledge' entity relation)
    (kind : ListKind) :
    Reading.arguments ⟨knowledge, strict⟩ entity relation kind =
      Reading.arguments ⟨knowledge', strict⟩ entity relation kind :=
  arguments_congr h.gate h.comment (describe_congr hnames entity) kind

/-- What is read from a name with a gated argument list. -/
theorem application_congr {α : Type} (h : SameApplication knowledge knowledge' entity relation)
    (kind : ListKind) (next : String → List String → Emission α) :
    (Reading.label ⟨knowledge, strict⟩ entity >>= fun name =>
      Reading.arguments ⟨knowledge, strict⟩ entity relation kind >>= next name) =
    (Reading.label ⟨knowledge', strict⟩ entity >>= fun name =>
      Reading.arguments ⟨knowledge', strict⟩ entity relation kind >>= next name) := by
  refine bind_eq (label_congr h.label (describe_congr hnames entity)) fun name => ?_
  rw [related_arguments_congr hnames h.arguments]

theorem positive_congr (h : SamePositive knowledge knowledge' entity) :
    Reading.positive ⟨knowledge, strict⟩ entity = Reading.positive ⟨knowledge', strict⟩ entity := by
  have hdescribe := describe_congr hnames entity
  refine single_bind_congr (by rfl) hdescribe h.specialization.count ?_
  simp only [← h.specialization.first]
  cases hfirst : (knowledge.related entity .prSpecializationOf).head? with
  | none => exact application_congr hnames (h.own hfirst) .parameters _
  | some generic =>
    have hspecial : (knowledge.related entity .prSpecializationOf).head? ≠ none := by
      rw [hfirst]
      exact Option.some_ne_none generic
    have hcomment := h.comment hspecial
    refine bind_eq (label_congr (h.generic generic hfirst) (describe_congr hnames generic))
      fun name => fromComment_bind_congr hcomment hdescribe fun comment mode hsome hmode => ?_
    have hgate := h.gate hspecial comment mode
    cases mode with
    | objects =>
      have hopen := hgate .prHasObject hsome hmode rfl
      exact bind_eq (arguments_congr hopen (fun _ => hcomment) hdescribe _) fun _ => rfl
    | parameters =>
      have hopen := hgate .prHasParameter hsome hmode rfl
      exact bind_eq (arguments_congr hopen (fun _ => hcomment) hdescribe _) fun _ => rfl
    | mixed => exact bind_eq (listed_congr hcomment hdescribe _) fun _ => rfl

theorem literal_congr (h : SameLiteral knowledge knowledge' entity) :
    Reading.literal ⟨knowledge, strict⟩ entity = Reading.literal ⟨knowledge', strict⟩ entity := by
  refine single_bind_congr (by rfl) (describe_congr hnames entity) h.negation.count ?_
  have hresolved := h.resolved
  simp only [← h.negation.first]
  cases hfirst : (knowledge.related entity .negativeOf).head? with
  | none =>
    rw [hfirst] at hresolved
    exact positive_congr hnames hresolved
  | some counterpart =>
    rw [hfirst] at hresolved
    exact bind_eq (positive_congr hnames hresolved) fun _ => rfl

theorem literals_congr (h : SameTargets knowledge knowledge' (SameLiteral knowledge knowledge')
      entity relation) :
    Reading.literals ⟨knowledge, strict⟩ (knowledge.related entity relation) =
      Reading.literals ⟨knowledge', strict⟩ (knowledge'.related entity relation) :=
  forEach_related_congr h fun _ htarget => literal_congr hnames htarget

theorem precondition_congr (h : SamePrecondition knowledge knowledge' entity) :
    Reading.precondition ⟨knowledge, strict⟩ entity =
      Reading.precondition ⟨knowledge', strict⟩ entity := by
  have hfilter := h.filter
  unfold precondition label
  rw [describe_congr hnames entity, literal_congr hnames h.literal]
  cases hlabel : knowledge.label entity with
  | none =>
    rw [hlabel] at hfilter
    rw [Option.map_eq_none_iff.1 hfilter.symm]
  | some text =>
    rw [hlabel] at hfilter
    obtain ⟨text', hlabel', hsame⟩ := Option.map_eq_some_iff.1 hfilter.symm
    simp only [hlabel', pure_bind, hsame]

theorem preconditions_congr (h : SameTargets knowledge knowledge'
      (SamePrecondition knowledge knowledge') entity relation) :
    Reading.preconditions ⟨knowledge, strict⟩ entity relation =
      Reading.preconditions ⟨knowledge', strict⟩ entity relation :=
  bind_eq (forEach_related_congr h fun _ htarget => precondition_congr hnames htarget)
    fun _ => rfl

theorem call_congr {kind : TaskKind} (h : SameCall knowledge knowledge' kind entity) :
    Reading.call ⟨knowledge, strict⟩ kind entity =
      Reading.call ⟨knowledge', strict⟩ kind entity := by
  refine single_bind_congr (by rfl) (describe_congr hnames entity) h.specialization.count ?_
  simp only [← h.specialization.first]
  cases hfirst : (knowledge.related entity kind.specialization).head? with
  | none => exact application_congr hnames (h.own hfirst) .parameters _
  | some generic =>
    have hspecial : (knowledge.related entity kind.specialization).head? ≠ none := by
      rw [hfirst]
      exact Option.some_ne_none generic
    refine bind_eq (label_congr (h.generic generic hfirst) (describe_congr hnames generic))
      fun name => ?_
    rw [related_arguments_congr hnames (h.objects hspecial)]

theorem calls_congr {kind : TaskKind} (h : SameTargets knowledge knowledge'
      (SameCall knowledge knowledge' kind) entity relation) :
    Reading.calls ⟨knowledge, strict⟩ kind entity relation =
      Reading.calls ⟨knowledge', strict⟩ kind entity relation :=
  forEach_related_congr h fun _ htarget => call_congr hnames htarget

theorem flow_congr (h : SameFlow knowledge knowledge' entity) (head : Call) :
    Reading.flow ⟨knowledge, strict⟩ head entity =
      Reading.flow ⟨knowledge', strict⟩ head entity :=
  bind_eq (preconditions_congr hnames h.preconditions) fun _ =>
    bind_eq (calls_congr hnames h.methods) fun _ =>
      bind_eq (calls_congr hnames h.operators) fun _ => rfl

theorem method_congr (h : SameMethod knowledge knowledge' entity) :
    Reading.method ⟨knowledge, strict⟩ entity = Reading.method ⟨knowledge', strict⟩ entity := by
  refine bind_eq (application_congr hnames h.head .parameters _) fun head => ?_
  have hflows : Emission.forEach (Reading.flow ⟨knowledge, strict⟩ head)
      (knowledge.related entity .hasFlow) =
        Emission.forEach (Reading.flow ⟨knowledge', strict⟩ head)
          (knowledge'.related entity .hasFlow) :=
    forEach_related_congr h.flows fun _ hflow => flow_congr hnames hflow head
  rw [← h.flows.related] at hflows
  simp only [hflows, ← h.flows.related, describe_congr hnames entity]

theorem operator_congr (h : SameOperator knowledge knowledge' entity) :
    Reading.operator ⟨knowledge, strict⟩ entity =
      Reading.operator ⟨knowledge', strict⟩ entity :=
  bind_eq (application_congr hnames h.head .parameters _) fun _ =>
    bind_eq (preconditions_congr hnames h.preconditions) fun _ =>
      bind_eq (literals_congr hnames h.deletes) fun _ =>
        bind_eq (literals_congr hnames h.adds) fun _ => rfl

theorem domain_congr (h : SameDomain knowledge knowledge' entity) :
    Reading.domain ⟨knowledge, strict⟩ entity = Reading.domain ⟨knowledge', strict⟩ entity :=
  bind_eq (label_congr h.label (describe_congr hnames entity)) fun _ =>
    bind_eq (forEach_related_congr h.methods fun _ hmethod => method_congr hnames hmethod) fun _ =>
      bind_eq (forEach_related_congr h.operators fun _ hoperator => operator_congr hnames hoperator)
        fun _ => rfl

/-- Required targets are the targets of the relation, so what is read next from each of them is
read alike. -/
theorem required_bind_congr {α : Type}
    (h : knowledge.related entity relation = knowledge'.related entity relation)
    {next next' : List EntityId → Emission α}
    (hnext : next (knowledge.related entity relation) =
      next' (knowledge'.related entity relation)) :
    Reading.required ⟨knowledge, strict⟩ entity relation >>= next =
      Reading.required ⟨knowledge', strict⟩ entity relation >>= next' := by
  unfold required
  simp only [describe_congr hnames entity]
  revert hnext
  rw [← h]
  cases knowledge.related entity relation with
  | nil => exact fun _ => rfl
  | cons target targets => exact fun hnext => hnext

theorem problem_congr (h : SameProblem knowledge knowledge' entity) :
    Reading.problem ⟨knowledge, strict⟩ entity =
      Reading.problem ⟨knowledge', strict⟩ entity := by
  have hdescribe := describe_congr hnames entity
  refine bind_eq (label_congr h.label hdescribe) fun name =>
    single_bind_congr (by rfl) hdescribe h.domain.count ?_
  simp only [← h.domain.first, hdescribe]
  cases hfirst : (knowledge.related entity .hasDomain).head? with
  | none => rfl
  | some domain =>
    refine bind_eq (label_congr (h.domainLabel domain hfirst) (describe_congr hnames domain))
      fun domainName => required_bind_congr hnames h.states.related <|
        required_bind_congr hnames h.goals.related ?_
    refine bind_eq (forEach_related_congr h.states fun _ hstate => literals_congr hnames hstate)
      fun _ => bind_eq (forEach_related_congr h.goals fun _ hgoal => calls_congr hnames hgoal)
        fun _ => rfl

end Reading

/-! ### Definitions -/

/-- Two knowledge bases that name entities alike and agree on what a definition looks up render it
alike: with the same text or the same error, and with the same warnings. -/
theorem rendering_depends_on_lookups {knowledge knowledge' : KnowledgeBase}
    (hnames : ∀ entity, knowledge.iri entity = knowledge'.iri entity) (strict : Bool) :
    (∀ domain, knowledge.SameDomain knowledge' domain →
      Reading.renderDomain ⟨knowledge, strict⟩ domain =
        Reading.renderDomain ⟨knowledge', strict⟩ domain) ∧
    (∀ problem, knowledge.SameProblem knowledge' problem →
      Reading.renderProblem ⟨knowledge, strict⟩ problem =
        Reading.renderProblem ⟨knowledge', strict⟩ problem) := by
  constructor
  · intro domain h
    unfold Reading.renderDomain
    rw [Reading.domain_congr hnames h]
  · intro problem h
    unfold Reading.renderProblem
    rw [Reading.problem_congr hnames h]

/-- A domain with a method that calls itself, and a problem whose initial state and goal are the
flow of that method. The literal `hot` is the negative of a predicate that specializes it, and that
predicate is a type filter. A remark goes into what neither definition reads. -/
def foundry (remark : String) : KnowledgeBase where
  entitiesOfKind _ := []
  related entity relation :=
    match entity.slot, relation with
    | 0, .hasMethod => [.ofSlot 1]
    | 0, .hasOperator => [.ofSlot 2]
    | 1, .hasFlow => [.ofSlot 3]
    | 2, .opHasParameter => [.ofSlot 6]
    | 2, .deletesPredicate => [.ofSlot 4]
    | 2, .addsPredicate => [.ofSlot 5]
    | 3, .mfHasPrecondition => [.ofSlot 4]
    | 3, .hasPostconditionMe => [.ofSlot 1]
    | 3, .hasPostconditionOp => [.ofSlot 2]
    | 3, .hasPredicate => [.ofSlot 5]
    | 3, .consistsOfMethod => [.ofSlot 1]
    | 4, .prSpecializationOf => [.ofSlot 5]
    | 4, .prHasObject => [.ofSlot 6]
    | 5, .negativeOf => [.ofSlot 4]
    | 7, .hasDomain => [.ofSlot 0]
    | 7, .hasInitialState => [.ofSlot 3]
    | 7, .hasGoal => [.ofSlot 3]
    | _, _ => []
  label entity :=
    match entity.slot with
    | 0 => some "foundry"
    | 1 => some "cast"
    | 2 => some "pour"
    | 4 => some ("predicate-" ++ remark)
    | 5 => some "hot"
    | 7 => some "order"
    | _ => some remark
  comment entity :=
    match entity.slot with
    | 2 => some "Parameters: [melt]"
    | 4 => some "Objects: [kiln]"
    | _ => some remark
  iri _ := none

section

open KnowledgeBase

variable (remark remark' : String)

theorem foundry_sameLiteral (predicate : EntityId)
    (h : predicate = .ofSlot 4 ∨ predicate = .ofSlot 5) :
    SameLiteral (foundry remark) (foundry remark') predicate := by
  have hfilter : SamePositive (foundry remark) (foundry remark') (.ofSlot 4) :=
    { specialization := ⟨rfl, rfl⟩
      own := nofun
      generic := by rintro _ ⟨⟩; rfl
      comment := fun _ => rfl
      gate := fun _ _ _ _ _ _ _ => Iff.rfl }
  obtain rfl | rfl := h
  · exact ⟨⟨rfl, rfl⟩, hfilter⟩
  · exact ⟨⟨rfl, rfl⟩, hfilter⟩

theorem foundry_sameHead :
    SameApplication (foundry remark) (foundry remark') (.ofSlot 1) .meHasParameter ∧
      SameApplication (foundry remark) (foundry remark') (.ofSlot 2) .opHasParameter :=
  ⟨⟨rfl, Iff.rfl, absurd rfl⟩, ⟨rfl, Iff.rfl, fun _ => rfl⟩⟩

theorem foundry_sameCall :
    SameCall (foundry remark) (foundry remark') .method (.ofSlot 1) ∧
      SameCall (foundry remark) (foundry remark') .operator (.ofSlot 2) := by
  obtain ⟨hmethod, hoperator⟩ := foundry_sameHead remark remark'
  exact ⟨⟨⟨rfl, rfl⟩, fun _ => hmethod, nofun, absurd rfl⟩,
    ⟨⟨rfl, rfl⟩, fun _ => hoperator, nofun, absurd rfl⟩⟩

theorem foundry_sameTargets {Agree : EntityId → Prop} {entity target : EntityId}
    {relation : Relation} (hrelated : ∀ remark, (foundry remark).related entity relation = [target])
    (h : Agree target) : SameTargets (foundry remark) (foundry remark') Agree entity relation where
  related := (hrelated remark).trans (hrelated remark').symm
  each := by
    rw [hrelated, List.forall_mem_singleton]
    exact h

theorem isTypeFilter_predicate (remark : String) :
    isTypeFilter ("predicate-" ++ remark) = true := by
  unfold isTypeFilter
  rw [String.toList_append]
  rfl

theorem foundry_sameDomain :
    SameDomain (foundry remark) (foundry remark') (.ofSlot 0) := by
  obtain ⟨hmethodHead, hoperatorHead⟩ := foundry_sameHead remark remark'
  obtain ⟨hmethodCall, hoperatorCall⟩ := foundry_sameCall remark remark'
  have hliteral := foundry_sameLiteral remark remark'
  have hfilter : SamePrecondition (foundry remark) (foundry remark') (.ofSlot 4) :=
    { filter := congrArg some
        ((isTypeFilter_predicate remark).trans (isTypeFilter_predicate remark').symm)
      literal := hliteral _ (.inl rfl) }
  have hflow : SameFlow (foundry remark) (foundry remark') (.ofSlot 3) :=
    { preconditions := foundry_sameTargets _ _ (fun _ => rfl) hfilter
      methods := foundry_sameTargets _ _ (fun _ => rfl) hmethodCall
      operators := foundry_sameTargets _ _ (fun _ => rfl) hoperatorCall }
  have hmethod : SameMethod (foundry remark) (foundry remark') (.ofSlot 1) :=
    { head := hmethodHead
      flows := foundry_sameTargets _ _ (fun _ => rfl) hflow }
  have hoperator : SameOperator (foundry remark) (foundry remark') (.ofSlot 2) :=
    { head := hoperatorHead
      preconditions := ⟨rfl, nofun⟩
      deletes := foundry_sameTargets _ _ (fun _ => rfl) (hliteral _ (.inl rfl))
      adds := foundry_sameTargets _ _ (fun _ => rfl) (hliteral _ (.inr rfl)) }
  exact
    { label := rfl
      methods := foundry_sameTargets _ _ (fun _ => rfl) hmethod
      operators := foundry_sameTargets _ _ (fun _ => rfl) hoperator }

theorem foundry_sameProblem :
    SameProblem (foundry remark) (foundry remark') (.ofSlot 7) := by
  have hcall := (foundry_sameCall remark remark').1
  have hliteral := foundry_sameLiteral remark remark' (.ofSlot 5) (.inr rfl)
  exact
    { label := rfl
      domain := ⟨rfl, rfl⟩
      domainLabel := by rintro _ ⟨⟩; rfl
      states := foundry_sameTargets _ _ (fun _ => rfl)
        (foundry_sameTargets _ _ (fun _ => rfl) hliteral)
      goals := foundry_sameTargets _ _ (fun _ => rfl)
        (foundry_sameTargets _ _ (fun _ => rfl) hcall) }

end

/-- Two foundries with other remarks differ in labels and comments, but not in what is rendered. -/
theorem foundry_rendering_depends_on_lookups :
    ((foundry "ladle").label (.ofSlot 4) ≠ (foundry "mould").label (.ofSlot 4) ∧
      (foundry "ladle").comment (.ofSlot 3) ≠ (foundry "mould").comment (.ofSlot 3)) ∧
    Reading.renderDomain ⟨foundry "ladle", true⟩ (.ofSlot 0) =
      Reading.renderDomain ⟨foundry "mould", true⟩ (.ofSlot 0) ∧
    Reading.renderProblem ⟨foundry "ladle", true⟩ (.ofSlot 7) =
      Reading.renderProblem ⟨foundry "mould", true⟩ (.ofSlot 7) := by
  have hnames (entity : EntityId) : (foundry "ladle").iri entity = (foundry "mould").iri entity :=
    rfl
  obtain ⟨hdomain, hproblem⟩ := rendering_depends_on_lookups hnames true
  exact ⟨by decide, hdomain _ (foundry_sameDomain _ _), hproblem _ (foundry_sameProblem _ _)⟩

/-- Both foundries are rendered, whatever the remark. -/
example : (Reading.renderProblem ⟨foundry "ladle", true⟩ (.ofSlot 7)).outcome.toOption =
    some "(defproblem order foundry\n((not(hot kiln)))\n(cast))\n" := by
  decide +kernel

end TaskNet
