import TaskNet.Generation
import Mathlib.Data.List.Forall2

/-!
# Strict and lenient readings

A strict reading fails where a lenient one warns that it took the first of several targets. What a
lenient reading emits therefore decides what the strict one emits: the same, cut at the first such
warning. The cut respects the sequence of readings, so it passes through every form.
-/

namespace TaskNet

/-! ### Cutting an emission -/

/-- What a strict reading does in the place of a warning: it fails where several targets were found,
and gives every other warning. -/
def Warning.enforce : Warning → Emission Unit
  | severalTargets entity relation count => .fail (.ambiguous entity relation count)
  | noFlows method => .warn (.noFlows method)

namespace Emission

variable {α β : Type}

/-- An emission that stops at the first warning of several targets, as a failure. -/
def cut (emission : Emission α) : Emission α := do
  forM emission.warnings Warning.enforce
  .lift emission.outcome

/-- Of two emissions the second is the first one, cut at the first warning of several targets. -/
def IsCut (lenient strict : Emission α) : Prop := strict = lenient.cut

/-- An emission without warnings is not cut. -/
theorem isCut_lift (outcome : Except EmitError α) : IsCut (lift outcome) (lift outcome) := rfl

/-- Sequences are cut part by part. -/
theorem cut_bind (emission : Emission α) (next : α → Emission β) :
    (emission >>= next).cut = emission.cut >>= fun value => (next value).cut := by
  obtain ⟨warnings, error | value⟩ := emission
  · simp only [cut, error_bind, bind_assoc]
    rfl
  · simp only [cut, ok_bind, List.forM_append, bind_assoc]
    rfl

theorem IsCut.bind {lenient strict : Emission α} {next next' : α → Emission β}
    (hfirst : IsCut lenient strict) (hnext : ∀ value, IsCut (next value) (next' value)) :
    IsCut (lenient >>= next) (strict >>= next') := by
  rw [IsCut, cut_bind, hfirst, funext hnext]

theorem IsCut.ite {condition : Prop} [Decidable condition] {lenient strict : Emission α}
    {lenient' strict' : Emission α} (hthen : condition → IsCut lenient strict)
    (helse : ¬condition → IsCut lenient' strict') :
    IsCut (if condition then lenient else lenient') (if condition then strict else strict') := by
  split
  · exact hthen ‹_›
  · exact helse ‹_›

theorem IsCut.map {lenient strict : Emission α} (f : α → β) (h : IsCut lenient strict) :
    IsCut (f <$> lenient) (f <$> strict) := by
  rw [map_eq_pure_bind, map_eq_pure_bind]
  exact h.bind fun value => isCut_lift (.ok (f value))

/-- Readings of a list are cut entry by entry. -/
theorem IsCut.forEach {lenient strict : α → Emission β}
    (h : ∀ entry, IsCut (lenient entry) (strict entry)) (entries : List α) :
    IsCut (Emission.forEach lenient entries) (Emission.forEach strict entries) := by
  induction entries with
  | nil => exact isCut_lift (.ok [])
  | cons entry rest ih =>
    exact (h entry).bind fun value => ih.bind fun values => isCut_lift (.ok (value :: values))

theorem cut_severalTargets_cons (entity : String) (relation : Relation) (count : Nat)
    (rest : List Warning) (outcome : Except EmitError α) :
    cut ⟨.severalTargets entity relation count :: rest, outcome⟩ =
      ⟨[], .error (.ambiguous entity relation count)⟩ := by
  simp only [cut, List.forM_cons, Warning.enforce, fail_bind]
  rfl

theorem cut_noFlows_cons (method : String) (rest : List Warning) (outcome : Except EmitError α) :
    cut ⟨.noFlows method :: rest, outcome⟩ =
      ⟨.noFlows method :: (cut ⟨rest, outcome⟩).warnings, (cut ⟨rest, outcome⟩).outcome⟩ := by
  simp only [cut, List.forM_cons, Warning.enforce, bind_assoc]
  rfl

/-- Without a warning of several targets there is nothing to cut. -/
theorem cut_of_forall_notMem {warnings : List Warning} (outcome : Except EmitError α)
    (h : ∀ entity relation count, .severalTargets entity relation count ∉ warnings) :
    cut ⟨warnings, outcome⟩ = ⟨warnings, outcome⟩ := by
  induction warnings with
  | nil => rfl
  | cons warning rest ih =>
    cases warning with
    | severalTargets entity relation count => exact absurd List.mem_cons_self (h _ _ _)
    | noFlows method =>
      have hrest := ih fun entity relation count hmem => h _ _ _ (List.mem_cons_of_mem _ hmem)
      rw [cut_noFlows_cons, hrest]

/-- The cut is made at the first warning of several targets, whatever comes after it. -/
theorem cut_of_severalTargets {before : List Warning} (after : List Warning) {entity : String}
    {relation : Relation} {count : Nat} (outcome : Except EmitError α)
    (hfirst : ∀ entity relation count, .severalTargets entity relation count ∉ before) :
    cut ⟨before ++ .severalTargets entity relation count :: after, outcome⟩ =
      ⟨before, .error (.ambiguous entity relation count)⟩ := by
  induction before with
  | nil => exact cut_severalTargets_cons entity relation count after outcome
  | cons warning rest ih =>
    cases warning with
    | severalTargets entity relation count => exact absurd List.mem_cons_self (hfirst _ _ _)
    | noFlows method =>
      have hrest := ih fun entity relation count hmem => hfirst _ _ _ (List.mem_cons_of_mem _ hmem)
      rw [List.cons_append, cut_noFlows_cons, hrest]

/-- An emission that still yields a value when it is cut has not been cut at all. -/
theorem cut_eq_of_outcome_eq_ok {emission : Emission α} {value : α}
    (h : emission.cut.outcome = .ok value) : emission.cut = emission := by
  obtain ⟨warnings, outcome⟩ := emission
  induction warnings with
  | nil => rfl
  | cons warning rest ih =>
    cases warning with
    | severalTargets entity relation count =>
      rw [cut_severalTargets_cons] at h
      cases h
    | noFlows method =>
      rw [cut_noFlows_cons] at h ⊢
      rw [ih h]

/-- How the strict reading of something follows from the lenient one. -/
structure StrictlyFollows (lenient strict : Emission α) : Prop where
  /-- Where the lenient reading never finds several targets, both readings are the same. -/
  eq_of_single : (∀ entity relation count,
    .severalTargets entity relation count ∉ lenient.warnings) → strict = lenient
  /-- Otherwise the strict reading fails at the first place where the lenient one finds several
  targets, having given the warnings that came before. -/
  stops_at_first : ∀ before entity relation count after,
    lenient.warnings = before ++ .severalTargets entity relation count :: after →
    (∀ entity relation count, .severalTargets entity relation count ∉ before) →
    strict = { warnings := before, outcome := .error (.ambiguous entity relation count) }

theorem IsCut.strictlyFollows {lenient strict : Emission α} (h : IsCut lenient strict) :
    StrictlyFollows lenient strict := by
  obtain ⟨warnings, outcome⟩ := lenient
  subst h
  refine ⟨cut_of_forall_notMem outcome, ?_⟩
  rintro before entity relation count after rfl hfirst
  exact cut_of_severalTargets after outcome hfirst

end Emission

/-! ### Both readings of a knowledge base -/

namespace KnowledgeBase

/-- The reading that takes the first of several targets. -/
def leniently (knowledge : KnowledgeBase) : Reading := { knowledge }

/-- The reading that fails where a relation that takes one target has several. -/
def strictly (knowledge : KnowledgeBase) : Reading := { knowledge, strict := true }

end KnowledgeBase

namespace Reading

open Emission (IsCut isCut_lift)

variable (knowledge : KnowledgeBase)

theorem isCut_label (entity : EntityId) :
    IsCut (knowledge.leniently.label entity) (knowledge.strictly.label entity) := by
  change IsCut _ (knowledge.leniently.label entity)
  unfold label
  split
  · exact isCut_lift _
  · exact isCut_lift _

theorem isCut_fromComment {α : Type} (entity : EntityId) (read : String → Except CommentFault α) :
    IsCut (knowledge.leniently.fromComment entity read)
      (knowledge.strictly.fromComment entity read) := by
  change IsCut _ (knowledge.leniently.fromComment entity read)
  unfold fromComment blame
  split
  · exact isCut_lift _
  · exact isCut_lift _

theorem isCut_listed (entity : EntityId) (kind : ListKind) :
    IsCut (knowledge.leniently.listed entity kind) (knowledge.strictly.listed entity kind) :=
  (isCut_fromComment knowledge entity _).bind fun _ => isCut_lift (.ok _)

theorem isCut_arguments (entity : EntityId) (relation : Relation) (kind : ListKind) :
    IsCut (knowledge.leniently.arguments entity relation kind)
      (knowledge.strictly.arguments entity relation kind) :=
  IsCut.ite (fun _ => isCut_lift (.ok [])) fun _ => isCut_listed knowledge entity kind

/-- The one place where the readings differ: the strict one fails where the other one warns. -/
theorem isCut_single (entity : EntityId) (relation : Relation) :
    IsCut (knowledge.leniently.single entity relation)
      (knowledge.strictly.single entity relation) := by
  unfold single
  refine IsCut.ite (fun _ => ?_) fun _ => isCut_lift (.ok _)
  rfl

theorem isCut_positive (predicate : EntityId) :
    IsCut (knowledge.leniently.positive predicate) (knowledge.strictly.positive predicate) := by
  refine (isCut_single knowledge predicate .prSpecializationOf).bind fun generic => ?_
  cases generic with
  | none =>
    exact (isCut_label knowledge predicate).bind fun name =>
      (isCut_arguments knowledge predicate .prHasParameter .parameters).bind fun _ =>
        isCut_lift (.ok _)
  | some generic =>
    refine (isCut_label knowledge generic).bind fun name =>
      (isCut_fromComment knowledge predicate _).bind fun mode => ?_
    cases mode with
    | objects =>
      exact (isCut_arguments knowledge predicate .prHasObject .objects).bind fun _ =>
        isCut_lift (.ok _)
    | parameters =>
      exact (isCut_arguments knowledge predicate .prHasParameter .parameters).bind fun _ =>
        isCut_lift (.ok _)
    | mixed => exact (isCut_listed knowledge predicate .mixed).bind fun _ => isCut_lift (.ok _)

theorem isCut_literal (predicate : EntityId) :
    IsCut (knowledge.leniently.literal predicate) (knowledge.strictly.literal predicate) := by
  refine (isCut_single knowledge predicate .negativeOf).bind fun counterpart => ?_
  cases counterpart with
  | none => exact isCut_positive knowledge predicate
  | some counterpart =>
    exact (isCut_positive knowledge counterpart).bind fun _ => isCut_lift (.ok _)

theorem isCut_literals (predicates : List EntityId) :
    IsCut (knowledge.leniently.literals predicates) (knowledge.strictly.literals predicates) :=
  .forEach (isCut_literal knowledge) predicates

theorem isCut_call (kind : TaskKind) (task : EntityId) :
    IsCut (knowledge.leniently.call kind task) (knowledge.strictly.call kind task) := by
  refine (isCut_single knowledge task kind.specialization).bind fun generic => ?_
  cases generic with
  | none =>
    exact (isCut_label knowledge task).bind fun name =>
      (isCut_arguments knowledge task kind.parameters .parameters).bind fun _ => isCut_lift (.ok _)
  | some generic =>
    exact (isCut_label knowledge generic).bind fun name =>
      (isCut_arguments knowledge task kind.objects .objects).bind fun _ => isCut_lift (.ok _)

theorem isCut_calls (kind : TaskKind) (entity : EntityId) (relation : Relation) :
    IsCut (knowledge.leniently.calls kind entity relation)
      (knowledge.strictly.calls kind entity relation) :=
  .forEach (isCut_call knowledge kind) _

theorem isCut_preconditions (entity : EntityId) (relation : Relation) :
    IsCut (knowledge.leniently.preconditions entity relation)
      (knowledge.strictly.preconditions entity relation) := by
  refine (IsCut.forEach (fun predicate => ?_) _).bind fun _ => isCut_lift (.ok _)
  exact (isCut_label knowledge predicate).bind fun label =>
    (isCut_literal knowledge predicate).bind fun _ => isCut_lift (.ok _)

theorem isCut_head (kind : TaskKind) (task : EntityId) :
    IsCut (knowledge.leniently.head kind task) (knowledge.strictly.head kind task) :=
  (isCut_label knowledge task).bind fun _ =>
    (isCut_arguments knowledge task kind.parameters .parameters).bind fun _ => isCut_lift (.ok _)

theorem isCut_flow (head : Call) (flow : EntityId) :
    IsCut (knowledge.leniently.flow head flow) (knowledge.strictly.flow head flow) :=
  (isCut_preconditions knowledge flow .mfHasPrecondition).bind fun _ =>
    (isCut_calls knowledge .method flow .hasPostconditionMe).bind fun _ =>
      (isCut_calls knowledge .operator flow .hasPostconditionOp).bind fun _ => isCut_lift (.ok _)

theorem isCut_method (method : EntityId) :
    IsCut (knowledge.leniently.method method) (knowledge.strictly.method method) := by
  refine (isCut_head knowledge .method method).bind fun head => ?_
  have hflows := IsCut.forEach (isCut_flow knowledge head) (knowledge.related method .hasFlow)
  exact IsCut.ite (fun _ => IsCut.bind rfl fun _ => hflows) fun _ => hflows

theorem isCut_operator (operator : EntityId) :
    IsCut (knowledge.leniently.operator operator) (knowledge.strictly.operator operator) :=
  (isCut_head knowledge .operator operator).bind fun _ =>
    (isCut_preconditions knowledge operator .opHasPrecondition).bind fun _ =>
      (isCut_literals knowledge _).bind fun _ =>
        (isCut_literals knowledge _).bind fun _ => isCut_lift (.ok _)

theorem isCut_domain (domain : EntityId) :
    IsCut (knowledge.leniently.domain domain) (knowledge.strictly.domain domain) :=
  (isCut_label knowledge domain).bind fun _ =>
    (IsCut.forEach (isCut_method knowledge) _).bind fun _ =>
      (IsCut.forEach (isCut_operator knowledge) _).bind fun _ => isCut_lift (.ok _)

theorem isCut_required (entity : EntityId) (relation : Relation) :
    IsCut (knowledge.leniently.required entity relation)
      (knowledge.strictly.required entity relation) := by
  change IsCut _ (knowledge.leniently.required entity relation)
  unfold required
  split
  · exact isCut_lift _
  · exact isCut_lift _

theorem isCut_problem (problem : EntityId) :
    IsCut (knowledge.leniently.problem problem) (knowledge.strictly.problem problem) := by
  refine (isCut_label knowledge problem).bind fun name =>
    (isCut_single knowledge problem .hasDomain).bind fun domain => ?_
  cases domain with
  | none => exact isCut_lift _
  | some domain =>
    exact (isCut_label knowledge domain).bind fun _ =>
      (isCut_required knowledge problem .hasInitialState).bind fun _ =>
        (isCut_required knowledge problem .hasGoal).bind fun _ =>
          (IsCut.forEach (fun _ => isCut_literals knowledge _) _).bind fun _ =>
            (IsCut.forEach (fun _ => isCut_calls knowledge _ _ _) _).bind fun _ => isCut_lift (.ok _)

end Reading

open Emission (StrictlyFollows)

/-- A unit rendered strictly follows from the same unit rendered leniently, and if it renders at
all, both have the same text. -/
theorem Job.strictlyFollows (knowledge : KnowledgeBase) (job : Job) :
    StrictlyFollows (job.run knowledge.leniently).emission (job.run knowledge.strictly).emission ∧
      ∀ text, (job.run knowledge.strictly).text? = some text →
        (job.run knowledge.leniently).text? = some text := by
  have hcut : Emission.IsCut (job.run knowledge.leniently).emission
      (job.run knowledge.strictly).emission := by
    obtain ⟨kind, entity⟩ := job
    cases kind with
    | domain => exact (Reading.isCut_domain knowledge entity).map _
    | problem => exact (Reading.isCut_problem knowledge entity).map _
  refine ⟨hcut.strictlyFollows, fun text htext => ?_⟩
  have hok := ProgramUnit.text?_eq_some_iff.1 htext
  have hsame : (job.run knowledge.strictly).emission = (job.run knowledge.leniently).emission := by
    rw [hcut] at hok ⊢
    exact Emission.cut_eq_of_outcome_eq_ok hok
  rwa [ProgramUnit.text?_eq_some_iff, ← hsame]

/-- For every form that can be rendered, the strict rendering follows from the lenient one: it is
the same where no relation that takes one target has several, and otherwise it fails with the first
of these ambiguities and with the warnings that came before. So every unit of a strict generation
that renders has the text that it has in a lenient one. -/
theorem strict_rendering_follows_lenient (knowledge : KnowledgeBase) :
    (∀ predicate, StrictlyFollows (knowledge.leniently.renderLiteral predicate)
      (knowledge.strictly.renderLiteral predicate)) ∧
    (∀ predicates, StrictlyFollows (knowledge.leniently.renderLiterals predicates)
      (knowledge.strictly.renderLiterals predicates)) ∧
    (∀ kind task, StrictlyFollows (knowledge.leniently.renderCall kind task)
      (knowledge.strictly.renderCall kind task)) ∧
    (∀ entity relation, StrictlyFollows (knowledge.leniently.renderPreconditions entity relation)
      (knowledge.strictly.renderPreconditions entity relation)) ∧
    (∀ method, StrictlyFollows (knowledge.leniently.renderMethod method)
      (knowledge.strictly.renderMethod method)) ∧
    (∀ operator, StrictlyFollows (knowledge.leniently.renderOperator operator)
      (knowledge.strictly.renderOperator operator)) ∧
    (∀ domain, StrictlyFollows (knowledge.leniently.renderDomain domain)
      (knowledge.strictly.renderDomain domain)) ∧
    (∀ problem, StrictlyFollows (knowledge.leniently.renderProblem problem)
      (knowledge.strictly.renderProblem problem)) ∧
    (∀ state, StrictlyFollows (knowledge.leniently.renderInitialState state)
      (knowledge.strictly.renderInitialState state)) ∧
    (∀ goal, StrictlyFollows (knowledge.leniently.renderGoal goal)
      (knowledge.strictly.renderGoal goal)) ∧
    ∀ settings : Settings, List.Forall₂
      (fun lenient strict => strict.toJob = lenient.toJob ∧
        StrictlyFollows lenient.emission strict.emission ∧
        ∀ text, strict.text? = some text → lenient.text? = some text)
      (generate knowledge { settings with strictAmbiguity := false }).units
      (generate knowledge { settings with strictAmbiguity := true }).units := by
  refine ⟨fun predicate => ?_, fun predicates => ?_, fun kind task => ?_, fun entity relation => ?_,
    fun method => ?_, fun operator => ?_, fun domain => ?_, fun problem => ?_, fun state => ?_,
    fun goal => ?_, fun settings => ?_⟩
  · exact ((Reading.isCut_literal knowledge predicate).map _).strictlyFollows
  · exact ((Reading.isCut_literals knowledge predicates).map _).strictlyFollows
  · exact ((Reading.isCut_call knowledge kind task).map _).strictlyFollows
  · exact ((Reading.isCut_preconditions knowledge entity relation).map _).strictlyFollows
  · exact ((Reading.isCut_method knowledge method).map _).strictlyFollows
  · exact ((Reading.isCut_operator knowledge operator).map _).strictlyFollows
  · exact ((Reading.isCut_domain knowledge domain).map _).strictlyFollows
  · exact ((Reading.isCut_problem knowledge problem).map _).strictlyFollows
  · exact ((Reading.isCut_literals knowledge _).map _).strictlyFollows
  · exact ((Reading.isCut_calls knowledge _ goal _).map _).strictlyFollows
  · rw [generate, generate, List.forall₂_map_left_iff, List.forall₂_map_right_iff,
      List.forall₂_same]
    exact fun job _ => ⟨rfl, Job.strictlyFollows knowledge job⟩

end TaskNet
