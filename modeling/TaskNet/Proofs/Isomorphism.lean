import Mathlib.Data.Set.Function
import TaskNet.Proofs.NamelessReadings
import TaskNet.Proofs.SameReading
import TaskNet.Proofs.TrueErrors

/-!
# Isomorphic knowledge bases

Two knowledge bases are isomorphic if a bijection between their entities keeps everything that can
be looked up, apart from the numbers of entities and, unless it is asked for, their names. Every
rendering of an entity is then the rendering of the entity that corresponds to it, and if the
definitions come in the same order, both programs have the same outputs.
-/

namespace TaskNet

/-! ### Isomorphisms -/

namespace KnowledgeBase

/-- An entity of a knowledge base is listed under its kind. -/
def Has (knowledge : KnowledgeBase) (entity : EntityId) : Prop :=
  ∃ kind, entity ∈ knowledge.entitiesOfKind kind

/-- Entities are listed in the order of their numbers. -/
def IsOrdered (knowledge : KnowledgeBase) : Prop :=
  ∀ kind, (knowledge.entitiesOfKind kind).Pairwise (·.number < ·.number)

/-- A bijection between the entities of two knowledge bases that keeps kinds, labels, comments and
relations. -/
structure IsIsomorphism (map : EntityId → EntityId) (knowledge knowledge' : KnowledgeBase) :
    Prop where
  bijOn : Set.BijOn map {entity | knowledge.Has entity} {entity | knowledge'.Has entity}
  kind : ∀ entity, knowledge.Has entity → ∀ kind,
    map entity ∈ knowledge'.entitiesOfKind kind ↔ entity ∈ knowledge.entitiesOfKind kind
  label : ∀ entity, knowledge.Has entity → knowledge'.label (map entity) = knowledge.label entity
  comment : ∀ entity, knowledge.Has entity →
    knowledge'.comment (map entity) = knowledge.comment entity
  related : ∀ entity, knowledge.Has entity → ∀ relation,
    (∀ target ∈ knowledge.related entity relation, knowledge.Has target) ∧
      knowledge'.related (map entity) relation = (knowledge.related entity relation).map map

/-- All entities have names, and those that correspond to each other have the same. -/
def KeepsNames (map : EntityId → EntityId) (knowledge knowledge' : KnowledgeBase) : Prop :=
  ∀ entity, knowledge.Has entity →
    ∃ name, knowledge.iri entity = some name ∧ knowledge'.iri (map entity) = some name

/-- The definitions of each kind correspond to each other in the order of their numbers. -/
structure KeepsOrder (map : EntityId → EntityId) (knowledge knowledge' : KnowledgeBase) :
    Prop where
  ordered : knowledge.IsOrdered
  ordered' : knowledge'.IsOrdered
  lt : ∀ kind : DefinitionKind, ∀ entity ∈ knowledge.entitiesOfKind kind.entityKind,
    ∀ later ∈ knowledge.entitiesOfKind kind.entityKind,
      entity.number < later.number → (map entity).number < (map later).number

end KnowledgeBase

/-! ### Outputs -/

namespace Rendering

/-- The entities that a renderer is called on. -/
def entities : Rendering → List EntityId
  | .literals predicates => predicates
  | .literal entity | .call _ entity | .preconditions entity _ | .method entity
  | .operator entity | .domain entity | .problem entity | .initialState entity
  | .goal entity => [entity]

/-- The same renderer, called on the entities that correspond to these. -/
def transport (map : EntityId → EntityId) : Rendering → Rendering
  | .literal predicate => .literal (map predicate)
  | .literals predicates => .literals (predicates.map map)
  | .call kind task => .call kind (map task)
  | .preconditions entity relation => .preconditions (map entity) relation
  | .method entity => .method (map entity)
  | .operator entity => .operator (map entity)
  | .domain entity => .domain (map entity)
  | .problem entity => .problem (map entity)
  | .initialState entity => .initialState (map entity)
  | .goal entity => .goal (map entity)

theorem nameless_run (reading : Reading) (rendering : Rendering) :
    (rendering.run reading).nameless = rendering.run reading.nameless := by
  cases rendering with
  | literal predicate =>
    simp only [run, Reading.renderLiteral, Emission.nameless_map, Reading.nameless_literal]
  | literals predicates =>
    simp only [run, Reading.renderLiterals, Emission.nameless_map, Reading.nameless_literals]
  | call kind task =>
    simp only [run, Reading.renderCall, Emission.nameless_map, Reading.nameless_call]
  | preconditions entity relation =>
    simp only [run, Reading.renderPreconditions, Emission.nameless_map,
      Reading.nameless_preconditions]
  | method method =>
    simp only [run, Reading.renderMethod, Emission.nameless_map, Reading.nameless_method]
  | operator operator =>
    simp only [run, Reading.renderOperator, Emission.nameless_map, Reading.nameless_operator]
  | domain domain =>
    simp only [run, Reading.renderDomain, Emission.nameless_map, Reading.nameless_domain]
  | problem problem =>
    simp only [run, Reading.renderProblem, Emission.nameless_map, Reading.nameless_problem]
  | initialState state =>
    simp only [run, Reading.renderInitialState, Emission.nameless_map,
      Reading.nameless_initialState]
  | goal goal =>
    simp only [run, Reading.renderGoal, Emission.nameless_map, Reading.nameless_goal]

end Rendering

theorem DefinitionKind.nameless_render (kind : DefinitionKind) (reading : Reading)
    (entity : EntityId) :
    (kind.render reading entity).nameless = kind.render reading.nameless entity := by
  cases kind with
  | domain =>
    simp only [render, Reading.renderDomain, Emission.nameless_map, Reading.nameless_domain]
  | problem =>
    simp only [render, Reading.renderProblem, Emission.nameless_map, Reading.nameless_problem]

namespace Program

/-- What is emitted for each unit, in order. -/
def outputs (program : Program) : List (DefinitionKind × Emission String) :=
  program.units.map fun unit => (unit.kind, unit.emission)

/-- What is emitted for each unit, in order, with no names in errors and warnings. -/
def namelessOutputs (program : Program) : List (DefinitionKind × Emission String) :=
  program.outputs.map fun (kind, emission) => (kind, emission.nameless)

/-- Two programs with the same outputs in the same order, and so with the same texts. -/
structure SameAs (program program' : Program) : Prop where
  outputs : program.outputs = program'.outputs
  text : program.text = program'.text
  domainText : program.domainText = program'.domainText
  problemText : program.problemText = program'.problemText
  completeText : program.completeText = program'.completeText
  warnings : program.warnings = program'.warnings

/-- Two programs with the same texts in the same order, where the same units fail for the same
reasons if names of entities do not count. -/
structure SameButNames (program program' : Program) : Prop where
  outputs : program.namelessOutputs = program'.namelessOutputs
  text : program.text = program'.text
  domainText : program.domainText = program'.domainText
  problemText : program.problemText = program'.problemText
  completeText : program.completeText.mapError EmitError.nameless =
    program'.completeText.mapError EmitError.nameless

variable {program program' : Program}

theorem text?_eq_toOption_nameless (unit : ProgramUnit) :
    unit.text? = unit.emission.nameless.outcome.toOption := by
  unfold ProgramUnit.text? Emission.nameless
  cases unit.emission.outcome with
  | error error => rfl
  | ok text => rfl

/-- The text of some of the units depends on their outputs without names. -/
theorem filterMap_text?_filter (program : Program) (keep : DefinitionKind → Bool) :
    (program.units.filter fun unit => keep unit.kind).filterMap (·.text?) =
      (program.namelessOutputs.filter fun output => keep output.1).filterMap fun output =>
        output.2.outcome.toOption := by
  simp only [namelessOutputs, outputs, List.map_map, List.filter_map, List.filterMap_map,
    Function.comp_def, text?_eq_toOption_nameless]

theorem mapM_mapError {α β ε ε' : Type} (f : α → Except ε β) (change : ε → ε') (entries : List α) :
    (entries.mapM f).mapError change = entries.mapM fun entry => (f entry).mapError change := by
  induction entries with
  | nil => rfl
  | cons entry rest ih =>
    rw [List.mapM_cons, List.mapM_cons, ← ih]
    cases f entry with
    | error error => rfl
    | ok value =>
      cases rest.mapM f with
      | error error => rfl
      | ok values => rfl

/-- The text of an output, or why there is none. -/
def outcomeOf (output : DefinitionKind × Emission String) : Except EmitError String :=
  output.2.outcome

/-- The texts of outputs in one, or why the first without a text has none. -/
def joined (outputs : List (DefinitionKind × Emission String)) : Except EmitError String :=
  (outputs.mapM outcomeOf).map String.join

theorem completeText_eq (program : Program) : program.completeText = joined program.outputs := by
  rw [joined, outputs, List.mapM_map]
  rfl

theorem mapError_completeText (program : Program) :
    program.completeText.mapError EmitError.nameless = joined program.namelessOutputs := by
  have hmapM : (program.outputs.mapM outcomeOf).mapError EmitError.nameless =
      program.namelessOutputs.mapM outcomeOf := by
    rw [mapM_mapError, namelessOutputs, List.mapM_map]
    rfl
  rw [completeText_eq, joined, joined, ← hmapM]
  cases program.outputs.mapM outcomeOf with
  | error error => rfl
  | ok texts => rfl

theorem sameButNames_of_outputs (h : program.namelessOutputs = program'.namelessOutputs) :
    program.SameButNames program' where
  outputs := h
  text := by
    have hall (program : Program) := filterMap_text?_filter program fun _ => true
    simp only [List.filter_true] at hall
    rw [Program.text, Program.text, hall, hall, h]
  domainText := by
    have hkind (program : Program) :=
      filterMap_text?_filter program fun kind => kind = DefinitionKind.domain
    rw [Program.domainText, Program.domainText, textOf, textOf, hkind, hkind, h]
  problemText := by
    have hkind (program : Program) :=
      filterMap_text?_filter program fun kind => kind = DefinitionKind.problem
    rw [Program.problemText, Program.problemText, textOf, textOf, hkind, hkind, h]
  completeText := by rw [mapError_completeText, mapError_completeText, h]

theorem sameAs_of_outputs (h : program.outputs = program'.outputs) :
    program.SameAs program' := by
  have hnames : program.SameButNames program' :=
    sameButNames_of_outputs (congrArg (List.map _) h)
  have hwarnings (program : Program) :
      program.warnings = program.outputs.flatMap (·.2.warnings) := by
    rw [Program.warnings, warningsIn, Program.outputs, List.flatMap_map]
  refine ⟨h, hnames.text, hnames.domainText, hnames.problemText, ?_, ?_⟩
  · rw [completeText_eq, completeText_eq, h]
  · rw [hwarnings, hwarnings, h]

end Program

/-! ### Renderings of corresponding entities -/

namespace KnowledgeBase

/-- What is emitted for each definition, in order, with the name by which the definition is shown. -/
def namedOutputs (knowledge : KnowledgeBase) (settings : Settings) :
    List (Option String × DefinitionKind × Emission String) :=
  (generate knowledge settings).units.map fun unit =>
    (knowledge.iri unit.entity, unit.kind, unit.emission)

variable {map : EntityId → EntityId} {knowledge knowledge' : KnowledgeBase}

/-- What an isomorphism pairs. -/
def Corresponds (map : EntityId → EntityId) (knowledge : KnowledgeBase)
    (entity entity' : EntityId) : Prop :=
  knowledge.Has entity ∧ map entity = entity'

theorem forall₂_corresponds {entities : List EntityId}
    (h : ∀ entity ∈ entities, knowledge.Has entity) :
    List.Forall₂ (knowledge.Corresponds map) entities (entities.map map) := by
  rw [List.forall₂_map_right_iff, List.forall₂_same]
  exact fun entity hentity => ⟨h entity hentity, rfl⟩

namespace IsIsomorphism

theorem matchesOn (h : IsIsomorphism map knowledge knowledge')
    (hnames : KeepsNames map knowledge knowledge') :
    MatchesOn (knowledge.Corresponds map) knowledge knowledge' where
  label := by
    rintro entity - ⟨hentity, rfl⟩
    exact (h.label entity hentity).symm
  comment := by
    rintro entity - ⟨hentity, rfl⟩
    exact (h.comment entity hentity).symm
  describe := by
    rintro entity - ⟨hentity, rfl⟩
    obtain ⟨name, hname, hname'⟩ := hnames entity hentity
    rw [describe, describe, hname, hname']
    rfl
  related := by
    rintro entity - ⟨hentity, rfl⟩ relation
    obtain ⟨htargets, hrelated⟩ := h.related entity hentity relation
    rw [hrelated]
    exact forall₂_corresponds htargets

/-- Leaving out names leaves an isomorphism, which then keeps the names that are left. -/
theorem nameless (h : IsIsomorphism map knowledge knowledge') :
    IsIsomorphism map knowledge.nameless knowledge'.nameless :=
  ⟨h.bijOn, h.kind, h.label, h.comment, h.related⟩

theorem keepsNames_nameless : KeepsNames map knowledge.nameless knowledge'.nameless :=
  fun _ _ => ⟨"", rfl, rfl⟩

theorem run_transport (h : IsIsomorphism map knowledge knowledge')
    (hnames : KeepsNames map knowledge knowledge') {rendering : Rendering}
    (hentities : ∀ entity ∈ rendering.entities, knowledge.Has entity) (strict : Bool) :
    (rendering.transport map).run ⟨knowledge', strict⟩ = rendering.run ⟨knowledge, strict⟩ := by
  have hmatches := h.matchesOn hnames
  have hpairs : List.Forall₂ (knowledge.Corresponds map) rendering.entities
      (rendering.entities.map map) := forall₂_corresponds hentities
  have hpair : ∀ entity ∈ rendering.entities, knowledge.Corresponds map entity (map entity) :=
    fun entity hentity => ⟨hentities entity hentity, rfl⟩
  symm
  cases rendering with
  | literal predicate =>
    exact congrArg (List.singleton <$> Literal.text <$> ·)
      (Reading.literal_eq hmatches (hpair predicate List.mem_cons_self) strict)
  | literals predicates =>
    exact congrArg (List.singleton <$> Literal.textAll <$> ·)
      (Reading.literals_eq hmatches strict hpairs)
  | call kind task =>
    exact congrArg (List.singleton <$> Call.text kind <$> ·)
      (Reading.call_eq hmatches (hpair task List.mem_cons_self) strict kind)
  | preconditions entity relation =>
    exact congrArg (List.singleton <$> Literal.group <$> ·)
      (Reading.preconditions_eq hmatches (hpair entity List.mem_cons_self) strict relation)
  | method entity =>
    exact congrArg (List.map MethodClause.text <$> ·)
      (Reading.method_eq hmatches (hpair entity List.mem_cons_self) strict)
  | operator entity =>
    exact congrArg (List.singleton <$> OperatorClause.text <$> ·)
      (Reading.operator_eq hmatches (hpair entity List.mem_cons_self) strict)
  | domain entity =>
    exact congrArg (List.singleton <$> DomainForm.text <$> ·)
      (Reading.domain_eq hmatches (hpair entity List.mem_cons_self) strict)
  | problem entity =>
    exact congrArg (List.singleton <$> ProblemForm.text <$> ·)
      (Reading.problem_eq hmatches (hpair entity List.mem_cons_self) strict)
  | initialState entity =>
    have hstate := hmatches.related (hpair entity List.mem_cons_self) .hasPredicate
    exact congrArg (List.singleton <$> Literal.group <$> ·)
      (Reading.literals_eq hmatches strict hstate)
  | goal entity =>
    exact congrArg (List.singleton <$> Call.textAll .method <$> ·)
      (Reading.calls_eq hmatches (hpair entity List.mem_cons_self) strict _ _)

/-! ### Programs -/

/-- If the definitions are listed in the same order, the outputs come in the same order and with the
same names. -/
theorem namedOutputs_generate (h : IsIsomorphism map knowledge knowledge')
    (hnames : KeepsNames map knowledge knowledge')
    (hdefinitions : ∀ kind : DefinitionKind, knowledge'.entitiesOfKind kind.entityKind =
      (knowledge.entitiesOfKind kind.entityKind).map map) (settings : Settings) :
    knowledge'.namedOutputs settings = knowledge.namedOutputs settings := by
  have hmatches := h.matchesOn hnames
  have hkind (kind : DefinitionKind) :
      (knowledge'.entitiesOfKind kind.entityKind).map (fun entity =>
        (knowledge'.iri entity, kind, kind.render (settings.reading knowledge') entity)) =
      (knowledge.entitiesOfKind kind.entityKind).map fun entity =>
        (knowledge.iri entity, kind, kind.render (settings.reading knowledge) entity) := by
    rw [hdefinitions, List.map_map]
    refine List.map_congr_left fun entity hentity => ?_
    have hrender := DefinitionKind.render_eq hmatches ⟨⟨_, hentity⟩, rfl⟩ kind
      settings.strictAmbiguity
    obtain ⟨name, hname, hname'⟩ := hnames entity ⟨_, hentity⟩
    rw [Function.comp_apply, hname, hname']
    exact congrArg (fun emission => (some name, kind, emission)) hrender.symm
  simp only [namedOutputs, generate, KnowledgeBase.jobs, List.map_map, List.map_flatMap,
    Function.comp_def, Job.run, hkind]

theorem outputs_generate (h : IsIsomorphism map knowledge knowledge')
    (hnames : KeepsNames map knowledge knowledge')
    (hdefinitions : ∀ kind : DefinitionKind, knowledge'.entitiesOfKind kind.entityKind =
      (knowledge.entitiesOfKind kind.entityKind).map map) (settings : Settings) :
    (generate knowledge' settings).outputs = (generate knowledge settings).outputs := by
  have houtputs (knowledge : KnowledgeBase) : (generate knowledge settings).outputs =
      (knowledge.namedOutputs settings).map (·.2) := by
    rw [namedOutputs, List.map_map]
    rfl
  rw [houtputs, houtputs, h.namedOutputs_generate hnames hdefinitions]

theorem namelessOutputs_generate (settings : Settings) :
    (generate knowledge settings).namelessOutputs =
      (generate knowledge.nameless settings).outputs := by
  have hrender (kind : DefinitionKind) (entity : EntityId) :
      (kind.render (settings.reading knowledge) entity).nameless =
        kind.render (settings.reading knowledge.nameless) entity :=
    kind.nameless_render _ entity
  simp only [Program.namelessOutputs, Program.outputs, generate, List.map_map, Function.comp_def,
    Job.run, hrender]
  rfl

/-- Lists in the order of numbers that correspond to each other do so place by place. -/
theorem entitiesOfKind_eq_map (h : IsIsomorphism map knowledge knowledge')
    (horder : KeepsOrder map knowledge knowledge') (kind : DefinitionKind) :
    knowledge'.entitiesOfKind kind.entityKind =
      (knowledge.entitiesOfKind kind.entityKind).map map := by
  have hmapped : ((knowledge.entitiesOfKind kind.entityKind).map map).Pairwise
      (·.number < ·.number) := by
    rw [List.pairwise_map]
    refine (horder.ordered kind.entityKind).imp_of_mem fun {entity later} hentity hlater hlt => ?_
    exact horder.lt kind entity hentity later hlater hlt
  have hlisted := horder.ordered' kind.entityKind
  have hne {entity later : EntityId} (hlt : entity.number < later.number) : entity ≠ later := by
    rintro rfl
    exact Nat.lt_irrefl _ hlt
  have hperm : (knowledge'.entitiesOfKind kind.entityKind).Perm
      ((knowledge.entitiesOfKind kind.entityKind).map map) := by
    rw [List.perm_ext_iff_of_nodup (hlisted.imp hne) (hmapped.imp hne)]
    intro entity'
    rw [List.mem_map]
    constructor
    · intro hentity'
      obtain ⟨entity, hentity, rfl⟩ := h.bijOn.surjOn ⟨_, hentity'⟩
      exact ⟨entity, (h.kind entity hentity _).1 hentity', rfl⟩
    · rintro ⟨entity, hentity, rfl⟩
      exact (h.kind entity ⟨_, hentity⟩ _).2 hentity
  refine hperm.eq_of_pairwise (fun entity later _ _ hlt hgt => ?_) hlisted hmapped
  exact absurd hgt (Nat.lt_asymm hlt)

/-- What is rendered is the same but for names, even if an isomorphism changes names. -/
theorem run_transport_sameButNames (h : IsIsomorphism map knowledge knowledge')
    {rendering : Rendering} (hentities : ∀ entity ∈ rendering.entities, knowledge.Has entity)
    (strict : Bool) :
    ((rendering.transport map).run ⟨knowledge', strict⟩).SameButNames
      (rendering.run ⟨knowledge, strict⟩) := by
  have hrun := h.nameless.run_transport keepsNames_nameless hentities strict
  apply Emission.sameButNames_of_nameless
  rw [Rendering.nameless_run, Rendering.nameless_run]
  exact hrun

/-- Programs are the same but for names, even if an isomorphism changes names. -/
theorem generate_sameButNames (h : IsIsomorphism map knowledge knowledge')
    (hdefinitions : ∀ kind : DefinitionKind, knowledge'.entitiesOfKind kind.entityKind =
      (knowledge.entitiesOfKind kind.entityKind).map map) (settings : Settings) :
    (generate knowledge' settings).SameButNames (generate knowledge settings) := by
  have houtputs := h.nameless.outputs_generate keepsNames_nameless hdefinitions settings
  apply Program.sameButNames_of_outputs
  rw [namelessOutputs_generate, namelessOutputs_generate, houtputs]

end IsIsomorphism

end KnowledgeBase

/-- Knowledge graphs list their entities in order. -/
theorem KnowledgeGraph.isOrdered_base (graph : KnowledgeGraph) : graph.base.IsOrdered := by
  intro kind
  have hids : graph.ids.Pairwise (·.number < ·.number) := by
    rw [ids, EntityId.first, List.pairwise_map]
    exact List.pairwise_lt_range.imp fun hlt => Nat.succ_lt_succ hlt
  exact hids.filter _

end TaskNet
