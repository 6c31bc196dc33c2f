import TaskNet.Reading.Text
import TaskNet.Settings

/-!
# Generation

Every domain definition and every problem definition is rendered as a unit of its own: domains in
the order of their numbers, then problems. A unit that fails contributes no text and takes nothing
away from the others.
-/

namespace TaskNet

/-- The two kinds of definitions that units are made of. -/
inductive DefinitionKind where
  | domain
  | problem
deriving DecidableEq, Repr

namespace DefinitionKind

/-- The entities that are definitions of this kind. -/
def entityKind : DefinitionKind → EntityKind
  | domain => .domain
  | problem => .problem

/-- The text of a definition of this kind. -/
def render (kind : DefinitionKind) (reading : Reading) : EntityId → Emission String :=
  match kind with
  | domain => reading.renderDomain
  | problem => reading.renderProblem

end DefinitionKind

/-- A definition that is to be rendered. -/
structure Job where
  /-- The kind of the definition. -/
  kind : DefinitionKind
  /-- The definition. -/
  entity : EntityId
deriving DecidableEq, Repr

/-- A definition that has been rendered. -/
structure ProgramUnit extends Job where
  /-- The text with its warnings, or why there is none. -/
  emission : Emission String
deriving Repr

namespace ProgramUnit

/-- The text of a unit that rendered. -/
def text? (unit : ProgramUnit) : Option String := unit.emission.outcome.toOption

/-- A unit has exactly the text that was emitted for it. -/
theorem text?_eq_some_iff {unit : ProgramUnit} {text : String} :
    unit.text? = some text ↔ unit.emission.outcome = .ok text := by
  unfold text?
  cases unit.emission.outcome with
  | error => simp [Except.toOption]
  | ok => simp [Except.toOption]

/-- Why a unit did not render. -/
def error? (unit : ProgramUnit) : Option EmitError :=
  match unit.emission.outcome with
  | .ok _ => none
  | .error error => some error

/-- A unit has exactly the error that its rendering ended with. -/
theorem error?_eq_some_iff {unit : ProgramUnit} {error : EmitError} :
    unit.error? = some error ↔ unit.emission.outcome = .error error := by
  unfold error?
  cases unit.emission.outcome with
  | error other => simp
  | ok text => simp

theorem isSome_text? (unit : ProgramUnit) : unit.text?.isSome = unit.emission.outcome.isOk := by
  unfold text?
  cases unit.emission.outcome with
  | error error => rfl
  | ok text => rfl

theorem isSome_error? (unit : ProgramUnit) :
    unit.error?.isSome = !unit.emission.outcome.isOk := by
  unfold error?
  cases unit.emission.outcome with
  | error error => rfl
  | ok text => rfl

end ProgramUnit

/-- Everything that was rendered, in the order in which it is written. -/
structure Program where
  /-- The units, domains before problems. -/
  units : List ProgramUnit := []
deriving Repr

namespace Program

/-- The units that did not render. -/
def failures (program : Program) : List ProgramUnit :=
  program.units.filter (·.error?.isSome)

/-- Whether every unit rendered. -/
def isComplete (program : Program) : Bool := program.units.all (·.text?.isSome)

/-- The text of every unit that rendered. -/
def text (program : Program) : String := String.join (program.units.filterMap (·.text?))

/-- The text of every unit of a kind that rendered. -/
def textOf (program : Program) (kind : DefinitionKind) : String :=
  String.join ((program.units.filter (·.kind = kind)).filterMap (·.text?))

/-- The text of every domain that rendered. -/
def domainText (program : Program) : String := program.textOf .domain

/-- The text of every problem that rendered. -/
def problemText (program : Program) : String := program.textOf .problem

/-- The whole text, or why the first unit that failed did not render. -/
def completeText (program : Program) : Except EmitError String :=
  (program.units.mapM fun (unit : ProgramUnit) => unit.emission.outcome).map String.join

/-- The warnings of all units when the units finish in this order. -/
def warningsIn (finished : List ProgramUnit) : List Warning :=
  finished.flatMap (·.emission.warnings)

/-- The warnings of all units when the units finish in the order in which they are written. -/
def warnings (program : Program) : List Warning := warningsIn program.units

end Program

/-- What there is to render in a knowledge base, in the order in which it is written. -/
def KnowledgeBase.jobs (knowledge : KnowledgeBase) : List Job :=
  [DefinitionKind.domain, .problem].flatMap fun kind =>
    (knowledge.entitiesOfKind kind.entityKind).map fun entity => { kind, entity }

/-- A knowledge base, read as the settings say. -/
def Settings.reading (settings : Settings) (knowledge : KnowledgeBase) : Reading where
  knowledge
  strict := settings.strictAmbiguity

/-- Renders one definition. -/
def Job.run (job : Job) (reading : Reading) : ProgramUnit :=
  { job with emission := job.kind.render reading job.entity }

/-- Renders every definition of a knowledge base. -/
def generate (knowledge : KnowledgeBase) (settings : Settings) : Program where
  units := knowledge.jobs.map (·.run (settings.reading knowledge))

/-- The units of a kind are the renderings of the definitions of this kind. -/
theorem filter_units_generate (knowledge : KnowledgeBase) (settings : Settings)
    (kind : DefinitionKind) : (generate knowledge settings).units.filter (·.kind = kind) =
      (knowledge.entitiesOfKind kind.entityKind).map fun entity =>
        Job.run { kind, entity } (settings.reading knowledge) := by
  have hunits (other : DefinitionKind) :
      (((knowledge.entitiesOfKind other.entityKind).map fun entity =>
        Job.run { kind := other, entity } (settings.reading knowledge)).filter (·.kind = kind)) =
          if other = kind then
            (knowledge.entitiesOfKind other.entityKind).map fun entity =>
              Job.run { kind := other, entity } (settings.reading knowledge)
          else [] := by
    split
    · next hsame =>
      rw [List.filter_eq_self]
      intro unit hunit
      obtain ⟨entity, -, rfl⟩ := List.mem_map.1 hunit
      exact decide_eq_true hsame
    · next hother =>
      rw [List.filter_eq_nil_iff]
      intro unit hunit
      obtain ⟨entity, -, rfl⟩ := List.mem_map.1 hunit
      exact fun htrue => hother (of_decide_eq_true htrue)
  unfold generate KnowledgeBase.jobs
  simp only [List.flatMap_cons, List.flatMap_nil, List.append_nil, List.map_append, List.map_map,
    Function.comp_def, List.filter_append, hunits]
  cases kind with
  | domain => simp
  | problem => simp

/-- Domains come before problems, and there are no other units. -/
theorem units_generate (knowledge : KnowledgeBase) (settings : Settings) :
    (generate knowledge settings).units =
      (generate knowledge settings).units.filter (·.kind = .domain) ++
        (generate knowledge settings).units.filter (·.kind = .problem) := by
  rw [filter_units_generate, filter_units_generate]
  simp [generate, KnowledgeBase.jobs, Function.comp_def]

end TaskNet
