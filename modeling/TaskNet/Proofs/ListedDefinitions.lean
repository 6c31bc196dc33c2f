import Mathlib.Data.List.Forall2
import TaskNet.Generation
import TaskNet.Summary

/-!
# Summaries and programs

A summary and a program go over the definitions of a knowledge base on their own. The summary takes
the first domain of a problem as it is stated; the program goes through the rule for several domains
and through everything else that may fail. Yet they list the same definitions in the same order,
the text of a definition begins with what it is listed with, and a definition that is listed without
what it needs fails, whatever the settings are.
-/

namespace TaskNet

/-! ### What forms are read from -/

namespace Reading

open Emission (outcome_bind_eq_ok_iff)

variable {reading : Reading}

/-- A domain is named by its own label. -/
theorem label_of_domain {domain : EntityId} {form : DomainForm}
    (h : (reading.domain domain).outcome = .ok form) :
    reading.knowledge.label domain = some form.name := by
  obtain ⟨name, hname, h⟩ := outcome_bind_eq_ok_iff.1 h
  obtain ⟨methods, -, h⟩ := outcome_bind_eq_ok_iff.1 h
  obtain ⟨operators, -, h⟩ := outcome_bind_eq_ok_iff.1 h
  obtain rfl := Except.ok.inj h
  exact outcome_label_eq_ok_iff.1 hname

/-- Required targets are there. -/
theorem ne_nil_of_required {entity : EntityId} {relation : Relation} {targets : List EntityId}
    (h : (reading.required entity relation).outcome = .ok targets) :
    reading.knowledge.related entity relation ≠ [] := by
  intro hnone
  rw [required, hnone] at h
  cases h

/-- What a problem is read from. -/
structure ReadsProblem (reading : Reading) (problem : EntityId) (form : ProblemForm) : Prop where
  name : reading.knowledge.label problem = some form.name
  domain : (reading.knowledge.related problem .hasDomain).head?.bind reading.knowledge.label =
    some form.domain
  initialStates : reading.knowledge.related problem .hasInitialState ≠ []
  goals : reading.knowledge.related problem .hasGoal ≠ []

/-- A problem is named by its own label and by the label of its first domain, and it needs an
initial state and a goal. -/
theorem readsProblem {problem : EntityId} {form : ProblemForm}
    (h : (reading.problem problem).outcome = .ok form) : reading.ReadsProblem problem form := by
  obtain ⟨name, hname, h⟩ := outcome_bind_eq_ok_iff.1 h
  obtain ⟨target, htarget, h⟩ := outcome_bind_eq_ok_iff.1 h
  cases target with
  | none => cases h
  | some domain =>
    obtain ⟨domainName, hdomainName, h⟩ := outcome_bind_eq_ok_iff.1 h
    obtain ⟨states, hstates, h⟩ := outcome_bind_eq_ok_iff.1 h
    obtain ⟨goals, hgoals, h⟩ := outcome_bind_eq_ok_iff.1 h
    obtain ⟨initialStates, -, h⟩ := outcome_bind_eq_ok_iff.1 h
    obtain ⟨tasks, -, h⟩ := outcome_bind_eq_ok_iff.1 h
    obtain rfl := Except.ok.inj h
    constructor
    · exact outcome_label_eq_ok_iff.1 hname
    · rw [← eq_head?_of_single htarget, Option.bind_some]
      exact outcome_label_eq_ok_iff.1 hdomainName
    · exact ne_nil_of_required hstates
    · exact ne_nil_of_required hgoals

/-- The text of a domain begins with its label. -/
theorem exists_text_eq_of_renderDomain {domain : EntityId} {text : String}
    (h : (reading.renderDomain domain).outcome = .ok text) :
    ∃ label, reading.knowledge.label domain = some label ∧
      ∃ rest, text = "(defdomain " ++ label ++ " (" ++ rest := by
  obtain ⟨form, hform, rfl⟩ := Emission.exists_of_outcome_map h
  refine ⟨form.name, label_of_domain hform,
    String.join (form.clauseTexts.map fun clause => "\n" ++ clause ++ "\n") ++ "))\n", ?_⟩
  unfold DomainForm.text
  simp only [String.append_assoc]

/-- The text of a problem begins with its label and that of its first domain. -/
theorem exists_text_eq_of_renderProblem {problem : EntityId} {text : String}
    (h : (reading.renderProblem problem).outcome = .ok text) :
    ∃ form : ProblemForm, reading.ReadsProblem problem form ∧
      ∃ rest, text = "(defproblem " ++ form.name ++ " " ++ form.domain ++ "\n" ++ rest := by
  obtain ⟨form, hform, rfl⟩ := Emission.exists_of_outcome_map h
  refine ⟨form, readsProblem hform,
    String.join (form.initialStates.map fun state => Literal.group state ++ "\n") ++
      String.join (form.goals.map (Call.textAll .method)) ++ ")\n", ?_⟩
  unfold ProblemForm.text
  simp only [String.append_assoc]

end Reading

/-! ### What is listed -/

/-- What the entry of a domain says of the unit of the domain, whatever else is in it. -/
structure DomainSummary.Foretells (domain : DomainSummary) (unit : ProgramUnit) : Prop where
  kind : unit.kind = .domain
  entity : unit.entity.number = domain.id
  rendered : ∀ text, unit.text? = some text →
    ∃ label, domain.label = some label ∧ ∃ rest, text = "(defdomain " ++ label ++ " (" ++ rest
  failed : domain.label = none → unit.error?.isSome

/-- What the entry of a problem says of the unit of the problem. -/
structure ProblemSummary.Foretells (problem : ProblemSummary) (unit : ProgramUnit) : Prop where
  kind : unit.kind = .problem
  entity : unit.entity.number = problem.id
  rendered : ∀ text, unit.text? = some text →
    (∃ label domain, problem.label = some label ∧ problem.domain = some domain ∧
      ∃ rest, text = "(defproblem " ++ label ++ " " ++ domain ++ "\n" ++ rest) ∧
    1 ≤ problem.initialStates ∧ 1 ≤ problem.goals
  failed : problem.label = none ∨ problem.domain = none ∨ problem.initialStates = 0 ∨
    problem.goals = 0 → unit.error?.isSome

/-- The entries of a summary go with the units of a program one by one: domains first, and both
kinds in the same order. -/
structure Summary.Foretells (summary : Summary) (program : Program) : Prop where
  entities : summary.domains.map (·.id) ++ summary.problems.map (·.id) =
    program.units.map (·.entity.number)
  domains : List.Forall₂ DomainSummary.Foretells summary.domains
    (program.units.filter (·.kind = .domain))
  problems : List.Forall₂ ProblemSummary.Foretells summary.problems
    (program.units.filter (·.kind = .problem))

/-- What no text can come of has failed. -/
theorem ProgramUnit.isSome_error?_of_forall_ne {unit : ProgramUnit}
    (h : ∀ text, unit.text? ≠ some text) : unit.error?.isSome := by
  unfold error?
  cases houtcome : unit.emission.outcome with
  | error error => rfl
  | ok text => exact absurd (text?_eq_some_iff.2 houtcome) (h text)

/-- A summary and a program list the same definitions in the same order. What rendered is listed
with the label, and a problem with the domain label, that its text begins with, and a problem then
has an initial state and a goal. What is listed without one of these has failed, whether or not
several targets of a relation that takes one are an error. -/
theorem summary_foretells_program (knowledge : KnowledgeBase) (settings : Settings) :
    knowledge.summary.Foretells (generate knowledge settings) where
  entities := by
    simp [KnowledgeBase.summary, generate, KnowledgeBase.jobs, DefinitionKind.entityKind, Job.run,
      Function.comp_def]
  domains := by
    rw [filter_units_generate, KnowledgeBase.summary, List.forall₂_map_left_iff,
      List.forall₂_map_right_iff]
    refine List.forall₂_same.2 fun domain _ => ?_
    have hrendered (text : String) (htext : (Job.run { kind := .domain, entity := domain }
        (settings.reading knowledge)).text? = some text) :=
      Reading.exists_text_eq_of_renderDomain (ProgramUnit.text?_eq_some_iff.1 htext)
    refine ⟨rfl, rfl, hrendered, fun hnone => ?_⟩
    apply ProgramUnit.isSome_error?_of_forall_ne
    intro text htext
    obtain ⟨label, hlabel, -⟩ := hrendered text htext
    exact Option.some_ne_none label (hlabel.symm.trans hnone)
  problems := by
    rw [filter_units_generate, KnowledgeBase.summary, List.forall₂_map_left_iff,
      List.forall₂_map_right_iff]
    refine List.forall₂_same.2 fun problem _ => ?_
    have hrendered (text : String) (htext : (Job.run { kind := .problem, entity := problem }
        (settings.reading knowledge)).text? = some text) :=
      Reading.exists_text_eq_of_renderProblem (ProgramUnit.text?_eq_some_iff.1 htext)
    refine ⟨rfl, rfl, fun text htext => ?_, fun hlacking => ?_⟩
    · obtain ⟨form, hreads, hopening⟩ := hrendered text htext
      refine ⟨⟨form.name, form.domain, hreads.name, hreads.domain, hopening⟩, ?_, ?_⟩
      · exact List.length_pos_iff.2 hreads.initialStates
      · exact List.length_pos_iff.2 hreads.goals
    · apply ProgramUnit.isSome_error?_of_forall_ne
      intro text htext
      obtain ⟨form, hreads, -⟩ := hrendered text htext
      obtain hlabel | hdomain | hstates | hgoals := hlacking
      · exact Option.some_ne_none form.name (hreads.name.symm.trans hlabel)
      · exact Option.some_ne_none form.domain (hreads.domain.symm.trans hdomain)
      · exact hreads.initialStates (List.length_eq_zero_iff.1 hstates)
      · exact hreads.goals (List.length_eq_zero_iff.1 hgoals)

end TaskNet
