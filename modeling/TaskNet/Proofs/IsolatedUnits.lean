import TaskNet.Knowledge.Graph
import TaskNet.Proofs.ConcurrentJobs
import TaskNet.Proofs.Isomorphism

/-!
# Units that do not affect each other

The units of a program are the definitions of a knowledge base, and each is what its definition
renders on its own, whether the jobs run one after the other or at the same time. The views of a
program go over the units with different filters: they agree because domains come before problems
and because a unit either has a text or an error.
-/

namespace TaskNet

/-! ### Views -/

namespace Program

/-- Why the first unit that failed did not render. -/
def firstError? (program : Program) : Option EmitError :=
  program.failures.head?.bind (·.error?)

/-- The views of a program tell the same of it: what became of its units. -/
structure ViewsAgree (program : Program) : Prop where
  /-- The text is made of the texts of the units that rendered. -/
  text : program.text = String.join (program.units.filterMap (·.emission.outcome.toOption))
  domainText : program.domainText =
    String.join ((program.units.filter (·.kind = .domain)).filterMap (·.emission.outcome.toOption))
  problemText : program.problemText =
    String.join ((program.units.filter (·.kind = .problem)).filterMap (·.emission.outcome.toOption))
  /-- Domains come before problems. -/
  ordered : program.text = program.domainText ++ program.problemText
  /-- What failed might as well be left out. -/
  rendered : program.text = Program.text ⟨program.units.filter (·.text?.isSome)⟩
  failures : program.failures = program.units.filter fun unit => !unit.emission.outcome.isOk
  isComplete : program.failures = [] ↔ program.isComplete = true
  /-- There is a whole text exactly if every unit rendered, and then it is the text. -/
  complete : ∀ text, program.completeText = .ok text ↔
    program.isComplete = true ∧ text = program.text
  /-- Otherwise the first unit that failed says why there is none. -/
  incomplete : ∀ error, program.completeText = .error error ↔
    ∃ before unit after, program.units = before ++ unit :: after ∧
      (∀ earlier ∈ before, earlier.emission.outcome.isOk = true) ∧
      unit.emission.outcome = .error error

theorem failures_eq_nil_iff (program : Program) :
    program.failures = [] ↔ program.isComplete = true := by
  rw [failures, isComplete, List.filter_eq_nil_iff, List.all_eq_true]
  simp only [ProgramUnit.isSome_error?, ProgramUnit.isSome_text?, Bool.not_eq_true',
    Bool.not_eq_false]

theorem firstError?_eq_none_iff (program : Program) :
    program.firstError? = none ↔ program.failures = [] := by
  unfold firstError?
  cases hfailures : program.failures with
  | nil => exact iff_of_true rfl rfl
  | cons unit rest =>
    have hunit : unit ∈ program.failures := hfailures ▸ List.mem_cons_self
    obtain ⟨error, herror⟩ := Option.isSome_iff_exists.1 (List.mem_filter.1 hunit).2
    rw [List.head?_cons, Option.bind_some, herror]
    exact iff_of_false nofun nofun

/-- The first error is the one of a unit that has only units that rendered before it. -/
theorem firstError?_eq_some_iff {program : Program} {error : EmitError} :
    program.firstError? = some error ↔
      ∃ before unit after, program.units = before ++ unit :: after ∧
        (∀ earlier ∈ before, earlier.emission.outcome.isOk = true) ∧
        unit.emission.outcome = .error error := by
  simp only [firstError?, failures, List.head?_filter, Option.bind_eq_some_iff,
    List.find?_eq_some_iff_append, ProgramUnit.isSome_error?, Bool.not_not,
    ProgramUnit.error?_eq_some_iff]
  constructor
  · rintro ⟨unit, ⟨-, before, after, hunits, hbefore⟩, herror⟩
    exact ⟨before, unit, after, hunits, hbefore, herror⟩
  · rintro ⟨before, unit, after, hunits, hbefore, herror⟩
    refine ⟨unit, ⟨?_, before, after, hunits, hbefore⟩, herror⟩
    rw [herror]
    rfl

theorem firstError?_cons (unit : ProgramUnit) (rest : List ProgramUnit) :
    firstError? ⟨unit :: rest⟩ = unit.error?.or (firstError? ⟨rest⟩) := by
  unfold firstError? failures
  rw [List.filter_cons]
  cases herror : unit.error? with
  | none => rfl
  | some error =>
    rw [Option.isSome_some, if_pos rfl, List.head?_cons, Option.bind_some, herror, Option.some_or]

/-- The first failure stops the whole text; what comes behind it makes no difference. -/
theorem completeText_eq_elim (program : Program) :
    program.completeText = program.firstError?.elim (.ok program.text) .error := by
  have hmapM (units : List ProgramUnit) :
      (units.mapM fun unit : ProgramUnit => unit.emission.outcome) =
        (firstError? ⟨units⟩).elim (.ok (units.filterMap (·.text?))) .error := by
    induction units with
    | nil => rfl
    | cons unit rest ih =>
      rw [List.mapM_cons, ih, firstError?_cons, List.filterMap_cons]
      unfold ProgramUnit.error? ProgramUnit.text?
      cases unit.emission.outcome with
      | error error => rfl
      | ok text =>
        cases firstError? ⟨rest⟩ with
        | none => rfl
        | some error => rfl
  rw [completeText, hmapM]
  cases program.firstError? with
  | none => rfl
  | some error => rfl

/-- Units that failed have no part in the text. -/
theorem text_eq_rendered (program : Program) :
    program.text = Program.text ⟨program.units.filter (·.text?.isSome)⟩ := by
  rw [Program.text, Program.text, List.filterMap_filter]
  refine congrArg String.join (List.filterMap_congr fun unit _ => ?_)
  cases unit.text? with
  | none => rfl
  | some text => rfl

/-- The views agree as soon as domains come before problems. -/
theorem viewsAgree {program : Program} (hunits : program.units =
    program.units.filter (·.kind = .domain) ++ program.units.filter (·.kind = .problem)) :
    program.ViewsAgree where
  text := rfl
  domainText := rfl
  problemText := rfl
  ordered := by
    rw [domainText, problemText, textOf, textOf, ← String.join_append, ← List.filterMap_append,
      ← hunits, Program.text]
  rendered := program.text_eq_rendered
  failures := List.filter_congr fun unit _ => unit.isSome_error?
  isComplete := program.failures_eq_nil_iff
  complete text := by
    rw [completeText_eq_elim, ← failures_eq_nil_iff, ← firstError?_eq_none_iff]
    cases program.firstError? with
    | none => simp [eq_comm]
    | some error => simp
  incomplete error := by
    rw [completeText_eq_elim, ← firstError?_eq_some_iff]
    cases program.firstError? with
    | none => simp
    | some error => simp

/-- No definition has two units, and the units of each kind come in the order of the numbers of
their definitions. -/
structure IsAscending (program : Program) : Prop where
  ordered : ∀ kind, ((program.units.filter (·.kind = kind)).map (·.entity)).Pairwise
    (·.number < ·.number)
  nodup : (program.units.map (·.entity)).Nodup

end Program

/-! ### Generation -/

namespace KnowledgeBase

/-- What knowledge bases have to keep to: entities are listed in the order of their numbers, and
each under one kind. -/
structure IsLawful (knowledge : KnowledgeBase) : Prop where
  ordered : knowledge.IsOrdered
  kind : ∀ entity kind kind', entity ∈ knowledge.entitiesOfKind kind →
    entity ∈ knowledge.entitiesOfKind kind' → kind = kind'

/-- What may come of rendering a knowledge base, with the warnings in the order in which they are
given: the jobs run one after the other, or at the same time in any order. -/
inductive Generates (knowledge : KnowledgeBase) (settings : Settings) :
    Program → List Warning → Prop
  | inTurn (hturn : settings.parallel = false) :
      Generates knowledge settings (generate knowledge settings)
        (generate knowledge settings).warnings
  | atOnce (hparallel : settings.parallel = true) {shop : Workshop} {units : List ProgramUnit}
      (hrun : Workshop.Run (settings.reading knowledge)
        (.start (settings.reading knowledge) knowledge.jobs) shop)
      (hunits : shop.Collects units) : Generates knowledge settings ⟨units⟩ shop.log

variable {knowledge : KnowledgeBase} {settings : Settings} {program : Program}
  {warnings : List Warning}

/-- The order of the jobs makes no difference but to the order of the warnings. -/
theorem Generates.eq_generate (h : knowledge.Generates settings program warnings) :
    program = generate knowledge settings ∧
      warnings.Perm (generate knowledge settings).warnings := by
  cases h with
  | inTurn hturn => exact ⟨rfl, .refl _⟩
  | atOnce hparallel hrun hunits =>
    have hrenders := (Workshop.renders_start _ knowledge.jobs).run hrun
    obtain ⟨rfl, -⟩ := hrenders.collects_iff.1 hunits
    refine ⟨rfl, (hrenders.log_perm hunits).trans (.of_eq ?_)⟩
    rw [Program.warnings, Program.warningsIn, generate, List.flatMap_map]

/-- There is always a program. -/
theorem exists_generates (knowledge : KnowledgeBase) (settings : Settings) :
    ∃ program warnings, knowledge.Generates settings program warnings := by
  cases hparallel : settings.parallel with
  | false => exact ⟨_, _, .inTurn hparallel⟩
  | true =>
    have hstart := Workshop.renders_start (settings.reading knowledge) knowledge.jobs
    obtain ⟨shop, hrun, hunits⟩ := hstart.exists_collects
    exact ⟨_, _, .atOnce hparallel hrun hunits⟩

theorem IsLawful.isAscending (h : knowledge.IsLawful) (settings : Settings) :
    (generate knowledge settings).IsAscending := by
  have hentities (kind : DefinitionKind) :
      ((generate knowledge settings).units.filter (·.kind = kind)).map (·.entity) =
        knowledge.entitiesOfKind kind.entityKind := by
    rw [filter_units_generate, List.map_map]
    exact List.map_id _
  have hnodup (kind : EntityKind) : (knowledge.entitiesOfKind kind).Nodup := by
    refine (h.ordered kind).imp fun hlt hsame => ?_
    rw [hsame] at hlt
    exact Nat.lt_irrefl _ hlt
  refine ⟨fun kind => ?_, ?_⟩
  · rw [hentities]
    exact h.ordered kind.entityKind
  · rw [units_generate, List.map_append, hentities, hentities, List.nodup_append]
    refine ⟨hnodup _, hnodup _, fun domain hdomain problem hproblem hsame => ?_⟩
    cases h.kind domain _ _ hdomain (hsame ▸ hproblem)

end KnowledgeBase

/-- Knowledge graphs keep to what knowledge bases have to. -/
theorem KnowledgeGraph.isLawful_base (graph : KnowledgeGraph) : graph.base.IsLawful where
  ordered := graph.isOrdered_base
  kind entity kind kind' hkind hkind' := by
    rw [entitiesOfKind_base, List.mem_filter, decide_eq_true_eq] at hkind hkind'
    exact hkind.2.symm.trans hkind'.2

/-- Rendering a knowledge base always yields a program, and the jobs may run in any order. The units
are the definitions of both kinds, domains first, each as it is rendered on its own, so no unit
changes another one. If the knowledge base lists its entities as it has to, as every knowledge graph
does, no definition has two units and both kinds come in the order of their numbers. The views of
the program tell what became of its units, and the same warnings are given, though their order may
differ. -/
theorem generation_isolates_units (settings : Settings) :
    (∀ graph : KnowledgeGraph, graph.base.IsLawful) ∧
    ∀ knowledge : KnowledgeBase,
      (∃ program warnings, knowledge.Generates settings program warnings) ∧
      ∀ program warnings, knowledge.Generates settings program warnings →
        program.units = [DefinitionKind.domain, .problem].flatMap (fun kind =>
          (knowledge.entitiesOfKind kind.entityKind).map fun entity =>
            { kind, entity, emission := kind.render ⟨knowledge, settings.strictAmbiguity⟩ entity }) ∧
        (knowledge.IsLawful → program.IsAscending) ∧
        program.ViewsAgree ∧
        warnings.Perm program.warnings := by
  refine ⟨KnowledgeGraph.isLawful_base, fun knowledge => ⟨knowledge.exists_generates settings,
    fun program warnings h => ?_⟩⟩
  obtain ⟨rfl, hwarnings⟩ := h.eq_generate
  refine ⟨?_, fun hlawful => hlawful.isAscending settings,
    Program.viewsAgree (units_generate knowledge settings), hwarnings⟩
  rw [generate, KnowledgeBase.jobs, List.map_flatMap]
  simp only [List.map_map]
  rfl

/-- Two domains, each with a method that has no flows, and a problem that has no label. -/
def twoRoads : KnowledgeBase where
  entitiesOfKind
    | .domain => [.ofSlot 0, .ofSlot 2]
    | .problem => [.ofSlot 1]
    | .other => []
  related entity relation :=
    match entity.slot, relation with
    | 0, .hasMethod => [.ofSlot 3]
    | 2, .hasMethod => [.ofSlot 4]
    | _, _ => []
  label entity :=
    match entity.slot with
    | 0 => some "north"
    | 2 => some "south"
    | 3 => some "walk"
    | 4 => some "ride"
    | _ => none
  comment _ := none
  iri _ := none

theorem twoRoads_isLawful : twoRoads.IsLawful where
  ordered kind := by cases kind <;> decide
  kind entity kind kind' hkind hkind' := by
    cases kind <;> cases kind' <;> simp_all [twoRoads, EntityId.ofSlot]

/-- If the problem fails first and the second domain gives its warning before the first one, then
the units are still in the order of the jobs. -/
theorem twoRoads_generates : twoRoads.Generates { parallel := true }
    (generate twoRoads {}) [.noFlows "ent:5", .noFlows "ent:4"] := by
  let reading : Reading := Settings.reading { parallel := true } twoRoads
  let finished (job : Job) : Worker := ⟨job, [], some (job.run reading)⟩
  let north : Job := ⟨.domain, .ofSlot 0⟩
  let south : Job := ⟨.domain, .ofSlot 2⟩
  let errand : Job := ⟨.problem, .ofSlot 1⟩
  have hstart : Workshop.start reading twoRoads.jobs =
      ⟨[⟨north, [.noFlows "ent:4"], none⟩, ⟨south, [.noFlows "ent:5"], none⟩,
        ⟨errand, [], none⟩], []⟩ := by
    rfl
  have hrun : Workshop.Run reading (.start reading twoRoads.jobs)
      ⟨[finished north, finished south, finished errand],
        [.noFlows "ent:5", .noFlows "ent:4"]⟩ := by
    rw [hstart]
    refine .head (.finish [_, _] [] errand []) <| .head (.warn [_] [_] south _ [] []) <|
      .head (.warn [] [_, _] north _ [] [_]) <| .head (.finish [] [_, _] north [_, _]) <|
      .single (.finish [_] [_] south [_, _])
  exact @KnowledgeBase.Generates.atOnce twoRoads { parallel := true } rfl _ _ hrun rfl

/-- Whatever the order in which the jobs run, the problem alone fails and takes nothing away. -/
theorem twoRoads_units : ∃ program : Program,
    twoRoads.Generates { parallel := true } program [.noFlows "ent:5", .noFlows "ent:4"] ∧
      program.warnings = [.noFlows "ent:4", .noFlows "ent:5"] ∧
      program.IsAscending ∧ program.ViewsAgree ∧
      program.text = "(defdomain north ())\n(defdomain south ())\n" ∧
      program.completeText = .error (.missingLabel "ent:2") := by
  obtain ⟨-, hascending, hviews, -⟩ :=
    ((generation_isolates_units { parallel := true }).2 twoRoads).2 _ _ twoRoads_generates
  refine ⟨_, twoRoads_generates, ?_, hascending twoRoads_isLawful, hviews, ?_, ?_⟩
  · decide +kernel
  · decide +kernel
  · decide +kernel

end TaskNet
