import TaskNet.Proofs.IsolatedUnits
import TaskNet.Proofs.KeptTexts

/-!
# Runs that fail cleanly

A run looks at its settings and then at its document before it prints or writes anything. If either
is at fault, the fault is all that it reports, and nothing has changed. Once both are loaded, a
summary cannot fail any more, and a program is written as far as its units rendered: each unit that
failed is reported once, and has left nothing in any file.
-/

namespace TaskNet

/-! ### Texts of units -/

namespace Program

/-- The text is made of the texts of some of the units that rendered, in their order. -/
def Supplies (program : Program) (text : String) : Prop :=
  ∃ units : List ProgramUnit, units.Sublist program.units ∧ (∀ unit ∈ units, unit.text?.isSome) ∧
    text = String.join (units.filterMap (·.text?))

variable {program : Program}

theorem supplies_filter (program : Program) (keep : ProgramUnit → Bool) :
    program.Supplies (String.join ((program.units.filter keep).filterMap (·.text?))) := by
  refine ⟨(program.units.filter keep).filter (·.text?.isSome),
    List.filter_sublist.trans List.filter_sublist, fun unit hunit => (List.mem_filter.1 hunit).2,
    ?_⟩
  exact text_eq_rendered ⟨program.units.filter keep⟩

theorem supplies_textOf (program : Program) (kind : DefinitionKind) :
    program.Supplies (program.textOf kind) :=
  program.supplies_filter (·.kind = kind)

theorem isComplete_iff : program.isComplete = true ↔
    ∀ unit ∈ program.units, ∃ text, unit.emission.outcome = .ok text := by
  simp only [isComplete, List.all_eq_true, Option.isSome_iff_exists,
    ProgramUnit.text?_eq_some_iff]

theorem isComplete_eq_false_iff : program.isComplete = false ↔
    ∃ unit ∈ program.units, ∃ error, unit.emission.outcome = .error error := by
  rw [← Bool.not_eq_true, isComplete_iff]
  constructor
  · intro h
    by_contra hnone
    refine h fun unit hunit => ?_
    cases houtcome : unit.emission.outcome with
    | ok text => exact ⟨text, rfl⟩
    | error error => exact absurd ⟨unit, hunit, error, houtcome⟩ hnone
  · rintro ⟨unit, hunit, error, herror⟩ hall
    obtain ⟨text, htext⟩ := hall unit hunit
    cases herror.symm.trans htext

/-- The errors of the units that failed are all errors there are, in order. -/
theorem forall₂_failures (program : Program) :
    List.Forall₂ (fun unit error => unit.emission.outcome = .error error) program.failures
      (program.units.filterMap (·.error?)) := by
  unfold failures
  induction program.units with
  | nil => exact .nil
  | cons unit rest ih =>
    rw [List.filter_cons, List.filterMap_cons]
    unfold ProgramUnit.error? at ih ⊢
    cases houtcome : unit.emission.outcome with
    | ok text => exact ih
    | error error => exact .cons houtcome ih

theorem supplies_empty (program : Program) : program.Supplies "" :=
  ⟨[], List.nil_sublist _, nofun, String.join_nil.symm⟩

end Program

namespace CommandLine

/-- If domains come before problems, the main output is made of the texts of the units that have no
file of their own. -/
theorem Generate.supplies_mainText (options : Generate) {program : Program}
    (hunits : program.units =
      program.units.filter (·.kind = .domain) ++ program.units.filter (·.kind = .problem)) :
    program.Supplies (options.mainText program) := by
  have hkind (kind : DefinitionKind) : (program.units.filter (·.kind = kind)).filter
      (fun unit => options.ownFile unit.kind = none) =
        if options.ownFile kind = none then program.units.filter (·.kind = kind) else [] := by
    have hsame : ∀ unit ∈ program.units.filter (·.kind = kind), unit.kind = kind :=
      fun unit hunit => of_decide_eq_true (List.mem_filter.1 hunit).2
    split
    · next hnone =>
      refine List.filter_eq_self.2 fun unit hunit => ?_
      rw [hsame unit hunit, hnone]
      rfl
    · next hown =>
      refine List.filter_eq_nil_iff.2 fun unit hunit => ?_
      rw [hsame unit hunit, decide_eq_true_eq]
      exact hown
  have hjoin (condition : Prop) [Decidable condition] (units : List ProgramUnit) :
      String.join ((if condition then units else []).filterMap (·.text?)) =
        if condition then String.join (units.filterMap (·.text?)) else "" := by
    split <;> rfl
  have hmain := program.supplies_filter fun unit => options.ownFile unit.kind = none
  rw [hunits, List.filter_append, hkind, hkind, List.filterMap_append, String.join_append, hjoin,
    hjoin] at hmain
  exact hmain

/-! ### Loading -/

/-- The settings of a source as they are found in a folder. -/
def Source.settingsIn (source : Source) (folder : Folder) : Except SettingsError Settings :=
  source.config.elim (.ok {}) fun path => settingsOf path (folder.read path)

/-- A source fails at the first fault: its settings are looked at before its format, and its format
before its document. -/
inductive Source.Fails (source : Source) (adjust : Settings → Settings) (folder : Folder) :
    Failure → Prop
  | settings {error : SettingsError} (hsettings : source.settingsIn folder = .error error) :
      Fails source adjust folder (.settings error)
  | format {settings : Settings} {error : LoadError}
      (hsettings : source.settingsIn folder = .ok settings)
      (hformat : formatOf source.input source.format = .error error) :
      Fails source adjust folder (.load error)
  | document {settings : Settings} {format : Format} {error : LoadError}
      (hsettings : source.settingsIn folder = .ok settings)
      (hformat : formatOf source.input source.format = .ok format)
      (hdocument : graphOf source.input format (adjust settings) (folder.read source.input) =
        .error error) : Fails source adjust folder (.load error)

/-- A source without any fault, with its settings as they are adjusted and its knowledge graph. -/
inductive Source.Loads (source : Source) (adjust : Settings → Settings) (folder : Folder) :
    Settings → KnowledgeGraph → Prop
  | document {settings : Settings} {format : Format} {graph : KnowledgeGraph}
      (hsettings : source.settingsIn folder = .ok settings)
      (hformat : formatOf source.input source.format = .ok format)
      (hdocument : graphOf source.input format (adjust settings) (folder.read source.input) =
        .ok graph) : Loads source adjust folder (adjust settings) graph

section

variable {source : Source} {adjust : Settings → Settings} {session : Session}

theorem run_loadSettings (source : Source) (session : Session) :
    (loadSettings Session.console source).run session =
      (source.settingsIn session.folder, session) := by
  unfold loadSettings Source.settingsIn
  cases source.config with
  | none => rfl
  | some path => rfl

theorem run_loadPath (path : String) (format? : Option Format) (settings : Settings)
    (session : Session) : (loadPath Session.console path format? settings).run session =
      ((formatOf path format?).bind fun format =>
        graphOf path format settings (session.folder.read path), session) := by
  unfold loadPath
  cases formatOf path format? with
  | error error => rfl
  | ok format => rfl

/-- Once the settings are found, the document decides. -/
theorem run_loadSource {settings : Settings}
    (hsettings : source.settingsIn session.folder = .ok settings) :
    (loadSource Session.console source adjust).run session =
      ((((formatOf source.input source.format).bind fun format =>
        graphOf source.input format (adjust settings) (session.folder.read source.input)).mapError
          .load).map (adjust settings, ·), session) := by
  rw [loadSource, StateT.run_bind, run_loadSettings, hsettings]
  change StateT.run (loadPath Session.console source.input source.format (adjust settings) >>= _)
    session = _
  rw [StateT.run_bind, run_loadPath]
  cases (formatOf source.input source.format).bind fun format =>
      graphOf source.input format (adjust settings) (session.folder.read source.input) with
  | error error => rfl
  | ok graph => rfl

/-- Loading ends with the first fault. -/
theorem Source.Fails.run_loadSource {failure : Failure}
    (h : source.Fails adjust session.folder failure) :
    (loadSource Session.console source adjust).run session = (.error failure, session) := by
  cases h with
  | settings hsettings =>
    rw [loadSource, StateT.run_bind, run_loadSettings, hsettings]
    rfl
  | format hsettings hformat =>
    rw [CommandLine.run_loadSource hsettings, hformat]
    rfl
  | document hsettings hformat hdocument =>
    rw [CommandLine.run_loadSource hsettings, hformat, Except.bind, hdocument]
    rfl

/-- Without a fault, loading ends with the settings and the graph. -/
theorem Source.Loads.run_loadSource {settings : Settings} {graph : KnowledgeGraph}
    (h : source.Loads adjust session.folder settings graph) :
    (loadSource Session.console source adjust).run session =
      (.ok (settings, graph), session) := by
  cases h with
  | document hsettings hformat hdocument =>
    rw [CommandLine.run_loadSource hsettings, hformat, Except.bind, hdocument]
    rfl

/-- There is a fault or there is none. -/
theorem Source.fails_or_loads (source : Source) (adjust : Settings → Settings) (folder : Folder) :
    (∃ failure, source.Fails adjust folder failure) ∨
      ∃ settings graph, source.Loads adjust folder settings graph := by
  cases hsettings : source.settingsIn folder with
  | error error => exact .inl ⟨_, .settings hsettings⟩
  | ok settings =>
    cases hformat : formatOf source.input source.format with
    | error error => exact .inl ⟨_, .format hsettings hformat⟩
    | ok format =>
      cases hdocument : graphOf source.input format (adjust settings)
          (folder.read source.input) with
      | error error => exact .inl ⟨_, .document hsettings hformat hdocument⟩
      | ok graph => exact .inr ⟨_, _, .document hsettings hformat hdocument⟩

end

/-! ### How runs end -/

/-- What a request loads, and what its options add to the settings. -/
def Request.source? : Request → Option (Source × (Settings → Settings))
  | .generate options => some (options.toSource, options.adjust)
  | .inspect options => some (options.toSource, id)
  | .help | .version => none

/-- The codes of what has been reported. -/
def Session.codes (session : Session) : List String := session.reported.map (·.diagnostic.code)

/-- A run ends with a fault: it reports its code, and nothing else has happened. -/
structure FailsCleanly (folder : Folder) (failure : Failure) (exit : Exit) (session : Session) :
    Prop where
  exit : exit.code = 1
  printed : session.printed = ""
  folder : session.folder = folder
  codes : session.codes = [failure.diagnostic.code]

/-- Every text of a program can be written where it goes. -/
def Generate.CanWrite (options : Generate) (program : Program) (folder : Folder) : Prop :=
  ((deliver Session.console (options.deliveries program)).run { folder }).1 = true

/-- A run with a program ends well exactly if every unit rendered. It reports the units that failed,
in order and one code for each, and what it printed or wrote is made of texts of other units. -/
structure Finishes (program : Program) (folder : Folder) (exit : Exit)
    (session : Session) : Prop where
  success : exit.code = 0 ↔ ∀ unit ∈ program.units, ∃ text, unit.emission.outcome = .ok text
  failure : exit.code = 1 ↔ ∃ unit ∈ program.units, ∃ error, unit.emission.outcome = .error error
  codes : List.Forall₂ (fun unit code => ∃ error, unit.emission.outcome = .error error ∧
    code = error.diagnostic.code) program.failures session.codes
  printed : program.Supplies session.printed
  files : ∀ path, session.folder.read path = folder.read path ∨
    ∃ text, program.Supplies text ∧ session.folder.read path = .file (Text.encode text)

theorem Source.Fails.failsCleanly {folder : Folder} {request : Request} {source : Source}
    {adjust : Settings → Settings} {failure : Failure}
    (hsource : request.source? = some (source, adjust)) (h : source.Fails adjust folder failure) :
    let ended := (request.run Session.console).run { folder }
    FailsCleanly folder failure ended.1 ended.2 := by
  have hload := @Source.Fails.run_loadSource source adjust { folder } failure h
  have hended : (request.run Session.console).run { folder } =
      (.failure, { folder, reported := [failure] }) := by
    cases request with
    | generate options =>
      obtain ⟨rfl, rfl⟩ := Prod.mk.inj (Option.some.inj hsource)
      rw [Request.run, Generate.run, StateT.run_bind, hload]
      rfl
    | inspect options =>
      obtain ⟨rfl, rfl⟩ := Prod.mk.inj (Option.some.inj hsource)
      rw [Request.run, Inspect.run, StateT.run_bind, hload]
      rfl
    | help => cases hsource
    | version => cases hsource
  rw [hended]
  exact ⟨rfl, rfl, rfl, rfl⟩

/-- Once the source is loaded, what was delivered is all that is left of the program. -/
theorem Source.Loads.finishes {folder : Folder} {options : Generate} {settings : Settings}
    {graph : KnowledgeGraph}
    (h : options.toSource.Loads options.adjust folder settings graph)
    (hwritten : options.CanWrite (generate graph.base settings) folder) :
    let ended := (options.run Session.console).run { folder }
    Finishes (generate graph.base settings) folder ended.1 ended.2 := by
  intro ended
  have hload := @Source.Loads.run_loadSource options.toSource options.adjust { folder } settings
    graph h
  have hleaves := leaves_of_run (congrArg Prod.fst hload) hwritten
  have hunits := units_generate graph.base settings
  have hrun := run_generate (congrArg Prod.fst hload) hwritten
  have hexit : ended.1 = if (generate graph.base settings).isComplete then .success
      else .failure := congrArg Prod.fst hrun
  have hcodes : ended.2.codes = ((generate graph.base settings).units.filterMap (·.error?)).map
      (·.diagnostic.code) := by
    have hreported := congrArg (fun ended : Exit × Session => ended.2.reported) hrun
    simp only [reported_deliver, List.nil_append] at hreported
    rw [Session.codes, hreported, List.map_map]
    rfl
  refine ⟨?_, ?_, ?_, ?_, fun path => ?_⟩
  · rw [hexit, ← Program.isComplete_iff]
    cases (generate graph.base settings).isComplete with
    | false => exact iff_of_false nofun nofun
    | true => exact iff_of_true rfl rfl
  · rw [hexit, ← Program.isComplete_eq_false_iff]
    cases (generate graph.base settings).isComplete with
    | false => exact iff_of_true rfl rfl
    | true => exact iff_of_false nofun nofun
  · rw [hcodes, List.forall₂_map_right_iff]
    exact (Program.forall₂_failures _).imp fun unit error herror => ⟨error, herror, rfl⟩
  · rw [hleaves.printed]
    split
    · exact options.supplies_mainText hunits
    · exact Program.supplies_empty _
  · rw [hleaves.read]
    split
    · exact .inr ⟨_, options.supplies_mainText hunits, rfl⟩
    · split
      · exact .inr ⟨_, Program.supplies_textOf _ .problem, rfl⟩
      · split
        · exact .inr ⟨_, Program.supplies_textOf _ .domain, rfl⟩
        · exact .inl rfl

/-- A run that loads a source either finds a fault or loads it. With a fault it exits with one,
reports the code of the first fault, prints nothing and leaves all files as they are. A summary of
what was loaded exits with zero and leaves all files as they are. A program that can be written
exits with zero exactly if all units rendered, and with one otherwise: it reports one code for each
unit that failed, domains before problems and both in the order of their numbers, and what it
printed and wrote is made of texts of other units. -/
theorem runs_fail_cleanly {arguments : List String} {request : Request} {source : Source}
    {adjust : Settings → Settings} (hrequest : Request.parse? arguments = some request)
    (hsource : request.source? = some (source, adjust)) (folder : Folder) :
    let ended := Session.run arguments folder
    ((∃ failure, source.Fails adjust folder failure) ∨
      ∃ settings graph, source.Loads adjust folder settings graph) ∧
    (∀ failure, source.Fails adjust folder failure →
      FailsCleanly folder failure ended.1 ended.2) ∧
    ∀ settings graph, source.Loads adjust folder settings graph →
      (∀ options, request = .inspect options →
        ended.1.code = 0 ∧ ended.2.folder = folder ∧ ended.2.codes = []) ∧
      ∀ options, request = .generate options →
        let program := generate graph.base settings
        program.units = program.units.filter (·.kind = .domain) ++
          program.units.filter (·.kind = .problem) ∧ program.IsAscending ∧
        (options.CanWrite program folder → Finishes program folder ended.1 ended.2) := by
  intro ended
  have hended : ended = (request.run Session.console).run { folder } :=
    run_of_parse? hrequest folder
  refine ⟨source.fails_or_loads adjust folder, fun failure h => ?_,
    fun settings graph h => ⟨?_, ?_⟩⟩
  · rw [hended]
    exact h.failsCleanly hsource
  · rintro options rfl
    obtain ⟨rfl, rfl⟩ := Prod.mk.inj (Option.some.inj hsource)
    have hload := @Source.Loads.run_loadSource options.toSource id { folder } settings graph h
    rw [hended, Request.run, run_inspect (congrArg Prod.fst hload)]
    exact ⟨rfl, rfl, rfl⟩
  · rintro options rfl
    obtain ⟨rfl, rfl⟩ := Prod.mk.inj (Option.some.inj hsource)
    refine ⟨units_generate graph.base settings, graph.isLawful_base.isAscending settings,
      fun hwritten => ?_⟩
    rw [hended]
    exact h.finishes hwritten

/-- A folder that paths start from, with a document that describes two domains, of which one has no
label. -/
def towns : Folder :=
  { Folder.ofContents [["atlas"]] [(["home", "towns.json"], Text.encode <|
      "\x7b\"entities\": [" ++
        "\x7b\"id\": \"urn:north\", \"types\": [\"DomainDefinition\"]\x7d, " ++
        "\x7b\"id\": \"urn:south\", \"label\": \"South\", " ++
          "\"types\": [\"DomainDefinition\"]\x7d]\x7d")] with
    start := ["home"] }

/-- The domains that the document describes. -/
def townsGraph : KnowledgeGraph where
  profiles := #[{ id := .ofSlot 0, identifier := .named "urn:north", kind := .domain },
    { id := .ofSlot 1, identifier := .named "urn:south", kind := .domain, label := some "South" }]
  numbers := [(.named "urn:south", .ofSlot 1), (.named "urn:north", .ofSlot 0)]

/-- The domain with a label is written, to a folder beside the one that paths start from, although
the other one fails. Of a document in an unknown format nothing is written at all. -/
theorem towns_fail_cleanly :
    let ended := Session.run ["generate", "towns.json", "--output", "../atlas/plan.lisp"] towns
    Finishes (generate townsGraph.base {}) towns ended.1 ended.2 ∧
      ended.2.codes = ["shop::emit::missing_label"] ∧
      ended.2.folder.read "/atlas/plan.lisp" = .file (Text.encode "(defdomain South ())\n") ∧
    let failed := Session.run ["generate", "towns.owl", "--output", "../atlas/plan.lisp"] towns
    FailsCleanly towns (.load (.unsupportedFormat "towns.owl")) failed.1 failed.2 := by
  intro ended
  let options : Generate := { input := "towns.json", output := some "../atlas/plan.lisp" }
  let unknown : Generate := { input := "towns.owl", output := some "../atlas/plan.lisp" }
  have hrequest : Request.parse? ["generate", "towns.json", "--output", "../atlas/plan.lisp"] =
      some (.generate options) := by decide +kernel
  have hunknown : Request.parse? ["generate", "towns.owl", "--output", "../atlas/plan.lisp"] =
      some (.generate unknown) := by decide +kernel
  have hloads : options.toSource.Loads options.adjust towns (options.adjust {}) townsGraph :=
    @Source.Loads.document _ _ _ {} .json _ (by decide +kernel) (by decide +kernel)
      (by decide +kernel)
  have hfails : unknown.toSource.Fails unknown.adjust towns
      (.load (.unsupportedFormat "towns.owl")) :=
    @Source.Fails.format _ _ _ {} _ (by decide +kernel) (by decide +kernel)
  have hwritten : options.CanWrite (generate townsGraph.base (options.adjust {})) towns := by
    unfold Generate.CanWrite
    decide +kernel
  obtain ⟨-, -, hloaded⟩ := runs_fail_cleanly hrequest rfl towns
  obtain ⟨-, hfailed, -⟩ := runs_fail_cleanly hunknown rfl towns
  refine ⟨?_, by decide +kernel, by decide +kernel, hfailed _ hfails⟩
  exact ((hloaded _ _ hloads).2 options rfl).2.2 hwritten

end CommandLine

end TaskNet
