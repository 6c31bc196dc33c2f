import Mathlib.Data.List.Infix
import TaskNet.Proofs.Deliveries

/-!
# Which texts are kept

A program is written in up to three pieces: domains and problems to files of their own where there
are any, and the rest to the main output. Each piece is found whole at its destination, unless a
later piece goes to the same place. Nothing keeps two paths from leading to one place, and then the
piece that was written first is gone although the run ends well.
-/

namespace TaskNet.CommandLine

/-! ### Destinations -/

/-- The file that the texts of a kind have of their own. -/
def Generate.ownFile (options : Generate) : DefinitionKind → Option String
  | .domain => options.domainOut
  | .problem => options.problemOut

/-- Where the texts of a kind go: to a file of their own, and else to the main output. -/
def Generate.destination (options : Generate) (kind : DefinitionKind) : Option String :=
  options.ownFile kind <|> options.output

/-- The paths that are given, in the order in which they are written to. -/
def Generate.paths (options : Generate) : List String :=
  [options.domainOut, options.problemOut, options.output].filterMap id

/-- No two of the given paths lead to the same place. -/
def Generate.IsSeparate (options : Generate) (folder : Folder) : Prop :=
  options.paths.Pairwise fun path other => folder.samePlace path other = false

/-- What is found at a destination: in a file, or on standard output. -/
def Session.found (session : Session) : Option String → Found
  | some path => session.folder.read path
  | none => .file (Text.encode session.printed)

/-- A text stands in one piece at a destination. -/
def Session.Shows (session : Session) (destination : Option String) (text : String) : Prop :=
  ∃ bytes, session.found destination = .file bytes ∧ Text.encode text <:+: bytes

/-- The texts of both kinds stand in one piece where they go. -/
def Generate.LosesNothing (options : Generate) (program : Program) (session : Session) : Prop :=
  ∀ kind, session.Shows (options.destination kind) (program.textOf kind)

/-- Each destination holds its own texts and nothing else. -/
structure Generate.Keeps (options : Generate) (program : Program) (session : Session) : Prop where
  losesNothing : options.LosesNothing program session
  own : ∀ kind path, options.ownFile kind = some path →
    session.folder.read path = .file (Text.encode (program.textOf kind))
  main : session.found options.output = .file (Text.encode (options.mainText program))

/-- What is found after a run: every place has the text that was written last to it, where domains
come first and the main output comes last, or what it had before. Only the main output is printed. -/
structure Generate.Leaves (options : Generate) (program : Program) (folder : Folder)
    (session : Session) : Prop where
  read : ∀ path, session.folder.read path =
    if options.output.any (folder.samePlace path) then
      .file (Text.encode (options.mainText program))
    else if options.problemOut.any (folder.samePlace path) then
      .file (Text.encode program.problemText)
    else if options.domainOut.any (folder.samePlace path) then
      .file (Text.encode program.domainText)
    else folder.read path
  printed : session.printed = if options.output = none then options.mainText program else ""

/-! ### The deliveries of a program -/

theorem printedText_append (deliveries others : List Delivery) :
    printedText (deliveries ++ others) = printedText deliveries ++ printedText others := by
  simp [printedText]

theorem printedText_toFile (path : Option String) (text : String) :
    printedText (Delivery.toFile path text) = "" := by
  cases path with
  | none => rfl
  | some path => rfl

/-- Only the main output is printed. If nothing is, then nothing could have gone there. -/
theorem printedText_deliveries (options : Generate) (program : Program) :
    printedText (options.deliveries program) =
      if options.output = none then options.mainText program else "" := by
  simp only [Generate.deliveries, printedText_append, printedText_toFile, String.empty_append]
  cases options.output with
  | some path => rfl
  | none =>
    split
    · simp [printedText]
    · next hall =>
      simp only [ne_eq, not_true_eq_false, false_or, not_or] at hall
      simp [Generate.mainText, hall, printedText]

theorem lastText?_append (folder : Folder) (path : String) (deliveries others : List Delivery) :
    lastText? folder path (deliveries ++ others) =
      (lastText? folder path others <|> lastText? folder path deliveries) := by
  induction deliveries with
  | nil => simp [lastText?]
  | cons delivery rest ih => simp [lastText?, ih, Option.or_assoc]

theorem lastText?_toFile (folder : Folder) (path : String) (own : Option String) (text : String) :
    lastText? folder path (Delivery.toFile own text) =
      if own.any (folder.samePlace path) then some text else none := by
  cases own with
  | none => rfl
  | some own => rfl

/-- Domains are written first and the main output last. -/
theorem lastText?_deliveries (options : Generate) (program : Program) (folder : Folder)
    (path : String) :
    lastText? folder path (options.deliveries program) =
      if options.output.any (folder.samePlace path) then some (options.mainText program)
      else if options.problemOut.any (folder.samePlace path) then some program.problemText
      else if options.domainOut.any (folder.samePlace path) then some program.domainText
      else none := by
  have hmain : lastText? folder path
      (if options.output ≠ none ∨ options.domainOut = none ∨ options.problemOut = none then
        [{ path := options.output, text := options.mainText program }] else []) =
      if options.output.any (folder.samePlace path) then some (options.mainText program)
      else none := by
    cases options.output with
    | none => split <;> rfl
    | some main => rfl
  rw [Generate.deliveries, lastText?_append, lastText?_append, hmain, lastText?_toFile,
    lastText?_toFile]
  cases options.output.any (folder.samePlace path) with
  | true => rfl
  | false =>
    cases options.problemOut.any (folder.samePlace path) with
    | true => rfl
    | false => rfl

/-! ### Programs that are kept -/

theorem Generate.isSeparate_iff {options : Generate} {folder : Folder} :
    options.IsSeparate folder ↔
      (∀ path, options.domainOut = some path →
        options.problemOut.any (folder.samePlace path) = false ∧
          options.output.any (folder.samePlace path) = false) ∧
      ∀ path, options.problemOut = some path →
        options.output.any (folder.samePlace path) = false := by
  unfold Generate.IsSeparate Generate.paths
  cases options.domainOut <;> cases options.problemOut <;> cases options.output <;> simp

/-- The main output is written last, so it is never written over. -/
theorem Generate.Leaves.main {options : Generate} {program : Program} {folder : Folder}
    {session : Session} (h : options.Leaves program folder session) :
    session.found options.output = .file (Text.encode (options.mainText program)) := by
  have hprinted := h.printed
  cases houtput : options.output with
  | none =>
    rw [if_pos houtput] at hprinted
    rw [Session.found, hprinted]
  | some path =>
    rw [Session.found, h.read, houtput]
    simp

theorem Generate.Leaves.own {options : Generate} {program : Program} {folder : Folder}
    {session : Session} (h : options.Leaves program folder session)
    (hseparate : options.IsSeparate folder) (kind : DefinitionKind) (path : String)
    (hpath : options.ownFile kind = some path) :
    session.folder.read path = .file (Text.encode (program.textOf kind)) := by
  obtain ⟨hdomain, hproblem⟩ := Generate.isSeparate_iff.1 hseparate
  cases kind with
  | domain =>
    obtain ⟨hproblemOut, houtput⟩ := hdomain path hpath
    change options.domainOut = some path at hpath
    rw [h.read, houtput, hproblemOut, hpath]
    simp
    rfl
  | problem =>
    change options.problemOut = some path at hpath
    rw [h.read, hproblem path hpath, hpath]
    simp
    rfl

/-- The main output is made of the texts that have no file of their own, in one piece each. -/
theorem encode_textOf_infix_mainText {options : Generate} {kind : DefinitionKind}
    (hnone : options.ownFile kind = none) (program : Program) :
    Text.encode (program.textOf kind) <:+: Text.encode (options.mainText program) := by
  rw [Generate.mainText, Text.encode_append]
  cases kind with
  | domain =>
    change options.domainOut = none at hnone
    rw [if_pos hnone]
    exact (List.prefix_append _ _).isInfix
  | problem =>
    change options.problemOut = none at hnone
    rw [if_pos hnone]
    exact (List.suffix_append _ _).isInfix

/-- Where no two paths lead to the same place, nothing is written over. -/
theorem Generate.Leaves.keeps {options : Generate} {program : Program} {folder : Folder}
    {session : Session} (h : options.Leaves program folder session)
    (hseparate : options.IsSeparate folder) : options.Keeps program session where
  own := h.own hseparate
  main := h.main
  losesNothing kind := by
    cases hown : options.ownFile kind with
    | some path =>
      refine ⟨_, ?_, List.infix_rfl⟩
      rw [Generate.destination, hown]
      exact h.own hseparate kind path hown
    | none =>
      refine ⟨_, ?_, encode_textOf_infix_mainText hown program⟩
      rw [Generate.destination, hown]
      exact h.main

/-- A run leaves behind what was written last. -/
theorem leaves_of_run {folder : Folder} {options : Generate} {settings : Settings}
    {graph : KnowledgeGraph}
    (hload : ((loadSource Session.console options.toSource options.adjust).run { folder }).1 =
      .ok (settings, graph))
    (hwritten : ((deliver Session.console (options.deliveries (generate graph.base settings))).run
      { folder }).1 = true) :
    options.Leaves (generate graph.base settings) folder
      ((options.run Session.console).run { folder }).2 := by
  have hdelivers := delivers_of_run hwritten
  rw [run_generate hload hwritten]
  constructor
  · intro path
    rw [hdelivers.read, lastText?_deliveries]
    split
    · rfl
    · split
      · rfl
      · split <;> rfl
  · rw [hdelivers.printed, printedText_deliveries, String.empty_append]

/-- A run leaves behind what was written last, and loses nothing if no two paths lead to the same
place. -/
theorem generate_leaves_last_texts {arguments : List String} {folder : Folder}
    {options : Generate} {settings : Settings} {graph : KnowledgeGraph}
    (hrequest : Request.parse? arguments = some (.generate options))
    (hload : ((loadSource Session.console options.toSource options.adjust).run { folder }).1 =
      .ok (settings, graph))
    (hwritten : ((deliver Session.console (options.deliveries (generate graph.base settings))).run
      { folder }).1 = true) :
    let program := generate graph.base settings
    let session := (Session.run arguments folder).2
    options.Leaves program folder session ∧
      (options.IsSeparate folder → options.Keeps program session) := by
  intro program session
  have hleaves : options.Leaves program folder session := by
    simp only [session, run_of_parse? hrequest folder]
    exact leaves_of_run hload hwritten
  exact ⟨hleaves, hleaves.keeps⟩

/-- A folder with a document that describes one domain, and nothing else anywhere. Paths start from
this folder. -/
def roads : Folder :=
  { Folder.ofContents [] [(["home", "roads.json"], Text.encode <|
      "\x7b\"entities\": [\x7b\"id\": \"urn:road\", \"label\": \"Road\", " ++
        "\"types\": [\"DomainDefinition\"]\x7d]\x7d")] with
    start := ["home"] }

/-- The domain that the document describes. -/
def roadsGraph : KnowledgeGraph where
  profiles :=
    #[{ id := .ofSlot 0, identifier := .named "urn:road", kind := .domain, label := some "Road" }]
  numbers := [(.named "urn:road", .ofSlot 0)]

/-- With a file for each kind nothing is lost. The file of the problems is written by way of the
root, and read at another path to the same place. -/
theorem roads_text_is_kept :
    let options : Generate :=
      { input := "roads.json", domainOut := some "plan.lisp",
        problemOut := some "../home/errands.lisp" }
    let session := (Session.run ["generate", "roads.json", "--domain-out", "plan.lisp",
      "--problem-out", "../home/errands.lisp"] roads).2
    options.Keeps (generate roadsGraph.base {}) session ∧
      session.folder.read "/home/errands.lisp" = .file [] := by
  intro options session
  obtain ⟨hleaves, hkeeps⟩ := @generate_leaves_last_texts
    ["generate", "roads.json", "--domain-out", "plan.lisp", "--problem-out", "../home/errands.lisp"]
    roads options {} roadsGraph (by decide +kernel) (by decide +kernel) (by decide +kernel)
  have hseparate : options.IsSeparate roads := by
    refine List.pairwise_pair.2 ?_
    decide +kernel
  refine ⟨hkeeps hseparate, (hleaves.read "/home/errands.lisp").trans ?_⟩
  decide +kernel

/-- If both kinds go to the same file, the run ends well and the domain is gone. -/
theorem roads_text_is_lost :
    ∃ options : Generate,
      Request.parse? ["generate", "roads.json", "--domain-out", "plan.lisp", "--problem-out",
        "plan.lisp"] = some (.generate options) ∧
      ((loadSource Session.console options.toSource options.adjust).run { folder := roads }).1 =
        .ok ({}, roadsGraph) ∧
      ((deliver Session.console (options.deliveries (generate roadsGraph.base {}))).run
        { folder := roads }).1 = true ∧
      (generate roadsGraph.base {}).domainText = "(defdomain Road ())\n" ∧
      ¬options.LosesNothing (generate roadsGraph.base {})
        (Session.run ["generate", "roads.json", "--domain-out", "plan.lisp", "--problem-out",
          "plan.lisp"] roads).2 := by
  refine ⟨{ input := "roads.json", domainOut := some "plan.lisp", problemOut := some "plan.lisp" },
    by decide +kernel, by decide +kernel, by decide +kernel, by decide +kernel, fun h => ?_⟩
  obtain ⟨bytes, hfound, hinfix⟩ := h .domain
  have hempty : (Session.run ["generate", "roads.json", "--domain-out", "plan.lisp",
      "--problem-out", "plan.lisp"] roads).2.found (some "plan.lisp") = .file [] := by
    decide +kernel
  obtain rfl : [] = bytes := Found.file.inj (hempty.symm.trans hfound)
  have htext : Text.encode ((generate roadsGraph.base {}).textOf .domain) ≠ [] := by
    decide +kernel
  exact htext (List.infix_nil.1 hinfix)

end TaskNet.CommandLine
