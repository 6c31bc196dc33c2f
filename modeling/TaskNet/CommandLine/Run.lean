import TaskNet.Codec
import TaskNet.CommandLine.Request
import TaskNet.Folder
import TaskNet.Generation
import TaskNet.Json.Writer
import TaskNet.Load
import TaskNet.Settings.Document

/-!
# Running the command line

What is done for a request is stated over a `Console`, the few operations through which a run sees
and changes the world. A run on a folder that is a value is a `Session`.
-/

namespace TaskNet.CommandLine

/-- What a run may do. -/
structure Console (m : Type → Type) where
  /-- Looks at the end of a path. -/
  read : String → m Found
  /-- Writes a text to a file, and tells whether that was possible. -/
  write : String → String → m Bool
  /-- Writes a text to standard output. -/
  print : String → m Unit
  /-- Reports what went wrong. -/
  report : Failure → m Unit

/-- How a run ends. -/
inductive Exit where
  /-- Everything was done. -/
  | success
  /-- Something went wrong. -/
  | failure
  /-- The request was not understood. -/
  | usage
deriving DecidableEq, Repr

/-- The number that tells how a run ended. -/
def Exit.code : Exit → UInt32
  | success => 0
  | failure => 1
  | usage => 2

/-- Settings as they are found at a path. -/
def settingsOf (path : String) : Found → Except SettingsError Settings
  | .nothing => .error (.unreadable path "there is no such file")
  | .folder => .error (.unreadable path "it is a folder")
  | .file bytes =>
    match Text.decodeAll? bytes with
    | some text => Settings.parse (String.ofList text)
    | none => .error (.unreadable path "it is not text")

/-- The knowledge graph that is found at a path in a format. Of a folder no document can be read. -/
def graphOf (path : String) (format : Format) (settings : Settings) :
    Found → Except LoadError KnowledgeGraph
  | .nothing => .error (.unreadable path "there is no such file")
  | .folder =>
    .error (if format = .json then .invalidJson "it is a folder" else .invalidRdf "it is a folder")
  | .file bytes => (format.load settings bytes).map (·.graph)

/-- The format of a document, given or told by its path. -/
def formatOf (path : String) (format : Option Format) : Except LoadError Format :=
  match format <|> Format.ofPath? path with
  | some format => .ok format
  | none => .error (.unsupportedFormat path)

/-- A text and where it goes: to a file, or to standard output. -/
structure Delivery where
  /-- The path of the file. -/
  path : Option String
  /-- The text. -/
  text : String
deriving DecidableEq, Repr

/-- The delivery of a text to a file of its own, if there is one. -/
def Delivery.toFile (path : Option String) (text : String) : List Delivery :=
  (path.map fun path => ({ path := some path, text } : Delivery)).toList

/-- The text of the main output: whatever has no file of its own, domains before problems. -/
def Generate.mainText (options : Generate) (program : Program) : String :=
  (if options.domainOut = none then program.domainText else "") ++
    (if options.problemOut = none then program.problemText else "")

/-- Where the texts of a program go, in the order in which they are written. The main output is left
alone only if it is standard output and nothing can go there. -/
def Generate.deliveries (options : Generate) (program : Program) : List Delivery :=
  Delivery.toFile options.domainOut program.domainText ++
    Delivery.toFile options.problemOut program.problemText ++
      if options.output ≠ none ∨ options.domainOut = none ∨ options.problemOut = none then
        [{ path := options.output, text := options.mainText program }]
      else []

/-- Settings with what the options add to them. -/
def Generate.adjust (options : Generate) (settings : Settings) : Settings :=
  { settings with
    strictAmbiguity := settings.strictAmbiguity || options.strict
    parallel := settings.parallel || options.parallel }

/-- What is printed of a summary. -/
def Inspect.listing (options : Inspect) (summary : Summary) : String :=
  if options.json then summary.toJson.prettyText ++ "\n"
  else if summary.domains = [] ∧ summary.problems = [] then
    "No domain or problem definitions found.\n"
  else summary.text

section Run

variable {m : Type → Type} [Monad m] (console : Console m)

/-- The settings of a source. -/
def loadSettings (source : Source) : m (Except SettingsError Settings) :=
  match source.config with
  | none => return .ok {}
  | some path => return settingsOf path (← console.read path)

/-- The knowledge graph at a path. The format has to be known before the file is looked at. -/
def loadPath (path : String) (format : Option Format) (settings : Settings) :
    m (Except LoadError KnowledgeGraph) :=
  match formatOf path format with
  | .error error => return .error error
  | .ok format => return graphOf path format settings (← console.read path)

/-- The settings and the knowledge graph of a source. The settings come first. -/
def loadSource (source : Source) (adjust : Settings → Settings) :
    m (Except Failure (Settings × KnowledgeGraph)) := do
  match ← loadSettings console source with
  | .error error => return .error (.settings error)
  | .ok settings =>
    let settings := adjust settings
    match ← loadPath console source.input source.format settings with
    | .error error => return .error (.load error)
    | .ok graph => return .ok (settings, graph)

/-- Writes texts where they go, one after the other, as long as that is possible. -/
def deliver : List Delivery → m Bool
  | [] => return true
  | { path, text } :: rest => do
    match path with
    | none =>
      console.print text
      deliver rest
    | some path => if ← console.write path text then deliver rest else return false

/-- Generates a program. -/
def Generate.run (options : Generate) : m Exit := do
  match ← loadSource console options.toSource options.adjust with
  | .error failure =>
    console.report failure
    return .failure
  | .ok (settings, graph) =>
    let program := generate graph.base settings
    if ← deliver console (options.deliveries program) then
      (program.units.filterMap (·.error?)).forM fun error => console.report (.emit error)
      return if program.isComplete then .success else .failure
    else return .failure

/-- Summarizes a knowledge base. -/
def Inspect.run (options : Inspect) : m Exit := do
  match ← loadSource console options.toSource id with
  | .error failure =>
    console.report failure
    return .failure
  | .ok (_, graph) =>
    console.print (options.listing graph.base.summary)
    return .success

/-- How to ask. -/
def helpText : String :=
  "Generate SHOP domains and problems from a planning ontology\n\n" ++
    "Usage: tasknet <COMMAND>\n\nCommands:\n" ++
    "  generate  Render every domain and problem definition as SHOP text\n" ++
    "  inspect   List the domain and problem definitions of a knowledge base\n" ++
    "  help      Print this message or the help of the given subcommand(s)\n"

/-- The name of the version. -/
def versionText : String := "tasknet 0.3.1\n"

/-- Does what a request asks for. -/
def Request.run : Request → m Exit
  | .generate options => options.run console
  | .inspect options => options.run console
  | .help => do
    console.print helpText
    return .success
  | .version => do
    console.print versionText
    return .success

/-- Does what arguments ask for, if they are understood. -/
def run (arguments : List String) : m Exit :=
  match Request.parse? arguments with
  | some request => request.run console
  | none => return .usage

end Run

/-! ### Runs on a folder that is a value -/

/-- What a run sees and leaves behind. -/
structure Session where
  /-- What there is to read and to write over, and where paths start. -/
  folder : Folder
  /-- What has been written to standard output. -/
  printed : String := ""
  /-- What has been reported. -/
  reported : List Failure := []

namespace Session

/-- The operations of a run on a folder that is a value. -/
def console : Console (StateM Session) where
  read path := return (← get).folder.read path
  write path text := do
    let session ← get
    match session.folder.write? path text with
    | some folder =>
      set { session with folder }
      return true
    | none => return false
  print text := modify fun session => { session with printed := session.printed ++ text }
  report failure := modify fun session => { session with reported := session.reported ++ [failure] }

/-- How a run on a folder ends, and what it leaves behind. -/
def run (arguments : List String) (folder : Folder) : Exit × Session :=
  (CommandLine.run console arguments).run { folder }

end Session

end TaskNet.CommandLine
