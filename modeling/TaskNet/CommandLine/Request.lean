import TaskNet.Format
import TaskNet.Text.Split

/-!
# Requests

What a user asks for on the command line. Options may stand before or behind the input, each at
most once, with their values behind an equals sign or as the next argument. Behind two dashes
everything is input.
-/

namespace TaskNet.CommandLine

/-- Where a knowledge base comes from. -/
structure Source where
  /-- The path of the document. -/
  input : String
  /-- The format of the document; its path tells if none is given. -/
  format : Option Format := none
  /-- The path of the settings document. -/
  config : Option String := none
deriving DecidableEq, Repr

/-- Where the texts of a program go, and how it is generated. -/
structure Generate extends Source where
  /-- The path of the main output; none is for standard output. -/
  output : Option String := none
  /-- The path of a file of its own for domains. -/
  domainOut : Option String := none
  /-- The path of a file of its own for problems. -/
  problemOut : Option String := none
  /-- Whether several targets of a relation that takes one are an error. -/
  strict : Bool := false
  /-- Whether units may be rendered at the same time. -/
  parallel : Bool := false
deriving DecidableEq, Repr

/-- How a knowledge base is summarized. -/
structure Inspect extends Source where
  /-- Whether the summary is written as JSON. -/
  json : Bool := false
deriving DecidableEq, Repr

/-- What a user asks for. -/
inductive Request where
  /-- Generate a program. -/
  | generate (options : Generate)
  /-- Summarize a knowledge base. -/
  | inspect (options : Inspect)
  /-- Explain how to ask. -/
  | help
  /-- Name the version. -/
  | version
deriving DecidableEq, Repr

/-- The options that a command knows. -/
structure Known where
  /-- Options with a value. -/
  valued : List String
  /-- Options without one. -/
  flags : List String

/-- The arguments of a command. -/
structure Arguments where
  /-- The path of the document. -/
  input : Option String := none
  /-- The options with their values. -/
  values : List (String × String) := []
  /-- The options without values. -/
  flags : List String := []

namespace Arguments

/-- The arguments with an input, which has to be the only one. -/
def addInput? (given : Arguments) (input : String) : Option Arguments :=
  if given.input = none ∧ input ≠ "" then some { given with input := some input } else none

/-- The arguments with the value of an option that has not been given before. A format has to be
known, and no path is empty. -/
def addValue? (given : Arguments) (name value : String) : Option Arguments :=
  let fits := if name = "format" then (Format.ofName? value).isSome else value ≠ ""
  if fits ∧ given.values.lookup name = none then
    some { given with values := (name, value) :: given.values }
  else none

/-- The arguments with an option that has not been given before. -/
def addFlag? (given : Arguments) (name : String) : Option Arguments :=
  if name ∈ given.flags then none else some { given with flags := name :: given.flags }

end Arguments

/-- Whether an argument cannot be the value of an option before it. -/
def isOption (argument : List Char) : Bool :=
  argument.head? = some '-' && argument.length > 1

/-- The arguments of a command behind those already read. The inner value is missing if help is
asked for. -/
def readArguments (known : Known) (given : Arguments) :
    List (List Char) → Option (Option Arguments)
  | [] => some (some given)
  | ['-', '-'] :: rest =>
    (rest.foldlM (fun (given : Arguments) input => given.addInput? (String.ofList input))
      given).map some
  | ('-' :: '-' :: long) :: rest =>
    let name := String.ofList (long.takeWhile (· ≠ '='))
    match long.dropWhile (· ≠ '=') with
    | _ :: value =>
      if name ∈ known.valued then do
        let given ← given.addValue? name (String.ofList value)
        readArguments known given rest
      else none
    | [] =>
      if name = "help" then some none
      else if name ∈ known.flags then do
        let given ← given.addFlag? name
        readArguments known given rest
      else
        match rest with
        | value :: rest =>
          if name ∈ known.valued ∧ ¬isOption value then do
            let given ← given.addValue? name (String.ofList value)
            readArguments known given rest
          else none
        | [] => none
  | ('-' :: short :: _) :: _ => if short = 'h' then some none else none
  | input :: rest => do
    let given ← given.addInput? (String.ofList input)
    readArguments known given rest

/-- The source that arguments name. -/
def Arguments.source? (given : Arguments) : Option Source :=
  given.input.map fun input =>
    { input
      format := (given.values.lookup "format").bind Format.ofName?
      config := given.values.lookup "config" }

/-- The options of the command that generates programs. -/
def generateOptions : Known where
  valued := ["format", "config", "output", "domain-out", "problem-out"]
  flags := ["strict", "parallel"]

/-- The options of the command that summarizes knowledge bases. -/
def inspectOptions : Known where
  valued := ["format", "config"]
  flags := ["json"]

/-- What a user asks for with the arguments of a command, if they are understood. -/
def Request.ofArguments? (known : Known) (make : Arguments → Source → Request)
    (arguments : List String) : Option Request :=
  match readArguments known {} (arguments.map String.toList) with
  | none => none
  | some none => some .help
  | some (some given) => given.source?.map (make given)

/-- What a user asks for, if it is understood. -/
def Request.parse? : List String → Option Request
  | "generate" :: arguments =>
    ofArguments? generateOptions (fun given source =>
      .generate
        { source with
          output := given.values.lookup "output"
          domainOut := given.values.lookup "domain-out"
          problemOut := given.values.lookup "problem-out"
          strict := "strict" ∈ given.flags
          parallel := "parallel" ∈ given.flags }) arguments
  | "inspect" :: arguments =>
    ofArguments? inspectOptions (fun given source =>
      .inspect { source with json := "json" ∈ given.flags }) arguments
  | ["help"] | ["help", "generate"] | ["help", "inspect"] | ["help", "help"] => some .help
  | argument :: _ =>
    if argument = "--help" ∨ ['-', 'h'].isPrefixOf argument.toList then some .help
    else if argument = "--version" ∨ ['-', 'V'].isPrefixOf argument.toList then some .version
    else none
  | [] => none

end TaskNet.CommandLine
