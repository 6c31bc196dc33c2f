import TaskNet.Emission

/-!
# Failures and their messages

Everything that can go wrong, with the message, the code and the advice that are shown for it. A
failure may have another message behind it: the fault of a comment, or the reason why a file
cannot be read.
-/

namespace TaskNet

/-- Why a knowledge base cannot be loaded. -/
inductive LoadError where
  /-- The file cannot be read. -/
  | unreadable (path : String) (reason : String)
  /-- The document is not valid in its linked data syntax. -/
  | invalidRdf (detail : String)
  /-- The document is not a valid knowledge base in JSON. -/
  | invalidJson (detail : String)
  /-- A record uses a relation outside the vocabulary. -/
  | unknownRelation (entity : String) (name : String)
  /-- There is no format of this name, or for the extension of this path. -/
  | unsupportedFormat (name : String)
deriving DecidableEq, Repr

/-- Why settings cannot be loaded. -/
inductive SettingsError where
  /-- The file cannot be read. -/
  | unreadable (path : String) (reason : String)
  /-- The text is no valid settings document. -/
  | invalid (detail : String)
deriving DecidableEq, Repr

/-- Anything that can go wrong. -/
inductive Failure where
  | load (error : LoadError)
  | emit (error : EmitError)
  | settings (error : SettingsError)
deriving DecidableEq, Repr

/-- What is shown for a failure. -/
structure Diagnostic where
  /-- What went wrong. -/
  message : String
  /-- The code of this kind of failure. -/
  code : String
  /-- What can be done about it. -/
  help : String
  /-- The message of the failure behind this one. -/
  source : Option String := none
deriving DecidableEq, Repr

/-- What is shown for the fault of a comment. -/
def CommentFault.diagnostic : CommentFault → Diagnostic
  | .absent =>
    { message := "entity has no comment"
      code := "shop::comment::missing"
      help := "Add an rdfs:comment such as \"Parameters: [x;y]\"." }
  | .noList kind =>
    { message := "comment has no \"" ++ kind.name ++ ": [\" list"
      code := "shop::comment::missing_tag"
      help := "The comment must contain \"" ++ kind.name ++
        ": [\" followed by the list and a closing \"]\"." }
  | .notClosed kind =>
    { message := "\"" ++ kind.name ++ ": [\" list is not closed"
      code := "shop::comment::unterminated"
      help := "Add the closing \"]\" after the last " ++ kind.name ++ " entry." }
  | .unknownMode mode =>
    { message := "unknown argument mode \"" ++ mode ++ "\""
      code := "shop::comment::unknown_mode"
      help := "A specialization's comment must start with \"Parameters:\", " ++
        "\"Objects:\" or \"Mixed:\"." }

/-- What is shown when a form cannot be read. -/
def EmitError.diagnostic : EmitError → Diagnostic
  | .missingLabel entity =>
    { message := "entity \"" ++ entity ++ "\" has no label"
      code := "shop::emit::missing_label"
      help := "Every emitted entity needs an rdfs:label; its label becomes the SHOP name." }
  | .malformedComment entity fault =>
    { message := "malformed comment on entity \"" ++ entity ++ "\""
      code := "shop::emit::malformed_comment"
      help := "Entities with parameters or objects must list them in their rdfs:comment, " ++
        "e.g. \"Parameters: [truck;pkg]\", \"Objects: [t1;p1]\" or \"Mixed: [?x;home]\"."
      source := some fault.diagnostic.message }
  | .ambiguous entity relation count =>
    { message := "entity \"" ++ entity ++ "\" asserts " ++ toString count ++ " " ++
        relation.name ++ " targets, expected one"
      code := "shop::emit::ambiguous"
      help := "Only the first asserted target is honoured. Remove the extra assertions, " ++
        "or disable `strict_ambiguity` to accept the first one with a warning." }
  | .missingRelation entity relation =>
    { message := "entity \"" ++ entity ++ "\" has no " ++ relation.name ++ " assertion"
      code := "shop::emit::missing_relation"
      help := "A problem definition needs a domain, an initial state and a goal." }

/-- What is shown when a knowledge base cannot be loaded. -/
def LoadError.diagnostic : LoadError → Diagnostic
  | .unreadable path reason =>
    { message := "failed to read knowledge base: " ++ path
      code := "shop::load::io"
      help := "Check that the file exists and is readable."
      source := some reason }
  | .invalidRdf detail =>
    { message := "RDF parse error: " ++ detail
      code := "shop::load::rdf"
      help := "The document is not valid in the selected RDF syntax. " ++
        "Pass `--format` explicitly if the file extension is misleading. " ++
        "OWL/XML documents are not RDF and must be converted to RDF/XML or Turtle first." }
  | .invalidJson detail =>
    { message := "JSON snapshot error: " ++ detail
      code := "shop::load::json"
      help := "A JSON snapshot is an object with an `entities` array; each entity " ++
        "needs an `id` and may carry `label`, `comment`, `types` and `relations`." }
  | .unknownRelation entity name =>
    { message := "unknown relation \"" ++ name ++ "\" on entity \"" ++ entity ++ "\""
      code := "shop::load::unknown_relation"
      help := "JSON snapshots may only use the planning vocabulary, e.g. " ++
        "hasMethod, hasFlow, mfHasPrecondition, prSpecializationOf, negativeOf." }
  | .unsupportedFormat name =>
    { message := "unsupported input format: \"" ++ name ++ "\""
      code := "shop::load::unsupported_format"
      help := "Supported formats: turtle, ntriples, rdfxml, nquads, trig, json. " ++
        "`.owl` files are not guessed: convert OWL/XML to RDF/XML or Turtle first, " ++
        "or pass `--format rdfxml` if the file already is RDF/XML." }

/-- What is shown when settings cannot be loaded. -/
def SettingsError.diagnostic : SettingsError → Diagnostic
  | .unreadable path reason =>
    { message := "failed to read config: " ++ path
      code := "shop::config::read"
      help := "Ensure the config file exists and is readable."
      source := some reason }
  | .invalid detail =>
    { message := "failed to parse config: " ++ detail
      code := "shop::config::parse"
      help := "Check the TOML syntax. Known keys: domain_type, problem_type, " ++
        "strict_ambiguity, parallel." }

/-- What is shown for a failure. -/
def Failure.diagnostic : Failure → Diagnostic
  | .load error => error.diagnostic
  | .emit error => error.diagnostic
  | .settings error => error.diagnostic

end TaskNet
