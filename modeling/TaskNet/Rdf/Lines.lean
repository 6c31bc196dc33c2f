import TaskNet.Rdf.Iri
import TaskNet.Rdf.Statement
import TaskNet.Rdf.Token

/-!
# N-Triples and N-Quads

Every line holds at most one statement: a subject, a property, a value, in N-Quads perhaps the name
of a graph, and a dot. All IRIs are absolute.
-/

namespace TaskNet.Rdf.Lines

/-- The absolute IRI between angle brackets. -/
def iri? (text : List Char) : Option String :=
  (resolveIri? none text).map fun reference => String.ofList reference.text

/-- The node that a token stands for. -/
def node? : Token → Option Node
  | .iri text => (iri? text).map .iri
  | .blank label => some (.blank label)
  | _ => none

/-- The value that tokens begin with, and the tokens behind it. -/
def object? : List Token → Option (Term × List Token)
  | .string text :: .language _ :: rest => some (.literal text, rest)
  | .string text :: .typeMark :: .iri type :: rest => do
    let type ← iri? type
    if type = Vocabulary.languageText then none else return (.literal text, rest)
  | .string text :: rest => some (.literal text, rest)
  | token :: rest => (node? token).map fun node => (.node node, rest)
  | [] => none

/-- The name of a graph, if the tokens begin with one, and a dot behind it. -/
def graph? (graphs : Bool) : List Token → Option (Option Node)
  | [.dot] => some none
  | [name, .dot] => if graphs then (node? name).map some else none
  | _ => none

/-- The statement on a line, if there is one. -/
def line? (graphs : Bool) : List Token → Option (Option Statement)
  | [] => some none
  | subject :: .iri predicate :: rest => do
    let subject ← node? subject
    let predicate ← iri? predicate
    let (object, rest) ← object? rest
    let graph ← graph? graphs rest
    return some { subject, predicate, object, graph }
  | _ => none

/-- The tokens of each line. -/
def split : List Token → List (List Token)
  | [] => [[]]
  | .lineEnd :: rest => [] :: split rest
  | token :: rest =>
    match split rest with
    | [] => [[token]]
    | line :: lines => (token :: line) :: lines

/-- The statements of a document, if it follows the syntax. -/
def statements? (graphs : Bool) (text : List Char) : Option (List Statement) := do
  let tokens ← Token.lex .lines text
  let lines ← (split tokens).mapM (line? graphs)
  return lines.filterMap id

end TaskNet.Rdf.Lines
