import TaskNet.Document.Graph
import TaskNet.Format
import TaskNet.Rdf.Elements
import TaskNet.Rdf.Graph
import TaskNet.Rdf.Lines
import TaskNet.Rdf.Turtle
import TaskNet.Text.Utf8

/-!
# Loading knowledge bases

A document in any format is read completely or not at all.
-/

namespace TaskNet

/-- A knowledge graph, and how many statements of its document were of no use. Documents of records
have no such statements. -/
structure Loaded where
  /-- The knowledge graph. -/
  graph : KnowledgeGraph
  /-- How many statements were of no use. -/
  skipped : Option Nat := none

/-- The statements of a linked document. -/
def Format.statements? (format : Format) (bytes : List UInt8) :
    Option (List Rdf.Statement) :=
  match format with
  | .turtle => (lexical .free).bind (Rdf.Turtle.statements? false)
  | .triG => (lexical .free).bind (Rdf.Turtle.statements? true)
  | .nTriples => (lexical .lines).bind (Rdf.Lines.statements? false)
  | .nQuads => (lexical .lines).bind (Rdf.Lines.statements? true)
  | .rdfXml => Rdf.Elements.statements? bytes
  | .json => none
where
  /-- The text of a document that is read as tokens. Only its comments may hold bytes that are no
  text. -/
  lexical (dialect : Rdf.Dialect) : Option (List Char) :=
    Text.decodeDropping? (Rdf.Token.endsInComment dialect) [] bytes.length bytes

/-- The knowledge graph of a document in this format. -/
def Format.load (format : Format) (settings : Settings) (bytes : List UInt8) :
    Except LoadError Loaded :=
  match format with
  | .json =>
    match (Text.decodeAll? bytes).bind KnowledgeDocument.parse? with
    | some document => (document.graph settings).map fun graph => { graph }
    | none => .error (.invalidJson "the text is not a knowledge document")
  | _ =>
    match format.statements? bytes with
    | some statements =>
      let loaded := Rdf.load settings statements
      .ok { graph := loaded.graph, skipped := some loaded.skipped }
    | none => .error (.invalidRdf "the text does not follow the syntax")

end TaskNet
