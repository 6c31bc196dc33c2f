import TaskNet.Entity

/-!
# Statements of linked documents

A linked document is a sequence of statements about nodes. A node is named by an IRI, or it is a
blank node, which is known only within its document: by the label that the document gives it, or
not at all.
-/

namespace TaskNet.Rdf

/-- The subject or object of a statement. -/
inductive Node where
  /-- What an IRI names. -/
  | iri (iri : String)
  /-- A blank node with a label. -/
  | blank (label : String)
  /-- A blank node without a label, by the number of such nodes that came before it. -/
  | anonymous (number : Nat)
deriving DecidableEq, Repr

/-- What a node is known by as an entity: its IRI, or its label behind an underscore and a colon. -/
def Node.identifier : Node → Identifier
  | iri name => .named name
  | blank label => .named ("_:" ++ label)
  | anonymous number => .anonymous number

/-- How a node is written in a document of lines. -/
inductive Spelling where
  /-- As this text. -/
  | written (text : String)
  /-- With a label that is made up for a blank node without one, by the number of the node. -/
  | madeUp (number : Nat)
deriving DecidableEq, Repr

/-- The spelling of a node: its IRI between angle brackets, or its label behind an underscore and a
colon. -/
def Node.spelling : Node → Spelling
  | iri name => .written ("<" ++ name ++ ">")
  | blank label => .written ("_:" ++ label)
  | anonymous number => .madeUp number

/-- A text without the angle brackets around it. A text that does not stand between them stays as it
is. -/
def unbracketed (text : String) : String :=
  match text.toList with
  | '<' :: rest => if rest.getLast? = some '>' then String.ofList rest.dropLast else text
  | _ => text

/-- What a node with this spelling is known by as an entity: the spelling without angle brackets. -/
def Spelling.identifier : Spelling → Identifier
  | written text => .named (unbracketed text)
  | madeUp number => .anonymous number

/-- The angle brackets that are put around a text are taken away again, whatever the text is. -/
theorem unbracketed_brackets (text : String) : unbracketed ("<" ++ text ++ ">") = text := by
  simp [unbracketed]

/-- A text that begins otherwise keeps its end. -/
theorem unbracketed_of_head?_ne {text : String} (h : text.toList.head? ≠ some '<') :
    unbracketed text = text := by
  unfold unbracketed
  split
  · next htext => simp [htext] at h
  · rfl

/-- A node is known by its spelling as it is known by itself. -/
@[simp] theorem Node.identifier_spelling (node : Node) :
    node.spelling.identifier = node.identifier := by
  cases node with
  | iri name => exact congrArg Identifier.named (unbracketed_brackets name)
  | blank label => exact congrArg Identifier.named (unbracketed_of_head?_ne (by simp))
  | anonymous number => rfl

/-- What a statement may say about its subject. -/
inductive Term where
  /-- Another node. -/
  | node (node : Node)
  /-- A text, whatever its language or type. -/
  | literal (text : String)
deriving DecidableEq, Repr

/-- A statement, and the graph it was made in if it was not the default one. -/
structure Statement where
  /-- What the statement is about. -/
  subject : Node
  /-- The IRI of the property. -/
  predicate : String
  /-- The value of the property. -/
  object : Term
  /-- The name of the graph that the statement belongs to. -/
  graph : Option Node := none
deriving DecidableEq, Repr

/-! ### The properties and nodes that the standards name -/

namespace Vocabulary

/-- The IRI of a name in the basic vocabulary of linked data. -/
def basic (name : String) : String := "http://www.w3.org/1999/02/22-rdf-syntax-ns#" ++ name

/-- The property that gives a node its class. -/
def type : String := basic "type"

/-- The property of a list node that gives its first member. -/
def first : String := basic "first"

/-- The property of a list node that gives the rest of the list. -/
def rest : String := basic "rest"

/-- The list without members. -/
def nil : String := basic "nil"

/-- The type of the texts in a language, which no text is given by name. -/
def languageText : String := basic "langString"

/-- The property that gives a node its label. -/
def label : String := "http://www.w3.org/2000/01/rdf-schema#label"

/-- The property that gives a node its comment. -/
def comment : String := "http://www.w3.org/2000/01/rdf-schema#comment"

end Vocabulary

end TaskNet.Rdf
