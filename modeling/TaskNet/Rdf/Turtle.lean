import TaskNet.Rdf.Iri
import TaskNet.Rdf.Statement
import TaskNet.Rdf.Token

/-!
# Turtle and TriG

The tokens of a document are read by a machine with a stack of frames, each of which says what may
come next. A token is taken by the innermost frame that does not pass it on to the frame around it.
A statement is made when its object is complete. Statements that one token completes come out with
the latest first.
-/

namespace TaskNet.Rdf.Turtle

/-- What may come next, innermost first on the stack. -/
inductive Frame where
  /-- A statement, a directive or a graph. -/
  | document
  /-- The dot at the end of a statement or directive. -/
  | dot
  /-- The label of a namespace that is being declared. -/
  | namespaceLabel
  /-- The IRI of a namespace with this label. -/
  | namespaceIri (label : String)
  /-- The base for the references that follow. -/
  | baseIri
  /-- The name of a graph. -/
  | graphName
  /-- The end of the brackets that stand for the name of a graph. -/
  | graphNameEnd
  /-- The opening brace of a graph. -/
  | graph
  /-- A statement in a graph, or the end of the graph. -/
  | graphStatement
  /-- A dot between statements in a graph, or the end of the graph. -/
  | graphEnd
  /-- What follows a node at the start of a statement: a graph that it names, or a property. -/
  | afterNode (node : Node)
  /-- What follows an opening bracket at the start of a statement. -/
  | openSubject
  /-- What follows an opening bracket at the start of a statement in a graph. -/
  | openGraphSubject
  /-- The closing bracket of a node that is the subject of a statement. -/
  | subjectEnd (node : Node)
  /-- More properties of such a node, or the end of the statement. -/
  | subjectAfter (node : Node)
  /-- What follows an opening parenthesis at the start of a statement. -/
  | subjectList
  /-- A property of a node. -/
  | property (subject : Node)
  /-- A semicolon, and behind it more properties of a node. -/
  | moreProperties (subject : Node)
  /-- A property of a node, or nothing at all, behind a semicolon. -/
  | maybeProperty (subject : Node)
  /-- The value of a property. -/
  | object (subject : Node) (predicate : String)
  /-- A comma, and behind it another value of the same property. -/
  | moreObjects (subject : Node) (predicate : String)
  /-- What follows an opening bracket where a value stands. -/
  | openObject (subject : Node) (predicate : String)
  /-- The closing bracket of a node that is a value. -/
  | objectEnd (subject : Node) (predicate : String) (object : Node)
  /-- What follows an opening parenthesis where a value stands. -/
  | objectList (subject : Node) (predicate : String)
  /-- Another member of a list, or its end. -/
  | listNext (node : Node)
  /-- What may follow a text: its language or the mark of its type. -/
  | afterText (subject : Node) (predicate : String) (text : String)
  /-- The type of a text. -/
  | textType (subject : Node) (predicate : String) (text : String)

/-- What is known while a document is read. -/
structure Context where
  /-- Whether statements may be gathered in graphs. -/
  graphs : Bool
  /-- The base of IRI references. -/
  base : Option Reference := none
  /-- The IRI of each namespace label, latest first. -/
  namespaces : List (String × List Char) := []
  /-- The name of the graph that statements belong to. -/
  graph : Option Node := none
  /-- How many anonymous nodes there are so far. -/
  anonymous : Nat := 0
  /-- The statements that the current token completes, latest first. -/
  completed : List Statement := []

/-- A step that may fail and that reads and changes what is known. -/
abbrev Step := StateT Context Option

/-- What a frame does with a token. -/
inductive Reaction where
  /-- It takes the token, and these frames come next. -/
  | take (next : List Frame)
  /-- It is done and passes the token on. -/
  | pass

/-- Makes a statement. -/
def complete (subject : Node) (predicate : String) (object : Term) : Step Unit :=
  modify fun context =>
    { context with
      completed := { subject, predicate, object, graph := context.graph } :: context.completed }

/-- Makes a new anonymous node. -/
def fresh : Step Node := do
  let context ← get
  set { context with anonymous := context.anonymous + 1 }
  return .anonymous context.anonymous

/-- Whether a name may be put behind the IRI of a namespace without a look at the whole: nothing in
it is doubtful, and it does not fall into the authority. -/
def mayJoin (start : List Char) (doubtful : Bool) : Bool :=
  !doubtful && (Reference.ofText start).path ≠ []

/-- The IRI that a token stands for, if it stands for one. -/
def iri? (token : Token) : Step (Option String) := do
  let context ← get
  match token with
  | .iri text =>
    let some reference := resolveIri? context.base text | failure
    return some (String.ofList reference.text)
  | .named label name doubtful =>
    let some start := context.namespaces.lookup label | failure
    let iri := start ++ name.toList
    guard (mayJoin start doubtful ∨ (resolveIri? none iri).isSome)
    return some (String.ofList iri)
  | _ => return none

/-- The node that a token stands for, if it stands for one. -/
def node? (token : Token) : Step (Option Node) := do
  match token with
  | .blank label => return some (.blank label)
  | token => return (← iri? token).map .iri

/-- Takes the token of a property. -/
def takeProperty (subject : Node) (token : Token) : Step Reaction := do
  let next := fun predicate =>
    Reaction.take
      [.object subject predicate, .moreObjects subject predicate, .moreProperties subject]
  match token with
  | .word "a" => return next Vocabulary.type
  | token =>
    let some predicate ← iri? token | failure
    return next predicate

/-- Takes the first token of a value. -/
def takeObject (subject : Node) (predicate : String) (token : Token) : Step Reaction := do
  match token with
  | .openBracket => return .take [.openObject subject predicate]
  | .openParen => return .take [.objectList subject predicate]
  | .string text => return .take [.afterText subject predicate text]
  | .number spelling =>
    complete subject predicate (.literal spelling)
    return .take []
  | .word text =>
    guard (text = "true" ∨ text = "false")
    complete subject predicate (.literal text)
    return .take []
  | token =>
    let some node ← node? token | failure
    complete subject predicate (.node node)
    return .take []

/-- Takes the first token of a list member, and expects more members behind it. -/
def takeMember (node : Node) (token : Token) : Step Reaction := do
  match ← takeObject node Vocabulary.first token with
  | .take next => return .take (next ++ [.listNext node])
  | .pass => return .pass

/-- Takes the first token of a statement, a directive or a graph. -/
def takeDocument (token : Token) : Step Reaction := do
  modify fun context => { context with graph := none }
  let graphs := (← get).graphs
  match token with
  | .language "prefix" => return .take [.namespaceLabel, .dot, .document]
  | .language "base" => return .take [.baseIri, .dot, .document]
  | .word text =>
    match text.toLower with
    | "prefix" => return .take [.namespaceLabel, .document]
    | "base" => return .take [.baseIri, .document]
    | "graph" =>
      guard graphs
      return .take [.graphName, .graph, .document]
    | _ => failure
  | .openBrace =>
    guard graphs
    return .take [.graphStatement, .graphEnd, .document]
  | .openBracket => return .take [.openSubject, .document]
  | .openParen => return .take [.subjectList, .dot, .document]
  | token =>
    let some node ← node? token | failure
    return .take [.afterNode node, .document]

/-- Takes a node at the start of a statement, and expects its properties and a dot. -/
def takeStatement (subject : Node) (token : Token) : Step Reaction := do
  match ← takeProperty subject token with
  | .take next => return .take (next ++ [.dot])
  | .pass => return .pass

/-- What a frame does with a token. -/
def react (frame : Frame) (token : Token) : Step Reaction := do
  match frame with
  | .document => takeDocument token
  | .dot =>
    guard (token = .dot)
    return .take []
  | .namespaceLabel =>
    match token with
    | .named label "" _ => return .take [.namespaceIri label]
    | _ => failure
  | .namespaceIri label =>
    match token with
    | .iri text =>
      let context ← get
      let some reference := resolveIri? context.base text | failure
      set { context with namespaces := (label, reference.text) :: context.namespaces }
      return .take []
    | _ => failure
  | .baseIri =>
    match token with
    | .iri text =>
      let context ← get
      let some reference := resolveIri? context.base text | failure
      set { context with base := some reference }
      return .take []
    | _ => failure
  | .graphName =>
    match token with
    | .openBracket => return .take [.graphNameEnd]
    | token =>
      let some node ← node? token | failure
      modify fun context => { context with graph := some node }
      return .take []
  | .graphNameEnd =>
    guard (token = .closeBracket)
    let node ← fresh
    modify fun context => { context with graph := some node }
    return .take []
  | .graph =>
    guard (token = .openBrace)
    return .take [.graphStatement, .graphEnd]
  | .graphStatement =>
    match token with
    | .closeBrace => return .pass
    | .openBracket => return .take [.openGraphSubject]
    | .openParen => return .take [.subjectList]
    | token =>
      let some node ← node? token | failure
      return .take [.property node]
  | .graphEnd =>
    match token with
    | .closeBrace => return .take []
    | .dot => return .take [.graphStatement, .graphEnd]
    | _ => failure
  | .afterNode node =>
    let context ← get
    if token = .openBrace && context.graphs then
      set { context with graph := some node }
      return .take [.graphStatement, .graphEnd]
    else takeStatement node token
  | .openSubject =>
    let node ← fresh
    if token = .closeBracket then return .take [.afterNode node]
    else
      match ← takeProperty node token with
      | .take next => return .take (next ++ [.subjectEnd node, .dot])
      | .pass => return .pass
  | .openGraphSubject =>
    let node ← fresh
    if token = .closeBracket then return .take [.property node]
    else
      match ← takeProperty node token with
      | .take next => return .take (next ++ [.subjectEnd node])
      | .pass => return .pass
  | .subjectEnd node =>
    guard (token = .closeBracket)
    return .take [.subjectAfter node]
  | .subjectAfter node =>
    if token = .dot || token = .closeBrace then return .pass
    else takeProperty node token
  | .subjectList =>
    if token = .closeParen then return .take [.property (.iri Vocabulary.nil)]
    else
      let node ← fresh
      match ← takeMember node token with
      | .take next => return .take (next ++ [.property node])
      | .pass => return .pass
  | .property subject => takeProperty subject token
  | .moreProperties subject =>
    if token = .semicolon then return .take [.maybeProperty subject] else return .pass
  | .maybeProperty subject =>
    if token = .semicolon then return .take [.maybeProperty subject]
    else if token ∈ [.dot, .closeBrace, .closeBracket, .closeParen] then return .pass
    else takeProperty subject token
  | .object subject predicate => takeObject subject predicate token
  | .moreObjects subject predicate =>
    if token = .comma then
      return .take [.object subject predicate, .moreObjects subject predicate]
    else return .pass
  | .openObject subject predicate =>
    let node ← fresh
    if token = .closeBracket then
      complete subject predicate (.node node)
      return .take []
    else
      match ← takeProperty node token with
      | .take next => return .take (next ++ [.objectEnd subject predicate node])
      | .pass => return .pass
  | .objectEnd subject predicate object =>
    guard (token = .closeBracket)
    complete subject predicate (.node object)
    return .take []
  | .objectList subject predicate =>
    if token = .closeParen then
      complete subject predicate (.node (.iri Vocabulary.nil))
      return .take []
    else
      let node ← fresh
      complete subject predicate (.node node)
      takeMember node token
  | .listNext node =>
    if token = .closeParen then
      complete node Vocabulary.rest (.node (.iri Vocabulary.nil))
      return .take []
    else
      let next ← fresh
      complete node Vocabulary.rest (.node next)
      takeMember next token
  | .afterText subject predicate text =>
    match token with
    | .language _ =>
      complete subject predicate (.literal text)
      return .take []
    | .typeMark => return .take [.textType subject predicate text]
    | _ =>
      complete subject predicate (.literal text)
      return .pass
  | .textType subject predicate text =>
    let some type ← iri? token | failure
    guard (type ≠ Vocabulary.languageText)
    complete subject predicate (.literal text)
    return .take []

/-- Gives a token to the innermost frame that does not pass it on. -/
def feed (token : Token) : List Frame → Step (List Frame)
  | [] => failure
  | frame :: frames => do
    match ← react frame token with
    | .take next => return next ++ frames
    | .pass => feed token frames

/-- The stack and what is known behind some tokens, and the statements that they make. -/
def run : List Token → List Frame → Context → Option (List Frame × List Statement)
  | [], frames, _ => some (frames, [])
  | token :: rest, frames, context => do
    let (frames, context) ← feed token frames |>.run { context with completed := [] }
    let (frames, statements) ← run rest frames context
    return (frames, context.completed ++ statements)

/-- Whether a document may end here. -/
def mayEnd : List Frame → Bool
  | [.document] => true
  | _ => false

/-- The statements of a document, if it follows the syntax. -/
def statements? (graphs : Bool) (text : List Char) : Option (List Statement) := do
  let tokens ← Token.lex .free text
  let (frames, statements) ← run tokens [.document] { graphs }
  if mayEnd frames then return statements else none

end TaskNet.Rdf.Turtle
