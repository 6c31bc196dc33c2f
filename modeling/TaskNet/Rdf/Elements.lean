import TaskNet.Rdf.Iri
import TaskNet.Rdf.LanguageTag
import TaskNet.Rdf.Statement
import TaskNet.Xml.Event

/-!
# RDF/XML

In RDF/XML elements stand in turn for nodes and for properties of the nodes around them. The events
of a document are read by a machine with a stack of the open elements. Statements that one tag
makes come out with the latest first.
-/

namespace TaskNet.Rdf.Elements

open TaskNet.Xml (Attribute Entities Event Raw)

/-- Whether a text holds only blanks. -/
def isBlankText (text : List Char) : Bool := text.all Xml.isBlank

/-- What has been found inside a property element so far. -/
inductive Content where
  /-- Nothing at all. -/
  | empty
  /-- Text. -/
  | text (text : List Char)
  /-- A node. -/
  | node (node : Node)

/-- Whether nothing has been found but blanks, so that a value may still come. -/
def Content.isOpen : Content → Bool
  | .empty => true
  | .text found => isBlankText found
  | .node _ => false

/-- The namespaces that prefixes are bound to, innermost first. The default namespace is bound to an
empty prefix. -/
abbrev Bindings := List (Raw × Raw)

/-- What an open element stands for. -/
inductive Role where
  /-- A list of node elements. -/
  | container
  /-- A node, with the number of its list items so far. -/
  | node (subject : Node) (items : Nat)
  /-- A property of a node. The statement has a name of its own if the element gives one. -/
  | property (subject : Node) (predicate : String) (name : Option String) (content : Content)
  /-- A property whose value is the list of the nodes inside, latest first. -/
  | collection (subject : Node) (predicate : String) (name : Option String)
    (members : List Node)
  /-- A property whose value is the markup inside, which has these open tags. What is written is
  decoded at the end. Properties of unknown kinds are read in this way, and no statement is made of
  them. -/
  | markup (subject : Node) (predicate : String) (name : Option String) (kept : Bool)
    (written : Raw) (openTags : List Raw)

/-- An open element. -/
structure Scope where
  /-- The name in its tag. -/
  tag : Raw
  /-- What it stands for. -/
  role : Role
  /-- The namespaces inside the element. -/
  namespaces : Bindings
  /-- The base of IRI references inside the element. -/
  base : Option Reference

/-- What is known while a document is read. -/
structure Context where
  /-- The open elements, innermost first. -/
  scopes : List Scope := []
  /-- The entities that the document declares. -/
  entities : Entities := []
  /-- The IRIs that elements have given as their own. -/
  ids : List String := []
  /-- How many anonymous nodes there are so far. -/
  anonymous : Nat := 0
  /-- The statements that the current event makes, latest first. -/
  completed : List Statement := []

/-- A step that may fail and that reads and changes what is known. -/
abbrev Step := StateT Context Option

/-- Makes a statement. -/
def state (subject : Node) (predicate : String) (object : Term) : Step Unit :=
  modify fun context =>
    { context with completed := { subject, predicate, object } :: context.completed }

/-- Makes a new anonymous node. -/
def fresh : Step Node := do
  let context ← get
  set { context with anonymous := context.anonymous + 1 }
  return .anonymous context.anonymous

/-- Makes a statement and, if it has a name, the statements that describe it under this name. -/
def stateNamed (name : Option String) (subject : Node) (predicate : String)
    (object : Term) : Step Unit := do
  if let some name := name then
    let about := fun property => state (.iri name) (Vocabulary.basic property)
    about "object" object
    about "predicate" (.node (.iri predicate))
    about "subject" (.node subject)
    about "type" (.node (.iri (Vocabulary.basic "Statement")))
  state subject predicate object

/-- The text that raw text stands for. -/
def readText (raw : Raw) : Step (List Char) := do
  let entities := (← get).entities
  let some text := raw.decode?.bind (Xml.dereference? entities) | failure
  return text

/-! ### Names -/

/-- The namespaces that the standards bind to prefixes for every document. -/
def reservedNamespaces : Bindings :=
  [("xml".toList, "http://www.w3.org/XML/1998/namespace".toList),
    ("xmlns".toList, "http://www.w3.org/2000/xmlns/".toList)]

/-- The prefix of a name and what follows its colon, or no prefix. -/
def splitName (name : Raw) : Option Raw × Raw :=
  match Text.splitFirst? (· = ':') name with
  | some (front, back) => (some front, back)
  | none => (none, name)

/-- Whether an attribute leaves the reserved prefixes and namespaces to each other. -/
def keepsReserved (entry : Attribute) : Bool :=
  match splitName entry.1 with
  | (some front, label) =>
    front ≠ "xmlns".toList ||
      if label = "xml".toList then reservedNamespaces.lookup label = some entry.2
      else label ≠ "xmlns".toList && entry.2 ∉ reservedNamespaces.map (·.2)
  | (none, _) => true

/-- The bindings of namespaces in a tag. -/
def bindings (attributes : List Attribute) : Bindings :=
  let bound := attributes.filterMap fun (name, value) =>
    match splitName name with
    | (none, name) => if name = "xmlns".toList then some ([], value) else none
    | (some front, label) =>
      if front = "xmlns".toList ∧ label ≠ "xml".toList then some (label, value) else none
  bound.reverse

/-- The bindings that no inner one hides, outermost first. A prefix is also hidden by a binding to
nothing. -/
def inForce (namespaces : Bindings) : Bindings :=
  let visible := namespaces.foldl (fun seen entry =>
    if seen.any (·.1 = entry.1) then seen else entry :: seen) []
  visible.filter (·.2 ≠ [])

/-- The IRI of a name with this namespace. -/
def expand (space : Option Raw) (name : Raw) : Step String := do
  let some space := space | failure
  guard (space ≠ [])
  return String.ofList (← readText (space ++ name))

/-- The namespace of a prefix, which may not be empty. -/
def namespace? (namespaces : Bindings) (label : Raw) : Option Raw :=
  if label = [] then none else namespaces.lookup label <|> reservedNamespaces.lookup label

/-- The IRI of the name of an element. -/
def elementIri (namespaces : Bindings) (name : Raw) : Step String := do
  match splitName name with
  | (none, name) => expand (namespaces.lookup []) name
  | (some label, name) => expand (namespace? namespaces label) name

/-- The IRI of the name of an attribute, which has to have a prefix. -/
def attributeIri (namespaces : Bindings) (name : Raw) : Step String := do
  let (label, name) := splitName name
  expand (label.bind (namespace? namespaces)) name

/-- An absolute IRI. -/
def absolute (iri : String) : Step String := do
  let some reference := resolveIri? none iri.toList | failure
  return String.ofList reference.text

/-- The IRI that a reference stands for where a base is in force. -/
def resolve (base : Option Reference) (text : List Char) : Step String := do
  let some reference := resolveIri? base text | failure
  return String.ofList reference.text

/-- Whether a text may be the name of a node or statement in its document. -/
def isLocalName (text : List Char) : Bool :=
  match text with
  | first :: rest => isNameStart first && rest.all fun c => isNameChar c || c = '.'
  | [] => false

/-! ### Attributes -/

/-- The names in the basic vocabulary that no element may have that stands for a node or for a
property. -/
def reservedElements : List String :=
  ["about", "aboutEach", "aboutEachPrefix", "bagID", "datatype", "ID", "li", "nodeID", "parseType",
    "RDF", "resource"].map Vocabulary.basic

/-- The names in the basic vocabulary that no attribute may have. -/
def reservedAttributes : List String :=
  ["aboutEach", "aboutEachPrefix", "li", "RDF", "resource"].map Vocabulary.basic

/-- What the attributes of an element say. -/
structure Given where
  /-- The base of references inside the element. -/
  base : Option Reference := none
  /-- The name of the node or statement, which is resolved as a fragment. -/
  id : Option (List Char) := none
  /-- The label of the node. -/
  nodeId : Option String := none
  /-- The reference to the node. -/
  about : Option Raw := none
  /-- The reference to the value of the property. -/
  resource : Option Raw := none
  /-- The reference to the type of the text. -/
  datatype : Option Raw := none
  /-- How the content is to be read. -/
  parseType : Option String := none
  /-- The reference to the class of the node. -/
  type : Option Raw := none
  /-- Properties with texts as their values. -/
  properties : List (String × String) := []

/-- Reads an attribute that belongs to XML itself. -/
def readXmlAttribute (given : Given) (name value : Raw) : Step Given := do
  if name = "xml:lang".toList then
    guard (LanguageTag.isValid (← readText value))
    return given
  else if name = "xml:base".toList then
    let some reference := resolveIri? none (← readText value) | failure
    return { given with base := some reference }
  else return given

/-- Reads an attribute. Of two references for one purpose only the later one is ever resolved. -/
def readAttribute (namespaces : Bindings) (given : Given) (entry : Attribute) : Step Given := do
  let (name, raw) := entry
  if "xml".toList.isPrefixOf name then readXmlAttribute given name raw
  else
    let iri ← attributeIri namespaces name
    if iri = Vocabulary.basic "about" then return { given with about := some raw }
    else if iri = Vocabulary.basic "resource" then return { given with resource := some raw }
    else if iri = Vocabulary.basic "datatype" then return { given with datatype := some raw }
    else if iri = Vocabulary.type then return { given with type := some raw }
    else
      let value ← readText raw
      if iri = Vocabulary.basic "ID" then
        guard (isLocalName value)
        return { given with id := some value }
      else if iri = Vocabulary.basic "bagID" then
        guard (isLocalName value)
        return given
      else if iri = Vocabulary.basic "nodeID" then
        guard (isLocalName value)
        return { given with nodeId := some (String.ofList value) }
      else if iri = Vocabulary.basic "parseType" then
        return { given with parseType := some (String.ofList value) }
      else
        guard (iri ∉ reservedAttributes)
        let predicate ← absolute iri
        return { given with properties := given.properties ++ [(predicate, String.ofList value)] }

/-- The references in attributes, resolved. -/
structure Resolved where
  /-- The IRI that the element gives as its own. -/
  id : Option String
  /-- The IRI of the node. -/
  about : Option String
  /-- The IRI of the value. -/
  resource : Option String
  /-- The IRI of the class of the node. -/
  type : Option String

/-- Resolves the references in attributes. No IRI may be given twice as an element's own. -/
def resolveGiven (base : Option Reference) (given : Given) : Step Resolved := do
  let optional := fun raw : Option Raw => raw.mapM fun raw => do resolve base (← readText raw)
  let id ← given.id.mapM fun name => resolve base ('#' :: name)
  if let some id := id then
    let context ← get
    guard (id ∉ context.ids)
    set { context with ids := id :: context.ids }
  let about ← optional given.about
  let resource ← optional given.resource
  let _ ← optional given.datatype
  let type ← optional given.type
  return { id, about, resource, type }

/-! ### Elements -/

/-- Makes a statement of every attribute that is a property. -/
def stateProperties (subject : Node) (properties : List (String × String)) : Step Unit :=
  properties.forM fun (predicate, text) => state subject predicate (.literal text)

/-- Makes a statement of the class that a node belongs to. -/
def stateClass (subject : Node) (type : String) : Step Unit :=
  state subject Vocabulary.type (.node (.iri type))

/-- The role of an element that stands for a node. -/
def nodeElement (iri : String) (given : Given) (resolved : Resolved) : Step Role := do
  guard (iri ∉ reservedElements)
  let iri ← absolute iri
  let subject ←
    match resolved.id, given.nodeId, resolved.about with
    | some id, none, none => pure (.iri id)
    | none, some label, none => pure (.blank label)
    | none, none, some about => pure (.iri about)
    | none, none, none => fresh
    | _, _, _ => failure
  stateProperties subject given.properties
  resolved.type.forM (stateClass subject)
  if iri ≠ Vocabulary.basic "Description" then stateClass subject iri
  return .node subject 0

/-- The role of a property element that gives its value by attributes or has it inside. -/
def plainProperty (subject : Node) (predicate : String) (given : Given) (resolved : Resolved) :
    Step Role := do
  let role := Role.property subject predicate resolved.id
  if resolved.resource = none ∧ given.nodeId = none ∧ given.properties = [] then
    return role .empty
  let object ←
    match resolved.resource, given.nodeId with
    | some resource, none => pure (.iri resource)
    | none, some label => pure (.blank label)
    | none, none => fresh
    | some _, some _ => failure
  stateProperties object given.properties
  resolved.type.forM (stateClass object)
  return role (.node object)

/-- The role of an element that stands for a property. -/
def propertyElement (subject : Node) (predicate : String) (given : Given)
    (resolved : Resolved) : Step Role := do
  match given.parseType with
  | none => plainProperty subject predicate given resolved
  | some "Resource" =>
    let object ← fresh
    stateNamed resolved.id subject predicate (.node object)
    return .node object 0
  | some "Collection" => return .collection subject predicate resolved.id []
  | some kind => return .markup subject predicate resolved.id (kind = "Literal") [] []

/-- The predicate that the name of a property element stands for. List items are counted. -/
def propertyIri (iri : String) (items : Nat) : Step (String × Nat) := do
  if iri = Vocabulary.basic "li" then
    return (Vocabulary.basic ("_" ++ toString (items + 1)), items + 1)
  else
    guard (iri ∉ reservedElements ∧ iri ≠ Vocabulary.basic "Description")
    return (← absolute iri, items)

/-- An opening tag as it is written inside a text. -/
def writtenTag (name : Raw) (attributes : List Attribute) : Raw :=
  '<' :: name ++
    attributes.flatMap (fun (name, value) => ' ' :: name ++ '=' :: '"' :: value ++ ['"']) ++ ['>']

/-- The attribute that makes a binding. -/
def declaring (binding : Raw × Raw) : Attribute :=
  ("xmlns".toList ++ if binding.1 = [] then [] else ':' :: binding.1, binding.2)

/-- The role of the innermost element. -/
def innermost : Step (Option Role) := do
  return (← get).scopes.head?.map (·.role)

/-- Replaces the role of the innermost element. -/
def setRole (role : Role) : Step Unit :=
  modify fun context =>
    match context.scopes with
    | scope :: scopes => { context with scopes := { scope with role } :: scopes }
    | [] => context

/-- Reads an opening tag that is not inside a text. -/
def openElement (name : Raw) (attributes : List Attribute) : Step Unit := do
  let outer := (← get).scopes.head?
  let namespaces := bindings attributes ++ (outer.map (·.namespaces)).getD []
  let iri ← elementIri namespaces name
  let given ← attributes.foldlM (readAttribute namespaces) {}
  let base := given.base <|> outer.bind (·.base)
  let resolved ← resolveGiven base given
  let role ←
    match ← innermost with
    | none =>
      if iri = Vocabulary.basic "RDF" then pure Role.container
      else nodeElement iri given resolved
    | some (.node subject items) =>
      let (predicate, items) ← propertyIri iri items
      setRole (.node subject items)
      propertyElement subject predicate given resolved
    | some _ => nodeElement iri given resolved
  modify fun context =>
    { context with scopes := { tag := name, role, namespaces, base } :: context.scopes }

/-- Makes the statements of a property whose value is a list of nodes. -/
def stateCollection (subject : Node) (predicate : String) (name : Option String)
    (members : List Node) : Step Unit := do
  let start ← members.foldlM (fun next member => do
    let node ← fresh
    state node Vocabulary.first (.node member)
    state node Vocabulary.rest (.node next)
    return node) (.iri Vocabulary.nil)
  stateNamed name subject predicate (.node start)

/-- Gives a node to the element around it. -/
def receive (subject : Node) : Step Unit := do
  match ← innermost with
  | some (.property outer predicate name content) =>
    guard content.isOpen
    setRole (.property outer predicate name (.node subject))
  | some (.collection outer predicate name members) =>
    setRole (.collection outer predicate name (subject :: members))
  | _ => return

/-- Finishes an element. -/
def finish (role : Role) : Step Unit := do
  match role with
  | .container => return
  | .node subject _ => receive subject
  | .property subject predicate name content =>
    stateNamed name subject predicate <|
      match content with
      | .empty => .literal ""
      | .text text => .literal (String.ofList text)
      | .node node => .node node
  | .collection subject predicate name members =>
    stateCollection subject predicate name members
  | .markup subject predicate name kept written _ =>
    if kept then
      guard (written ≠ [])
      let some text := written.decode? | failure
      stateNamed name subject predicate (.literal (String.ofList text))

/-- Reads a text with its references replaced. Where no value is expected only blanks may stand;
where one is, a text takes the place of the blanks in front of it. -/
def addText (text : List Char) : Step Unit := do
  match ← innermost with
  | some (.property subject predicate name content) =>
    if content.isOpen then setRole (.property subject predicate name (.text text))
    else guard (isBlankText text)
  | some (.markup subject predicate name kept written openTags) =>
    setRole (.markup subject predicate name kept (written ++ Raw.ofText (Xml.escape text))
      openTags)
  | _ => guard (isBlankText text)

/-- The encodings that a document may say it is written in. -/
def encodings : List String :=
  ["unicode-1-1-utf-8", "unicode11utf8", "unicode20utf8", "utf-8", "utf8", "x-unicode20utf8"]

/-- Reads an opening tag. Inside of a text it is written down, with attributes that may turn out to
be no text; the outermost tags there also say which namespaces are in force. -/
def openTag (name : Raw) (attributes : List Attribute) : Step Unit := do
  guard (attributes.all keepsReserved)
  match (← get).scopes with
  | { role := .markup subject predicate label kept written openTags, namespaces, .. } :: _ =>
    guard name.decode?.isSome
    let around := if openTags = [] then inForce (bindings attributes ++ namespaces) else []
    let tag := writtenTag name (attributes ++ around.map declaring)
    setRole (.markup subject predicate label kept (written ++ tag) (name :: openTags))
  | _ => openElement name attributes

/-- Reads a closing tag. -/
def closeTag (name : Raw) : Step Unit := do
  let context ← get
  match context.scopes with
  | [] => failure
  | scope :: scopes =>
    match scope.role with
    | .markup subject predicate label kept written (tag :: openTags) =>
      guard (name = tag)
      setRole (.markup subject predicate label kept (written ++ '<' :: '/' :: name ++ ['>'])
        openTags)
    | role =>
      guard (name = scope.tag)
      set { context with scopes }
      finish role

/-- Reads an event. -/
def read (event : Event) : Step Unit := do
  match event with
  | .openTag name attributes => openTag name attributes
  | .closeTag name => closeTag name
  | .text raw => addText (← readText raw)
  | .plainText raw =>
    let some text := raw.decode? | failure
    addText text
  | .declaration none => return
  | .declaration (some encoding) => guard ((String.ofList encoding).toLower ∈ encodings)
  | .doctype raw =>
    let context ← get
    let some entities := raw.decode?.bind (Xml.declareAll? context.entities) | failure
    set { context with entities }

/-- The statements that events make. -/
def run : List Event → Context → Option (List Statement)
  | [], _ => some []
  | event :: rest, context => do
    let ((), context) ← (read event).run { context with completed := [] }
    let statements ← run rest context
    return context.completed ++ statements

/-- The bytes that a document may begin with to say that it is text. -/
def byteOrderMark : List UInt8 := [0xEF, 0xBB, 0xBF]

/-- The statements of a document, if it follows the syntax. -/
def statements? (bytes : List UInt8) : Option (List Statement) := do
  let marked := byteOrderMark.isPrefixOf bytes
  let events ← Xml.events? (Raw.ofBytes (if marked then bytes.drop 3 else bytes))
  run events {}

end TaskNet.Rdf.Elements
