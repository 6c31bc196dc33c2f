import TaskNet.Proofs.StatementReading
import TaskNet.Rdf.Iri

/-!
# Occurrences of nodes

A subject is known by how it is written, and a value by the node that it is. Either way a node has
the same identifier, and a text has none. Absolute IRIs begin with a letter and blank nodes are
written with an underscore, so different nodes have different identifiers. Where a node occurs in
statements that are loaded, an entity is given out for its identifier, and no later statement gives
it away to another one. So two occurrences, however far apart, are of the same entity exactly if
they are of the same node.
-/

namespace TaskNet.Rdf

/-! ### Identifiers of nodes -/

/-- What a value is known by as an entity, if it is a node. -/
def Term.identifier? (value : Term) : Option Identifier := value.node?.map Node.identifier

/-- A node is absolute if it is blank or if its IRI begins with a scheme. -/
def Node.IsAbsolute : Node → Prop
  | iri name => (Reference.ofText name.toList).scheme.isSome
  | blank _ => True
  | anonymous _ => True

instance : DecidablePred Node.IsAbsolute
  | .iri name => inferInstanceAs (Decidable ((Reference.ofText name.toList).scheme.isSome = true))
  | .blank _ => instDecidableTrue
  | .anonymous _ => instDecidableTrue

/-- No scheme begins with an underscore, so no absolute IRI reads like a blank node. -/
theorem ne_of_isAbsolute_iri {name : String} (h : (Node.iri name).IsAbsolute) (label : String) :
    name ≠ "_:" ++ label := by
  rintro rfl
  have hscheme : (Reference.ofText ("_:" ++ label).toList).scheme = none := by
    rw [String.toList_append]
    rfl
  have hsome : (Reference.ofText ("_:" ++ label).toList).scheme.isSome := h
  rw [hscheme] at hsome
  cases hsome

/-- Absolute nodes are told apart by their identifiers. -/
theorem Node.identifier_inj {node other : Node} (hnode : node.IsAbsolute)
    (hother : other.IsAbsolute) : node.identifier = other.identifier ↔ node = other := by
  refine ⟨fun h => ?_, congrArg Node.identifier⟩
  cases node with
  | iri name =>
    cases other with
    | iri _ => rw [Identifier.named.inj h]
    | blank label => exact absurd (Identifier.named.inj h) (ne_of_isAbsolute_iri hnode label)
    | anonymous _ => cases h
  | blank label =>
    cases other with
    | iri name => exact absurd (Identifier.named.inj h).symm (ne_of_isAbsolute_iri hother label)
    | blank _ => rw [(String.append_right_inj "_:").1 (Identifier.named.inj h)]
    | anonymous _ => cases h
  | anonymous number =>
    cases other with
    | iri _ => cases h
    | blank _ => cases h
    | anonymous _ => rw [Identifier.anonymous.inj h]

/-- An IRI without a scheme could be known by the spelling of a blank node. -/
example : (Node.iri "_:moor").identifier = (Node.blank "moor").identifier := by decide

/-! ### Occurrences -/

/-- What has been stated by some statements. -/
def drafted (settings : Settings) (statements : List Statement) : Draft :=
  (statements.foldl (Progress.add settings) {}).draft

/-- The entity that a statement is about, behind some statements. -/
def subjectEntity (settings : Settings) (before : List Statement) (statement : Statement) :
    EntityId :=
  ((drafted settings before).mention statement.subject.spelling.identifier).1

/-- The entity that a statement relates its subject to, behind some statements. -/
def objectEntity (settings : Settings) (before : List Statement) (statement : Statement)
    (object : Node) : EntityId :=
  (((drafted settings before).mention statement.subject.spelling.identifier).2.mention
    object.identifier).1

/-- A node occurs in statements, and while they are loaded this entity is given out for it. -/
inductive Occurs (settings : Settings) (statements : List Statement) : Node → EntityId → Prop where
  /-- The node is the subject of a statement of use. -/
  | subject (before : List Statement) (statement : Statement)
    (hplace : before ++ [statement] <+: statements) (hused : statement.IsUsed settings) :
    Occurs settings statements statement.subject (subjectEntity settings before statement)
  /-- The node is what a statement of use relates its subject to. -/
  | object (before : List Statement) (statement : Statement)
    (hplace : before ++ [statement] <+: statements) (relation : Relation) (object : Node)
    (hused : statement.IsUsedFor settings (.relation relation object)) :
    Occurs settings statements object (objectEntity settings before statement object)

variable {settings : Settings} {statements : List Statement} {node : Node} {entity : EntityId}
  {identifier : Identifier}

/-! ### Entities are kept -/

/-- One more statement keeps the entity of every identifier. -/
theorem find?_add {progress : Progress} (h : progress.draft.find? identifier = some entity)
    (statement : Statement) :
    (progress.add settings statement).draft.find? identifier = some entity := by
  rw [draft_add]
  cases statement.saying? settings with
  | none => exact h
  | some saying =>
    rw [Option.elim_some, Draft.find?_say]
    exact Draft.find?_mentionAll_of_find? h

/-- All further statements keep the entity of every identifier. -/
theorem find?_drafted_of_prefix {before : List Statement} (hplace : before <+: statements)
    (h : (drafted settings before).find? identifier = some entity) :
    (drafted settings statements).find? identifier = some entity := by
  obtain ⟨after, rfl⟩ := hplace
  unfold drafted at h ⊢
  rw [List.foldl_append]
  generalize before.foldl (Progress.add settings) {} = progress at h ⊢
  induction after generalizing progress with
  | nil => exact h
  | cons statement rest ih => exact ih (progress.add settings statement) (find?_add h statement)

/-- A statement of use adds what it mentions. -/
theorem find?_drafted_concat {statement : Statement} {use : Use}
    (hused : statement.IsUsedFor settings use) (before : List Statement) :
    (drafted settings (before ++ [statement])).find? identifier =
      ((drafted settings before).mentionAll
        (Saying.mentions ⟨statement.subject.identifier, use.remark⟩)).find? identifier := by
  have hsaying : statement.saying? settings = some ⟨statement.subject.identifier, use.remark⟩ := by
    rw [Statement.saying?, Statement.use?_eq_some_iff.2 hused, Option.map_some]
  rw [drafted, List.foldl_append, List.foldl_cons, List.foldl_nil, draft_add, hsaying,
    Option.elim_some, Draft.find?_say]
  rfl

/-- The entity that is given out for an occurrence is found under the identifier of the node. -/
theorem Occurs.find?_drafted (h : Occurs settings statements node entity) :
    (drafted settings statements).find? node.identifier = some entity := by
  -- The entity is found right behind the statement, so it is found behind all of them.
  cases h with
  | subject before statement hplace hused =>
    obtain ⟨use, hfor⟩ := hused
    apply find?_drafted_of_prefix hplace
    rw [find?_drafted_concat hfor, subjectEntity, Node.identifier_spelling]
    have hmention := Draft.find?_mention (drafted settings before) statement.subject.identifier
    exact (Draft.find?_mentionAll_of_find? hmention :)
  | object before statement hplace relation _ hused =>
    apply find?_drafted_of_prefix hplace
    rw [find?_drafted_concat hused, objectEntity, Node.identifier_spelling]
    exact Draft.find?_mention
      ((drafted settings before).mention statement.subject.identifier).2 node.identifier

/-! ### Entities are those of nodes -/

/-- What has been stated is what the statements of use say. -/
theorem outlines_drafted (settings : Settings) (statements : List Statement) :
    (drafted settings statements).Outlines
      (statements.filterMap (Statement.saying? settings)) := by
  rw [drafted, draft_foldl_add]
  exact Draft.outlines_foldl_say _

/-- An identifier in a statement of use is the one of a node that occurs. -/
theorem exists_occurs_of_mem_identifiers (h : identifier ∈ identifiers settings statements) :
    ∃ node entity, Occurs settings statements node entity ∧ node.identifier = identifier := by
  rw [identifiers, List.mem_eraseDups, List.mem_flatMap] at h
  obtain ⟨statement, hmem, hidentifier⟩ := h
  obtain ⟨hstatement, hused⟩ := List.mem_filter.1 hmem
  obtain ⟨use, hfor⟩ := of_decide_eq_true hused
  obtain ⟨before, after, rfl⟩ := List.append_of_mem hstatement
  have hplace : before ++ [statement] <+: before ++ statement :: after := ⟨after, by simp⟩
  have hsubject := Occurs.subject before statement hplace ⟨use, hfor⟩
  rw [← hfor.mentions_eq, Saying.mentions] at hidentifier
  rcases List.mem_cons.1 hidentifier with rfl | hobject
  · exact ⟨statement.subject, _, hsubject, rfl⟩
  · cases hfor with
    | label => simp [Use.remark, Remark.link?] at hobject
    | comment => simp [Use.remark, Remark.link?] at hobject
    | kind => simp [Use.remark, Remark.link?] at hobject
    | relation relation object hpredicate hname hvalue =>
      obtain rfl : identifier = object.identifier := by
        simpa [Use.remark, Remark.link?] using hobject
      exact ⟨object, _, .object before statement hplace relation object
        (.relation relation object hpredicate hname hvalue), rfl⟩

/-- The entities of a loaded graph are those of the nodes that occur. -/
theorem has_load_iff (settings : Settings) (statements : List Statement) (entity : EntityId) :
    (load settings statements).graph.has entity ↔
      ∃ node, Occurs settings statements node entity := by
  have houtlines := outlines_drafted settings statements
  have hgraph : (load settings statements).graph = (drafted settings statements).freeze := rfl
  rw [hgraph, Draft.has_freeze, decide_eq_true_iff, houtlines.size_profiles]
  constructor
  -- A number in use is that of an identifier, which a node that occurs has, and what was given out
  -- for this node is found under the same identifier.
  · intro hslot
    obtain ⟨identifier, hget⟩ : ∃ identifier, (Saying.introduced
        (statements.filterMap (Statement.saying? settings)))[entity.slot]? = some identifier :=
      ⟨_, List.getElem?_eq_getElem hslot⟩
    have hfind := (houtlines.find?_iff identifier entity).2 hget
    have hmem := List.mem_of_getElem? hget
    rw [introduced_saying?] at hmem
    obtain ⟨node, other, hoccurs, hidentifier⟩ := exists_occurs_of_mem_identifiers hmem
    have hother := hoccurs.find?_drafted
    rw [hidentifier, hfind] at hother
    obtain rfl := Option.some.inj hother
    exact ⟨node, hoccurs⟩
  · rintro ⟨node, hoccurs⟩
    have hget := (houtlines.find?_iff _ entity).1 hoccurs.find?_drafted
    obtain ⟨hslot, -⟩ := List.getElem?_eq_some_iff.1 hget
    exact hslot

/-- Entities are found in a loaded graph under the identifiers of the nodes that they are of. -/
theorem Occurs.find?_load (h : Occurs settings statements node entity) :
    (load settings statements).graph.find? node.identifier = some entity := by
  have hwellFormed := (outlines_drafted settings statements).wellFormed
  exact (hwellFormed.find?_freeze node.identifier).trans h.find?_drafted

/-- Two occurrences are of the same entity exactly if they are of the same node. -/
theorem Occurs.entity_eq_iff (h : Occurs settings statements node entity) {other : Node}
    {otherEntity : EntityId} (hoccurs : Occurs settings statements other otherEntity)
    (hnode : node.IsAbsolute) (hother : other.IsAbsolute) : entity = otherEntity ↔ node = other := by
  have hfind := h.find?_drafted
  have hfound := hoccurs.find?_drafted
  constructor
  · rintro rfl
    have hwellFormed := (outlines_drafted settings statements).wellFormed
    exact (Node.identifier_inj hnode hother).1 (hwellFormed.find?_inj hfind hfound)
  · rintro rfl
    rw [hfound] at hfind
    exact (Option.some.inj hfind).symm

/-- A node is known by the same identifier as a subject, where its spelling is looked at, and as a
value. A text is known by none, and absolute nodes with the same identifier are the same. Of
whatever statements are loaded, the entities are those of the nodes that occur in them, and each is
found under the identifier of its node. Two occurrences of absolute nodes, as a subject or as an
object, are of the same entity exactly if they are of the same node. -/
theorem same_entity_iff_same_node :
    (∀ node : Node, (Term.node node).identifier? = some node.spelling.identifier) ∧
    (∀ text : String, (Term.literal text).identifier? = none) ∧
    (∀ node other : Node, node.IsAbsolute → other.IsAbsolute →
      (node.spelling.identifier = other.spelling.identifier ↔ node = other)) ∧
    ∀ (settings : Settings) (statements : List Statement),
      (∀ entity, (load settings statements).graph.has entity ↔
        ∃ node, Occurs settings statements node entity) ∧
      (∀ node entity, Occurs settings statements node entity →
        (load settings statements).graph.find? node.spelling.identifier = some entity) ∧
      ∀ node entity other otherEntity, Occurs settings statements node entity →
        Occurs settings statements other otherEntity → node.IsAbsolute → other.IsAbsolute →
          (entity = otherEntity ↔ node = other) := by
  refine ⟨fun node => ?_, fun text => rfl, fun node other hnode hother => ?_,
    fun settings statements => ⟨has_load_iff settings statements, fun node entity h => ?_,
      fun node entity other otherEntity h hoccurs => h.entity_eq_iff hoccurs⟩⟩
  · rw [Node.identifier_spelling]
    rfl
  · rw [Node.identifier_spelling, Node.identifier_spelling]
    exact Node.identifier_inj hnode hother
  · rw [Node.identifier_spelling]
    exact h.find?_load

/-- The quay has a way to moor there, which is a blank node. -/
def quayOperator : Statement where
  subject := .iri "urn:quay"
  predicate := "http://example.org/plan#hasOperator"
  object := .node (.blank "moor")

/-- The blank node is called so. -/
def mooringLabel : Statement where
  subject := .blank "moor"
  predicate := Vocabulary.label
  object := .literal "moor"

/-- Something else has an IRI that ends in the spelling of the blank node, and is called so. -/
def signLabel : Statement where
  subject := .iri "urn:_:moor"
  predicate := Vocabulary.label
  object := .literal "_:moor"

/-- A node without a label has the quay as its domain. -/
def harbourDomain : Statement where
  subject := .anonymous 0
  predicate := "http://example.org/plan#hasDomain"
  object := .node (.iri "urn:quay")

/-- The statements about the quay. -/
def quayside : List Statement := [quayOperator, mooringLabel, signLabel, harbourDomain]

/-- The way to moor is the same entity as an object and as a subject, and so is the quay as a
subject and as an object. What only looks like the blank node is another entity. -/
theorem quayside_same_entity :
    ((Node.blank "moor").IsAbsolute ∧ (Node.iri "urn:_:moor").IsAbsolute ∧
      (Node.iri "urn:quay").IsAbsolute) ∧
    objectEntity {} [] quayOperator (.blank "moor") =
      subjectEntity {} [quayOperator] mooringLabel ∧
    subjectEntity {} [quayOperator] mooringLabel ≠
      subjectEntity {} [quayOperator, mooringLabel] signLabel ∧
    subjectEntity {} [] quayOperator =
      objectEntity {} [quayOperator, mooringLabel, signLabel] harbourDomain (.iri "urn:quay") := by
  have hsign : (Node.iri "urn:_:moor").IsAbsolute := by decide
  have hquay : (Node.iri "urn:quay").IsAbsolute := by decide
  obtain ⟨-, -, -, hloaded⟩ := same_entity_iff_same_node
  obtain ⟨-, -, hsame⟩ := hloaded {} quayside
  have hobject : Occurs {} quayside (.blank "moor") _ :=
    .object [] quayOperator ⟨_, rfl⟩ .hasOperator (.blank "moor")
      (.relation _ _ (by decide) (by decide) rfl)
  have hsubject : Occurs {} quayside (.blank "moor") _ :=
    .subject [quayOperator] mooringLabel ⟨_, rfl⟩ (by decide)
  have hother : Occurs {} quayside (.iri "urn:_:moor") _ :=
    .subject [quayOperator, mooringLabel] signLabel ⟨_, rfl⟩ (by decide)
  have hfirst : Occurs {} quayside (.iri "urn:quay") _ :=
    .subject [] quayOperator ⟨_, rfl⟩ (by decide)
  have hlast : Occurs {} quayside (.iri "urn:quay") _ :=
    .object [quayOperator, mooringLabel, signLabel] harbourDomain ⟨_, rfl⟩ .hasDomain
      (.iri "urn:quay") (.relation _ _ (by decide) (by decide) rfl)
  refine ⟨⟨trivial, hsign, hquay⟩, ?_, ?_, ?_⟩
  · exact (hsame _ _ _ _ hobject hsubject trivial trivial).2 rfl
  · exact fun heq => nomatch (hsame _ _ _ _ hsubject hother trivial hsign).1 heq
  · exact (hsame _ _ _ _ hfirst hlast hquay hquay).2 rfl

end TaskNet.Rdf
