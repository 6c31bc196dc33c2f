/-!
# Entities

An entity is a node of the knowledge base: a domain or problem definition, a method, a flow, an
operator, a predicate or one of their arguments. Entities are numbered from one in the order of
their first appearance, and the number is all that other parts know them by.
-/

namespace TaskNet

/-- The number of an entity, never zero. -/
structure EntityId where
  /-- The number itself. -/
  number : Nat
  /-- Numbering starts at one. -/
  pos : 0 < number
deriving DecidableEq, Repr

namespace EntityId

/-- The entity with this number, if it is one. -/
def ofNumber? (number : Nat) : Option EntityId :=
  if pos : 0 < number then some ⟨number, pos⟩ else none

/-- The entity that was introduced after `slot` others. -/
def ofSlot (slot : Nat) : EntityId := ⟨slot + 1, Nat.succ_pos slot⟩

/-- How many entities were introduced before this one. -/
def slot (id : EntityId) : Nat := id.number - 1

@[simp] theorem slot_ofSlot (slot : Nat) : (ofSlot slot).slot = slot := rfl

@[simp] theorem ofSlot_slot (id : EntityId) : ofSlot id.slot = id := by
  obtain ⟨number, pos⟩ := id
  simp only [ofSlot, slot, mk.injEq]
  omega

/-- The number that is given out after this one. -/
def next (id : EntityId) : EntityId := ⟨id.number + 1, Nat.succ_pos id.number⟩

@[simp] theorem next_ofSlot (slot : Nat) : (ofSlot slot).next = ofSlot (slot + 1) := rfl

/-- The numbers of the first `count` entities. -/
def first (count : Nat) : List EntityId := (List.range count).map ofSlot

theorem mem_first {count : Nat} {id : EntityId} : id ∈ first count ↔ id.slot < count := by
  rw [first, List.mem_map]
  constructor
  · rintro ⟨slot, hslot, rfl⟩
    exact List.mem_range.1 hslot
  · intro hslot
    exact ⟨id.slot, List.mem_range.2 hslot, ofSlot_slot id⟩

/-- How an entity is referred to when nothing else is known of it. -/
def text (id : EntityId) : String := "ent:" ++ toString id.number

end EntityId

/-- What kind of definition an entity is the root of. -/
inductive EntityKind where
  /-- The root of a domain definition. -/
  | domain
  /-- The root of a problem definition. -/
  | problem
  /-- Anything else: methods, flows, operators, predicates, arguments. -/
  | other
deriving DecidableEq, Repr

namespace EntityKind

/-- Every kind. -/
def all : List EntityKind := [domain, problem, other]

/-- The name of a kind in documents. -/
def name : EntityKind → String
  | domain => "DomainDefinition"
  | problem => "ProblemDefinition"
  | other => "Other"

/-- The kind with exactly this name. -/
def ofName? (name : String) : Option EntityKind :=
  all.find? (·.name = name)

end EntityKind

/-- What an entity is known by. -/
inductive Identifier where
  /-- A text that the document uses: an IRI, the label of a blank node behind an underscore and a
  colon, or any other text. -/
  | named (text : String)
  /-- A node that the document does not name, by a number of its own. -/
  | anonymous (number : Nat)
deriving DecidableEq, Repr

/-- Whether an identifier belongs to a node that its document does not name. -/
def Identifier.isAnonymous : Identifier → Bool
  | named _ => false
  | anonymous _ => true

theorem Identifier.exists_eq_named {identifier : Identifier}
    (h : identifier.isAnonymous = false) : ∃ text, identifier = .named text := by
  cases identifier with
  | named text => exact ⟨text, rfl⟩
  | anonymous number => cases h

/-- What is said of an entity apart from its relations. -/
structure Description where
  /-- The kind of definition. -/
  kind : EntityKind := .other
  /-- The display label, which becomes the entity's name in forms. -/
  label : Option String := none
  /-- The comment, which carries the argument lists. -/
  comment : Option String := none
deriving DecidableEq, Repr

/-- What is known of an entity apart from its relations. -/
structure Profile extends Description where
  /-- The entity's number. -/
  id : EntityId
  /-- What the entity is known by. -/
  identifier : Identifier
deriving DecidableEq, Repr

/-- An entity with its number and its name. -/
structure Entity extends Description where
  /-- The entity's number. -/
  id : EntityId
  /-- The name by which the entity is shown. -/
  iri : String
deriving DecidableEq, Repr

end TaskNet
