import TaskNet.Text.Split

/-!
# The planning vocabulary

The twenty-four relations that link the entities of a planning knowledge base. A relation is named
exactly by its vocabulary name; in a linked document it is named by any IRI whose local name (the
text behind the last number sign, else behind the last slash) is that name.
-/

namespace TaskNet

/-- A named relation between two entities. -/
inductive Relation where
  | hasMethod
  | hasOperator
  | hasFlow
  | hasDomain
  | hasInitialState
  | hasGoal
  | hasPredicate
  | consistsOfMethod
  | mfHasPrecondition
  | opHasPrecondition
  | hasPostconditionMe
  | hasPostconditionOp
  | deletesPredicate
  | addsPredicate
  | meHasParameter
  | opHasParameter
  | prHasParameter
  | meHasObject
  | opHasObject
  | prHasObject
  | meSpecializationOf
  | opSpecializationOf
  | prSpecializationOf
  | negativeOf
deriving DecidableEq, Repr

/-- The local name of an IRI: the text behind its last `#`, else behind its last `/`, else all of
it. -/
def localName (iri : String) : String :=
  String.ofList (Text.afterLast (if '#' ∈ iri.toList then '#' else '/') iri.toList)

namespace Relation

/-- Every relation, in the order of the vocabulary. -/
def all : List Relation :=
  [hasMethod, hasOperator, hasFlow, hasDomain, hasInitialState, hasGoal, hasPredicate,
    consistsOfMethod, mfHasPrecondition, opHasPrecondition, hasPostconditionMe,
    hasPostconditionOp, deletesPredicate, addsPredicate, meHasParameter, opHasParameter,
    prHasParameter, meHasObject, opHasObject, prHasObject, meSpecializationOf,
    opSpecializationOf, prSpecializationOf, negativeOf]

/-- No relation is left out of the vocabulary list. -/
theorem mem_all (relation : Relation) : relation ∈ all := by
  cases relation <;> simp [all]

/-- The name of a relation in the vocabulary. -/
def name : Relation → String
  | hasMethod => "hasMethod"
  | hasOperator => "hasOperator"
  | hasFlow => "hasFlow"
  | hasDomain => "hasDomain"
  | hasInitialState => "hasInitialState"
  | hasGoal => "hasGoal"
  | hasPredicate => "hasPredicate"
  | consistsOfMethod => "consistsOfMethod"
  | mfHasPrecondition => "mfHasPrecondition"
  | opHasPrecondition => "opHasPrecondition"
  | hasPostconditionMe => "hasPostconditionMe"
  | hasPostconditionOp => "hasPostconditionOp"
  | deletesPredicate => "deletesPredicate"
  | addsPredicate => "addsPredicate"
  | meHasParameter => "meHasParameter"
  | opHasParameter => "opHasParameter"
  | prHasParameter => "prHasParameter"
  | meHasObject => "meHasObject"
  | opHasObject => "opHasObject"
  | prHasObject => "prHasObject"
  | meSpecializationOf => "meSpecializationOf"
  | opSpecializationOf => "opSpecializationOf"
  | prSpecializationOf => "prSpecializationOf"
  | negativeOf => "negativeOf"

/-- The relation with exactly this vocabulary name. -/
def ofName? (name : String) : Option Relation :=
  all.find? (·.name = name)

/-- Relations are found by their names and by nothing else. -/
theorem ofName?_eq_some_iff {name : String} {relation : Relation} :
    ofName? name = some relation ↔ name = relation.name := by
  constructor
  · intro h
    have hfound := List.find?_some (p := fun relation : Relation => relation.name = name) h
    exact (of_decide_eq_true hfound).symm
  · rintro rfl
    cases relation <;> rfl

theorem name_inj {relation other : Relation} : relation.name = other.name ↔ relation = other := by
  constructor
  · intro h
    have hfound := ofName?_eq_some_iff.2 h
    rw [ofName?_eq_some_iff.2 rfl] at hfound
    exact Option.some.inj hfound
  · rintro rfl
    rfl

/-- The relation that an IRI names by its local name. -/
def ofIri? (iri : String) : Option Relation :=
  ofName? (localName iri)

end Relation

end TaskNet
