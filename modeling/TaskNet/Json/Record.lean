import TaskNet.Json.Value

/-!
# Records in JSON

A record has named fields in a fixed order. It is written as an object and may be read from an
object or from an array of its fields in order. In an object every field may stand at most once;
a record is closed if it takes no other members, otherwise they are ignored. In an array no field
may follow the last one of the record, and fields may only be missing at the end.
-/

namespace TaskNet.Json

/-- The values that were given for the fields of a record. -/
structure Fields where
  /-- The fields that were given, by name and without repetitions. -/
  given : List (String × Value)
  /-- Whether fields were given by name, as in an object. -/
  named : Bool

namespace Fields

/-- The fields of a record in a value. -/
def ofValue? (names : List String) (closed : Bool) : Value → Option Fields
  | .object members =>
    let known := members.filter (·.1 ∈ names)
    if (known.map (·.1)).Nodup ∧ (closed → members.all (·.1 ∈ names)) then
      some { given := known, named := true }
    else none
  | .array items =>
    if items.length ≤ names.length then some { given := names.zip items, named := false }
    else none
  | _ => none

/-- The value that was given for a field. -/
def get? (fields : Fields) (name : String) : Option Value :=
  fields.given.lookup name

/-- A field that has to be given. -/
def required {α : Type} (fields : Fields) (name : String) (decode : Value → Option α) : Option α :=
  (fields.get? name).bind decode

/-- A field that stands for a default if it is not given. -/
def withDefault {α : Type} (fields : Fields) (name : String) (default : α)
    (decode : Value → Option α) : Option α :=
  match fields.get? name with
  | some value => decode value
  | none => some default

/-- A field that may be left out of an object, but not of an array. -/
def nullable {α : Type} (fields : Fields) (name : String)
    (decode : Value → Option (Option α)) : Option (Option α) :=
  match fields.get? name with
  | some value => decode value
  | none => if fields.named then some none else none

end Fields

namespace Value

/-- A text. -/
def asString? : Value → Option String
  | string text => some text
  | _ => none

/-- A truth value. -/
def asBool? : Value → Option Bool
  | bool value => some value
  | _ => none

/-- A natural number below a bound. -/
def asNatural? (bound : Nat) : Value → Option Nat
  | natural count => if count < bound then some count else none
  | _ => none

/-- A value that may be null. -/
def asOption? {α : Type} (decode : Value → Option α) : Value → Option (Option α)
  | null => some none
  | value => (decode value).map some

/-- A list of values that can all be decoded. -/
def asList? {α : Type} (decode : Value → Option α) : Value → Option (List α)
  | array items => items.mapM decode
  | _ => none

/-- A name, which may also be given as the only member of an object, with a null for its value. -/
def asName? {α : Type} (ofName? : String → Option α) : Value → Option α
  | string name => ofName? name
  | object [(name, null)] => ofName? name
  | _ => none

end Value

end TaskNet.Json
