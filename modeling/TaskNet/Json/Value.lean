/-!
# JSON values

The tree of a JSON document. Members of an object are kept in order and with repetitions. Two
constructors hold what no record of this library accepts and what yet may stand where values are
ignored: numbers other than plain natural ones, and text that is no Unicode text.
-/

namespace TaskNet.Json

/-- A JSON value. -/
inductive Value where
  /-- The null value. -/
  | null
  /-- A truth value. -/
  | bool (value : Bool)
  /-- A number that is spelled by digits alone. -/
  | natural (number : Nat)
  /-- Any other number, as it is spelled. -/
  | number (spelling : String)
  /-- A text. -/
  | string (text : String)
  /-- A text, or an object with a member name, that holds half of a surrogate pair. -/
  | unreadable
  /-- A list of values. -/
  | array (items : List Value)
  /-- A list of named values. -/
  | object (members : List (String × Value))
deriving Repr, Inhabited

namespace Value

/-- The value of an optional field: null if there is none. -/
def ofOption {α : Type} (encode : α → Value) : Option α → Value
  | none => null
  | some value => encode value

end Value

end TaskNet.Json
