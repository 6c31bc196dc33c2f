import TaskNet.Json.Token
import TaskNet.Json.Value

/-!
# Reading JSON

Tokens are put together to a value by a machine with a stack of unfinished arrays and objects, so
that a document of any depth is read in one pass. What the machine may meet next is its mode.
-/

namespace TaskNet.Json

namespace Reader

/-- An array or object that is not finished yet, with its latest part first. A member name may be
unreadable, and then so is the object. -/
inductive Frame where
  /-- An array with these items. -/
  | array (items : List Value)
  /-- An object with these members. -/
  | object (members : List (Option String × Value))
  /-- An object with these members and the name of one more. -/
  | member (members : List (Option String × Value)) (name : Option String)

/-- What may come next. -/
inductive Mode where
  /-- A value. -/
  | value
  /-- The first item of an array, or its end. -/
  | firstItem
  /-- The first member name of an object, or its end. -/
  | firstName
  /-- A member name. -/
  | name
  /-- The colon behind a member name. -/
  | colon
  /-- A comma, or the end of an array or object. -/
  | separator
  /-- Nothing: the whole value has been read. -/
  | finished (value : Value)

/-- The state of reading. -/
structure State where
  /-- The unfinished arrays and objects, innermost first. -/
  frames : List Frame := []
  /-- What may come next. -/
  mode : Mode := .value

/-- The value of an object with these members. -/
def objectOf (members : List (Option String × Value)) : Value :=
  match members.mapM fun (name, value) => name.map fun name => (name, value) with
  | some members => .object members
  | none => .unreadable

/-- Reads on after a complete value. -/
def complete (value : Value) : List Frame → Option State
  | [] => some { mode := .finished value }
  | .array items :: frames => some ⟨.array (value :: items) :: frames, .separator⟩
  | .member members name :: frames =>
    some ⟨.object ((name, value) :: members) :: frames, .separator⟩
  | .object _ :: _ => none

/-- Reads the first token of a value. -/
def beginValue (frames : List Frame) : Token → Option State
  | .null => complete .null frames
  | .bool value => complete (.bool value) frames
  | .natural number => complete (.natural number) frames
  | .number spelling => complete (.number spelling) frames
  | .string (some text) => complete (.string text) frames
  | .string none => complete .unreadable frames
  | .openBracket => some ⟨.array [] :: frames, .firstItem⟩
  | .openBrace => some ⟨.object [] :: frames, .firstName⟩
  | _ => none

/-- Reads the end of the innermost array or object. -/
def close (frames : List Frame) (token : Token) : Option State :=
  match frames, token with
  | .array items :: frames, .closeBracket => complete (.array items.reverse) frames
  | .object members :: frames, .closeBrace => complete (objectOf members.reverse) frames
  | _, _ => none

/-- Reads a member name. -/
def beginMember (frames : List Frame) (token : Token) : Option State :=
  match frames, token with
  | .object members :: frames, .string name => some ⟨.member members name :: frames, .colon⟩
  | _, _ => none

/-- Reads a comma, or the end of an array or object. -/
def separate (frames : List Frame) (token : Token) : Option State :=
  match frames, token with
  | .array _ :: _, .comma => some ⟨frames, .value⟩
  | .object _ :: _, .comma => some ⟨frames, .name⟩
  | _, _ => close frames token

/-- Reads one token. -/
def step (state : State) (token : Token) : Option State :=
  match state.mode with
  | .value => beginValue state.frames token
  | .firstItem =>
    if token = .closeBracket then close state.frames token else beginValue state.frames token
  | .firstName =>
    if token = .closeBrace then close state.frames token else beginMember state.frames token
  | .name => beginMember state.frames token
  | .colon => if token = .colon then some { state with mode := .value } else none
  | .separator => separate state.frames token
  | .finished _ => none

end Reader

namespace Value

/-- The value that tokens make up, if they make up exactly one. -/
def ofTokens? (tokens : List Token) : Option Value :=
  match tokens.foldlM Reader.step {} with
  | some { mode := .finished value, .. } => some value
  | _ => none

/-- The value of a document. -/
def parse? (text : List Char) : Option Value :=
  (Token.lex text).bind ofTokens?

end Value

end TaskNet.Json
