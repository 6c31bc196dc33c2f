import TaskNet.Json.Value

/-!
# Writing JSON

A value is written on one line without blanks, or with one item or member to a line and two blanks
of indentation for each level. Quotes, backslashes and control characters are escaped in texts;
everything else stands for itself.
-/

namespace TaskNet.Json

/-- The hexadecimal digit of a number below sixteen. -/
def hexChar (digit : Nat) : Char := Nat.digitChar digit

/-- A character as it is written in a text. -/
def escape (c : Char) : List Char :=
  match c with
  | '"' => ['\\', '"']
  | '\\' => ['\\', '\\']
  | '\n' => ['\\', 'n']
  | '\r' => ['\\', 'r']
  | '\t' => ['\\', 't']
  | '\x08' => ['\\', 'b']
  | '\x0c' => ['\\', 'f']
  | c =>
    if c < ' ' then
      ['\\', 'u', '0', '0', hexChar (c.toNat / 16), hexChar (c.toNat % 16)]
    else [c]

/-- A text in quotes. -/
def quote (text : String) : List Char :=
  '"' :: text.toList.flatMap escape ++ ['"']

/-- Lists of characters, joined with a separator between them. -/
def joinWith (separator : List Char) : List (List Char) → List Char
  | [] => []
  | [text] => text
  | text :: rest => text ++ separator ++ joinWith separator rest

theorem joinWith_cons_cons (separator text second : List Char) (rest : List (List Char)) :
    joinWith separator (text :: second :: rest) =
      text ++ separator ++ joinWith separator (second :: rest) := rfl

/-- A list between brackets on lines of its own, at a depth of indentation. -/
def block (opening closing : Char) (depth : Nat) (texts : List (List Char)) : List Char :=
  if texts = [] then [opening, closing]
  else
    let newline := '\n' :: List.replicate (2 * (depth + 1)) ' '
    [opening] ++ newline ++ joinWith (',' :: newline) texts ++
      '\n' :: List.replicate (2 * depth) ' ' ++ [closing]

namespace Value

mutual

/-- The value on one line, without blanks. What is unreadable is written as null. -/
def compact : Value → List Char
  | null => "null".toList
  | bool true => "true".toList
  | bool false => "false".toList
  | natural count => Nat.toDigits 10 count
  | number spelling => spelling.toList
  | string text => quote text
  | unreadable => "null".toList
  | array items => '[' :: joinWith [','] (compactItems items) ++ [']']
  | object members => '{' :: joinWith [','] (compactMembers members) ++ ['}']

/-- Each of the values on one line. -/
def compactItems : List Value → List (List Char)
  | [] => []
  | item :: rest => compact item :: compactItems rest

/-- Each of the members on one line. -/
def compactMembers : List (String × Value) → List (List Char)
  | [] => []
  | (name, value) :: rest => (quote name ++ ':' :: compact value) :: compactMembers rest

end

mutual

/-- The value with one item or member to a line, at a depth of indentation. -/
def pretty (depth : Nat) : Value → List Char
  | array items => block '[' ']' depth (prettyItems (depth + 1) items)
  | object members => block '{' '}' depth (prettyMembers (depth + 1) members)
  | value => compact value

/-- Each of the values, at a depth of indentation. -/
def prettyItems (depth : Nat) : List Value → List (List Char)
  | [] => []
  | item :: rest => pretty depth item :: prettyItems depth rest

/-- Each of the members, at a depth of indentation. -/
def prettyMembers (depth : Nat) : List (String × Value) → List (List Char)
  | [] => []
  | (name, value) :: rest =>
    (quote name ++ ':' :: ' ' :: pretty depth value) :: prettyMembers depth rest

end

/-- The value as one line of text. -/
def compactText (value : Value) : String := String.ofList value.compact

/-- The value as indented text. -/
def prettyText (value : Value) : String := String.ofList (value.pretty 0)

end Value

end TaskNet.Json
