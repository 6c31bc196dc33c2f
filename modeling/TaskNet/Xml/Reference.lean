import TaskNet.Text.Digits
import TaskNet.Text.Split

/-!
# References in XML

Between an ampersand and a semicolon a text refers to a character by its number, or to an entity by
its name. Five entities are known to every document, and its document type may declare others.
-/

namespace TaskNet.Xml

/-- The entities that a document declares, latest first. -/
abbrev Entities := List (List Char × List Char)

/-- The blanks of XML. -/
def isBlank (c : Char) : Bool := c = ' ' || c = '\t' || c = '\n' || c = '\r'

/-- The text of an entity that every document knows. -/
def predefined? (name : List Char) : Option Char :=
  match String.ofList name with
  | "lt" => some '<'
  | "gt" => some '>'
  | "amp" => some '&'
  | "apos" => some '\''
  | "quot" => some '"'
  | _ => none

/-- The character with the number that is spelled behind a number sign. -/
def numbered? (spelling : List Char) : Option Char :=
  let number? := match spelling with
    | 'x' :: digits => if digits = [] then none else Text.hexNumber? digits
    | digits =>
      if digits ≠ [] && digits.all Char.isDigit then some (Text.decimalNumber digits) else none
  number?.bind fun number => if number = 0 then none else Text.char? number

/-- The text that a reference stands for. An ampersand can be no part of it. -/
def referent? (entities : Entities) (name : List Char) : Option (List Char) :=
  match name with
  | '#' :: spelling => (numbered? spelling).map fun c => [c]
  | _ =>
    if '&' ∈ name then none
    else
      match predefined? name with
      | some c => some [c]
      | none => entities.lookup name

/-- A text with all of its references replaced. -/
def dereference? (entities : Entities) : List Char → Option (List Char)
  | [] => some []
  | c :: rest =>
    if c = '&' then
      match _h : Text.splitFirst? (· = ';') rest with
      | none => none
      | some (name, rest) => do
        let referent ← referent? entities name
        let text ← dereference? entities rest
        return referent ++ text
    else (dereference? entities rest).map (c :: ·)
termination_by text => text.length
decreasing_by
  · exact Nat.lt_succ_of_lt (Text.splitFirst?_length _h)
  · simp

/-- The characters of a text that are written as references. -/
def escapeChar : Char → List Char
  | '<' => "&lt;".toList
  | '>' => "&gt;".toList
  | '&' => "&amp;".toList
  | '\'' => "&apos;".toList
  | '"' => "&quot;".toList
  | c => [c]

/-- A text as it is written where it must not be taken for markup. -/
def escape (text : List Char) : List Char := text.flatMap escapeChar

/-! ### Declarations of entities -/

/-- The blanks between the parts of a declaration. -/
def isSpace (c : Char) : Bool :=
  (9 ≤ c.toNat && c.toNat ≤ 13) || (0x2000 ≤ c.toNat && c.toNat ≤ 0x200A) ||
    c.toNat ∈ [0x20, 0x85, 0xA0, 0x1680, 0x2028, 0x2029, 0x202F, 0x205F, 0x3000]

/-- The text behind the blanks that it begins with. -/
def trimStart (text : List Char) : List Char := text.dropWhile isSpace

/-- The entity that a declaration gives behind the word that introduces it. Only an ASCII blank ends
its name. -/
def declared? (entities : Entities) (text : List Char) : Option (List Char × List Char) := do
  let text := trimStart text
  let text := trimStart (if text.head? = some '%' then text.tail else text)
  let (name, text) ← Text.splitFirst? (fun c => isBlank c || c = '\x0c') text
  let '"' :: text := trimStart text | none
  let (value, text) ← Text.splitFirst? (· = '"') text
  let '>' :: _ := trimStart text | none
  let value ← dereference? entities value
  return (name, value)

/-- The entities that are known behind a document type. -/
def declareAll? (entities : Entities) (doctype : List Char) : Option Entities :=
  (Text.pieces '<' doctype).tail.foldlM (fun entities piece =>
    match Text.behind? "!ENTITY".toList piece with
    | some text => (declared? entities text).map (· :: entities)
    | none => some entities) entities

end TaskNet.Xml
