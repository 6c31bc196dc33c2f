import TaskNet.Text.Escape

/-!
# Keys and values of settings documents

Settings documents are written in TOML. This module reads what may stand on either side of an
equals sign: keys, truth values and the four spellings of texts. Other kinds of values, and keys of
several parts, are not read, because no setting takes them.
-/

namespace TaskNet.Toml

/-- A value that a setting may take. -/
inductive Scalar where
  | bool (value : Bool)
  | string (text : String)
deriving DecidableEq, Repr

/-- The blanks inside a line. -/
def isBlank (c : Char) : Bool := c = ' ' || c = '\t'

/-- Whether a character may stand for itself inside a line: any but controls, with the exception of
the tabulator. -/
def isPlain (c : Char) : Bool := c = '\t' || (' ' ≤ c && c ≠ '\x7f')

/-- The text behind the line end that the text begins with. -/
def lineEnd? : List Char → Option (List Char)
  | '\n' :: rest => some rest
  | '\r' :: '\n' :: rest => some rest
  | _ => none

/-- The characters that escape letters stand for. -/
def escaped? : Char → Option Char
  | '"' => some '"'
  | '\\' => some '\\'
  | 'b' => some '\x08'
  | 'f' => some '\x0c'
  | 'n' => some '\n'
  | 'r' => some '\r'
  | 't' => some '\t'
  | _ => none

/-- The text up to the closing double quote, with escapes, and what follows the quote. -/
def scanBasic : List Char → Option (List Char × List Char)
  | [] => none
  | c :: rest =>
    if c = '"' then some ([], rest)
    else if c = '\\' then
      match _h : Text.unescape? escaped? rest with
      | none => none
      | some (c, rest) => (scanBasic rest).map fun (text, rest) => (c :: text, rest)
    else if isPlain c then (scanBasic rest).map fun (text, rest) => (c :: text, rest)
    else none
termination_by text => text.length
decreasing_by
  · exact Nat.lt_succ_of_lt (Text.unescape?_length _h)
  · simp

/-- The text up to the closing single quote, and what follows the quote. -/
def scanLiteral : List Char → Option (List Char × List Char)
  | [] => none
  | c :: rest =>
    if c = '\'' then some ([], rest)
    else if isPlain c then (scanLiteral rest).map fun (text, rest) => (c :: text, rest)
    else none

/-- The text up to three closing quotes, and what follows them. Up to two more quotes in front of
the closing ones belong to the text. Escapes are read only where `escapes` says so: a backslash at
the end of a line then takes away all blanks and line ends behind it, which `trimming` remembers. -/
def scanLong (quote : Char) (escapes trimming : Bool) : List Char → Option (List Char × List Char)
  | [] => none
  | '\n' :: rest =>
    if trimming then scanLong quote escapes true rest
    else (scanLong quote escapes false rest).map fun (text, rest) => ('\n' :: text, rest)
  | '\r' :: rest =>
    match rest with
    | '\n' :: rest =>
      if trimming then scanLong quote escapes true rest
      else (scanLong quote escapes false rest).map fun (text, rest) => ('\n' :: text, rest)
    | _ => none
  | c :: rest =>
    if c = quote then
      let run := rest.takeWhile (· = quote)
      if run.length < 2 then
        (scanLong quote escapes false rest).map fun (text, rest) => (c :: text, rest)
      else
        let extra := min (run.length - 2) 2
        some (List.replicate extra quote, rest.drop (2 + extra))
    else if c = '\\' && escapes then
      if (lineEnd? (rest.dropWhile isBlank)).isSome then scanLong quote escapes true rest
      else
        match _h : Text.unescape? escaped? rest with
        | none => none
        | some (c, rest) =>
          (scanLong quote escapes false rest).map fun (text, rest) => (c :: text, rest)
    else if trimming && isBlank c then scanLong quote escapes true rest
    else if isPlain c then
      (scanLong quote escapes false rest).map fun (text, rest) => (c :: text, rest)
    else none
termination_by text => text.length
decreasing_by
  all_goals first
    | exact Nat.lt_succ_of_lt (Text.unescape?_length _h)
    | (simp only [List.length_cons]; omega)

/-- What follows the line end right behind three opening quotes, which is not part of the text. -/
def dropLineEnd (text : List Char) : List Char := (lineEnd? text).getD text

/-- The value that a text begins with, and what follows it. -/
def scanScalar (text : List Char) : Option (Scalar × List Char) :=
  let asText := Option.map fun ((text, rest) : List Char × List Char) =>
    (Scalar.string (String.ofList text), rest)
  match text with
  | '"' :: '"' :: '"' :: rest => asText (scanLong '"' true false (dropLineEnd rest))
  | '"' :: rest => asText (scanBasic rest)
  | '\'' :: '\'' :: '\'' :: rest => asText (scanLong '\'' false false (dropLineEnd rest))
  | '\'' :: rest => asText (scanLiteral rest)
  | 't' :: 'r' :: 'u' :: 'e' :: rest => some (.bool true, rest)
  | 'f' :: 'a' :: 'l' :: 's' :: 'e' :: rest => some (.bool false, rest)
  | _ => none

/-- Whether a character may stand in a key without quotes. -/
def isBareKey (c : Char) : Bool := c.isAlphanum || c = '_' || c = '-'

/-- The key that a text begins with, and what follows it. -/
def scanKey (text : List Char) : Option (String × List Char) :=
  let asKey := fun ((key, rest) : List Char × List Char) => (String.ofList key, rest)
  match text with
  | '"' :: rest => (scanBasic rest).map asKey
  | '\'' :: rest => (scanLiteral rest).map asKey
  | _ =>
    let key := text.takeWhile isBareKey
    if key = [] then none else some (asKey (key, text.dropWhile isBareKey))

/-- What follows the rest of a line that holds only blanks and perhaps a comment. -/
def scanLineRest (text : List Char) : Option (List Char) :=
  let behind := text.dropWhile isBlank
  let behind := if behind.head? = some '#' then behind.dropWhile isPlain else behind
  if behind = [] then some [] else lineEnd? behind

/-- The key and value on the line that a text begins with, if it holds any, and what follows the
line. -/
def scanLine (text : List Char) : Option (Option (String × Scalar) × List Char) :=
  match scanLineRest text with
  | some rest => some (none, rest)
  | none => do
    let (key, rest) ← scanKey (text.dropWhile isBlank)
    let '=' :: rest := rest.dropWhile isBlank | none
    let (value, rest) ← scanScalar (rest.dropWhile isBlank)
    let rest ← scanLineRest rest
    return (some (key, value), rest)

/-- The keys and values of at most `limit` lines. -/
def scanLines : Nat → List Char → Option (List (String × Scalar))
  | _, [] => some []
  | 0, _ => none
  | limit + 1, text => do
    let (entry, rest) ← scanLine text
    let entries ← scanLines limit rest
    return entry.toList ++ entries

/-- The keys and values of a document, in order. A document may begin with a byte order mark. -/
def parse? (text : List Char) : Option (List (String × Scalar)) :=
  let lines := if text.head? = some '\ufeff' then text.tail else text
  scanLines (lines.length + 1) lines

end TaskNet.Toml
