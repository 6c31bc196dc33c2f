import TaskNet.Rdf.LanguageTag
import TaskNet.Rdf.NameChar
import TaskNet.Text.Escape
import TaskNet.Text.Utf8

/-!
# Tokens of linked documents

Turtle and TriG on the one hand, and the line formats N-Triples and N-Quads on the other, are read
as lists of tokens. A `Dialect` says what is a token: the line formats have line ends as tokens,
and only one kind of quotes. Blanks and comments between tokens are dropped.
-/

namespace TaskNet.Rdf

/-- The two families of formats. -/
inductive Dialect where
  /-- Formats in which line ends are blanks. -/
  | free
  /-- Formats with one statement to a line. -/
  | lines
deriving DecidableEq, Repr

/-- A token of a linked document. -/
inductive Token where
  /-- The end of a line. -/
  | lineEnd
  /-- An IRI reference between angle brackets, with its escapes resolved. -/
  | iri (text : List Char)
  /-- A name behind the label of a namespace and a colon. A doubtful name may hold characters that
  do not belong into the path of an IRI. -/
  | named (label : String) (name : String) (doubtful : Bool)
  /-- A blank node by its label. -/
  | blank (label : String)
  /-- A text in quotes. -/
  | string (text : String)
  /-- A language tag, or the name of a directive, behind an at sign. -/
  | language (tag : String)
  /-- A number, as it is spelled. -/
  | number (spelling : String)
  /-- A word without a colon. -/
  | word (text : String)
  /-- The mark between a text and its type. -/
  | typeMark
  | dot
  | comma
  | semicolon
  | openBracket
  | closeBracket
  | openParen
  | closeParen
  | openBrace
  | closeBrace
deriving DecidableEq, Repr

namespace Token

/-! ### IRIs and texts -/

/-- The IRI reference up to the closing angle bracket, and what follows it. -/
def scanIri : List Char → Option (List Char × List Char)
  | [] => none
  | c :: rest =>
    if c = '>' then some ([], rest)
    else if c = '\\' then
      match _h : Text.unescape? (fun _ => none) rest with
      | none => none
      | some (c, rest) => (scanIri rest).map fun (text, rest) => (c :: text, rest)
    else (scanIri rest).map fun (text, rest) => (c :: text, rest)
termination_by text => text.length
decreasing_by
  · exact Nat.lt_succ_of_lt (Text.unescape?_length _h)
  · simp

/-- The characters that escape letters stand for. -/
def escaped? : Char → Option Char
  | '"' => some '"'
  | '\'' => some '\''
  | '\\' => some '\\'
  | 'b' => some '\x08'
  | 'f' => some '\x0c'
  | 'n' => some '\n'
  | 'r' => some '\r'
  | 't' => some '\t'
  | _ => none

/-- The text up to the closing quote, and what follows it. A long text ends with three quotes; any
other one stands on one line. -/
def scanString (quote : Char) (long : Bool) : List Char → Option (List Char × List Char)
  | [] => none
  | c :: rest =>
    if c = quote && !long then some ([], rest)
    else if c = quote && [quote, quote].isPrefixOf rest then some ([], rest.drop 2)
    else if c = '\\' then
      match _h : Text.unescape? escaped? rest with
      | none => none
      | some (c, rest) => (scanString quote long rest).map fun (text, rest) => (c :: text, rest)
    else if (c = '\n' || c = '\r') && !long then none
    else (scanString quote long rest).map fun (text, rest) => (c :: text, rest)
termination_by text => text.length
decreasing_by
  · exact Nat.lt_succ_of_lt (Text.unescape?_length _h)
  · simp

/-! ### Names -/

/-- The characters that may be escaped in the name behind a namespace label. -/
def isNameEscape (c : Char) : Bool :=
  c ∈ ['_', '~', '.', '-', '!', '$', '&', '\'', '(', ')', '*', '+', ',', ';', '=', '/', '?', '#',
    '@', '%']

/-- A character of a name, and whether a backslash stands in front of it. -/
structure NamePart where
  /-- The character. -/
  char : Char
  /-- Whether it is escaped. -/
  escaped : Bool
deriving DecidableEq, Repr

/-- Whether a character is doubtful in a name: it is one of those at the end of the first plane that
IRIs may not hold, or its number is a multiple of `FFFE` or of `FFFF`. -/
def isDoubtfulChar (c : Char) : Bool :=
  inRanges [(0xFFF0, 0xFFFF)] c.toNat || c.toNat % 0xFFFE = 0 || c.toNat % 0xFFFF = 0

/-- Whether a part of a name may be out of place in the path of an IRI. -/
def NamePart.isDoubtful (part : NamePart) : Bool :=
  part.char = ':' || (part.escaped && part.char ∈ ['/', '?', '#', '@', '%']) ||
    isDoubtfulChar part.char

/-- The name that a text begins with, and what follows it. Dots belong to the name if more of the
name follows them. -/
def scanName : List Char → Option (List NamePart × List Char)
  | [] => some ([], [])
  | '.' :: rest => do
    let (name, behind) ← scanName rest
    return if name = [] then ([], '.' :: rest) else (⟨'.', false⟩ :: name, behind)
  | '%' :: rest =>
    match rest with
    | high :: low :: rest =>
      if Text.isHexDigit high && Text.isHexDigit low then do
        let (name, behind) ← scanName rest
        return (⟨'%', false⟩ :: ⟨high, false⟩ :: ⟨low, false⟩ :: name, behind)
      else none
    | _ => none
  | '\\' :: rest =>
    match rest with
    | c :: rest =>
      if isNameEscape c then do
        let (name, behind) ← scanName rest
        return (⟨c, true⟩ :: name, behind)
      else none
    | [] => none
  | c :: rest =>
    if isNameChar c || c = ':' then do
      let (name, behind) ← scanName rest
      return (⟨c, false⟩ :: name, behind)
    else some ([], c :: rest)

/-- The name behind a namespace label, and what follows it. It is empty unless the text begins with
a character that names may begin with. -/
def scanLocal (text : List Char) : Option (List NamePart × List Char) :=
  match text with
  | [] => some ([], [])
  | c :: _ =>
    if isNameStart c || c.isDigit || c = ':' || c = '%' || c = '\\' then scanName text
    else some ([], text)

/-- The characters of a name that stands at the beginning of a text, and what is read behind it. A
name with escapes that nothing but dots separates from the end of the document is cut behind its
last escape. The dots at its end, escaped or not, are taken away, and as many bytes at the end of
the document are read again. -/
def closeName? (text : List Char) (parts : List NamePart) (behind : List Char) :
    Option (List Char × List Char) :=
  if parts.any (·.escaped) && behind.all (· = '.') then
    let reversed := (parts.reverse.dropWhile (!·.escaped)).map (·.char)
    let dots := reversed.takeWhile (· = '.')
    (Text.takeSize? dots.length text.reverse).map fun again =>
      ((reversed.dropWhile (· = '.')).reverse, again.reverse)
  else some (parts.map (·.char), behind)

/-- The label of a blank node, and what follows it. Dots belong to the label if more of the label
follows them. -/
def scanLabel : List Char → List Char × List Char
  | [] => ([], [])
  | c :: rest =>
    if isNameChar c || c = '.' then
      let (label, behind) := scanLabel rest
      if c = '.' && label = [] then ([], c :: rest) else (c :: label, behind)
    else ([], c :: rest)

/-- The blank node that a text begins with behind an underscore, and what follows it. -/
def scanBlank (text : List Char) : Option (Token × List Char) :=
  match text with
  | ':' :: c :: rest =>
    if isNameStart c || c.isDigit then
      let (label, behind) := scanLabel rest
      some (blank (String.ofList (c :: label)), behind)
    else none
  | _ => none

/-- The prefixed name whose namespace label ends in front of a text, and what follows it. -/
def scanNamed (label text : List Char) : Option (Token × List Char) :=
  if label.getLast? = some '.' then none
  else do
    let (parts, behind) ← scanLocal text
    let (name, behind) ← closeName? text parts behind
    let doubtful := parts.any (·.isDoubtful)
    return (named (String.ofList label) (String.ofList name) doubtful, behind)

/-- The word or prefixed name that begins with a letter and goes on with a text, and what follows
it. Dots at the end of a word do not belong to it. -/
def scanWord (c : Char) (text : List Char) : Option (Token × List Char) :=
  let inWord := fun c => isNameChar c || c = '.'
  let tail := text.takeWhile inWord
  match text.dropWhile inWord with
  | ':' :: rest => scanNamed (c :: tail) rest
  | behind =>
    let dots := tail.reverse.takeWhile (· = '.')
    let name := c :: (tail.reverse.dropWhile (· = '.')).reverse
    some (word (String.ofList name), dots ++ behind)

/-! ### Numbers and language tags -/

/-- The point and digits that a text begins with, if any, and what follows them. -/
def scanFraction (text : List Char) : Option (List Char) × List Char :=
  match text with
  | '.' :: rest =>
    let (digits, rest) := Text.scanDigits rest
    (some digits, rest)
  | _ => (none, text)

/-- The number that a text begins with, and what follows it. A point without digits behind it
belongs to the number only if an exponent follows. -/
def scanNumber (text : List Char) : Option (Token × List Char) :=
  let (sign, unsigned) := Text.scanSign text
  let (whole, behindWhole) := Text.scanDigits unsigned
  let (fraction, behind) := scanFraction behindWhole
  let spelled := sign ++ whole ++ fraction.elim [] ('.' :: ·)
  if whole = [] && (fraction.getD []) = [] then none
  else
    match behind with
    | e :: rest =>
      if e = 'e' || e = 'E' then
        let (sign, rest) := Text.scanSign rest
        let (digits, rest) := Text.scanDigits rest
        if digits = [] then none
        else some (number (String.ofList (spelled ++ e :: sign ++ digits)), rest)
      else if fraction = some [] then some (number (String.ofList (sign ++ whole)), behindWhole)
      else some (number (String.ofList spelled), behind)
    | [] =>
      if fraction = some [] then some (number (String.ofList (sign ++ whole)), behindWhole)
      else some (number (String.ofList spelled), [])

/-- The subtags that a text begins with, each behind a dash, and what follows them. -/
def scanSubtags : List Char → List Char × List Char
  | [] => ([], [])
  | c :: rest =>
    if c.isAlphanum || (c = '-' && rest.head?.any Char.isAlphanum) then
      let (tag, behind) := scanSubtags rest
      (c :: tag, behind)
    else ([], c :: rest)

/-- The language tag that a text begins with behind an at sign, and what follows it. -/
def scanLanguage (text : List Char) : Option (Token × List Char) :=
  let first := text.takeWhile Char.isAlpha
  let behind := text.dropWhile Char.isAlpha
  let (others, behind) := if behind.head? = some '-' then scanSubtags behind else ([], behind)
  let tag := first ++ others
  if first ≠ [] && LanguageTag.isValid tag then some (language (String.ofList tag), behind)
  else none

/-! ### All tokens -/

/-- A text in quotes, behind the first of its opening quotes. -/
def scanQuoted (dialect : Dialect) (quote : Char) (text : List Char) :
    Option (Token × List Char) :=
  let long := dialect = .free && [quote, quote].isPrefixOf text
  (scanString quote long (if long then text.drop 2 else text)).map fun (value, behind) =>
    (string (String.ofList value), behind)

/-- The token that begins with a character and goes on with a text, and what follows it. -/
def scanFree (c : Char) (rest : List Char) : Option (Token × List Char) :=
  match c with
  | '\'' => scanQuoted .free '\'' rest
  | '.' => if rest.head?.any Char.isDigit then scanNumber ('.' :: rest) else some (dot, rest)
  | ',' => some (comma, rest)
  | ';' => some (semicolon, rest)
  | '[' => some (openBracket, rest)
  | ']' => some (closeBracket, rest)
  | '(' => some (openParen, rest)
  | ')' => some (closeParen, rest)
  | '{' => some (openBrace, rest)
  | '}' => some (closeBrace, rest)
  | c =>
    if c.isDigit || c = '+' || c = '-' then scanNumber (c :: rest)
    else if c = ':' then scanNamed [] rest
    else if isNameLetter c then scanWord c rest
    else none

/-- The token that begins with a character and goes on with a text, and what follows it. -/
def scan (dialect : Dialect) (c : Char) (rest : List Char) : Option (Token × List Char) :=
  match c with
  | '<' => (scanIri rest).map fun (text, behind) => (iri text, behind)
  | '"' => scanQuoted dialect '"' rest
  | '_' => scanBlank rest
  | '@' => scanLanguage rest
  | '^' =>
    match rest with
    | '^' :: rest => some (typeMark, rest)
    | _ => none
  | c =>
    match dialect with
    | .free => scanFree c rest
    | .lines => if c = '.' then some (dot, rest) else none

/-! ### Every token takes at least one character -/

/-- What follows an IRI reference is a part of the text. -/
theorem scanIri_length {text value behind : List Char}
    (h : scanIri text = some (value, behind)) : behind.length ≤ text.length := by
  fun_induction scanIri text generalizing value behind with
  | case1 => simp at h
  | case2 => simp_all
  | case3 => simp at h
  | case4 _ _ _ hescape _ ih =>
    obtain ⟨⟨_, _⟩, hrest, hpair⟩ := Option.map_eq_some_iff.1 h
    have := ih hrest
    have := Text.unescape?_length hescape
    grind
  | case5 _ tail _ _ ih =>
    obtain ⟨⟨_, _⟩, hrest, hpair⟩ := Option.map_eq_some_iff.1 h
    have := ih hrest
    grind

/-- What follows a closing quote is a part of the text. -/
theorem scanString_length {quote : Char} {long : Bool} {text value behind : List Char}
    (h : scanString quote long text = some (value, behind)) : behind.length ≤ text.length := by
  fun_induction scanString quote long text generalizing value behind with
  | case1 => simp at h
  | case2 => simp_all
  | case3 => grind
  | case4 => simp at h
  | case5 _ _ _ hescape _ _ ih =>
    obtain ⟨⟨_, _⟩, hrest, hpair⟩ := Option.map_eq_some_iff.1 h
    have := ih hrest
    have := Text.unescape?_length hescape
    grind
  | case6 => simp at h
  | case7 _ _ _ _ _ _ ih =>
    obtain ⟨⟨_, _⟩, hrest, hpair⟩ := Option.map_eq_some_iff.1 h
    have := ih hrest
    grind

/-- What follows a text in quotes is a part of the text. -/
theorem scanQuoted_length {dialect : Dialect} {quote : Char} {text behind : List Char}
    {token : Token} (h : scanQuoted dialect quote text = some (token, behind)) :
    behind.length ≤ text.length := by
  obtain ⟨⟨_, _⟩, hscan, hpair⟩ := Option.map_eq_some_iff.1 h
  have := scanString_length hscan
  split at this <;> grind

/-- What follows a name is a part of the text. -/
theorem scanName_length {text behind : List Char} {name : List NamePart}
    (h : scanName text = some (name, behind)) : behind.length ≤ text.length := by
  fun_induction scanName text generalizing name behind <;>
    simp_all only [Option.bind_eq_bind, Option.bind_eq_some_iff, Prod.exists, reduceCtorEq,
      Option.some.injEq, Prod.mk.injEq, pure, List.length_cons] <;>
    grind

/-- What follows the name behind a namespace label is a part of the text. -/
theorem scanLocal_length {text behind : List Char} {name : List NamePart}
    (h : scanLocal text = some (name, behind)) : behind.length ≤ text.length := by
  unfold scanLocal at h
  split at h
  · simp_all
  · split at h
    · exact scanName_length h
    · simp_all

/-- What is read behind a name is no longer than the text with the name. -/
theorem closeName?_length {text name behind rest : List Char} {parts : List NamePart}
    (hle : behind.length ≤ text.length) (h : closeName? text parts behind = some (name, rest)) :
    rest.length ≤ text.length := by
  unfold closeName? at h
  split at h
  · obtain ⟨again, htake, hpair⟩ := Option.map_eq_some_iff.1 h
    have := Text.takeSize?_length htake
    grind
  · grind

/-- What follows the label of a blank node is a part of the text. -/
theorem scanLabel_length (text : List Char) : (scanLabel text).2.length ≤ text.length := by
  fun_induction scanLabel text <;> grind

/-- What follows a blank node is a part of the text. -/
theorem scanBlank_length {text behind : List Char} {token : Token}
    (h : scanBlank text = some (token, behind)) : behind.length ≤ text.length := by
  unfold scanBlank at h
  split at h
  · rename_i c rest
    have := scanLabel_length rest
    grind
  · simp at h

/-- What follows a prefixed name is a part of the text. -/
theorem scanNamed_length {label text behind : List Char} {token : Token}
    (h : scanNamed label text = some (token, behind)) : behind.length ≤ text.length := by
  unfold scanNamed at h
  split at h
  · simp at h
  · simp only [Option.bind_eq_bind, Option.bind_eq_some_iff] at h
    obtain ⟨⟨_, _⟩, hscan, ⟨_, _⟩, hclose, hpair⟩ := h
    have := closeName?_length (scanLocal_length hscan) hclose
    grind

/-- What follows a word is a part of the text. -/
theorem scanWord_length {c : Char} {text behind : List Char} {token : Token}
    (h : scanWord c text = some (token, behind)) : behind.length ≤ text.length := by
  simp only [scanWord] at h
  generalize hword : (fun c => isNameChar c || decide (c = '.')) = inWord at h
  have htotal : (text.takeWhile inWord).length + (text.dropWhile inWord).length = text.length := by
    rw [← List.length_append, List.takeWhile_append_dropWhile]
  split at h
  · have := scanNamed_length h
    grind
  · have hdots : ((text.takeWhile inWord).reverse.takeWhile (· = '.')).length ≤
        (text.takeWhile inWord).length := by
      simpa using (List.takeWhile_sublist (· = '.')
        (l := (text.takeWhile inWord).reverse)).length_le
    grind

/-- The digits of a fraction and what follows them are parts of the text. -/
theorem scanFraction_length (text : List Char) :
    ((scanFraction text).1.getD []).length + (scanFraction text).2.length ≤ text.length := by
  unfold scanFraction
  split
  · rename_i rest
    have := Text.scanDigits_length rest
    grind
  · simp

/-- A number takes at least one digit. -/
theorem scanNumber_length {text behind : List Char} {token : Token}
    (h : scanNumber text = some (token, behind)) : behind.length < text.length := by
  have hsign := Text.scanSign_length text
  have hwhole := Text.scanDigits_length (Text.scanSign text).2
  have hfraction := scanFraction_length (Text.scanDigits (Text.scanSign text).2).2
  simp only [scanNumber] at h
  split at h
  · simp at h
  · rename_i hempty
    have hpos : 0 < (Text.scanDigits (Text.scanSign text).2).1.length ∨
        0 < ((scanFraction (Text.scanDigits (Text.scanSign text).2).2).1.getD []).length := by
      simp only [List.length_pos_iff]
      grind
    split at h
    · rename_i e rest hbehind
      have hexponent := Text.scanSign_length rest
      have := Text.scanDigits_length (Text.scanSign rest).2
      rw [hbehind] at hfraction
      grind
    · grind

/-- What follows subtags is a part of the text. -/
theorem scanSubtags_length (text : List Char) : (scanSubtags text).2.length ≤ text.length := by
  fun_induction scanSubtags text <;> grind

/-- What follows a language tag is a part of the text. -/
theorem scanLanguage_length {text behind : List Char} {token : Token}
    (h : scanLanguage text = some (token, behind)) : behind.length ≤ text.length := by
  have hdrop : (text.dropWhile Char.isAlpha).length ≤ text.length :=
    (List.dropWhile_sublist _).length_le
  have := scanSubtags_length (text.dropWhile Char.isAlpha)
  simp only [scanLanguage] at h
  grind

/-- What follows a token of the free formats is a part of what follows its first character. -/
theorem scanFree_length {c : Char} {rest behind : List Char} {token : Token}
    (h : scanFree c rest = some (token, behind)) : behind.length ≤ rest.length := by
  unfold scanFree at h
  split at h
  case h_1 => exact scanQuoted_length h
  case h_2 =>
    split at h
    · exact Nat.le_of_lt_succ (scanNumber_length h)
    · simp_all
  case h_11 =>
    split at h
    · exact Nat.le_of_lt_succ (scanNumber_length h)
    · split at h
      · exact scanNamed_length h
      · split at h
        · exact scanWord_length h
        · simp at h
  all_goals simp_all

/-- What follows a token is a part of what follows its first character. -/
theorem scan_length {dialect : Dialect} {c : Char} {rest behind : List Char} {token : Token}
    (h : scan dialect c rest = some (token, behind)) : behind.length ≤ rest.length := by
  unfold scan at h
  split at h
  case h_1 =>
    obtain ⟨⟨_, _⟩, hscan, hpair⟩ := Option.map_eq_some_iff.1 h
    have := scanIri_length hscan
    grind
  case h_2 => exact scanQuoted_length h
  case h_3 => exact scanBlank_length h
  case h_4 => exact scanLanguage_length h
  case h_5 => split at h <;> simp_all
  case h_6 =>
    split at h
    · exact scanFree_length h
    · split at h <;> simp_all

/-- The tokens of a document, if every part of it is a token, a blank or a comment. A comment goes
on to the end of its line. -/
def lex (dialect : Dialect) : List Char → Option (List Token)
  | [] => some []
  | c :: rest =>
    if c = ' ' || c = '\t' then lex dialect rest
    else if c = '\n' || c = '\r' then
      match dialect with
      | .free => lex dialect rest
      | .lines => (lex dialect rest).map (lineEnd :: ·)
    else if c = '#' then lex dialect (rest.dropWhile fun c => c ≠ '\n' && c ≠ '\r')
    else
      match _h : scan dialect c rest with
      | none => none
      | some (token, behind) => (lex dialect behind).map (token :: ·)
termination_by text => text.length
decreasing_by
  · simp
  · simp
  · simp
  · exact Nat.lt_succ_of_le (List.dropWhile_sublist _).length_le
  · exact Nat.lt_succ_of_le (scan_length _h)

/-- Whether a text ends inside a comment, so that any character could follow it. -/
def endsInComment (dialect : Dialect) (text : List Char) : Bool :=
  (lex dialect (text ++ ['\x00'])).isSome

end Token

end TaskNet.Rdf
