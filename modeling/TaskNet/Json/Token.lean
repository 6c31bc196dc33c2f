import TaskNet.Text.Digits

/-!
# JSON tokens

A JSON document is read as a list of tokens: brackets, separators and scalar values. Blanks between
tokens are dropped. Escapes in texts give UTF-16 code units, and pairs of surrogates are joined to
one character; a text with a surrogate that is not part of a pair is a token, but no text.
-/

namespace TaskNet.Json

/-- A token of a JSON document. -/
inductive Token where
  | openBracket
  | closeBracket
  | openBrace
  | closeBrace
  | colon
  | comma
  | null
  | bool (value : Bool)
  /-- A number that is spelled by digits alone. -/
  | natural (number : Nat)
  /-- Any other number, as it is spelled. -/
  | number (spelling : String)
  /-- A text, or nothing if it holds half of a surrogate pair. -/
  | string (text : Option String)
deriving DecidableEq, Repr

/-- What stands between the quotes of a text: characters and numbered code units. -/
inductive Piece where
  /-- A character that stands for itself or is escaped by a letter. -/
  | char (c : Char)
  /-- A code unit that is escaped by its number. -/
  | unit (number : Nat)
deriving DecidableEq, Repr

namespace Piece

/-- The character that a pair of surrogates stands for. -/
def joined (high low : Nat) : Char :=
  Char.ofNat (0x10000 + (high - 0xD800) * 0x400 + (low - 0xDC00))

/-- The characters that pieces stand for, unless a surrogate stands alone. -/
def join : List Piece → Option (List Char)
  | [] => some []
  | char c :: rest => (join rest).map (c :: ·)
  | unit high :: unit low :: rest =>
    if 0xD800 ≤ high ∧ high < 0xDC00 then
      if 0xDC00 ≤ low ∧ low < 0xE000 then (join rest).map (joined high low :: ·) else none
    else if 0xDC00 ≤ high ∧ high < 0xE000 then none
    else (join (unit low :: rest)).map (Char.ofNat high :: ·)
  | unit number :: rest =>
    if 0xD800 ≤ number ∧ number < 0xE000 then none
    else (join rest).map (Char.ofNat number :: ·)

end Piece

namespace Token

/-- The blanks between tokens. -/
def isBlank (c : Char) : Bool := c = ' ' || c = '\t' || c = '\n' || c = '\r'

/-- The character that an escape letter stands for. -/
def escaped? : Char → Option Char
  | '"' => some '"'
  | '\\' => some '\\'
  | '/' => some '/'
  | 'b' => some '\x08'
  | 'f' => some '\x0c'
  | 'n' => some '\n'
  | 'r' => some '\r'
  | 't' => some '\t'
  | _ => none

/-- The pieces up to the closing quote, and the text behind it. -/
def scanText : List Char → Option (List Piece × List Char)
  | [] => none
  | '"' :: rest => some ([], rest)
  | '\\' :: 'u' :: a :: b :: c :: d :: rest => do
    let number ← Text.hexNumber? [a, b, c, d]
    let (pieces, rest) ← scanText rest
    return (.unit number :: pieces, rest)
  | '\\' :: letter :: rest => do
    let c ← escaped? letter
    let (pieces, rest) ← scanText rest
    return (.char c :: pieces, rest)
  | c :: rest =>
    if c < ' ' || c = '\\' then none
    else do
      let (pieces, rest) ← scanText rest
      return (.char c :: pieces, rest)

/-- What follows a text is a part of what follows its opening quote. -/
theorem scanText_length {text rest : List Char} {pieces : List Piece}
    (h : scanText text = some (pieces, rest)) : rest.length ≤ text.length := by
  fun_induction scanText text generalizing pieces rest with
  | case1 => simp at h
  | case2 tail => simp_all
  | case3 a b c d tail ih =>
    simp only [Option.bind_eq_bind, Option.bind_eq_some_iff] at h
    obtain ⟨_, _, ⟨_, tail'⟩, htail, hpair⟩ := h
    simp only [pure, Option.some.injEq, Prod.mk.injEq] at hpair
    have := ih htail
    simp only [List.length_cons]
    grind
  | case4 letter tail _ ih =>
    simp only [Option.bind_eq_bind, Option.bind_eq_some_iff] at h
    obtain ⟨_, _, ⟨_, tail'⟩, htail, hpair⟩ := h
    simp only [pure, Option.some.injEq, Prod.mk.injEq] at hpair
    have := ih htail
    simp only [List.length_cons]
    grind
  | case5 => simp at h
  | case6 c tail _ _ _ _ ih =>
    simp only [Option.bind_eq_bind, Option.bind_eq_some_iff] at h
    obtain ⟨⟨_, tail'⟩, htail, hpair⟩ := h
    simp only [pure, Option.some.injEq, Prod.mk.injEq] at hpair
    have := ih htail
    simp only [List.length_cons]
    grind

/-- The fraction that a text begins with, if any. A point needs a digit behind it. -/
def scanFraction (text : List Char) : Option (List Char × List Char) :=
  match text with
  | '.' :: rest =>
    let (digits, rest) := Text.scanDigits rest
    if digits = [] then none else some ('.' :: digits, rest)
  | _ => some ([], text)

/-- The exponent that a text begins with, if any. It needs a digit. -/
def scanExponent (text : List Char) : Option (List Char × List Char) :=
  match text with
  | e :: rest =>
    if e = 'e' || e = 'E' then
      let (sign, rest) := Text.scanSign rest
      let (digits, rest) := Text.scanDigits rest
      if digits = [] then none else some (e :: sign ++ digits, rest)
    else some ([], text)
  | [] => some ([], text)

/-- The digits in front of a point, which begin with a zero only if that is all. -/
def scanWhole (text : List Char) : Option (List Char × List Char) :=
  match text with
  | '0' :: rest => some (['0'], rest)
  | _ =>
    let (digits, rest) := Text.scanDigits text
    if digits = [] then none else some (digits, rest)

/-- The number that a text begins with. -/
def scanNumber (text : List Char) : Option (Token × List Char) := do
  let (minus, unsigned) := match text with
    | '-' :: rest => (['-'], rest)
    | _ => ([], text)
  let (whole, rest) ← scanWhole unsigned
  let (fraction, rest) ← scanFraction rest
  let (exponent, rest) ← scanExponent rest
  if minus ++ fraction ++ exponent = [] then
    return (natural (Text.decimalNumber whole), rest)
  else
    return (number (String.ofList (minus ++ whole ++ fraction ++ exponent)), rest)

/-- The token that a text begins with. -/
def scan (text : List Char) : Option (Token × List Char) :=
  match text with
  | '[' :: rest => some (openBracket, rest)
  | ']' :: rest => some (closeBracket, rest)
  | '{' :: rest => some (openBrace, rest)
  | '}' :: rest => some (closeBrace, rest)
  | ':' :: rest => some (colon, rest)
  | ',' :: rest => some (comma, rest)
  | 'n' :: 'u' :: 'l' :: 'l' :: rest => some (null, rest)
  | 't' :: 'r' :: 'u' :: 'e' :: rest => some (bool true, rest)
  | 'f' :: 'a' :: 'l' :: 's' :: 'e' :: rest => some (bool false, rest)
  | '"' :: rest => (scanText rest).map fun (pieces, rest) =>
      (string ((Piece.join pieces).map String.ofList), rest)
  | _ => scanNumber text

/-! ### Every token takes at least one character -/

/-- The digits in front of a point take at least one character. -/
theorem scanWhole_length {text digits rest : List Char}
    (h : scanWhole text = some (digits, rest)) : rest.length < text.length := by
  unfold scanWhole at h
  split at h
  · simp_all
  · have := Text.scanDigits_length text
    have hdigits : (Text.scanDigits text).1 = [] ∨ 0 < (Text.scanDigits text).1.length := by
      cases (Text.scanDigits text).1 <;> simp
    grind

/-- What follows a fraction is a part of the text. -/
theorem scanFraction_length {text fraction rest : List Char}
    (h : scanFraction text = some (fraction, rest)) : rest.length ≤ text.length := by
  unfold scanFraction at h
  split at h
  · rename_i tail
    have := Text.scanDigits_length tail
    grind
  · simp_all

/-- What follows an exponent is a part of the text. -/
theorem scanExponent_length {text exponent rest : List Char}
    (h : scanExponent text = some (exponent, rest)) : rest.length ≤ text.length := by
  unfold scanExponent at h
  split at h
  · rename_i e tail
    have := Text.scanSign_length tail
    have := Text.scanDigits_length (Text.scanSign tail).2
    grind
  · simp_all

/-- A number takes at least one character. -/
theorem scanNumber_length {text rest : List Char} {token : Token}
    (h : scanNumber text = some (token, rest)) : rest.length < text.length := by
  simp only [scanNumber, Option.bind_eq_bind, Option.bind_eq_some_iff] at h
  obtain ⟨⟨whole, rest₁⟩, hwhole, ⟨fraction, rest₂⟩, hfraction, ⟨exponent, rest₃⟩, hexponent,
    hresult⟩ := h
  have := scanWhole_length hwhole
  have := scanFraction_length hfraction
  have := scanExponent_length hexponent
  grind

/-- A token takes at least one character. -/
theorem scan_length {text rest : List Char} {token : Token}
    (h : scan text = some (token, rest)) : rest.length < text.length := by
  unfold scan at h
  split at h
  case h_10 tail =>
    obtain ⟨⟨_, _⟩, hscan, hpair⟩ := Option.map_eq_some_iff.1 h
    have := scanText_length hscan
    grind
  case h_11 => exact scanNumber_length h
  all_goals
    simp only [Option.some.injEq, Prod.mk.injEq] at h
    simp only [← h.2, List.length_cons]
    omega

/-- The tokens of a document, if every part of it is a token or a blank. -/
def lex : List Char → Option (List Token)
  | [] => some []
  | c :: rest =>
    if isBlank c then lex rest
    else
      match _h : scan (c :: rest) with
      | none => none
      | some (token, rest) => (lex rest).map (token :: ·)
termination_by text => text.length
decreasing_by
  · simp
  · exact scan_length _h

end Token

end TaskNet.Json
