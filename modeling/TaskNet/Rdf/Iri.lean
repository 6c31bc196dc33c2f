import TaskNet.Rdf.NameChar
import TaskNet.Text.Digits
import TaskNet.Text.Split

/-!
# Internationalized resource identifiers

An IRI reference is cut into a scheme, an authority, a path, a query and a fragment. A reference
with a scheme stands for itself, and one with an authority lacks no more than the scheme. Any other
reference is resolved against a base: its path is walked segment by segment from the folder that
the base lies in, so that no dot segments are left in what the reference adds.
-/

namespace TaskNet.Rdf

/-! ### Characters -/

/-- The characters beyond ASCII that may stand in every part of an IRI. -/
def isInternational (c : Char) : Bool :=
  inRanges [(0xA0, 0xD7FF), (0xF900, 0xFDCF), (0xFDF0, 0xFFEF), (0x10000, 0x1FFFD),
    (0x20000, 0x2FFFD), (0x30000, 0x3FFFD), (0x40000, 0x4FFFD), (0x50000, 0x5FFFD),
    (0x60000, 0x6FFFD), (0x70000, 0x7FFFD), (0x80000, 0x8FFFD), (0x90000, 0x9FFFD),
    (0xA0000, 0xAFFFD), (0xB0000, 0xBFFFD), (0xC0000, 0xCFFFD), (0xD0000, 0xDFFFD),
    (0xE1000, 0xEFFFD)] c.toNat

/-- The private characters, which may stand in queries only. -/
def isPrivate (c : Char) : Bool :=
  inRanges [(0xE000, 0xF8FF), (0xF0000, 0xFFFFD), (0x100000, 0x10FFFD)] c.toNat

/-- The characters of a name that need no escape and separate nothing. -/
def isUnreserved (c : Char) : Bool :=
  c.isAlphanum || c = '-' || c = '.' || c = '_' || c = '~' || isInternational c

/-- The characters that may separate parts of a name. -/
def isSubDelimiter (c : Char) : Bool := c ∈ ['!', '$', '&', '\'', '(', ')', '*', '+', ',', ';', '=']

/-- The characters of registered host names. -/
def isHostChar (c : Char) : Bool := isUnreserved c || isSubDelimiter c

/-- The characters in front of an at sign in an authority. -/
def isUserChar (c : Char) : Bool := isHostChar c || c = ':'

/-- The characters of paths. -/
def isPathChar (c : Char) : Bool := isHostChar c || c = ':' || c = '@' || c = '/'

/-- The characters of fragments. -/
def isFragmentChar (c : Char) : Bool := isPathChar c || c = '?'

/-- The characters of queries. -/
def isQueryChar (c : Char) : Bool := isFragmentChar c || isPrivate c

/-- The characters of schemes. -/
def isSchemeChar (c : Char) : Bool := c.isAlphanum || c = '+' || c = '-' || c = '.'

/-- Whether a text is made of allowed characters and of percent signs with two hexadecimal
digits. -/
def isEscapedText (allowed : Char → Bool) : List Char → Bool
  | [] => true
  | '%' :: high :: low :: rest =>
    Text.isHexDigit high && Text.isHexDigit low && isEscapedText allowed rest
  | c :: rest => c ≠ '%' && allowed c && isEscapedText allowed rest

/-! ### Numeric hosts -/

/-- Whether a text is a number below 256 without needless zeros. -/
def isOctet (digits : List Char) : Bool :=
  digits ≠ [] && digits.length ≤ 3 && digits.all Char.isDigit &&
    (digits.length = 1 || digits.head? ≠ some '0') && Text.decimalNumber digits < 256

/-- Whether a text is an address of four octets. -/
def isAddress4 (text : List Char) : Bool :=
  let octets := Text.pieces '.' text
  octets.length = 4 && octets.all isOctet

/-- Whether a text is one group of an address of eight groups. -/
def isGroup (text : List Char) : Bool :=
  text ≠ [] && text.length ≤ 4 && text.all Text.isHexDigit

/-- How many groups a list of pieces stands for. The last piece may be an address of four octets,
which stands for two groups, if `mixed` allows it. -/
def groupCount? (mixed : Bool) : List (List Char) → Option Nat
  | [] => some 0
  | [last] =>
    if isGroup last then some 1 else if mixed && isAddress4 last then some 2 else none
  | piece :: rest => if isGroup piece then (groupCount? mixed rest).map (· + 1) else none

/-- The pieces of a part of an address. -/
def groupPieces (text : List Char) : List (List Char) :=
  if text = [] then [] else Text.pieces ':' text

/-- What stands in front of the first double colon of a text, and behind it. -/
def splitDoubleColon? : List Char → Option (List Char × List Char)
  | ':' :: ':' :: rest => some ([], rest)
  | c :: rest => (splitDoubleColon? rest).map fun (front, back) => (c :: front, back)
  | [] => none

/-- Whether a text is an address of eight groups. A double colon stands for one or more of them. -/
def isAddress6 (text : List Char) : Bool :=
  match splitDoubleColon? text with
  | none => groupCount? true (groupPieces text) = some 8
  | some (front, back) =>
    match groupCount? false (groupPieces front), groupCount? true (groupPieces back) with
    | some before, some behind => before + behind ≤ 7
    | _, _ => false

/-- Whether a text is an address in a form that is left to the future. -/
def isFutureAddress (text : List Char) : Bool :=
  match text with
  | v :: rest =>
    let version := rest.takeWhile (· ≠ '.')
    let address := (rest.dropWhile (· ≠ '.')).drop 1
    (v = 'v' || v = 'V') && version ≠ [] && version.all Text.isHexDigit && address ≠ [] &&
      address.all fun c => isUserChar c && c.toNat < 0x80
  | [] => false

/-! ### References -/

/-- The parts of an IRI reference. -/
structure Reference where
  /-- The scheme, which makes the reference absolute. -/
  scheme : Option (List Char) := none
  /-- What stands behind two slashes. -/
  authority : Option (List Char) := none
  /-- The path. -/
  path : List Char := []
  /-- What stands behind a question mark. -/
  query : Option (List Char) := none
  /-- What stands behind a number sign. -/
  fragment : Option (List Char) := none
deriving DecidableEq, Repr

/-- Whether a text is empty or a colon with a port number. -/
def isPort : List Char → Bool
  | [] => true
  | c :: digits => c = ':' && digits.all Char.isDigit

/-- Whether a text is a host, perhaps with a port. -/
def isHost : List Char → Bool
  | '[' :: rest =>
    match Text.splitFirst? (· = ']') rest with
    | none => false
    | some (address, port) => (isFutureAddress address || isAddress6 address) && isPort port
  | text =>
    isEscapedText isHostChar (text.takeWhile (· ≠ ':')) && isPort (text.dropWhile (· ≠ ':'))

/-- Whether a text is an authority: a host, perhaps with something and an at sign before it. -/
def isAuthority (text : List Char) : Bool :=
  let inUser := fun c : Char => c ≠ '@' && c ≠ '['
  match text.dropWhile inUser with
  | '@' :: host => isEscapedText isUserChar (text.takeWhile inUser) && isHost host
  | _ => isHost text

namespace Reference

/-- The scheme of a text, if it has one, and what follows its colon. -/
def splitScheme (text : List Char) : Option (List Char) × List Char :=
  let scheme := text.takeWhile isSchemeChar
  match scheme, text.dropWhile isSchemeChar with
  | c :: _, ':' :: rest => if c.isAlpha then (some scheme, rest) else (none, text)
  | _, _ => (none, text)

/-- The authority of a text, if it has one, and what follows it. -/
def splitAuthority (text : List Char) : Option (List Char) × List Char :=
  let inAuthority := fun c : Char => c ≠ '/' && c ≠ '?' && c ≠ '#'
  match text with
  | '/' :: '/' :: rest => (some (rest.takeWhile inAuthority), rest.dropWhile inAuthority)
  | _ => (none, text)

/-- What follows a mark that the text begins with, up to one of the ends; and the text from there.
Nothing if the text does not begin with the mark. -/
def splitPart (mark : Char) (inside : Char → Bool) (text : List Char) :
    Option (List Char) × List Char :=
  match text with
  | c :: rest =>
    if c = mark then (some (rest.takeWhile inside), rest.dropWhile inside) else (none, text)
  | [] => (none, [])

/-- The parts of a reference. -/
def ofText (text : List Char) : Reference :=
  let (scheme, text) := splitScheme text
  let (authority, text) := splitAuthority text
  let inPath := fun c : Char => c ≠ '?' && c ≠ '#'
  let path := text.takeWhile inPath
  let (query, text) := splitPart '?' (· ≠ '#') (text.dropWhile inPath)
  let (fragment, _) := splitPart '#' (fun _ => true) text
  { scheme, authority, path, query, fragment }

/-- The reference put together again. -/
def text (reference : Reference) : List Char :=
  (reference.scheme.elim [] (· ++ [':'])) ++
    (reference.authority.elim [] (['/', '/'] ++ ·)) ++ reference.path ++
    (reference.query.elim [] ('?' :: ·)) ++ (reference.fragment.elim [] ('#' :: ·))

/-- Whether every part holds only what it may. What stands in front of a colon at the beginning
would be taken for a scheme. -/
def isValid (reference : Reference) : Bool :=
  reference.authority.all isAuthority && isEscapedText isPathChar reference.path &&
    reference.query.all (isEscapedText isQueryChar) &&
    reference.fragment.all (isEscapedText isFragmentChar) &&
    (reference.scheme.isSome || reference.authority.isSome ||
      ':' ∉ reference.path.takeWhile (· ≠ '/'))

/-! Paths are put together with their latest character first. Such a path ends with a slash, or it
is empty, wherever a segment begins. -/

/-- The path to the folder around the one that a path leads to. Under an authority there is nothing
above the root. -/
def parent (rooted : Bool) (reversed : List Char) : List Char :=
  let above := (reversed.drop 1).dropWhile (· ≠ '/')
  if rooted && above = [] then ['/'] else above

/-- The path to which segments lead from the end of a path. Without an authority, no path may begin
with two slashes, unless the next segment takes the second one away. -/
def walk? (rooted : Bool) (reversed : List Char) : List (List Char) → Option (List Char)
  | [] => some reversed.reverse
  | segment :: others =>
    if segment = ['.'] then walk? rooted reversed others
    else if segment = ['.', '.'] then walk? rooted (parent rooted reversed) others
    else
      let reversed := segment.reverse ++ reversed
      if others = [] then some reversed.reverse
      else if reversed = ['/'] && !rooted && others.head? ≠ some ['.', '.'] then none
      else walk? rooted ('/' :: reversed) others

/-- The path to the folder that a reference lies in. -/
def folder (reference : Reference) : List Char :=
  if reference.authority.isSome && reference.path = [] then ['/']
  else reference.path.reverse.dropWhile (· ≠ '/')

/-- The reference that another one stands for where the base is in force. -/
def resolve? (base reference : Reference) : Option Reference :=
  let fragment := reference.fragment
  if reference.scheme.isSome then some reference
  else if reference.authority.isSome then some { reference with scheme := base.scheme }
  else if reference.path = [] then
    some { base with query := reference.query <|> base.query, fragment }
  else
    let start := if reference.path.head? = some '/' then [] else base.folder
    (walk? base.authority.isSome start (Text.pieces '/' reference.path)).map fun path =>
      { base with path, query := reference.query, fragment }

end Reference

/-- The IRI that a text stands for where the base, if there is one, is in force. -/
def resolveIri? (base : Option Reference) (text : List Char) : Option Reference :=
  let reference := Reference.ofText text
  if reference.isValid then
    match base with
    | none => if reference.scheme.isSome then some reference else none
    | some base => base.resolve? reference
  else none

end TaskNet.Rdf
