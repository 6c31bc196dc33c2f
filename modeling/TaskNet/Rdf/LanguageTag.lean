import TaskNet.Text.Split

/-!
# Language tags

A language tag is a list of subtags between dashes: a language with up to three extensions of it, a
script, a region, variants, extensions behind single letters or digits, and private subtags behind
an x. Each of these may be missing but the first; a few tags of older days are listed.
-/

namespace TaskNet.Rdf.LanguageTag

/-- How far the reading of a tag has come. -/
inductive Stage where
  /-- Nothing has been read. -/
  | start
  /-- A short language has been read, with so many extensions. -/
  | language (extensions : Nat)
  /-- A language has been read that takes no extensions. -/
  | longLanguage
  /-- A script has been read. -/
  | script
  /-- A region or a variant has been read. -/
  | region
  /-- An extension is being read; a subtag may still be missing. -/
  | extension (needed : Bool)
  /-- Private subtags are being read; one may still be missing. -/
  | privateUse (needed : Bool)
deriving DecidableEq, Repr

/-- Tags that are valid although they do not follow the rules. -/
def grandfathered : List String :=
  ["art-lojban", "cel-gaulish", "en-gb-oed", "i-ami", "i-bnn", "i-default", "i-enochian", "i-hak",
    "i-klingon", "i-lux", "i-mingo", "i-navajo", "i-pwn", "i-tao", "i-tay", "i-tsu", "no-bok",
    "no-nyn", "sgn-be-fr", "sgn-be-nl", "sgn-ch-de", "zh-guoyu", "zh-hakka", "zh-min",
    "zh-min-nan", "zh-xiang"]

/-- Whether a subtag may be a variant: at least five characters, or four if the first one is a
digit. -/
def isVariant (subtag : List Char) : Bool :=
  match subtag with
  | first :: _ =>
    (subtag.length ≥ 5 && first.isAlpha) || (subtag.length ≥ 4 && first.isDigit)
  | [] => false

/-- Reads a subtag behind the language. -/
def readPart (stage : Stage) (subtag : List Char) : Option Stage :=
  let length := subtag.length
  let letters := subtag.all Char.isAlpha
  let isRegion := (length = 2 && letters) || (length = 3 && subtag.all Char.isDigit)
  let variant := if isVariant subtag then some Stage.region else none
  match stage with
  | .language extensions =>
    if length = 3 && letters then
      if extensions < 3 then some (.language (extensions + 1)) else none
    else if length = 4 && letters then some .script
    else if isRegion then some .region
    else variant
  | .longLanguage =>
    if length = 4 && letters then some .script else if isRegion then some .region else variant
  | .script => if isRegion then some .region else variant
  | .region => variant
  | _ => none

/-- Whether a text is made of one to eight letters and digits. -/
def isSubtag (text : List Char) : Bool :=
  text ≠ [] && text.length ≤ 8 && text.all Char.isAlphanum

/-- Reads a subtag. -/
def step (stage : Stage) (subtag : List Char) : Option Stage :=
  if !isSubtag subtag then none
  else
    match stage with
    | .start =>
      if subtag.length < 2 || !subtag.all Char.isAlpha then none
      else if subtag.length < 4 then some (.language 0) else some .longLanguage
    | .privateUse _ => some (.privateUse false)
    | .extension true => if subtag.length = 1 then none else some (.extension false)
    | stage =>
      if subtag = ['x'] || subtag = ['X'] then some (.privateUse true)
      else if subtag.length = 1 then some (.extension true)
      else if stage = .extension false then some stage
      else readPart stage subtag

/-- Whether a text is a language tag. -/
def isValid (text : List Char) : Bool :=
  let lower := text.map Char.toLower
  String.ofList lower ∈ grandfathered ||
    if ['x', '-'].isPrefixOf lower then (Text.pieces '-' text).tail.all isSubtag
    else
      match (Text.pieces '-' text).foldlM step .start with
      | some (.extension true) | some (.privateUse true) | none => false
      | some _ => true

end TaskNet.Rdf.LanguageTag
