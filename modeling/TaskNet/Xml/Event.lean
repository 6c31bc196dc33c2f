import TaskNet.Text.Split
import TaskNet.Xml.Raw
import TaskNet.Xml.Reference

/-!
# XML events

A document is read as a list of events: opening and closing tags, texts, declarations and document
types. Comments and processing instructions are dropped. All text is left raw, and references are
left as they are, because they depend on the document type. A tag that opens and closes an element
at once gives two events.
-/

namespace TaskNet.Xml

/-- An attribute: its name and its value, with references. -/
abbrev Attribute := Raw × Raw

/-- A part of a document. -/
inductive Event where
  /-- The start of an element. -/
  | openTag (name : Raw) (attributes : List Attribute)
  /-- The end of an element. -/
  | closeTag (name : Raw)
  /-- A text with references. -/
  | text (raw : Raw)
  /-- A text in which nothing is a reference. -/
  | plainText (raw : Raw)
  /-- What the document says about its own writing. -/
  | declaration (encoding : Option Raw)
  /-- The document type. -/
  | doctype (raw : Raw)
deriving DecidableEq, Repr

/-! ### Attributes -/

/-- The characters with which the name of an attribute may go on. -/
def isNamePart (c : Char) : Bool := c ≠ '=' && !isBlank c

/-- The attribute whose name begins with a character and goes on with a text, and what follows
it. -/
def scanAttribute? (c : Char) (text : Raw) : Option (Attribute × Raw) :=
  match (text.dropWhile isNamePart).dropWhile isBlank with
  | '=' :: behind =>
    match behind.dropWhile isBlank with
    | quote :: behind =>
      if quote = '"' || quote = '\'' then
        (Text.splitFirst? (· = quote) behind).map fun (value, behind) =>
          ((c :: text.takeWhile isNamePart, value), behind)
      else none
    | [] => none
  | _ => none

/-- What follows an attribute is a part of the text. -/
theorem scanAttribute?_length {c : Char} {text behind : Raw} {entry : Attribute}
    (h : scanAttribute? c text = some (entry, behind)) : behind.length ≤ text.length := by
  unfold scanAttribute? at h
  have hname := (List.dropWhile_sublist isNamePart (l := text)).length_le
  have hsign := (List.dropWhile_sublist isBlank (l := text.dropWhile isNamePart)).length_le
  split at h
  · rename_i value hvalue
    have hquote := (List.dropWhile_sublist (l := value) isBlank).length_le
    rw [hvalue] at hsign
    split at h
    · rename_i quoted hquoted
      rw [hquoted] at hquote
      split at h
      · obtain ⟨⟨_, _⟩, hsplit, hpair⟩ := Option.map_eq_some_iff.1 h
        have := Text.splitFirst?_length hsplit
        grind
      · simp at h
    · simp at h
  · simp at h

/-- The attributes that a text begins with, and whether they are all of the text. -/
def scanAttributes (text : Raw) : List Attribute × Bool :=
  match _htext : text.dropWhile isBlank with
  | [] => ([], true)
  | c :: rest =>
    match _hscan : scanAttribute? c rest with
    | none => ([], false)
    | some (entry, behind) =>
      let (attributes, complete) := scanAttributes behind
      (entry :: attributes, complete)
termination_by text.length
decreasing_by
  have := (List.dropWhile_sublist (l := text) isBlank).length_le
  rw [_htext] at this
  exact Nat.lt_of_le_of_lt (scanAttribute?_length _hscan) this

/-- The encoding that attributes give. What stands behind it is not looked at. -/
def encoding? (text : Raw) : Option (Option Raw) :=
  let (attributes, complete) := scanAttributes text
  match attributes.lookup "encoding".toList with
  | some encoding => some (some encoding)
  | none => if complete then some none else none

/-- The name and the attributes in a tag. No name of an attribute may stand twice. -/
def tag? (text : Raw) : Option (Raw × List Attribute) :=
  let inName := fun c => !isBlank c
  let (attributes, complete) := scanAttributes (text.dropWhile inName)
  if complete ∧ (attributes.map (·.1)).Nodup then some (text.takeWhile inName, attributes)
  else none

/-! ### Markup -/

/-- The text up to the next closing angle bracket that does not stand in quotes, and what follows
the bracket. -/
def scanTag (quote : Option Char) : Raw → Option (Raw × Raw)
  | [] => none
  | c :: rest =>
    if c = '>' && quote = none then some ([], rest)
    else
      let next :=
        if quote = some c then none
        else if quote = none && (c = '"' || c = '\'') then some c
        else quote
      (scanTag next rest).map fun (text, rest) => (c :: text, rest)

/-- The text up to the end of a document type, and what follows it. Declarations inside of it stand
in angle brackets of their own. -/
def scanDoctype (depth : Nat) : Raw → Option (Raw × Raw)
  | [] => none
  | c :: rest =>
    if c = '>' && depth = 0 then some ([], rest)
    else
      let depth := if c = '<' then depth + 1 else if c = '>' then depth - 1 else depth
      (scanDoctype depth rest).map fun (text, rest) => (c :: text, rest)

/-- The events of a tag. -/
def tagEvents? (text : Raw) : Option (List Event) :=
  let single := text.getLast? = some '/'
  (tag? (if single then text.dropLast else text)).map fun (name, attributes) =>
    .openTag name attributes :: if single then [.closeTag name] else []

/-- The events of a processing instruction: none, unless it is the declaration. -/
def instructionEvents? (text : Raw) : Option (List Event) :=
  match Text.behind? "xml".toList text with
  | some rest =>
    if rest = [] || rest.head?.any isBlank then
      (encoding? rest).map fun encoding => [.declaration encoding]
    else some []
  | none => some []

/-- The name in a closing tag, without the blanks behind it. -/
def closedName (text : Raw) : Raw :=
  if text.all isBlank then text else (text.reverse.dropWhile isBlank).reverse

/-- The events of the markup that begins behind an angle bracket, and what follows it. -/
def markup? (text : Raw) : Option (List Event × Raw) :=
  match text with
  | '!' :: '-' :: '-' :: rest => (Text.around? "-->".toList rest).map fun (_, rest) => ([], rest)
  | '?' :: '>' :: _ => none
  | '?' :: rest => do
    let (text, rest) ← Text.around? "?>".toList rest
    let events ← instructionEvents? text
    return (events, rest)
  | '/' :: rest => do
    let (name, rest) ← scanTag none rest
    return ([.closeTag (closedName name)], rest)
  | '!' :: rest =>
    match Text.behind? "[CDATA[".toList rest with
    | some rest =>
      (Text.around? "]]>".toList rest).map fun (text, rest) => ([.plainText text], rest)
    | none =>
      if (rest.take 7).map Char.toUpper = "DOCTYPE".toList then do
        let (text, rest) ← scanDoctype 0 (rest.drop 7)
        if text.all isBlank then none else return ([.doctype text], rest)
      else none
  | rest => do
    let (text, rest) ← scanTag none rest
    let events ← tagEvents? text
    return (events, rest)

/-- What follows a tag is a part of the text. -/
theorem scanTag_length {quote : Option Char} {text front back : Raw}
    (h : scanTag quote text = some (front, back)) : back.length ≤ text.length := by
  induction text generalizing quote front with
  | nil => simp [scanTag] at h
  | cons c rest ih =>
    simp only [scanTag] at h
    split at h
    · simp_all
    · obtain ⟨⟨_, _⟩, hrest, hpair⟩ := Option.map_eq_some_iff.1 h
      obtain ⟨-, rfl⟩ := Prod.mk.inj hpair
      exact Nat.le_succ_of_le (ih hrest)

/-- What follows a document type is a part of the text. -/
theorem scanDoctype_length {depth : Nat} {text front back : Raw}
    (h : scanDoctype depth text = some (front, back)) : back.length ≤ text.length := by
  induction text generalizing depth front with
  | nil => simp [scanDoctype] at h
  | cons c rest ih =>
    simp only [scanDoctype] at h
    split at h
    · simp_all
    · obtain ⟨⟨_, _⟩, hrest, hpair⟩ := Option.map_eq_some_iff.1 h
      obtain ⟨-, rfl⟩ := Prod.mk.inj hpair
      exact Nat.le_succ_of_le (ih hrest)

/-- What follows markup is a part of what follows its angle bracket. -/
theorem markup?_length {text rest : Raw} {events : List Event}
    (h : markup? text = some (events, rest)) : rest.length ≤ text.length := by
  unfold markup? at h
  split at h
  · obtain ⟨⟨_, _⟩, haround, hpair⟩ := Option.map_eq_some_iff.1 h
    have := Text.around?_length haround
    grind
  · simp at h
  · simp only [Option.bind_eq_bind, Option.bind_eq_some_iff] at h
    obtain ⟨⟨_, _⟩, haround, _, _, hpair⟩ := h
    have := Text.around?_length haround
    grind
  · simp only [Option.bind_eq_bind, Option.bind_eq_some_iff] at h
    obtain ⟨⟨_, _⟩, hscan, hpair⟩ := h
    have := scanTag_length hscan
    grind
  · rename_i tail _
    split at h
    · rename_i behind hcdata
      obtain ⟨⟨_, _⟩, haround, hpair⟩ := Option.map_eq_some_iff.1 h
      have := Text.around?_length haround
      have := Text.behind?_length hcdata
      grind
    · split at h
      · simp only [Option.bind_eq_bind, Option.bind_eq_some_iff] at h
        obtain ⟨⟨_, _⟩, hscan, hdone⟩ := h
        have := scanDoctype_length hscan
        split at hdone
        · simp at hdone
        · grind
      · simp at h
  · simp only [Option.bind_eq_bind, Option.bind_eq_some_iff] at h
    obtain ⟨⟨_, _⟩, hscan, _, _, hpair⟩ := h
    have := scanTag_length hscan
    grind

/-- The events of a document. -/
def events? : Raw → Option (List Event)
  | [] => some []
  | c :: rest =>
    if c = '<' then
      match _h : markup? rest with
      | none => none
      | some (events, rest) => (events? rest).map (events ++ ·)
    else
      let raw := rest.takeWhile (· ≠ '<')
      (events? (rest.dropWhile (· ≠ '<'))).map (.text (c :: raw) :: ·)
termination_by text => text.length
decreasing_by
  · exact Nat.lt_succ_of_le (markup?_length _h)
  · exact Nat.lt_succ_of_le (List.dropWhile_sublist _).length_le

end TaskNet.Xml
