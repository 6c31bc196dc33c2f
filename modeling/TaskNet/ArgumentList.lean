import TaskNet.Text.Split

/-!
# Argument lists in comments

A comment may carry lists of argument names: a kind name, a colon, a blank and a bracketed list
whose entries are separated by semicolons, as in `Parameters: [truck;pkg]`. Entries are kept as
they are written, except that empty ones do not count. The kind that stands in front of the first
colon of a comment also says in which mode a specialized predicate takes its arguments.
-/

namespace TaskNet

/-- The three kinds of argument lists. -/
inductive ListKind where
  /-- Variables, written with a question mark. -/
  | parameters
  /-- Constants, written bare. -/
  | objects
  /-- Names that are written exactly as the list has them. -/
  | mixed
deriving DecidableEq, Repr

/-- Why a comment does not yield the list, or the mode, that was asked of it. -/
inductive CommentFault where
  /-- There is no comment at all. -/
  | absent
  /-- The opening of the list stands nowhere. -/
  | noList (kind : ListKind)
  /-- The list is opened and never closed. -/
  | notClosed (kind : ListKind)
  /-- The text in front of the first colon is no list kind. -/
  | unknownMode (mode : String)
deriving DecidableEq, Repr

namespace ListKind

/-- Every kind. -/
def all : List ListKind := [parameters, objects, mixed]

/-- The name that introduces a list of this kind. -/
def name : ListKind → String
  | parameters => "Parameters"
  | objects => "Objects"
  | mixed => "Mixed"

/-- The kind with exactly this name. -/
def ofName? (name : String) : Option ListKind :=
  all.find? (·.name = name)

/-- The text up to and with the opening bracket of a list of this kind. -/
def opening (kind : ListKind) : List Char :=
  kind.name.toList ++ [':', ' ', '[']

/-- An entry of a list of this kind, as it is written in a form. -/
def written (kind : ListKind) (token : String) : String :=
  match kind with
  | parameters => "?" ++ token
  | objects | mixed => token

end ListKind

/-- Names written one after the other, each behind one blank. -/
def spaced (names : List String) : String :=
  String.join (names.map (" " ++ ·))

namespace ArgumentList

/-- The mode that a comment declares: the kind named by the text in front of its first colon. -/
def mode (comment : String) : Except CommentFault ListKind :=
  let declared := String.ofList (comment.toList.takeWhile (· ≠ ':'))
  match ListKind.ofName? declared with
  | some kind => .ok kind
  | none => .error (.unknownMode declared)

/-- The entries of the first list of a kind: what stands between its opening and the next closing
bracket, cut at semicolons, empty entries left out. -/
def extract (kind : ListKind) (comment : String) : Except CommentFault (List String) :=
  match Text.around? kind.opening comment.toList with
  | none => .error (.noList kind)
  | some (_, rest) =>
    match Text.splitFirst? (· = ']') rest with
    | none => .error (.notClosed kind)
    | some (body, _) =>
      .ok (((Text.pieces ';' body).filter (· ≠ [])).map String.ofList)

/-- A list as it is written behind a name in a form. -/
def text (kind : ListKind) (tokens : List String) : String :=
  spaced (tokens.map kind.written)

end ArgumentList

end TaskNet
