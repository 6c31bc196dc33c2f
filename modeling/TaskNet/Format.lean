import TaskNet.Text.Split

/-!
# Document formats

The formats that knowledge bases are read from, by the names that users may give them and by the
extensions of file names. The extension of a path is what follows the last dot of its last part,
unless that dot is the first character of the part; blank parts and parts that are a single dot at
the end of the path do not count.
-/

namespace TaskNet

/-- A format of knowledge base documents. -/
inductive Format where
  | turtle
  | nTriples
  | rdfXml
  | nQuads
  | triG
  | json
deriving DecidableEq, Repr

/-- The parts of a path between slashes. -/
def pathParts (path : String) : List (List Char) := Text.pieces '/' path.toList

/-- The last part of a path that counts, if any part does. -/
def fileName? (path : String) : Option (List Char) :=
  ((pathParts path).reverse.dropWhile fun part => part = [] ∨ part = ['.']).head?.filter
    (· ≠ ['.', '.'])

/-- The extension of a path, if it has one. -/
def pathExtension? (path : String) : Option String :=
  match fileName? path with
  | none | some [] => none
  | some (first :: rest) =>
    if '.' ∈ rest then some (String.ofList (Text.afterLast '.' (first :: rest))) else none

namespace Format

/-- The format of this name, in upper or lower case letters. -/
def ofName? (name : String) : Option Format :=
  match name.toLower with
  | "turtle" | "ttl" => some turtle
  | "ntriples" | "nt" => some nTriples
  | "rdfxml" | "rdf" | "xml" => some rdfXml
  | "nquads" | "nq" => some nQuads
  | "trig" => some triG
  | "json" => some json
  | _ => none

/-- The format of files with this extension, in upper or lower case letters. -/
def ofExtension? (extension : String) : Option Format :=
  match extension.toLower with
  | "ttl" => some turtle
  | "nt" => some nTriples
  | "rdf" | "xml" => some rdfXml
  | "nq" => some nQuads
  | "trig" => some triG
  | "json" => some json
  | _ => none

/-- The format that the extension of a path tells. -/
def ofPath? (path : String) : Option Format :=
  ofExtension? ((pathExtension? path).getD "")

end Format

end TaskNet
