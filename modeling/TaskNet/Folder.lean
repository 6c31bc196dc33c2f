import TaskNet.Text.Split
import TaskNet.Text.Utf8

/-!
# Folders

All folders and files as a value: what is found at each place, counted from the root. Paths that
begin with a slash are resolved part by part from the root, and all others from the place at which a
program was started. The main statement, `read_write?`, says what is read at any path after a text
has been written to one.
-/

namespace TaskNet

/-- What is found at a path. -/
inductive Found where
  /-- Nothing. -/
  | nothing
  /-- A folder. -/
  | folder
  /-- A file with these bytes. -/
  | file (bytes : List UInt8)
deriving DecidableEq, Repr

/-- The root with everything in it. A place is the list of names that leads to it from the root. -/
structure Folder where
  /-- What is found at each place. Of two entries for one place the first counts. -/
  entries : List (List String × Found) := []
  /-- The place that paths start from unless they begin with a slash. -/
  start : List String := []
deriving Repr

namespace Folder

/-- What is found at a place. -/
def find (folder : Folder) (place : List String) : Found :=
  if place = [] then .folder else (folder.entries.lookup place).getD .nothing

/-- The place that is reached from another one by the parts of a path. Every part but a last name
has to be reached in a folder. There is nothing above the root, so two dots stay there. -/
def walk (folder : Folder) (place : List String) : List String → Option (List String)
  | [] => some place
  | part :: parts =>
    if folder.find place ≠ .folder then none
    else if part = "" ∨ part = "." then walk folder place parts
    else if part = ".." then walk folder place.dropLast parts
    else walk folder (place ++ [part]) parts

/-- The place that a path leads to. -/
def place? (folder : Folder) (path : String) : Option (List String) :=
  if path = "" then none
  else
    folder.walk (if path.toList.head? = some '/' then [] else folder.start)
      ((Text.pieces '/' path.toList).map String.ofList)

/-- What is found at the end of a path. -/
def read (folder : Folder) (path : String) : Found :=
  ((folder.place? path).map folder.find).getD .nothing

/-- Puts a file at a place. -/
def put (folder : Folder) (place : List String) (bytes : List UInt8) : Folder :=
  { folder with entries := (place, .file bytes) :: folder.entries.filter (·.1 ≠ place) }

/-- The folder with a text written to a file, unless the path leads nowhere or to a folder. -/
def write? (folder : Folder) (path text : String) : Option Folder :=
  (folder.place? path).bind fun place =>
    if folder.find place = .folder then none else some (folder.put place (Text.encode text))

/-- What is found at a place does not depend on the entries for other places. -/
theorem lookup_filter_ne {entries : List (List String × Found)} {place other : List String}
    (hne : other ≠ place) :
    (entries.filter (·.1 ≠ place)).lookup other = entries.lookup other := by
  induction entries with
  | nil => rfl
  | cons entry rest ih =>
    obtain ⟨first, found⟩ := entry
    by_cases hfirst : first = place
    · subst hfirst
      simpa [List.lookup_cons, beq_eq_false_iff_ne.2 hne] using ih
    · simp only [List.filter_cons, ne_eq, hfirst, not_false_eq_true, decide_true, if_true,
        List.lookup_cons]
      split
      · rfl
      · exact ih

/-- A file that is put at a place is found there, and all other places stay as they are. -/
theorem find_put (folder : Folder) {place : List String} (hplace : place ≠ [])
    (bytes : List UInt8) (other : List String) :
    (folder.put place bytes).find other =
      if other = place then .file bytes else folder.find other := by
  unfold find put
  by_cases hother : other = place
  · subst hother
    simp [hplace]
  · simp only [List.lookup_cons, beq_eq_false_iff_ne.2 hother, if_neg hother,
      lookup_filter_ne hother]

/-- A file that is put where there is no folder does not change where paths lead. -/
theorem walk_put {folder : Folder} {place : List String} (hplace : folder.find place ≠ .folder)
    (bytes : List UInt8) (start : List String) (parts : List String) :
    (folder.put place bytes).walk start parts = folder.walk start parts := by
  have hne : place ≠ [] := by
    rintro rfl
    exact hplace rfl
  have hfolder (other : List String) :
      (folder.put place bytes).find other = .folder ↔ folder.find other = .folder := by
    rw [find_put folder hne]
    split
    · simp_all
    · rfl
  induction parts generalizing start with
  | nil => rfl
  | cons part parts ih => simp only [walk, ne_eq, hfolder, ih]

/-- Whether two paths lead to the same place, or both to none. -/
def samePlace (folder : Folder) (path other : String) : Bool :=
  folder.place? path = folder.place? other

@[simp] theorem samePlace_self (folder : Folder) (path : String) :
    folder.samePlace path path = true := decide_eq_true rfl

theorem samePlace_congr {folder other : Folder}
    (h : ∀ path, folder.place? path = other.place? path) : folder.samePlace = other.samePlace := by
  funext path path'
  simp only [samePlace, h]

/-- A text is written to a place where there is no folder. -/
theorem exists_of_write? {folder written : Folder} {path text : String}
    (h : folder.write? path text = some written) :
    ∃ place, folder.place? path = some place ∧ folder.find place ≠ .folder ∧
      written = folder.put place (Text.encode text) := by
  obtain ⟨place, hpath, hput⟩ := Option.bind_eq_some_iff.1 h
  split at hput
  · cases hput
  · next hfolder => exact ⟨place, hpath, hfolder, (Option.some.inj hput).symm⟩

/-- Writing does not change where paths lead. -/
theorem place?_write? {folder written : Folder} {path text : String}
    (h : folder.write? path text = some written) (other : String) :
    written.place? other = folder.place? other := by
  obtain ⟨place, -, hfolder, rfl⟩ := exists_of_write? h
  have hstart : (folder.put place (Text.encode text)).start = folder.start := rfl
  simp only [place?, walk_put hfolder, hstart]

/-- What has been written is read at every path that leads to the same place, and nothing changes
at other paths. -/
theorem read_write? {folder written : Folder} {path text : String}
    (h : folder.write? path text = some written) (other : String) :
    written.read other =
      if folder.samePlace other path then .file (Text.encode text) else folder.read other := by
  have hplaces := place?_write? h other
  obtain ⟨place, hpath, hfolder, rfl⟩ := exists_of_write? h
  have hne : place ≠ [] := by
    rintro rfl
    exact hfolder rfl
  simp only [read, hplaces, samePlace, hpath]
  cases hother : folder.place? other with
  | none => simp
  | some found =>
    simp only [Option.map_some, Option.getD_some, find_put folder hne, Option.some.injEq,
      decide_eq_true_eq]

/-- The folders around a place and the place itself, each of them with what is found there. -/
def enclosing (place : List String) (found : Found) : List (List String × Found) :=
  (place, found) :: (List.range place.length).map fun depth => (place.take depth, .folder)

/-- The folder with these folders and files in it, and with the folders around them. -/
def ofContents (folders : List (List String)) (files : List (List String × List UInt8)) :
    Folder where
  entries :=
    (files.flatMap fun (place, bytes) => enclosing place (.file bytes)) ++
      folders.flatMap fun place => enclosing place .folder

end Folder

end TaskNet
