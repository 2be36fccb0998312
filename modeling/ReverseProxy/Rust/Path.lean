import ReverseProxy.Library.Walk
import ReverseProxy.Rust.Text

/-!
# Paths

`std::path` on Unix.  Two paths are equal if their components are, so a path is
the list of its components.
-/

namespace ReverseProxy

open Library List

/-- `std::path::Component`. -/
inductive Component where
  | rootDir
  | curDir
  | parentDir
  | normal (name : Str)
deriving DecidableEq, Repr

abbrev Path := List Component

/-- What a segment between two slashes stands for: empty segments and `.` are
skipped. -/
def component (segment : Str) : Option Component :=
  if segment = [] || segment = ['.'] then none
  else if segment = ['.', '.'] then some .parentDir
  else some (.normal segment)

/-- `Path::components`.  Only in front a `.` counts. -/
def components (path : Str) : Path :=
  match path.splitOn '/' with
  | [] => []
  | first :: rest =>
    (if path.head? = some '/' then [.rootDir]
      else if first = ['.'] then [.curDir]
      else (component first).toList) ++ rest.filterMap component

namespace Path

/-- `Path::file_name`, where nothing reads as the empty name. -/
def fileName (path : Path) : Str :=
  match path.getLast? with
  | some (.normal name) => name
  | _ => []

/-- `Path::parent`. -/
def parent (path : Path) : Option Path :=
  if path = [] ∨ path = [.rootDir] then none else some path.dropLast

/-- The text of a path. -/
def display (path : Path) : Str :=
  let segment : Component → Str
    | .rootDir => []
    | .curDir => ['.']
    | .parentDir => ['.', '.']
    | .normal name => name
  if path = [.rootDir] then ['/'] else ['/'].intercalate (path.map segment)

end Path

/-- A name is a segment that stands for itself. -/
structure IsName (name : Str) : Prop where
  nonempty : name ≠ []
  notDot : name ≠ ['.']
  notDots : name ≠ ['.', '.']
  noSlash : '/' ∉ name

theorem IsName.component {name : Str} (isName : IsName name) :
    component name = some (.normal name) := by
  simp [ReverseProxy.component, isName.nonempty, isName.notDot, isName.notDots]

theorem splitOn_of_not_mem {symbol : Char} {text : Str}
    (absent : symbol ∉ text) : text.splitOn symbol = [text] := by
  have joined : ([symbol].intercalate [text]).splitOn symbol = [text] :=
    splitOn_intercalate symbol (by simpa using absent) (by simp)
  simpa using joined

theorem components_append {front : Str} (rest : Str) (nonempty : front ≠ []) :
    components (front ++ '/' :: rest) =
      components front ++ (rest.splitOn '/').filterMap component := by
  unfold components
  rw [splitOn_append_cons_self, head?_append_of_ne_nil _ nonempty]
  cases split : front.splitOn '/' with
  | nil => exact absurd split (splitOn_ne_nil _ _)
  | cons first others =>
    simp only [cons_append, filterMap_append, append_assoc]

/-! ## Resolution -/

/-- The place a component leads to from another one. -/
def Component.go (place : List Str) : Component → List Str
  | rootDir => []
  | curDir => place
  | parentDir => place.dropLast
  | normal name => place ++ [name]

/-- The names down to what a path denotes, with `.` and `..` resolved and
relative paths taken from the working directory. -/
def Path.resolve (workingDir : List Str) (path : Path) : List Str :=
  path.foldl Component.go workingDir

/-- The move a segment between two slashes stands for. -/
def segmentMove (segment : Str) : Option (Move Str) :=
  if segment = [] || segment = ['.'] then none
  else if segment = ['.', '.'] then some .up
  else some (.down segment)

/-- The moves of a text that is put below a folder. -/
def moves (text : Str) : List (Move Str) := (text.splitOn '/').filterMap segmentMove

theorem Path.resolve_append (workingDir : List Str) (front rest : Path) :
    resolve workingDir (front ++ rest) = resolve (resolve workingDir front) rest :=
  foldl_append

theorem Path.resolve_segments (place : List Str) (segments : List Str) :
    resolve place (segments.filterMap component) = walk place (segments.filterMap segmentMove) := by
  induction segments generalizing place with
  | nil => rfl
  | cons segment segments ih =>
    by_cases skipped : segment = [] ∨ segment = ['.']
    · simp only [filterMap_cons, component, segmentMove, skipped,
        Bool.or_eq_true, decide_eq_true_eq, if_true]
      exact ih place
    by_cases up : segment = ['.', '.']
    · rw [up]
      exact ih place.dropLast
    · simp only [filterMap_cons, component, segmentMove, skipped, up,
        Bool.or_eq_true, decide_eq_true_eq, if_false]
      exact ih (place ++ [segment])

theorem moves_slash (text : Str) : moves ('/' :: text) = moves text := by
  unfold moves
  rw [show '/' :: text = [] ++ '/' :: text from rfl, splitOn_append_cons_self]
  rfl

theorem components_slash (front : Str) (rest : Str) :
    components (front ++ '/' :: rest) =
      components (front ++ ['/']) ++ (rest.splitOn '/').filterMap component := by
  cases front with
  | nil =>
    unfold components
    rw [splitOn_append_cons_self, splitOn_append_cons_self]
    rfl
  | cons symbol front =>
    rw [components_append rest (cons_ne_nil symbol front),
      components_append [] (cons_ne_nil symbol front)]
    simp [component]

theorem components_trailing {front : Str} (nonempty : front ≠ []) :
    components (front ++ ['/']) = components front := by
  rw [components_append [] nonempty]
  simp [component]

theorem resolve_slash (workingDir : List Str) (front rest : Str) :
    Path.resolve workingDir (components (front ++ '/' :: rest)) =
      walk (Path.resolve workingDir (components (front ++ ['/']))) (moves rest) := by
  rw [components_slash, Path.resolve_append, Path.resolve_segments]
  rfl

end ReverseProxy
