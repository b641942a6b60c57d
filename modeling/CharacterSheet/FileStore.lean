import CharacterSheet.Path
import CharacterSheet.Text.Quoted

/-!
# Files and directories

A store holds the texts of files by their locations, so every file in it has a text; files whose
bytes are none are left out. A location is a directory when it is listed as one or when something is
below it.
-/

namespace CharacterSheet

/-- A place in a store: the names on the way from its root. -/
abbrev Location := List String

/-- Why something cannot be done with a file. -/
inductive FileFault where
  | notFound
  | exists
  | notDirectory
  | isDirectory
  deriving Repr, DecidableEq

/-- A fault, and the path that was asked for. -/
structure FileError where
  fault : FileFault
  path : Path
  deriving Repr, DecidableEq

/-- The wording of a fault. -/
def FileFault.message : FileFault → String
  | .notFound => "[Errno 2] No such file or directory"
  | .exists => "[Errno 17] File exists"
  | .notDirectory => "[Errno 20] Not a directory"
  | .isDirectory => "[Errno 21] Is a directory"

/-- The wording of an error. -/
def FileError.message (e : FileError) : String :=
  e.fault.message ++ ": " ++ Text.quote e.path.text

/-- Files with their texts, and directories. -/
structure FileStore where
  /-- The texts of the files. A file that is not encoded as a text has no place among them. -/
  files : List (Location × String) := []
  directories : List Location := []
  /-- The directory where paths start that are not absolute. -/
  current : Location := []
  deriving Repr

namespace FileStore

/-- The text of the file at a location. -/
def textAt? (s : FileStore) (l : Location) : Option String := s.files.lookup l

/-- Whether a directory is at a location. -/
def isDirectoryAt (s : FileStore) (l : Location) : Bool :=
  let holds (other : Location) : Bool := l.isPrefixOf other && l.length < other.length
  l.isEmpty || s.directories.any (fun d ↦ d == l || holds d) || s.files.any fun f ↦ holds f.1

/-- The location that a name leads to. -/
def step (l : Location) (name : String) : Location :=
  if name = ".." then l.dropLast else l ++ [name]

/-- The location that names lead to, each of them from a directory. -/
def walk (s : FileStore) (l : Location) : List String → Except FileFault Location
  | [] => .ok l
  | name :: names =>
    if s.isDirectoryAt l then s.walk (step l name) names
    else .error (if (s.textAt? l).isSome then .notDirectory else .notFound)

/-- The location that a path starts from. -/
def start (s : FileStore) (p : Path) : Location := if p.isAbsolute then [] else s.current

/-- The location that a path leads to. -/
def locate (s : FileStore) (p : Path) : Except FileError Location :=
  (s.walk (s.start p) p.parts).mapError (⟨·, p⟩)

/-- Whether a path leads to a directory. -/
def isDirectory (s : FileStore) (p : Path) : Bool :=
  match s.locate p with
  | .ok l => s.isDirectoryAt l
  | .error _ => false

/-- The text of a file, with its lines ended by line feeds. -/
def read (s : FileStore) (p : Path) : Except FileError String := do
  let l ← s.locate p
  match s.textAt? l with
  | some text => return Text.lineFed text
  | none => throw ⟨if s.isDirectoryAt l then .isDirectory else .notFound, p⟩

/-- The files with a text put at a location: in place of the text there, or at the end. -/
def put (l : Location) (text : String) : List (Location × String) → List (Location × String)
  | [] => [(l, text)]
  | (k, t) :: fs => if k = l then (k, text) :: fs else (k, t) :: put l text fs

/-- The store with a text written to a file. -/
def write (s : FileStore) (p : Path) (text : String) : Except FileError FileStore := do
  let l ← s.locate p
  if s.isDirectoryAt l then throw ⟨.isDirectory, p⟩
  return { s with files := put l text s.files }

/-- The store with a directory at a location. -/
def addDirectory (s : FileStore) (l : Location) : FileStore :=
  if s.isDirectoryAt l then s else { s with directories := s.directories ++ [l] }

/-- The store with a directory at every location that names lead to. -/
def addDirectories (s : FileStore) (l : Location) : List String → Except FileFault FileStore
  | [] => .ok s
  | name :: names =>
    if (s.textAt? (step l name)).isSome then
      .error (if names.isEmpty then .exists else .notDirectory)
    else (s.addDirectory (step l name)).addDirectories (step l name) names

/-- The store with a directory at the end of a path and on the way there. -/
def makeDirectory (s : FileStore) (p : Path) : Except FileError FileStore :=
  (s.addDirectories (s.start p) p.parts).mapError (⟨·, p⟩)

/-- The store with a text written to a file whose directory is made if need be. -/
def save (s : FileStore) (p : Path) (text : String) : Except FileError FileStore := do
  (← s.makeDirectory p.parent).write p text

/-- The paths of the files below a directory, in order. -/
def filesBelow (s : FileStore) (p : Path) : List Path :=
  match s.locate p with
  | .error _ => []
  | .ok l =>
    let found := s.files.filterMap fun (other, _) ↦
      if l.isPrefixOf other && l.length < other.length then some (p.below (other.drop l.length))
      else none
    found.mergeSort Path.isBefore

/-- A text that was put at a location is found there. -/
theorem lookup_put_self (l : Location) (text : String) (fs : List (Location × String)) :
    (put l text fs).lookup l = some text := by
  induction fs with
  | nil => simp [put]
  | cons f fs ih =>
    obtain ⟨k, t⟩ := f
    by_cases h : k = l
    · simp [put, h]
    · have : (l == k) = false := by simpa using Ne.symm h
      simp [put, h, List.lookup_cons, this, ih]

/-- A text that is put at a location leaves the others alone. -/
theorem lookup_put_of_ne {l other : Location} (h : other ≠ l) (text : String)
    (fs : List (Location × String)) : (put l text fs).lookup other = fs.lookup other := by
  induction fs with
  | nil =>
    have : (other == l) = false := by simpa using h
    simp [put, List.lookup_cons, this]
  | cons f fs ih =>
    obtain ⟨k, t⟩ := f
    by_cases hk : k = l
    · have : (other == l) = false := by simpa using h
      simp [put, hk, List.lookup_cons, this]
    · simp only [put, hk, if_false, List.lookup_cons]
      split <;> simp_all

end FileStore
end CharacterSheet
