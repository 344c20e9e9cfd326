import ManifestGrading.Files.Path
import ManifestGrading.Text.Quoted

/-! Files by their places. A directory exists if it is listed or something stands in it, and the directories above
the current one exist. A name and a whole path may have a limited number of bytes. -/

namespace ManifestGrading

/-- What stands at a place: a directory, or a file with its bytes. -/
inductive FileEntry where
  | directory
  | file (bytes : List UInt8)
  deriving Repr, DecidableEq

/-- Entries by their places. A place is given by the names on the way to it from the current directory, with double
dots in front for the directories above; a way that starts at the root of all directories has a slash in front. -/
structure Files where
  entries : List (List String × FileEntry)
  deriving Repr

/-- Why a file cannot be used. -/
inductive FileFault where
  | missing (path : String)
  | exists (path : String)
  | notDirectory (path : String)
  | isDirectory (path : String)
  | tooLong (path : String)
  | unnamable
  deriving Repr, DecidableEq

def FileFault.message : FileFault → String
  | .missing path => "[Errno 2] No such file or directory: " ++ Text.quoted path
  | .exists path => "[Errno 17] File exists: " ++ Text.quoted path
  | .notDirectory path => "[Errno 20] Not a directory: " ++ Text.quoted path
  | .isDirectory path => "[Errno 21] Is a directory: " ++ Text.quoted path
  | .tooLong path => "[Errno 36] File name too long: " ++ Text.quoted path
  | .unnamable => "embedded null byte"

/-- Where a path leads to. -/
inductive Place where
  | directory (names : List String)
  | file (names : List String) (bytes : List UInt8)
  | missing (names : List String)
  | blocked
  | tooLong
  deriving Repr, DecidableEq

/-- The way to the root of all directories. -/
def Path.top : List String := ["/"]

/-- The place where a path starts. -/
def Path.start (p : Path) : List String := if p.root = "" then [] else Path.top

namespace Files

/-- The bytes that a name may have at most. -/
def nameLimit : Nat := 255

/-- The bytes that a path may have at most. -/
def pathLimit : Nat := 4095

/-- Whether a place is the current directory or one above it. -/
def isAbove (names : List String) : Bool := names = Path.top || names.all (· = "..")

/-- Whether a place is outside the current directory. -/
def isOutside (names : List String) : Bool := names.head?.any fun name => name = ".." || name = "/"

def empty : Files := ⟨[]⟩

def find? (files : Files) (names : List String) : Option FileEntry :=
  match files.entries.lookup names with
  | some entry => some entry
  | none =>
    if isAbove names || files.entries.any (fun e => names.isPrefixOf e.1) then some .directory else none

def put (files : Files) (names : List String) (entry : FileEntry) : Files :=
  if (files.entries.lookup names).isSome then
    ⟨files.entries.map fun e => if e.1 = names then (names, entry) else e⟩
  else ⟨files.entries ++ [(names, entry)]⟩

/-- The place that a name leads to from the directory at `here`. -/
def step (here : List String) (name : String) : List String :=
  if name ≠ ".." then here ++ [name]
  else if here = Path.top then here
  else if isAbove here then here ++ [name]
  else here.dropLast

/-- Where names lead to from the directory at `here`. -/
def walk (files : Files) (here : List String) : List String → Place
  | [] => .directory here
  | name :: rest =>
    if nameLimit < name.utf8ByteSize then .tooLong
    else match files.find? (step here name) with
      | some .directory => walk files (step here name) rest
      | some (.file bytes) => if rest = [] then .file (step here name) bytes else .blocked
      | none => .missing (if rest = [] then step here name else [])

/-- Where a path leads to. Of a place with nothing in it the names are known if its directory exists. -/
def place (files : Files) (p : Path) : Place :=
  if p.isUnnamable then .missing []
  else if pathLimit < p.text.utf8ByteSize then .tooLong
  else files.walk p.start p.parts

def read (files : Files) (p : Path) : Except FileFault (List UInt8) :=
  if p.isUnnamable then .error .unnamable
  else match files.place p with
    | .file _ bytes => .ok bytes
    | .directory _ => .error (.isDirectory p.text)
    | .missing _ => .error (.missing p.text)
    | .blocked => .error (.notDirectory p.text)
    | .tooLong => .error (.tooLong p.text)

/-- The files with a new directory, which must not exist while its parent does. -/
def makeDirectory (files : Files) (p : Path) : Except FileFault Files :=
  if p.isUnnamable then .error .unnamable
  else match files.place p with
    | .missing [] => .error (.missing p.text)
    | .missing names => .ok (files.put names .directory)
    | .blocked => .error (.notDirectory p.text)
    | .tooLong => .error (.tooLong p.text)
    | .directory _ | .file .. => .error (.exists p.text)

def isDirectory (files : Files) (p : Path) : Bool :=
  match files.place p with
  | .directory _ => true
  | _ => false

/-- The files with a directory that may exist already. -/
def ensureDirectory (files : Files) (p : Path) : Except FileFault Files :=
  match files.makeDirectory p with
  | .ok files => .ok files
  | .error fault => if files.isDirectory p then .ok files else .error fault

/-- The files with a directory and, as far as they are missing, the directories that hold it. -/
def ensureDirectories (files : Files) (root : String) : (reversed : List String) → Except FileFault Files
  | [] => files.ensureDirectory ⟨root, []⟩
  | name :: above =>
    let p : Path := ⟨root, (name :: above).reverse⟩
    match files.makeDirectory p with
    | .ok files => .ok files
    | .error (.missing _) => do (← files.ensureDirectories root above).ensureDirectory p
    | .error fault => if files.isDirectory p then .ok files else .error fault

/-- The files with bytes added at the end of a file, which is made if it is missing. -/
def append (files : Files) (p : Path) (bytes : List UInt8) : Except FileFault Files :=
  if p.isUnnamable then .error .unnamable
  else match files.place p with
    | .file names old => .ok (files.put names (.file (old ++ bytes)))
    | .missing [] => .error (.missing p.text)
    | .missing names => .ok (files.put names (.file bytes))
    | .directory _ => .error (.isDirectory p.text)
    | .blocked => .error (.notDirectory p.text)
    | .tooLong => .error (.tooLong p.text)

/-- All files below a place, by the names that lead from there to them. -/
def below (files : Files) (names : List String) : List (List String) :=
  files.entries.filterMap fun e =>
    match e.2 with
    | .file _ =>
      if names.isPrefixOf e.1 && isOutside e.1 = isOutside names then some (e.1.drop names.length) else none
    | .directory => none

theorem mem_below {files : Files} {names rest : List String} :
    rest ∈ files.below names ↔
      (∃ bytes, (names ++ rest, .file bytes) ∈ files.entries) ∧ isOutside (names ++ rest) = isOutside names := by
  simp only [below, List.mem_filterMap]
  constructor
  · rintro ⟨⟨place, entry⟩, hmem, h⟩
    cases entry with
    | directory => simp at h
    | file bytes =>
      simp only [Option.ite_none_right_eq_some, Option.some.injEq, Bool.and_eq_true, decide_eq_true_eq,
        List.isPrefixOf_iff_prefix] at h
      obtain ⟨⟨⟨tail, rfl⟩, hside⟩, rfl⟩ := h
      exact ⟨⟨bytes, by simpa using hmem⟩, by simpa using hside⟩
  · rintro ⟨⟨bytes, hmem⟩, hside⟩
    exact ⟨_, hmem, by simp [hside]⟩

end Files

end ManifestGrading
