import FaultDrill.Text.Reader

/-!
Folders and files. A disk is a finite table from places to what is there; the
root is always a folder. A path is a text that leads from folder to folder, from
the root if it starts with a slash and otherwise from the folder someone works
in, and whatever is wrong with it is found on the way.
-/

namespace FaultDrill

/-- Why a file or a folder cannot be reached or made. -/
inductive FileError where
  | missing
  | exists
  | notADirectory
  | isDirectory
  | nameTooLong
  | nulInName
  | notUtf8
  /-- The system has reasons of its own, for instance that no space is left. -/
  | refused (reason : String)
  deriving DecidableEq

def FileError.message : FileError → String
  | .missing => "No such file or directory (os error 2)"
  | .exists => "File exists (os error 17)"
  | .notADirectory => "Not a directory (os error 20)"
  | .isDirectory => "Is a directory (os error 21)"
  | .nameTooLong => "File name too long (os error 36)"
  | .nulInName => "file name contained an unexpected NUL byte"
  | .notUtf8 => "stream did not contain valid UTF-8"
  | .refused reason => reason

inductive Entry where
  | folder
  | file (content : String)
  deriving DecidableEq

/-- The names that lead from the root to an entry. -/
abbrev Place := List String

structure Disk where
  entries : List (Place × Entry) := []
  /-- The folder that paths start from. -/
  home : Place := []

namespace Disk

def empty : Disk := {}

def entry? (disk : Disk) (place : Place) : Option Entry :=
  if place.isEmpty then some .folder else disk.entries.lookup place

/-- Puts an entry at a place, whatever was there. -/
def put (disk : Disk) (place : Place) (entry : Entry) : Disk :=
  { disk with entries := (place, entry) :: disk.entries.filter fun other => other.1 != place }

/-! Paths -/

/-- The names along a path. Slashes that follow each other count once. -/
def parts (path : String) : List String :=
  ((Text.splitAt '/' path.toList).filter fun part => !part.isEmpty).map String.ofList

def longestName : Nat := 255

def longestPath : Nat := 4095

/-- One step along a path. -/
def step (disk : Disk) (place : Place) (name : String) : Except FileError Place :=
  match disk.entry? place with
  | none => .error .missing
  | some (.file _) => .error .notADirectory
  | some .folder =>
      if name = "." then .ok place
      else if name = ".." then .ok place.dropLast
      else if longestName < name.utf8ByteSize then .error .nameTooLong
      else .ok (place ++ [name])

/-- A path as the system takes it: not empty, not too long, and without the
character that ends it. -/
def checkPath (path : String) : Except FileError Unit :=
  if path.toList.any fun char => char.toNat = 0 then .error .nulInName
  else if path.isEmpty then .error .missing
  else if longestPath < path.utf8ByteSize then .error .nameTooLong
  else .ok ()

/-- The place a path leads to. There need not be anything. -/
def locate (disk : Disk) (path : String) : Except FileError Place := do
  checkPath path
  (parts path).foldlM disk.step (if path.toList.head? = some '/' then [] else disk.home)

def endsInSlash (path : String) : Bool := path.toList.getLast? == some '/'

/-- What is found at the end of a path. Only a folder may be followed by a slash. -/
def find (disk : Disk) (path : String) : Except FileError Entry := do
  match disk.entry? (← disk.locate path) with
  | none => throw .missing
  | some (.file content) =>
      if endsInSlash path then throw .notADirectory else return .file content
  | some .folder => return .folder

def isFolder (disk : Disk) (path : String) : Bool := disk.find path matches .ok .folder

/-- Whether something is there; whatever is wrong with the path, nothing is. -/
def has (disk : Disk) (path : String) : Bool := disk.find path matches .ok _

/-- Whether something is there, if that can be told. -/
def has? (disk : Disk) (path : String) : Except FileError Bool :=
  match disk.find path with
  | .ok _ => .ok true
  | .error .missing => .ok false
  | .error error => .error error

/-- A path with another one behind it, unless that starts at the root. -/
def join (path rest : String) : String :=
  if rest.toList.head? = some '/' || path.isEmpty then rest
  else if endsInSlash path then path ++ rest
  else path ++ "/" ++ rest

/-- The end of a path, read backwards, without slashes that end it and without
names that stay where they are. A path that is nothing else is kept. -/
def trimEnd : List Char → List Char
  | [] => []
  | [char] => [char]
  | '/' :: second :: rest => trimEnd (second :: rest)
  | '.' :: '/' :: rest => trimEnd ('/' :: rest)
  | char :: rest => char :: rest

/-- The name at the end of a path, unless it leads outwards or nowhere. -/
def lastName (path : String) : Option String :=
  let name := ((trimEnd path.toList.reverse).takeWhile (· ≠ '/')).reverse
  if name = [] || name = ['.'] || name = ['.', '.'] then none else some (String.ofList name)

/-- A path without its last name. Neither the root nor the empty path has one. -/
def outerPath (path : String) : Option String :=
  let trimmed := trimEnd path.toList.reverse
  if trimmed = [] || trimmed = ['/'] then none
  else some (String.ofList (trimEnd (trimmed.dropWhile (· ≠ '/'))).reverse)

example : outerPath "a//b/./c/" = some "a//b" ∧ lastName "a//b/./c/" = some "c" := by decide +kernel
example : outerPath "/c" = some "/" ∧ lastName "/.." = none := by decide +kernel

/-! Reading and writing -/

def read (disk : Disk) (path : String) : Except FileError String := do
  match ← disk.find path with
  | .file content => return content
  | .folder => throw .isDirectory

/-- The place of a file that is to be written. -/
def fileToWrite (disk : Disk) (path : String) : Except FileError Place := do
  let place ← disk.locate path
  match disk.entry? place with
  | some .folder => throw .isDirectory
  | some (.file _) => if endsInSlash path then throw .notADirectory else return place
  | none => if endsInSlash path then throw .isDirectory else return place

/-- Writes a file, whether or not there was one. -/
def write (disk : Disk) (path content : String) : Except FileError Disk := do
  let place ← disk.fileToWrite path
  return disk.put place (.file content)

/-- Writes behind what a file holds, if there is one. -/
def append (disk : Disk) (path content : String) : Except FileError Disk := do
  let place ← disk.fileToWrite path
  match disk.entry? place with
  | some (.file old) => return disk.put place (.file (old ++ content))
  | _ => return disk.put place (.file content)

/-! Folders -/

def createFolder (disk : Disk) (path : String) : Except FileError Disk := do
  let place ← disk.locate path
  if (disk.entry? place).isSome then throw .exists
  return disk.put place .folder

/-- Makes a folder. -/
def createIfAbsent (disk : Disk) (path : String) : Except FileError Disk :=
  match disk.createFolder path with
  | .ok disk => .ok disk
  | .error error => if disk.isFolder path then .ok disk else .error error

/-- Something done to a disk in several steps, which may end at one that fails. -/
abbrev Change := EStateM FileError Disk Unit

/-- A single step, which is either taken or not. -/
def Change.single (act : Disk → Except FileError Disk) : Change := fun disk =>
  match act disk with
  | .ok disk => .ok () disk
  | .error error => .error error disk

/-- The disk behind a change, if that came to its end. -/
def Change.result (change : Change) (disk : Disk) : Except FileError Disk :=
  match change disk with
  | .ok _ disk => .ok disk
  | .error error _ => .error error

/-- Makes all folders along a path, the outer ones only if they are missing. -/
def createOuterFirst : Nat → String → Change
  | 0, _ => return ()
  | fuel + 1, path => fun disk =>
      if path.isEmpty then .ok () disk
      else
        match disk.createIfAbsent path, outerPath path with
        | .error .missing, some outer =>
            (do createOuterFirst fuel outer; Change.single (·.createIfAbsent path)) disk
        | .ok disk, _ => .ok () disk
        | .error error, _ => .error error disk

/-- Makes a folder and all folders that lead to it. A path has at most as many of
them as characters. -/
def createFolders (path : String) : Change := createOuterFirst (path.length + 1) path

/-- Makes the folders that lead to a path, if it has any. -/
def makeWay (path : String) : Change :=
  match outerPath path with
  | some outer => if outer.isEmpty then return () else createFolders outer
  | none => return ()

/-! Views -/

/-- The disk with some files on it, and the folders they need. A path that ends in
a slash stands for a folder. -/
def ofFiles (files : List (String × String)) : Except FileError Disk :=
  files.foldlM (fun disk (path, content) => do
    if endsInSlash path then (createFolders path).result disk
    else (← (makeWay path).result disk).write path content) empty

/-- All entries with their paths from a folder, in the order of the paths. -/
def listing (disk : Disk) (folder : Place) : List (String × Entry) :=
  let inside := disk.entries.filter fun (place, _) =>
    folder.isPrefixOf place && folder.length < place.length
  (inside.map fun (place, entry) => ("/".intercalate (place.drop folder.length), entry)).mergeSort
    fun left right => left.1 ≤ right.1

end Disk

end FaultDrill
