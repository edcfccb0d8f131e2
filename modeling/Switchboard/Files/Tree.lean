import Switchboard.Files.Path
import Switchboard.Text.Utf8

/-!
# File trees

A file tree says which names hold a file and which hold a directory. A path is followed name by
name from the root; two dots lead back to the directory around, one dot and a slash at the end stay
where they are, and all of these ask for a directory.
-/

namespace Switchboard

/-- Why a file cannot be read. -/
inductive FileError where
  | notFound
  | notADirectory
  | isADirectory
  /-- The content is no text. -/
  | invalidData
  /-- The path holds a null character. -/
  | invalidInput
  /-- A name or the path is too long. -/
  | invalidFilename
  deriving DecidableEq, Repr, Inhabited

def FileError.message : FileError → String
  | .notFound => "No such file or directory (os error 2)"
  | .notADirectory => "Not a directory (os error 20)"
  | .isADirectory => "Is a directory (os error 21)"
  | .invalidData => "stream did not contain valid UTF-8"
  | .invalidInput => "file name contained an unexpected NUL byte"
  | .invalidFilename => "File name too long (os error 36)"

def FileError.name : FileError → String
  | .notFound => "NotFound"
  | .notADirectory => "NotADirectory"
  | .isADirectory => "IsADirectory"
  | .invalidData => "InvalidData"
  | .invalidInput => "InvalidInput"
  | .invalidFilename => "InvalidFilename"

/-- What a place in a tree holds. -/
inductive FileNode where
  | directory
  | file (content : List UInt8)
  deriving DecidableEq, Repr, Inhabited

/-- Places, as names from the root, and what they hold. The root is a directory. -/
structure FileTree where
  entries : List (List String × FileNode) := []
  deriving Repr, Inhabited

namespace FileTree

/-- The longest name, in bytes. -/
def nameLimit : Nat := 255

/-- The longest path, in bytes. -/
def pathLimit : Nat := 4095

/-- What a place holds. -/
def node? (t : FileTree) (place : List String) : Option FileNode :=
  if place.isEmpty then some .directory else t.entries.lookup place

/-- Follows names from a place. -/
def walk (t : FileTree) (place : List String) : List String → Except FileError (List String)
  | [] => .ok place
  | name :: rest =>
    match t.node? place with
    | none => .error .notFound
    | some (.file _) => .error .notADirectory
    | some .directory =>
      if name = "." then walk t place rest
      else if name = ".." then walk t place.dropLast rest
      else if nameLimit < name.utf8ByteSize then .error .invalidFilename
      else if (t.node? (place ++ [name])).isSome then walk t (place ++ [name]) rest
      else .error .notFound

/-- The place that a path leads to. -/
def resolve (t : FileTree) (p : FilePath) : Except FileError (List String) :=
  if p.text.toList.contains (Char.ofNat 0) then .error .invalidInput
  else if pathLimit < p.text.utf8ByteSize then .error .invalidFilename
  else if !p.isAbsolute then .error .notFound
  else
    let slash := p.text.toList.getLast? == some '/'
    t.walk [] (p.names ++ if slash then ["."] else [])

/-- The content of a file. -/
def read (t : FileTree) (p : FilePath) : Except FileError (List UInt8) :=
  match t.resolve p with
  | .error e => .error e
  | .ok place =>
    match t.node? place with
    | some (.file content) => .ok content
    | _ => .error .isADirectory

/-- The content of a text file. -/
def readText (t : FileTree) (p : FilePath) : Except FileError String :=
  match t.read p with
  | .error e => .error e
  | .ok bytes =>
    match Text.Utf8.decode bytes with
    | .ok s => .ok s
    | .error _ => .error .invalidData

/-- Whether a path leads to a file. -/
def isFile (t : FileTree) (p : FilePath) : Bool :=
  match t.read p with
  | .ok _ => true
  | .error _ => false

/-- Whether a path leads anywhere. -/
def holds (t : FileTree) (p : FilePath) : Bool :=
  match t.resolve p with
  | .ok _ => true
  | .error _ => false

/-- The path without dots, if it leads anywhere. -/
def canonical? (t : FileTree) (p : FilePath) : Option FilePath :=
  match t.resolve p with
  | .ok place => some (FilePath.ofNames place)
  | .error _ => none

/-- Sets what a place holds. -/
def set (t : FileTree) (place : List String) (node : FileNode) : FileTree :=
  ⟨(place, node) :: t.entries.filter fun e => e.1 ≠ place⟩

/-- Makes directories of all places on the way to a place. -/
def makeWay (t : FileTree) (place : List String) : FileTree :=
  (List.range place.length).foldl
    (fun t n =>
      let way := place.take n
      if (t.node? way).isSome then t else t.set way .directory)
    t

/-- Writes a file and the directories on the way to it. -/
def write (t : FileTree) (place : List String) (content : List UInt8) : FileTree :=
  (t.makeWay place).set place (.file content)

/-- Makes a directory and those on the way to it. -/
def makeDirectory (t : FileTree) (place : List String) : FileTree :=
  (t.makeWay place).set place .directory

/-- Removes what a place holds. -/
def remove (t : FileTree) (place : List String) : FileTree :=
  ⟨t.entries.filter fun e => e.1 ≠ place⟩

end FileTree

end Switchboard
