/-!
# File paths

A path is a text in which slashes separate names. Two paths are the same place if their parts agree:
repeated slashes and names of one dot make no difference. The extension of a name is what follows
its last dot, unless nothing stands in front of that dot.
-/

namespace Switchboard

/-- A path as it is written. -/
structure FilePath where
  text : String
  deriving DecidableEq, Repr, Inhabited

namespace FilePath

/-- The pieces of a list between the places where `p` holds. -/
def splitAll (p : Char → Bool) : List Char → List (List Char)
  | [] => [[]]
  | c :: rest =>
    if p c then [] :: splitAll p rest
    else
      match splitAll p rest with
      | [] => [[c]]
      | piece :: more => (c :: piece) :: more

/-- The names between slashes, empty ones left out. -/
def names (p : FilePath) : List String :=
  ((splitAll (· == '/') p.text.toList).filter fun n => !n.isEmpty).map String.ofList

/-- Whether the path begins at the root. -/
def isAbsolute (p : FilePath) : Bool := p.text.toList.head? == some '/'

/-- The parts of a path: its names without single dots, except one in front of a relative path. -/
def parts (p : FilePath) : List String :=
  match p.isAbsolute, p.names with
  | false, "." :: rest => "." :: rest.filter (· ≠ ".")
  | _, ns => ns.filter (· ≠ ".")

/-- Whether two paths lead to the same place, name by name. -/
def same (p q : FilePath) : Bool := p.isAbsolute == q.isAbsolute && p.parts == q.parts

/-- The last part, if it is a name. -/
def fileName? (p : FilePath) : Option String :=
  match p.parts.getLast? with
  | some n => if n = "." ∨ n = ".." then none else some n
  | none => none

/-- A name as the part in front of its last dot and the part behind it. -/
def splitName (name : List Char) : List Char × Option (List Char) :=
  match (splitAll (· == '.') name).reverse with
  | [] => (name, none)
  | [_] => (name, none)
  | last :: _ =>
    let front := name.take (name.length - last.length - 1)
    if front.isEmpty then (name, none) else (front, some last)

/-- The extension of the file name. -/
def extension? (p : FilePath) : Option String :=
  p.fileName?.bind fun n => (splitName n.toList).2.map String.ofList

/-- The file name without its extension. -/
def stem? (p : FilePath) : Option String :=
  p.fileName?.map fun n => String.ofList (splitName n.toList).1

/-- The path followed by another one, which replaces it if it begins at the root. -/
def join (p : FilePath) (other : String) : FilePath :=
  if other.toList.head? == some '/' then ⟨other⟩
  else if p.text.isEmpty || p.text.toList.getLast? == some '/' then ⟨p.text ++ other⟩
  else ⟨p.text ++ "/" ++ other⟩

/-- Whether `p` lies directly in the directory `dir`. -/
def isIn (p dir : FilePath) : Bool :=
  p.isAbsolute == dir.isAbsolute && !p.parts.isEmpty && p.parts.dropLast == dir.parts

/-- The path without single dots and repeated slashes; a slash at its end is kept. -/
def tidy (p : FilePath) : FilePath :=
  let body := "/".intercalate (p.names.filter (· ≠ "."))
  let slash := if p.text.toList.getLast? == some '/' && !body.isEmpty then "/" else ""
  ⟨(if p.isAbsolute then "/" else "") ++ body ++ slash⟩

/-- The path from the root through names. -/
def ofNames (ns : List String) : FilePath := ⟨"/" ++ "/".intercalate ns⟩

end FilePath

end Switchboard
