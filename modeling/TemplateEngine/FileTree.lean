import TemplateEngine.Path
import TemplateEngine.Table
import TemplateEngine.Text.Utf8

set_option autoImplicit false

/-!
# File trees

Files and directories by their places. The root directory always exists; every other place exists
only if it was made, and only inside a directory.
-/
namespace TemplateEngine

inductive Node where
  | directory
  | file (content : Bytes)
  deriving DecidableEq, Repr

inductive FileError where
  | missing
  | isDirectory
  | notDirectory
  | alreadyExists
  | nameTooLong
  /-- A name contains the character with number zero. -/
  | nullCharacter
  deriving DecidableEq, Repr

namespace FileError

def reason : FileError → Text
  | missing => "No such file or directory".toList
  | isDirectory => "Is a directory".toList
  | notDirectory => "Not a directory".toList
  | alreadyExists => "File exists".toList
  | nameTooLong => "File name too long".toList
  | nullCharacter => "embedded null byte".toList

end FileError

structure FileTree where
  nodes : Table Place Node := {}
  deriving DecidableEq, Repr, Inhabited

namespace FileTree

def node? (t : FileTree) (p : Place) : Option Node :=
  if p = [] then some .directory else t.nodes.find? p

def walk (t : FileTree) (here : Place) : List Text → Except FileError Node
  | [] =>
    match t.node? here with
    | none => .error .missing
    | some n => .ok n
  | name :: names =>
    match t.node? here with
    | none => .error .missing
    | some (.file _) => .error .notDirectory
    | some .directory => walk t (here ++ [name]) names

def maxNameBytes : Nat := 255

/-- Goes on from a directory, whose names are given last to first, along names. A dot stays and two
dots go back, but only in a directory that exists. -/
def locateAlong (t : FileTree) (back : List Text) : List Text → Except FileError Place
  | [] => .ok back.reverse
  | name :: names =>
    match t.node? back.reverse with
    | none => .error .missing
    | some (.file _) => .error .notDirectory
    | some .directory =>
      if maxNameBytes < (Utf8.encode name).length then .error .nameTooLong
      else locateAlong t (if name = ['.'] then back else Path.enter back name) names

def maxPathBytes : Nat := 4095

def checkText (path : Text) : Except FileError Unit :=
  if path.contains '\x00' then .error .nullCharacter
  else if maxPathBytes < (Utf8.encode path).length then .error .nameTooLong
  else .ok ()

/-- The place that a path leads to from a directory; what stands there need not exist. -/
def locate (t : FileTree) (here : Place) (p : Path) : Except FileError Place := do
  checkText p.toText
  t.locateAlong (p.start here) p.names

def locateText (t : FileTree) (here : Place) (path : Text) : Except FileError Place := do
  checkText path
  if path = [] then .error .missing else t.locate here (.ofTextAsIs path)

def stat (t : FileTree) (p : Place) : Except FileError Node := t.walk [] p

def holds (t : FileTree) (p : Place) : Bool :=
  match t.stat p with
  | .ok _ => true
  | .error _ => false

def read (t : FileTree) (p : Place) : Except FileError Bytes := do
  match ← t.stat p with
  | .directory => .error .isDirectory
  | .file content => .ok content

def write (t : FileTree) (p : Place) (content : Bytes) : Except FileError FileTree :=
  match t.stat p with
  | .ok .directory => .error .isDirectory
  | .ok (.file _) => .ok ⟨t.nodes.insert p (.file content)⟩
  | .error .missing => do
    match ← t.stat p.dropLast with
    | .directory => .ok ⟨t.nodes.insert p (.file content)⟩
    | .file _ => .error .notDirectory
  | .error e => .error e

/-- A change of a file tree, which keeps what it has changed when it fails. -/
abbrev Change (α : Type) := ExceptT FileError (StateM FileTree) α

def changing (f : FileTree → Except FileError FileTree) : Change Unit := do
  match f (← get) with
  | .ok t => set t
  | .error e => throw e

/-- Makes the directories on the way from a directory, whose names are given last to first, along
names where they are missing; the last one may have to be new. -/
def makeAlong (isNew : Bool) (back : List Text) : List Text → Change Unit
  | [] => return
  | name :: names => do
    let next := Path.enter back name
    match (← get).node? next.reverse with
    | some (.file _) => throw (if names = [] then .alreadyExists else .notDirectory)
    | some .directory =>
      if isNew && names = [] then throw .alreadyExists
      makeAlong isNew next names
    | none =>
      if maxNameBytes < (Utf8.encode name).length then throw .nameTooLong
      modify fun t => ⟨t.nodes.insert next.reverse .directory⟩
      makeAlong isNew next names

def ensureDirectory (p : Place) : Change Unit := makeAlong false [] p

def ensureAlong (here : Place) (p : Path) : Change Unit := do
  ExceptT.mk (pure (checkText p.toText))
  makeAlong false (p.start here) p.names

def makeDirectory (here : Place) (p : Path) : Change Unit := do
  ExceptT.mk (pure (checkText p.toText))
  if p.names = [] then throw .alreadyExists
  makeAlong true (p.start here) p.names

def delete (t : FileTree) (p : Place) : Except FileError FileTree := do
  match ← t.stat p with
  | .directory => .error .isDirectory
  | .file _ => .ok ⟨t.nodes.erase p⟩

def readText (t : FileTree) (here : Place) (path : Text) : Except FileError Bytes := do
  t.read (← t.locateText here path)

/-- Writes the file that a text leads to. A text that ends in a slash leads to no file. -/
def writeText (t : FileTree) (here : Place) (path : Text) (content : Bytes) :
    Except FileError FileTree := do
  if path ≠ [] && path.getLast? = some '/' then
    let _ ← t.locate here (Path.ofText path)
    .error .isDirectory
  else t.write (← t.locateText here path) content

def files (t : FileTree) (here : Place) : List Text :=
  let names := t.nodes.entries.filterMap fun (p, n) =>
    match n with
    | .directory => none
    | .file _ =>
      if here.isPrefixOf p then some (Text.join ['/'] (p.drop here.length)) else none
  names.mergeSort fun a b => Str.order a b ≠ .gt

end FileTree
end TemplateEngine
