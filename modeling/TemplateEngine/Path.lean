import TemplateEngine.Text.Basic

set_option autoImplicit false

/-!
# Paths

A path is a root and the names below it. Slashes in a row count as one and single dots as none; two
slashes, and no more, at the start are a root of their own. A place is a path from the one root `/`
without dots, named by the names on the way; resolving a path gives its place.
-/
namespace TemplateEngine

inductive PathRoot where
  | relative
  | single
  | double
  deriving DecidableEq, Repr

/-- A path as it is written, without empty names and single dots. -/
structure Path where
  root : PathRoot
  names : List Text
  deriving DecidableEq, Repr

abbrev Place := List Text

namespace Path

def pieces : Text → List Text
  | [] => [[]]
  | c :: t =>
    if c = '/' then [] :: pieces t
    else match pieces t with
      | [] => [[c]]
      | p :: ps => (c :: p) :: ps

def rootOf : Text → PathRoot
  | '/' :: '/' :: '/' :: _ => .single
  | '/' :: '/' :: _ => .double
  | '/' :: _ => .single
  | _ => .relative

def ofText (t : Text) : Path :=
  ⟨rootOf t, (pieces t).filter fun p => p ≠ [] && p ≠ ['.']⟩

/-- Reads a path with its dots. A slash at the end says the same as a dot there: that the path leads
to a directory. -/
def ofTextAsIs (t : Text) : Path :=
  let names := (pieces t).filter fun p => p ≠ []
  ⟨rootOf t, if t.getLast? = some '/' then names ++ [['.']] else names⟩

def rootText : PathRoot → Text
  | .relative => []
  | .single => ['/']
  | .double => ['/', '/']

def toText (p : Path) : Text :=
  match p.root, p.names with
  | .relative, [] => ['.']
  | r, ns => rootText r ++ Text.join ['/'] ns

def append (p q : Path) : Path :=
  match q.root with
  | .relative => ⟨p.root, p.names ++ q.names⟩
  | _ => q

/-- Goes one name on from a place, whose names are given last to first. -/
def enter (back : List Text) (name : Text) : List Text :=
  if name = "..".toList then back.drop 1 else name :: back

/-- Where a path that is read at a place starts: the names of the place, last to first. -/
def start (here : Place) (p : Path) : List Text :=
  match p.root with
  | .relative => here.reverse
  | _ => []

def resolve (here : Place) (p : Path) : Place := (p.names.foldl enter (p.start here)).reverse

def parent (p : Path) : Path := ⟨p.root, p.names.dropLast⟩

def name (p : Path) : Text := p.names.getLastD []

def lastDot? : Text → Option (Text × Text)
  | [] => none
  | c :: t =>
    match lastDot? t with
    | some (a, b) => some (c :: a, b)
    | none => if c = '.' then some ([], t) else none

/-- A name without its suffix, which is neither the whole name nor empty. -/
def stemOf (name : Text) : Text :=
  match lastDot? name with
  | some (a, b) => if a = [] || b = [] then name else a
  | none => name

def stem (p : Path) : Text := stemOf p.name

end Path

namespace Place

def toPath (p : Place) : Path := ⟨.single, p⟩

def toText (p : Place) : Text := p.toPath.toText

end Place
end TemplateEngine
