import TemplateEngine.CommandLine.Footprint

set_option autoImplicit false

/-!
# The program

The files that a run may look at are read before it, and what it has written is written after it.
-/
namespace TemplateEngine.Program

def nodeAt (p : Place) : IO (Option Node) := do
  try
    let content ← IO.FS.readBinFile (String.ofList p.toText)
    return some (.file content.toList)
  catch
    | .inappropriateType .. => return some .directory
    | _ => return none

/-- Adds what stands at places of the file system to a file tree. A place comes after the directory
that it is in. -/
def gather (t : FileTree) (places : List Place) : IO FileTree :=
  places.foldlM (fun t p => do
    if (t.node? p).isSome || t.node? p.dropLast ≠ some .directory then return t
    match ← nodeAt p with
    | some n => return ⟨t.nodes.insert p n⟩
    | none => return t) t

def put (p : Place) (n : Node) : IO Unit :=
  let path := String.ofList p.toText
  match n with
  | .directory => IO.FS.createDirAll path
  | .file content => IO.FS.writeBinFile path ⟨content.toArray⟩

def prepare (here : Place) (arguments : List Text) : IO (Workspace × Bytes) := do
  match CommandLine.Arguments.ofTexts arguments with
  | .error _ => return ({ here := here }, [])
  | .ok a =>
    let files ← gather {} (CommandLine.footprint here a)
    let w : Workspace := { files := files, here := here }
    let files ← match CommandLine.settings? a w with
      | none => pure files
      | some s => gather files (CommandLine.moduleFootprint here a s)
    let input ← if a.context = .text ['-'] then (← IO.getStdin).readBinToEnd else pure ⟨#[]⟩
    return ({ w with files := files }, input.toList)

def run (arguments : List Text) : IO Nat := do
  let here := (Path.ofText (toString (← IO.currentDir)).toList).resolve []
  let (w, input) ← prepare here arguments
  let (report, after) := CommandLine.run arguments input w
  for change in w.files.changes after.files do
    put change.1 change.2
  IO.print (String.ofList report.standardOutput)
  IO.eprint (String.ofList report.diagnostics)
  return report.code

end TemplateEngine.Program

def main (args : List String) : IO UInt32 := do
  return (← TemplateEngine.Program.run (args.map String.toList)).toUInt32
