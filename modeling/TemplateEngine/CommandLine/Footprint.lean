import TemplateEngine.CommandLine.Run

set_option autoImplicit false

/-!
# Footprints

The places that running a command line may look at, as far as arguments and settings tell. Whatever
else a file tree holds makes no difference to a run. What a run has written is found by comparing
the file trees before and after it.
-/
namespace TemplateEngine

namespace Place

def upTo (p : Place) : List Place := (List.range p.length).map fun n => p.take (n + 1)

end Place

namespace Path

def visited (here : Place) (p : Path) : List Place :=
  here.upTo ++ (List.range p.names.length).map fun n =>
    resolve here { p with names := p.names.take (n + 1) }

end Path

namespace FileTree

def changes (before after : FileTree) : List (Place × Node) :=
  after.nodes.entries.filter fun e => before.node? e.1 ≠ some e.2

end FileTree

namespace CommandLine

/-- The paths that arguments name, except the directory for generated modules. -/
def paths (a : Arguments) : List Path :=
  let files := [a.context, a.config, a.output].filterMap Setting.nonempty?
  .ofText a.template :: files.map Path.ofTextAsIs

/-- The places that a run looks at whatever its settings are. -/
def footprint (here : Place) (a : Arguments) : List Place := (paths a).flatMap (Path.visited here)

def moduleFootprint (here : Place) (a : Arguments) (s : Settings) : List Place :=
  match s.workArea, Identity.ofLocation here a.template with
  | some p, .ok identity => (Artifact.path (p.resolve here) identity).visited here
  | _, _ => []

def settings? (a : Arguments) (w : Workspace) : Option Settings := ((settings a).run w).1.toOption

end CommandLine
end TemplateEngine
