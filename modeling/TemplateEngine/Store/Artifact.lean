import TemplateEngine.Path
import TemplateEngine.Store.Digest

set_option autoImplicit false

/-!
# Artifacts

An artifact is the code of a generated module, and a reference is how it is found again: a text that
contains the template's identity for code kept in memory, a path for code kept in a file.
-/
namespace TemplateEngine.Artifact

def referenceStart : Text := "<scriptpage:".toList

def reference (identity : Text) : Text := referenceStart ++ identity ++ ['>']

def moduleStart : Text := "_scriptpage_".toList

/-- The name of the module whose code is kept in memory under a reference: what stands between the
brackets of the reference behind its first colon. -/
def moduleName (ref : Text) : Text :=
  let isBracket (c : Char) : Bool := c = '<' || c = '>'
  let inner := Text.trimEndBy isBracket (Text.trimStartBy isBracket ref)
  moduleStart ++ match Text.cut? [':'] inner with
    | some (_, name) => name
    | none => inner

def suffix : Text := ".py".toList

def path (workArea : Place) (identity : Text) : Path :=
  workArea.toPath.append (.ofText (identity ++ suffix))

def moduleSuffixes : List Text := [suffix, ".pyc".toList]

def extensionSuffix : Text := ".so".toList

def isModulePath (p : Path) : Bool := moduleSuffixes.any fun s => s.isSuffixOf p.toText

def isExtensionPath (p : Path) : Bool := extensionSuffix.isSuffixOf p.toText

/-- The name of the module in a file: its directory's digest and its own name. -/
def fileModuleName (p : Path) : Text :=
  moduleStart ++ (Digest.hex (Utf8.encode p.parent.toText)).take 10 ++ '_' :: p.stem

/-- The name of the package that a module is in: what stands in front of the last dot of its name. -/
def packageName (name : Text) : Text := ((Path.lastDot? name).map Prod.fst).getD []

/-- Where the code of the module in a file would be kept in another form. -/
def cachePath (p : Path) : Path :=
  let base := match Path.lastDot? p.name with
    | some ([], b) => b
    | some (a, _) => a
    | none => p.name
  if suffix.isSuffixOf p.toText then
    ⟨p.root, p.names.dropLast ++ ["__pycache__".toList, base ++ ".cpython-311.pyc".toList]⟩
  else p

/-- The directory and the name by which the module in a file is known. -/
def key (p : Path) : Text × Text := (p.parent.toText, p.stem)

end TemplateEngine.Artifact
