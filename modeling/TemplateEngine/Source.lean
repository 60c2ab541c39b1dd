import TemplateEngine.Failure

set_option autoImplicit false

/-!
# Template sources

The text of a template is what the bytes of its file spell, without one byte order mark in front;
line ends stay as they are.
-/
namespace TemplateEngine.Source

/-- Why a file of that kind has no text, as far as that makes the template one that is not found. -/
def fileReason? : FileError → Option Text
  | .missing => some FileError.missing.reason
  | .isDirectory => some FileError.isDirectory.reason
  | .notDirectory => some FileError.notDirectory.reason
  | _ => none

def encodingReason (f : Utf8.Fault) : Text := "not valid UTF-8: ".toList ++ f.reason

def ofBytes (bs : Bytes) : Except Utf8.Fault Text := Text.dropByteOrderMark <$> Utf8.decode bs

def bytes (t : FileTree) (here : Place) (p : Path) : Except FileError Bytes := do
  t.read (← t.locate here p)

def read (t : FileTree) (here : Place) (p : Path) : Except Failure Text :=
  match bytes t here p with
  | .error e =>
    match fileReason? e with
    | some r => .error (.notFound p.toText (some r))
    | none => .error (.file e)
  | .ok bs =>
    match ofBytes bs with
    | .error f => .error (.notFound p.toText (some (encodingReason f)))
    | .ok t => .ok t

end TemplateEngine.Source
