import TemplateEngine.Workspace
import TemplateEngine.Yaml.Document

set_option autoImplicit false

/-!
# Documents in files

Contexts and settings are kept in files as documents. An empty document gives the standard settings,
and what is wrong with settings is reported as one text.
-/
namespace TemplateEngine

namespace Document

def ofBytes (bs : Bytes) : Except Failure Data :=
  match Yaml.document (.ofBytes bs) with
  | .error (.encoding f) => .error (.encoding f)
  | .error f => .error (.document f)
  | .ok d => .ok d

def read (path : Text) : Action Data := do
  let w ← get
  let bs ← Action.ofExcept .file (w.files.readText w.here path)
  Action.ofExcept id (ofBytes bs)

end Document

namespace Settings

def ofDocument (d : Data) : Except Failure Settings :=
  match Settings.ofData (if d.truthy then d else .dict []) with
  | .ok s => .ok s
  | .error (.issues is) => .error (.issues (Issue.reportAll recordName is))
  | .error e => .error (.settings e)

def read (path : Text) : Action Settings := do
  Action.ofExcept id (ofDocument (← Document.read path))

end Settings
end TemplateEngine
