import TemplateEngine.CommandLine.Arguments
import TemplateEngine.Document
import TemplateEngine.Page

set_option autoImplicit false

/-!
# Running a command line

A command line renders one template. The output is opened only when the template is rendered, and a
template that cannot be rendered is recorded and ends the run with code 1. The arguments are texts, and so is
all that is written, to a file or to the standard output.
-/
namespace TemplateEngine.CommandLine

structure Record where
  message : Text
  failure : Failure

inductive Ending where
  | exit (code : Nat)
  | raised (f : Failure)

/-- How a failure ends a run. An exit that gives no code says that all is well. -/
def Ending.ofFailure : Failure → Ending
  | .raised ⟨.systemExit, [], _⟩ _ | .raised ⟨.systemExit, [.none], _⟩ _ => exit 0
  | .raised ⟨.systemExit, [.int n _], _⟩ _ => exit n.toNat
  | .raised ⟨.systemExit, _, _⟩ _ => exit 1
  | f => raised f

structure Report where
  ending : Ending
  standardOutput : Text := []
  standardError : Text := []
  records : List Record := []

namespace Report

def code (r : Report) : Nat :=
  match r.ending with
  | .exit n => n
  | .raised _ => 1

def diagnostics (r : Report) : Text :=
  let lines : List Str := r.records.map fun e => if e.message = [] then e.failure.message
    else e.message ++ ": ".toList ++ e.failure.message
  let lines := match r.ending with
    | .exit _ => lines
    | .raised f => lines ++ [f.message]
  r.standardError ++ lines.flatMap fun t => Str.escaped t ++ ['\n']

end Report

def usage : Text := Text.join ['\n']
  (["usage: scriptpage [-h] [-c CONTEXT] [--config CONFIG] [-o OUTPUT]",
    "                  [--work-area WORK_AREA] [-v]",
    "                  template",
    ""].map String.toList)

def help : Text := usage ++ Text.join ['\n']
  (["",
    "Render a scriptlet template.",
    "",
    "positional arguments:",
    "  template              Path to the template file",
    "",
    "options:",
    "  -h, --help            show this help message and exit",
    "  -c CONTEXT, --context CONTEXT",
    "                        YAML or JSON file passed as the render argument, '-'",
    "                        for stdin",
    "  --config CONFIG       Path to YAML config file",
    "  -o OUTPUT, --output OUTPUT",
    "                        Output file path or '-' for stdout",
    "  --work-area WORK_AREA",
    "                        Directory for generated modules (overrides config)",
    "  -v, --verbose         Log debug output",
    ""].map String.toList)

def refusal (r : Refusal) : Text := usage ++ "scriptpage: error: ".toList ++ r.message ++ ['\n']

/-- The settings with no template to load at the start, and with another directory for generated
modules if one is given. -/
def override (workArea : Option Text) (s : Settings) : Except SettingsError Settings :=
  let es := Data.insert (.text "source_location".toList) .null s.toEntries
  let es := match workArea with
    | none => es
    | some t => Data.insert (.text "work_area".toList) (.text t) es
  Settings.ofData (.dict es)

def settings (a : Arguments) : Action Settings := do
  let s ← match a.config.nonempty? with
    | none => pure Settings.standard
    | some path => Settings.read path
  Action.ofExcept .settings (override a.workArea.nonempty? s)

def notText : Failure := .raised { cls := .typeError } {}

def context (a : Arguments) (input : Bytes) : Action Data :=
  match a.context with
  | .unset => return .null
  | .blank => throw notText
  | .text ['-'] => Action.ofExcept id (Document.ofBytes input)
  | .text path => Document.read path

def render (a : Arguments) (s : Settings) (input : Bytes) :
    Action (Script.Value × Script.Heap) := do
  let p ← Page.create s none
  let p ← p.load (.ofText a.template)
  p.render (← context a input)

/-- What is recorded of a failure. Failures of templates speak for themselves. -/
def record (a : Arguments) (f : Failure) : Record :=
  match f with
  | .notFound _ _ | .load _ | .stale _ => ⟨[], f⟩
  | _ => ⟨"Rendering ".toList ++ a.template ++ " failed".toList, f⟩

/-- The text that is written of what was rendered. A string that is no text cannot be encoded. -/
def output : Script.Value → Except Failure Text
  | .text s _ =>
    match s.text? with
    | some t => .ok t
    | none => .error (.raised (.unwritable s) {})
  | _ => .error notText

/-- What a file holds after something was written to it: opening the file empties it, and it stays empty
where nothing can be written. -/
def content (v : Script.Value) : Bytes :=
  match output v with
  | .ok t => Utf8.encode t
  | .error _ => []

def write (path : Text) (v : Script.Value) : Action Unit := do
  let here := (← get).here
  Action.changeFiles (FileTree.changing fun t => t.writeText here path (content v))
  let _ ← Action.ofExcept id (output v)

def runWith (a : Arguments) (s : Settings) (input : Bytes) : Action Report := do
  match ← Action.attempt (render a s input) with
  | .error f =>
    if !f.isHandled then throw f
    return { ending := .exit 1, records := [record a f] }
  | .ok (v, _) =>
    match a.output with
    | .text ['-'] => do
      return { ending := .exit 0, standardOutput := ← Action.ofExcept id (output v) }
    | .text path => do
      write path v
      return { ending := .exit 0 }
    | .blank | .unset => throw notText

def Report.behind (r : Report) (printed : Text) : Report :=
  { r with standardOutput := printed ++ r.standardOutput }

def run (arguments : List Text) (input : Bytes) (w : Workspace) : Report × Workspace :=
  match Arguments.ofTexts arguments with
  | .error .help => ({ ending := .exit 0, standardOutput := help }, w)
  | .error (.refused r) => ({ ending := .exit 2, standardError := refusal r }, w)
  | .ok a =>
    match (do runWith a (← settings a) input : Action Report).run w with
    | (.ok r, w) => (r.behind w.printed, w)
    | (.error f, w) => (Report.behind { ending := .ofFailure f } w.printed, w)

end TemplateEngine.CommandLine
