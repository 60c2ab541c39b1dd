import TemplateEngine.FileTree
import TemplateEngine.Identity
import TemplateEngine.Script.Module
import TemplateEngine.Settings.Basic
import TemplateEngine.Text.Blank
import TemplateEngine.Yaml.Fault

set_option autoImplicit false

namespace TemplateEngine

def FileError.cls : FileError → Script.ExceptionClass
  | missing => .fileNotFoundError
  | isDirectory => .isADirectoryError
  | notDirectory => .notADirectoryError
  | alreadyExists => .fileExistsError
  | nameTooLong => .osError
  | nullCharacter => .valueError

inductive LoadCause where
  | malformed
  | nullCharacter
  /-- There is no memory for reading a program that is nested so deep. -/
  | tooManyRules
  /-- The program is nested too deep. -/
  | tooDeep
  /-- Running the module raised an exception. -/
  | raised (e : Script.Raised) (h : Script.Heap)
  | endless
  /-- No code is kept under the reference. -/
  | nothingKept
  /-- The reference contains the character with number zero. -/
  | nullReference
  /-- The module has no function that renders. -/
  | noFunction
  /-- The file's name is not that of a module. -/
  | notAModule (path : Text)
  | file (e : FileError)
  | encoding (f : Utf8.Fault)

namespace LoadCause

def ofFault : Script.LoadFault → LoadCause
  | .program .nullCharacter => nullCharacter
  | .program .malformed => malformed
  | .program .tooManyRules => tooManyRules
  | .program .tooDeep => tooDeep
  | .raised e m => raised e m.state.heap
  | .endless => endless

def cls : LoadCause → Script.ExceptionClass
  | malformed => .syntaxError
  | nullCharacter => .valueError
  | tooManyRules => .memoryError
  | tooDeep => .recursionError
  | raised e _ => e.cls
  | endless => .recursionError
  | nothingKept => .lookupError
  | nullReference => .valueError
  | noFunction => .attributeError
  | notAModule _ => .importError
  | file e => e.cls
  | encoding _ => .unicodeDecodeError

/-- What an exception says in a report: one of a malformed program says at least that it says
nothing. -/
def raisedDetail (e : Script.Raised) (h : Script.Heap) : Str :=
  let speaks := match e.arguments with
    | [] => false
    | v :: _ => v.truthy h
  if e.cls.isA .syntaxError && !speaks then "<no detail available>".toList
  else
    match e.text h with
    | .error _ => "<exception str() failed>".toList
    | .ok t => t

def detail : LoadCause → Str
  | malformed => "invalid syntax".toList
  | nullCharacter => "source code string cannot contain null bytes".toList
  | tooManyRules => []
  | tooDeep => "maximum recursion depth exceeded during compilation".toList
  | raised e h => raisedDetail e h
  | endless => []
  | nothingKept => "nothing persisted under this reference".toList
  | nullReference => "embedded null character".toList
  | noFunction => "generated module defines no render()".toList
  | notAModule path => "cannot build a module spec for ".toList ++ path
  | file e => e.reason
  | encoding f => f.reason

def report (c : LoadCause) : Str :=
  Text.trimEndBy (CodePoint.satisfies Text.isBlank)
    (if c.detail = [] then c.cls.name else c.cls.name ++ ": ".toList ++ c.detail)

end LoadCause

structure LoadError where
  /-- The reference under which the module's code is kept. -/
  artifact : Text
  cause : LoadCause

namespace LoadError

def message (e : LoadError) : Str := e.artifact ++ .char '\n' :: e.cause.report

end LoadError

inductive Failure where
  /-- No template can be read at a location. -/
  | notFound (location : Text) (reason : Option Text)
  | load (e : LoadError)
  /-- A template was to be rendered that had been dropped. -/
  | stale (identity : Text)
  /-- Rendering raised an exception. -/
  | raised (e : Script.Raised) (h : Script.Heap)
  | endless
  | file (e : FileError)
  | location (f : Identity.LocationFault)
  /-- A file that should hold a compiled extension does not. -/
  | extension
  | settings (e : SettingsError)
  /-- A file of settings has issues; the text reports them. -/
  | issues (report : Text)
  /-- A document has no data. -/
  | document (f : Yaml.Fault)
  | encoding (f : Utf8.Fault)
  /-- A number was given that no module or cache has. -/
  | unknownNumber

def Yaml.Fault.cls? : Yaml.Fault → Option Script.ExceptionClass
  | malformed => none
  | encoding _ => some .unicodeDecodeError
  | integer _ _ _ | decimal _ | calendar _ => some .valueError
  | character n => some (if n < characterBound then .valueError else .overflowError)
  | emptyNumber => some .indexError
  | notTruth => some .keyError
  | notTime => some .attributeError
  | tooDeep => some .recursionError

namespace Failure

def notFoundMessage (location : Text) (reason : Option Text) : Text :=
  let base := "Template not found: ".toList ++ location
  match reason with
  | none | some [] => base
  | some r => base ++ " (".toList ++ r ++ [')']

def staleMessage (identity : Text) : Text :=
  "No compiled template for ".toList ++ Str.quoted identity
    ++ "; reload it before rendering".toList

def message : Failure → Str
  | notFound l reason => notFoundMessage l reason
  | load e => e.message
  | stale identity => staleMessage identity
  | raised e h => (LoadCause.raised e h).report
  | endless => LoadCause.endless.report
  | file e => e.reason
  | location f => f.message
  | extension => "not a compiled extension".toList
  | settings (.issues found) => Issue.reportAll Settings.recordName found
  | settings .notAMapping => "the delimiters are no mapping".toList
  | settings .notSettings => "these are no settings".toList
  | issues report => report
  | document f => f.valueMessage?.getD "the document is malformed".toList
  | encoding f => f.reason
  | unknownNumber => "no module or cache has this number".toList

/-- Whether a failure is one that is handled. Exceptions of a class that is not derived from
`Exception` ask for the end of the program instead. -/
def isHandled : Failure → Bool
  | raised e _ => e.cls.isA .exception
  | _ => true

def ofFault (artifact : Text) (f : Script.LoadFault) : Failure :=
  match f with
  | .raised e m => if e.cls.isA .exception then load ⟨artifact, .ofFault f⟩ else raised e m.state.heap
  | _ => load ⟨artifact, .ofFault f⟩

/-- What is said of a value that cannot be used, if a failure is about one: settings with issues, a
scalar that stands for nothing, a name with a character that no name has. -/
def valueMessage? : Failure → Option Text
  | issues report => some report
  | document f => f.valueMessage?
  | file .nullCharacter => some FileError.nullCharacter.reason
  | _ => none

end Failure
end TemplateEngine
