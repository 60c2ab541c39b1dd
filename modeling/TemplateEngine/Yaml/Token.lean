import TemplateEngine.Yaml.Fault

set_option autoImplicit false

/-!
# Tokens of a document

The marks, names and scalars that a document consists of. That a collection starts or ends by
indentation is a token too. A fault ends the tokens, and counts only if all in front of it are in order.
-/
namespace TemplateEngine.Yaml

inductive Token where
  /-- A directive for the version of the language. -/
  | version (major minor : Nat)
  /-- A directive for what a handle of tags stands for. -/
  | handle (name text : Text)
  /-- A directive without a meaning. -/
  | directive
  | documentStart
  | documentEnd
  | blockSequenceStart
  | blockMappingStart
  | blockEnd
  | flowSequenceStart
  | flowSequenceEnd
  | flowMappingStart
  | flowMappingEnd
  | blockEntry
  | flowEntry
  | key
  | value
  | alias (name : Text)
  | anchor (name : Text)
  /-- A tag, with the handle that it starts with if it has one. -/
  | tag (handle : Option Text) (text : Text)
  | scalar (isPlain : Bool) (text : Str)
  deriving DecidableEq, Repr

structure Tokens where
  list : List Token
  fault? : Option Fault := none
  deriving DecidableEq, Repr

namespace Tokens

def cons (t : Token) (ts : Tokens) : Tokens := { ts with list := t :: ts.list }

/-- The tokens behind some anchors, up to an anchor that is known already or an alias for none of
them. -/
def nameFrom (f? : Option Fault) (known : List Text) : List Token → Tokens
  | [] => ⟨[], f?⟩
  | .anchor a :: ts =>
    if known.contains a then ⟨[], some .malformed⟩ else (nameFrom f? (a :: known) ts).cons (.anchor a)
  | .alias a :: ts =>
    if known.contains a then (nameFrom f? known ts).cons (.alias a) else ⟨[], some .malformed⟩
  | t :: ts => (nameFrom f? known ts).cons t

def named (ts : Tokens) : Tokens := nameFrom ts.fault? [] ts.list

end Tokens

end TemplateEngine.Yaml
