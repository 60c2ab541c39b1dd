import TemplateEngine.Delimiters

set_option autoImplicit false

/-!
# Segments

The units a template is made of: text that is written as it stands, statements of the script
language, and expressions whose value is written raw or escaped.
-/
namespace TemplateEngine

inductive Segment where
  | literal (text : Text)
  | scriptlet (body : Text)
  | raw (expression : Text)
  | escaped (expression : Text)
  deriving DecidableEq, Repr

namespace Segment

/-- The segment of a directive; a sigil at the start of its body makes it an expression. -/
def ofBody : Text → Segment
  | '-' :: e => raw e
  | '=' :: e => escaped e
  | b => scriptlet b

/-- The body of a directive, its sigil included; a literal has none. -/
def body? : Segment → Option Text
  | literal _ => none
  | scriptlet b => some b
  | raw e => some ('-' :: e)
  | escaped e => some ('=' :: e)

def text : Segment → Text
  | literal t | scriptlet t | raw t | escaped t => t

def isExpression : Segment → Bool
  | raw _ | escaped _ => true
  | literal _ | scriptlet _ => false

def source (d : Delimiters) : Segment → Text
  | literal t => t
  | scriptlet b => d.openMarker ++ b ++ d.closeMarker
  | raw e => d.openMarker ++ '-' :: e ++ d.closeMarker
  | escaped e => d.openMarker ++ '=' :: e ++ d.closeMarker

def sourceOf (d : Delimiters) (segments : List Segment) : Text := segments.flatMap (source d)

theorem source_ofBody (d : Delimiters) (b : Text) :
    (ofBody b).source d = d.openMarker ++ b ++ d.closeMarker := by
  unfold ofBody
  split <;> simp [source]

end Segment
end TemplateEngine
