import TemplateEngine.Text.Basic

set_option autoImplicit false

namespace TemplateEngine

inductive Level where
  | debug
  | warning
  deriving DecidableEq, Repr

inductive Notice where
  /-- No open marker follows the close marker in front of this offset. -/
  | unmatchedClose (offset : Nat)
  /-- No close marker follows the open marker at this offset. -/
  | unterminated (offset : Nat)
  /-- An end directive stood where no block was open. -/
  | strayEnd
  /-- The template ended with blocks open. -/
  | closing (origin : Text) (blocks : Nat)
  | compiled (origin : Text) (segments lines : Nat)
  deriving DecidableEq, Repr

namespace Notice

def level : Notice → Level
  | strayEnd => .warning
  | _ => .debug

def message : Notice → Text
  | unmatchedClose n =>
    "Unmatched close marker at offset ".toList ++ Text.ofNat n ++ ", dropping the rest".toList
  | unterminated n =>
    "Unterminated directive at offset ".toList ++ Text.ofNat n ++ ", dropping the rest".toList
  | strayEnd => "Ignoring 'end' directive with no open block".toList
  | closing origin n =>
    origin ++ ": closing ".toList ++ Text.ofNat n
      ++ " unterminated block(s) at end of template".toList
  | compiled origin segments lines =>
    origin ++ ": compiled ".toList ++ Text.ofNat segments ++ " segment(s) into ".toList
      ++ Text.ofNat lines ++ " line(s)".toList

end Notice
end TemplateEngine
