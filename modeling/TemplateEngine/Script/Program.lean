import TemplateEngine.Script.Folding
import TemplateEngine.Script.Grammar.Nesting
import TemplateEngine.Script.Grammar.Placement
import TemplateEngine.Script.Grammar.Statement

set_option autoImplicit false

namespace TemplateEngine.Script

inductive ProgramFault where
  /-- The text contains the character with number zero. -/
  | nullCharacter
  | malformed
  /-- Too many rules of the grammar would have to be followed at once. -/
  | tooManyRules
  /-- The parts of the program stand too deep in each other. -/
  | tooDeep
  deriving DecidableEq, Repr

def Program.fault? (ss : List Stmt) : Option ProgramFault :=
  let depths := Grammar.nestingOfBlock ss
  if Grammar.Nesting.maxRules < depths.rules then some .tooManyRules
  else if Grammar.Nesting.maxParts < depths.parts then some .tooDeep
  else if Grammar.allFit {} ss then none
  else some .malformed

def Program.ofText (t : Text) : Except ProgramFault (List Stmt) :=
  if t.contains '\x00' then .error .nullCharacter
  else match (Outline.ofText? t).bind Grammar.statements with
    | none => .error .malformed
    | some ss =>
      match Program.fault? ss with
      | some f => .error f
      | none => .ok (Stmt.foldAll ss)

end TemplateEngine.Script
