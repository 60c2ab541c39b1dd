import TemplateEngine.Proofs.Store.Install

set_option autoImplicit false

/-!
# Loads that fail

A load fails for four reasons: there is no code, the code is no program, running it raises an exception,
or it gives no function. After the first three the modules in use are those from before, and code that
is kept then is what the next load runs. A module without a function stays registered: until its
reference is unloaded every load fails for it, whatever code is kept.
-/
namespace TemplateEngine

open TemplateEngine.Action

namespace Failure

end Failure

namespace Store

def artifact : Store → Text → Text
  | memory _, ref => ref
  | files _, ref => (Path.ofText ref).toText

variable {s : Store} {identity ref code : Text} {e : LoadError} {k : Nat} {w v u : Workspace}

end Store
end TemplateEngine
