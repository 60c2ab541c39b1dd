import TemplateEngine.Proofs.Generated.Syntax
import TemplateEngine.Proofs.Script.Running
import TemplateEngine.Script.Module

set_option autoImplicit false

/-!
# Loading a generated module

Running a generated module always succeeds: it defines the two functions and the two tables, and
nothing of the template is run.
-/
namespace TemplateEngine

open Script

namespace Generated

def renderClosure (param : Text) (body : List Stmt) : Closure where
  name := renderName
  parameters := [⟨param, .plain, some .none⟩]
  body := bufferStatement :: (body ++ [returnStatement])
  locals := distinct ([param] ++ Stmt.boundAll (bufferStatement :: (body ++ [returnStatement])))
  scope := none

def escapeClosure : Closure where
  name := escapeName
  parameters := [⟨"value".toList, .plain, none⟩]
  body := escapeBody
  locals := ["value".toList]
  scope := none

def specialName : Text := "_SPECIAL_CHARS".toList

def entityName : Text := "_HTML_ENTITIES".toList

def specialValue : Value := .frozenset ("&\"<>".toList.map Value.ofChar) (.number 0)

def entities : List (Char × String) :=
  [('&', "&amp;"), ('"', "&quot;"), ('<', "&lt;"), ('>', "&gt;")]

def literalTable : Dictionary :=
  .ofEntries (entities.map fun e => (.ofLiteral [.char e.1], .ofLiteral e.2.toList))

def entityTable : Dictionary :=
  .ofEntries (entities.map fun e => (.ofNat e.1.toNat, .ofLiteral e.2.toList))

def loaded (globals : Table Text Value) (param : Text) (body : List Stmt) : State where
  heap := ⟨#[.function (renderClosure param body), .function escapeClosure, .dict literalTable,
    .dict entityTable], 1, 0⟩
  globals := (((globals.insert renderName (.function 0)).insert escapeName (.function 1)).insert
    specialName specialValue).insert entityName (.dict 3)

section

variable (n : Nat) (a b : Object) (g : Table Text Value)

theorem run_renderStatement (param : Text) (body : List Stmt) :
    run (n + 5) {} (renderStatement param body) { globals := g } =
      .done .normal { heap := ⟨#[.function (renderClosure param body)], 0, 0⟩,
                      globals := g.insert renderName (.function 0) } := rfl

theorem run_escapeStatement : run (n + 5) {} escapeStatement ⟨⟨#[a], 0, 0⟩, g, none, []⟩ =
    .done .normal ⟨⟨#[a, .function escapeClosure], 0, 0⟩, g.insert escapeName (.function 1), none,
      []⟩ := rfl

theorem run_specialStatement (h : g.find? "frozenset".toList = none) :
    run (n + 8) {} specialStatement ⟨⟨#[a, b], 0, 0⟩, g, none, []⟩ =
      .done .normal ⟨⟨#[a, b], 1, 0⟩, g.insert specialName specialValue, none, []⟩ := by
  have hname : eval (n + 6) {} (variableOf "frozenset") ⟨⟨#[a, b], 0, 0⟩, g, none, []⟩ =
      .done (.type .frozenset) ⟨⟨#[a, b], 0, 0⟩, g, none, []⟩ := by
    rw [variableOf, eval]
    exact Frame.read_builtin rfl h rfl
  have hcall : eval (n + 7) {} (callOf (variableOf "frozenset") (literalOf "&\"<>"))
      ⟨⟨#[a, b], 0, 0⟩, g, none, []⟩ = .done specialValue ⟨⟨#[a, b], 1, 0⟩, g, none, []⟩ := by
    rw [callOf, eval_call hname]
    rfl
  rw [specialStatement, run_assign hcall]
  rfl

theorem run_entityStatement (h : g.find? "str".toList = none) :
    run (n + 12) {} entityStatement ⟨⟨#[a, b], 1, 0⟩, g, none, []⟩ =
      .done .normal ⟨⟨#[a, b, .dict literalTable, .dict entityTable], 1, 0⟩,
        g.insert entityName (.dict 3), none, []⟩ := by
  have hname : eval (n + 9) {} (variableOf "str") ⟨⟨#[a, b], 1, 0⟩, g, none, []⟩ =
      .done (.type .str) ⟨⟨#[a, b], 1, 0⟩, g, none, []⟩ := by
    rw [variableOf, eval]
    exact Frame.read_builtin rfl h rfl
  have hattribute : eval (n + 10) {} (.attribute (variableOf "str") "maketrans".toList)
      ⟨⟨#[a, b], 1, 0⟩, g, none, []⟩ =
      .done (.builtin .makeCharTable) ⟨⟨#[a, b], 1, 0⟩, g, none, []⟩ := by
    rw [eval, Run.settled_bind_done hname]
    rfl
  have hcall : eval (n + 11) {} (callOf (.attribute (variableOf "str") "maketrans".toList)
      (.dict [.pair (literalOf "&") (literalOf "&amp;"), .pair (literalOf "\"") (literalOf "&quot;"),
        .pair (literalOf "<") (literalOf "&lt;"), .pair (literalOf ">") (literalOf "&gt;")]))
      ⟨⟨#[a, b], 1, 0⟩, g, none, []⟩ =
      .done (.dict 3) ⟨⟨#[a, b, .dict literalTable, .dict entityTable], 1, 0⟩, g, none, []⟩ := by
    rw [callOf, eval_call hattribute]
    rfl
  rw [entityStatement, run_assign hcall]
  rfl

end

/-- A module's statements always run to their end, whatever the body of the template is. -/
theorem runAll_program (n : Nat) {globals : Table Text Value} (param : Text) (body : List Stmt)
    (hf : globals.find? "frozenset".toList = none) (hs : globals.find? "str".toList = none) :
    runAll (n + 16) {} (program param body) { globals := globals } =
      .done .normal (loaded globals param body) := by
  have hfind : ∀ (g : Table Text Value) (x y : Text) (v : Value), x ≠ y → g.find? y = none →
      (g.insert x v).find? y = none := by
    intro g x y v hne hg
    rw [Table.find?_insert, if_neg hne, hg]
  rw [program, runAll_cons (run_renderStatement (n + 10) globals param body),
    runAll_cons (run_escapeStatement (n + 9) _ _),
    runAll_cons (run_specialStatement (n + 5) _ _ _ ?_),
    runAll_cons (run_entityStatement n _ _ _ ?_)]
  · rfl
  · refine hfind _ _ _ _ (by decide) (hfind _ _ _ _ (by decide) (hfind _ _ _ _ (by decide) hs))
  · refine hfind _ _ _ _ (by decide) (hfind _ _ _ _ (by decide) hf)

theorem maxSteps_eq (n : Nat) (h : n ≤ 1000000) : maxSteps = maxSteps - n + n := by
  have : maxSteps = 10 ^ 15 := by decide +kernel
  omega

/-- A text that is the program of a module gives the module. -/
theorem load_of_ofText {globals : Table Text Value} {t param : Text} {body : List Stmt}
    (h : Program.ofText t = .ok (program param body))
    (hf : globals.find? "frozenset".toList = none) (hs : globals.find? "str".toList = none) :
    Module.load globals t = .ok ⟨loaded globals param body⟩ := by
  rw [Module.load, maxSteps_eq 16 (by omega), Module.loadWithin, h]
  simp only [runAll_program _ param body hf hs]

theorem function?_loaded (globals : Table Text Value) (param : Text) (body : List Stmt) :
    (Script.Module.mk (loaded globals param body)).function? renderName = some (.function 0) := by
  have h : (loaded globals param body).globals.find? renderName = some (.function 0) := by
    simp only [loaded, Table.find?_insert]
    rw [if_neg (by decide), if_neg (by decide), if_neg (by decide), if_true]
  simp only [Module.function?, h]
  rfl

end Generated
end TemplateEngine
