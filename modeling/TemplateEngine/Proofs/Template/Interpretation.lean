import TemplateEngine.Proofs.Template.Element

set_option autoImplicit false

/-!
# Interpreting templates

What a template of expressions, conditions and loops gives is worked out from left to right, without the
code that it is compiled to: literals give their texts, expressions those of their values, and what
stands in conditions and loops is gone through as they say. All variables belong to one scope.

The interpretation takes its steps where the generated function takes them, and leaves the numbers and
the places on the heap unused that the function needs for what it calls. Nothing else of the function is
in it.
-/
namespace TemplateEngine

open Script

def Script.Outcome.stateFrom {α : Type} (s : State) : Outcome α → State
  | .done _ t | .raised _ t => t
  | .exhausted => s

namespace Element

/-- Leaves out a number for values that are told apart. -/
def reserve : Run Unit := fun s => .done () s.spend

/-- The text of a value, escaped or not. Of the call that makes it in the generated function, only what
it uses up is taken. -/
def showing (n : Nat) (escaped : Bool) (v : Value) : Run Str := fun s =>
  let t := (apply n (Generated.callee escaped) { positional := [v] } s).stateFrom s
  match Generated.calledText escaped s v with
  | .ok x => .done x t
  | .error e => .raised e t

mutual

/-- The text that an element gives. The first number bounds the steps. -/
def interpret : Nat → Frame → Element → Run Str
  | 0, _, _ => Run.exhausted
  | _ + 1, _, .literal t => do
    reserve
    return t.toStr
  | n + 1, f, .output escaped e => do
    reserve
    let v ← eval (n + 26) f e.value
    showing (n + 27) escaped v
  | n + 1, f, .choice test body others => do
    if ← holds (← eval (n + 30) f test.value) then interpretAll n f body
    else
      match others with
      | .none => return []
      | .otherwise body => interpretAll n f body
      | .elif test body others => interpretAll n f [.choice test body others]
  | n + 1, f, .each x items body => do
    let v ← eval (n + 30) f items.value
    interpretEach n f (← Run.withHeap v.cursor) x body

def interpretAll : Nat → Frame → List Element → Run Str
  | 0, _, _ => Run.exhausted
  | _ + 1, _, [] => return []
  | n + 1, f, e :: es => do
    let t ← interpret n f e
    let u ← interpretAll n f es
    return t ++ u

def interpretEach : Nat → Frame → Cursor → LoopVariable → List Element → Run Str
  | 0, _, _, _, _ => Run.exhausted
  | n + 1, f, c, x, body => do
    match ← c.next with
    | (none, _) => return []
    | (some v, c) => do
      f.write x.name v
      let t ← interpretAll n f body
      let u ← interpretEach n f c x body
      return t ++ u

end

def startBindings (names : List Text) (v : Value) : List (Text × Option Value) :=
  names.map (fun x => (x, none)) ++ [("arg".toList, some v)]

def bindings (es : List Element) (v : Value) : List (Text × Option Value) :=
  (allBound es).map (fun x => (x, none)) ++ [("arg".toList, some v)]

def render (es : List Element) (context : Data) : Run Str := do
  let vs ← Value.ofAllData [context]
  Run.deeper do
    let f ← Frame.enter none (bindings es (vs.headD .none))
    let _ ← Run.make (.list #[])
    interpretAll (maxSteps - 34) f es

def renderBehind (ss : List Stmt) (es : List Element) (context : Data) : Run Str := do
  let vs ← Value.ofAllData [context]
  Run.deeper do
    let f ← Frame.enter none (startBindings (Stmt.boundAll ss ++ allBound es) (vs.headD .none))
    let _ ← Run.make (.list #[])
    let _ ← runAll (maxSteps - 4) f ss
    interpretAll (maxSteps - 34 - ss.length) f es

end Element
end TemplateEngine
