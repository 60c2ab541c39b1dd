import TemplateEngine.Script.Attribute
import TemplateEngine.Script.Builtin
import TemplateEngine.Script.Folding
import TemplateEngine.Script.Method
import TemplateEngine.Script.Scope
import TemplateEngine.Script.Sorting
import TemplateEngine.Script.Variables

set_option autoImplicit false

/-!
# Evaluation

Expressions are evaluated from left to right and statements run in order. The first number of each
function bounds how deep its calls go; when it is used up, the run ends without an answer.
-/
namespace TemplateEngine.Script

inductive Flow where
  | normal
  /-- The loop around the statement ends. -/
  | leave
  /-- The loop around the statement goes on with the next item. -/
  | next
  /-- The function around the statement returns a value. -/
  | give (v : Value)

def lambdaName : Text := "<lambda>".toList

def CompareOp.holds (op : CompareOp) (v w : Value) : Run Bool :=
  match op with
  | equal => Run.withHeap fun h => v.equal h w
  | notEqual => Run.withHeap fun h => do return !(← v.equal h w)
  | less => Run.withHeap fun h => v.ordered h .less w
  | lessEqual => Run.withHeap fun h => v.ordered h .lessEqual w
  | greater => Run.withHeap fun h => v.ordered h .greater w
  | greaterEqual => Run.withHeap fun h => v.ordered h .greaterEqual w
  | same => return v.same w
  | notSame => return !v.same w
  | member => v.memberOf w
  | notMember => do return !(← v.memberOf w)

def Value.toRaised : Value → Raised
  | .exceptionClass c => { cls := if c.needsArguments then .typeError else c }
  | .exception c arguments id => ⟨c, arguments, id⟩
  | _ => { cls := .typeError }

def Value.handledClasses : Value → Result (List ExceptionClass)
  | .exceptionClass c => return [c]
  | .tuple vs _ => vs.mapM fun v =>
    match v with
    | .exceptionClass c => return c
    | _ => Result.raise .typeError
  | _ => Result.raise .typeError

def Value.isCause : Value → Bool
  | .none | .exceptionClass _ | .exception _ _ _ => true
  | _ => false

def raiseAgain {α : Type} : Run α := fun s =>
  match s.handled with
  | some e => .raised e s
  | none => Run.raise .runtimeError [] s

def whileHandling {α : Type} (e : Raised) (x : Run α) : Run α := fun s =>
  match x { s with handled := some e } with
  | .done a t => .done a { t with handled := s.handled }
  | .raised r t => .raised r { t with handled := s.handled }
  | .exhausted => .exhausted

def addEntries (d : Dictionary) (more : List Item) : Run Dictionary :=
  Run.withHeap fun h => do
    more.forM fun e => Value.checkKey e.1
    d.insertAll h more

def Collection.gather (kind : Collection) (items : List Value) : Run Value := do
  match kind with
  | .list => Run.makeList items
  | .iterator => Run.makeIterator .generator (.items items)
  | .dict => do
    let pairs := items.filterMap fun
      | .tuple [k, v] _ => some (k, v)
      | _ => none
    Run.makeDict (← addEntries {} pairs)

def Collection.check (kind : Collection) (item : Value) : Result Unit :=
  match kind, item with
  | .dict, .tuple (k :: _) _ => Value.checkKey k
  | _, _ => return ()

/-- The items of a value for some targets, of which one may take all that the others leave; that one
is preceded by the number `before` of targets. -/
def Value.unpack (before : Option Nat) (targets : Nat) (v : Value) : Run (List Value) := do
  match before with
  | Option.none => do
    let vs ← v.firstItems (targets + 1)
    if vs.length = targets then return vs else Run.raise .valueError
  | some n => do
    let vs ← v.itemsOf
    if vs.length + 1 < targets then Run.raise .valueError
    else
      let middle := vs.length + 1 - targets
      let rest ← Run.makeList ((vs.drop n).take middle)
      return vs.take n ++ rest :: vs.drop (n + middle)

def zip (vs : List Value) : Run Value := do
  Run.makeIterator .zip (.zipped (← vs.mapM Value.iteratorOf))

def Bound.all (b : Bound) : Run (List (Text × Value)) := do
  let others ← b.others.toList.mapM fun e => do
    return (e.1, ← Run.settle (.ofItems e.2))
  let named ← b.namedOthers.toList.mapM fun e => do
    return (e.1, ← Run.makeDict (.ofEntries (e.2.map fun a => (.ofLiteral a.1, a.2))))
  return b.values ++ others ++ named

def holds (v : Value) : Run Bool := Run.look v.truthy

def spreadNamed (seen : List (Str × Value)) (v : Value) : Run (List (Str × Value)) := do
  match v with
  | .dict a => do
    let entries ← Run.look (·.entries a)
    entries.foldlM (fun ns e =>
      match e.1 with
      | .text n _ =>
        if (ns.lookup n).isSome then Run.raise .typeError else return ns ++ [(n, e.2)]
      | _ => Run.raise .typeError) seen
  | _ => Run.raise .typeError

def Raised.settle (e : Raised) : Run Raised := do
  return (← Run.settle (.exception e.cls e.arguments e.id)).toRaised

mutual

def eval : Nat → Frame → Expr → Run Value
  | 0, _, _ => Run.exhausted
  | n + 1, f, e =>
    match e with
    | .constant c => return c.value
    | .name x => f.read x
    | .list es => do Run.makeList (← evalItems n f es)
    | .tuple es => Run.settled do return .ofItems (← evalItems n f es)
    | .dict es => do Run.makeDict (← evalEntries n f es [] {})
    | .grouped e => eval n f e
    | .starred _ => Run.raise .typeError
    | .comprehension kind item clauses =>
      match clauses with
      | [] => kind.gather []
      | .mk target items conditions :: rest => do
        let source ← eval n f items
        let names := distinct (Clause.bound clauses)
        let c ← Run.withHeap source.cursor
        let g ← Frame.enter f.scope (names.map fun x => (x, none))
        let items ← Run.deeper (collect n g kind item target conditions rest c [])
        kind.gather items.reverse
    | .lambda parameters body => do
      makeFunction n f lambdaName parameters [.give (some body)]
    | .call e arguments => do
      let v ← eval n f e
      let a ← evalArguments n f arguments {}
      apply n v a
    | .attribute e x => Run.settled do
      let v ← eval n f e
      Run.withHeap fun h => v.getAttribute h x
    | .subscript e i => Run.settled do
      let v ← eval n f e
      v.getItem (← eval n f i)
    | .slice a b c => do
      let part (e : Option Expr) : Run Value :=
        match e with
        | none => return .none
        | some e => eval n f e
      return .slice (← part a) (← part b) (← part c) .fresh
    | .unary op e => Run.settled do
      let v ← eval n f e
      Run.withHeap fun h => v.unary h op
    | .binary op a b => Run.settled do
      let v ← eval n f a
      v.operate op (← eval n f b)
    | .compare a others => do compareAll n f (← eval n f a) others
    | .both a b => do
      let v ← eval n f a
      if ← holds v then eval n f b else return v
    | .either a b => do
      let v ← eval n f a
      if ← holds v then return v else eval n f b
    | .conditional test yes no => do
      if ← holds (← eval n f test) then eval n f yes else eval n f no

def evalItems : Nat → Frame → List Expr → Run (List Value)
  | 0, _, _ => Run.exhausted
  | _ + 1, _, [] => return []
  | n + 1, f, .starred e :: es => do
    let vs ← (← eval n f e).itemsOf
    return vs ++ (← evalItems n f es)
  | n + 1, f, e :: es => do
    let v ← eval n f e
    return v :: (← evalItems n f es)

/-- The entries of a dictionary: those of `done`, the pairs of `pending`, whose keys have not been
looked at yet, and more. -/
def evalEntries : Nat → Frame → List Entry → (pending : List Item) → (done : Dictionary) →
    Run Dictionary
  | 0, _, _, _, _ => Run.exhausted
  | _ + 1, _, [], pending, done => addEntries done pending
  | n + 1, f, .pair k e :: es, pending, done => do
    let k ← eval n f k
    let v ← eval n f e
    evalEntries n f es (pending ++ [(k, v)]) done
  | n + 1, f, .spread e :: es, pending, done => do
    let done ← addEntries done pending
    match ← eval n f e with
    | .dict a => do evalEntries n f es [] (← addEntries done (← Run.look (·.entries a)))
    | _ => Run.raise .typeError

def makeFunction : Nat → Frame → (name : Text) → List Parameter → List Stmt → Run Value
  | 0, _, _, _, _ => Run.exhausted
  | n + 1, f, name, parameters, body => do
    let slots ← parameters.mapM fun p =>
      match p.default? with
      | none => return ⟨p.name, p.kind, none⟩
      | some e => do return ⟨p.name, p.kind, some (← eval n f e)⟩
    let locals := distinct (parameters.map Parameter.name ++ Stmt.boundAll body)
    return .function (← Run.make (.function ⟨name, slots, body, locals, f.scope⟩))

def compareAll : Nat → Frame → Value → List (CompareOp × Expr) → Run Value
  | 0, _, _, _ => Run.exhausted
  | _ + 1, _, v, [] => return v
  | n + 1, f, v, (op, e) :: others => do
    let w ← eval n f e
    let b ← op.holds v w
    if others.isEmpty || !b then return .bool b else compareAll n f w others

def evalArguments : Nat → Frame → List Argument → Arguments → Run Arguments
  | 0, _, _, _ => Run.exhausted
  | _ + 1, _, [], a => return a
  | n + 1, f, .positional e :: as, a => do
    let v ← eval n f e
    evalArguments n f as { a with positional := a.positional ++ [v] }
  | n + 1, f, .spread e :: as, a => do
    let vs ← (← eval n f e).itemsOf
    evalArguments n f as { a with positional := a.positional ++ vs }
  | n + 1, f, .named x e :: as, a => do
    let v ← eval n f e
    if (a.named.lookup (x : Str)).isSome then Run.raise .typeError
    else evalArguments n f as { a with named := a.named ++ [((x : Str), v)] }
  | n + 1, f, .spreadNamed e :: as, a => do
    let v ← eval n f e
    evalArguments n f as { a with named := ← spreadNamed a.named v }

/-- Calls a value, if there is room for one call more. -/
def apply : Nat → Value → Arguments → Run Value
  | 0, _, _ => Run.exhausted
  | n + 1, v, a => Run.settled (Run.deeper (applyWithin n v a))

def applyWithin : Nat → Value → Arguments → Run Value
  | 0, _, _ => Run.exhausted
  | n + 1, v, a =>
    match v with
    | .type .map => do
      match ← Run.ofResult a.plain with
      | g :: v :: vs => do
        let rows ← (← zip (v :: vs)).itemsOf
        let items ← rows.mapM fun row => do apply n g { positional := ← row.itemsOf }
        Run.makeIterator .map (.items items)
      | _ => Run.raise .typeError
    | .type .filter => do
      match ← Run.ofResult a.plain with
      | [g, v] => do
        let items ← (← v.itemsOf).filterM fun w => do
          match g with
          | .none => holds w
          | g => do holds (← apply n g { positional := [w] })
        Run.makeIterator .filter (.items items)
      | _ => Run.raise .typeError
    | .type t => Value.ofType t a
    | .exceptionClass c => Value.ofExceptionClass c a
    | .builtin .sorted => do
      let (key, a) := a.splitNamed "key"
      let (reverse, a) := a.splitNamed "reverse"
      let items ← (← Run.ofResult a.one).itemsOf
      Run.makeList (← sort n key reverse items)
    | .builtin .min => best n .less a
    | .builtin .max => best n .greater a
    | .builtin b => b.call a
    | .method (.list l) .sort _ => do
      let (key, a) := a.splitNamed "key"
      let (reverse, a) := a.splitNamed "reverse"
      Run.ofResult a.nothing
      let sorted ← sort n key reverse (← Run.look (·.items l))
      Run.putItems l sorted
      return .none
    | .method self m _ => self.callMethod m a
    | .unbound t m =>
      match a.positional with
      | self :: vs =>
        if self.belongs t then applyWithin n (.method self m .fresh) { a with positional := vs }
        else Run.raise .typeError
      | [] => Run.raise .typeError
    | .function g => do
      match ← Run.look (·.closure? g) with
      | some c => call n c a
      | none => Run.raise .typeError
    | _ => Run.raise .typeError

/-- Values with the keys that a function makes of them, or which they are themselves. -/
def keyed : Nat → (key : Option Value) → List Value → Run (List (Value × Value))
  | 0, _, _ => Run.exhausted
  | n + 1, key, items =>
    match key with
    | none | some .none => return items.map fun v => (v, v)
    | some k => items.mapM fun v => do
      let x ← apply n k { positional := [v] }
      return (x, v)

def sort : Nat → (key reverse : Option Value) → List Value → Run (List Value)
  | 0, _, _, _ => Run.exhausted
  | n + 1, key, reverse, items => do
    let back ← Run.ofResult ((reverse.getD (.bool false)).needSmall)
    let entries ← keyed n key items
    Run.withHeap fun h => Sorting.values h (back ≠ 0) entries

/-- The least or greatest of the arguments or of the items of the only one, perhaps by what a function
makes of them. -/
def best : Nat → Value.Order → Arguments → Run Value
  | 0, _, _ => Run.exhausted
  | n + 1, op, a => do
    let (key, a) := a.splitNamed "key"
    let (default?, a) := a.splitNamed "default"
    let items ← match ← Run.ofResult a.plain, default? with
      | [], _ | _ :: _ :: _, some _ => Run.raise .typeError
      | [v], _ => v.itemsOf
      | vs, none => pure vs
    let entries ← keyed n key items
    match (← Run.withHeap fun h => Builtin.extreme h op entries).or default? with
    | some v => return v
    | none => Run.raise .valueError

def call : Nat → Closure → Arguments → Run Value
  | 0, _, _ => Run.exhausted
  | n + 1, c, a => do
    let given ← (← Run.ofResult (a.bind c.parameters)).all
    let bindings := given.map (fun e => (e.1, some e.2))
      ++ (c.locals.filter fun x => (given.lookup x).isNone).map fun x => (x, none)
    let f ← Frame.enter c.scope bindings
    match ← runAll n f c.body with
    | .give v => return v
    | _ => return .none

/-- The items that a clause of a comprehension and those behind it yield from a place on, the last
one first, and behind them those of `done`. -/
def collect : Nat → Frame → Collection → (item target : Expr) → (conditions : List Expr) →
    List Clause → Cursor → (done : List Value) → Run (List Value)
  | 0, _, _, _, _, _, _, _, _ => Run.exhausted
  | n + 1, f, kind, item, target, conditions, rest, c, done => do
    match ← c.next with
    | (none, _) => return done
    | (some v, c) => do
      assign n f target v
      let done ←
        if ← allHold n f conditions then collectRest n f kind item rest done else pure done
      collect n f kind item target conditions rest c done

def collectRest : Nat → Frame → Collection → (item : Expr) → List Clause → (done : List Value) →
    Run (List Value)
  | 0, _, _, _, _, _ => Run.exhausted
  | n + 1, f, kind, item, [], done => do
    let v ← eval n f item
    Run.ofResult (kind.check v)
    return v :: done
  | n + 1, f, kind, item, .mk target items conditions :: rest, done => do
    let source ← eval n f items
    collect n f kind item target conditions rest (← Run.withHeap source.cursor) done

def allHold : Nat → Frame → List Expr → Run Bool
  | 0, _, _ => Run.exhausted
  | _ + 1, _, [] => return true
  | n + 1, f, e :: es => do
    if ← holds (← eval n f e) then allHold n f es else return false

def assign : Nat → Frame → Expr → Value → Run Unit
  | 0, _, _, _ => Run.exhausted
  | n + 1, f, target, v =>
    match target with
    | .name x => f.write x v
    | .subscript e i => do
      let w ← eval n f e
      w.setItem (← eval n f i) v
    | .attribute e _ => do
      let w ← eval n f e
      Run.raise w.attributeFault
    | .list ts | .tuple ts => do
      let vs ← v.unpack (ts.findIdx? Expr.isStarred) ts.length
      assignAll n f ((ts.map Expr.unstarred).zip vs)
    | .grouped t => assign n f t v
    | _ => Run.raise .typeError

def assignAll : Nat → Frame → List (Expr × Value) → Run Unit
  | 0, _, _ => Run.exhausted
  | _ + 1, _, [] => return ()
  | n + 1, f, (t, v) :: rest => do
    assign n f t v
    assignAll n f rest

def update : Nat → Frame → Expr → BinaryOp → Expr → Run Unit
  | 0, _, _, _, _ => Run.exhausted
  | n + 1, f, target, op, e =>
    match target with
    | .name x => do
      let old ← f.read x
      let new ← eval n f e
      f.write x (← Run.settled (old.operateInPlace op new))
    | .subscript a i => do
      let v ← eval n f a
      let w ← eval n f i
      let old ← v.getItem w
      let new ← eval n f e
      v.setItem w (← Run.settled (old.operateInPlace op new))
    | .attribute a x => do
      let v ← eval n f a
      let old ← Run.withHeap fun h => v.getAttribute h x
      let _ ← old.operateInPlace op (← eval n f e)
      Run.raise v.attributeFault
    | .grouped t => update n f t op e
    | _ => Run.raise .typeError

def deleteAll : Nat → Frame → List Expr → Run Unit
  | 0, _, _ => Run.exhausted
  | _ + 1, _, [] => return ()
  | n + 1, f, target :: ts => do
    match target with
    | .name x => do
      let _ ← f.readOwn x
      f.forget x
    | .subscript e i => do
      let v ← eval n f e
      v.deleteItem (← eval n f i)
    | .attribute e _ => do
      let v ← eval n f e
      Run.raise v.attributeFault
    | .list inner | .tuple inner => deleteAll n f inner
    | .grouped t => deleteAll n f [t]
    | _ => Run.raise .typeError
    deleteAll n f ts

def run : Nat → Frame → Stmt → Run Flow
  | 0, _, _ => Run.exhausted
  | n + 1, f, s =>
    match s with
    | .expression e => do
      let _ ← eval n f e
      return .normal
    | .assign targets e => do
      let v ← eval n f e
      assignAll n f (targets.map fun t => (t, v))
      return .normal
    | .update target op e => do
      update n f target op e
      return .normal
    | .declare _ | .pass => return .normal
    | .give none => return .give .none
    | .give (some e) => do return .give (← eval n f e)
    | .raise e cause => do
      let r := (← eval n f e).toRaised
      let c ← match cause with
        | none => pure .none
        | some c => eval n f c
      if c.isCause then Run.ofResult (.error r) else Run.raise .typeError
    | .raiseAgain => raiseAgain
    | .assert test message => do
      if ← holds (← eval n f test) then return .normal
      else match message with
        | none => Run.raise .assertionError
        | some e => do Run.raise .assertionError [← eval n f e]
    | .delete targets => do
      deleteAll n f targets
      return .normal
    | .leave => return .leave
    | .next => return .next
    | .branch test yes no => do
      if ← holds (← eval n f test) then runAll n f yes else runAll n f no
    | .loop test body otherwise => runLoop n f test body otherwise
    | .each target items body otherwise => do
      let v ← eval n f items
      runEach n f (← Run.withHeap v.cursor) target body otherwise
    | .attempt body handlers otherwise finally_ => fun s =>
      let inner : Outcome Flow :=
        match runAll n f body s with
        | .done .normal s => runAll n f otherwise s
        | .raised e s => (do handle n f (← e.settle) handlers : Run Flow) s
        | r => r
      match inner with
      | .exhausted => .exhausted
      | .done flow s =>
        match runAll n f finally_ s with
        | .done .normal s => .done flow s
        | r => r
      | .raised e s =>
        match whileHandling e (runAll n f finally_) s with
        | .done .normal s => .raised e s
        | r => r
    | .define x parameters body => do
      f.write x (← makeFunction n f x parameters body)
      return .normal

def runAll : Nat → Frame → List Stmt → Run Flow
  | 0, _, _ => Run.exhausted
  | _ + 1, _, [] => return .normal
  | n + 1, f, s :: ss => do
    match ← run n f s with
    | .normal => runAll n f ss
    | flow => return flow

def runLoop : Nat → Frame → (test : Expr) → (body otherwise : List Stmt) → Run Flow
  | 0, _, _, _, _ => Run.exhausted
  | n + 1, f, test, body, otherwise => do
    if ← holds (← eval n f test) then
      match ← runAll n f body with
      | .normal | .next => runLoop n f test body otherwise
      | .leave => return .normal
      | .give v => return .give v
    else runAll n f otherwise

def runEach : Nat → Frame → Cursor → (target : Expr) → (body otherwise : List Stmt) → Run Flow
  | 0, _, _, _, _, _ => Run.exhausted
  | n + 1, f, c, target, body, otherwise => do
    match ← c.next with
    | (none, _) => runAll n f otherwise
    | (some v, c) => do
      assign n f target v
      match ← runAll n f body with
      | .normal | .next => runEach n f c target body otherwise
      | .leave => return .normal
      | .give v => return .give v

/-- Runs the first handler for an exception, which is raised again if there is none. -/
def handle : Nat → Frame → Raised → List Handler → Run Flow
  | 0, _, _, _ => Run.exhausted
  | _ + 1, _, e, [] => fun s => .raised e s
  | n + 1, f, e, .mk classes name body :: hs => do
    let taken ← match classes with
      | none => pure true
      | some c => do
        let cs ← Run.ofResult (← whileHandling e (eval n f c)).handledClasses
        pure (cs.any e.cls.isA)
    if taken then
      match name with
      | none => whileHandling e (runAll n f body)
      | some x => do
        f.write x (.exception e.cls e.arguments e.id)
        fun s =>
          match whileHandling e (runAll n f body) s with
          | .exhausted => .exhausted
          | .done flow s => (do f.forget x; return flow : Run Flow) s
          | .raised r s => (do f.forget x; fun s => .raised r s : Run Flow) s
    else handle n f e hs

end

end TemplateEngine.Script
