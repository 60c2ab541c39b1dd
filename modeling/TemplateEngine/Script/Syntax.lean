import TemplateEngine.Number.Complex
import TemplateEngine.Text.Basic

set_option autoImplicit false

/-!
# Syntax of the script language

Expressions and statements. What an assignment may stand before, a target, is an expression too; a
handler, an argument, a parameter, an entry of a dictionary and a clause of a comprehension are types
of their own.

This is a part of the language only, and a program is a text, so halves of surrogate pairs stand in it
as escapes. Whatever else the language has is taken for an error of syntax: imports, classes, `with`,
`global` and `nonlocal`, generators, decorators, `match`, `async`, sets in braces, assignments within
expressions, strings of bytes and strings with expressions in them.
-/
namespace TemplateEngine.Script

inductive UnaryOp where
  | negate
  | plus
  | invert
  | not
  deriving DecidableEq, Repr

inductive BinaryOp where
  | add
  | subtract
  | multiply
  | divide
  | floorDivide
  | modulo
  | power
  | bitAnd
  | bitOr
  | bitXor
  | shiftLeft
  | shiftRight
  deriving DecidableEq, Repr

inductive CompareOp where
  | equal
  | notEqual
  | less
  | lessEqual
  | greater
  | greaterEqual
  | same
  | notSame
  | member
  | notMember
  deriving DecidableEq, Repr

inductive Constant where
  | none
  | ellipsis
  | bool (b : Bool)
  | int (i : Int)
  | float (f : Binary64)
  | complex (c : Complex128)
  | text (t : Str)
  | tuple (items : List Constant)
  deriving Repr

inductive Collection where
  | list
  /-- A dictionary; the items are pairs. -/
  | dict
  | iterator
  deriving DecidableEq, Repr

inductive ParameterKind where
  /-- An argument without a name. -/
  | positional
  | plain
  /-- The arguments without a name that no other parameter takes. -/
  | others
  /-- An argument with a name. -/
  | named
  /-- The arguments with a name that no other parameter takes. -/
  | namedOthers
  deriving DecidableEq, Repr

mutual

inductive Expr where
  | constant (c : Constant)
  | name (n : Text)
  /-- An expression between brackets, which only take room. -/
  | grouped (e : Expr)
  | list (items : List Expr)
  | tuple (items : List Expr)
  | dict (entries : List Entry)
  /-- All items of a value, or a target for several values, among other items. -/
  | starred (e : Expr)
  | comprehension (kind : Collection) (item : Expr) (clauses : List Clause)
  | lambda (parameters : List Parameter) (body : Expr)
  | call (f : Expr) (arguments : List Argument)
  | attribute (e : Expr) (n : Text)
  | subscript (e index : Expr)
  /-- A slice stands only between the brackets of a subscript. -/
  | slice (start stop step : Option Expr)
  | unary (op : UnaryOp) (e : Expr)
  | binary (op : BinaryOp) (a b : Expr)
  | compare (first : Expr) (others : List (CompareOp × Expr))
  | both (a b : Expr)
  | either (a b : Expr)
  | conditional (test yes no : Expr)

inductive Entry where
  | pair (key value : Expr)
  /-- All entries of a dictionary. -/
  | spread (e : Expr)

inductive Parameter where
  | mk (name : Text) (kind : ParameterKind) (default? : Option Expr)

inductive Argument where
  | positional (e : Expr)
  | named (n : Text) (e : Expr)
  | spread (e : Expr)
  | spreadNamed (e : Expr)

inductive Clause where
  | mk (target items : Expr) (conditions : List Expr)

end

instance : Inhabited Expr := ⟨.constant .none⟩

namespace Expr

def isStarred : Expr → Bool
  | starred _ => true
  | _ => false

def isGrouped : Expr → Bool
  | grouped _ => true
  | _ => false

def ungrouped : Expr → Expr
  | grouped e => e.ungrouped
  | e => e

def unstarred : Expr → Expr
  | starred e => e
  | e => e

end Expr

namespace Parameter

def name : Parameter → Text
  | mk n _ _ => n

def kind : Parameter → ParameterKind
  | mk _ k _ => k

def default? : Parameter → Option Expr
  | mk _ _ d => d

end Parameter

mutual

inductive Stmt where
  | expression (e : Expr)
  | assign (targets : List Expr) (value : Expr)
  | update (target : Expr) (op : BinaryOp) (value : Expr)
  /-- A name with an annotation and no value, which only declares it. -/
  | declare (n : Text)
  | give (value : Option Expr)
  /-- Raises an exception, perhaps with the one that caused it. -/
  | raise (e : Expr) (cause : Option Expr)
  /-- Raises the exception again that is being handled. -/
  | raiseAgain
  | assert (test : Expr) (message : Option Expr)
  | delete (targets : List Expr)
  | pass
  | leave
  | next
  | branch (test : Expr) (yes no : List Stmt)
  | loop (test : Expr) (body otherwise : List Stmt)
  | each (target items : Expr) (body otherwise : List Stmt)
  | attempt (body : List Stmt) (handlers : List Handler) (otherwise finally_ : List Stmt)
  | define (name : Text) (parameters : List Parameter) (body : List Stmt)

/-- What to do about exceptions of some classes; without an expression, about all. -/
inductive Handler where
  | mk (classes : Option Expr) (name : Option Text) (body : List Stmt)

end

instance : Inhabited Stmt := ⟨.pass⟩

end TemplateEngine.Script
