import TemplateEngine.Calendar
import TemplateEngine.Number.Complex
import TemplateEngine.Script.ExceptionClass
import TemplateEngine.Script.Identity
import TemplateEngine.Script.TypeName

set_option autoImplicit false

/-!
# Values

What expressions stand for. Lists, dictionaries, functions and iterators can change, so a value names
them by an address and the heap says what is there. Other values are what they are; an identity tells
them apart from equal ones.
-/
namespace TemplateEngine.Script

abbrev Address := Nat

inductive Builtin where
  | len
  | sorted
  | sum
  | isinstance
  | repr
  | min
  | max
  | abs
  | any
  | all
  | ord
  | chr
  | print
  | makeCharTable
  deriving DecidableEq, Repr

inductive Method where
  | append
  | extend
  | insert
  | pop
  | remove
  | reverse
  | sort
  | clear
  | copy
  | index
  | count
  | get
  | keys
  | values
  | items
  | setDefault
  | update
  | upper
  | lower
  | strip
  | stripStart
  | stripEnd
  | split
  | splitEnd
  | splitLines
  | partition
  | partitionEnd
  | replace
  | join
  | startsWith
  | endsWith
  | removeStart
  | removeEnd
  | find
  | findLast
  | indexLast
  | padStart
  | padEnd
  | padBoth
  | padZeros
  | isDigit
  | isSpace
  | isAlphanumeric
  | isIdentifier
  | replaceCharacters
  | intersection
  | bitLength
  | isWhole
  | standardText
  deriving DecidableEq, Repr

inductive ViewKind where
  | keys
  | values
  | items
  deriving DecidableEq, Repr

inductive Value where
  | none
  | ellipsis
  | bool (b : Bool)
  | int (i : Int) (id : Identity)
  | float (f : Binary64) (id : Identity)
  | complex (c : Complex128) (id : Identity)
  | text (t : Str) (id : Identity)
  | date (d : Date) (id : Identity)
  | moment (m : Moment) (id : Identity)
  | tuple (items : List Value) (id : Identity)
  | frozenset (items : List Value) (id : Identity)
  | range (start stop step : Int) (id : Identity)
  | slice (start stop step : Value) (id : Identity)
  | list (a : Address)
  | dict (a : Address)
  | view (kind : ViewKind) (a : Address) (id : Identity)
  | iterator (t : TypeName) (a : Address)
  | function (a : Address)
  | builtin (b : Builtin)
  | method (self : Value) (m : Method) (id : Identity)
  /-- A method of a type that belongs to no value yet. -/
  | unbound (t : TypeName) (m : Method)
  | type (t : TypeName)
  | exceptionClass (c : ExceptionClass)
  | exception (c : ExceptionClass) (arguments : List Value) (id : Identity)
  deriving Repr

instance : Inhabited Value := ⟨.none⟩

namespace Builtin

def table : List (String × Builtin) :=
  [("len", len), ("sorted", sorted), ("sum", sum), ("isinstance", isinstance), ("repr", repr),
    ("min", min), ("max", max), ("abs", abs), ("any", any), ("all", all), ("ord", ord),
    ("chr", chr), ("print", print)]

def name (b : Builtin) : Text :=
  match table.find? fun e => e.2 = b with
  | some e => e.1.toList
  | none => "maketrans".toList

end Builtin

namespace ViewKind

def type : ViewKind → TypeName
  | keys => .keyView
  | values => .valueView
  | items => .itemView

def ofEntry (k : ViewKind) (e : Value × Value) : Value :=
  match k with
  | keys => e.1
  | values => e.2
  | items => .tuple [e.1, e.2] .own

end ViewKind

namespace Value

def ofInt (i : Int) : Value := int i .fresh

def ofNat (n : Nat) : Value := int n .fresh

def ofFloat (f : Binary64) : Value := float f .fresh

def ofText (t : Str) : Value := text t .fresh

def ofChar (c : CodePoint) : Value := text [c] .fresh

/-- A text that is another one than all before, unless it is empty. -/
def ofNewText (t : Str) : Value := text t (.ofOwn t)

def ofLiteral (t : Str) : Value := text t (.ofLiteral t)

def ofItems (items : List Value) : Value := tuple items .fresh

def typeOf : Value → Value
  | none => type .noneType
  | ellipsis => type .ellipsis
  | bool _ => type .bool
  | int _ _ => type .int
  | float _ _ => type .float
  | complex _ _ => type .complex
  | text _ _ => type .str
  | date _ _ => type .date
  | moment _ _ => type .moment
  | tuple _ _ => type .tuple
  | frozenset _ _ => type .frozenset
  | range _ _ _ _ => type .range
  | slice _ _ _ _ => type .slice
  | list _ => type .list
  | dict _ => type .dict
  | view k _ _ => type k.type
  | iterator t _ => type t
  | function _ => type .function
  | builtin _ | method _ _ _ => type .builtin
  | unbound _ _ => type .method
  | type _ | exceptionClass _ => type .type
  | exception c _ _ => exceptionClass c

def nameOfType : Value → Text
  | type t => t.name
  | exceptionClass c => c.name
  | _ => []

def typeName (v : Value) : Text := v.typeOf.nameOfType

/-- The constants by their names. As words of the grammar they are no names, but a name may have such
a normal form. -/
def constants : List (String × Value) :=
  [("None", none), ("True", bool true), ("False", bool false), ("Ellipsis", ellipsis)]

def builtin? (n : Text) : Option Value :=
  match TypeName.known.find? fun e => e.1.toList = n with
  | some e => some (type e.2)
  | Option.none =>
    match Builtin.table.find? fun e => e.1.toList = n with
    | some e => some (builtin e.2)
    | Option.none =>
      match ExceptionClass.ofName? n with
      | some c => some (exceptionClass c)
      | Option.none => (constants.find? fun e => e.1.toList = n).map Prod.snd

def fileNames (c : ExceptionClass) (arguments : List Value) : Option (List Value) :=
  if c.isA .osError then
    match arguments with
    | [_, _] | [_, _, none] | [_, _, none, _] | [_, _, none, _, _] => some []
    | [_, _, f] | [_, _, f, _] | [_, _, f, _, none] => some [f]
    | [_, _, f, _, g] => some [f, g]
    | _ => Option.none
  else Option.none

/-- The arguments that an exception shows. Names of files are not among them. -/
def shownArguments (c : ExceptionClass) (arguments : List Value) : List Value :=
  match fileNames c arguments with
  | some (_ :: _) => arguments.take 2
  | _ => arguments

def callable : Value → Bool
  | function _ | builtin _ | method _ _ _ | unbound _ _ | type _ | exceptionClass _ => true
  | _ => false

end Value
end TemplateEngine.Script
