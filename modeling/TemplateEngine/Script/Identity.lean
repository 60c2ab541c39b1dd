import TemplateEngine.Text.Basic

set_option autoImplicit false

/-!
# Identities

A value that cannot change may still be told apart from others that are equal to it: each time that
one is made it is another one. Of some small values there is only one, however often it is made, and
equal values that are written in one program are one.
-/
namespace TemplateEngine.Script

/-- What tells a value apart from others that are equal to it. -/
inductive Identity where
  /-- Just made, or the only one of its kind. -/
  | fresh
  /-- Just made, and another one than the only one of its kind. -/
  | own
  /-- Written in the program. -/
  | literal
  /-- A key of data. -/
  | key
  /-- One of its own, known by a number. -/
  | number (n : Nat)
  deriving DecidableEq, Repr

namespace Identity

/-- Whether equal values with these identities are the same one. -/
def joins : Identity → Identity → Bool
  | number n, number m => n = m
  | literal, literal | key, key | fresh, fresh => true
  | _, _ => false

def isNumber : Identity → Bool
  | number _ => true
  | _ => false

/-- Whether a value needs no number; `shared` says whether there is only one of its kind. -/
def isSettled (shared : Bool) : Identity → Bool
  | fresh => shared
  | own => false
  | _ => true

/-- The characters that make other values as parts of a program than as parts of other texts. -/
def apartCharacters : List Char := "abcdefhijklmnopqrstvwxyBCLST_".toList

def ofLiteral : Str → Identity
  | [] => fresh
  | [.char c] => if c.toNat < 256 && !apartCharacters.contains c then fresh else literal
  | _ => literal

def ofKey : Str → Identity
  | [] => fresh
  | [.char c] => if c.toNat < 256 then fresh else key
  | _ => key

/-- The identity of a text that is another one than all before, unless it is empty. -/
def ofOwn (t : Str) : Identity := if t = [] then fresh else own

end Identity
end TemplateEngine.Script
