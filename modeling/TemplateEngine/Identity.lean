import TemplateEngine.Path

set_option autoImplicit false

/-!
# Identities

The identity of a template is the text of its place with every character that can carry structure
written as something else. The underscore is one of them, so different places stay different.
-/
namespace TemplateEngine.Identity

def encodeChar (c : Char) : Text :=
  if c = '_' then "_5f".toList
  else if c = '-' then "_2d".toList
  else if c = ':' then "_3a".toList
  else if c = '\\' then "_5c".toList
  else if c = '/' then "__".toList
  else if c = '.' then "-".toList
  else [c]

def ofPlace (p : Place) : Text := p.toText.flatMap encodeChar

inductive LocationFault where
  | empty
  /-- The location contains the character with number zero. -/
  | nullCharacter
  deriving DecidableEq, Repr

def LocationFault.message : LocationFault → Text
  | empty => "template location must be non-empty".toList
  | nullCharacter => "embedded null byte".toList

def placeOf (here : Place) (p : Path) : Except LocationFault Place :=
  if p.names.any fun n => n.contains '\x00' then .error .nullCharacter else .ok (p.resolve here)

def ofLocation (here : Place) (location : Text) : Except LocationFault Text :=
  if location = [] then .error .empty else ofPlace <$> placeOf here (.ofText location)

end TemplateEngine.Identity
