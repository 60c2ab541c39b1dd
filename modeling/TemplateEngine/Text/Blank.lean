import TemplateEngine.Text.Basic

set_option autoImplicit false

namespace TemplateEngine.Text

/-- The characters with the Unicode property White_Space, and the four separators from U+001C. -/
def isBlank (c : Char) : Bool :=
  let n := c.toNat
  (9 ≤ n && n ≤ 13) || (28 ≤ n && n ≤ 32) || n == 0x85 || n == 0xA0 || n == 0x1680
    || (0x2000 ≤ n && n ≤ 0x200A) || n == 0x2028 || n == 0x2029 || n == 0x202F || n == 0x205F
    || n == 0x3000

def trimEnd (t : Text) : Text := trimEndBy isBlank t

def trimStart (t : Text) : Text := trimStartBy isBlank t

def trim (t : Text) : Text := trimEnd (trimStart t)

def allBlank (t : Text) : Bool := t.all isBlank

def words : Text → List Text
  | [] => []
  | c :: t =>
    if isBlank c then words t
    else match t, words t with
      | d :: _, w :: ws => if isBlank d then [c] :: w :: ws else (c :: w) :: ws
      | _, ws => [c] :: ws

end TemplateEngine.Text
