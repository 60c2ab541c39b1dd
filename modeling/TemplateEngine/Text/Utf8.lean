import TemplateEngine.Text.Basic

set_option autoImplicit false

/-!
# UTF-8

Bytes are decoded one at a time. Between two bytes the decoder knows how many more bytes the
character needs and which the next one may be, so that no character has two spellings and the first
fault is told by its kind.
-/
namespace TemplateEngine

abbrev Bytes := List UInt8

namespace Utf8

inductive Fault where
  | start
  | continuation
  | truncated
  deriving DecidableEq, Repr

def Fault.reason : Fault → Text
  | start => "invalid start byte".toList
  | continuation => "invalid continuation byte".toList
  | truncated => "unexpected end of data".toList

/-- A character of which at least one byte is missing: its bits so far, how many more bytes follow
the next one, and the bounds of the next one. -/
structure Pending where
  bits : Nat
  more : Nat
  low : Nat
  high : Nat
  deriving DecidableEq, Repr

def lead? (b : Nat) : Option Pending :=
  if 0xC2 ≤ b && b ≤ 0xDF then some ⟨b - 0xC0, 0, 0x80, 0xBF⟩
  else if b = 0xE0 then some ⟨0, 1, 0xA0, 0xBF⟩
  else if b = 0xED then some ⟨0xD, 1, 0x80, 0x9F⟩
  else if 0xE1 ≤ b && b ≤ 0xEF then some ⟨b - 0xE0, 1, 0x80, 0xBF⟩
  else if b = 0xF0 then some ⟨0, 2, 0x90, 0xBF⟩
  else if 0xF1 ≤ b && b ≤ 0xF3 then some ⟨b - 0xF0, 2, 0x80, 0xBF⟩
  else if b = 0xF4 then some ⟨4, 2, 0x80, 0x8F⟩
  else none

/-- Decodes bytes, the first of which may go on a character. The last ones may start one, which is not
complete then. -/
def decodeFrom : Option Pending → Bytes → Except Fault (Text × Option Pending)
  | p, [] => .ok ([], p)
  | none, b :: bs =>
    if b.toNat < 0x80 then prepend (Char.ofNat b.toNat) (decodeFrom none bs)
    else match lead? b.toNat with
      | none => .error .start
      | some p => decodeFrom (some p) bs
  | some p, b :: bs =>
    if p.low ≤ b.toNat && b.toNat ≤ p.high then
      let bits := p.bits * 64 + (b.toNat - 0x80)
      match p.more with
      | 0 => prepend (Char.ofNat bits) (decodeFrom none bs)
      | n + 1 => decodeFrom (some ⟨bits, n, 0x80, 0xBF⟩) bs
    else .error .continuation
where
  prepend (c : Char) : Except Fault (Text × Option Pending) → Except Fault (Text × Option Pending)
    | .ok (t, p) => .ok (c :: t, p)
    | .error f => .error f

def decode (bs : Bytes) : Except Fault Text :=
  match decodeFrom none bs with
  | .ok (t, none) => .ok t
  | .ok (_, some _) => .error .truncated
  | .error f => .error f

def encode (t : Text) : Bytes := t.flatMap String.utf8EncodeChar

end Utf8

namespace Text

def byteOrderMark : Char := '\ufeff'

def dropByteOrderMark : Text → Text
  | [] => []
  | c :: t => if c = byteOrderMark then t else c :: t

end Text
end TemplateEngine
