import TemplateEngine.Text.Lines
import TemplateEngine.Text.Utf8
import TemplateEngine.Yaml.Fault

set_option autoImplicit false

/-!
# Sources of documents

A document is read from its file piece by piece, and only when what has been read is used up. So bytes
that spell nothing and characters that no document contains are at fault only if all in front of the
piece with them is in order.
-/
namespace TemplateEngine.Yaml

def isAllowed (c : Char) : Bool :=
  let n := c.toNat
  n = 9 || n = 10 || n = 13 || (0x20 ≤ n && n ≤ 0x7E) || n = 0x85 || (0xA0 ≤ n && n ≤ 0xFFFD)
    || 0x10000 ≤ n

/-- What can be read of a document, and the fault behind it if that is not all. -/
structure Source where
  text : Text
  fault? : Option Fault := none
  deriving DecidableEq, Repr

namespace Source

def chunkLength : Nat := 8192

def pieceLength : Nat := 4096

def leastPieces : Nat := 2

/-- A text that has a fault behind `n` characters: the whole pieces in front of it are read. -/
def cut (n : Nat) (f : Fault) (t : Text) : Source :=
  let pieces := n / pieceLength
  ⟨if pieces < leastPieces then [] else t.take (pieces * pieceLength), some f⟩

/-- What the chunks of bytes spell that are in front of the first one with a fault; `p` is the character
that the bytes go on. -/
def decoded : Nat → (p : Option Utf8.Pending) → Bytes → Text × Option Utf8.Fault
  | 0, _, _ => ([], none)
  | _, p, [] => ([], p.map fun _ => .truncated)
  | n + 1, p, bs =>
    match Utf8.decodeFrom p (bs.take chunkLength) with
    | .error f => ([], some f)
    | .ok (t, p) =>
      let (u, f?) := decoded n p (bs.drop chunkLength)
      (t ++ u, f?)

def allowed (s : Source) : Source :=
  let n := (s.text.takeWhile isAllowed).length
  if n = s.text.length then s else cut n .malformed s.text

/-- The source that bytes give. A line may end with a carriage return, a line feed or both. -/
def ofBytes (bs : Bytes) : Source :=
  let (t, f?) := decoded (bs.length / chunkLength + 2) none bs
  let t := Text.unifyLineEnds t
  allowed (match f? with
    | none => { text := t }
    | some f => cut t.length (.encoding f) t)

end Source
end TemplateEngine.Yaml
