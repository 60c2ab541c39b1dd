import TemplateEngine.Text.Quoted
import TemplateEngine.Text.Utf8

set_option autoImplicit false

/-!
# Digests

The SHA-1 digest of some bytes. The bytes are filled up to blocks of 64, and each block, which is made
80 words long, is stirred into five words in as many rounds.
-/
namespace TemplateEngine.Digest

structure State where
  a : UInt32
  b : UInt32
  c : UInt32
  d : UInt32
  e : UInt32

def start : State := ⟨0x67452301, 0xEFCDAB89, 0x98BADCFE, 0x10325476, 0xC3D2E1F0⟩

/-- A word whose bits are moved to the left, those that leave it coming in at the right. -/
def rotate (n x : UInt32) : UInt32 := x <<< n ||| x >>> (32 - n)

def bytesOf (count n : Nat) : Bytes :=
  (List.range count).reverse.map fun i => UInt8.ofNat (n >>> (8 * i))

/-- Bytes filled up to whole blocks: a bit, zeros, and the number of bits in front of them. -/
def padded (bs : Bytes) : Bytes :=
  bs ++ 0x80 :: List.replicate ((119 - bs.length % 64) % 64) 0 ++ bytesOf 8 (8 * bs.length)

def wordsOf : Bytes → List UInt32
  | a :: b :: c :: d :: bs =>
    (a.toUInt32 <<< 24 ||| b.toUInt32 <<< 16 ||| c.toUInt32 <<< 8 ||| d.toUInt32) :: wordsOf bs
  | _ => []

/-- The next words of a block, of which the last sixteen are known, the newest first. -/
def expand : Nat → List UInt32 → List UInt32
  | 0, _ => []
  | n + 1, ws =>
    let w := rotate 1 (ws.getD 2 0 ^^^ ws.getD 7 0 ^^^ ws.getD 13 0 ^^^ ws.getD 15 0)
    w :: expand n (w :: ws.take 15)

def round (s : State) (i : Nat) (w : UInt32) : State :=
  let (f, k) : UInt32 × UInt32 :=
    if i < 20 then ((s.b &&& s.c) ||| (~~~s.b &&& s.d), 0x5A827999)
    else if i < 40 then (s.b ^^^ s.c ^^^ s.d, 0x6ED9EBA1)
    else if i < 60 then ((s.b &&& s.c) ||| (s.b &&& s.d) ||| (s.c &&& s.d), 0x8F1BBCDC)
    else (s.b ^^^ s.c ^^^ s.d, 0xCA62C1D6)
  ⟨rotate 5 s.a + f + s.e + k + w, s.a, rotate 30 s.b, s.c, s.d⟩

def stir (s : State) (block : List UInt32) : State :=
  let ws := block ++ expand 64 block.reverse
  let t := ws.zipIdx.foldl (fun t w => round t w.2 w.1) s
  ⟨s.a + t.a, s.b + t.b, s.c + t.c, s.d + t.d, s.e + t.e⟩

def stirAll : Nat → State → List UInt32 → State
  | 0, s, _ => s
  | n + 1, s, ws => if ws.isEmpty then s else stirAll n (stir s (ws.take 16)) (ws.drop 16)

def hex (bs : Bytes) : Text :=
  let ws := wordsOf (padded bs)
  let s := stirAll ws.length start ws
  [s.a, s.b, s.c, s.d, s.e].flatMap fun w => Text.hexDigits 8 w.toNat

end TemplateEngine.Digest
