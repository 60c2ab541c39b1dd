import TemplateEngine.Yaml.Fault
import TemplateEngine.Yaml.Reading

set_option autoImplicit false

/-!
# Scalars

How the text of a scalar is read: between quotes, plain, or as an indented block of lines. A line
break between two lines that are joined becomes a space, and blank lines stay line breaks.
-/
namespace TemplateEngine.Yaml

def escape? (c : Char) : Option Char :=
  match c with
  | '0' => some '\x00'
  | 'a' => some '\x07'
  | 'b' => some '\x08'
  | 't' => some '\t'
  | '\t' => some '\t'
  | 'n' => some '\n'
  | 'v' => some '\x0b'
  | 'f' => some '\x0c'
  | 'r' => some '\r'
  | 'e' => some '\x1b'
  | ' ' => some ' '
  | '"' => some '"'
  | '\\' => some '\\'
  | '/' => some '/'
  | 'N' => some '\u0085'
  | '_' => some '\u00a0'
  | 'L' => some '\u2028'
  | 'P' => some '\u2029'
  | _ => none

def escapeWidth? (c : Char) : Option Nat :=
  if c = 'x' then some 2 else if c = 'u' then some 4 else if c = 'U' then some 8 else none

def hexDigit? (c : Char) : Option Nat :=
  if '0' ≤ c && c ≤ '9' then some (c.toNat - '0'.toNat)
  else if 'a' ≤ c && c ≤ 'f' then some (c.toNat - 'a'.toNat + 10)
  else if 'A' ≤ c && c ≤ 'F' then some (c.toNat - 'A'.toNat + 10)
  else none

def hexNumber? (t : Text) : Option Nat :=
  t.foldlM (fun n c => (hexDigit? c).map (16 * n + ·)) 0

def numbered (width : Nat) (r : Reading) : Except Fault (CodePoint × Reading) := do
  let digits := r.rest.take width
  let n ← Fault.ofOption (hexNumber? digits)
  if digits.length < width then .error r.ending
  else
    match CodePoint.ofNat? n with
    | some c => .ok (c, r.skip width)
    | none => .error (.character n)

def quotedBreaks? : Nat → Reading → Option (Text × Reading)
  | 0, _ => none
  | n + 1, r =>
    if atDocumentMark r.rest then none
    else
      let r := r.skipWhile isGap
      if r.char?.any isBreak then do
        let (b, r) := r.lineBreak
        let (bs, r) ← quotedBreaks? n r
        some (b ++ bs, r)
      else some ([], r)

def quotedEscape (r : Reading) : Except Fault (Str × Reading) :=
  let r := r.next
  match r.rest with
  | [] => .error r.ending
  | c :: _ =>
    match escape? c, escapeWidth? c with
    | some d, _ => .ok ([.char d], r.next)
    | none, some width => do
      let (d, r) ← numbered width r.next
      .ok ([d], r)
    | none, none =>
      if isBreak c then do
        let (t, r) ← Fault.ofOption (quotedBreaks? (r.size + 1) r.lineBreak.2)
        .ok (t, r)
      else .error .malformed

def quotedBlanks? (r : Reading) : Option (Text × Reading) := do
  let (blanks, r) := r.span isGap
  if r.char?.any isBreak then
    let (b, r) := r.lineBreak
    let (bs, r) ← quotedBreaks? (r.size + 1) r
    if b ≠ ['\n'] then some (b ++ bs, r)
    else if bs = [] then some ([' '], r)
    else some (bs, r)
  else some (blanks, r)

def quoted (double : Bool) : Nat → Reading → Except Fault (Str × Reading)
  | 0, _ => .error .malformed
  | n + 1, r =>
    match r.rest with
    | [] => .error r.ending
    | c :: t => do
      if !double && c = '\'' && t.head? = some '\'' then
        let (s, r) ← quoted double n (r.skip 2)
        .ok (.char '\'' :: s, r)
      else if c = (if double then '"' else '\'') then .ok ([], r.next)
      else
        let (s, r) ←
          if double && c = '\\' then quotedEscape r
          else if isGap c || isBreak c then do
            let (t, r) ← Fault.ofOption (quotedBlanks? r)
            .ok (t, r)
          else .ok ([.char c], r.next)
        let (s', r) ← quoted double n r
        .ok (s ++ s', r)

def isFlowMark (c : Char) : Bool :=
  c = ',' || c = '[' || c = ']' || c = '\x7b' || c = '\x7d'

/-- Whether a plain scalar ends before the characters of `t`, of which there is at least one. -/
def endsPlain (inFlow : Bool) (t : Text) : Bool :=
  match t with
  | [] => true
  | c :: u =>
    isGap c || isBreak c
      || (c = ':' && (atGap u || (inFlow && u.head?.any isFlowMark)))
      || (inFlow && (isFlowMark c || c = '?'))

def plainLength (inFlow : Bool) : Text → Nat
  | [] => 0
  | c :: t => if endsPlain inFlow (c :: t) then 0 else plainLength inFlow t + 1

/-- Reads the line breaks within a plain scalar and the spaces around them. There is no result if a
mark between documents comes. -/
def plainBreaks : Nat → Reading → Option Text × Reading
  | 0, r => (none, r)
  | n + 1, r =>
    if atDocumentMark r.rest && r.column = 0 then (none, r)
    else
      let r := r.skipSpaces
      if r.char?.any isBreak then
        let (b, r) := r.lineBreak
        let (bs, r) := plainBreaks n r
        (bs.map (b ++ ·), r)
      else (some [], r)

structure PlainGap where
  /-- What is read for it; nothing if the scalar ends here. -/
  text : Text
  /-- Whether a line ended. -/
  broken : Bool
  reading : Reading

def plainGap (r : Reading) : PlainGap :=
  let (spaces, r) := r.span (· = ' ')
  if r.char?.any isBreak then
    let (b, r) := r.lineBreak
    match plainBreaks (r.size + 1) r with
    | (none, r) => ⟨[], true, r⟩
    | (some bs, r) =>
      let text := if b ≠ ['\n'] then b ++ bs else if bs = [] then [' '] else bs
      ⟨text, true, r⟩
  else ⟨spaces, false, r⟩

structure Plain where
  text : Text
  /-- Whether a line ended behind the last part. -/
  broken : Bool
  reading : Reading

/-- Reads a plain scalar. Lines that go it on have at least the column `indent`, unless the scalar
stands between brackets. -/
def plain (inFlow : Bool) (indent : Nat) : Nat → Reading → Plain
  | 0, r => ⟨[], false, r⟩
  | n + 1, r =>
    let length := if r.isAt '#' then 0 else plainLength inFlow r.rest
    if length = 0 then ⟨[], false, r⟩
    else
      let part := r.rest.take length
      let gap := plainGap (r.skip length)
      if gap.text = [] || gap.reading.isAt '#' || (!inFlow && gap.reading.column < indent) then
        ⟨part, gap.broken, gap.reading⟩
      else
        let p := plain inFlow indent n gap.reading
        if p.text = [] then ⟨part, gap.broken, p.reading⟩
        else ⟨part ++ gap.text ++ p.text, p.broken, p.reading⟩

inductive Chomping where
  | strip
  | clip
  | keep
  deriving DecidableEq, Repr

structure BlockHeader where
  chomping : Chomping := .clip
  /-- How far the block is indented, if it is said. -/
  increment : Option Nat := none

def chomping? (c : Char) : Option Chomping :=
  if c = '+' then some .keep else if c = '-' then some .strip else none

def increment? (c : Char) : Option Nat :=
  if '1' ≤ c && c ≤ '9' then some (c.toNat - '0'.toNat) else none

/-- Reads the header of a block scalar: a chomping and an increment in any order. -/
def blockHeader (r : Reading) : BlockHeader × Reading :=
  match r.char?.bind chomping?, r.char?.bind increment? with
  | some c, _ =>
    match r.next.char?.bind increment? with
    | some i => (⟨c, some i⟩, r.skip 2)
    | none => (⟨c, none⟩, r.next)
  | none, some i =>
    match r.next.char?.bind chomping? with
    | some c => (⟨c, some i⟩, r.skip 2)
    | none => (⟨.clip, some i⟩, r.next)
  | none, none => ({}, r)

def leadingBreaks : Nat → Nat → Reading → Text × Nat × Reading
  | 0, column, r => ([], column, r)
  | n + 1, column, r =>
    match r.char? with
    | none => ([], column, r)
    | some c =>
      if c = ' ' then leadingBreaks n (max column r.next.column) r.next
      else if isBreak c then
        let (b, r) := r.lineBreak
        let (bs, column, r) := leadingBreaks n column r
        (b ++ bs, column, r)
      else ([], column, r)

def blockBreaks (indent : Nat) : Nat → Reading → Text × Reading
  | 0, r => ([], r)
  | n + 1, r =>
    let r := r.skipSpacesTo indent
    if r.char?.any isBreak then
      let (b, r) := r.lineBreak
      let (bs, r) := blockBreaks indent n r
      (b ++ bs, r)
    else ([], r)

/-- The lines of a block: their text, the last line break, the blank lines behind it, and what
follows. -/
structure Block where
  text : Text
  lastBreak : Text
  breaks : Text
  reading : Reading

/-- Reads the lines of a block, in front of which are some blank lines. Two lines of a folded block
are joined unless one of them starts with a blank. -/
def blockLines (folded : Bool) (indent : Nat) : Nat → (breaks : Text) → Reading → Block
  | 0, breaks, r => ⟨[], [], breaks, r⟩
  | n + 1, breaks, r =>
    if r.column = indent && r.rest ≠ [] then
      let spaced := r.char?.any isGap
      let (line, r) := r.restOfLine
      let (b, r) := r.lineBreak
      let (bs, r) := blockBreaks indent (r.size + 1) r
      if r.column = indent && r.rest ≠ [] then
        let joined := folded && b = ['\n'] && !spaced && !r.char?.any isGap
        let joint := if joined then (if bs = [] then [' '] else []) else b
        let block := blockLines folded indent n bs r
        { block with text := breaks ++ line ++ joint ++ block.text }
      else ⟨breaks ++ line, b, bs, r⟩
    else ⟨[], [], breaks, r⟩

/-- Reads a block scalar; the reading is behind its mark, and `outer` is the least column that its
lines may have. -/
def block? (folded : Bool) (outer : Nat) (r : Reading) : Option (Text × Reading) := do
  let (header, r) := blockHeader r
  guard (atSpace r.rest)
  let r := r.skipSpaces.skipComment
  guard (atBreak r.rest)
  let r := r.lineBreak.2
  let fuel := r.size + 1
  let least := max outer 1
  let (indent, breaks, r) := match header.increment with
    | some i =>
      let indent := least + i - 1
      let (breaks, r) := blockBreaks indent fuel r
      (indent, breaks, r)
    | none =>
      let (breaks, column, r) := leadingBreaks fuel 0 r
      (max least column, breaks, r)
  let block := blockLines folded indent fuel breaks r
  let text := match header.chomping with
    | .strip => block.text
    | .clip => block.text ++ block.lastBreak
    | .keep => block.text ++ block.lastBreak ++ block.breaks
  some (text, block.reading)

end TemplateEngine.Yaml
