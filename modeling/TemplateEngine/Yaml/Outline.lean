import TemplateEngine.Table
import TemplateEngine.Yaml.Scalar
import TemplateEngine.Yaml.Token

set_option autoImplicit false

/-!
# The outline of a document

A document is cut into tokens. Outside brackets, a line that is indented further starts a collection
and one that is indented less ends it. A colon makes a key of what stands in front of it on the same
line, so places where a key may have started are kept until it is known whether one did. The tokens
behind such a place are not settled.
-/
namespace TemplateEngine.Yaml

structure KeyStart where
  /-- The number of tokens in front. -/
  tokens : Nat
  /-- Whether nothing but a key may start there. -/
  required : Bool
  index : Nat
  line : Nat
  column : Nat
  deriving DecidableEq, Repr

structure Outline where
  reading : Reading
  /-- The tokens so far, the last one first. -/
  tokens : List Token := []
  /-- The number of tokens so far. -/
  count : Nat := 0
  /-- How many brackets are open. -/
  depth : Nat := 0
  /-- The column of the innermost collection that is indented; it is -1 outside all of them. -/
  indent : Int := -1
  /-- The columns of the collections around it. -/
  outer : List Int := []
  /-- Whether a key may start here. -/
  keyAllowed : Bool := true
  /-- Where a key may have started, by the number of brackets. -/
  starts : Table Nat KeyStart := {}

namespace Outline

def maxKeyLength : Nat := 1024

def push (o : Outline) (t : Token) : Outline :=
  { o with tokens := t :: o.tokens, count := o.count + 1 }

def skip (n : Nat) (o : Outline) : Outline := { o with reading := o.reading.skip n }

def column (o : Outline) : Nat := o.reading.column

def toNextToken : Nat → Outline → Outline
  | 0, o => o
  | n + 1, o =>
    let r := o.reading.skipSpaces.skipComment
    if r.char?.any isBreak then
      toNextToken n
        { o with reading := r.lineBreak.2, keyAllowed := o.keyAllowed || o.depth = 0 }
    else { o with reading := r }

def isStale (o : Outline) (k : KeyStart) : Bool :=
  k.line ≠ o.reading.line || maxKeyLength < o.reading.index - k.index

def dropStale? (o : Outline) : Option Outline :=
  if o.starts.entries.any fun e => o.isStale e.2 && e.2.required then none
  else some { o with starts := ⟨o.starts.entries.filter fun e => !o.isStale e.2⟩ }

def dropStart? (o : Outline) : Option Outline :=
  match o.starts.find? o.depth with
  | none => some o
  | some k => if k.required then none else some { o with starts := o.starts.erase o.depth }

def noteStart? (o : Outline) : Option Outline :=
  if o.keyAllowed then do
    let o ← o.dropStart?
    let k : KeyStart :=
      ⟨o.count, o.depth = 0 && o.indent = o.column, o.reading.index, o.reading.line,
        o.column⟩
    some { o with starts := o.starts.insert o.depth k }
  else some o

def unwindTo (column : Int) : List Int → Outline → Outline
  | [], o => { o with outer := [] }
  | i :: is, o =>
    if column < o.indent then unwindTo column is { o.push .blockEnd with indent := i }
    else { o with outer := i :: is }

def unwind (column : Int) (o : Outline) : Outline :=
  if o.depth = 0 then unwindTo column o.outer o else o

/-- Makes a column the innermost one if it is a new one. -/
def indentTo (column : Nat) (o : Outline) : Bool × Outline :=
  if o.indent < column then
    (true, { o with indent := column, outer := o.indent :: o.outer })
  else (false, o)

def startAt (t : Token) (o : Outline) : Outline :=
  let (isNew, o) := o.indentTo o.column
  if isNew then o.push t else o

def documentMark? (t : Token) (n : Nat) (o : Outline) : Option Outline := do
  let o ← (o.unwind (-1)).dropStart?
  some ({ o with keyAllowed := false }.push t |>.skip n)

def openBracket? (t : Token) (o : Outline) : Option Outline := do
  let o ← o.noteStart?
  some ({ o with depth := o.depth + 1, keyAllowed := true }.push t |>.skip 1)

def closeBracket? (t : Token) (o : Outline) : Option Outline := do
  let o ← o.dropStart?
  guard (o.depth ≠ 0)
  some ({ o with depth := o.depth - 1, keyAllowed := false }.push t |>.skip 1)

def flowEntry? (o : Outline) : Option Outline := do
  let o ← o.dropStart?
  some ({ o with keyAllowed := true }.push .flowEntry |>.skip 1)

def blockEntry? (o : Outline) : Option Outline := do
  guard (o.depth ≠ 0 || o.keyAllowed)
  let o := if o.depth = 0 then o.startAt .blockSequenceStart else o
  let o ← { o with keyAllowed := true }.dropStart?
  some (o.push .blockEntry |>.skip 1)

def explicitKey? (o : Outline) : Option Outline := do
  guard (o.depth ≠ 0 || o.keyAllowed)
  let o := if o.depth = 0 then o.startAt .blockMappingStart else o
  let o ← { o with keyAllowed := o.depth = 0 }.dropStart?
  some (o.push .key |>.skip 1)

def insert (o : Outline) (n : Nat) (more : List Token) : Outline :=
  let behind := o.count - n
  { o with
    tokens := o.tokens.take behind ++ more.reverse ++ o.tokens.drop behind
    count := o.count + more.length }

def keyAt (k : KeyStart) (o : Outline) : Outline :=
  let (isNew, o) := if o.depth = 0 then o.indentTo k.column else (false, o)
  let more := if isNew then [Token.blockMappingStart, .key] else [.key]
  { o.insert k.tokens more with starts := o.starts.erase o.depth, keyAllowed := false }

def value? (o : Outline) : Option Outline := do
  match o.starts.find? o.depth with
  | some k => some ((o.keyAt k).push .value |>.skip 1)
  | none =>
    guard (o.depth ≠ 0 || o.keyAllowed)
    let o := if o.depth = 0 then o.startAt .blockMappingStart else o
    some ({ o with keyAllowed := o.depth = 0 }.push .value |>.skip 1)

def isNameChar (c : Char) : Bool := c.isAlphanum || c = '-' || c = '_'

def nameEnds (t : Text) : Bool := atGap t || t.head?.any fun c => "?:,]\x7d%@\x60".toList.contains c

def named? (make : Text → Token) (o : Outline) : Option Outline := do
  let o ← o.noteStart?
  let (name, r) := o.reading.next.span isNameChar
  guard (name ≠ [] && nameEnds r.rest)
  some ({ o with reading := r, keyAllowed := false }.push (make name))

def isTagChar (c : Char) : Bool :=
  c.isAlphanum || "-;/?:@&=+$,_.!~*'()[]".toList.contains c

def tagBytes? : Nat → Reading → Option (Bytes × Reading)
  | 0, _ => none
  | n + 1, r =>
    if r.isAt '%' then do
      let digits := r.next.rest.take 2
      guard (digits.length = 2)
      let b ← hexNumber? digits
      let (bs, r) ← tagBytes? n (r.skip 3)
      some (UInt8.ofNat b :: bs, r)
    else some ([], r)

def tagText? : Nat → Reading → Option (Text × Reading)
  | 0, _ => none
  | n + 1, r => do
    let (t, r) := r.span isTagChar
    if r.isAt '%' then
      let (bs, r) ← tagBytes? (r.size + 1) r
      let u ← (Utf8.decode bs).toOption
      let (v, r) ← tagText? n r
      some (t ++ u ++ v, r)
    else some (t, r)

def tagText1? (r : Reading) : Option (Text × Reading) := do
  let (t, r) ← tagText? (r.size + 1) r
  guard (t ≠ [])
  some (t, r)

/-- Reads the handle of a tag: a name between exclamation marks, or one such mark alone. -/
def tagHandle? (r : Reading) : Option (Text × Reading) := do
  guard (r.isAt '!')
  if r.next.isAt ' ' then some (['!'], r.next)
  else
    let (name, r) := r.next.span isNameChar
    guard (r.isAt '!')
    some ('!' :: name ++ ['!'], r.next)

/-- Whether a tag that is read up to the next space has a second exclamation mark. -/
def hasHandle (r : Reading) : Bool :=
  ((r.next.rest.takeWhile fun c => c ≠ ' ' && !isBreak c)).contains '!'

def tag? (r : Reading) : Option (Token × Reading) := do
  let start := r.next
  if start.isAt '<' then
    let (t, r) ← tagText1? start.next
    guard (r.isAt '>')
    some (.tag none t, r.next)
  else if atGap start.rest then some (.tag none ['!'], start)
  else
    let (handle, r) ← if hasHandle r then tagHandle? r else some (['!'], start)
    let (t, r) ← tagText1? r
    some (.tag (some handle) t, r)

def tagToken? (o : Outline) : Option Outline := do
  let o ← o.noteStart?
  let (t, r) ← tag? o.reading
  guard (atSpace r.rest)
  some ({ o with reading := r, keyAllowed := false }.push t)

def blockScalar? (folded : Bool) (o : Outline) : Option Outline := do
  let o ← { o with keyAllowed := true }.dropStart?
  let (t, r) ← block? folded (o.indent + 1).toNat o.reading.next
  some ({ o with reading := r }.push (.scalar false t))

def quotedScalar (double : Bool) (o : Outline) : Except Fault Outline := do
  let o ← Fault.ofOption o.noteStart?
  let (t, r) ← quoted double (o.reading.size + 1) o.reading.next
  .ok ({ o with reading := r, keyAllowed := false }.push (.scalar false t))

def plainScalar? (o : Outline) : Option Outline := do
  let o ← o.noteStart?
  let inFlow := o.depth ≠ 0
  let p := plain inFlow (o.indent + 1).toNat (o.reading.size + 1) o.reading
  some ({ o with reading := p.reading, keyAllowed := p.broken }.push (.scalar true p.text))

def number? (r : Reading) : Option (Nat × Reading) := do
  let (ds, r) := r.span Char.isDigit
  guard (ds ≠ [])
  some (ds.foldl (fun n c => 10 * n + (c.toNat - '0'.toNat)) 0, r)

def version? (r : Reading) : Option (Token × Reading) := do
  let (major, r) ← number? r.skipSpaces
  guard (r.isAt '.')
  let (minor, r) ← number? r.next
  guard (atSpace r.rest)
  some (.version major minor, r)

def handle? (r : Reading) : Option (Token × Reading) := do
  let (name, r) ← tagHandle? r.skipSpaces
  guard (r.isAt ' ')
  let (text, r) ← tagText1? r.skipSpaces
  guard (atSpace r.rest)
  some (.handle name text, r)

def directive? (r : Reading) : Option (Token × Reading) := do
  let (name, r) := r.next.span isNameChar
  guard (name ≠ [] && atSpace r.rest)
  let (t, r) ←
    if name = "YAML".toList then version? r
    else if name = "TAG".toList then handle? r
    else some (.directive, r.restOfLine.2)
  let r := r.skipSpaces.skipComment
  guard (atBreak r.rest)
  some (t, r.lineBreak.2)

def directiveToken? (o : Outline) : Option Outline := do
  let o ← (o.unwind (-1)).dropStart?
  let (t, r) ← directive? o.reading
  some ({ o with reading := r, keyAllowed := false }.push t)

def isIndicator (c : Char) : Bool := "-?:,[]\x7b\x7d#&*!|>'\"%@\x60".toList.contains c

def startsPlain (inFlow : Bool) (c : Char) (t : Text) : Bool :=
  (!isGap c && !isBreak c && !isIndicator c)
    || (!atGap t && (c = '-' || (!inFlow && (c = '?' || c = ':'))))

def token? (c : Char) (t : Text) (o : Outline) : Option Outline :=
  let inFlow := o.depth ≠ 0
  let apart := inFlow || atGap t
  if c = '%' && o.column = 0 then o.directiveToken?
  else if o.column = 0 && atMark "---" (c :: t) then o.documentMark? .documentStart 3
  else if o.column = 0 && atMark "..." (c :: t) then o.documentMark? .documentEnd 3
  else if c = '[' then o.openBracket? .flowSequenceStart
  else if c = '\x7b' then o.openBracket? .flowMappingStart
  else if c = ']' then o.closeBracket? .flowSequenceEnd
  else if c = '\x7d' then o.closeBracket? .flowMappingEnd
  else if c = ',' then o.flowEntry?
  else if c = '-' && atGap t then o.blockEntry?
  else if c = '?' && apart then o.explicitKey?
  else if c = ':' && apart then o.value?
  else if c = '*' then o.named? .alias
  else if c = '&' then o.named? .anchor
  else if c = '!' then o.tagToken?
  else if c = '|' && !inFlow then o.blockScalar? false
  else if c = '>' && !inFlow then o.blockScalar? true
  else if startsPlain inFlow c t then o.plainScalar?
  else none

def checkEnd (o : Outline) : Except Fault Unit :=
  if o.reading.isCut then .error o.reading.ending else .ok ()

/-- Takes what comes next. All tokens are known when the text has ended. -/
def step (o : Outline) : Except Fault (Outline ⊕ List Token) := do
  let o := o.toNextToken (o.reading.size + 1)
  o.checkEnd
  let o ← Fault.ofOption o.dropStale?
  let o := o.unwind o.column
  match o.reading.rest with
  | [] =>
    let o ← Fault.ofOption (o.unwind (-1)).dropStart?
    .ok (.inr o.tokens.reverse)
  | c :: t =>
    let o ←
      if c = '\'' then o.quotedScalar false
      else if c = '"' then o.quotedScalar true
      else Fault.ofOption (o.token? c t)
    o.checkEnd
    .ok (.inl o)

/-- The tokens that nothing behind them can change any more: those in front of all places where a key
may have started. -/
def settled (o : Outline) : List Token :=
  (o.tokens.drop (o.count - o.starts.entries.foldl (fun n e => min n e.2.tokens) o.count)).reverse

/-- Takes all tokens. What is settled in front of a fault is kept. -/
def allTokens : Nat → Outline → Tokens
  | 0, o => ⟨o.settled, some .malformed⟩
  | n + 1, o =>
    match o.dropStale? with
    | none => ⟨o.settled, some .malformed⟩
    | some o =>
      match o.step with
      | .ok (.inl p) => allTokens n p
      | .ok (.inr ts) => { list := ts }
      | .error f => ⟨o.settled, some f⟩

def start (s : Source) : Outline :=
  let r : Reading := { rest := s.text, size := s.text.length, fault? := s.fault? }
  { reading := if r.isAt Text.byteOrderMark then r.next else r }

def ofSource (s : Source) : Tokens := allTokens (s.text.length + 1) (start s)

end Outline
end TemplateEngine.Yaml
