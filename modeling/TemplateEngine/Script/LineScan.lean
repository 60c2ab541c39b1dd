import TemplateEngine.Script.Token

set_option autoImplicit false

/-!
# Scanning physical lines

A program is scanned line by line. Between two lines the scan remembers how many brackets are open,
whether the line ended in a backslash, and the string that the line left open. What a line yields is
a list of events: the margin of a line that starts a statement, tokens, and ends of statements.
Which characters make up a name is a parameter.
-/
namespace TemplateEngine.Script

structure OpenString where
  triple : Bool
  quote : Char
  text : Text
  row : Nat
  column : Nat
  deriving DecidableEq, Repr

structure LineState where
  /-- The string that the last line left open. -/
  string : Option OpenString := none
  /-- Whether a string in single quotes was carried over a line end and none has been closed on a
  later line since. From then on a line inside a string must close it or end in a backslash. -/
  carried : Bool := false
  /-- Open brackets less closing ones. -/
  depth : Int := 0
  /-- Whether the last line ended in a backslash. -/
  joined : Bool := false
  deriving DecidableEq, Repr

inductive Event where
  /-- A line that starts a statement, behind these blanks. -/
  | margin (blanks : Text)
  | token (t : Token)
  /-- The line ends outside brackets. -/
  | lineEnd
  deriving DecidableEq, Repr

structure NameRule where
  start : Char → Bool
  part : Char → Bool

inductive LineEnd where
  | plain
  | backslash
  | openString (s : OpenString)

/-- The start of a line's rest: a token, a string that the line leaves open, or a character that
starts neither. -/
inductive Lead where
  | token (kind : TokenKind) (text rest : Text)
  | openString (s : OpenString)
  | none

namespace LineScan

def isGap (c : Char) : Bool := c = ' ' || c = '\t' || c = '\x0c'

/-- The word at the start of a text. A word that starts like no name counts as an operator. -/
def word (rule : NameRule) (t : Text) : Lead :=
  match t.takeWhile rule.part with
  | [] => .none
  | c :: w => .token (if rule.start c then .name else .operator) (c :: w) (t.dropWhile rule.part)

def string (rule : NameRule) (row column : Nat) (t p : Text) (q : Char) (u : Text) : Lead :=
  if [q, q].isPrefixOf u then
    match Token.closeTriple? q (u.drop 2) with
    | some (x, r) => .token .string (p ++ [q, q, q] ++ x) r
    | none => .openString ⟨true, q, t, row, column⟩
  else
    match Token.close q u with
    | .closed x r => .token .string (p ++ q :: x) r
    | .backslash => .openString ⟨false, q, t, row, column⟩
    | .open => word rule t

/-- What stands at the start of `t`, which is neither a gap nor a comment nor the end. -/
def lead (rule : NameRule) (row column : Nat) (t : Text) : Lead :=
  match Token.opening? t with
  | some (p, q, u) => string rule row column t p q u
  | none =>
    match Token.number? t with
    | some (x, r) => .token .number x r
    | none =>
      match Token.operator? t with
      | some (x, r) => .token .operator x r
      | none => word rule t

def tokens (rule : NameRule) (row : Nat) : Nat → (column : Nat) → Text → List Token × LineEnd
  | 0, _, _ => ([], .plain)
  | n + 1, column, t =>
    let gap := t.takeWhile isGap
    let u := t.dropWhile isGap
    let start := column + gap.length
    match u with
    | [] | ['\r'] => ([], .plain)
    | ['\\'] | ['\\', '\r'] => ([], .backslash)
    | '#' :: c =>
      let comment := c.takeWhile (· ≠ '\r')
      tokens rule row n (start + 1 + comment.length) (c.drop comment.length)
    | _ =>
      match lead rule row start u with
      | .token k x r =>
        let (ts, e) := tokens rule row n (start + x.length) r
        (⟨k, x, row, start⟩ :: ts, e)
      | .openString s => ([], .openString s)
      | .none =>
        let (ts, e) := tokens rule row n (column + 1) (t.drop 1)
        (⟨.unknown, t.take 1, row, column⟩ :: ts, e)

def rest (rule : NameRule) (row column : Nat) (t : Text) : List Token × LineEnd :=
  tokens rule row (t.length + 1) column t

def depthAfter (depth : Int) (ts : List Token) : Int :=
  ts.foldl (fun d t => if t.kind = .operator then d + Token.bracketChange t.text else d) depth

def finish (st : LineState) (r : List Token × LineEnd) : List Event × LineState :=
  let depth := depthAfter st.depth r.1
  let events := r.1.map Event.token
  match r.2 with
  | .plain =>
    (if 0 < depth then events else events ++ [.lineEnd],
      { st with string := none, depth, joined := false })
  | .backslash => (events, { st with string := none, depth, joined := true })
  | .openString s =>
    (events, { string := some s, carried := st.carried || !s.triple, depth, joined := false })

def closing? (s : OpenString) (line : Text) : Option Taken :=
  if s.triple then Token.closeTriple? s.quote line
  else match Token.close s.quote line with
    | .closed x r => some (x, r)
    | _ => none

def endsInBackslash (line : Text) : Bool :=
  match line.reverse with
  | '\\' :: _ | '\r' :: '\\' :: _ => true
  | _ => false

def continueString (rule : NameRule) (row : Nat) (st : LineState) (s : OpenString) (line : Text) :
    List Event × LineState :=
  match closing? s line with
  | some (x, r) =>
    let (ts, e) := rest rule row x.length r
    finish { st with carried := false } (⟨.string, s.text ++ '\n' :: x, s.row, s.column⟩ :: ts, e)
  | none =>
    if st.carried && !endsInBackslash line then
      ([.token ⟨.unknown, s.text ++ '\n' :: line, s.row, s.column⟩], { st with string := none })
    else ([], { st with string := some { s with text := s.text ++ '\n' :: line } })

def startStatement (rule : NameRule) (row : Nat) (st : LineState) (line : Text) :
    List Event × LineState :=
  let blanks := line.takeWhile isGap
  match line.dropWhile isGap with
  | [] | '#' :: _ | '\r' :: _ => ([], st)
  | t =>
    let (events, st') := finish st (rest rule row blanks.length t)
    (.margin blanks :: events, st')

def line (rule : NameRule) (row : Nat) (st : LineState) (l : Text) : List Event × LineState :=
  match st.string with
  | some s => continueString rule row st s l
  | none =>
    if st.depth = 0 && !st.joined then startStatement rule row st l
    else finish st (rest rule row 0 l)

def lines (rule : NameRule) : (row : Nat) → LineState → List Text → List Event × LineState
  | _, st, [] => ([], st)
  | row, st, l :: ls =>
    let (es, st') := line rule row st l
    let (fs, st'') := lines rule (row + 1) st' ls
    (es ++ fs, st'')

/-- The events of some lines, unless they end inside a string, brackets or a joined line. -/
def events? (rule : NameRule) (ls : List Text) : Option (List Event) :=
  let (es, st) := lines rule 0 {} ls
  if st.string = none && st.depth = 0 && !st.joined then some es else none

end LineScan
end TemplateEngine.Script
