import TemplateEngine.Script.Lexeme
import TemplateEngine.Script.Opener
import TemplateEngine.Text.Lines

set_option autoImplicit false

/-!
# Outlines

A program is an outline: lines of lexemes, each with the lines that are indented under it. A line of
the outline may span several lines of the text. Indentation is measured twice, with tabs of eight
and of one column, and both measures must agree on what is deeper.
-/
namespace TemplateEngine.Script

inductive Outline where
  | mk (line : List Lexeme) (body : List Outline)

namespace Outline

abbrev Line := Text × List Token

/-- Cuts events into lines; a line without tokens is none. `blanks` and `done` hold the line that is
being read, its tokens the other way round. -/
def cutLines (blanks : Text) (done : List Token) : List Event → List Line
  | [] => if done = [] then [] else [(blanks, done.reverse)]
  | .margin b :: es => cutLines b done es
  | .token t :: es => cutLines blanks (t :: done) es
  | .lineEnd :: es =>
    if done = [] then cutLines blanks [] es else (blanks, done.reverse) :: cutLines blanks [] es

def lines? (t : Text) : Option (List Line) :=
  let ls := Text.physicalLines (Text.unifyLineEnds t)
  let ls := if ls.getLast? = some [] then ls.dropLast else ls
  (LineScan.events? Lexeme.nameRule ls).map (cutLines [] [])

/-- A column, with tabs of eight and of one column. -/
abbrev Column := Nat × Nat

def columnOf (blanks : Text) : Column :=
  (columnAfter blanks, columnAfter (blanks.map fun c => if c = '\t' then ' ' else c))

def maxColumns : Nat := 100

def returnTo? (c : Column) : List Column → Option (List Column)
  | [] => none
  | top :: below =>
    if c.1 = top.1 then if c.2 = top.2 then some (top :: below) else none
    else if top.1 < c.1 then none
    else returnTo? c below

def enter? (c : Column) (columns : List Column) : Option (List Column) :=
  match columns with
  | [] => none
  | top :: below =>
    if top.1 < c.1 then
      if top.2 < c.2 && below.length + 1 < maxColumns then some (c :: top :: below) else none
    else returnTo? c (top :: below)

def depths? (columns : List Column) : List Column → Option (List Nat)
  | [] => some []
  | c :: cs => do
    let columns ← enter? c columns
    let ds ← depths? columns cs
    some ((columns.length - 1) :: ds)

/-- Puts a line in front of outlines that are given by depth, those of depth 0 first. The outlines
one deeper than the line are its body. -/
def insert (line : List Lexeme) : (depth : Nat) → List (List Outline) → List (List Outline)
  | 0, same :: body :: _ => [mk line body :: same]
  | 0, [same] => [mk line [] :: same]
  | 0, [] => [[mk line []]]
  | d + 1, same :: deeper => same :: insert line d deeper
  | d + 1, [] => [] :: insert line d []

def ofLines? (ls : List (Nat × List Lexeme)) : Option (List Outline) :=
  match ls.foldr (fun l deeper => insert l.2 l.1 deeper) [] with
  | [] => some []
  | [top] => some top
  | _ => none

def maxBrackets : Nat := 200

def bracketsFit : (opened : Int) → List Token → Bool
  | _, [] => true
  | n, t :: ts =>
    let n := LineScan.depthAfter n [t]
    n ≤ maxBrackets && bracketsFit n ts

def ofText? (t : Text) : Option (List Outline) := do
  let ls ← lines? t
  guard (ls.all fun l => bracketsFit 0 l.2)
  let ds ← depths? [(0, 0)] (ls.map fun l => columnOf l.1)
  let ts ← ls.mapM fun l => Lexeme.ofTokens? l.2
  ofLines? (ds.zip ts)

end Outline
end TemplateEngine.Script
