import TemplateEngine.Segment.Scan
import TemplateEngine.Literal
import TemplateEngine.Body
import TemplateEngine.Generated

set_option autoImplicit false

/-!
# Compiling a template

Segments are written one after another into the body of a function. A scriptlet whose last
statement opens a block leaves the block open for what follows; an end directive or a branch of the
same statement closes it, and so does the end of the template.
-/
namespace TemplateEngine

structure Compiled where
  code : Text
  notices : List Notice
  deriving DecidableEq, Repr

namespace Compile

def blockEnd : Text := "end".toList

/-- What is left of `t` behind `p`. -/
def behind? (p t : Text) : Option Text :=
  if p.isPrefixOf t then some (t.drop p.length) else none

def atWordEnd : Text → Bool
  | [] => true
  | c :: _ => !Text.isWordChar c

/-- Whether a line goes on the statement of the innermost open block. -/
def isContinuation (line : Text) : Bool :=
  let colon (t : Text) : Bool := (Text.trimStart t).head? = some ':'
  ((behind? "elif".toList line).any atWordEnd) || ((behind? "else".toList line).any colon)
    || ((behind? "except".toList line).any atWordEnd) || ((behind? "finally".toList line).any colon)

def appendCall (call expression : Text) : Text :=
  Script.bufferName ++ ".append(".toList ++ call ++ "(".toList ++ expression ++ "))".toList

def literalLine (t : Text) : Text :=
  Script.bufferName ++ ".append(".toList ++ Literal.quote t ++ ")".toList

def textCall : Text := "str".toList

def isBlockEnd : List Text → Bool
  | [l] => Text.trim l = blockEnd
  | _ => false

def statement (b : Body) (lines : List Text) : Body :=
  let b := if (lines.head?).any isContinuation then b.closeBlock else b
  let b := b.writeAll lines
  match Script.Opener.indent? lines with
  | some offset => b.openBlock offset
  | none => b

def segment (b : Body) : Segment → Body × List Notice
  | .literal t => (b.write (literalLine t), [])
  | .raw e => (b.write (appendCall textCall e), [])
  | .escaped e => (b.write (appendCall Script.escapeName e), [])
  | .scriptlet s =>
    let lines := Scriptlet.lines s
    if lines = [] then (b, [])
    else if isBlockEnd lines then
      (b.closeBlock, if b.blocks = [] then [.strayEnd] else [])
    else (statement b lines, [])

def segments (b : Body) : List Segment → Body × List Notice
  | [] => (b, [])
  | s :: ss =>
    let (b', ns) := segment b s
    let (b'', ms) := segments b' ss
    (b'', ns ++ ms)

def bodyLines (ss : List Segment) : List Text := (segments {} ss).1.closeAll.lines

def template (d : Delimiters) (source origin : Text) : Compiled :=
  let scan := Scan.ofTemplate d source
  let (b, notices) := segments {} scan.segments
  let closing := if b.blocks = [] then [] else [Notice.closing origin b.blocks.length]
  let body := b.closeAll.lines
  { code := Generated.module d.contextName body origin
    notices := scan.dropped.toList ++ notices ++ closing
      ++ [.compiled origin scan.segments.length body.length] }

theorem code_template (d : Delimiters) (source origin : Text) :
    (template d source origin).code =
      Generated.module d.contextName (bodyLines (Scan.ofTemplate d source).segments) origin := rfl

end Compile
end TemplateEngine
