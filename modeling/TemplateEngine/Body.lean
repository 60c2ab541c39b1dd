import TemplateEngine.Scriptlet

set_option autoImplicit false

/-!
# The body of a generated function

Lines are written under the indentation of the innermost open block. A block remembers whether code
was written into it, so that closing an empty one can first write a statement that does nothing.
-/
namespace TemplateEngine

structure Block where
  indent : Text
  /-- Whether a line other than a comment was written into it. -/
  filled : Bool
  deriving DecidableEq, Repr

structure Body where
  written : Array Text := #[]
  blocks : List Block := []
  deriving DecidableEq, Repr

namespace Body

def lines (b : Body) : List Text := b.written.toList

def indent (b : Body) : Text :=
  match b.blocks with
  | [] => Scriptlet.indentStep
  | block :: _ => block.indent

def isCode (line : Text) : Bool :=
  match Text.trim line with
  | [] | '#' :: _ => false
  | _ => true

def write (b : Body) (line : Text) : Body where
  written := b.written.push (if line = [] then [] else b.indent ++ line)
  blocks :=
    match b.blocks with
    | [] => []
    | block :: outer => { block with filled := block.filled || isCode line } :: outer

def writeAll (b : Body) (lines : List Text) : Body := lines.foldl write b

/-- Opens a block one step deeper than a statement that stands `offset` behind the indentation. -/
def openBlock (b : Body) (offset : Text) : Body :=
  { b with blocks := ⟨b.indent ++ offset ++ Scriptlet.indentStep, false⟩ :: b.blocks }

def pass : Text := "pass".toList

/-- Closes the innermost block, filling it if it is empty. -/
def closeBlock (b : Body) : Body :=
  match b.blocks with
  | [] => b
  | block :: _ =>
    let b' := if block.filled then b else b.write pass
    { b' with blocks := b'.blocks.drop 1 }

def closeBlocks (b : Body) : Nat → Body
  | 0 => b
  | n + 1 => closeBlocks b.closeBlock n

def closeAll (b : Body) : Body := b.closeBlocks b.blocks.length

@[simp] theorem lines_write (b : Body) (l : Text) :
    (b.write l).lines = b.lines ++ [if l = [] then [] else b.indent ++ l] :=
  Array.toList_push

@[simp] theorem length_blocks_write (b : Body) (l : Text) :
    (b.write l).blocks.length = b.blocks.length := by
  unfold write
  cases b.blocks <;> rfl

@[simp] theorem indent_write (b : Body) (l : Text) : (b.write l).indent = b.indent := by
  unfold write indent
  cases b.blocks <;> rfl

theorem length_blocks_closeBlock (b : Body) :
    b.closeBlock.blocks.length = b.blocks.length - 1 := by
  unfold closeBlock
  split
  · next h => simp [h]
  · next h =>
    simp only [List.length_drop, h]
    split <;> simp [h]

theorem blocks_closeBlocks (b : Body) (n : Nat) :
    (b.closeBlocks n).blocks.length = b.blocks.length - n := by
  induction n generalizing b with
  | zero => simp [closeBlocks]
  | succ n ih =>
    rw [closeBlocks, ih, length_blocks_closeBlock]
    omega

theorem blocks_closeAll (b : Body) : b.closeAll.blocks = [] :=
  List.length_eq_zero_iff.1 (by rw [closeAll, blocks_closeBlocks]; omega)

end Body
end TemplateEngine
