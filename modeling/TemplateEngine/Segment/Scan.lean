import TemplateEngine.Segment.Basic
import TemplateEngine.Notice

set_option autoImplicit false

/-!
# Scanning a template

A template is read as if an open marker stood behind it and the scan had just passed a close marker,
so that the first and the last literal are found like any other. Whatever follows a marker that has
no partner is dropped with a notice. `direct` is the plainer scanner that adds no marker.
-/
namespace TemplateEngine

structure Scan where
  segments : List Segment
  dropped : Option Notice
  deriving DecidableEq, Repr

namespace Scan

def prepend (s : List Segment) (r : Scan) : Scan := ⟨s ++ r.segments, r.dropped⟩

def literal (t : Text) : List Segment := if t = [] then [] else [.literal t]

/-- Scans what follows a close marker. `offset` is where `t` starts in the template, and `size` is
the template's length. -/
def after (d : Delimiters) (size : Nat) (t : Text) (offset : Nat) : Scan :=
  match _hOpen : Text.cut? d.openMarker t with
  | none => ⟨[], some (.unmatchedClose offset)⟩
  | some (lit, u) =>
    let at_ := offset + lit.length
    match _hClose : Text.cut? d.closeMarker u with
    | none => ⟨literal lit, if at_ < size then some (.unterminated at_) else none⟩
    | some (body, v) =>
      prepend (literal lit ++ [.ofBody body])
        (after d size v
          (at_ + d.openMarker.length + body.length + d.closeMarker.length))
termination_by t.length
decreasing_by
  have := Text.length_of_cut? _hOpen
  have := Text.length_of_cut? _hClose
  have := d.length_open_pos
  omega

def ofTemplate (d : Delimiters) (source : Text) : Scan :=
  after d source.length (source ++ d.openMarker) 0

/-- Scans a template by its own text alone: a literal up to the next open marker or the end, a
directive up to the next close marker, nothing behind an open marker without one. -/
def direct (d : Delimiters) (t : Text) : List Segment :=
  match _hOpen : Text.cut? d.openMarker t with
  | none => literal t
  | some (lit, u) =>
    match _hClose : Text.cut? d.closeMarker u with
    | none => literal lit
    | some (body, v) => literal lit ++ .ofBody body :: direct d v
termination_by t.length
decreasing_by
  have := Text.length_of_cut? _hOpen
  have := Text.length_of_cut? _hClose
  have := d.length_open_pos
  omega

end Scan
end TemplateEngine
