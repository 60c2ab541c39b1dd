import TemplateEngine.Script.Name

set_option autoImplicit false

namespace TemplateEngine

/-- Markers and context name of a template, with what makes them usable. -/
structure Delimiters where
  openMarker : Text
  closeMarker : Text
  contextName : Text
  open_ne_nil : openMarker ≠ []
  close_ne_nil : closeMarker ≠ []
  name_ok : Script.isVariableName contextName = true
  name_free : contextName ∉ Script.reservedNames
  open_ne_close : openMarker ≠ closeMarker

namespace Delimiters

def standard : Delimiters where
  openMarker := "<?".toList
  closeMarker := "?>".toList
  contextName := "arg".toList
  open_ne_nil := by decide
  close_ne_nil := by decide
  name_ok := by decide
  name_free := by decide
  open_ne_close := by decide

theorem ext_fields {d e : Delimiters} (ho : d.openMarker = e.openMarker)
    (hc : d.closeMarker = e.closeMarker) (hn : d.contextName = e.contextName) : d = e := by
  cases d
  cases e
  simp_all

theorem length_open_pos (d : Delimiters) : 0 < d.openMarker.length :=
  List.length_pos_iff.2 d.open_ne_nil

theorem length_close_pos (d : Delimiters) : 0 < d.closeMarker.length :=
  List.length_pos_iff.2 d.close_ne_nil

end Delimiters
end TemplateEngine
