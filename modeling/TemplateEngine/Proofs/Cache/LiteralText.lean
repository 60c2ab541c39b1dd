import TemplateEngine.Proofs.Cache.Loading
import TemplateEngine.Proofs.Generated.LiteralText
import TemplateEngine.Proofs.Identity.Naming
import TemplateEngine.Proofs.Segment.Literal

set_option autoImplicit false

/-!
# Rendering text without directives

A template without the open marker is a text that a cache gives back as it is, unless a copy of the
marker starts in it and ends in the marker that the scan puts behind it.
-/
namespace TemplateEngine

open TemplateEngine.Action

namespace Identity

/-- The null character is in no place if it is not in the one where paths start. -/
theorem not_mem_placeOf {here place : Place} {p : Path} (h : placeOf here p = .ok place)
    (hhere : ∀ x ∈ here, '\x00' ∉ x) : '\x00' ∉ place.toText := by
  intro hc
  have hc : '\x00' ∈ ['/'] ++ Text.join ['/'] place := hc
  obtain hc | hc := List.mem_append.1 hc
  · exact absurd hc (by decide)
  · obtain hc | ⟨x, hx, hc⟩ := Text.mem_join hc
    · exact absurd hc (by decide)
    · exact not_mem_of_placeOf h hhere x hx hc

end Identity

namespace Script

theorem ofAllData_singleton (b : Nat) (d : Data) (s : State) (h : b ≤ s.heap.objects.size) :
    ∃ v t, Value.ofAllData [d] s = .done [v] t ∧ State.Grown b s t := by
  obtain ⟨r, t, hr, ht⟩ := adds_ofDataWith b {} d s h
  refine ⟨r.1, t, ?_, ht⟩
  have hall : Value.ofAllDataWith {} [d] s = .done ([r.1], r.2) t := by
    rw [Value.ofAllDataWith, Run.bind_done hr]
    rfl
  rw [Value.ofAllData, Run.bind_done hall]
  rfl

end Script

namespace Generated

open Script

/-- Whatever the context is, a module that is nothing but literals renders as them. -/
theorem call_literals (g : Table Text Value) (param : Text) (ts : List Text) (hts : ts.length ≤ 1)
    (context : Data) : ∃ id t,
      (Script.Module.mk (loaded g param (ts.map literalStatement))).call (.function 0) [context] =
        .done (.text ts.flatten id) t := by
  obtain ⟨v, s, hv, hs⟩ := ofAllData_singleton 1 context
    (loaded g param (ts.map literalStatement)) (by simp [loaded])
  have hclosure : s.heap.object? 0 =
      some (.function (renderClosure param (ts.map literalStatement))) := hs.kept 0 (by omega)
  obtain ⟨id, t, ht, -⟩ := apply_literals (n := maxSteps - 11 - ts.length) (v := v) ts hclosure
    hs.depth
  have hn : maxSteps - 11 - ts.length + 11 + ts.length = maxSteps := by
    have := maxSteps_eq 12 (by omega)
    omega
  rw [hn] at ht
  refine ⟨id, t, ?_⟩
  rw [Module.call, Module.callWithin, Run.bind_done hv, ht]

end Generated

namespace Cache

def Renders (w : Workspace) (n : Nat) (location : Path) (context : Data) (t : Str) : Prop :=
  ∃ id h v, (do
    let g ← load n location
    render n g.identity context).exec w = (.ok (.text t id, h), v)

theorem Renders.unique {w : Workspace} {n : Nat} {location : Path} {context : Data} {t u : Str}
    (h : Renders w n location context t) (k : Renders w n location context u) : t = u := by
  obtain ⟨id, x, v, h⟩ := h
  obtain ⟨id', x', v', k⟩ := k
  have := h.symm.trans k
  simp_all

variable {w : Workspace} {n : Nat} {c : Cache} {location : Path} {place : Place} {source t : Text}

/-- A template that is scanned as a literal renders as it. -/
theorem renders_of_literal (h : Loadable w n c location place source)
    (hhere : ∀ x ∈ w.here, '\x00' ∉ x)
    (hscan : (Scan.ofTemplate c.delimiters source).segments = Scan.literal t)
    (hname : Text.normalName c.delimiters.contextName ≠ Script.Grammar.debugName) (context : Data) :
    Renders w n location context t := by
  have hcode := Generated.ofText_literals (if t = [] then [] else [t]) c.delimiters.name_ok hname
    (Identity.not_mem_placeOf h.located hhere)
  rw [← Scan.literal_eq_map, ← hscan, ← Compile.code_template] at hcode
  obtain ⟨ref, v, hload, hholds⟩ := load_of_program h (Identity.not_mem_placeOf h.located hhere) hcode
  obtain ⟨id, s, hcall⟩ := Generated.call_literals (c.store.globals ref)
    (Text.normalName c.delimiters.contextName) (if t = [] then [] else [t]) (by split <;> simp)
    context
  rw [Scan.flatten_literal] at hcall
  obtain ⟨u, hrender⟩ := render_of_call hholds hcall
  exact ⟨id, s.heap, u, by rw [exec_bind_ok hload, hrender]⟩

theorem load_debugName_of_literal (h : Loadable w n c location place source)
    (hhere : ∀ x ∈ w.here, '\x00' ∉ x)
    (hscan : (Scan.ofTemplate c.delimiters source).segments = Scan.literal t)
    (hname : Text.normalName c.delimiters.contextName = Script.Grammar.debugName) :
    ∃ ref v, (load n location).exec w = (.error (.load ⟨ref, .malformed⟩), v) := by
  have hcode := Generated.ofText_literals_debugName (if t = [] then [] else [t])
    c.delimiters.name_ok hname (Identity.not_mem_placeOf h.located hhere)
  rw [← Scan.literal_eq_map, ← hscan, ← Compile.code_template] at hcode
  exact load_of_fault h (Identity.not_mem_placeOf h.located hhere) hcode

/-- How a template without the open marker comes back. The scan finds the marker behind a start of the
template, which is all of it unless a copy straddles. That start and nothing else is what the template
renders as, if the context has not the name of a constant, which lets no template be loaded. Only what
is left of a straddling marker can hold a close marker; then the scan takes a directive from it. -/
theorem renders_iff_of_no_marker (h : Loadable w n c location place source)
    (hhere : ∀ x ∈ w.here, '\x00' ∉ x) (hopen : ¬ c.delimiters.openMarker <:+: source)
    (context : Data) :
    ∃ text tail,
      Text.cut? c.delimiters.openMarker (source ++ c.delimiters.openMarker) = some (text, tail) ∧
      text <+: source ∧ (text = source ↔ ¬ Text.Straddles c.delimiters.openMarker source) ∧
      (¬ c.delimiters.closeMarker <:+: tail → ∀ t, Renders w n location context t ↔
        t = Text.toStr text ∧ Text.normalName c.delimiters.contextName ≠ Script.Grammar.debugName) ∧
      (c.delimiters.closeMarker <:+: tail → Text.Straddles c.delimiters.openMarker source ∧
        ∃ body, (Scan.ofTemplate c.delimiters source).segments =
          Scan.literal text ++ [.ofBody body]) := by
  obtain ⟨text, tail, hcut, hprefix, hwhole, hshort⟩ := Text.cut?_append_self hopen
  have hsegments := Scan.segments_of_cut? hcut hshort
  refine ⟨text, tail, hcut, hprefix, hwhole, fun hclose t => ?_, fun hclose => ⟨?_, ?_⟩⟩
  · rw [Text.cut?_eq_none_iff.2 hclose, List.append_nil] at hsegments
    by_cases hname : Text.normalName c.delimiters.contextName = Script.Grammar.debugName
    · obtain ⟨ref, v, hload⟩ := load_debugName_of_literal h hhere hsegments hname
      refine ⟨fun ⟨id, x, u, hrun⟩ => ?_, fun ht => absurd hname ht.2⟩
      rw [exec_bind_error hload] at hrun
      cases congrArg Prod.fst hrun
    · have hrenders := renders_of_literal h hhere hsegments hname context
      exact ⟨fun ht => ⟨ht.unique hrenders, hname⟩, fun ht => ht.1 ▸ hrenders⟩
  · refine Decidable.of_not_not fun hno => ?_
    have hlen := Text.length_of_cut? hcut
    rw [List.length_append, hwhole.2 hno] at hlen
    obtain rfl : tail = [] := List.eq_nil_of_length_eq_zero (by omega)
    exact c.delimiters.close_ne_nil (List.infix_nil.1 hclose)
  · obtain ⟨⟨body, rest⟩, hbody⟩ := Option.isSome_iff_exists.1 <|
      Option.isSome_iff_ne_none.2 fun hnone => Text.cut?_eq_none_iff.1 hnone hclose
    exact ⟨body, by rw [hsegments, hbody]⟩

def braces : Delimiters where
  openMarker := "\x7b\x7b".toList
  closeMarker := "\x7d\x7d".toList
  contextName := "arg".toList
  open_ne_nil := by decide
  close_ne_nil := by decide
  name_ok := Delimiters.standard.name_ok
  name_free := Delimiters.standard.name_free
  open_ne_close := by decide

def single (d : Delimiters) (source : Text) : Cache where
  delimiters := d
  store := .memory 0
  reader := .fixed source
  strict := true

def alone (c : Cache) : Workspace where
  memories := #[{}]
  caches := #[c]

theorem loadable_single (d : Delimiters) (source : Text) :
    Loadable (alone (single d source)) 0 (single d source) (Path.ofText ['t']) [['t']] source where
  cache := rfl
  located := rfl
  new := rfl
  source := rfl
  ready := Nat.zero_lt_one
  keeps _ := ⟨_, rfl⟩

/-- One brace is the start of a marker that the scan takes for its own: it renders as nothing. -/
theorem renders_iff_of_no_marker_brace :
    Renders (alone (single braces "\x7b".toList)) 0 (Path.ofText ['t']) .null [] ∧
      ¬ Renders (alone (single braces "\x7b".toList)) 0 (Path.ofText ['t']) .null
        "\x7b".toList := by
  obtain ⟨text, tail, hcut, -, -, hrenders, -⟩ := renders_iff_of_no_marker
    (loadable_single braces "\x7b".toList) (by simp [alone]) (by decide) .null
  have hfound : Text.cut? braces.openMarker ("\x7b".toList ++ braces.openMarker) =
      some ([], "\x7b".toList) := by decide
  obtain ⟨rfl, rfl⟩ := Prod.mk.inj (Option.some.inj (hcut.symm.trans hfound))
  have hiff := hrenders (by decide)
  exact ⟨(hiff []).2 ⟨rfl, by decide⟩, fun hbrace => absurd ((hiff _).1 hbrace).1 (by decide)⟩

end Cache
end TemplateEngine
