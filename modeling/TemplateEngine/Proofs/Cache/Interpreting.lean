import TemplateEngine.Proofs.Cache.ContextName
import TemplateEngine.Proofs.Script.Alone
import TemplateEngine.Proofs.Template.Rendering

set_option autoImplicit false

/-!
# Templates that are rendered as they are interpreted

A cache that loads a template of literals, expressions, conditions and loops gives for every context what
the interpretation of the template gives: the same text, or the exception that it raises.
-/
namespace TemplateEngine

open Script TemplateEngine.Action

namespace Cache

open Generated Element

variable {w : Workspace} {n : Nat} {c : Cache} {location : Path} {place : Place} {es : List Element}

theorem apart_startingWith {secret : List Address} {ds : List (String × Value)}
    (h : ∀ e ∈ ds, e.2.Apart secret) {x : Text} {v : Value} (hv : (Store.startingWith ds).find? x = some v) :
    v.Apart secret := by
  induction ds with
  | nil => contradiction
  | cons d ds ih =>
    obtain ⟨hd, hds⟩ := List.forall_mem_cons.1 h
    simp only [Store.startingWith, Table.find?, List.map_cons, Table.lookup] at hv
    split at hv
    · exact Option.some.inj hv ▸ hd
    · exact ih hds hv

/-- No variable that a module has from the start leads to an object. -/
theorem leadsNowhere_globals (s : Store) (ref : Text) : LeadsNowhere (s.globals ref) := by
  intro x v secret h
  cases s with
  | memory k => exact apart_startingWith (by simp [Value.ofText]) h
  | files workArea => exact apart_startingWith (by simp [Value.ofText]) h

inductive GivenAs : Except Failure (Value × Heap) → Outcome Str → Prop
  | text {x : Str} {id : Script.Identity} {h : Heap} {t : State} : GivenAs (.ok (.text x id, h)) (.done x t)
  | raised {e : Raised} {h : Heap} {t : State} : GivenAs (.error (.raised e h)) (.raised e t)
  | exhausted (r : Except Failure (Value × Heap)) : GivenAs r .exhausted

/-- What calling the function of a loaded template gives is what rendering gives. -/
theorem givenAs_of_endsAs {v : Workspace} {m : Script.Module} {f : Value} {context : Data} {o : Outcome Str}
    (hload : (load n location).exec w = (.ok ⟨place, Identity.ofPlace place, n⟩, v))
    (hholds : Holds v n (Identity.ofPlace place) m f) (hends : EndsAs (m.call f [context]) o) :
    GivenAs ((do
      let g ← load n location
      render n g.identity context).exec w).1 o := by
  rw [exec_bind_ok hload]
  generalize hcall : m.call f [context] = r at hends
  cases hends with
  | done _ =>
    obtain ⟨u, hrender⟩ := render_of_call hholds hcall
    rw [hrender]
    exact .text
  | raised _ =>
    obtain ⟨u, hrender⟩ := render_of_call_raised hholds hcall
    rw [hrender]
    exact .raised
  | exhausted => exact .exhausted _

/-- The reference under which the code of a template is kept. -/
def KeptUnder (w : Workspace) (c : Cache) (place : Place) (text ref : Text) : Prop :=
  ((c.store.persist (Identity.ofPlace place)
    (Compile.template c.delimiters text place.toText).code).exec w).1 = .ok ref

theorem load_source (h : Loadable w n c location place (Element.source es)) (hhere : ∀ x ∈ w.here, '\x00' ∉ x)
    (hstandard : c.delimiters = .standard) (hw : Written es) (hl : WithinLimits es) :
    ∃ ref v, KeptUnder w c place (Element.source es) ref ∧
      (load n location).exec w = (.ok ⟨place, Identity.ofPlace place, n⟩, v) ∧
      Holds v n (Identity.ofPlace place) ⟨loaded (c.store.globals ref) "arg".toList (statements Phrase.value es)⟩
        (.function 0) :=
  have hplace := Identity.not_mem_placeOf h.located hhere
  load_of_program_kept h hplace (hstandard ▸ ofText_source hw hl hplace)

theorem call_source (hnames : Avoids ownNames (allNames es)) (hbound : Avoids Generated.calledNames (allBound es))
    (s : Store) (ref : Text) (context : Data) :
    EndsAs ((Script.Module.mk (loaded (s.globals ref) "arg".toList (statements Phrase.value es))).call
      (.function 0) [context]) (Element.render es context (loaded (s.globals ref) "arg".toList [])) :=
  call_loaded (leadsNowhere_globals s ref) (find?_globals s ref _ (by simp [Cache.calledNames]))
    (find?_globals s ref _ (by simp [Cache.calledNames])) hnames hbound context

def RendersAsInterpreted (w : Workspace) (n : Nat) (c : Cache) (location : Path) (place : Place)
    (es : List Element) : Prop :=
  ∃ ref, KeptUnder w c place (Element.source es) ref ∧ ∀ context, GivenAs ((do
      let g ← load n location
      render n g.identity context).exec w).1
    (Element.render es context (loaded (c.store.globals ref) "arg".toList []))

/-- A template of literals, expressions, conditions and loops renders as it is interpreted if it stays within
the limits of the language and does not name what generated code is made of; `str` may be mentioned, but not
bound. -/
theorem renders_as_interpreted (h : Loadable w n c location place (Element.source es))
    (hhere : ∀ x ∈ w.here, '\x00' ∉ x) (hstandard : c.delimiters = .standard) (hw : Written es)
    (hl : WithinLimits es) (hnames : Avoids ownNames (Element.allNames es))
    (hbound : Avoids Generated.calledNames (allBound es)) :
    RendersAsInterpreted w n c location place es := by
  obtain ⟨ref, v, hkept, hload, hholds⟩ := load_source h hhere hstandard hw hl
  exact ⟨ref, hkept, fun context =>
    givenAs_of_endsAs hload hholds (call_source hnames hbound c.store ref context)⟩

def contextPhrase : LinePhrase where
  text := "arg".toList
  tokens := [⟨.name, "arg".toList, 0, 0⟩]
  lexemes := [.name "arg".toList]
  expr := .name "arg".toList
  scanned := by decide +kernel
  closed := rfl
  spelled := by decide +kernel
  parsed := rfl
  no_null := by decide
  no_break := Text.forall_mem_of_all (by decide)

def emptyPhrase : LinePhrase where
  text := "''".toList
  tokens := [⟨.string, "''".toList, 0, 0⟩]
  lexemes := [.text []]
  expr := .constant (.text [])
  scanned := by decide +kernel
  closed := rfl
  spelled := by decide +kernel
  parsed := rfl
  no_null := by decide
  no_break := Text.forall_mem_of_all (by decide)

def itemPhrase : LinePhrase where
  text := "x".toList
  tokens := [⟨.name, "x".toList, 0, 0⟩]
  lexemes := [.name "x".toList]
  expr := .name "x".toList
  scanned := by decide +kernel
  closed := rfl
  spelled := by decide +kernel
  parsed := rfl
  no_null := by decide
  no_break := Text.forall_mem_of_all (by decide)

def itemVariable : LoopVariable where
  text := "x".toList
  isName := by decide
  ne_debug := by decide +kernel
  no_break := Text.forall_mem_of_all (by decide)

/-- The items of the context, each behind a dash unless it is empty. -/
def dashed : List Element :=
  [.each itemVariable contextPhrase
    [.choice itemPhrase [.literal "-".toList, .output true itemPhrase.toPhrase] (.otherwise [])]]

def reference : Text := Artifact.reference (Identity.ofPlace [['t']])

def gives (x : Text) : Outcome Str → Bool
  | .done y _ => decide (y = x)
  | _ => false

def givesText (x : Text) : Outcome Value → Bool
  | .done (.text y _) _ => decide (y = x)
  | _ => false

theorem exists_of_givesText {x : Text} {o : Outcome Value} (h : givesText x o = true) :
    ∃ id s, o = .done (.text (Text.toStr x) id) s := by
  unfold givesText at h
  split at h
  · next y id s =>
    obtain rfl := of_decide_eq_true h
    exact ⟨id, s, rfl⟩
  · cases h

theorem written_dashed : Written dashed where
  literals := by
    simp only [dashed, AllLiteralsApart, LiteralsApart, OtherLiteralsApart, isLiteral]
    decide
  expressions := by decide

theorem renders_as_interpreted_dashed :
    Renders (alone (single .standard (Element.source dashed))) 0 (Path.ofText ['t'])
      (.list [.text [.char '&'], .text []]) "-&amp;".toList := by
  obtain ⟨ref, hkept, h⟩ := @renders_as_interpreted _ _ _ _ _ dashed
    (loadable_single .standard (Element.source dashed)) (by simp [alone]) rfl written_dashed
    ⟨by decide +kernel, by decide, by decide, by decide, rfl⟩
    (by unfold Avoids; decide +kernel) (by unfold Avoids; decide +kernel)
  have hgiven := h (.list [.text [.char '&'], .text []])
  obtain rfl : reference = ref := Except.ok.inj hkept
  have hvalue : gives "-&amp;".toList (Element.render dashed (.list [.text [.char '&'], .text []])
      (loaded (MemoryStore.globals reference) "arg".toList [])) = true := by
    decide +kernel
  change GivenAs _ (Element.render dashed _ (loaded (MemoryStore.globals reference) _ _)) at hgiven
  generalize Element.render dashed _ _ = o at hgiven hvalue
  generalize hrun : Action.exec _ _ = r at hgiven
  obtain ⟨r, u⟩ := r
  cases hgiven with
  | @text x id k t =>
    obtain rfl := of_decide_eq_true hvalue
    exact ⟨id, k, u, hrun⟩
  | raised => contradiction
  | exhausted => contradiction

def loops : Nat → List Element
  | 0 => []
  | n + 1 => [.each itemVariable emptyPhrase (loops n)]

theorem written_loops (n : Nat) : Written (loops n) := by
  induction n with
  | zero => exact ⟨trivial, by simp [loops, allPhrases]⟩
  | succ n ih =>
    refine ⟨⟨ih.literals, by simp [isLiteral], trivial⟩, ?_⟩
    simp only [loops, allPhrases, phrases, List.append_nil, List.forall_mem_cons]
    exact ⟨by decide, ih.expressions⟩

def AloneAsInterpreted (es : List Element) : Prop :=
  RendersAsInterpreted (alone (single .standard (Element.source es))) 0
    (single .standard (Element.source es)) (Path.ofText ['t']) [['t']] es

/-- No more than twenty loops may stand in each other: the template of one more is no program, although there
is nothing that it would do. -/
theorem not_aloneAsInterpreted_loops : ¬ AloneAsInterpreted (loops 21) := by
  have hcode : Program.ofText (Compile.template .standard (Element.source (loops 21))
      (Place.toText [['t']])).code = .error .malformed := by
    rw [ofText_source_eq (written_loops 21) (by decide +kernel) (by decide) (by decide)]
    have hfault : Program.fault? (program "arg".toList (statements Phrase.expr (loops 21))) =
        some .malformed := by
      decide +kernel
    rw [hfault]
  rintro ⟨ref, hkept, hall⟩
  have hgiven := hall .null
  obtain ⟨ref', v, hload⟩ := load_of_fault (loadable_single .standard (Element.source (loops 21)))
    (by decide) hcode
  rw [exec_bind_error hload] at hgiven
  obtain rfl : reference = ref := Except.ok.inj hkept
  have hvalue : gives [] (Element.render (loops 21) .null
      (loaded (MemoryStore.globals reference) "arg".toList [])) = true := by
    decide +kernel
  change GivenAs _ (Element.render (loops 21) _ (loaded (MemoryStore.globals reference) _ _)) at hgiven
  generalize Element.render (loops 21) _ _ = o at hgiven hvalue
  cases hgiven
  contradiction

def changingPhrase : Phrase where
  text := "_HTML_ENTITIES.update([(38, 'X')])".toList
  tokens := [⟨.name, "_HTML_ENTITIES".toList, 0, 0⟩, ⟨.operator, ".".toList, 0, 14⟩,
    ⟨.name, "update".toList, 0, 15⟩, ⟨.operator, "(".toList, 0, 21⟩, ⟨.operator, "[".toList, 0, 22⟩,
    ⟨.operator, "(".toList, 0, 23⟩, ⟨.number, "38".toList, 0, 24⟩, ⟨.operator, ",".toList, 0, 26⟩,
    ⟨.string, "'X'".toList, 0, 28⟩, ⟨.operator, ")".toList, 0, 31⟩, ⟨.operator, "]".toList, 0, 32⟩,
    ⟨.operator, ")".toList, 0, 33⟩]
  lexemes := [.name "_HTML_ENTITIES".toList, .symbol .dot, .name "update".toList, .symbol .parenOpen,
    .symbol .bracketOpen, .symbol .parenOpen, .int 38, .symbol .comma, .text [.char 'X'], .symbol .parenClose,
    .symbol .bracketClose, .symbol .parenClose]
  expr := .call (.attribute (.name "_HTML_ENTITIES".toList) "update".toList)
    [.positional (.list [.tuple [.constant (.int 38), .constant (.text [.char 'X'])]])]
  scanned := by decide +kernel
  closed := rfl
  spelled := by decide +kernel
  parsed := rfl
  no_null := by decide

def ampersandPhrase : Phrase where
  text := "'&'".toList
  tokens := [⟨.string, "'&'".toList, 0, 0⟩]
  lexemes := [.text [.char '&']]
  expr := .constant (.text [.char '&'])
  scanned := by decide +kernel
  closed := rfl
  spelled := by decide +kernel
  parsed := rfl
  no_null := by decide

def changing : List Element := [.output false changingPhrase, .output true ampersandPhrase]

theorem written_changing : Written changing where
  literals := by
    simp only [changing, AllLiteralsApart, LiteralsApart, isLiteral]
    decide
  expressions := by decide

theorem withinLimits_changing : WithinLimits changing :=
  ⟨by decide +kernel, by decide, by decide, by decide, rfl⟩

/-- A template that gets at the table of entities changes what is escaped. -/
theorem not_aloneAsInterpreted_changing : ¬ AloneAsInterpreted changing := by
  rintro ⟨ref, hkept, hall⟩
  have hgiven := hall .null
  obtain ⟨ref', v, hkept', hload, hholds⟩ := load_source (loadable_single .standard (Element.source changing))
    (by simp [alone]) rfl written_changing withinLimits_changing
  obtain rfl : reference = ref := Except.ok.inj hkept
  obtain rfl : reference = ref' := Except.ok.inj hkept'
  have hcall : givesText "NoneX".toList ((Script.Module.mk (loaded (MemoryStore.globals reference)
      "arg".toList (statements Phrase.value changing))).call (.function 0) [.null]) = true := by
    decide +kernel
  have hvalue : gives "None&amp;".toList (Element.render changing .null
      (loaded (MemoryStore.globals reference) "arg".toList [])) = true := by
    decide +kernel
  obtain ⟨id, s, hrun⟩ := exists_of_givesText hcall
  obtain ⟨u, hrender⟩ := render_of_call hholds hrun
  rw [exec_bind_ok hload, hrender] at hgiven
  change GivenAs _ (Element.render changing _ (loaded (MemoryStore.globals reference) _ _)) at hgiven
  generalize Element.render changing _ _ = o at hgiven hvalue
  cases hgiven with
  | text =>
    have hsame : "NoneX".toList = "None&amp;".toList := of_decide_eq_true hvalue
    exact absurd hsame (by decide)
  | exhausted => exact absurd hvalue Bool.false_ne_true

/-- The limits of the language and the names of the generated code cannot be left out. -/
theorem not_renders_as_interpreted :
    (Written (loops 21) ∧ Avoids ownNames (Element.allNames (loops 21)) ∧
      Avoids Generated.calledNames (allBound (loops 21)) ∧ ¬ AloneAsInterpreted (loops 21)) ∧
    Written changing ∧ WithinLimits changing ∧
      Avoids ["_buf".toList, "_escape".toList, "str".toList] (Element.allNames changing) ∧
      ¬ AloneAsInterpreted changing :=
  ⟨⟨written_loops 21, by unfold Avoids; decide +kernel, by unfold Avoids; decide +kernel,
      not_aloneAsInterpreted_loops⟩,
    written_changing, withinLimits_changing, by unfold Avoids; decide +kernel,
    not_aloneAsInterpreted_changing⟩

end Cache
end TemplateEngine
