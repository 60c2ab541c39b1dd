import TemplateEngine.Proofs.CommandLine.Output
import TemplateEngine.Proofs.Workspace.Twins

set_option autoImplicit false

/-!
# Settings that a command line overrides

A command line takes its settings from a document, but for the template to load and, if it gives one, the
directory for generated modules. Writing settings out and checking them again changes nothing else. So the
template that a document names is of no account: it is neither loaded nor looked at, and two documents that
differ in nothing but that template make a command line do the same.
-/
namespace TemplateEngine

open TemplateEngine.Action

namespace CommandLine

variable {a : Arguments} {s : Settings} {w v : Workspace} {input : Bytes} {p : Place} {bs bs' : Bytes}
  {path : Text}

theorem checkDelimiters_toEntries (d : Delimiters) :
    Settings.checkDelimiters (some (.data (.dict d.toEntries))) = .ok d :=
  Delimiters.ofEntries_eq_ok_iff.2 ⟨rfl, rfl, rfl, d.lawful⟩

theorem meansPath_pathData {path? : Option Path} (h : ∀ q, path? = some q → Path.ofText q.toText = q) :
    Settings.MeansPath (Settings.pathData path?) path? := by
  cases path? with
  | none => exact .null
  | some q =>
    have htext := Settings.MeansPath.text q.toText
    rwa [h q rfl] at htext

theorem override_eq (h : ∀ q, s.workArea = some q → Path.ofText q.toText = q) (given : Option Text) :
    override given s = .ok { s with
      sourceLocation := none
      workArea := (given.map Path.ofText).or s.workArea } := by
  have hdelimiters := checkDelimiters_toEntries s.delimiters
  cases given with
  | none =>
    refine (ofData_eq_ok_iff rfl).2 (Settings.check_eq_ok_iff.2 ⟨hdelimiters, ?_, .null, .bool _⟩)
    exact meansPath_pathData h
  | some t =>
    exact (ofData_eq_ok_iff rfl).2 (Settings.check_eq_ok_iff.2 ⟨hdelimiters, .text t, .null, .bool _⟩)

/-- The directory of settings from a document is one that a text names. -/
theorem ofText_toText_of_ofDocument {d : Data} (h : Settings.ofDocument d = .ok s) :
    ∀ q, s.workArea = some q → Path.ofText q.toText = q := by
  intro q hq
  have hmisplaced : ¬ Settings.Misplaced d := by
    intro hmisplaced
    rw [Settings.ofDocument_of_misplaced hmisplaced] at h
    cases h
  obtain ⟨es, -, hdescribed⟩ := ((Settings.ofDocument_of_not_misplaced hmisplaced).1 s).1 h
  have hwork := hdescribed.workArea
  rw [hq] at hwork
  cases hfield : Settings.field? es "work_area" with
  | none =>
    rw [hfield] at hwork
    cases hwork
  | some d =>
    rw [hfield] at hwork
    cases hwork with
    | text t => exact Path.ofText_toText_of_isPlain fun n hn => Path.isPlain_of_mem_ofText hn

theorem override_sourceLocation (given : Option Text) (s : Settings) (location : Option Path) :
    override given { s with sourceLocation := location } = override given s := by
  cases given <;> rfl

theorem alikeIn_of_idle {α : Type} {x : Action α} (hx : Idle x) (hr : (x.exec v).1 = (x.exec w).1)
    (h : w.Twins p bs bs' v) : AlikeIn p bs bs' w v x := by
  rw [AlikeIn, hx w, hx v]
  exact ⟨hr, h⟩

theorem exec_read_congr (h : v.files.readText v.here path = w.files.readText w.here path) :
    ((Document.read path).exec v).1 = ((Document.read path).exec w).1 := by
  have hread : ∀ w : Workspace, ((Document.read path).exec w).1 =
      ((w.files.readText w.here path).mapError .file >>= fun bs => (Document.ofBytes bs).mapError id) := by
    intro w
    simp only [Document.read, exec_bind, exec_get, exec_ofExcept]
    cases w.files.readText w.here path <;> rfl
  rw [hread, hread, h]

theorem alikeIn_context (hcontext : ∀ t, a.context = .text t → t ≠ ['-'] → (Path.ofText t).resolve w.here ≠ p)
    (h : w.Twins p bs bs' v) : AlikeIn p bs bs' w v (context a input) := by
  refine alikeIn_of_idle (idle_context a input) ?_ h
  unfold context
  split
  · rfl
  · rfl
  · rw [exec_ofExcept, exec_ofExcept]
  · next t ht hc =>
    refine exec_read_congr ?_
    have hne : w.files.locateText w.here t ≠ .ok p := fun hl =>
      hcontext t hc (fun hdash => ht hdash) (FileTree.eq_resolve_of_locateText hl).symm
    have hhere : v.here = w.here := by rw [h.rest]
    rw [hhere, h.files.readText hne]

theorem exists_placeOf_of_load {n : Nat} {location : Path} {handle : Handle}
    (h : (Cache.load n location).exec w = (.ok handle, v)) :
    ∃ place, Identity.placeOf w.here location = .ok place := by
  cases hplace : Identity.placeOf w.here location with
  | ok place => exact ⟨place, rfl⟩
  | error e =>
    rw [Cache.exec_load_of_no_place hplace] at h
    cases h

theorem alikeIn_render (hs : ((settings a).exec w).1 = .ok s) (hhere : w.here.Clean)
    (htemplate : (Path.ofText a.template).resolve w.here ≠ p)
    (hcontext : ∀ t, a.context = .text t → t ≠ ['-'] → (Path.ofText t).resolve w.here ≠ p)
    (h : w.Twins p bs bs' v) : AlikeIn p bs bs' w v (render a s input) := by
  obtain ⟨hsource, hpaths⟩ := of_settings hs
  rw [render_eq hsource]
  have hcreate : Unaware p bs bs' (Page.createCache s) :=
    .bind (Store.unaware_create _) fun _ => .of_fileless fun _ _ => rfl
  refine (hcreate w v h).bind fun n w₁ v₁ hx h₁ => ?_
  obtain ⟨store, hsees, harea⟩ : ∃ store, Cache.Sees w.here n store w₁ ∧ ∀ workArea, store = .files workArea →
      ∃ q, s.workArea = some q ∧ Identity.placeOf w.here q = .ok workArea := by
    obtain ⟨e, he⟩ | ⟨n', store, w', hw', -, hsees, harea⟩ := exec_createCache s w
    · rw [he] at hx
      cases hx
    · rw [hw'] at hx
      obtain ⟨hn, rfl⟩ := Prod.mk.inj hx
      obtain rfl := Except.ok.inj hn
      exact ⟨store, hsees, harea⟩
  have hclean : ∀ workArea, store = .files workArea → workArea.Clean := by
    intro workArea harea'
    obtain ⟨q, hq, hplace⟩ := harea workArea harea'
    obtain ⟨t, rfl⟩ := hpaths q hq
    exact Identity.clean_of_placeOf hhere hplace
  refine (Cache.alikeIn_load hclean hhere htemplate hsees h₁).bind fun handle w₂ v₂ hx h₂ => ?_
  have hhere₂ : w₂.here = w.here := by
    obtain ⟨place, hplace⟩ := exists_placeOf_of_load hx
    have hsees₂ := (Cache.confined_load (q := []) hclean (hsees.here ▸ hplace) w₁ hsees).1
    rw [hx] at hsees₂
    exact hsees₂.here
  refine (alikeIn_context (hhere₂ ▸ hcontext) h₂).bind fun c w₃ v₃ _ h₃ => ?_
  exact Cache.unaware_render n handle.identity c w₃ v₃ h₃

theorem unaware_write (path : Text) (x : Script.Value) : Unaware p bs bs' (write path x) := by
  exact .get (fun w => .bind (.changeFiles (FileTree.unaware_changing fun t u h => h.writeText _ _ _))
    fun _ => .bind (.ofExcept _ _) fun _ => .pure _) fun w v h => by rw [h.rest]

theorem unaware_deliver (a : Arguments) (x : Script.Value) : Unaware p bs bs' (deliver a x) := by
  unfold deliver
  split
  · exact .bind (.ofExcept _ _) fun _ => .pure _
  · exact .bind (unaware_write _ _) fun _ => .pure _
  · exact .throw _
  · exact .throw _

def settingsPlace (path : Text) (w : Workspace) : Place := (Path.ofText path).resolve w.here

/-- Two workspaces that differ in nothing but the content of the file with the settings, and the settings in
it differ in nothing but the template that they name. The file is neither the template of the command line nor
the file with its context. -/
structure OtherLocation (a : Arguments) (path : Text) (w v : Workspace) : Prop where
  rest : v = { w with files := v.files }
  elsewhere : ∀ q, q ≠ settingsPlace path w → v.files.node? q = w.files.node? q
  settings : ∃ s location, ((Settings.read path).exec w).1 = .ok s ∧
    ((Settings.read path).exec v).1 = .ok { s with sourceLocation := location }
  template : (Path.ofText a.template).resolve w.here ≠ settingsPlace path w
  context : ∀ t, a.context = .text t → t ≠ ['-'] → (Path.ofText t).resolve w.here ≠ settingsPlace path w

theorem node?_of_read_settings (h : ((Settings.read path).exec w).1 = .ok s) :
    ∃ bs, w.files.node? (settingsPlace path w) = some (.file bs) := by
  have hread : ∃ d, ((Document.read path).exec w).1 = .ok d := by
    rw [Settings.read, exec_bind] at h
    cases hd : (Document.read path).exec w with
    | mk r v =>
      rw [hd] at h
      cases r with
      | error e => cases h
      | ok d => exact ⟨d, rfl⟩
  obtain ⟨d, hd⟩ := hread
  simp only [Document.read, exec_bind, exec_get, exec_ofExcept] at hd
  cases hfile : w.files.readText w.here path with
  | error e => simp [hfile, Except.mapError] at hd
  | ok bs =>
    rw [FileTree.readText] at hfile
    cases hl : w.files.locateText w.here path with
    | error e => simp [hl, bind, Except.bind] at hfile
    | ok q =>
      obtain rfl := FileTree.eq_resolve_of_locateText hl
      rw [hl] at hfile
      exact ⟨bs, FileTree.node?_of_read hfile⟩

theorem OtherLocation.twins (h : OtherLocation a path w v) : ∃ bs bs',
    w.files.node? (settingsPlace path w) = some (.file bs) ∧
      v.files.node? (settingsPlace path w) = some (.file bs') ∧
      w.Twins (settingsPlace path w) bs bs' v := by
  obtain ⟨s, location, hs, hs'⟩ := h.settings
  obtain ⟨bs, hbs⟩ := node?_of_read_settings hs
  obtain ⟨bs', hbs'⟩ := node?_of_read_settings hs'
  have hplace : settingsPlace path v = settingsPlace path w := by rw [settingsPlace, settingsPlace, h.rest]
  rw [hplace] at hbs'
  exact ⟨bs, bs', hbs, hbs', h.rest, h.elsewhere, .inr ⟨hbs, hbs'⟩⟩

theorem OtherLocation.exec_settings (h : OtherLocation a path w v) (hconfig : a.config.nonempty? = some path) :
    ((CommandLine.settings a).exec v).1 = ((CommandLine.settings a).exec w).1 := by
  obtain ⟨s, location, hs, hs'⟩ := h.settings
  have hread : (Settings.read path).exec w = (.ok s, w) := by rw [(idle_read_settings path).exec, hs]
  have hread' : (Settings.read path).exec v = (.ok { s with sourceLocation := location }, v) := by
    rw [(idle_read_settings path).exec, hs']
  rw [CommandLine.settings, hconfig, exec_bind_ok hread, exec_bind_ok hread']
  dsimp only
  rw [override_sourceLocation, exec_ofExcept, exec_ofExcept]

theorem OtherLocation.alikeIn_perform (h : OtherLocation a path w v) (hconfig : a.config.nonempty? = some path)
    (hhere : w.here.Clean) (ht : w.Twins (settingsPlace path w) bs bs' v) (input : Bytes) :
    AlikeIn (settingsPlace path w) bs bs' w v (perform a input) := by
  have hsettings := alikeIn_of_idle (idle_settings a) (h.exec_settings hconfig) ht
  refine hsettings.bind fun s w₁ v₁ hx h₁ => ?_
  obtain ⟨hs, rfl⟩ : ((CommandLine.settings a).exec w).1 = .ok s ∧ w = w₁ := by
    have hidle := (idle_settings a).exec w
    rw [hx] at hidle
    exact ⟨congrArg Prod.fst hx, (congrArg Prod.snd hidle).symm⟩
  have hrender : AlikeIn (settingsPlace path w) bs bs' w v₁ (render a s input) :=
    alikeIn_render hs hhere h.template h.context h₁
  refine hrender.attempt.bind fun r w₂ v₂ _ h₂ => ?_
  cases r with
  | ok x => exact unaware_deliver a x.1 w₂ v₂ h₂
  | error f =>
    dsimp only
    split
    · exact Unaware.throw _ w₂ v₂ h₂
    · exact Unaware.pure _ w₂ v₂ h₂

/-- Settings that a document gives are taken over by a command line as they are, but for the template to load
and, if the command line gives one that is not empty, the directory for generated modules. Therefore it is of
no account which template a document names: the command line reports the same, in every respect, and leaves
the same files. Only the document may be another one, and only if nothing has been written in its place. -/
theorem override_only :
    (∀ (d : Data) (s : Settings), Settings.ofDocument d = .ok s → ∀ given : Setting,
      override given.nonempty? s = .ok { s with
        sourceLocation := none
        workArea := (given.nonempty?.map Path.ofText).or s.workArea }) ∧
    ∀ (ts : List Text) (a : Arguments) (path : Text) (w v : Workspace), Arguments.ofTexts ts = .ok a →
      a.config.nonempty? = some path → w.here.Clean → OtherLocation a path w v → ∀ input : Bytes,
      (run ts input v).1 = (run ts input w).1 ∧ ∃ bs bs',
        w.files.node? (settingsPlace path w) = some (.file bs) ∧
        v.files.node? (settingsPlace path w) = some (.file bs') ∧
        (run ts input w).2.Twins (settingsPlace path w) bs bs' (run ts input v).2 := by
  refine ⟨fun d s hd given => override_eq (ofText_toText_of_ofDocument hd) _,
    fun ts a path w v hts hconfig hhere h input => ?_⟩
  obtain ⟨bs, bs', hbs, hbs', ht⟩ := h.twins
  obtain ⟨hr, h'⟩ := h.alikeIn_perform hconfig hhere ht input
  rw [run_of_arguments hts, run_of_arguments hts]
  cases hw : (perform a input).exec w with
  | mk r w' =>
    cases hv : (perform a input).exec v with
    | mk r' v' =>
      rw [hw, hv] at hr h'
      obtain rfl : r' = r := hr
      have hrest : v' = { w' with files := v'.files } := h'.rest
      have hprinted : v'.printed = w'.printed := by rw [hrest]
      cases r' with
      | ok report => exact ⟨congrArg report.behind hprinted, bs, bs', hbs, hbs', h'⟩
      | error f =>
        exact ⟨congrArg (Report.behind { ending := .ofFailure f }) hprinted, bs, bs', hbs, hbs', h'⟩

def naming (location : String) : Bytes :=
  Utf8.encode ("open_marker: '[['\nsource_location: ".toList ++ location.toList)

def namingEntries (location : String) : List (Data × Data) :=
  [(.text "open_marker".toList, .text "[[".toList), (.text "source_location".toList, .text location.toList)]

def isNaming (location : String) : Except Failure Data → Bool
  | .ok (.shared _ (.dict [(.text m, .text o), (.text l, .text t)])) =>
    m = Text.toStr "open_marker".toList && o = Text.toStr "[[".toList &&
      l = Text.toStr "source_location".toList && t = Text.toStr location.toList
  | _ => false

def bracketed (location : String) : Settings :=
  { Settings.standard with
    delimiters := { Delimiters.standard with
      openMarker := "[[".toList
      open_ne_nil := by decide
      open_ne_close := by decide }
    sourceLocation := some (.ofText location.toList) }

def AreNamed (location : String) : Prop :=
  ∀ n, Settings.ofDocument (.shared n (.dict (namingEntries location))) = .ok (bracketed location)

theorem ofDocument_of_isNaming {location : String} {x : Except Failure Data} (hnamed : AreNamed location)
    (h : isNaming location x = true) : ∃ d, x = .ok d ∧ Settings.ofDocument d = .ok (bracketed location) := by
  unfold isNaming at h
  split at h
  · next n m o l t =>
    simp only [Bool.and_eq_true, decide_eq_true_eq] at h
    obtain ⟨⟨⟨rfl, rfl⟩, rfl⟩, rfl⟩ := h
    exact ⟨_, rfl, hnamed n⟩
  · cases h

def withNaming (location : String) : Workspace where
  files := ⟨⟨[([['t']], .file (Utf8.encode "[[=2?>".toList)), ([['c']], .file (naming location))]⟩⟩

def byDocument : Arguments := { template := ['t'], config := .text ['c'], workArea := .text ['w'] }

theorem exec_read_naming {location : String} (hnamed : AreNamed location)
    (h : isNaming location (Document.ofBytes (naming location)) = true) :
    ((Settings.read ['c']).exec (withNaming location)).1 = .ok (bracketed location) := by
  obtain ⟨d, hd, hs⟩ := ofDocument_of_isNaming hnamed h
  have hfile : (withNaming location).files.readText [] ['c'] = .ok (naming location) := rfl
  rw [Settings.exec_read hfile hd, hs]

theorem otherLocation_naming : OtherLocation byDocument ['c'] (withNaming "gone") (withNaming "t") := by
  have hplace : settingsPlace ['c'] (withNaming "gone") = [['c']] := rfl
  refine ⟨rfl, fun q hq => ?_, ⟨bracketed "gone", some (.ofText "t".toList),
    exec_read_naming (fun _ => rfl) (by decide +kernel),
    exec_read_naming (fun _ => rfl) (by decide +kernel)⟩, by decide, nofun⟩
  rw [hplace] at hq
  simp [withNaming, FileTree.node?, Table.find?, Table.lookup, Ne.symm hq]

def byDocumentLine : List Text :=
  [['t'], "--config".toList, ['c'], "--work-area".toList, ['w']]

/-- The template that a document names is there in one workspace and is missing in the other. -/
theorem override_only_naming :
    (∃ d, Document.ofBytes (naming "gone") = .ok d ∧ Settings.ofDocument d = .ok (bracketed "gone")) ∧
      override (some ['w']) (bracketed "gone") = .ok { bracketed "gone" with
        sourceLocation := none
        workArea := some (.ofText ['w']) } ∧
      Arguments.ofTexts byDocumentLine = .ok byDocument ∧
      OtherLocation byDocument ['c'] (withNaming "gone") (withNaming "t") ∧
      (run byDocumentLine [] (withNaming "t")).1 = (run byDocumentLine [] (withNaming "gone")).1 ∧
      (run byDocumentLine [] (withNaming "gone")).1.standardOutput = ['2'] := by
  have hnaming : isNaming "gone" (Document.ofBytes (naming "gone")) = true := by decide +kernel
  obtain ⟨d, hd, hs⟩ := ofDocument_of_isNaming (fun _ => rfl) hnaming
  have hts : Arguments.ofTexts byDocumentLine = .ok byDocument := by
    refine ofTexts_of_takeAll [.plain ['t'], .option .config false none, .plain ['c'],
      .option .workArea false none, .plain ['w']] (by decide) ?_
    refine (takeAll_value rfl 4 false _ _ (Progress.takePlain ['t'] {})).trans ?_
    exact takeAll_value rfl 3 false _ [] _
  obtain ⟨hoverride, hrun⟩ := override_only
  have houtput : (run byDocumentLine [] (withNaming "gone")).1.standardOutput = ['2'] := by
    rw [run_of_arguments hts]
    decide +kernel
  exact ⟨⟨d, hd, hs⟩, hoverride d _ hs (.text ['w']), hts, otherLocation_naming,
    (hrun _ _ ['c'] _ _ hts rfl (show Place.Clean [] by simp [Place.Clean]) otherLocation_naming []).1,
    houtput⟩

end CommandLine
end TemplateEngine
