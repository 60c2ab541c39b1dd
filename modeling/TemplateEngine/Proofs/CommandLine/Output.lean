import TemplateEngine.CommandLine.Run
import TemplateEngine.Proofs.Cache.Spared
import TemplateEngine.Proofs.Identity.Naming
import TemplateEngine.Proofs.Settings.Reading

set_option autoImplicit false

/-!
# What a failing command line leaves as it is

The output is written last. A run that fails before has written nothing but the file for the generated
module, where the settings give a directory for such modules, and what was printed meanwhile was printed by
the template. But the file for the output is opened before it is known whether what the template renders as
can be written: a string that is no text, or a value that is no string, leaves the file empty.
-/
namespace TemplateEngine.CommandLine

open TemplateEngine.Action

variable {a : Arguments} {s : Settings} {w v : Workspace} {input : Bytes} {f : Failure} {q : Place}

section

variable {α β : Type}

def Idle (x : Action α) : Prop := ∀ w : Workspace, (x.exec w).2 = w

theorem Idle.ofExcept {ε : Type} (g : ε → Failure) (r : Except ε α) : Idle (ofExcept g r) :=
  fun w => by rw [exec_ofExcept]

theorem Idle.bind {x : Action α} {g : α → Action β} (hx : Idle x) (hg : ∀ r, Idle (g r)) :
    Idle (x >>= g) := by
  intro w
  have hw := hx w
  rw [exec_bind]
  generalize x.exec w = p at hw
  obtain ⟨r, v⟩ := p
  obtain rfl : v = w := hw
  cases r with
  | ok r => exact hg r v
  | error e => rfl

theorem idle_read (path : Text) : Idle (Document.read path) :=
  fun w => Idle.bind (.ofExcept _ _) (fun _ => .ofExcept _ _) w

theorem idle_context (a : Arguments) (input : Bytes) : Idle (context a input) := by
  unfold context
  split
  · exact fun _ => rfl
  · exact fun _ => rfl
  · exact .ofExcept _ _
  · exact idle_read _

theorem idle_read_settings (path : Text) : Idle (Settings.read path) :=
  .bind (idle_read path) fun _ => .ofExcept _ _

theorem idle_settings (a : Arguments) : Idle (settings a) := by
  unfold settings
  split
  · exact .bind (fun _ => rfl) fun _ => .ofExcept _ _
  · exact .bind (idle_read_settings _) fun _ => .ofExcept _ _

theorem Idle.exec {x : Action α} (h : Idle x) (w : Workspace) : x.exec w = ((x.exec w).1, w) :=
  Prod.ext rfl (h w)

end

theorem ofData_eq_ok_iff {es : List (Data × Data)} (hes : (Settings.Raw.ofEntries es).options = []) :
    Settings.ofData (.dict es) = .ok s ↔ Settings.check (.ofEntries es) = .ok s := by
  have hfold : (Settings.Raw.ofEntries es).fold = .ok (.ofEntries es) := by rw [Settings.Raw.fold, if_pos hes]
  have hdata : Settings.ofData (.dict es) = (Settings.check (.ofEntries es)).mapError .issues :=
    Settings.ofRaw_of_fold hfold
  rw [hdata]
  cases Settings.check (.ofEntries es) <;> simp [Except.mapError]

/-- Only the template of the command line is loaded, and the directory is one that a text names. -/
theorem of_override {workArea : Option Text} {standard : Settings}
    (h : override workArea standard = .ok s) :
    s.sourceLocation = none ∧ ∀ p, s.workArea = some p → ∃ t, p = .ofText t := by
  obtain ⟨r, hr, hfind⟩ : ∃ r, Settings.check r = .ok s ∧
      Data.find? (.text "source_location".toList) r.others = some .null := by
    cases workArea with
    | none => exact ⟨_, (ofData_eq_ok_iff rfl).1 h, rfl⟩
    | some t => exact ⟨_, (ofData_eq_ok_iff rfl).1 h, rfl⟩
  obtain ⟨-, hwork, hsource, -⟩ := Settings.check_eq_ok_iff.1 hr
  rw [Settings.field?, hfind] at hsource
  refine ⟨?_, fun p hp => ?_⟩
  · generalize s.sourceLocation = location at hsource
    cases hsource
    rfl
  · rw [hp] at hwork
    cases hfield : Settings.field? r.others "work_area" with
    | none =>
      rw [hfield] at hwork
      cases hwork
    | some d =>
      rw [hfield] at hwork
      cases hwork with
      | text t => exact ⟨t, rfl⟩

theorem of_settings (h : ((settings a).exec w).1 = .ok s) :
    s.sourceLocation = none ∧ ∀ p, s.workArea = some p → ∃ t, p = .ofText t := by
  have hoverride : ∀ {x : Action Settings},
      ((x >>= fun s => Action.ofExcept .settings (override a.workArea.nonempty? s)).exec w).1 =
        .ok s → ∃ standard, override a.workArea.nonempty? standard = .ok s := by
    intro x hx
    rw [exec_bind] at hx
    split at hx
    · next standard v _ =>
      rw [exec_ofExcept] at hx
      cases ho : override a.workArea.nonempty? standard with
      | error e => simp [ho, Except.mapError] at hx
      | ok s' =>
        simp only [ho, Except.mapError, Except.ok.injEq] at hx
        exact ⟨standard, hx ▸ ho⟩
    · cases hx
  unfold settings at h
  split at h
  · obtain ⟨standard, ho⟩ := hoverride h
    exact of_override ho
  · obtain ⟨standard, ho⟩ := hoverride h
    exact of_override ho

/-- The place at which the code of the template is kept, in the directory for generated modules. -/
def IsModulePlace (a : Arguments) (w : Workspace) (workArea place : Place) : Prop :=
  ∃ s p location, ((settings a).exec w).1 = .ok s ∧ s.workArea = some p ∧
    Identity.placeOf w.here p = .ok workArea ∧
    Identity.placeOf w.here (.ofText a.template) = .ok location ∧
    place = Artifact.place workArea (Identity.ofPlace location)

/-- What stands at a place is what stood there, unless code of the template is kept there or below. -/
def KeptAt (a : Arguments) (q : Place) (w v : Workspace) : Prop :=
  v.files.node? q = w.files.node? q ∨ ∃ workArea place, IsModulePlace a w workArea place ∧
    (q = place ∨ q <+: workArea ∧ w.files.node? q = none ∧ v.files.node? q = some .directory)

theorem exec_createCache_of_store {store : Store}
    (h : (Store.create s.workArea).exec w = (.ok store, v)) (hh : v.here = w.here) :
    ∃ n u, (Page.createCache s).exec w = (.ok n, u) ∧ u.files = v.files ∧
      Cache.Sees w.here n store u := by
  refine ⟨v.caches.size, { v with caches := v.caches.push ⟨s.delimiters, store, .files, s.strict,
    {}, 0, 0⟩ }, ?_, rfl, hh, _, Array.getElem?_push_size, rfl⟩
  rw [Page.createCache, exec_bind_ok h]
  rfl

theorem exec_createCache (s : Settings) (w : Workspace) :
    (∃ e, (Page.createCache s).exec w = (.error e, w)) ∨
      ∃ n store v, (Page.createCache s).exec w = (.ok n, v) ∧ v.files = w.files ∧
        Cache.Sees w.here n store v ∧ ∀ workArea, store = .files workArea →
          ∃ p, s.workArea = some p ∧ Identity.placeOf w.here p = .ok workArea := by
  cases hp : s.workArea with
  | none =>
    have hstore : (Store.create s.workArea).exec w =
        (.ok (.memory w.memories.size), { w with memories := w.memories.push {} }) := by
      rw [hp]
      rfl
    obtain ⟨n, u, hu, hfiles, hsees⟩ := exec_createCache_of_store hstore rfl
    exact .inr ⟨n, _, u, hu, hfiles, hsees, fun _ h => by cases h⟩
  | some p =>
    have hstore : (Store.create s.workArea).exec w =
        (((Identity.placeOf w.here p).map .files).mapError .location, w) := by
      have hresolve : (Store.resolve p).exec w =
          ((Identity.placeOf w.here p).mapError .location, w) := exec_ofExcept _ _ _
      rw [hp, Store.create, exec_bind, hresolve]
      cases Identity.placeOf w.here p <;> rfl
    cases hplace : Identity.placeOf w.here p with
    | error e =>
      rw [hplace] at hstore
      exact .inl ⟨_, exec_bind_error hstore⟩
    | ok workArea =>
      rw [hplace] at hstore
      obtain ⟨n, u, hu, hfiles, hsees⟩ := exec_createCache_of_store hstore rfl
      refine .inr ⟨n, _, u, hu, hfiles, hsees, fun workArea' h => ⟨p, rfl, ?_⟩⟩
      rw [hplace, Store.files.inj h]

theorem render_eq (hs : s.sourceLocation = none) : render a s input = (do
    let n ← Page.createCache s
    let h ← Cache.load n (.ofText a.template)
    Cache.render n h.identity (← context a input)) := by
  simp only [render, Page.create, hs, Page.load, Page.render, bind_assoc, pure_bind]

theorem Idle.confined {α : Type} {x : Action α} {here : Place} {n : Nat} {store : Store}
    {identity : Text} (h : Idle x) : Cache.Confined here n store identity q x := by
  intro w hw
  rw [h w]
  exact ⟨hw, .refl _ _ _ _⟩

/-- Rendering writes nothing but the file for the code of the template. -/
theorem kept_render (hhere : w.here.Clean) (hs : ((settings a).exec w).1 = .ok s) :
    KeptAt a q w ((render a s input).exec w).2 := by
  obtain ⟨hsource, hpaths⟩ := of_settings hs
  rw [render_eq hsource]
  obtain ⟨e, he⟩ | ⟨n, store, v, hv, hfiles, hsees, harea⟩ := exec_createCache s w
  · rw [exec_bind_error he]
    exact .inl rfl
  rw [exec_bind_ok hv]
  cases hlocation : Identity.placeOf w.here (.ofText a.template) with
  | error e =>
    have hload : (Cache.load n (.ofText a.template)).exec v = (.error (.location e), v) :=
      Cache.exec_load_of_no_place (hsees.here ▸ hlocation)
    rw [exec_bind_error hload]
    exact .inl (congrArg (FileTree.node? · q) hfiles)
  | ok location =>
    have hclean : ∀ workArea, store = .files workArea → workArea.Clean := by
      intro workArea h
      obtain ⟨p, hp, hplace⟩ := harea workArea h
      obtain ⟨t, rfl⟩ := hpaths p hp
      exact Identity.clean_of_placeOf hhere hplace
    have hconfined : Cache.Confined w.here n store (Identity.ofPlace location) q (do
        let h ← Cache.load n (.ofText a.template)
        Cache.render n h.identity (← context a input)) :=
      .bind (Cache.confined_load hclean hlocation) fun h => .bind (idle_context a input).confined
        fun c => Cache.confined_render _ _
    have hspares := (hconfined v hsees).2
    rw [hfiles] at hspares
    cases store with
    | memory k => exact .inl hspares
    | files workArea =>
      obtain ⟨p, hp, hplace⟩ := harea workArea rfl
      have hmodule : IsModulePlace a w workArea
          (Artifact.place workArea (Identity.ofPlace location)) :=
        ⟨s, p, location, hs, hp, hplace, hlocation, rfl⟩
      by_cases hq : q = Artifact.place workArea (Identity.ofPlace location)
      · exact .inr ⟨workArea, _, hmodule, .inl hq⟩
      · exact (hspares hq).imp id fun hmade => ⟨workArea, _, hmodule, .inr hmade⟩

def perform (a : Arguments) (input : Bytes) : Action Report := do
  runWith a (← settings a) input

/-- The output is written: nothing failed. -/
def Finishes (a : Arguments) (input : Bytes) (w : Workspace) : Prop :=
  ∃ r, ((perform a input).exec w).1 = .ok r ∧ r.ending = .exit 0

def RendersAs (a : Arguments) (input : Bytes) (w : Workspace) (x : Script.Value) (v : Workspace) : Prop :=
  ∃ s heap, ((settings a).exec w).1 = .ok s ∧ (render a s input).exec w = (.ok (x, heap), v)

/-- What the template renders as cannot be written, and the file at a place has been opened for it. -/
def Empties (a : Arguments) (input : Bytes) (w : Workspace) (p : Place) : Prop :=
  ∃ x v f path t, RendersAs a input w x v ∧ output x = .error f ∧ a.output = .text path ∧
    path ≠ ['-'] ∧ v.files.locateText v.here path = .ok p ∧ v.files.writeText v.here path [] = .ok t

def deliver (a : Arguments) (x : Script.Value) : Action Report :=
  match a.output with
  | .text ['-'] => do
    return { ending := .exit 0, standardOutput := ← Action.ofExcept id (output x) }
  | .text path => do
    write path x
    return { ending := .exit 0 }
  | .blank | .unset => throw notText

theorem exec_perform (hs : ((settings a).exec w).1 = .ok s) :
    (perform a input).exec w = (runWith a s input).exec w := by
  have hsettings : (settings a).exec w = (.ok s, w) := by rw [(idle_settings a).exec, hs]
  rw [perform, exec_bind_ok hsettings]

theorem exec_perform_error (hs : ((settings a).exec w).1 = .ok s)
    (hr : (render a s input).exec w = (.error f, v)) : (perform a input).exec w =
      (if f.isHandled then .ok { ending := .exit 1, records := [record a f] } else .error f, v) := by
  have hattempt : (render a s input).attempt.exec w = (.ok (.error f), v) := by
    rw [exec_attempt, hr]
  rw [exec_perform hs, runWith, exec_bind_ok hattempt]
  dsimp only
  cases hf : f.isHandled <;> rfl

theorem exec_perform_ok {x : Script.Value} {heap : Script.Heap}
    (hs : ((settings a).exec w).1 = .ok s)
    (hr : (render a s input).exec w = (.ok (x, heap), v)) :
    (perform a input).exec w = (deliver a x).exec v := by
  have hattempt : (render a s input).attempt.exec w = (.ok (.ok (x, heap)), v) := by
    rw [exec_attempt, hr]
  rw [exec_perform hs, runWith, exec_bind_ok hattempt]
  rfl

/-- A file is written only if it can be opened, and is opened also for what cannot be written. -/
theorem exec_write (path : Text) (x : Script.Value) (w : Workspace) :
    (write path x).exec w =
      match w.files.writeText w.here path (content x) with
      | .ok t => ((output x).map fun _ => (), { w with files := t })
      | .error e => (.error (.file e), w) := by
  rw [write, exec_bind, exec_get]
  dsimp only
  rw [exec_bind, exec_changeFiles, FileTree.run_changing]
  cases w.files.writeText w.here path (content x) with
  | error e => rfl
  | ok t => cases output x <;> rfl

theorem eq_of_writeText {t u : FileTree} {here : Place} {path : Text} {content : Bytes}
    (h : t.writeText here path content = .ok u) :
    ∃ p, t.locateText here path = .ok p ∧ t.write p content = .ok u := by
  simp only [FileTree.writeText, bind, Except.bind] at h
  split at h
  · split at h <;> contradiction
  · split at h
    · contradiction
    · next p hp => exact ⟨p, hp, h⟩

theorem deliver_path {path : Text} (hpath : a.output = .text path) (hdash : path ≠ ['-'])
    (x : Script.Value) : deliver a x = (do
      write path x
      return { ending := .exit 0 }) := by
  unfold deliver
  split
  · next h => exact absurd (Setting.text.inj (hpath.symm.trans h)) hdash
  · next h =>
    obtain rfl := Setting.text.inj (hpath.symm.trans h)
    rfl
  · next h => cases hpath.symm.trans h
  · next h => cases hpath.symm.trans h

/-- What is delivered ends the run well, or fails and leaves everything as it was, but for a file that has
been opened for what cannot be written. -/
theorem exec_deliver (a : Arguments) (x : Script.Value) (w : Workspace) :
    (∃ r v, (deliver a x).exec w = (.ok r, v) ∧ r.ending = .exit 0) ∨
    (∃ f, (deliver a x).exec w = (.error f, w)) ∨
    ∃ f path t, output x = .error f ∧ a.output = .text path ∧ path ≠ ['-'] ∧
      w.files.writeText w.here path [] = .ok t ∧
      (deliver a x).exec w = (.error f, { w with files := t }) := by
  cases hout : a.output with
  | blank => exact .inr (.inl ⟨notText, by rw [deliver, hout]; rfl⟩)
  | unset => exact .inr (.inl ⟨notText, by rw [deliver, hout]; rfl⟩)
  | text path =>
    by_cases hdash : path = ['-']
    · rw [deliver, hout, hdash]
      cases output x with
      | ok t => exact .inl ⟨_, w, rfl, rfl⟩
      | error f => exact .inr (.inl ⟨f, rfl⟩)
    · have hwrite := exec_write path x w
      rw [deliver_path hout hdash]
      cases hfile : w.files.writeText w.here path (content x) with
      | error e =>
        rw [hfile] at hwrite
        exact .inr (.inl ⟨_, exec_bind_error hwrite⟩)
      | ok t =>
        rw [hfile] at hwrite
        cases hx : output x with
        | ok u =>
          rw [hx] at hwrite
          exact .inl ⟨_, _, exec_bind_ok hwrite, rfl⟩
        | error f =>
          rw [content, hx] at hfile
          rw [hx] at hwrite
          exact .inr (.inr ⟨f, path, t, rfl, rfl, hdash, hfile, exec_bind_error hwrite⟩)

theorem run_of_arguments {ts : List Text} (h : Arguments.ofTexts ts = .ok a) :
    run ts input w =
      match (perform a input).exec w with
      | (.ok r, v) => (r.behind v.printed, v)
      | (.error f, v) => (Report.behind { ending := .ofFailure f } v.printed, v) := by
  rw [run, h]
  rfl

theorem KeptAt.of_node? {u : Workspace} (h : KeptAt a q w v) (hq : u.files.node? q = v.files.node? q) :
    KeptAt a q w u := by
  unfold KeptAt at h ⊢
  rwa [hq]

/-- A run that does not finish has written no output, and has left the files as they were, but for one that
it has opened for what cannot be written. -/
theorem perform_unfinished (hhere : w.here.Clean) (h : ¬ Finishes a input w) :
    (∀ r, ((perform a input).exec w).1 = .ok r → r.standardOutput = []) ∧
      ∀ q, ¬ Empties a input w q → KeptAt a q w ((perform a input).exec w).2 := by
  cases hs : ((settings a).exec w).1 with
  | error f =>
    have hsettings : (settings a).exec w = (.error f, w) := by rw [(idle_settings a).exec, hs]
    rw [perform, exec_bind_error hsettings]
    exact And.intro (fun r hr => by cases hr) fun q _ => .inl rfl
  | ok s =>
    have hkept : ∀ q, KeptAt a q w ((render a s input).exec w).2 := fun q => kept_render hhere hs
    cases hrender : (render a s input).exec w with
    | mk r v =>
      rw [hrender] at hkept
      cases r with
      | error f =>
        rw [exec_perform_error hs hrender]
        refine ⟨fun r hr => ?_, fun q _ => hkept q⟩
        dsimp only at hr
        split at hr
        · rw [← Except.ok.inj hr]
        · cases hr
      | ok x =>
        obtain ⟨x, heap⟩ := x
        rw [Finishes, exec_perform_ok hs hrender] at h
        rw [exec_perform_ok hs hrender]
        obtain ⟨r, u, hr, hending⟩ | ⟨f, hf⟩ | ⟨f, path, t, hx, hout, hdash, ht, hf⟩ := exec_deliver a x v
        · exact absurd ⟨r, by rw [hr], hending⟩ h
        · rw [hf]
          exact And.intro (fun r hr => by cases hr) fun q _ => hkept q
        · rw [hf]
          refine And.intro (fun r hr => by cases hr) fun q hq => (hkept q).of_node? ?_
          obtain ⟨p, hp, hwrite⟩ := eq_of_writeText ht
          have hne : p ≠ q := by
            rintro rfl
            exact hq ⟨x, v, f, path, t, ⟨s, heap, hs, hrender⟩, hx, hout, hdash, hp, ht⟩
          exact (FileTree.node?_of_write hwrite q).trans (if_neg hne)

/-- What cannot be written is told by an exception that does not ask for the end of the program. -/
theorem ofFailure_of_output {x : Script.Value} (h : output x = .error f) : Ending.ofFailure f = .raised f := by
  unfold output at h
  split at h
  · split at h
    · cases h
    · obtain rfl := Except.error.inj h
      rfl
  · obtain rfl := Except.error.inj h
    rfl

/-- A file that has been opened for what cannot be written is empty, and the failure is not reported. -/
theorem perform_empties {p : Place} (h : Empties a input w p) :
    ∃ x v f, RendersAs a input w x v ∧ output x = .error f ∧
      ((perform a input).exec w).1 = .error f ∧
      ((perform a input).exec w).2.files.node? p = some (.file []) := by
  obtain ⟨x, v, f, path, t, hrenders, hx, hout, hdash, hp, ht⟩ := h
  have hwrite := exec_write path x v
  rw [content, hx] at hwrite
  dsimp only at hwrite
  rw [ht] at hwrite
  obtain ⟨s, heap, hs, hrender⟩ := hrenders
  obtain ⟨p', hp', hfile⟩ := eq_of_writeText ht
  obtain rfl : p' = p := Except.ok.inj (hp'.symm.trans hp)
  refine ⟨x, v, f, ⟨s, heap, hs, hrender⟩, hx, ?_⟩
  rw [exec_perform_ok hs hrender, deliver_path hout hdash, exec_bind_error hwrite]
  exact ⟨rfl, (FileTree.node?_of_write hfile p').trans (if_pos rfl)⟩

/-- A command line that does not end well has no output: there is only what the template has printed, and
what stood at a place stands there as before. But the file that the output should go to is opened before
it is known whether what was rendered can be written; if not, the file is empty and the exception comes out.
A failure to render is reported, unless its exception is one that asks for the end of the program. -/
theorem run_unfinished {ts : List Text} (hts : Arguments.ofTexts ts = .ok a)
    (hhere : w.here.Clean) (input : Bytes) :
    (¬ Finishes a input w →
      (run ts input w).1.standardOutput = (run ts input w).2.printed ∧
        ∀ q, ¬ Empties a input w q → KeptAt a q w (run ts input w).2) ∧
    (∀ p, Empties a input w p → (run ts input w).2.files.node? p = some (.file []) ∧
      ∃ x v f, RendersAs a input w x v ∧ output x = .error f ∧
        (run ts input w).1.ending = .raised f) ∧
    ∀ s f, ((settings a).exec w).1 = .ok s → ((render a s input).exec w).1 = .error f →
      (run ts input w).1 = Report.behind (if f.isHandled then { ending := .exit 1, records := [record a f] }
        else { ending := .ofFailure f }) (run ts input w).2.printed := by
  refine ⟨fun h => ?_, fun p hp => ?_, fun s f hs hf => ?_⟩
  · obtain ⟨houtput, hkept⟩ := perform_unfinished hhere h
    rw [run_of_arguments hts]
    cases hperform : (perform a input).exec w with
    | mk r v =>
      rw [hperform] at houtput hkept
      cases r with
      | ok r => exact ⟨by simp [Report.behind, houtput r rfl], hkept⟩
      | error f => exact ⟨by simp [Report.behind], hkept⟩
  · obtain ⟨x, v, f, hrenders, hx, hf, hp⟩ := perform_empties hp
    have hperform : (perform a input).exec w = (.error f, ((perform a input).exec w).2) := Prod.ext hf rfl
    rw [run_of_arguments hts, hperform]
    exact ⟨hp, x, v, f, hrenders, hx, ofFailure_of_output hx⟩
  · rw [run_of_arguments hts, exec_perform_error hs (Prod.ext hf rfl)]
    cases f.isHandled <;> rfl

theorem takeAll_value {o : Switch} (ho : o.hasValue = true) (n : Nat) (isShort : Bool) (t : Text)
    (items : List Item) (p : Progress) :
    takeAll (n + 1) (.option o isShort none :: .plain t :: items) p =
      takeAll n items (p.setValue o (.ofText t)) := by
  have hcluster : cluster o isShort none = .ok { last := some (o, none) } := by
    rw [cluster, if_pos ho]
  rw [takeAll, if_neg (by simp [Item.isOption]), hcluster]
  rfl

theorem ofTexts_of_takeAll {ts : List Text} (items : List Item) (hitems : Item.ofTexts ts = .ok items)
    (htake : takeAll (items.length + 1) items {} = .ok { arguments := a, hasTemplate := true }) :
    Arguments.ofTexts ts = .ok a := by
  have h : Arguments.ofTexts ts = (do
      let p ← takeAll (items.length + 1) items {}
      if !p.hasTemplate then throw (.refused .noTemplate)
      if p.extras ≠ [] then throw (.refused (.unrecognized p.extras.reverse))
      return p.arguments) := by
    rw [Arguments.ofTexts, hitems]
    rfl
  rw [h, htake]
  rfl

def toFile : Arguments := { template := ['t'], output := .text ['o'] }

/-- A template that renders as half of a surrogate pair, and a file where the output should go. -/
def halved : Workspace where
  files := ⟨⟨[([['t']], .file (Utf8.encode "<?-chr(55296)?>".toList)),
    ([['o']], .file (Utf8.encode "kept".toList))]⟩⟩

/-- Whether what was rendered cannot be written, and the file that stands there is opened for it. -/
def spoils : Except Failure (Script.Value × Script.Heap) × Workspace → Bool
  | (.ok (x, _), v) =>
    match output x, v.files.locateText v.here ['o'], v.files.writeText v.here ['o'] [] with
    | .error _, .ok p, .ok _ => p = [['o']]
    | _, _, _ => false
  | _ => false

theorem empties_of_spoils {s : Settings} (hs : ((settings toFile).exec w).1 = .ok s)
    (h : spoils ((render toFile s input).exec w) = true) : Empties toFile input w [['o']] := by
  cases hrender : (render toFile s input).exec w with
  | mk r v =>
    rw [hrender] at h
    unfold spoils at h
    split at h
    · next x heap u hr =>
      obtain ⟨rfl, rfl⟩ := Prod.mk.inj hr
      split at h
      · next f p t hx hp ht =>
        obtain rfl := of_decide_eq_true h
        exact ⟨x, v, f, ['o'], t, ⟨s, heap, hs, hrender⟩, hx, rfl, by decide, hp, ht⟩
      · cases h
    · cases h

/-- The file is empty behind a run that fails and says so only by its failure. -/
theorem run_unfinished_surrogate :
    halved.files.node? [['o']] = some (.file (Utf8.encode "kept".toList)) ∧
      (run [['t'], "-o".toList, ['o']] [] halved).2.files.node? [['o']] = some (.file []) ∧
      (run [['t'], "-o".toList, ['o']] [] halved).2.files.node? [['t']] = halved.files.node? [['t']] ∧
      (run [['t'], "-o".toList, ['o']] [] halved).1.standardOutput =
        (run [['t'], "-o".toList, ['o']] [] halved).2.printed ∧
      ∃ f, (run [['t'], "-o".toList, ['o']] [] halved).1.ending = .raised f := by
  have hts : Arguments.ofTexts [['t'], "-o".toList, ['o']] = .ok toFile :=
    ofTexts_of_takeAll [.plain ['t'], .option .output true none, .plain ['o']] (by decide)
      (takeAll_value rfl 2 true _ [] (Progress.takePlain ['t'] {}))
  have hsettings : ((settings toFile).exec halved).1 = .ok .standard := rfl
  have hempties : Empties toFile [] halved [['o']] := empties_of_spoils hsettings (by decide +kernel)
  obtain ⟨hnothing, hemptied, -⟩ := run_unfinished hts (w := halved)
    (show Place.Clean [] by simp [Place.Clean]) []
  have hunfinished : ¬ Finishes toFile [] halved := by
    rintro ⟨r, hr, -⟩
    obtain ⟨x, v, f, -, -, hf, -⟩ := perform_empties hempties
    cases hr.symm.trans hf
  obtain ⟨houtput, hkept⟩ := hnothing hunfinished
  obtain ⟨hnode, x, v, f, -, -, hending⟩ := hemptied _ hempties
  refine ⟨rfl, hnode, ?_, houtput, f, hending⟩
  have hother : ¬ Empties toFile [] halved [['t']] := by
    rintro ⟨x, v, f, path, t, -, -, hout, -, hp, -⟩
    obtain rfl := Setting.text.inj hout
    have hplace : [['t']] = (['o'] :: v.here.reverse).reverse := FileTree.eq_resolve_of_locateText hp
    exact absurd (congrArg List.getLast? hplace) (by simp)
  obtain hsame | ⟨workArea, place, ⟨s, p, location, hs, hp, -⟩, -⟩ := hkept _ hother
  · exact hsame
  · obtain rfl := Except.ok.inj (hsettings.symm.trans hs)
    cases hp

end TemplateEngine.CommandLine
