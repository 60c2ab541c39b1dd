import Mathlib.Data.List.Infix
import TemplateEngine.Proofs.Files.Directory
import TemplateEngine.Proofs.Store.Install

set_option autoImplicit false

/-!
# What a store has under a reference

Under the reference of an identity a store has code that it keeps, or none, and a module that is loaded,
or none. What each operation gives depends on these two only, and it changes them only under its own
reference: stores in memory and in files are the same in this.
-/
namespace TemplateEngine

open TemplateEngine.Action

namespace Artifact

theorem reference_injective {a b : Text} (h : reference a = reference b) : a = b := by
  simpa [reference] using h

theorem place_injective {workArea : Place} {a b : Text} (h : place workArea a = place workArea b) :
    a = b := by
  simpa [place] using h

theorem not_place_prefix (workArea : Place) (identity : Text) : ¬ place workArea identity <+: workArea := by
  intro h
  have hl := h.length_le
  simp only [place, List.length_append, List.length_singleton] at hl
  omega

theorem place_ne_nil (workArea : Place) (identity : Text) : place workArea identity ≠ [] := by
  simp [place]

theorem lastDot?_fileName (identity : Text) :
    Path.lastDot? (identity ++ suffix) = some (identity, "py".toList) := by
  induction identity with
  | nil => rfl
  | cons c t ih => rw [List.cons_append, Path.lastDot?, ih]

theorem key_path {workArea : Place} {identity : Text} (h : Identity.Plain identity) :
    key (path workArea identity) = (workArea.toText, identity) := by
  have hname : (path workArea identity).name = identity ++ suffix := by
    simp [path_eq h, Path.name, Place.toPath, place]
  have hparent : (path workArea identity).parent = workArea.toPath := by
    simp [path_eq h, Path.parent, Place.toPath, place]
  rw [key, hparent, Path.stem, hname, Path.stemOf, lastDot?_fileName]
  simp [h.ne_nil, Place.toText]

end Artifact

theorem Place.toText_injective {p q : Place} (hp : p.Clean) (hq : q.Clean)
    (h : p.toText = q.toText) : p = q := by
  have ht : p.toPath = q.toPath := by rw [← Path.ofText_toText hp, h, Path.ofText_toText hq]
  exact congrArg Path.names ht

structure MemoryStore.Has (n : Nat) (w : Workspace) (identity : Text) (code? : Option Text)
    (number? : Option Nat) : Prop where
  store : ∃ m, w.memories[n]? = some m ∧ m.sources.find? (Artifact.reference identity) = code? ∧
    m.loaded.find? (Artifact.reference identity) = number?

/-- What a store in files has under the reference of an identity. If it keeps any code its directory
exists; if not, it can be made. -/
structure FileStore.Has (workArea : Place) (w : Workspace) (identity : Text) (code? : Option Text)
    (number? : Option Nat) : Prop where
  clear : w.files.Clear workArea
  reaches : code? ≠ none → w.files.Reaches workArea
  kept : w.files.node? (Artifact.place workArea identity) =
    code?.map fun code => .file (Utf8.encode code)
  loaded : w.imported.find? (Artifact.key (Artifact.path workArea identity)) = number?

/-- The file of an identity can be one of the work area: no name is too long, nor is the path. -/
structure FileStore.Takes (workArea : Place) (identity : Text) : Prop where
  clean : workArea.Clean
  plain : Identity.Plain identity
  usable : ∀ name ∈ Artifact.place workArea identity, FileTree.Usable name
  path : FileTree.checkText (Artifact.place workArea identity).toText = .ok ()

theorem FileStore.Takes.not_mem_place {workArea : Place} {identity : Text}
    (ht : FileStore.Takes workArea identity) :
    '\x00' ∉ (Artifact.place workArea identity).toText := by
  intro hc
  have hpath := ht.path
  rw [FileTree.checkText, if_pos (List.contains_iff_mem.2 hc)] at hpath
  contradiction

namespace Store

def refOf : Store → Text → Text
  | memory _, identity => Artifact.reference identity
  | files workArea, identity => (Artifact.path workArea identity).toText

def absence : Store → LoadCause
  | memory _ => .nothingKept
  | files _ => .file .missing

def Has : Store → Workspace → Text → Option Text → Option Nat → Prop
  | memory n => MemoryStore.Has n
  | files workArea => FileStore.Has workArea

def Takes : Store → Text → Prop
  | memory _, identity => Identity.Plain identity ∧ '\x00' ∉ identity
  | files workArea, identity => FileStore.Takes workArea identity

/-- Nothing is in one place for both stores. Directories may be in common, but the one store's work area
is not the other's, nor below a file that the other one may write. -/
def Apart : Store → Store → Prop
  | memory n, memory m => n ≠ m
  | files a, files b => a ≠ b ∧ ∀ identity, ¬ Artifact.place a identity <+: b ∧
      ¬ Artifact.place b identity <+: a
  | _, _ => True

def ApartAt (s : Store) (identity : Text) (s' : Store) (identity' : Text) : Prop :=
  match s, s' with
  | memory n, memory m => n ≠ m ∨ identity ≠ identity'
  | files a, files b =>
    Artifact.key (Artifact.path a identity) ≠ Artifact.key (Artifact.path b identity') ∧
    Artifact.place a identity ≠ Artifact.place b identity' ∧
    ¬ Artifact.place a identity <+: b ∧ ¬ Artifact.place b identity' <+: a
  | _, _ => True

variable {s s' : Store} {identity identity' code : Text} {code? : Option Text} {number? : Option Nat}
  {w v : Workspace}

theorem Takes.plain (h : s.Takes identity) : Identity.Plain identity := by
  cases s with
  | memory n => exact h.1
  | files workArea => exact FileStore.Takes.plain h

theorem Apart.symm (h : s.Apart s') : s'.Apart s := by
  cases s <;> cases s'
  · exact Ne.symm h
  · trivial
  · trivial
  · exact ⟨Ne.symm h.1, fun identity => (h.2 identity).symm⟩

theorem Apart.at (h : s.Apart s') (hs : s.Takes identity) (hs' : s'.Takes identity') :
    s.ApartAt identity s' identity' := by
  cases s with
  | memory n =>
    cases s' with
    | memory m => exact .inl h
    | files b => trivial
  | files a =>
    cases s' with
    | memory m => trivial
    | files b =>
      obtain ⟨hne, hbelow⟩ := h
      refine ⟨fun hk => hne ?_, fun hp => hne ?_, (hbelow _).1, (hbelow _).2⟩
      · rw [Artifact.key_path hs.plain, Artifact.key_path hs'.plain] at hk
        exact Place.toText_injective hs.clean hs'.clean (congrArg Prod.fst hk)
      · exact (List.append_inj' hp rfl).1

theorem apartAt_of_ne (hne : identity ≠ identity') (hs : s.Takes identity)
    (hs' : s.Takes identity') : s.ApartAt identity s identity' := by
  cases s with
  | memory n => exact .inr hne
  | files a =>
    refine ⟨fun hk => hne ?_, fun hp => hne (Artifact.place_injective hp),
      Artifact.not_place_prefix _ _, Artifact.not_place_prefix _ _⟩
    rw [Artifact.key_path hs.plain, Artifact.key_path hs'.plain] at hk
    exact congrArg Prod.snd hk

def Elsewhere (s : Store) (identity : Text) (w v : Workspace) : Prop :=
  ∀ (s' : Store) (identity' : Text) (code? : Option Text) (number? : Option Nat),
    s.ApartAt identity s' identity' → s'.Has w identity' code? number? →
    s'.Has v identity' code? number?

/-- Only what the store has under the reference of an identity changes, to this code and module. -/
structure Leaves (s : Store) (identity : Text) (w v : Workspace) (code? : Option Text)
    (number? : Option Nat) : Prop where
  has : s.Has v identity code? number?
  elsewhere : s.Elsewhere identity w v
  modules : v.modules = w.modules
  printed : v.printed = w.printed

end Store

namespace MemoryStore

variable {n k : Nat} {identity code : Text} {code? : Option Text} {number? : Option Nat}
  {w : Workspace}

theorem leaves_change {f : MemoryStore → MemoryStore} {code?' : Option Text} {number?' : Option Nat}
    (h : Has n w identity code? number?) (listings : Table Text Text)
    (hown : ∀ m, m.sources.find? (Artifact.reference identity) = code? →
      m.loaded.find? (Artifact.reference identity) = number? →
      (f m).sources.find? (Artifact.reference identity) = code?' ∧
        (f m).loaded.find? (Artifact.reference identity) = number?')
    (hother : ∀ m ref, Artifact.reference identity ≠ ref →
      (f m).sources.find? ref = m.sources.find? ref ∧ (f m).loaded.find? ref = m.loaded.find? ref) :
    (Store.memory n).Leaves identity w
      { w with memories := w.memories.modify n f, listings := listings } code?' number?' := by
  refine ⟨⟨?_⟩, ?_, rfl, rfl⟩
  · obtain ⟨m, hm, hs, hl⟩ := h.store
    exact ⟨f m, by simp [Array.getElem?_modify, hm], hown m hs hl⟩
  · intro s' identity' _ _ hapart h'
    cases s' with
    | memory m =>
      obtain ⟨store, hm, hs, hl⟩ := h'.store
      by_cases hn : n = m
      · subst hn
        have hne : Artifact.reference identity ≠ Artifact.reference identity' := fun hr =>
          hapart.elim (· rfl) (· (Artifact.reference_injective hr))
        obtain ⟨hfs, hfl⟩ := hother store _ hne
        exact ⟨f store, by simp [Array.getElem?_modify, hm], hfs.trans hs, hfl.trans hl⟩
      · exact ⟨store, by simp [Array.getElem?_modify, hn, hm], hs, hl⟩
    | files b => exact ⟨h'.clear, h'.reaches, h'.kept, h'.loaded⟩

theorem exec_get_of_has (h : Has n w identity code? number?) : ∃ m, (MemoryStore.get n).exec w = (.ok m, w) ∧
    m.sources.find? (Artifact.reference identity) = code? ∧
    m.loaded.find? (Artifact.reference identity) = number? := by
  obtain ⟨m, hm, hs, hl⟩ := h.store
  exact ⟨m, MemoryStore.exec_get hm, hs, hl⟩

end MemoryStore

namespace FileStore

variable {workArea : Place} {identity code : Text} {code? : Option Text} {number? : Option Nat}
  {w v : Workspace}

theorem elsewhere_change {t : FileTree} {imported : Table ModuleKey Nat}
    (hfiles : ∀ q, Artifact.place workArea identity ≠ q → t.node? q = w.files.node? q ∨
      (q <+: workArea ∧ t.node? q = some .directory))
    (himported : ∀ k, Artifact.key (Artifact.path workArea identity) ≠ k →
      imported.find? k = w.imported.find? k) :
    (Store.files workArea).Elsewhere identity w { w with files := t, imported := imported } := by
  intro s' identity' code? number? hapart h
  cases s' with
  | memory m => exact ⟨h.store⟩
  | files b =>
    obtain ⟨hkey, hplace, hbelow, habove⟩ := hapart
    -- the file is not on the way to the other work area, where only directories may have been made
    have hway : ∀ q, q <+: b → t.node? q = w.files.node? q ∨ t.node? q = some .directory := by
      intro q hq
      exact (hfiles q fun he => hbelow (he ▸ hq)).imp_right And.right
    refine ⟨fun q hq => ?_, fun hc q hq => ?_, ?_, (himported _ hkey).trans h.loaded⟩
    · obtain hsame | hd := hway q hq
      · exact hsame ▸ h.clear q hq
      · exact .inr hd
    · obtain hsame | hd := hway q hq
      · exact hsame.trans (h.reaches hc q hq)
      · exact hd
    · obtain hsame | ⟨hq, -⟩ := hfiles _ hplace
      · exact hsame.trans h.kept
      · exact absurd hq habove

theorem exec_prepare (ht : Takes workArea identity) (h : w.files.Clear workArea) :
    ∃ t, (prepare workArea).exec w = (.ok (), { w with files := t }) ∧ t.Reaches workArea ∧
      ∀ q, ¬ q <+: workArea → t.node? q = w.files.node? q := by
  have hrun : (prepare workArea).exec w = (if (w.files.stat workArea).isOk then pure ()
      else changeFiles (FileTree.ensureDirectory workArea) : Action Unit).exec w := by
    rw [prepare, exec_bind, Action.exec_get]
  rw [hrun]
  obtain ⟨hs, -⟩ | ⟨hs, hr⟩ := FileTree.stat_clear h
  · obtain ⟨t, ht, hreaches, hsame⟩ := FileTree.ensureDirectory_clear
      (fun n hn => ht.usable n (List.mem_append_left _ hn)) h
    refine ⟨t, ?_, hreaches, hsame⟩
    rw [hs, if_neg (by simp [Except.isOk, Except.toBool]), exec_changeFiles, ht]
    rfl
  · refine ⟨w.files, ?_, hr, fun q _ => rfl⟩
    rw [hs]
    rfl

theorem exec_locate (ht : Takes workArea identity) (h : w.files.Reaches workArea) :
    (locate (Artifact.path workArea identity)).exec w =
      (.ok (Artifact.place workArea identity), w) := by
  have hl := FileTree.locate_reaches w.here ht.usable ht.path h
  rw [locate, exec_bind, Action.exec_get]
  dsimp only
  rw [exec_ofExcept, Artifact.path_eq ht.plain]
  exact congrArg (fun r => (Except.mapError Failure.file r, w)) hl

theorem exec_persist (ht : Takes workArea identity) (h : Has workArea w identity code? number?)
    (code : Text) : ∃ t, (persist workArea identity code).exec w =
        (.ok (Artifact.path workArea identity).toText, { w with files := t }) ∧
      t.Reaches workArea ∧
      t.node? (Artifact.place workArea identity) = some (.file (Utf8.encode code)) ∧
      ∀ q, Artifact.place workArea identity ≠ q → ¬ q <+: workArea →
        t.node? q = w.files.node? q := by
  obtain ⟨t, hprepare, hreaches, hsame⟩ := exec_prepare ht h.clear
  have hlong := Artifact.not_place_prefix workArea identity
  have hne := Artifact.place_ne_nil workArea identity
  have hnode : t.node? (Artifact.place workArea identity) ≠ some .directory := by
    rw [hsame _ hlong, h.kept]
    cases code? <;> simp
  have hwrite := FileTree.write_concat hreaches hnode (Utf8.encode code)
  refine ⟨⟨t.nodes.insert (Artifact.place workArea identity) (.file (Utf8.encode code))⟩, ?_,
    fun q hq => ?_, ?_, fun q hq hq' => ?_⟩
  · have hlocate := exec_locate (w := { w with files := t }) ht hreaches
    rw [persist, exec_bind_ok hprepare, exec_bind_ok hlocate, exec_bind, exec_changeFiles,
      FileTree.run_changing]
    dsimp only
    rw [Artifact.place, hwrite]
    rfl
  · have hq' : Artifact.place workArea identity ≠ q := fun he => hlong (he ▸ hq)
    rw [FileTree.node?_insert hne, if_neg hq']
    exact hreaches q hq
  · rw [FileTree.node?_insert hne, if_pos rfl]
  · rw [FileTree.node?_insert hne, if_neg hq]
    exact hsame q hq'

theorem bytes_missing (ht : Takes workArea identity) (h : Has workArea w identity none number?) :
    Source.bytes w.files w.here (Artifact.path workArea identity) = .error .missing := by
  have hstat := FileTree.stat_missing h.clear h.kept
  rw [Source.bytes, Artifact.path_eq ht.plain]
  obtain ⟨hl, -⟩ | hl := FileTree.locate_concat w.here ht.usable ht.path h.clear
  · simp only [Artifact.place, hl]
    rfl
  · simp only [Artifact.place, hl]
    simp only [bind, Except.bind, FileTree.read, hstat]

theorem bytes_kept (ht : Takes workArea identity)
    (h : Has workArea w identity (some code) number?) :
    Source.bytes w.files w.here (Artifact.path workArea identity) = .ok (Utf8.encode code) := by
  have hreaches := h.reaches (by simp)
  have hstat := FileTree.stat_concat hreaches h.kept
  have hl := FileTree.locate_reaches w.here ht.usable ht.path hreaches
  rw [Source.bytes, Artifact.path_eq ht.plain]
  simp only [Artifact.place, hl]
  simp only [bind, Except.bind, FileTree.read, hstat]

/-- The module is forgotten first, and then the file is deleted. -/
theorem exec_remove_eq (path : Path) (w : Workspace) : (remove path).exec w =
    (match (do w.files.delete (← w.files.locate w.here path) : Except FileError FileTree) with
      | .ok t => set ({ w with
          files := t
          imported := w.imported.erase (Artifact.key path) } : Workspace)
      | .error .missing => pure ()
      | .error e => throw (.file e) : Action Unit).exec { w with
        imported := w.imported.erase (Artifact.key path) } := rfl

theorem exec_remove (ht : Takes workArea identity) (h : Has workArea w identity code? number?) :
    ∃ t, (remove (Artifact.path workArea identity)).exec w =
        (.ok (), { w with
          files := t
          imported := w.imported.erase (Artifact.key (Artifact.path workArea identity)) }) ∧
      t.node? (Artifact.place workArea identity) = none ∧
      ∀ q, Artifact.place workArea identity ≠ q → t.node? q = w.files.node? q := by
  rw [exec_remove_eq]
  cases code? with
  | none =>
    have hdelete := FileTree.delete_missing h.clear h.kept
    have hmissing : (do w.files.delete (← w.files.locate w.here (Artifact.path workArea identity)) :
        Except FileError FileTree) = .error .missing := by
      rw [Artifact.path_eq ht.plain]
      obtain ⟨hl, -⟩ | hl := FileTree.locate_concat w.here ht.usable ht.path h.clear
      · simp only [Artifact.place, hl]
        rfl
      · simp only [Artifact.place, hl]
        exact hdelete
    rw [hmissing]
    exact ⟨w.files, rfl, h.kept, fun q _ => rfl⟩
  | some code =>
    have hreaches := h.reaches (by simp)
    have hne := Artifact.place_ne_nil workArea identity
    have hdelete := FileTree.delete_concat hreaches h.kept
    have hl := FileTree.locate_reaches w.here ht.usable ht.path hreaches
    have hok : (do w.files.delete (← w.files.locate w.here (Artifact.path workArea identity)) :
        Except FileError FileTree) = .ok ⟨w.files.nodes.erase (Artifact.place workArea identity)⟩ := by
      rw [Artifact.path_eq ht.plain]
      simp only [Artifact.place, hl]
      exact hdelete
    rw [hok]
    refine ⟨_, rfl, ?_, fun q hq => ?_⟩
    · rw [FileTree.node?_erase hne, if_pos rfl]
    · rw [FileTree.node?_erase hne, if_neg hq]

end FileStore

namespace Store

variable {s : Store} {identity code : Text} {code? : Option Text} {number? : Option Nat} {k : Nat}
  {w v : Workspace}

theorem ofText_refOf {workArea : Place} (ht : FileStore.Takes workArea identity) :
    Path.ofText ((files workArea).refOf identity) = Artifact.path workArea identity :=
  Artifact.ofText_toText_path identity ht.clean

theorem persist_leaves (ht : s.Takes identity) (h : s.Has w identity code? number?) (code : Text) :
    ∃ v, (s.persist identity code).exec w = (.ok (s.refOf identity), v) ∧
      s.Leaves identity w v (some code) number? := by
  cases s with
  | memory n =>
    refine ⟨_, MemoryStore.exec_persist n identity code w, ?_⟩
    refine MemoryStore.leaves_change
      (f := fun m => { m with sources := m.sources.insert (Artifact.reference identity) code }) h _
      (fun m _ hl => ⟨?_, hl⟩) fun m ref hne => ⟨?_, rfl⟩
    · exact (Table.find?_insert ..).trans (if_pos rfl)
    · exact (Table.find?_insert ..).trans (if_neg hne)
  | files workArea =>
    obtain ⟨t, hexec, hreaches, hnode, hsame⟩ := FileStore.exec_persist ht h code
    refine ⟨_, hexec, ⟨⟨hreaches.clear, fun _ => hreaches, hnode, h.loaded⟩, ?_, rfl, rfl⟩⟩
    refine FileStore.elsewhere_change (fun q hq => ?_) fun _ _ => rfl
    by_cases hw : q <+: workArea
    · exact .inr ⟨hw, hreaches q hw⟩
    · exact .inl (hsame q hq hw)

theorem unload_leaves (ht : s.Takes identity) (h : s.Has w identity code? number?) :
    ∃ v, (s.unload (s.refOf identity)).exec w = (.ok (), v) ∧
      s.Leaves identity w v code? none := by
  refine ⟨_, exec_unload s (s.refOf identity) w, ?_⟩
  cases s with
  | memory n =>
    refine MemoryStore.leaves_change
      (f := fun m => { m with loaded := m.loaded.erase (Artifact.reference identity) }) h w.listings
      (fun m hs _ => ⟨hs, ?_⟩) fun m ref hne => ⟨rfl, ?_⟩
    · exact (Table.find?_erase ..).trans (if_pos rfl)
    · exact (Table.find?_erase ..).trans (if_neg hne)
  | files workArea =>
    simp only [forget, ofText_refOf ht]
    refine ⟨⟨h.clear, h.reaches, h.kept, ?_⟩, ?_, rfl, rfl⟩
    · exact (Table.find?_erase ..).trans (if_pos rfl)
    · refine FileStore.elsewhere_change (fun q _ => .inl rfl) fun k hne => ?_
      exact (Table.find?_erase ..).trans (if_neg hne)

theorem remove_leaves (ht : s.Takes identity) (h : s.Has w identity code? number?) :
    ∃ v, (s.remove (s.refOf identity)).exec w = (.ok (), v) ∧
      s.Leaves identity w v none none := by
  cases s with
  | memory n =>
    have hexec : ((memory n).remove (Artifact.reference identity)).exec w = (.ok (), { w with
        memories := (w.memories.modify n fun m =>
          { m with loaded := m.loaded.erase (Artifact.reference identity) }).modify n fun m =>
            { m with sources := m.sources.erase (Artifact.reference identity) }
        listings := w.listings.erase (Artifact.reference identity) }) := rfl
    have htwice : ((w.memories.modify n fun m =>
        { m with loaded := m.loaded.erase (Artifact.reference identity) }).modify n fun m =>
          { m with sources := m.sources.erase (Artifact.reference identity) }) =
        w.memories.modify n fun m => ⟨m.sources.erase (Artifact.reference identity),
          m.loaded.erase (Artifact.reference identity)⟩ := by
      refine Array.ext_getElem? fun i => ?_
      by_cases hi : n = i <;> simp [Array.getElem?_modify, hi, Function.comp_def]
    rw [htwice] at hexec
    refine ⟨_, hexec, MemoryStore.leaves_change h _ (fun m _ _ => ⟨?_, ?_⟩) fun m ref hne => ⟨?_, ?_⟩⟩
    iterate 2 exact (Table.find?_erase ..).trans (if_pos rfl)
    iterate 2 exact (Table.find?_erase ..).trans (if_neg hne)
  | files workArea =>
    obtain ⟨t, hexec, hnode, hsame⟩ := FileStore.exec_remove ht h
    have hclear : t.Clear workArea := by
      intro q hq
      rw [hsame q fun he => Artifact.not_place_prefix workArea identity (he ▸ hq)]
      exact h.clear q hq
    rw [remove, ofText_refOf ht]
    refine ⟨_, hexec, ⟨⟨hclear, by simp, hnode, ?_⟩, ?_, rfl, rfl⟩⟩
    · exact (Table.find?_erase ..).trans (if_pos rfl)
    · refine FileStore.elsewhere_change (fun q hq => .inl (hsame q hq)) fun k hne => ?_
      exact (Table.find?_erase ..).trans (if_neg hne)

theorem register_leaves (ht : s.Takes identity) (h : s.Has w identity code? number?) (k : Nat) :
    ∃ v, (s.register (s.refOf identity) k).exec w = (.ok (), v) ∧
      s.Leaves identity w v code? (some k) := by
  cases s with
  | memory n =>
    refine ⟨_, rfl, ?_⟩
    refine MemoryStore.leaves_change
      (f := fun m => { m with loaded := m.loaded.insert (Artifact.reference identity) k }) h
      w.listings (fun m hs _ => ⟨hs, ?_⟩) fun m ref hne => ⟨rfl, ?_⟩
    · exact (Table.find?_insert ..).trans (if_pos rfl)
    · exact (Table.find?_insert ..).trans (if_neg hne)
  | files workArea =>
    refine ⟨_, rfl, ?_⟩
    rw [ofText_refOf ht]
    refine ⟨⟨h.clear, h.reaches, h.kept, ?_⟩, ?_, rfl, rfl⟩
    · exact (Table.find?_insert ..).trans (if_pos rfl)
    · refine FileStore.elsewhere_change (fun q _ => .inl rfl) fun k hne => ?_
      exact (Table.find?_insert ..).trans (if_neg hne)

theorem load_loaded (ht : s.Takes identity) (h : s.Has w identity code? (some k)) :
    (s.load (s.refOf identity)).exec w = (runnable (s.refOf identity) k).exec w := by
  cases s with
  | memory n =>
    obtain ⟨m, hm, -, hl⟩ := MemoryStore.exec_get_of_has h
    rw [load, refOf, MemoryStore.load, exec_bind_ok hm]
    simp only [hl]
  | files workArea =>
    rw [load, ofText_refOf ht, FileStore.load, exec_bind, exec_get]
    simp only [h.loaded]
    rfl

theorem load_absent (ht : s.Takes identity) (h : s.Has w identity none none) :
    (s.load (s.refOf identity)).exec w =
      (.error (.load ⟨s.refOf identity, s.absence⟩), w) := by
  cases s with
  | memory n =>
    obtain ⟨m, hm, hs, hl⟩ := MemoryStore.exec_get_of_has h
    rw [load, refOf, MemoryStore.load, exec_bind_ok hm]
    simp only [hl, hs]
    rfl
  | files workArea =>
    have hcode : (FileStore.code (Artifact.path workArea identity)).exec w =
        (.error (.load ⟨(files workArea).refOf identity, (files workArea).absence⟩), w) := by
      rw [FileStore.code, exec_bind, exec_get]
      simp only [FileStore.bytes_missing ht h, exec_bind, exec_ofExcept, Except.mapError]
      rfl
    rw [load, ofText_refOf ht, FileStore.load, exec_bind, exec_get]
    simp only [h.loaded, Artifact.isExtensionPath_path,
      Artifact.isModulePath_path, Bool.not_true, Bool.false_eq_true, if_false]
    exact exec_bind_error hcode

theorem load_kept (ht : s.Takes identity) (h : s.Has w identity (some code) none) :
    (s.load (s.refOf identity)).exec w =
      (s.instantiate (s.refOf identity) code).exec w := by
  cases s with
  | memory n =>
    obtain ⟨m, hm, hs, hl⟩ := h.store
    exact MemoryStore.exec_load_of_kept hm hl hs
  | files workArea =>
    rw [load, ofText_refOf ht]
    exact FileStore.exec_load_of_kept ht.clean h.loaded (FileStore.bytes_kept ht h)

theorem Takes.not_mem_refOf (ht : s.Takes identity) : '\x00' ∉ s.refOf identity := by
  cases s with
  | memory n => exact Artifact.not_mem_reference ht.2
  | files workArea =>
    rw [refOf, Artifact.path_eq ht.plain]
    exact fun hc => ht.not_mem_place hc

theorem instantiate_fault (ht : s.Takes identity) {f : Script.LoadFault}
    (hf : Script.Module.load (s.globals (s.refOf identity)) code = .error f)
    (hordinary : f.abandoned? = none) (w : Workspace) :
    (s.instantiate (s.refOf identity) code).exec w =
      (.error (Failure.ofFault (s.refOf identity) f), w) := by
  obtain ⟨v, hv, hsame⟩ := exec_execute_fault ht.not_mem_refOf hf w
  rw [instantiate, exec_bind_error hv, hsame hordinary]

theorem instantiate_leaves (ht : s.Takes identity) (h : s.Has w identity code? number?)
    {m : Script.Module} (hm : Script.Module.load (s.globals (s.refOf identity)) code = .ok m) :
    ∃ v, (s.instantiate (s.refOf identity) code).exec w =
        (runnable (s.refOf identity) w.modules.size).exec v ∧
      s.Leaves identity { w with modules := w.modules.push m } v code? (some w.modules.size) := by
  have hhas : s.Has { w with modules := w.modules.push m } identity code? number? := by
    cases s with
    | memory n => exact ⟨h.store⟩
    | files workArea => exact ⟨h.clear, h.reaches, h.kept, h.loaded⟩
  obtain ⟨v, hv, hleaves⟩ := register_leaves ht hhas w.modules.size
  exact ⟨v, by rw [instantiate, exec_bind_ok (exec_execute ht.not_mem_refOf hm w), exec_bind_ok hv], hleaves⟩

theorem Has.of_same {v : Workspace} (h : s.Has w identity code? number?) (hfiles : v.files = w.files)
    (himported : v.imported = w.imported) (hmemories : v.memories = w.memories) :
    s.Has v identity code? number? := by
  cases s with
  | memory n => exact ⟨hmemories ▸ h.store⟩
  | files workArea => exact ⟨hfiles ▸ h.clear, hfiles ▸ h.reaches, hfiles ▸ h.kept, himported ▸ h.loaded⟩

end Store
end TemplateEngine
