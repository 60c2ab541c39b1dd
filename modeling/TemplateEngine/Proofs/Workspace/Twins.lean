import TemplateEngine.Proofs.Cache.Spared
import TemplateEngine.Proofs.Files.Directory
import TemplateEngine.Proofs.Identity.Naming

set_option autoImplicit false

/-!
# What does not depend on a file

Two file trees may differ in nothing but what a file contains. Every path leads to the same place in both,
every other file is read alike, and whatever is written or made leaves the trees like that: the file has its
own content in each of them, or it was written and has the same in both.

In workspaces with such files, what does not read the file does the same. A cache reads the file of a
template, and a store in files reads back what it has just written; so loading and rendering a template tell
nothing of any other file, even if the code of the template is to be written there.
-/
namespace TemplateEngine

namespace FileTree

/-- The same stands at every place of two file trees, but the file at one place may contain `bs` in the first
and `bs'` in the second. -/
structure Twins (p : Place) (bs bs' : Bytes) (t u : FileTree) : Prop where
  elsewhere : ∀ q, q ≠ p → u.node? q = t.node? q
  there : u.node? p = t.node? p ∨ t.node? p = some (.file bs) ∧ u.node? p = some (.file bs')

variable {p q here : Place} {bs bs' content : Bytes} {t u : FileTree} {names back : List Text} {path : Path}

namespace Twins

theorem node?_cases (h : Twins p bs bs' t u) (q : Place) : u.node? q = t.node? q ∨
    q = p ∧ t.node? q = some (.file bs) ∧ u.node? q = some (.file bs') := by
  by_cases hq : q = p
  · subst hq
    exact h.there.imp_right fun hcontents => ⟨rfl, hcontents⟩
  · exact .inl (h.elsewhere q hq)

theorem insert (h : Twins p bs bs' t u) (hq : q ≠ []) (n : Node) :
    Twins p bs bs' ⟨t.nodes.insert q n⟩ ⟨u.nodes.insert q n⟩ where
  elsewhere r hr := by rw [node?_insert hq, node?_insert hq, h.elsewhere r hr]
  there := by
    rw [node?_insert hq, node?_insert hq]
    by_cases hqp : q = p
    · exact .inl (by rw [if_pos hqp, if_pos hqp])
    · simpa only [if_neg hqp] using h.there

theorem locateAlong (h : Twins p bs bs' t u) : u.locateAlong back names = t.locateAlong back names := by
  induction names generalizing back with
  | nil => rfl
  | cons a names ih =>
    rw [FileTree.locateAlong, FileTree.locateAlong]
    obtain hsame | ⟨-, hbs, hbs'⟩ := h.node?_cases back.reverse
    · simp only [hsame, ih]
    · simp only [hbs, hbs']

theorem locate (h : Twins p bs bs' t u) (here : Place) (path : Path) :
    u.locate here path = t.locate here path := by
  simp only [FileTree.locate, h.locateAlong]

theorem locateText (h : Twins p bs bs' t u) (here : Place) (path : Text) :
    u.locateText here path = t.locateText here path := by
  simp only [FileTree.locateText, h.locate]

theorem walk_cases (h : Twins p bs bs' t u) : u.walk here names = t.walk here names ∨
    here ++ names = p ∧ t.walk here names = .ok (.file bs) ∧ u.walk here names = .ok (.file bs') := by
  induction names generalizing here with
  | nil =>
    rw [FileTree.walk, FileTree.walk]
    obtain hsame | ⟨hp, hbs, hbs'⟩ := h.node?_cases here
    · exact .inl (by rw [hsame])
    · exact .inr ⟨by rw [List.append_nil, hp], by rw [hbs], by rw [hbs']⟩
  | cons a names ih =>
    rw [FileTree.walk, FileTree.walk]
    obtain hsame | ⟨-, hbs, hbs'⟩ := h.node?_cases here
    · rw [hsame]
      cases hnode : t.node? here with
      | none => exact .inl rfl
      | some n =>
        cases n with
        | file content => exact .inl rfl
        | directory => simpa using @ih (here ++ [a])
    · exact .inl (by rw [hbs, hbs'])

theorem stat_cases (h : Twins p bs bs' t u) (q : Place) : u.stat q = t.stat q ∨
    q = p ∧ t.stat q = .ok (.file bs) ∧ u.stat q = .ok (.file bs') := h.walk_cases

theorem stat (h : Twins p bs bs' t u) (hq : q ≠ p) : u.stat q = t.stat q :=
  (h.stat_cases q).resolve_right fun hp => hq hp.1

theorem isOk_stat (h : Twins p bs bs' t u) (q : Place) : (u.stat q).isOk = (t.stat q).isOk := by
  obtain hsame | ⟨-, hbs, hbs'⟩ := h.stat_cases q
  · rw [hsame]
  · rw [hbs, hbs']
    rfl

theorem read (h : Twins p bs bs' t u) (hq : q ≠ p) : u.read q = t.read q := by
  rw [FileTree.read, FileTree.read, h.stat hq]

theorem readText (h : Twins p bs bs' t u) {path : Text} (hpath : t.locateText here path ≠ .ok p) :
    u.readText here path = t.readText here path := by
  rw [FileTree.readText, FileTree.readText, h.locateText]
  cases hl : t.locateText here path with
  | error e => rfl
  | ok q => exact h.read fun hq => hpath (hl.trans (congrArg Except.ok hq))

end Twins

inductive Paired (p : Place) (bs bs' : Bytes) : Except FileError FileTree → Except FileError FileTree → Prop
  | ok {t u : FileTree} (h : Twins p bs bs' t u) : Paired p bs bs' (.ok t) (.ok u)
  | error (e : FileError) : Paired p bs bs' (.error e) (.error e)

theorem Twins.write (h : Twins p bs bs' t u) (q : Place) (content : Bytes) :
    Paired p bs bs' (t.write q content) (u.write q content) := by
  have hroot : t.stat [] = .ok .directory := by simp [FileTree.stat, walk, node?]
  have hset : t.stat q ≠ .ok .directory →
      Paired p bs bs' (.ok ⟨t.nodes.insert q (.file content)⟩) (.ok ⟨u.nodes.insert q (.file content)⟩) :=
    fun hn => .ok (h.insert (fun hq => hn (by rw [hq, hroot])) _)
  rw [FileTree.write, FileTree.write]
  obtain hsame | ⟨-, hbs, hbs'⟩ := h.stat_cases q
  · rw [hsame]
    cases hstat : t.stat q with
    | ok n =>
      cases n with
      | directory => exact .error _
      | file old => exact hset (by simp [hstat])
    | error e =>
      cases e with
      | missing =>
        obtain hparent | ⟨-, hbs, hbs'⟩ := h.stat_cases q.dropLast
        · simp only [hparent]
          cases t.stat q.dropLast with
          | error e => exact .error e
          | ok n =>
            cases n with
            | directory => exact hset (by simp [hstat])
            | file old => exact .error _
        · simp only [hbs, hbs']
          exact .error _
      | _ => exact .error _
  · rw [hbs, hbs']
    exact hset (by simp [hbs])

theorem Twins.writeText (h : Twins p bs bs' t u) (here : Place) (path : Text) (content : Bytes) :
    Paired p bs bs' (t.writeText here path content) (u.writeText here path content) := by
  rw [FileTree.writeText, FileTree.writeText, h.locate, h.locateText]
  split
  · cases t.locate here (.ofText path) with
    | error e => exact .error e
    | ok q => exact .error _
  · cases t.locateText here path with
    | error e => exact .error e
    | ok q => exact h.write q content

def Unaware (p : Place) (bs bs' : Bytes) (x : Change Unit) : Prop :=
  ∀ t u, Twins p bs bs' t u → (x.run.run u).1 = (x.run.run t).1 ∧
    Twins p bs bs' (x.run.run t).2 (x.run.run u).2

theorem unaware_changing {f : FileTree → Except FileError FileTree}
    (hf : ∀ t u, Twins p bs bs' t u → Paired p bs bs' (f t) (f u)) : Unaware p bs bs' (changing f) := by
  intro t u h
  have hpaired := hf t u h
  rw [run_changing, run_changing]
  generalize f t = x at hpaired
  generalize f u = y at hpaired
  cases hpaired with
  | ok h' => exact ⟨rfl, h'⟩
  | error e => exact ⟨rfl, h⟩

theorem unaware_makeAlong (hn : ∀ n ∈ names, n ≠ "..".toList) :
    Unaware p bs bs' (makeAlong false back names) := by
  induction names generalizing back with
  | nil => exact fun t u h => ⟨rfl, h⟩
  | cons a names ih =>
    intro t u h
    have hrest := @ih (a :: back) fun n hm => hn n (List.mem_cons_of_mem a hm)
    rw [run_makeAlong_cons_of_ne (hn a (by simp)), run_makeAlong_cons_of_ne (hn a (by simp))]
    obtain hsame | ⟨-, hbs, hbs'⟩ := h.node?_cases (back.reverse ++ [a])
    · rw [hsame]
      cases t.node? (back.reverse ++ [a]) with
      | none =>
        dsimp only
        split
        · exact ⟨rfl, h⟩
        · exact hrest _ _ (h.insert (by simp) _)
      | some n =>
        cases n with
        | directory => exact hrest t u h
        | file content => exact ⟨rfl, h⟩
    · rw [hbs, hbs']
      exact ⟨rfl, h⟩

theorem unaware_ensureDirectory (hq : ∀ n ∈ q, n ≠ "..".toList) : Unaware p bs bs' (ensureDirectory q) :=
  unaware_makeAlong hq

end FileTree

open TemplateEngine.Action

/-- Workspaces that differ in nothing but the content of the file at a place. -/
structure Workspace.Twins (p : Place) (bs bs' : Bytes) (w v : Workspace) : Prop where
  rest : v = { w with files := v.files }
  files : w.files.Twins p bs bs' v.files

namespace Action

variable {α β : Type} {p : Place} {bs bs' : Bytes} {w v : Workspace}

/-- The action gives the same in two workspaces, and leaves them different in nothing but the content of the
file. -/
def AlikeIn (p : Place) (bs bs' : Bytes) (w v : Workspace) (x : Action α) : Prop :=
  (x.exec v).1 = (x.exec w).1 ∧ (x.exec w).2.Twins p bs bs' (x.exec v).2

def Unaware (p : Place) (bs bs' : Bytes) (x : Action α) : Prop :=
  ∀ w v : Workspace, w.Twins p bs bs' v → AlikeIn p bs bs' w v x

theorem AlikeIn.bind {x : Action α} {f : α → Action β} (hx : AlikeIn p bs bs' w v x)
    (hf : ∀ a w' v', x.exec w = (.ok a, w') → w'.Twins p bs bs' v' → AlikeIn p bs bs' w' v' (f a)) :
    AlikeIn p bs bs' w v (x >>= f) := by
  obtain ⟨hr, h⟩ := hx
  rw [AlikeIn, exec_bind, exec_bind]
  cases hw : x.exec w with
  | mk r w' =>
    cases hv : x.exec v with
    | mk r' v' =>
      rw [hw, hv] at hr h
      obtain rfl : r' = r := hr
      cases r' with
      | ok a => exact hf a w' v' hw h
      | error e => exact ⟨rfl, h⟩

theorem AlikeIn.attempt {x : Action α} (hx : AlikeIn p bs bs' w v x) : AlikeIn p bs bs' w v x.attempt := by
  obtain ⟨hr, h⟩ := hx
  exact ⟨by rw [exec_attempt, exec_attempt, hr], h⟩

namespace Unaware

theorem of_fileless {x : Action α} (hx : ∀ (w : Workspace) (t : FileTree),
    x.exec { w with files := t } = ((x.exec w).1, { (x.exec w).2 with files := t })) :
    Unaware p bs bs' x := by
  intro w v h
  have hw : (x.exec w).2.files = w.files := congrArg (fun r => r.2.files) (hx w w.files)
  have hv : x.exec v = ((x.exec w).1, { (x.exec w).2 with files := v.files }) := by
    rw [← hx w v.files, ← h.rest]
  rw [AlikeIn, hv]
  exact ⟨rfl, rfl, hw ▸ h.files⟩

theorem pure (a : α) : Unaware p bs bs' (pure a : Action α) := fun _ _ h => ⟨rfl, h⟩

theorem throw (e : Failure) : Unaware p bs bs' (throw e : Action α) := fun _ _ h => ⟨rfl, h⟩

theorem ofExcept {ε : Type} (f : ε → Failure) (r : Except ε α) : Unaware p bs bs' (ofExcept f r) := by
  cases r with
  | ok a => exact .pure a
  | error e => exact .throw _

theorem bind {x : Action α} {f : α → Action β} (hx : Unaware p bs bs' x) (hf : ∀ a, Unaware p bs bs' (f a)) :
    Unaware p bs bs' (x >>= f) :=
  fun w v h => (hx w v h).bind fun a w' v' _ h' => hf a w' v' h'

theorem get {f : Workspace → Action β} (hf : ∀ w, Unaware p bs bs' (f w))
    (hsame : ∀ w v : Workspace, w.Twins p bs bs' v → f v = f w) : Unaware p bs bs' (get >>= f) := by
  intro w v h
  have hv : (MonadState.get >>= f : Action β).exec v = (f w).exec v := by
    rw [← hsame w v h]
    rfl
  rw [AlikeIn, hv]
  exact hf w w v h

theorem changeFiles {f : FileTree.Change Unit} (hf : FileTree.Unaware p bs bs' f) :
    Unaware p bs bs' (changeFiles f) := by
  intro w v h
  obtain ⟨hr, hfiles⟩ := hf w.files v.files h.files
  rw [AlikeIn, exec_changeFiles, exec_changeFiles, hr]
  exact ⟨rfl, by rw [h.rest], hfiles⟩

/-- Functions of templates neither read files nor write them. -/
theorem call (f : Runnable) (arguments : List Data) : Unaware p bs bs' (f.call arguments) := by
  refine .of_fileless fun w t => ?_
  simp only [Runnable.call, exec_bind, exec_get]
  cases w.modules[f.owner]? with
  | none => rfl
  | some m =>
    dsimp only
    cases m.call f.function arguments <;> rfl

end Unaware
end Action

variable {p : Place} {bs bs' : Bytes} {w v : Workspace}

namespace Store

theorem unaware_execute (globals : Table Text Script.Value) {abandon : Script.Module → Action Unit}
    (habandon : ∀ m, Unaware p bs bs' (abandon m)) (artifact code : Text) :
    Unaware p bs bs' (execute globals abandon artifact code) := by
  unfold execute
  split
  · exact .throw _
  · split
    · exact .of_fileless fun _ _ => rfl
    · next f _ =>
      refine .bind ?_ fun _ => .throw _
      cases f.abandoned? with
      | none => exact .pure ()
      | some m => exact habandon m

theorem unaware_runnable (artifact : Text) (number : Nat) :
    Unaware p bs bs' (runnable artifact number) := by
  refine .get (fun w => ?_) fun w v h => by rw [h.rest]
  split
  · exact .pure _
  · exact .throw _

theorem unaware_unload (s : Store) (ref : Text) : Unaware p bs bs' (s.unload ref) := by
  cases s <;> exact .of_fileless fun _ _ => rfl

theorem unaware_abandon (s : Store) (ref : Text) (m : Script.Module) : Unaware p bs bs' (s.abandon ref m) := by
  cases s with
  | memory n => exact .pure ()
  | files workArea =>
    exact .bind (.of_fileless fun _ _ => rfl : Unaware p bs bs' (add m)) fun _ => .of_fileless fun _ _ => rfl

theorem unaware_instantiate (s : Store) (ref code : Text) : Unaware p bs bs' (s.instantiate ref code) := by
  refine .bind (unaware_execute _ (unaware_abandon s ref) _ _) fun k => .bind ?_ fun _ => unaware_runnable _ _
  cases s <;> exact .of_fileless fun _ _ => rfl

theorem unaware_resolve (path : Path) : Unaware p bs bs' (resolve path) :=
  .get (fun _ => .ofExcept _ _) fun w v h => by rw [h.rest]

theorem unaware_create (path? : Option Path) : Unaware p bs bs' (create path?) := by
  cases path? with
  | none => exact .of_fileless fun _ _ => rfl
  | some path => exact .bind (unaware_resolve path) fun _ => .pure _

end Store

theorem MemoryStore.unaware_load (n : Nat) (ref : Text) : Unaware p bs bs' (load n ref) := by
  refine .bind (.of_fileless fun _ _ => rfl) fun m => ?_
  split
  · exact Store.unaware_runnable _ _
  · split
    · exact .throw _
    · exact .bind (Store.unaware_execute _ (fun _ => .pure ()) _ _) fun _ =>
        .bind (.of_fileless fun _ _ => rfl) fun _ => Store.unaware_runnable _ _

theorem FileStore.unaware_persist {workArea : Place} (hw : workArea.Clean) (identity code : Text) :
    Unaware p bs bs' (persist workArea identity code) := by
  have hprepare : Unaware p bs bs' (prepare workArea) := by
    refine .get (fun w => ?_) fun w v h => by rw [h.files.isOk_stat]
    split
    · exact .pure _
    · exact .changeFiles (FileTree.unaware_ensureDirectory fun n hn => (hw n hn).2)
  have hlocate : ∀ path, Unaware p bs bs' (locate path) := fun path =>
    .get (fun _ => .ofExcept _ _) fun w v h => by rw [h.files.locate, h.rest]
  exact .bind hprepare fun _ => .bind (hlocate _) fun place =>
    .bind (.changeFiles (FileTree.unaware_changing fun t u h => h.write place _)) fun _ => .pure _

/-- Code that is kept and loaded at once is not read from a file that might be another one. -/
theorem Store.unaware_keep {s : Store} (hs : ∀ workArea, s = files workArea → workArea.Clean)
    (identity code : Text) : Unaware p bs bs' (do
      let ref ← s.persist identity code
      s.unload ref
      return (ref, ← s.load ref)) := by
  cases s with
  | memory n =>
    exact .bind (.of_fileless fun _ _ => rfl) fun ref => .bind (unaware_unload _ ref) fun _ =>
      .bind (MemoryStore.unaware_load n ref) fun _ => .pure _
  | files workArea =>
    have hready : ∀ w, (files workArea).Ready w := fun _ => hs workArea rfl
    have hinstall : Unaware p bs bs' ((files workArea).install identity code) :=
      .bind (FileStore.unaware_persist (hs workArea rfl) identity code) fun ref =>
        .bind (unaware_unload _ ref) fun _ => .bind (unaware_instantiate _ ref code) fun _ => .pure _
    intro w v h
    rw [AlikeIn, exec_install (hready w), exec_install (hready v)]
    exact hinstall w v h

namespace Cache

variable {here place : Place} {n : Nat} {s : Store} {location : Path}

theorem unaware_find (n : Nat) : Unaware p bs bs' (find n) := by
  refine .get (fun w => ?_) fun w v h => by rw [h.rest]
  split
  · exact .pure _
  · exact .throw _

theorem unaware_change (n : Nat) (f : Cache → Cache) : Unaware p bs bs' (change n f) :=
  .of_fileless fun _ _ => rfl

theorem unaware_source (hplace : place.Clean) (hp : place ≠ p) : Unaware p bs bs' (source n place) := by
  refine .bind (unaware_change n _) fun _ => .bind (unaware_find n) fun c => ?_
  split
  · exact .pure _
  · refine .get (fun _ => .ofExcept _ _) fun w v h => ?_
    have hbytes : Source.bytes v.files w.here place.toPath = Source.bytes w.files w.here place.toPath := by
      rw [Source.bytes, Source.bytes, h.files.locate]
      cases hl : w.files.locate w.here place.toPath with
      | error e => rfl
      | ok q => exact h.files.read (FileTree.eq_of_locate hplace hl ▸ hp)
    have hhere : v.here = w.here := by rw [h.rest]
    rw [Source.read, Source.read, hhere, hbytes]

theorem unaware_compile (text : Text) (place : Place) : Unaware p bs bs' (compile n text place) :=
  .bind (unaware_change n _) fun _ => .bind (unaware_find n) fun _ => .pure _

theorem alikeIn_insert (hs : ∀ workArea, s = .files workArea → workArea.Clean) {h : Handle}
    (hclean : h.location.Clean) (hp : h.location ≠ p) (hw : Sees here n s w) (hv : w.Twins p bs bs' v) :
    AlikeIn p bs bs' w v (insert n h) := by
  refine (unaware_source hclean hp w v hv).bind fun text w₁ v₁ hx hv₁ => ?_
  have hw₁ : Sees here n s w₁ := by
    have hconfined : Confined here n s [] [] (source n h.location) := confined_source h.location
    have hsees := (hconfined w hw).1
    rwa [hx] at hsees
  refine (unaware_compile text h.location w₁ v₁ hv₁).bind fun code w₂ v₂ hx hv₂ => ?_
  have hw₂ : Sees here n s w₂ := by
    have hconfined : Confined here n s [] [] (compile n text h.location) :=
      confined_compile text h.location
    have hsees := (hconfined w₁ hw₁).1
    rwa [hx] at hsees
  refine (unaware_find n w₂ v₂ hv₂).bind fun c w₃ v₃ hx hv₃ => ?_
  obtain ⟨c', hc', hstore⟩ := hw₂.cache
  rw [exec_find hc'] at hx
  obtain rfl : c' = c := Except.ok.inj (congrArg Prod.fst hx)
  have hkeep : Unaware p bs bs' (do
      let ref ← c'.store.persist h.identity code
      c'.store.unload ref
      return (ref, ← c'.store.load ref)) := Store.unaware_keep (hstore ▸ hs) h.identity code
  have hrest := hkeep.bind fun made => unaware_change n fun c => { c with
    entries := c.entries.insert h.identity ⟨made.2, made.1⟩ }
  simp only [bind_assoc, pure_bind] at hrest
  exact hrest w₃ v₃ hv₃

theorem alikeIn_load (hs : ∀ workArea, s = .files workArea → workArea.Clean) (hhere : here.Clean)
    {t : Text} (hp : (Path.ofText t).resolve here ≠ p) (hw : Sees here n s w) (hv : w.Twins p bs bs' v) :
    AlikeIn p bs bs' w v (load n (.ofText t)) := by
  have hhandle : Unaware p bs bs' (handle n (.ofText t)) :=
    .bind (Store.unaware_resolve _) fun _ => .pure _
  refine (hhandle w v hv).bind fun h w₁ v₁ hx hv₁ => ?_
  rw [exec_handle, hw.here] at hx
  obtain ⟨place, hplace, hh, rfl⟩ : ∃ place, Identity.placeOf here (.ofText t) = .ok place ∧
      ⟨place, Identity.ofPlace place, n⟩ = h ∧ w = w₁ := by
    cases hplace : Identity.placeOf here (.ofText t) with
    | error e => simp [hplace, Except.map, Except.mapError] at hx
    | ok place =>
      rw [hplace] at hx
      exact ⟨place, rfl, Except.ok.inj (congrArg Prod.fst hx), congrArg Prod.snd hx⟩
  have hne : place ≠ p := by
    unfold Identity.placeOf at hplace
    split at hplace
    · contradiction
    · exact Except.ok.inj hplace ▸ hp
  subst hh
  have hheld : Unaware p bs bs' (contains n (Identity.ofPlace place)) :=
    .bind (unaware_find n) fun c => .pure _
  refine (hheld w v₁ hv₁).bind fun held w₂ v₂ hx hv₂ => ?_
  have hw₂ : Sees here n s w₂ := by
    have hconfined : Confined here n s [] [] (contains n (Identity.ofPlace place)) := .find fun _ _ => .pure _
    have hsees := (hconfined w hw).1
    rwa [hx] at hsees
  split
  · have hinsert := alikeIn_insert hs (h := ⟨place, Identity.ofPlace place, n⟩)
      (Identity.clean_of_placeOf hhere hplace) hne hw₂ hv₂
    exact hinsert.bind fun _ w₃ v₃ _ hv₃ => Unaware.pure _ w₃ v₃ hv₃
  · exact Unaware.pure _ w₂ v₂ hv₂

theorem unaware_render (n : Nat) (identity : Text) (context : Data) :
    Unaware p bs bs' (render n identity context) := by
  refine .bind (unaware_find n) fun c => ?_
  split
  · exact .call _ _
  · split
    · exact .throw _
    · exact .pure _

end Cache
end TemplateEngine
