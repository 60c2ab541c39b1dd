import TemplateEngine.Proofs.Files.Path
import TemplateEngine.FileTree

set_option autoImplicit false

namespace TemplateEngine.FileTree

variable {t u : FileTree} {here p : Place} {names back : List Text} {content : Bytes}

theorem run_changing (f : FileTree → Except FileError FileTree) (t : FileTree) :
    (changing f).run.run t =
      match f t with
      | .ok u => (.ok (), u)
      | .error e => (.error e, t) := by
  have h : (changing f).run.run t = ((match f t with
      | .ok u => set u
      | .error e => throw e : Change Unit)).run.run t := rfl
  rw [h]
  cases f t <;> rfl

theorem node?_insert (hp : p ≠ []) (n : Node) (q : Place) :
    node? ⟨t.nodes.insert p n⟩ q = if p = q then some n else t.node? q := by
  unfold node?
  by_cases hq : q = []
  · subst hq
    simp [hp]
  · simp only [hq, if_false]
    exact t.nodes.find?_insert p q n

theorem walk_congr (h : ∀ k, k ≤ names.length →
      u.node? (here ++ names.take k) = t.node? (here ++ names.take k)) :
    u.walk here names = t.walk here names := by
  induction names generalizing here with
  | nil =>
    have h0 : u.node? here = t.node? here := by simpa using h 0 (by simp)
    simp only [walk, h0]
  | cons a names ih =>
    have h0 : u.node? here = t.node? here := by simpa using h 0 (by simp)
    have hr : u.walk (here ++ [a]) names = t.walk (here ++ [a]) names := by
      refine ih fun k hk => ?_
      simpa using h (k + 1) (by simpa using hk)
    simp only [walk, h0, hr]

theorem walk_concat (name : Text) (h : t.walk here names = .ok .directory) :
    t.walk here (names ++ [name]) = t.walk (here ++ names ++ [name]) [] := by
  induction names generalizing here with
  | nil =>
    simp only [walk] at h
    split at h
    · contradiction
    · next n hn =>
      obtain rfl : n = .directory := by simpa using h
      simp [walk, hn]
  | cons a names ih =>
    simp only [walk] at h
    split at h
    · contradiction
    · contradiction
    · next hn =>
      have := ih h
      simp only [List.append_assoc, List.cons_append, List.nil_append] at this
      simp only [List.cons_append, walk, hn, this, List.append_assoc]

theorem walk_of_concat {name : Text} {n : Node} (h : t.walk here (names ++ [name]) = .ok n) :
    t.walk here names = .ok .directory := by
  induction names generalizing here with
  | nil =>
    simp only [List.nil_append, walk] at h
    split at h
    · contradiction
    · contradiction
    · next hn => simp [walk, hn]
  | cons a names ih =>
    simp only [List.cons_append, walk] at h
    split at h
    · contradiction
    · contradiction
    · next hn => simpa [walk, hn] using ih h

theorem node?_of_walk {n : Node} (h : t.walk here names = .ok n) : t.node? (here ++ names) = some n := by
  induction names generalizing here with
  | nil =>
    rw [walk] at h
    split at h
    · contradiction
    · next hnode => rw [List.append_nil, hnode, Except.ok.inj h]
  | cons a names ih =>
    rw [walk] at h
    split at h
    · contradiction
    · contradiction
    · simpa using ih h

theorem node?_of_read (h : t.read p = .ok content) : t.node? p = some (.file content) := by
  rw [read] at h
  cases hstat : t.stat p with
  | error e => simp [hstat, bind, Except.bind] at h
  | ok n =>
    cases n with
    | directory => simp [hstat, bind, Except.bind] at h
    | file old =>
      obtain rfl : old = content := by simpa [hstat, bind, Except.bind] using h
      exact node?_of_walk hstat

theorem eq_of_locateAlong (h : t.locateAlong back names = .ok p) :
    p = ((names.filter (· ≠ ['.'])).foldl Path.enter back).reverse := by
  induction names generalizing back with
  | nil => simpa [locateAlong, eq_comm] using h
  | cons a names ih =>
    rw [locateAlong] at h
    split at h
    · contradiction
    · contradiction
    · split at h
      · contradiction
      · by_cases ha : a = ['.']
        · have hrest : t.locateAlong back names = .ok p := by simpa [ha] using h
          simpa [ha] using ih hrest
        · simpa [ha] using ih (by simpa [ha] using h)

/-- Wherever a text leads to, it is the place that the text names. -/
theorem eq_resolve_of_locateText {path : Text} (h : t.locateText here path = .ok p) :
    p = (Path.ofText path).resolve here := by
  have hnames : (Path.ofTextAsIs path).names.filter (· ≠ ['.']) = (Path.ofText path).names := by
    simp only [Path.ofTextAsIs, Path.ofText]
    split <;> simp [List.filter_filter, Bool.and_comm]
  have hstart : (Path.ofTextAsIs path).start here = (Path.ofText path).start here := rfl
  simp only [locateText, locate, bind, Except.bind] at h
  split at h
  · contradiction
  split at h
  · contradiction
  split at h
  · contradiction
  rw [eq_of_locateAlong h, hnames, hstart, Path.resolve]

theorem not_mem_of_locate {path : Path} (h : t.locate here path = .ok p) : '\x00' ∉ path.toText := by
  intro hc
  rw [locate, checkText, if_pos (List.contains_iff_mem.2 hc)] at h
  contradiction

theorem eq_of_locate {q : Place} (hq : q.Clean) (h : t.locate here q.toPath = .ok p) : p = q := by
  have hdots : q.filter (· ≠ ['.']) = q :=
    List.filter_eq_self.2 fun n hn => decide_eq_true (hq n hn).1.ne_dot
  simp only [locate, bind, Except.bind] at h
  split at h
  · contradiction
  · rw [eq_of_locateAlong h, Place.toPath, hdots, Path.foldl_enter_of_clean hq]
    simp [Path.start]

theorem write_eq_ok (h : t.write p content = .ok u) :
    p ≠ [] ∧ t.stat p.dropLast = .ok .directory ∧ u = ⟨t.nodes.insert p (.file content)⟩ := by
  have hroot : t.stat [] = .ok .directory := by simp [stat, walk, node?]
  unfold write at h
  split at h
  · contradiction
  · next hs =>
    have hp : p ≠ [] := fun e => by simp [e, hroot] at hs
    refine ⟨hp, ?_, by simpa [eq_comm] using h⟩
    rw [stat, ← List.dropLast_concat_getLast hp] at hs
    exact walk_of_concat hs
  · next hs =>
    have hp : p ≠ [] := fun e => by simp [e, hroot] at hs
    simp only [bind, Except.bind] at h
    split at h
    · contradiction
    · next n hd =>
      cases n with
      | directory => exact ⟨hp, hd, by simpa [eq_comm] using h⟩
      | file c => simp at h
  · contradiction

theorem node?_of_write (h : t.write p content = .ok u) (q : Place) :
    u.node? q = if p = q then some (.file content) else t.node? q := by
  obtain ⟨hp, _, rfl⟩ := write_eq_ok h
  exact node?_insert hp _ q

theorem read_of_write (h : t.write p content = .ok u) : u.read p = .ok content := by
  obtain ⟨hp, hd, -⟩ := write_eq_ok h
  have hlen : p.dropLast.length < p.length := by
    have := List.length_pos_iff.2 hp
    simp
    omega
  have hu : u.walk [] p.dropLast = .ok .directory := by
    rw [← hd]
    refine walk_congr fun k _ => ?_
    have hne : p ≠ p.dropLast.take k := fun e => by
      have := congrArg List.length e
      simp only [List.length_take] at this
      omega
    simp [node?_of_write h, hne]
  have hs : u.stat p = .ok (.file content) := by
    have := walk_concat (p.getLast hp) hu
    rw [List.nil_append, List.dropLast_concat_getLast hp] at this
    simpa [stat, walk, node?_of_write h] using this
  rw [read, hs]
  rfl

theorem not_directory_of_write (h : t.write p content = .ok u) : t.node? p ≠ some .directory := by
  obtain ⟨hp, hparent, -⟩ := write_eq_ok h
  intro hnode
  have hstat : t.stat p = .ok .directory := by
    have hlast := walk_concat (p.getLast hp) hparent
    rw [List.nil_append, List.dropLast_concat_getLast hp] at hlast
    rw [stat, hlast, walk, hnode]
  simp [write, hstat] at h

/-- The way to a place leads through directories, and what is written is none. -/
theorem locateAlong_of_write {q : Place} (h : t.write p content = .ok u)
    (hl : t.locateAlong back names = .ok q) : u.locateAlong back names = .ok q := by
  induction names generalizing back with
  | nil => exact hl
  | cons a names ih =>
    rw [locateAlong] at hl ⊢
    cases hn : t.node? back.reverse with
    | none => simp [hn] at hl
    | some n =>
      cases n with
      | file c => simp [hn] at hl
      | directory =>
        have hne : p ≠ back.reverse := fun e => not_directory_of_write h (e ▸ hn)
        rw [node?_of_write h, if_neg hne, hn]
        simp only [hn] at hl ⊢
        split at hl
        · contradiction
        · next hlong =>
          rw [if_neg hlong]
          exact ih hl

theorem locate_of_write {path : Path} (h : t.write p content = .ok u)
    (hl : t.locate here path = .ok p) : u.locate here path = .ok p := by
  simp only [locate, bind, Except.bind] at hl ⊢
  split at hl
  · contradiction
  · exact locateAlong_of_write h hl

end TemplateEngine.FileTree
