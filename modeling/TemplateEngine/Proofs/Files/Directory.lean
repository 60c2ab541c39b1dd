import TemplateEngine.Proofs.Files.Tree

set_option autoImplicit false

/-!
# Directories on the way to a place

What a file operation does at a place is told by what stands on the way there. Where only directories
stand, or nothing yet, the directories can be made, and nothing else changes; once they are there, files
in the last one can be written, read and deleted.
-/
namespace TemplateEngine.FileTree

variable {t u : FileTree} {here p q : Place} {names back : List Text} {name : Text} {n : Node}

/-- On the way to a place and at the place itself stand directories or nothing. -/
def Clear (t : FileTree) (p : Place) : Prop :=
  ∀ q, q <+: p → t.node? q = none ∨ t.node? q = some .directory

def Reaches (t : FileTree) (p : Place) : Prop := ∀ q, q <+: p → t.node? q = some .directory

structure Usable (name : Text) : Prop where
  ne_dot : name ≠ ['.']
  ne_dots : name ≠ "..".toList
  short : (Utf8.encode name).length ≤ maxNameBytes

theorem Usable.enter (h : Usable name) (back : List Text) : Path.enter back name = name :: back :=
  if_neg h.ne_dots

theorem Reaches.clear (h : t.Reaches p) : t.Clear p := fun q hq => .inr (h q hq)

theorem Clear.concat (h : t.Clear p) (hn : t.node? (p ++ [name]) = none) :
    t.Clear (p ++ [name]) := by
  intro q hq
  obtain rfl | hq := List.prefix_concat_iff.1 hq
  · exact .inl hn
  · exact h q hq

/-- What lies between a place and one further down, without the first. -/
theorem between_cons (h : here ++ [name] <+: q) (h' : q <+: here ++ [name] ++ names) :
    here <+: q ∧ q <+: here ++ name :: names :=
  ⟨(List.prefix_append _ _).trans h, by simpa using h'⟩

theorem between_of_ne (h : here <+: q) (h' : q <+: here ++ name :: names) (hq : q ≠ here) :
    here ++ [name] <+: q ∧ q <+: here ++ [name] ++ names := by
  obtain ⟨rest, rfl⟩ := h
  have hrest : rest <+: name :: names := (List.prefix_append_right_inj here).1 h'
  cases rest with
  | nil => simp at hq
  | cons a rest =>
    obtain ⟨rfl, hrest⟩ := List.cons_prefix_cons.1 hrest
    exact ⟨by simp, by simpa using hrest⟩

theorem walk_clear (h : ∀ q, here <+: q → q <+: here ++ names →
      t.node? q = none ∨ t.node? q = some .directory) :
    (t.walk here names = .error .missing ∧ ∃ q, q <+: here ++ names ∧ t.node? q = none) ∨
      (t.walk here names = .ok .directory ∧
        ∀ q, here <+: q → q <+: here ++ names → t.node? q = some .directory) := by
  induction names generalizing here with
  | nil =>
    obtain h0 | h0 := h here List.prefix_rfl (by simp)
    · exact .inl ⟨by simp [walk, h0], here, by simp, h0⟩
    · refine .inr ⟨by simp [walk, h0], fun q hq hq' => ?_⟩
      rw [List.append_nil] at hq'
      rwa [← hq.eq_of_length (Nat.le_antisymm hq.length_le hq'.length_le)]
  | cons a names ih =>
    obtain h0 | h0 := h here List.prefix_rfl (List.prefix_append _ _)
    · exact .inl ⟨by simp [walk, h0], here, List.prefix_append _ _, h0⟩
    · have hwalk : t.walk here (a :: names) = t.walk (here ++ [a]) names := by simp [walk, h0]
      rw [hwalk]
      obtain ⟨hw, q, hq, hn⟩ | ⟨hw, hd⟩ := @ih (here ++ [a]) fun q hq hq' =>
        h q (between_cons hq hq').1 (between_cons hq hq').2
      · exact .inl ⟨hw, q, by simpa using hq, hn⟩
      · refine .inr ⟨hw, fun q hq hq' => ?_⟩
        by_cases he : q = here
        · rw [he, h0]
        · exact hd q (between_of_ne hq hq' he).1 (between_of_ne hq hq' he).2

theorem stat_clear (h : t.Clear p) : (t.stat p = .error .missing ∧ ¬ t.Reaches p) ∨
    (t.stat p = .ok .directory ∧ t.Reaches p) := by
  obtain ⟨hw, q, hq, hn⟩ | ⟨hw, hd⟩ := @walk_clear t [] p fun q _ hq => h q hq
  · exact .inl ⟨hw, fun hr => by simp [hr q hq] at hn⟩
  · exact .inr ⟨hw, fun q hq => hd q (List.nil_prefix) hq⟩

theorem stat_reaches (h : t.Reaches p) : t.stat p = .ok .directory := by
  obtain ⟨-, hn⟩ | ⟨hs, -⟩ := stat_clear h.clear
  · exact absurd h hn
  · exact hs

theorem stat_concat (h : t.Reaches p) (hn : t.node? (p ++ [name]) = some n) :
    t.stat (p ++ [name]) = .ok n := by
  have hwalk := walk_concat name (stat_reaches h)
  rw [stat, hwalk, List.nil_append]
  simp [walk, hn]

theorem stat_missing (h : t.Clear p) (hn : t.node? (p ++ [name]) = none) :
    t.stat (p ++ [name]) = .error .missing := by
  obtain ⟨hs, -⟩ | ⟨-, hr⟩ := stat_clear (h.concat hn)
  · exact hs
  · simp [hr _ List.prefix_rfl] at hn

theorem locateAlong_clear (hn : ∀ n ∈ names, Usable n)
    (h : ∀ q, back.reverse <+: q → q <+: back.reverse ++ names → q ≠ back.reverse ++ names →
      t.node? q = none ∨ t.node? q = some .directory) :
    (t.locateAlong back names = .error .missing ∧
      ∃ q, q <+: back.reverse ++ names ∧ q ≠ back.reverse ++ names ∧ t.node? q = none) ∨
      t.locateAlong back names = .ok (back.reverse ++ names) := by
  induction names generalizing back with
  | nil => exact .inr (by simp [locateAlong])
  | cons a names ih =>
    have ha := hn a (by simp)
    obtain h0 | h0 := h back.reverse List.prefix_rfl (List.prefix_append _ _) (by simp)
    · exact .inl ⟨by simp [locateAlong, h0], _, List.prefix_append _ _, by simp, h0⟩
    · have hstep : t.locateAlong back (a :: names) = t.locateAlong (a :: back) names := by
        simp [locateAlong, h0, ha.enter, ha.ne_dot, Nat.not_lt.2 ha.short]
      have hplace : (a :: back).reverse ++ names = back.reverse ++ a :: names := by simp
      have hrest := @ih (a :: back) (fun n hm => hn n (List.mem_cons_of_mem a hm))
        fun q hq hq' hne => by
          rw [List.reverse_cons] at hq hq'
          have hb := between_cons hq hq'
          exact h q hb.1 hb.2 (by rwa [hplace] at hne)
      rwa [hstep, ← hplace]

/-- A path through directories leads to its place; otherwise something is missing. -/
theorem locate_concat (here : Place) (hp : ∀ n ∈ p ++ [name], Usable n)
    (ht : checkText (Place.toText (p ++ [name])) = .ok ()) (h : t.Clear p) :
    (t.locate here (Place.toPath (p ++ [name])) = .error .missing ∧ ¬ t.Reaches p) ∨
      t.locate here (Place.toPath (p ++ [name])) = .ok (p ++ [name]) := by
  have hlocate : t.locate here (Place.toPath (p ++ [name])) = t.locateAlong [] (p ++ [name]) := by
    have hc : checkText (Place.toPath (p ++ [name])).toText = .ok () := ht
    simp only [locate, hc]
    rfl
  have hclear : ∀ q, q <+: p ++ [name] → q ≠ p ++ [name] → q <+: p := by
    intro q hq hne
    obtain rfl | hq := List.prefix_concat_iff.1 hq
    · exact absurd rfl hne
    · exact hq
  rw [hlocate]
  obtain ⟨hl, q, hq, hne, hn⟩ | hl := @locateAlong_clear t (p ++ [name]) [] hp
    fun q _ hq hne => h q (hclear q hq hne)
  · exact .inl ⟨hl, fun hr => by simp [hr q (hclear q hq hne)] at hn⟩
  · exact .inr hl

theorem locate_reaches (here : Place) (hp : ∀ n ∈ p ++ [name], Usable n)
    (ht : checkText (Place.toText (p ++ [name])) = .ok ()) (h : t.Reaches p) :
    t.locate here (Place.toPath (p ++ [name])) = .ok (p ++ [name]) := by
  obtain ⟨-, hn⟩ | hl := locate_concat here hp ht h.clear
  · exact absurd h hn
  · exact hl

theorem run_makeAlong_cons_of_ne (hname : name ≠ "..".toList) :
    (makeAlong false back (name :: names)).run.run t =
      match t.node? (back.reverse ++ [name]) with
      | some (.file _) => (.error (if names = [] then .alreadyExists else .notDirectory), t)
      | some .directory => (makeAlong false (name :: back) names).run.run t
      | none =>
        if maxNameBytes < (Utf8.encode name).length then (.error .nameTooLong, t)
        else (makeAlong false (name :: back) names).run.run
          ⟨t.nodes.insert (back.reverse ++ [name]) .directory⟩ := by
  have hrun : (makeAlong false back (name :: names)).run.run t =
      ((match t.node? (Path.enter back name).reverse with
        | some (.file _) => throw (if names = [] then .alreadyExists else .notDirectory)
        | some .directory => do
          if false && names = [] then throw .alreadyExists
          makeAlong false (Path.enter back name) names
        | none => do
          if maxNameBytes < (Utf8.encode name).length then throw .nameTooLong
          modify fun t => ⟨t.nodes.insert (Path.enter back name).reverse .directory⟩
          makeAlong false (Path.enter back name) names : Change Unit)).run.run t := rfl
  have henter : Path.enter back name = name :: back := if_neg hname
  rw [hrun, henter, List.reverse_cons]
  split
  · rfl
  · rfl
  · split <;> rfl

theorem run_makeAlong_cons (ha : Usable name) :
    (makeAlong false back (name :: names)).run.run t =
      match t.node? (back.reverse ++ [name]) with
      | some (.file _) => (.error (if names = [] then .alreadyExists else .notDirectory), t)
      | some .directory => (makeAlong false (name :: back) names).run.run t
      | none => (makeAlong false (name :: back) names).run.run
          ⟨t.nodes.insert (back.reverse ++ [name]) .directory⟩ := by
  rw [run_makeAlong_cons_of_ne ha.ne_dots, if_neg (Nat.not_lt.2 ha.short)]

/-- At a place is what was there, or a directory on the way to another place where nothing was. -/
def Spared (p q : Place) (t u : FileTree) : Prop :=
  u.node? q = t.node? q ∨ q <+: p ∧ t.node? q = none ∧ u.node? q = some .directory

theorem Spared.refl (p q : Place) (t : FileTree) : Spared p q t t := .inl rfl

theorem Spared.trans {v : FileTree} (h : Spared p q t u) (k : Spared p q u v) : Spared p q t v := by
  obtain hq | ⟨hpre, hnone, hdir⟩ := h
  · rwa [Spared, ← hq]
  · obtain kq | ⟨-, knone, -⟩ := k
    · exact .inr ⟨hpre, hnone, kq.trans hdir⟩
    · rw [hdir] at knone
      contradiction

theorem Spared.mono {p' : Place} (h : Spared p q t u) (hp : p <+: p') : Spared p' q t u :=
  h.imp_right fun ⟨hpre, hnode⟩ => ⟨hpre.trans hp, hnode⟩

theorem spared_insert (h : t.node? p = none) (q : Place) :
    Spared p q t ⟨t.nodes.insert p .directory⟩ := by
  have hp : p ≠ [] := fun he => by simp [he, node?] at h
  rw [Spared, node?_insert hp]
  by_cases hq : p = q
  · exact .inr ⟨hq ▸ List.prefix_rfl, hq ▸ h, if_pos hq⟩
  · exact .inl (if_neg hq)

/-- Whether all directories can be made or not, nothing else happens. -/
theorem spared_makeAlong (hn : ∀ n ∈ names, n ≠ "..".toList) :
    Spared (back.reverse ++ names) q t ((makeAlong false back names).run.run t).2 := by
  induction names generalizing back t with
  | nil => exact .refl _ _ t
  | cons a names ih =>
    have hrest : ∀ t, Spared (back.reverse ++ a :: names) q t
        ((makeAlong false (a :: back) names).run.run t).2 := by
      intro t
      have h := @ih t (a :: back) fun n hm => hn n (List.mem_cons_of_mem a hm)
      simpa using h
    rw [run_makeAlong_cons_of_ne (hn a (by simp))]
    split
    · exact .refl _ _ t
    · exact hrest t
    · next hnone =>
      split
      · exact .refl _ _ t
      · exact ((spared_insert hnone q).mono (by simp)).trans (hrest _)

theorem spared_ensureDirectory (hp : ∀ n ∈ p, n ≠ "..".toList) :
    Spared p q t ((ensureDirectory p).run.run t).2 := by
  have h : Spared (List.reverse [] ++ p) q t ((makeAlong false [] p).run.run t).2 :=
    spared_makeAlong hp
  simpa [ensureDirectory] using h

theorem makeAlong_clear (hn : ∀ n ∈ names, Usable n)
    (h : ∀ q, back.reverse <+: q → q <+: back.reverse ++ names →
      t.node? q = none ∨ t.node? q = some .directory) :
    ∃ u, (makeAlong false back names).run.run t = (.ok (), u) ∧
      (∀ q, back.reverse <+: q → q <+: back.reverse ++ names → q ≠ back.reverse →
        u.node? q = some .directory) ∧
      ∀ q, ¬ q <+: back.reverse ++ names ∨ q <+: back.reverse → u.node? q = t.node? q := by
  induction names generalizing back t with
  | nil =>
    refine ⟨t, rfl, fun q hq hq' hne => ?_, fun q _ => rfl⟩
    rw [List.append_nil] at hq'
    exact absurd (hq.eq_of_length (Nat.le_antisymm hq.length_le hq'.length_le)).symm hne
  | cons a names ih =>
    have ha := hn a (by simp)
    have hnames : ∀ n ∈ names, Usable n := fun n hm => hn n (List.mem_cons_of_mem a hm)
    have hplace : (a :: back).reverse ++ names = back.reverse ++ a :: names := by simp
    have hback : (a :: back).reverse = back.reverse ++ [a] := by simp
    -- the tree after the first directory has been made
    obtain ⟨v, hv, hva, hvq⟩ : ∃ v, (makeAlong false back (a :: names)).run.run t =
          (makeAlong false (a :: back) names).run.run v ∧
        v.node? (back.reverse ++ [a]) = some .directory ∧
        ∀ q, q ≠ back.reverse ++ [a] → v.node? q = t.node? q := by
      obtain h0 | h0 := h (back.reverse ++ [a]) (List.prefix_append _ _) (by simp)
      · refine ⟨_, by rw [run_makeAlong_cons ha, h0], ?_, fun q hq => ?_⟩
        · rw [node?_insert (by simp), if_pos rfl]
        · rw [node?_insert (by simp), if_neg (Ne.symm hq)]
      · exact ⟨t, by rw [run_makeAlong_cons ha, h0], h0, fun q _ => rfl⟩
    obtain ⟨u, hu, hmade, hsame⟩ := @ih v (a :: back) hnames fun q hq hq' => by
      rw [hback] at hq hq'
      by_cases he : q = back.reverse ++ [a]
      · exact .inr (he ▸ hva)
      · rw [hvq q he]
        exact h q (between_cons hq hq').1 (between_cons hq hq').2
    refine ⟨u, hv.trans hu, fun q hq hq' hne => ?_, fun q hq => ?_⟩
    · have hb := between_of_ne hq hq' hne
      by_cases he : q = back.reverse ++ [a]
      · have hnext : q = (a :: back).reverse := he.trans hback.symm
        rw [hsame q (.inr (hnext ▸ List.prefix_rfl)), he, hva]
      · exact hmade q (by rw [hback]; exact hb.1) (by rw [hback]; exact hb.2) (by rwa [hback])
    · have hlen : ∀ r : Place, r <+: back.reverse → r ≠ back.reverse ++ [a] := by
        intro r hr he
        have := hr.length_le
        simp only [he, List.length_append, List.length_singleton] at this
        omega
      rcases hq with hq | hq
      · have hne : q ≠ back.reverse ++ [a] := fun he => hq (by simp [he])
        rw [hsame q (.inl (by rwa [hplace])), hvq q hne]
      · rw [hsame q (.inr (hq.trans (by simp))), hvq q (hlen q hq)]

theorem ensureDirectory_clear (hp : ∀ n ∈ p, Usable n) (h : t.Clear p) :
    ∃ u, (ensureDirectory p).run.run t = (.ok (), u) ∧ u.Reaches p ∧
      ∀ q, ¬ q <+: p → u.node? q = t.node? q := by
  obtain ⟨u, hu, hmade, hsame⟩ := @makeAlong_clear t p [] hp fun q _ hq => h q hq
  refine ⟨u, hu, fun q hq => ?_, fun q hq => hsame q (.inl hq)⟩
  by_cases he : q = []
  · simp [node?, he]
  · exact hmade q List.nil_prefix hq he

theorem write_concat (h : t.Reaches p) (hn : t.node? (p ++ [name]) ≠ some .directory)
    (content : Bytes) : t.write (p ++ [name]) content =
      .ok ⟨t.nodes.insert (p ++ [name]) (.file content)⟩ := by
  cases hnode : t.node? (p ++ [name]) with
  | none =>
    simp only [write, stat_missing h.clear hnode, List.dropLast_concat, stat_reaches h]
    rfl
  | some n =>
    cases n with
    | directory => exact absurd hnode hn
    | file c => simp only [write, stat_concat h hnode]

theorem node?_erase (hp : p ≠ []) (q : Place) :
    node? ⟨t.nodes.erase p⟩ q = if p = q then none else t.node? q := by
  unfold node?
  by_cases hq : q = []
  · subst hq
    simp [hp]
  · simp only [hq, if_false]
    exact t.nodes.find?_erase p q

theorem delete_concat {content : Bytes} (h : t.Reaches p)
    (hn : t.node? (p ++ [name]) = some (.file content)) :
    t.delete (p ++ [name]) = .ok ⟨t.nodes.erase (p ++ [name])⟩ := by
  simp only [delete, stat_concat h hn]
  rfl

theorem delete_missing (h : t.Clear p) (hn : t.node? (p ++ [name]) = none) :
    t.delete (p ++ [name]) = .error .missing := by
  simp only [delete, stat_missing h hn]
  rfl

end TemplateEngine.FileTree
