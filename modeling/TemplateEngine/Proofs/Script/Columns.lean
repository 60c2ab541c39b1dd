import Mathlib.Data.List.Infix
import TemplateEngine.Proofs.Script.Indenting

set_option autoImplicit false

/-!
# Outlines further in

Whatever its indentation is made of, a program keeps its outline where all its lines are written one step
further in, unless a tab stands behind a space: there a step moves some columns more than others.
-/
namespace TemplateEngine.Script.Outline

def rowsByDepth : (depth : Nat) → List (List Outline) → List Row
  | _, [] => []
  | d, same :: deeper => rowsByDepth (d + 1) deeper ++ allRows d same

theorem rowsByDepth_insert (line : List Lexeme) (d e : Nat) {st : List (List Outline)}
    (h : st.length ≤ d + 2) : (insert line d st).length = d + 1 ∧
      rowsByDepth e (insert line d st) = (e + d, line) :: rowsByDepth e st := by
  induction d generalizing e st with
  | zero =>
    rcases st with _ | ⟨same, _ | ⟨body, _ | ⟨more, deeper⟩⟩⟩
    · simp [insert, rowsByDepth, allRows, rows]
    · simp [insert, rowsByDepth, allRows, rows]
    · simp [insert, rowsByDepth, allRows, rows]
    · simp only [List.length_cons] at h
      omega
  | succ d ih =>
    rcases st with _ | ⟨same, deeper⟩
    · obtain ⟨hlength, hrows⟩ := @ih (e + 1) [] (by simp)
      refine ⟨by simp [insert, hlength], ?_⟩
      have hcons : rowsByDepth e ([] :: insert line d []) = rowsByDepth (e + 1) (insert line d []) := by
        simp [rowsByDepth, allRows]
      rw [insert, hcons, hrows, Nat.add_assoc, Nat.add_comm 1 d]
      rfl
    · obtain ⟨hlength, hrows⟩ := @ih (e + 1) deeper (by simpa using h)
      refine ⟨by simp [insert, hlength], ?_⟩
      rw [insert, rowsByDepth, hrows, Nat.add_assoc, Nat.add_comm 1 d]
      rfl

def Climbs : (depth : Nat) → List Nat → Prop
  | _, [] => True
  | k, d :: ds => d ≤ k + 1 ∧ Climbs d ds

theorem rowsByDepth_foldr {k : Nat} {ls : List Row} (h : Climbs k (ls.map Prod.fst)) :
    (ls.foldr (fun l deeper => insert l.2 l.1 deeper) []).length ≤ k + 2 ∧
      rowsByDepth 0 (ls.foldr (fun l deeper => insert l.2 l.1 deeper) []) = ls := by
  induction ls generalizing k with
  | nil => simp [rowsByDepth]
  | cons l ls ih =>
    obtain ⟨hd, hrest⟩ := h
    obtain ⟨hlength, hrows⟩ := ih hrest
    obtain ⟨hlength', hrows'⟩ := rowsByDepth_insert l.2 l.1 0 hlength
    rw [List.foldr_cons, hrows', hrows, Nat.zero_add]
    exact ⟨by omega, rfl⟩

theorem allRows_of_ofLines? {ls : List Row} {os : List Outline} {k : Nat} (h : ofLines? ls = some os)
    (hclimbs : Climbs k (ls.map Prod.fst)) : allRows 0 os = ls := by
  obtain ⟨-, hrows⟩ := rowsByDepth_foldr hclimbs
  unfold ofLines? at h
  generalize ls.foldr (fun l deeper => insert l.2 l.1 deeper) [] = st at h hrows
  rcases st with _ | ⟨top, _ | ⟨more, deeper⟩⟩
  · obtain rfl := Option.some.inj h
    exact hrows
  · obtain rfl := Option.some.inj h
    simpa [rowsByDepth] using hrows
  · contradiction

/-- What is open after a return is the column and what is around it. -/
theorem split_of_returnTo? {c : Column} {columns columns' : List Column}
    (h : returnTo? c columns = some columns') :
    ∃ inside below, columns = inside ++ c :: below ∧ columns' = c :: below := by
  induction columns with
  | nil => contradiction
  | cons top below ih =>
    rw [returnTo?] at h
    split at h
    · next h1 =>
      split at h
      · next h2 =>
        obtain rfl := Option.some.inj h
        obtain rfl : c = top := Prod.ext h1 h2
        exact ⟨[], below, rfl, rfl⟩
      · contradiction
    · split at h
      · contradiction
      · obtain ⟨inside, outside, rfl, rfl⟩ := ih h
        exact ⟨top :: inside, outside, rfl, rfl⟩

theorem mem_of_returnTo? {c : Column} {columns columns' : List Column}
    (h : returnTo? c columns = some columns') : c ∈ columns := by
  obtain ⟨inside, below, rfl, -⟩ := split_of_returnTo? h
  simp

theorem suffix_of_returnTo? {c : Column} {columns columns' : List Column}
    (h : returnTo? c columns = some columns') : columns' <:+ columns := by
  obtain ⟨inside, below, rfl, rfl⟩ := split_of_returnTo? h
  exact List.suffix_append inside _

theorem length_of_enter? {c : Column} {columns columns' : List Column}
    (h : enter? c columns = some columns') : columns'.length ≤ columns.length + 1 := by
  cases columns with
  | nil => contradiction
  | cons top below =>
    rw [enter?] at h
    split at h
    · split at h
      · obtain rfl := Option.some.inj h
        rfl
      · contradiction
    · exact (suffix_of_returnTo? h).length_le.trans (Nat.le_succ _)

theorem climbs_of_depths? {columns cs : List Column} {ds : List Nat} (h : depths? columns cs = some ds) :
    Climbs (columns.length - 1) ds := by
  induction cs generalizing columns ds with
  | nil =>
    obtain rfl := Option.some.inj h
    trivial
  | cons c cs ih =>
    simp only [depths?, Option.bind_eq_bind, Option.bind_eq_some_iff] at h
    obtain ⟨columns', henter, es, hes, hds⟩ := h
    obtain rfl := Option.some.inj hds
    have := length_of_enter? henter
    exact ⟨by omega, ih hes⟩

/-- Blanks with all tabs in front of the spaces. -/
def TabsFirst (b : Text) : Prop := ∃ j k, b = List.replicate j '\t' ++ List.replicate k ' '

theorem tabsFirst_iff {b : Text} : TabsFirst b ↔ ((b.dropWhile (· = '\t')).all (· = ' ')) = true := by
  rw [List.all_eq_true]
  constructor
  · rintro ⟨j, k, rfl⟩ c hc
    rw [List.dropWhile_append_of_pos fun d hd => by simp [List.eq_of_mem_replicate hd]] at hc
    exact decide_eq_true (List.eq_of_mem_replicate ((List.dropWhile_suffix _).subset hc))
  · intro h
    refine ⟨(b.takeWhile (· = '\t')).length, (b.dropWhile (· = '\t')).length, ?_⟩
    rw [← List.eq_replicate_of_mem (fun c hc => by simpa using List.mem_takeWhile_imp hc),
      ← List.eq_replicate_of_mem fun c hc => of_decide_eq_true (h c hc), List.takeWhile_append_dropWhile]

instance (b : Text) : Decidable (TabsFirst b) := decidable_of_iff _ tabsFirst_iff.symm

def Column.Orderly (c : Column) : Prop := ∃ j k, c = (8 * j + k, j + k)

/-- The column behind four more spaces: a tab of eight columns takes them in. -/
def Column.indented (c : Column) : Column := (if c.1 = c.2 then c.1 + 4 else c.1, c.2 + 4)

theorem foldl_tabs (n m : Nat) : (List.replicate n '\t').foldl
    (fun n c => if c = '\t' then (n / 8 + 1) * 8 else if c = '\x0c' then 0 else n + 1) m =
      if n = 0 then m else m / 8 * 8 + 8 * n := by
  induction n generalizing m with
  | zero => rfl
  | succ n ih =>
    rw [List.replicate_succ, List.foldl_cons, ih]
    simp only [if_true, Nat.succ_ne_zero, if_false]
    split <;> omega

theorem columnOf_tabsFirst (i j k : Nat) :
    columnOf (List.replicate i ' ' ++ (List.replicate j '\t' ++ List.replicate k ' ')) =
      (if j = 0 then i + k else i / 8 * 8 + 8 * j + k, i + j + k) := by
  have hspaces : ∀ n c, (c = ' ' ∨ c = '\t') →
      (List.replicate n c).map (fun c => if c = '\t' then ' ' else c) = List.replicate n ' ' := by
    rintro n c (rfl | rfl) <;> simp
  rw [columnOf, List.map_append, List.map_append, hspaces i ' ' (.inl rfl), hspaces j '\t' (.inr rfl),
    hspaces k ' ' (.inl rfl)]
  simp only [columnAfter, List.foldl_append, foldl_spaces, foldl_tabs, Nat.zero_add]
  congr 1
  split <;> omega

theorem TabsFirst.columnOf {b : Text} (hb : TabsFirst b) : (columnOf b).Orderly ∧
    columnOf (Scriptlet.indentStep ++ b) = (columnOf b).indented := by
  obtain ⟨j, k, rfl⟩ := hb
  have hhere := columnOf_tabsFirst 0 j k
  have hin := columnOf_tabsFirst 4 j k
  rw [List.replicate_zero, List.nil_append] at hhere
  have hstep : Scriptlet.indentStep = List.replicate 4 ' ' := rfl
  rw [hstep, hin, hhere]
  refine ⟨⟨j, k, ?_⟩, ?_⟩
  · congr 1
    · split <;> omega
    · omega
  · by_cases hj : j = 0
    · subst hj
      simp [Column.indented]
      omega
    · have hne : ¬ 0 / 8 * 8 + 8 * j + k = 0 + j + k := by omega
      simp only [Column.indented, if_neg hj, if_neg hne]
      congr 1
      omega

/-- The first column is further in than the second one, by both measures. -/
def Column.Deeper (c d : Column) : Prop := d.1 < c.1 ∧ d.2 < c.2

theorem Column.Deeper.indented {c d : Column} (hc : c.Orderly) (hd : d.Orderly) (h : c.Deeper d) :
    c.indented.Deeper d.indented := by
  obtain ⟨j, k, rfl⟩ := hc
  obtain ⟨a, b, rfl⟩ := hd
  obtain ⟨h1, h2⟩ := h
  simp only at h1 h2
  refine ⟨?_, by simp only [Column.indented]; omega⟩
  simp only [Column.indented]
  split <;> split <;> omega

structure Nested (columns : List Column) : Prop where
  orderly : ∀ c ∈ columns, c.Orderly
  deeper : columns.Pairwise Column.Deeper

theorem Nested.of_suffix {columns columns' : List Column} (h : Nested columns) (hs : columns' <:+ columns) :
    Nested columns' := ⟨fun c hc => h.orderly c (hs.subset hc), h.deeper.sublist hs.sublist⟩

variable {c : Column} {columns columns' outside : List Column}

theorem returnTo?_indented (h : Nested columns) (hc : returnTo? c columns = some columns') :
    returnTo? c.indented (columns.map Column.indented ++ outside) =
      some (columns'.map Column.indented ++ outside) := by
  induction columns with
  | nil => contradiction
  | cons top below ih =>
    have hbelow := h.of_suffix (List.suffix_cons top below)
    rw [returnTo?] at hc
    split at hc
    · next h1 =>
      split at hc
      · next h2 =>
        obtain rfl : c = top := Prod.ext h1 h2
        obtain rfl := Option.some.inj hc
        simp [returnTo?]
      · contradiction
    · split at hc
      · contradiction
      · have hmem : c ∈ below := mem_of_returnTo? hc
        have hdeeper := (List.rel_of_pairwise_cons h.deeper hmem).indented (h.orderly top List.mem_cons_self)
          (hbelow.orderly c hmem)
        rw [List.map_cons, List.cons_append, returnTo?, if_neg (Nat.ne_of_lt hdeeper.1),
          if_neg (Nat.not_lt_of_lt hdeeper.1)]
        exact ih hbelow hc

/-- A line starts further in where it starts, and the columns around it are open as well. -/
theorem enter?_indented (h : Nested columns) (horderly : c.Orderly) (hc : enter? c columns = some columns')
    (hroom : columns'.length + outside.length ≤ maxColumns) :
    enter? c.indented (columns.map Column.indented ++ outside) =
      some (columns'.map Column.indented ++ outside) := by
  cases columns with
  | nil => contradiction
  | cons top below =>
    rw [enter?] at hc
    rw [List.map_cons, List.cons_append, enter?]
    split at hc
    · next h1 =>
      split at hc
      · next h2 =>
        obtain rfl := Option.some.inj hc
        simp only [Bool.and_eq_true, decide_eq_true_eq] at h2
        have hdeeper := Column.Deeper.indented horderly (h.orderly top List.mem_cons_self) ⟨h1, h2.1⟩
        simp only [List.length_cons] at hroom
        have hlength : (below.map Column.indented ++ outside).length + 1 < maxColumns := by
          rw [List.length_append, List.length_map]
          omega
        rw [if_pos hdeeper.1, if_pos (by simp only [hdeeper.2, hlength, decide_true, Bool.and_self])]
        rfl
      · contradiction
    · have hreturns := @returnTo?_indented _ _ _ outside h hc
      have hnot : ¬ top.indented.1 < c.indented.1 := by
        obtain rfl | hmem := List.mem_cons.1 (mem_of_returnTo? hc)
        · exact Nat.lt_irrefl _
        · exact Nat.not_lt_of_lt ((List.rel_of_pairwise_cons h.deeper hmem).indented
            (h.orderly top List.mem_cons_self) (h.orderly c (List.mem_cons_of_mem top hmem))).1
      rw [if_neg hnot]
      exact hreturns

structure Grounded (columns : List Column) : Prop extends Nested columns where
  ground : columns.getLast? = some (0, 0)

theorem grounded_start : Grounded [(0, 0)] where
  orderly _ hc := ⟨0, 0, List.mem_singleton.1 hc⟩
  deeper := List.pairwise_singleton _ _
  ground := rfl

theorem Grounded.enter (h : Grounded columns) (horderly : c.Orderly) (hc : enter? c columns = some columns') :
    Grounded columns' := by
  obtain ⟨hnested, hground⟩ := h
  cases columns with
  | nil => contradiction
  | cons top below =>
    rw [enter?] at hc
    split at hc
    · next h1 =>
      split at hc
      · next h2 =>
        obtain rfl := Option.some.inj hc
        simp only [Bool.and_eq_true, decide_eq_true_eq] at h2
        refine ⟨⟨List.forall_mem_cons.2 ⟨horderly, hnested.orderly⟩, List.pairwise_cons.2
          ⟨List.forall_mem_cons.2 ⟨⟨h1, h2.1⟩, fun d hd => ?_⟩, hnested.deeper⟩⟩, by simpa using hground⟩
        obtain ⟨htop1, htop2⟩ := List.rel_of_pairwise_cons hnested.deeper hd
        exact ⟨Nat.lt_trans htop1 h1, Nat.lt_trans htop2 h2.1⟩
      · contradiction
    · refine ⟨hnested.of_suffix (suffix_of_returnTo? hc), ?_⟩
      obtain ⟨inside, outside, heq, rfl⟩ := split_of_returnTo? hc
      rw [heq, List.getLast?_append_cons] at hground
      exact hground

theorem Grounded.enter_ground (h : Grounded columns) : enter? (0, 0) columns = some [(0, 0)] := by
  obtain ⟨⟨-, hdeeper⟩, hground⟩ := h
  have hreturns : returnTo? (0, 0) columns = some [(0, 0)] := by
    induction columns with
    | nil => contradiction
    | cons top below ih =>
      cases below with
      | nil =>
        obtain rfl := Option.some.inj hground
        rfl
      | cons d below =>
        have hd : d.1 < top.1 := (List.rel_of_pairwise_cons hdeeper List.mem_cons_self).1
        have hne : ¬ 0 = top.1 := by omega
        rw [returnTo?, if_neg hne, if_neg (Nat.not_lt_zero _)]
        exact ih (by simpa using hground) (List.pairwise_cons.1 hdeeper).2
  cases columns with
  | nil => contradiction
  | cons top below => rw [enter?, if_neg (Nat.not_lt_zero _), hreturns]

/-- The lines of a program stand so many blocks deeper where they are further in. -/
theorem depths?_indented {cs more : List Column} {ds r : List Nat} (h : Grounded columns)
    (horderly : ∀ c ∈ cs, c.Orderly) (hds : depths? columns cs = some ds)
    (hroom : ∀ d ∈ ds, d + 1 + outside.length ≤ maxColumns)
    (hrest : ∀ columns', Grounded columns' →
      depths? (columns'.map Column.indented ++ outside) more = some r) :
    depths? (columns.map Column.indented ++ outside) (cs.map Column.indented ++ more) =
      some (ds.map (· + outside.length) ++ r) := by
  induction cs generalizing columns ds with
  | nil =>
    obtain rfl := Option.some.inj hds
    exact hrest columns h
  | cons c cs ih =>
    simp only [depths?, Option.bind_eq_bind, Option.bind_eq_some_iff] at hds
    obtain ⟨columns', henter, es, hes, hds⟩ := hds
    obtain rfl := Option.some.inj hds
    obtain ⟨hc, hcs⟩ := List.forall_mem_cons.1 horderly
    obtain ⟨hd, hroom⟩ := List.forall_mem_cons.1 hroom
    have hpos : columns' ≠ [] := by
      rintro rfl
      exact absurd (h.enter hc henter).ground (by simp)
    have hlength := List.length_pos_iff.2 hpos
    have hin := @enter?_indented _ _ _ outside h.toNested hc henter (by omega)
    have hsum : columns'.length + outside.length - 1 = columns'.length - 1 + outside.length := by omega
    simp only [List.map_cons, List.cons_append, depths?, hin, Option.bind_eq_bind, Option.bind_some,
      ih (h.enter hc henter) hcs hes hroom, List.length_append, List.length_map, hsum]

mutual

theorem rows_succ (d : Nat) (o : Outline) : rows (d + 1) o = (rows d o).map fun r => (r.1 + 1, r.2) :=
  match o with
  | mk line body => by simp [rows, allRows_succ (d + 1) body]

theorem allRows_succ (d : Nat) (os : List Outline) :
    allRows (d + 1) os = (allRows d os).map fun r => (r.1 + 1, r.2) :=
  match os with
  | [] => rfl
  | o :: os => by simp [allRows, rows_succ d o, allRows_succ d os]

end

mutual

theorem depth_rows (d : Nat) (o : Outline) : ∀ r ∈ rows d o, r.1 ≤ d + o.height :=
  match o with
  | mk line body => by
    rw [rows, List.forall_mem_cons, height]
    refine ⟨Nat.le_add_right d _, fun r hr => ?_⟩
    have := depth_allRows (d + 1) body r hr
    omega

theorem depth_allRows (d : Nat) (os : List Outline) : ∀ r ∈ allRows d os, r.1 < d + allHeight os :=
  match os with
  | [] => nofun
  | o :: os => by
    rw [allRows, List.forall_mem_append, allHeight]
    refine ⟨fun r hr => ?_, fun r hr => ?_⟩
    · have := depth_rows d o r hr
      omega
    · have := depth_allRows d os r hr
      omega

end

/-- The text of a program can be written further in line by line: no line ends inside a string, no joined
line goes on into the blank lines at the end, and no tab stands behind a space in front of a statement. -/
structure Movable (t : Text) : Prop where
  unbroken : LineScan.Unbroken Lexeme.nameRule 0 {} (Text.sourceLines t)
  ends : (LineScan.lines Lexeme.nameRule 0 {}
    (Scriptlet.trimBlankLines (Text.sourceLines t))).2.joined = false
  margins : ∀ ls, lines? t = some ls → ∀ l ∈ ls, TabsFirst l.1

instance (t : Text) : Decidable (Movable t) :=
  decidable_of_iff ((∀ ms ∈ (Text.sourceLines t).inits,
      (LineScan.lines Lexeme.nameRule 0 {} ms).2.string = none) ∧
    (LineScan.lines Lexeme.nameRule 0 {}
      (Scriptlet.trimBlankLines (Text.sourceLines t))).2.joined = false ∧
    ∀ l ∈ (lines? t).getD [], TabsFirst l.1) <| by
  constructor
  · rintro ⟨hunbroken, hends, hmargins⟩
    refine ⟨fun ms hms => hunbroken ms ((List.mem_inits ms _).2 hms), hends, fun ls hls => ?_⟩
    rwa [hls] at hmargins
  · rintro ⟨hunbroken, hends, hmargins⟩
    refine ⟨fun ms hms => hunbroken ms ((List.mem_inits ms _).1 hms), hends, ?_⟩
    cases hls : lines? t with
    | none => exact nofun
    | some ls => exact hmargins ls hls

def furtherIn (t : Text) : List Text :=
  (Scriptlet.trimBlankLines (Text.sourceLines t)).map fun l => Scriptlet.indentLine (Text.trimEnd l)

/-- What the lines of a program are read as further in: the same lexemes, a block deeper, whatever stands
behind them. -/
structure FurtherIn (os : List Outline) (items : List Item) : Prop where
  lexemes : items.map Prod.snd = (allRows 1 os).map Prod.snd
  depths : ∀ more r, depths? (columnsAt 1) ((4, 4) :: more) = some r →
    depths? (columnsAt 1) (items.map (fun i => columnOf i.1) ++ (4, 4) :: more) =
      some ((allRows 1 os).map Prod.fst ++ r)

theorem mapM_eq_some {α β : Type} {f : α → Option β} {as : List α} {bs : List β} (h : as.mapM f = some bs) :
    as.map f = bs.map some := by
  induction as generalizing bs with
  | nil =>
    obtain rfl := Option.some.inj h
    rfl
  | cons a as ih =>
    simp only [List.mapM_cons, Option.pure_def, Option.bind_eq_bind, Option.bind_eq_some_iff] at h
    obtain ⟨b, hb, cs, hcs, hbs⟩ := h
    obtain rfl := Option.some.inj hbs
    rw [List.map_cons, List.map_cons, hb, ih hcs]

theorem length_depths? {columns cs : List Column} {ds : List Nat} (h : depths? columns cs = some ds) :
    ds.length = cs.length := by
  induction cs generalizing columns ds with
  | nil =>
    obtain rfl := Option.some.inj h
    rfl
  | cons c cs ih =>
    simp only [depths?, Option.bind_eq_bind, Option.bind_eq_some_iff] at h
    obtain ⟨columns', -, es, hes, hds⟩ := h
    obtain rfl := Option.some.inj hds
    rw [List.length_cons, List.length_cons, ih hes]

def itemsBehind (b : Text) (ls : List Line) (ts : List (List Lexeme)) : List Item :=
  List.zipWith (fun l x => (b ++ l.1, x)) ls ts

theorem map_itemsBehind {b : Text} {ls : List Line} {ts : List (List Lexeme)}
    (hfit : ∀ l ∈ ls, bracketsFit 0 l.2 = true) (hts : ls.map (fun l => Lexeme.ofTokens? l.2) = ts.map some) :
    (ls.map fun l => (content l).indented b) = (itemsBehind b ls ts).map Item.content ∧
      (itemsBehind b ls ts).map Prod.snd = ts ∧
      (itemsBehind b ls ts).map (fun i => columnOf i.1) = ls.map fun l => columnOf (b ++ l.1) := by
  induction ls generalizing ts with
  | nil =>
    cases ts with
    | nil => exact ⟨rfl, rfl, rfl⟩
    | cons x ts => contradiction
  | cons l ls ih =>
    cases ts with
    | nil => contradiction
    | cons x ts =>
      obtain ⟨hl, hls⟩ := List.forall_mem_cons.1 hfit
      obtain ⟨hx, hts⟩ := List.cons.inj hts
      obtain ⟨hcontents, hlexemes, hcolumns⟩ := ih hls hts
      have hline : (content l).indented b = Item.content (b ++ l.1, x) := by
        simp [content, Content.indented, Item.content, hl, hx]
      refine ⟨?_, ?_, ?_⟩
      · rw [List.map_cons, hline, hcontents]
        rfl
      · exact congrArg (x :: ·) hlexemes
      · exact congrArg (columnOf (b ++ l.1) :: ·) hcolumns

/-- At the first column of a function's body a block ends there, however deep it is. -/
theorem depths?_body {columns more : List Column} {r : List Nat} (h : Grounded columns)
    (hmore : depths? (columnsAt 1) ((4, 4) :: more) = some r) :
    depths? (columns.map Column.indented ++ [(0, 0)]) ((4, 4) :: more) = some r := by
  have hin := @enter?_indented _ _ _ [(0, 0)] h.toNested ⟨0, 0, rfl⟩ h.enter_ground (by decide)
  have hground : Column.indented (0, 0) = (4, 4) := rfl
  have hhere : enter? (4, 4) (columnsAt 1) = some (columnsAt 1) := rfl
  rw [hground] at hin
  rw [depths?, hhere] at hmore
  rw [depths?, hin]
  exact hmore

/-- A program is read as the same program a block deeper where its text is written one step further in. -/
theorem scans_furtherIn {t : Text} {os : List Outline} (h : ofText? t = some os) (hmovable : Movable t)
    (hheight : allHeight os < maxColumns) :
    ∃ items, Scans (furtherIn t) (items.map Item.content) ∧ FurtherIn os items := by
  simp only [ofText?, Option.bind_eq_bind, Option.bind_eq_some_iff, guard] at h
  obtain ⟨L, hL, _, hguard, ds, hds, ts, hts, hos⟩ := h
  have hfit : ∀ l ∈ L, bracketsFit 0 l.2 = true :=
    List.all_eq_true.1 (Option.ite_none_right_eq_some.1 hguard).1
  have hts := mapM_eq_some hts
  have hlength : ds.length = ts.length := by
    have := congrArg List.length hts
    rw [List.length_map, List.length_map] at this
    rw [length_depths? hds, List.length_map, this]
  have hclimbs : Climbs 0 ((ds.zip ts).map Prod.fst) := by
    rw [List.map_fst_zip (Nat.le_of_eq hlength)]
    exact climbs_of_depths? hds
  have hrows := allRows_of_ofLines? hos hclimbs
  have hfirst : (allRows 0 os).map Prod.fst = ds := by
    rw [hrows, List.map_fst_zip (Nat.le_of_eq hlength)]
  have hsecond : (allRows 0 os).map Prod.snd = ts := by
    rw [hrows, List.map_snd_zip (Nat.le_of_eq hlength.symm)]
  obtain ⟨hcontents, hlexemes, hcolumns⟩ := map_itemsBehind (b := Scriptlet.indentStep) hfit hts
  have hspelled : ∀ l ∈ L, (Lexeme.ofTokens? l.2).isSome = true := by
    intro l hl
    have hmem := List.mem_map_of_mem (f := fun l : Line => Lexeme.ofTokens? l.2) hl
    rw [hts] at hmem
    obtain ⟨x, -, hx⟩ := List.mem_map.1 hmem
    rw [← hx]
    rfl
  have hscans := scans_indented hL hmovable.unbroken hmovable.ends hspelled
  rw [hcontents] at hscans
  refine ⟨_, hscans, ?_, fun more r hmore => ?_⟩
  · rw [hlexemes, allRows_succ, List.map_map, ← hsecond]
    rfl
  · have hmargins := hmovable.margins L hL
    have hmoved : (L.map fun l => columnOf (Scriptlet.indentStep ++ l.1)) =
        (L.map fun l => columnOf l.1).map Column.indented := by
      rw [List.map_map]
      exact List.map_congr_left fun l hl => (hmargins l hl).columnOf.2
    have horderly : ∀ c ∈ L.map fun l => columnOf l.1, c.Orderly := by
      intro c hc
      obtain ⟨l, hl, rfl⟩ := List.mem_map.1 hc
      exact (hmargins l hl).columnOf.1
    have hroom : ∀ d ∈ ds, d + 1 + [((0, 0) : Column)].length ≤ maxColumns := by
      intro d hd
      rw [← hfirst] at hd
      obtain ⟨row, hrow, rfl⟩ := List.mem_map.1 hd
      have := depth_allRows 0 os row hrow
      simp only [List.length_singleton]
      omega
    have hdepths := depths?_indented grounded_start horderly hds hroom
      (fun columns' hcolumns' => depths?_body hcolumns' hmore)
    have hdeeper : (allRows 1 os).map Prod.fst = ds.map (· + 1) := by
      rw [allRows_succ, ← hfirst, List.map_map, List.map_map]
      rfl
    rw [hcolumns, hmoved, hdeeper]
    exact hdepths

end TemplateEngine.Script.Outline
