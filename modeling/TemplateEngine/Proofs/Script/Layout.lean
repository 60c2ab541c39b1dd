import Mathlib.Data.Option.Basic
import TemplateEngine.Proofs.Script.Scanning
import TemplateEngine.Proofs.Text.PhysicalLines

set_option autoImplicit false

/-!
# Texts whose lines lay out an outline

A program that is written four blanks a block deep is read as the outline it was written from. The
lines are scanned on their own, whatever else the program holds; what they make together depends on
how deep they stand only.
-/
namespace TemplateEngine.Script

namespace Lexeme

theorem ofToken?_moved (r c : Nat) (t : Token) : ofToken? (t.moved r c) = ofToken? t := rfl

theorem spoils_moved (r c : Nat) (t u : Token) :
    spoils (t.moved r c) (u.moved r c) = spoils t u := by
  simp only [spoils, Token.moved, Nat.add_assoc, Nat.add_left_cancel_iff]
  rfl

theorem ofTokens?_moved (r c : Nat) (ts : List Token) :
    ofTokens? (ts.map (Token.moved r c)) = ofTokens? ts := by
  induction ts with
  | nil => rfl
  | cons t ts ih =>
    have hs : (ts.map (Token.moved r c)).head?.any (spoils (t.moved r c)) =
        ts.head?.any (spoils t) := by
      cases ts with
      | nil => rfl
      | cons u us => simp [spoils_moved]
    rw [List.map_cons, ofTokens?, ofTokens?, hs, ofToken?_moved, ih]

theorem ofTokens?_cons {t : Token} {ts : List Token} {l : Lexeme} {ls : List Lexeme}
    (hk : t.kind ≠ .number) (h : ofToken? t = some l) (hs : ofTokens? ts = some ls) :
    ofTokens? (t :: ts) = some (l :: ls) := by
  have : ts.head?.any (spoils t) = false := by
    cases ts <;> simp [spoils, hk]
  simp [ofTokens?, this, h, hs, guard]

end Lexeme

namespace Outline

theorem bracketsFit_moved (r c : Nat) (n : Int) (ts : List Token) :
    bracketsFit n (ts.map (Token.moved r c)) = bracketsFit n ts := by
  induction ts generalizing n with
  | nil => rfl
  | cons t ts ih =>
    have := LineScan.depthAfter_moved r c n [t]
    rw [List.map_cons, List.map_nil] at this
    simp only [List.map_cons, bracketsFit, this, ih]

def indentOf (d : Nat) : Text := List.replicate (4 * d) ' '

/-- The blanks in front of a line, whether no more brackets are open than may be, and its lexemes. -/
abbrev Content := Text × Bool × Option (List Lexeme)

def content (l : Line) : Content := (l.1, bracketsFit 0 l.2, Lexeme.ofTokens? l.2)

abbrev Item := Text × List Lexeme

def Item.content (i : Item) : Content := (i.1, true, some i.2)

abbrev Row := Nat × List Lexeme

def Row.item (o : Row) : Item := (indentOf o.1, o.2)

/-- The lines of a text are read as lines with these contents, wherever in a program they stand. -/
def Scans (ls : List Text) (cs : List Content) : Prop :=
  ∀ row b, ∃ es ds b', LineScan.lines Lexeme.nameRule row {} ls = (es, {}) ∧
    (∀ rest, cutLines b [] (es ++ rest) = ds ++ cutLines b' [] rest) ∧ ds.map content = cs

def ReadAs (ls : List Text) (rows : List Row) : Prop :=
  Scans ls ((rows.map Row.item).map Item.content)

theorem readAs_nil : ReadAs [] [] := fun _ b => ⟨[], [], b, rfl, fun _ => rfl, rfl⟩

theorem Scans.append {ls ms : List Text} {cs more : List Content} (h : Scans ls cs)
    (k : Scans ms more) : Scans (ls ++ ms) (cs ++ more) := by
  intro row b
  obtain ⟨es, ds, b', hes, hds, rfl⟩ := h row b
  obtain ⟨fs, gs, b'', hfs, hgs, rfl⟩ := k (row + ls.length) b'
  refine ⟨es ++ fs, ds ++ gs, b'', ?_, fun rest => ?_, List.map_append⟩
  · rw [LineScan.lines_append, hes, hfs]
  · rw [List.append_assoc, hds, hgs, List.append_assoc]

theorem ReadAs.append {ls ms : List Text} {rows more : List Row} (h : ReadAs ls rows)
    (k : ReadAs ms more) : ReadAs (ls ++ ms) (rows ++ more) := by
  rw [ReadAs, List.map_append, List.map_append]
  exact Scans.append h k

theorem readAs_comment {l : Text} (h : l = [] ∨ l.head? = some '#') : ReadAs [l] [] :=
  fun row b => ⟨[], [], b, by rw [LineScan.lines, LineScan.line_of_comment row h]; rfl,
    fun _ => rfl, rfl⟩

theorem cutLines_tokens (b : Text) (done ts : List Token) (es : List Event) :
    cutLines b done (ts.map Event.token ++ es) = cutLines b (ts.reverse ++ done) es := by
  induction ts generalizing done with
  | nil => rfl
  | cons t ts ih => simp [cutLines, ih]

theorem cutLines_statement (b blanks : Text) (row : Nat) {ts : List Token} (h : ts ≠ [])
    (rest : List Event) :
    cutLines b [] (LineScan.statement blanks row ts ++ rest) =
      [(blanks, ts.map (Token.moved row blanks.length))] ++ cutLines blanks [] rest := by
  have hne : (ts.map (Token.moved row blanks.length)).reverse ≠ [] := by simpa using h
  simp only [LineScan.statement, List.cons_append, List.append_assoc, cutLines, cutLines_tokens,
    List.append_nil, List.nil_append, List.reverse_reverse]
  rw [if_neg hne]

theorem isGap_of_mem_indentOf {d : Nat} : ∀ c ∈ indentOf d, LineScan.isGap c = true := by
  intro c hc
  rw [List.eq_of_mem_replicate hc]
  rfl

theorem readAs_line {code : Text} {ts : List Token} {l : List Lexeme}
    (h : LineScan.Reads code ts) (hb : bracketsFit 0 ts = true)
    (hl : Lexeme.ofTokens? ts = some l) (d : Nat) : ReadAs [indentOf d ++ code] [(d, l)] := by
  intro row b
  refine ⟨LineScan.statement (indentOf d) row ts,
    [(indentOf d, ts.map (Token.moved row (indentOf d).length))], indentOf d, ?_,
    cutLines_statement b (indentOf d) row h.ne_nil, ?_⟩
  · rw [LineScan.lines, LineScan.line_of_reads h isGap_of_mem_indentOf]
    simp [LineScan.lines]
  · simp [content, Item.content, Row.item, bracketsFit_moved, hb, Lexeme.ofTokens?_moved, hl]

theorem cutLines_moved (r : Nat) (b : Text) (done : List Token) (es : List Event) :
    cutLines b (done.map (Token.moved r 0)) (es.map (Event.moved r)) =
      (cutLines b done es).map fun l => (l.1, l.2.map (Token.moved r 0)) := by
  induction es generalizing b done with
  | nil =>
    by_cases h : done = []
    · simp [cutLines, h]
    · simp [cutLines, h, List.map_reverse]
  | cons e es ih =>
    cases e with
    | margin c => exact ih c done
    | token t => exact ih b (t :: done)
    | lineEnd =>
      have := ih b []
      rw [List.map_nil] at this
      by_cases h : done = []
      · simp [cutLines, h, Event.moved, this]
      · simp [cutLines, h, Event.moved, this, List.map_reverse]

def blanksAfter (b : Text) : List Event → Text
  | [] => b
  | .margin c :: es => blanksAfter c es
  | _ :: es => blanksAfter b es

theorem cutLines_append (b : Text) (done : List Token) (es rest : List Event) :
    cutLines b done (es ++ .lineEnd :: rest) =
      cutLines b done (es ++ [.lineEnd]) ++ cutLines (blanksAfter b es) [] rest := by
  induction es generalizing b done with
  | nil => by_cases h : done = [] <;> simp [cutLines, blanksAfter, h]
  | cons e es ih =>
    cases e with
    | margin c => exact ih c done
    | token t => exact ih b (t :: done)
    | lineEnd => by_cases h : done = [] <;> simp [cutLines, blanksAfter, h, ih]

/-- Whether scanned lines start with a statement, end it, and have these contents. -/
def yields (cs : List Content) : List Event × LineState → Bool
  | (.margin b :: es, st) =>
    st = {} && es.getLast? = some .lineEnd && (cutLines b [] es).map content = cs
  | _ => false

/-- What lines are read as can be found out by scanning them as a program of their own. -/
theorem scans_of_yields {ls : List Text} {cs : List Content}
    (h : yields cs (LineScan.lines Lexeme.nameRule 0 {} ls) = true) : Scans ls cs := by
  intro row b
  have hmoved := LineScan.lines_moved Lexeme.nameRule row 0 {} ls
  rw [LineState.moved_start, Nat.add_zero] at hmoved
  revert h
  generalize LineScan.lines Lexeme.nameRule 0 {} ls = r at hmoved
  obtain ⟨es, st⟩ := r
  intro h
  unfold yields at h
  split at h
  · next margin es _ he =>
    obtain ⟨rfl, rfl⟩ := Prod.mk.inj he
    simp only [Bool.and_eq_true, decide_eq_true_eq] at h
    obtain ⟨⟨rfl, hlast⟩, rfl⟩ := h
    obtain ⟨fs, rfl⟩ := List.getLast?_eq_some_iff.1 hlast
    have hcut := cutLines_moved row margin [] (fs ++ [.lineEnd])
    refine ⟨_, (cutLines margin [] (fs ++ [.lineEnd])).map fun l => (l.1, l.2.map (Token.moved row 0)),
      blanksAfter margin (fs.map (Event.moved row)), hmoved, fun rest => ?_, ?_⟩
    · rw [← hcut]
      simpa [cutLines, Event.moved] using
        cutLines_append margin [] (fs.map (Event.moved row)) rest
    · rw [List.map_map]
      refine List.map_congr_left fun l _ => ?_
      simp [content, bracketsFit_moved, Lexeme.ofTokens?_moved]
  · contradiction

theorem readAs_of_yields {ls : List Text} {rows : List Row}
    (h : yields ((rows.map Row.item).map Item.content) (LineScan.lines Lexeme.nameRule 0 {} ls) = true) :
    ReadAs ls rows := scans_of_yields h

theorem foldl_spaces (n m : Nat) : (List.replicate n ' ').foldl
    (fun n c => if c = '\t' then (n / 8 + 1) * 8 else if c = '\x0c' then 0 else n + 1) m = m + n := by
  induction n generalizing m with
  | zero => rfl
  | succ n ih =>
    rw [List.replicate_succ, List.foldl_cons, ih]
    simp
    omega

theorem columnAfter_replicate (n : Nat) : columnAfter (List.replicate n ' ') = n := by
  rw [columnAfter, foldl_spaces, Nat.zero_add]

theorem columnOf_indentOf (d : Nat) : columnOf (indentOf d) = (4 * d, 4 * d) := by
  simp [columnOf, indentOf, columnAfter_replicate]

def columnsAt : Nat → List Column
  | 0 => [(0, 0)]
  | d + 1 => (4 * (d + 1), 4 * (d + 1)) :: columnsAt d

theorem length_columnsAt (d : Nat) : (columnsAt d).length = d + 1 := by
  induction d with
  | zero => rfl
  | succ d ih => simp [columnsAt, ih]

theorem returnTo?_columnsAt {d k : Nat} (hk : d ≤ k) :
    returnTo? (4 * d, 4 * d) (columnsAt k) = some (columnsAt d) := by
  induction k with
  | zero =>
    obtain rfl : d = 0 := by omega
    rfl
  | succ k ih =>
    obtain rfl | h : d = k + 1 ∨ d ≤ k := by omega
    · simp [columnsAt, returnTo?]
    · have h1 : ¬ 4 * d = 4 * (k + 1) := by omega
      have h2 : ¬ 4 * (k + 1) < 4 * d := by omega
      rw [columnsAt, returnTo?, if_neg h1, if_neg h2]
      exact ih h

theorem enter?_columnsAt {d k : Nat} (hk : d ≤ k + 1) (hd : d < maxColumns) :
    enter? (4 * d, 4 * d) (columnsAt k) = some (columnsAt d) := by
  obtain ⟨below, hbelow, hlength⟩ : ∃ below, columnsAt k = (4 * k, 4 * k) :: below ∧
      below.length = k := by
    cases k with
    | zero => exact ⟨[], rfl, rfl⟩
    | succ k => exact ⟨columnsAt k, rfl, length_columnsAt k⟩
  rw [hbelow, enter?]
  obtain rfl | h : d = k + 1 ∨ d ≤ k := by omega
  · have hdeeper : 4 * k < 4 * (k + 1) := by omega
    simp only [hdeeper, hlength, hd, decide_true, Bool.and_self, if_true, ← hbelow]
    rfl
  · have hback : ¬ 4 * k < 4 * d := by omega
    rw [if_neg hback, ← hbelow]
    exact returnTo?_columnsAt h

mutual

def rows (d : Nat) : Outline → List Row
  | mk line body => (d, line) :: allRows (d + 1) body

def allRows (d : Nat) : List Outline → List Row
  | [] => []
  | o :: os => rows d o ++ allRows d os

end

theorem allRows_append (d : Nat) (os ps : List Outline) :
    allRows d (os ++ ps) = allRows d os ++ allRows d ps := by
  induction os with
  | nil => rfl
  | cons o os ih => simp [allRows, ih]

mutual

/-- How many blocks deep the lines of an outline stand at most, it being at no depth itself. -/
def height : Outline → Nat
  | mk _ body => allHeight body

def allHeight : List Outline → Nat
  | [] => 0
  | o :: os => max (height o + 1) (allHeight os)

end

theorem allHeight_append (os ps : List Outline) :
    allHeight (os ++ ps) = max (allHeight os) (allHeight ps) := by
  induction os with
  | nil => simp [allHeight]
  | cons o os ih => simp [allHeight, ih, Nat.max_assoc]

def Row.column (o : Row) : Column := (4 * o.1, 4 * o.1)

theorem depths?_cons {d k : Nat} {cs : List Column} {ds : List Nat} (hk : d ≤ k + 1)
    (hd : d < maxColumns) (h : depths? (columnsAt d) cs = some ds) :
    depths? (columnsAt k) ((4 * d, 4 * d) :: cs) = some (d :: ds) := by
  simp [depths?, enter?_columnsAt hk hd, h, length_columnsAt]

mutual

theorem depths?_rows {c : List Column} {r : List Nat} (d k : Nat) (o : Outline) (hk : d ≤ k + 1)
    (hd : d + o.height < maxColumns)
    (h : ∀ j, d ≤ j → depths? (columnsAt j) c = some r) :
    depths? (columnsAt k) ((rows d o).map Row.column ++ c) =
      some ((rows d o).map Prod.fst ++ r) :=
  match o with
  | mk line body => by
    rw [height] at hd
    have hbody := depths?_allRows (d + 1) d body (Nat.le_refl _) (by omega) fun j hj => h j (by omega)
    simp only [rows, List.map_cons, List.cons_append]
    exact depths?_cons hk (by omega) hbody

theorem depths?_allRows {c : List Column} {r : List Nat} (d k : Nat) (os : List Outline)
    (hk : d ≤ k + 1) (hd : d + allHeight os < maxColumns + 1)
    (h : ∀ j, d ≤ j + 1 → depths? (columnsAt j) c = some r) :
    depths? (columnsAt k) ((allRows d os).map Row.column ++ c) =
      some ((allRows d os).map Prod.fst ++ r) :=
  match os with
  | [] => h k hk
  | o :: os => by
    rw [allHeight] at hd
    simp only [allRows, List.map_append, List.append_assoc]
    exact depths?_rows d k o hk (by omega) fun j hj =>
      depths?_allRows d j os (by omega) (by omega) h

end

def addAll : (depth : Nat) → List Outline → List (List Outline) → List (List Outline)
  | _, [], st => st
  | 0, os, [] => [os]
  | 0, os, same :: deeper => (os ++ same) :: deeper
  | d + 1, os, [] => [] :: addAll d os []
  | d + 1, os, same :: deeper => same :: addAll d os deeper

@[simp] theorem addAll_nil (d : Nat) (st : List (List Outline)) : addAll d [] st = st := by
  rw [addAll]

theorem addAll_cons_cons (d : Nat) (os : List Outline) (same : List Outline)
    (deeper : List (List Outline)) :
    addAll (d + 1) os (same :: deeper) = same :: addAll d os deeper := by
  cases os with
  | nil => simp
  | cons o os => rfl

theorem length_addAll {d : Nat} {os : List Outline} {st : List (List Outline)}
    (h : st.length ≤ d + 1) : (addAll d os st).length ≤ d + 1 := by
  induction d generalizing st with
  | zero => cases os <;> cases st <;> simp_all [addAll]
  | succ d ih =>
    cases os with
    | nil => exact h
    | cons o os =>
      cases st with
      | nil => simpa [addAll] using @ih [] (by simp)
      | cons same deeper =>
        simp only [List.length_cons] at h
        simpa [addAll] using @ih deeper (by omega)

theorem addAll_addAll (d : Nat) (o : Outline) (os : List Outline) (st : List (List Outline)) :
    addAll d [o] (addAll d os st) = addAll d (o :: os) st := by
  cases os with
  | nil => simp
  | cons p os =>
    induction d generalizing st with
    | zero => cases st <;> rfl
    | succ d ih => cases st <;> simp [addAll, ih]

theorem insert_addAll {line : List Lexeme} {d : Nat} (body : List Outline)
    {st : List (List Outline)} (h : st.length ≤ d + 1) :
    insert line d (addAll (d + 1) body st) = addAll d [mk line body] st := by
  induction d generalizing st with
  | zero =>
    obtain rfl | ⟨same, rfl⟩ : st = [] ∨ ∃ same, st = [same] := by
      cases st with
      | nil => exact .inl rfl
      | cons same deeper =>
        simp only [List.length_cons] at h
        have : deeper = [] := List.eq_nil_of_length_eq_zero (by omega)
        exact .inr ⟨same, by rw [this]⟩
    · cases body <;> rfl
    · cases body <;> rfl
  | succ d ih =>
    cases st with
    | nil =>
      have := @ih [] (by simp)
      cases body with
      | nil => simpa [addAll, insert] using this
      | cons o os => simpa [addAll, insert] using this
    | cons same deeper =>
      simp only [List.length_cons] at h
      rw [addAll_cons_cons, addAll_cons_cons, insert, ih (by omega)]

mutual

theorem foldr_rows (d : Nat) (o : Outline) {st : List (List Outline)} (h : st.length ≤ d + 1) :
    (rows d o).foldr (fun l deeper => insert l.2 l.1 deeper) st = addAll d [o] st :=
  match o with
  | mk line body => by
    simp only [rows, List.foldr_cons]
    rw [foldr_allRows (d + 1) body (by omega), insert_addAll body h]

theorem foldr_allRows (d : Nat) (os : List Outline) {st : List (List Outline)}
    (h : st.length ≤ d + 1) :
    (allRows d os).foldr (fun l deeper => insert l.2 l.1 deeper) st = addAll d os st :=
  match os with
  | [] => by cases d <;> rfl
  | o :: os => by
    simp only [allRows, List.foldr_append]
    rw [foldr_allRows d os h, foldr_rows d o (length_addAll h), addAll_addAll]

end

theorem ofLines?_allRows (os : List Outline) : ofLines? (allRows 0 os) = some os := by
  rw [ofLines?, foldr_allRows 0 os (by simp)]
  cases os <;> rfl

def unlines (ls : List Text) : Text := ls.flatMap fun l => l ++ ['\n']

theorem physicalLines_unlines (ls : List Text) :
    Text.physicalLines (unlines ls) = ls.flatMap Text.physicalLines ++ [[]] := by
  induction ls with
  | nil => rfl
  | cons l ls ih =>
    have hcons : unlines (l :: ls) = l ++ '\n' :: unlines ls := by simp [unlines]
    rw [hcons, Text.physicalLines_append, ih, List.flatMap_cons, List.append_assoc]

theorem unlines_append (ls ms : List Text) : unlines (ls ++ ms) = unlines ls ++ unlines ms :=
  List.flatMap_append

theorem not_mem_unlines {ls : List Text} {c : Char} (hc : c ≠ '\n') (h : ∀ l ∈ ls, c ∉ l) :
    c ∉ unlines ls := by
  intro hmem
  obtain ⟨l, hl, hcl⟩ := List.mem_flatMap.1 hmem
  obtain hcl | hcl := List.mem_append.1 hcl
  · exact h l hl hcl
  · exact hc (List.mem_singleton.1 hcl)

theorem unlines_physicalLines (t : Text) : unlines (Text.physicalLines t) = t ++ ['\n'] := by
  induction t with
  | nil => rfl
  | cons c t ih =>
    obtain ⟨l, ls, ht⟩ := List.exists_cons_of_ne_nil (Text.physicalLines_ne_nil t)
    rw [Text.physicalLines, ht]
    rw [ht] at ih
    simp only [unlines, List.flatMap_cons] at ih
    by_cases hc : c = '\n'
    · simp [hc, unlines, ih]
    · simp only [hc, if_false, unlines, List.flatMap_cons, List.cons_append, ih]

theorem unifyLineEnds_unlines {ls : List Text} (h : ∀ l ∈ ls, l.getLast? ≠ some '\r') :
    Text.unifyLineEnds (unlines ls) = unlines (ls.flatMap Text.sourceLines) := by
  induction ls with
  | nil => rfl
  | cons l ls ih =>
    obtain ⟨hl, hls⟩ := List.forall_mem_cons.1 h
    have hcons : unlines (l :: ls) = l ++ '\n' :: unlines ls := by simp [unlines]
    have hnext : Text.unifyLineEnds ('\n' :: unlines ls) = '\n' :: Text.unifyLineEnds (unlines ls) :=
      Text.unifyLineEnds_cons (by simp)
    rw [hcons, Text.unifyLineEnds_append fun hlast => absurd hlast hl, hnext, ih hls, List.flatMap_cons,
      unlines_append, Text.sourceLines, unlines_physicalLines, List.append_assoc, List.singleton_append]

theorem ofText?_unifyLineEnds (t : Text) : ofText? (Text.unifyLineEnds t) = ofText? t := by
  simp only [ofText?, lines?, Text.unifyLineEnds_eq_self (Text.not_mem_unifyLineEnds t)]

theorem physicalLines_unifyLineEnds {ls : List Text} (h : ∀ l ∈ ls, '\n' ∉ l ∧ '\r' ∉ l) :
    Text.physicalLines (Text.unifyLineEnds (unlines ls)) = ls ++ [[]] := by
  have hr := not_mem_unlines (c := '\r') (by decide) fun l hl => (h l hl).2
  have hpieces : ls.flatMap Text.physicalLines = ls := by
    have hsingle := List.map_congr_left fun l hl => Text.physicalLines_eq_singleton (h l hl).1
    rw [List.flatMap_def, hsingle, ← List.flatMap_def, List.flatMap_singleton']
  rw [Text.unifyLineEnds_eq_self hr, physicalLines_unlines, hpieces]

theorem mapM_some {α β : Type} (f : α → β) (as : List α) :
    as.mapM (fun a => some (f a)) = some (as.map f) := by
  induction as with
  | nil => rfl
  | cons a as ih => simp [ih]

theorem ofText?_of_scans {ls : List Text} {items : List Item} {ds : List Nat} {os : List Outline}
    (h : Scans ls (items.map Item.content)) (hn : ∀ l ∈ ls, '\n' ∉ l ∧ '\r' ∉ l)
    (hdepths : depths? [(0, 0)] (items.map fun i => columnOf i.1) = some ds)
    (hos : ofLines? (ds.zip (items.map Prod.snd)) = some os) : ofText? (unlines ls) = some os := by
  obtain ⟨es, cut, b, hes, hcut, hitems⟩ := h 0 []
  have hcut : cutLines [] [] es = cut := by simpa [cutLines] using hcut []
  have hlines : lines? (unlines ls) = some cut := by
    simp only [lines?, physicalLines_unifyLineEnds hn, List.getLast?_append, List.getLast?_singleton,
      Option.some_or, if_true, List.dropLast_concat, LineScan.events?, hes]
    simp [hcut]
  have hfit : (cut.all fun l => bracketsFit 0 l.2) = true := by
    have := congrArg (List.all · fun x => x.2.1) hitems
    simp only [List.all_map, Function.comp_def, content, Item.content] at this
    rw [this]
    simp
  have hcolumns : (cut.map fun l => columnOf l.1) = items.map fun i => columnOf i.1 := by
    have := congrArg (List.map fun x => columnOf x.1) hitems
    simpa only [List.map_map, Function.comp_def, content, Item.content] using this
  have hlexemes : (cut.mapM fun l => Lexeme.ofTokens? l.2) = some (items.map Prod.snd) := by
    have hmap : cut.map (fun l => Lexeme.ofTokens? l.2) = items.map fun i => some i.2 := by
      have := congrArg (List.map fun x => x.2.2) hitems
      simpa [content, Item.content, Function.comp_def] using this
    have hm : cut.mapM (fun l => Lexeme.ofTokens? l.2) =
        (cut.map fun l => Lexeme.ofTokens? l.2).mapM id := by simp
    rw [hm, hmap, List.mapM_map]
    exact mapM_some Prod.snd items
  simp only [ofText?, hlines, Option.bind_eq_bind, Option.bind_some, hfit, guard, if_true,
    Option.pure_def, hcolumns, hdepths, hlexemes, hos]

theorem ofText?_unlines {ls : List Text} {os : List Outline} (h : ReadAs ls (allRows 0 os))
    (hn : ∀ l ∈ ls, '\n' ∉ l ∧ '\r' ∉ l) (hd : allHeight os ≤ maxColumns) :
    ofText? (unlines ls) = some os := by
  have hdepths := depths?_allRows (c := []) (r := []) 0 0 os (by omega) (by omega) fun j _ => rfl
  rw [List.append_nil, List.append_nil] at hdepths
  refine @ofText?_of_scans _ _ ((allRows 0 os).map Prod.fst) _ h hn ?_ ?_
  · have hcolumn : Row.column = (fun i : Item => columnOf i.1) ∘ Row.item :=
      funext fun o => (columnOf_indentOf o.1).symm
    rw [List.map_map, ← hcolumn]
    exact hdepths
  · have hsnd : ((allRows 0 os).map Row.item).map Prod.snd = (allRows 0 os).map Prod.snd := by
      rw [List.map_map]
      rfl
    rw [hsnd, List.zip_map', List.map_id', ofLines?_allRows]

end Outline
end TemplateEngine.Script
