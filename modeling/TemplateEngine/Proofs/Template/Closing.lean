import TemplateEngine.Proofs.Template.Tree

set_option autoImplicit false

/-!
# Closing blocks

A block that the end of a template closes looks like one that an end directive closes. So end directives
behind a template change nothing of its code; those for which no block is left are noticed.
-/
namespace TemplateEngine

namespace Body

theorem closeBlock_of_nil {b : Body} (h : b.blocks = []) : b.closeBlock = b := by
  rw [closeBlock, h]

theorem closeBlocks_of_nil {b : Body} (h : b.blocks = []) (n : Nat) : b.closeBlocks n = b := by
  induction n with
  | zero => rfl
  | succ n ih => rw [closeBlocks, closeBlock_of_nil h, ih]

theorem closeBlocks_add (b : Body) (m n : Nat) :
    b.closeBlocks (m + n) = (b.closeBlocks m).closeBlocks n := by
  induction m generalizing b with
  | zero => rw [Nat.zero_add, closeBlocks]
  | succ m ih => rw [Nat.succ_add, closeBlocks, ih, closeBlocks]

theorem closeBlocks_of_le {b : Body} {n : Nat} (h : b.blocks.length ≤ n) :
    b.closeBlocks n = b.closeAll := by
  obtain ⟨m, rfl⟩ := Nat.exists_eq_add_of_le h
  rw [closeBlocks_add]
  exact closeBlocks_of_nil (blocks_closeAll b) m

theorem closeAll_closeBlocks (b : Body) (n : Nat) : (b.closeBlocks n).closeAll = b.closeAll := by
  rw [closeAll, blocks_closeBlocks, ← closeBlocks_add]
  exact closeBlocks_of_le (by omega)

end Body

namespace Segment

variable {d : Delimiters} {ss ts : List Segment}

theorem WellFormed.append_directives (hss : WellFormed d ss) (hshown : ∀ t ∈ ts, t.Shown d)
    (hts : ∀ t ∈ ts, t.isLiteral = false) : WellFormed d (ss ++ ts) where
  shown s hs := (List.mem_append.1 hs).elim (hss.shown s) (hshown s)
  apart := by
    have hdirectives : ts.Pairwise fun s t => s.isLiteral = true → t.isLiteral = false :=
      List.pairwise_of_forall_mem_list fun _ _ t ht _ => hts t ht
    exact List.isChain_append.2 ⟨hss.apart, hdirectives.isChain,
      fun _ _ t ht _ => hts t (List.mem_of_head? ht)⟩

end Segment

namespace Scan

variable {d : Delimiters} {source : Text} {ts : List Segment}

theorem ofTemplate_append_directives (hs : d.Safe) (hu : Text.Unbordered d.closeMarker)
    (hdropped : (ofTemplate d source).dropped = none) (hshown : ∀ t ∈ ts, t.Shown d)
    (hts : ∀ t ∈ ts, t.isLiteral = false) :
    ofTemplate d (source ++ Segment.sourceOf d ts) = ⟨(ofTemplate d source).segments ++ ts, none⟩ := by
  have haccounts := after_accounts hs source 0
  rw [Nat.zero_add] at haccounts
  obtain ⟨hwell, rest, hsource, ⟨rfl, -⟩ | ⟨u, -, -, hnotice⟩⟩ := haccounts
  · have hprinted : source ++ Segment.sourceOf d ts =
        Segment.sourceOf d ((ofTemplate d source).segments ++ ts) := by
      rw [Segment.sourceOf_append]
      exact congrArg (· ++ _) (hsource.trans (List.append_nil _))
    rw [hprinted]
    exact ofTemplate_sourceOf hs hu (hwell.append_directives hshown hts)
  · exact absurd (hdropped.symm.trans hnotice) (by simp)

end Scan

namespace Compile

def ends (n : Nat) : List Segment := List.replicate n (.scriptlet blockEnd)

def openAtEnd (d : Delimiters) (source : Text) : Nat :=
  (segments {} (Scan.ofTemplate d source).segments).1.blocks.length

def closingNotices (origin : Text) (blocks : Nat) : List Notice :=
  if blocks = 0 then [] else [.closing origin blocks]

variable {d : Delimiters} {b : Body}

theorem notices_template {source : Text} (origin : Text) {ss : List Segment}
    (hscan : Scan.ofTemplate d source = ⟨ss, none⟩) : (template d source origin).notices = (segments {} ss).2
      ++ closingNotices origin (segments {} ss).1.blocks.length
      ++ [.compiled origin ss.length (bodyLines ss).length] := by
  simp [template, hscan, closingNotices, bodyLines]

/-- Each end directive closes a block as long as one is open, and is noticed from then on. -/
theorem segments_ends (b : Body) (n : Nat) : segments b (ends n) =
    (b.closeBlocks n, List.replicate (n - b.blocks.length) .strayEnd) := by
  induction n generalizing b with
  | zero => simp [ends, segments, Body.closeBlocks]
  | succ n ih =>
    have hrest : segments b.closeBlock (ends n) =
        (b.closeBlocks (n + 1), List.replicate (n - (b.blocks.length - 1)) .strayEnd) := by
      rw [ih, Body.length_blocks_closeBlock, Body.closeBlocks]
    have hstep : segments b (ends (n + 1)) = (b.closeBlocks (n + 1),
        (if b.blocks = [] then [.strayEnd] else [])
          ++ List.replicate (n - (b.blocks.length - 1)) .strayEnd) := by
      have hcons : ends (n + 1) = .scriptlet blockEnd :: ends n := List.replicate_succ
      simp only [hcons, segments, segment_blockEnd, hrest]
    rw [hstep]
    by_cases hopen : b.blocks = []
    · simp [hopen, List.replicate_succ]
    · have hpos := List.length_pos_iff.2 hopen
      have hcount : n - (b.blocks.length - 1) = n + 1 - b.blocks.length := by omega
      simp [hopen, hcount]

theorem eq_strayEnd_of_mem_segments {ss : List Segment} {x : Notice} (h : x ∈ (segments b ss).2) :
    x = .strayEnd := by
  induction ss generalizing b with
  | nil => simp [segments] at h
  | cons s ss ih =>
    simp only [segments, List.mem_append] at h
    obtain h | h := h
    · cases s with
      | scriptlet body =>
        simp only [segment] at h
        split at h
        · simp at h
        · split at h
          · split at h
            · simpa using h
            · simp at h
          · simp at h
      | literal t => simp [segment] at h
      | raw e => simp [segment] at h
      | escaped e => simp [segment] at h
    · exact ih h

/-- End directives behind a template of which nothing is dropped leave its code as it is. Each closes a
block as long as there is one, so that fewer are left for the end of the template; the others are noticed
one by one. -/
theorem template_append_ends (hopen : d.openMarker = "<?".toList) (hclose : d.closeMarker = "?>".toList)
    (source origin : Text) (hdropped : (Scan.ofTemplate d source).dropped = none) (n : Nat) :
    (template d (source ++ (List.replicate n "<?end?>".toList).flatten) origin).code =
        (template d source origin).code ∧
      ∃ strays count lines, (∀ x ∈ strays, x = .strayEnd) ∧
        (template d source origin).notices = strays
          ++ closingNotices origin (openAtEnd d source) ++ [.compiled origin count lines] ∧
        (template d (source ++ (List.replicate n "<?end?>".toList).flatten) origin).notices = strays
          ++ List.replicate (n - openAtEnd d source) .strayEnd
          ++ closingNotices origin (openAtEnd d source - n)
          ++ [.compiled origin (count + n) lines] := by
  have hsafe : d.Safe := Delimiters.standard_safe.of_markers hopen hclose
  have hunbordered : Text.Unbordered d.closeMarker := by
    rw [hclose]
    exact Delimiters.standard_close_unbordered
  have hshown : ∀ t ∈ ends n, t.Shown d := by
    intro t ht
    obtain rfl := List.eq_of_mem_replicate ht
    rw [Segment.Shown, hclose]
    decide
  have hdirectives : ∀ t ∈ ends n, t.isLiteral = false := by
    intro t ht
    obtain rfl := List.eq_of_mem_replicate ht
    rfl
  have htext : (List.replicate n "<?end?>".toList).flatten = Segment.sourceOf d (ends n) := by
    rw [Segment.sourceOf, ends, List.flatMap_def, List.map_replicate, Segment.source, hopen, hclose]
    rfl
  obtain ⟨ss, hss⟩ : ∃ ss, Scan.ofTemplate d source = ⟨ss, none⟩ :=
    ⟨_, congrArg (Scan.mk _) hdropped⟩
  have hscan := Scan.ofTemplate_append_directives hsafe hunbordered hdropped hshown hdirectives
  rw [← htext, hss] at hscan
  have hwritten := segments_append {} ss (ends n)
  rw [segments_ends] at hwritten
  have hlines : bodyLines (ss ++ ends n) = bodyLines ss := by
    rw [bodyLines, hwritten, Body.closeAll_closeBlocks, bodyLines]
  constructor
  · rw [code_template, code_template, hscan, hss, hlines]
  · refine ⟨(segments {} ss).2, ss.length, (bodyLines ss).length,
      fun _ => eq_strayEnd_of_mem_segments, ?_, ?_⟩
    · rw [notices_template origin hss, openAtEnd, hss]
    · rw [notices_template origin hscan, openAtEnd, hss, hwritten, hlines, Body.blocks_closeBlocks]
      simp [ends]

/-- Two blocks are open, one of which has no code: the first two of three end directives close them. -/
theorem template_append_ends_nested :
    (Scan.ofTemplate .standard "<?for x in arg:?>a<?if x:?>".toList).dropped = none ∧
      (template .standard ("<?for x in arg:?>a<?if x:?>".toList
          ++ (List.replicate 3 "<?end?>".toList).flatten) "t".toList).code =
        (template .standard "<?for x in arg:?>a<?if x:?>".toList "t".toList).code ∧
      (template .standard ("<?for x in arg:?>a<?if x:?>".toList
          ++ (List.replicate 3 "<?end?>".toList).flatten) "t".toList).notices =
        [.strayEnd, .compiled "t".toList 6 4] := by
  have hdropped : (Scan.ofTemplate .standard "<?for x in arg:?>a<?if x:?>".toList).dropped = none := by
    decide +kernel
  have hends := template_append_ends (d := .standard) rfl rfl _ "t".toList hdropped 3
  exact ⟨hdropped, hends.1, by decide +kernel⟩

end Compile
end TemplateEngine
