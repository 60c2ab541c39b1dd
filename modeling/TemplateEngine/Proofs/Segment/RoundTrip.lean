import Mathlib.Data.List.Chain
import TemplateEngine.Proofs.Text.Cut
import TemplateEngine.Segment.Scan

set_option autoImplicit false

/-!
# Scanning and printing segments

With markers that cannot run into each other, scanning a printed list of segments gives the list
back, and every template is its printed segments and a rest that is dropped: a directive that is not
closed. Only lists that no other list is printed like are meant, those that are well formed.
-/
namespace TemplateEngine

namespace Delimiters

/-- No marker can be found where the open marker that is put behind a template runs into the template
or into another marker. -/
structure Safe (d : Delimiters) : Prop where
  unbordered : Text.Unbordered d.openMarker
  close_apart : ∀ s, s ≠ [] → s ≠ d.closeMarker → s <:+ d.closeMarker → ¬ s <+: d.openMarker
  close_not_infix : ¬ d.closeMarker <:+: d.openMarker

theorem standard_safe : standard.Safe where
  unbordered := Text.unbordered_pair (by decide)
  close_apart := by
    intro s hs hne hsuf
    change s <:+ ['?', '>'] at hsuf
    simp only [List.suffix_cons_iff, List.suffix_nil] at hsuf
    obtain rfl | rfl | rfl := hsuf
    · contradiction
    · decide
    · contradiction
  close_not_infix := by decide

theorem standard_close_unbordered : Text.Unbordered standard.closeMarker :=
  Text.unbordered_pair (by decide)

variable {d : Delimiters}

theorem Safe.of_markers {e : Delimiters} (hs : e.Safe) (ho : d.openMarker = e.openMarker)
    (hc : d.closeMarker = e.closeMarker) : d.Safe where
  unbordered := ho ▸ hs.unbordered
  close_apart := by
    rw [ho, hc]
    exact hs.close_apart
  close_not_infix := by
    rw [ho, hc]
    exact hs.close_not_infix

theorem Safe.cut_open (hs : d.Safe) (t : Text) :
    (¬ d.openMarker <:+: t ∧ Text.cut? d.openMarker (t ++ d.openMarker) = some (t, [])) ∨
      ∃ a b, t = a ++ d.openMarker ++ b ∧ ¬ d.openMarker <:+: a ∧
        Text.cut? d.openMarker (t ++ d.openMarker) = some (a, b ++ d.openMarker) := by
  cases h : Text.cut? d.openMarker t with
  | none =>
    have hn := Text.cut?_eq_none_iff.1 h
    exact .inl ⟨hn, by simpa using Text.cut?_append [] hs.unbordered hn⟩
  | some ab =>
    obtain ⟨a, b⟩ := ab
    exact .inr ⟨a, b, Text.eq_append_of_cut? h, Text.not_infix_of_cut? d.open_ne_nil h,
      Text.cut?_append_right _ h⟩

theorem Safe.close_not_infix_append (hs : d.Safe) {t : Text} (ht : ¬ d.closeMarker <:+: t) :
    ¬ d.closeMarker <:+: t ++ d.openMarker := by
  intro h
  obtain h | h | ⟨p, s, hps, hp, hsn, -, hso⟩ := Text.infix_append h
  · exact ht h
  · exact hs.close_not_infix h
  · refine hs.close_apart s hsn (fun he => ?_) ⟨p, hps.symm⟩ hso
    rw [he] at hps
    exact hp (by simpa using hps)

end Delimiters

namespace Segment

def isLiteral : Segment → Bool
  | literal _ => true
  | _ => false

/-- A segment that its printed form shows as it is. -/
def Shown (d : Delimiters) : Segment → Prop
  | literal t => t ≠ [] ∧ ¬ d.openMarker <:+: t
  | scriptlet b => ¬ d.closeMarker <:+: b ∧ b.head? ≠ some '-' ∧ b.head? ≠ some '='
  | raw e => ¬ d.closeMarker <:+: '-' :: e
  | escaped e => ¬ d.closeMarker <:+: '=' :: e

structure WellFormed (d : Delimiters) (segments : List Segment) : Prop where
  shown : ∀ s ∈ segments, s.Shown d
  apart : segments.IsChain fun s t => s.isLiteral = true → t.isLiteral = false

variable {d : Delimiters}

theorem isLiteral_ofBody (b : Text) : (ofBody b).isLiteral = false := by
  unfold ofBody
  split <;> rfl

theorem shown_ofBody {b : Text} (hb : ¬ d.closeMarker <:+: b) : (ofBody b).Shown d := by
  unfold ofBody
  split
  · exact hb
  · exact hb
  · next h₁ h₂ =>
    refine ⟨hb, fun h => ?_, fun h => ?_⟩
    · obtain ⟨t, rfl⟩ := List.head?_eq_some_iff.1 h
      exact h₁ t rfl
    · obtain ⟨t, rfl⟩ := List.head?_eq_some_iff.1 h
      exact h₂ t rfl

theorem exists_body_of_shown {s : Segment} (h : s.Shown d) (hs : s.isLiteral = false) :
    ∃ b, ofBody b = s ∧ ¬ d.closeMarker <:+: b := by
  cases s with
  | literal t => cases hs
  | scriptlet b =>
    refine ⟨b, ?_, h.1⟩
    unfold ofBody
    split
    · exact absurd rfl h.2.1
    · exact absurd rfl h.2.2
    · rfl
  | raw e => exact ⟨'-' :: e, rfl, h⟩
  | escaped e => exact ⟨'=' :: e, rfl, h⟩

@[simp] theorem sourceOf_nil : sourceOf d [] = [] := rfl

@[simp] theorem sourceOf_cons (s : Segment) (ss : List Segment) :
    sourceOf d (s :: ss) = s.source d ++ sourceOf d ss := rfl

@[simp] theorem sourceOf_append (ss ts : List Segment) :
    sourceOf d (ss ++ ts) = sourceOf d ss ++ sourceOf d ts := List.flatMap_append

@[simp] theorem sourceOf_literal (t : Text) : sourceOf d (Scan.literal t) = t := by
  unfold Scan.literal
  split <;> simp_all [source]

theorem wellFormed_nil : WellFormed d [] := ⟨by simp, .nil⟩

theorem wellFormed_literal {t : Text} (ht : ¬ d.openMarker <:+: t) :
    WellFormed d (Scan.literal t) := by
  unfold Scan.literal
  split
  · exact wellFormed_nil
  · next h => exact ⟨by simpa using ⟨h, ht⟩, .singleton _⟩

theorem wellFormed_directive {b : Text} {ss : List Segment} (hb : ¬ d.closeMarker <:+: b)
    (hss : WellFormed d ss) : WellFormed d (ofBody b :: ss) where
  shown := by
    intro s hs
    obtain rfl | hs := List.mem_cons.1 hs
    · exact shown_ofBody hb
    · exact hss.shown s hs
  apart := List.isChain_cons.2 ⟨fun t _ h => by simp [isLiteral_ofBody] at h, hss.apart⟩

theorem wellFormed_literal_append {t b : Text} {ss : List Segment} (ht : ¬ d.openMarker <:+: t)
    (hb : ¬ d.closeMarker <:+: b) (hss : WellFormed d ss) :
    WellFormed d (Scan.literal t ++ ofBody b :: ss) where
  shown := by
    intro s hs
    obtain hs | hs := List.mem_append.1 hs
    · exact (wellFormed_literal ht).shown s hs
    · exact (wellFormed_directive hb hss).shown s hs
  apart := List.isChain_append.2 ⟨(wellFormed_literal ht).apart,
    (wellFormed_directive hb hss).apart, by simp [isLiteral_ofBody]⟩

theorem WellFormed.tail {s : Segment} {ss : List Segment} (h : WellFormed d (s :: ss)) :
    WellFormed d ss :=
  ⟨fun t ht => h.shown t (List.mem_cons_of_mem s ht), (List.isChain_cons.1 h.apart).2⟩

end Segment

namespace Scan

variable {d : Delimiters} {size offset : Nat} {t lit u body v : Text}

theorem after_unclosed (ho : Text.cut? d.openMarker t = some (lit, u))
    (hc : Text.cut? d.closeMarker u = none) : after d size t offset =
      ⟨literal lit, if offset + lit.length < size then some (.unterminated (offset + lit.length))
        else none⟩ := by
  rw [after]
  split
  · simp_all
  · split <;> simp_all

theorem after_directive (ho : Text.cut? d.openMarker t = some (lit, u))
    (hc : Text.cut? d.closeMarker u = some (body, v)) : after d size t offset =
      prepend (literal lit ++ [.ofBody body]) (after d size v
        (offset + lit.length + d.openMarker.length + body.length + d.closeMarker.length)) := by
  rw [after]
  split
  · simp_all
  · split <;> simp_all

/-- A scan at the end of a template finds the open marker that is put there, and nothing else. -/
theorem after_end (ht : Text.cut? d.openMarker (t ++ d.openMarker) = some (t, [])) :
    after d (offset + t.length) (t ++ d.openMarker) offset = ⟨literal t, none⟩ := by
  rw [after_unclosed ht (by simp [Text.cut?, d.close_ne_nil])]
  simp

/-- Scanning printed segments behind a literal gives all of them back. The literal is what lets the
induction pass from a literal segment to the directive behind it. -/
theorem after_sourceOf (hs : d.Safe) (hu : Text.Unbordered d.closeMarker) (ss : List Segment)
    (hw : Segment.WellFormed d ss) (lit : Text) (hlit : ¬ d.openMarker <:+: lit)
    (hapart : lit = [] ∨ ∀ s ∈ ss.head?, s.isLiteral = false) (offset : Nat) :
    after d (offset + (lit ++ Segment.sourceOf d ss).length)
      (lit ++ Segment.sourceOf d ss ++ d.openMarker) offset = ⟨literal lit ++ ss, none⟩ := by
  induction ss generalizing lit offset with
  | nil =>
    have hcut := Text.cut?_append [] hs.unbordered hlit
    have hend : Text.cut? d.openMarker (lit ++ d.openMarker) = some (lit, []) := by simpa using hcut
    have hafter : after d (offset + lit.length) (lit ++ d.openMarker) offset = ⟨literal lit, none⟩ :=
      after_end hend
    simpa using hafter
  | cons s ss ih =>
    cases hl : s.isLiteral with
    | true =>
      obtain rfl : lit = [] := hapart.resolve_right fun h => by simp [hl] at h
      obtain ⟨t, rfl⟩ : ∃ t, s = .literal t := by cases s <;> simp_all [Segment.isLiteral]
      have ht := hw.shown _ List.mem_cons_self
      have hnext : ∀ r ∈ ss.head?, r.isLiteral = false := fun r hr =>
        (List.isChain_cons.1 hw.apart).1 r hr rfl
      simpa [literal, ht.1, Segment.source] using ih hw.tail t ht.2 (.inr hnext) offset
    | false =>
      obtain ⟨b, rfl, hb⟩ := Segment.exists_body_of_shown (hw.shown s List.mem_cons_self) hl
      have hopen := Text.cut?_append
        (b ++ d.closeMarker ++ Segment.sourceOf d ss ++ d.openMarker) hs.unbordered hlit
      have hclose := Text.cut?_append (Segment.sourceOf d ss ++ d.openMarker) hu hb
      have htail := ih hw.tail [] (by simp [d.open_ne_nil]) (.inl rfl)
        (offset + lit.length + d.openMarker.length + b.length + d.closeMarker.length)
      have hsize : offset + (lit ++ Segment.sourceOf d (.ofBody b :: ss)).length
          = offset + lit.length + d.openMarker.length + b.length + d.closeMarker.length
            + ([] ++ Segment.sourceOf d ss).length := by
        simp only [Segment.sourceOf_cons, Segment.source_ofBody, List.length_append,
          List.nil_append]
        omega
      have htext : lit ++ Segment.sourceOf d (.ofBody b :: ss) ++ d.openMarker
          = lit ++ d.openMarker
            ++ (b ++ d.closeMarker ++ Segment.sourceOf d ss ++ d.openMarker) := by
        simp [Segment.source_ofBody]
      rw [hsize, htext, after_directive hopen (by simpa using hclose)]
      rw [List.nil_append] at htail ⊢
      rw [htail]
      simp [prepend, literal]

theorem ofTemplate_sourceOf (hs : d.Safe) (hu : Text.Unbordered d.closeMarker) {ss : List Segment}
    (hw : Segment.WellFormed d ss) : ofTemplate d (Segment.sourceOf d ss) = ⟨ss, none⟩ := by
  simpa [ofTemplate, literal] using after_sourceOf hs hu ss hw [] (by simp [d.open_ne_nil])
    (.inl rfl) 0

/-- What a scan has to account for: the template's text `t` from an offset on is the printed form of
its segments and, if something is dropped, an open marker without a close marker behind it. -/
def Accounts (d : Delimiters) (t : Text) (offset : Nat) (r : Scan) : Prop :=
  Segment.WellFormed d r.segments ∧ ∃ rest, t = Segment.sourceOf d r.segments ++ rest ∧
    (rest = [] ∧ r.dropped = none ∨
      ∃ u, rest = d.openMarker ++ u ∧ ¬ d.closeMarker <:+: u ∧
        r.dropped = some (.unterminated (offset + (Segment.sourceOf d r.segments).length)))

theorem after_accounts (hs : d.Safe) (t : Text) (offset : Nat) :
    Accounts d t offset (after d (offset + t.length) (t ++ d.openMarker) offset) := by
  induction hn : t.length using Nat.strong_induction_on generalizing t offset with
  | h n ih =>
    obtain ⟨hno, ho⟩ | ⟨lit, u, rfl, hlit, ho⟩ := hs.cut_open t
    · rw [← hn, after_end ho]
      exact ⟨Segment.wellFormed_literal hno, [], by simp, .inl ⟨rfl, rfl⟩⟩
    · cases hc : Text.cut? d.closeMarker u with
      | none =>
        have hnone := Text.cut?_eq_none_iff.1 hc
        have hcut := Text.cut?_eq_none_iff.2 (hs.close_not_infix_append hnone)
        have hlt : offset + lit.length < offset + n := by
          have := d.length_open_pos
          simp only [← hn, List.length_append]
          omega
        rw [after_unclosed ho hcut, if_pos hlt]
        exact ⟨Segment.wellFormed_literal hlit, d.openMarker ++ u, by simp,
          .inr ⟨u, rfl, hnone, by simp⟩⟩
      | some bv =>
        obtain ⟨body, v⟩ := bv
        have hu := Text.eq_append_of_cut? hc
        have hbody := Text.not_infix_of_cut? d.close_ne_nil hc
        subst hu
        have hlen : offset + n = offset + lit.length + d.openMarker.length + body.length
            + d.closeMarker.length + v.length := by
          simp only [← hn, List.length_append]
          omega
        have hv : v.length < n := by
          have := d.length_open_pos
          omega
        rw [after_directive ho (Text.cut?_append_right _ hc), hlen]
        obtain ⟨hw, rest, hrest, hend⟩ := ih v.length hv v _ rfl
        refine ⟨?_, rest, ?_, ?_⟩
        · simpa [prepend] using Segment.wellFormed_literal_append hlit hbody hw
        · simp [prepend, Segment.source_ofBody, ← hrest]
        · obtain ⟨hnil, hnone⟩ | ⟨w, hopen, hclose, hdrop⟩ := hend
          · exact .inl ⟨hnil, hnone⟩
          · refine .inr ⟨w, hopen, hclose, ?_⟩
            simp only [prepend, hdrop, Segment.sourceOf_append, Segment.sourceOf_literal,
              Segment.sourceOf_cons, Segment.sourceOf_nil, Segment.source_ofBody,
              List.length_append, List.length_nil]
            congr 2
            omega

/-- Templates in the standard markers and well formed lists of segments are the same, but for a
directive at the end of a template that is not closed: scanning a printed list gives it back without
a notice, and a template is its printed segments and what a notice says is dropped. -/
theorem ofTemplate_standard_roundTrip :
    (∀ ss, Segment.WellFormed .standard ss →
      ofTemplate .standard (Segment.sourceOf .standard ss) = ⟨ss, none⟩) ∧
    ∀ source, Segment.WellFormed .standard (ofTemplate .standard source).segments ∧
      ∃ rest, source = Segment.sourceOf .standard (ofTemplate .standard source).segments ++ rest ∧
        (rest = [] ∧ (ofTemplate .standard source).dropped = none ∨
          ∃ u, rest = "<?".toList ++ u ∧ ¬ "?>".toList <:+: u ∧
            (ofTemplate .standard source).dropped = some (.unterminated
              (Segment.sourceOf .standard (ofTemplate .standard source).segments).length)) := by
  have hs := Delimiters.standard_safe
  refine ⟨fun ss hw => ?_, fun source => ?_⟩
  · simpa [ofTemplate, literal] using after_sourceOf hs Delimiters.standard_close_unbordered ss hw []
      (by simp [Delimiters.standard]) (.inl rfl) 0
  · simpa [ofTemplate, Accounts, Delimiters.standard] using after_accounts hs source 0

/-- Literals that end like an open marker or hold a close marker, and a body that ends like a close
marker, come back too. -/
theorem ofTemplate_standard_roundTrip_adjacent :
    Segment.WellFormed .standard
        [.literal "a?><".toList, .escaped "b?".toList, .scriptlet [], .literal ['?']] ∧
      ofTemplate .standard "a?><<?=b??><??>?".toList
        = ⟨[.literal "a?><".toList, .escaped "b?".toList, .scriptlet [], .literal ['?']], none⟩ := by
  have hw : Segment.WellFormed .standard
      [.literal "a?><".toList, .escaped "b?".toList, .scriptlet [], .literal ['?']] := by
    refine ⟨fun s hs => ?_, ?_⟩
    · simp only [List.mem_cons, List.not_mem_nil, or_false] at hs
      obtain rfl | rfl | rfl | rfl := hs <;> simp only [Segment.Shown] <;> decide
    · simp [Segment.isLiteral]
  exact ⟨hw, ofTemplate_standard_roundTrip.1 _ hw⟩

end Scan
end TemplateEngine
