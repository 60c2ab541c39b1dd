import TemplateEngine.Proofs.Text.Utf8
import TemplateEngine.Source

set_option autoImplicit false

/-!
# What is read of a source

A source is read exactly if its bytes are the encoding of a text. Nothing is lost but one byte order mark at
the start, and bytes that spell no text are reported with what is wrong first.
-/
namespace TemplateEngine.Source

open Utf8

def markBytes : Bytes := [0xEF, 0xBB, 0xBF]

def withoutMark (bs : Bytes) : Bytes := if markBytes <+: bs then bs.drop markBytes.length else bs

theorem encode_mark (t : Text) : encode (Text.byteOrderMark :: t) = markBytes ++ encode t := encode_cons _ t

theorem eq_mark_of_begins {c : Char} {t : Text} (h : markBytes <+: encode (c :: t)) :
    c = Text.byteOrderMark := by
  obtain ⟨r, hr⟩ := h
  have hread := decodeFrom_encode (c :: t)
  have hmark : decodeFrom none (markBytes ++ r) =
      decodeFrom.prepend Text.byteOrderMark (decodeFrom none r) :=
    decodeFrom_encodeChar Text.byteOrderMark r
  rw [← hr, hmark] at hread
  cases hrest : decodeFrom none r with
  | error f =>
    rw [hrest] at hread
    cases hread
  | ok x =>
    rw [hrest] at hread
    exact (List.cons.inj (congrArg Prod.fst (Except.ok.inj hread))).1.symm

theorem encode_dropByteOrderMark (t : Text) :
    encode (Text.dropByteOrderMark t) = withoutMark (encode t) := by
  cases t with
  | nil => rfl
  | cons c t =>
    by_cases hc : c = Text.byteOrderMark
    · rw [hc, Text.dropByteOrderMark, if_pos rfl, withoutMark, encode_mark,
        if_pos (List.prefix_append _ _), List.drop_left]
    · rw [Text.dropByteOrderMark, if_neg hc, withoutMark, if_neg fun h => hc (eq_mark_of_begins h)]

variable {t : FileTree} {here : Place} {p : Path} {bs : Bytes}

theorem read_of_encode {u : Text} (h : bytes t here p = .ok (encode u)) :
    read t here p = .ok (Text.dropByteOrderMark u) := by
  rw [read, h]
  dsimp only
  rw [ofBytes, decode_encode]
  rfl

theorem read_of_firstFault {f : Utf8.Fault} (h : bytes t here p = .ok bs) (hf : FirstFault bs f) :
    read t here p = .error (.notFound p.toText (some (encodingReason f))) := by
  rw [read, h]
  dsimp only
  rw [ofBytes, decode_eq_error_iff.2 hf]
  rfl

/-- A source is read exactly if its bytes are the encoding of a text, and what is read is encoded as these
bytes without one byte order mark. Other bytes have one first fault, which is the reason that the template
is reported with. -/
theorem read_exact (h : bytes t here p = .ok bs) :
    ((∃ s, read t here p = .ok s) ↔ ∃ u, bs = encode u) ∧
      (∀ s, read t here p = .ok s → encode s = withoutMark bs) ∧
      ((¬ ∃ u, bs = encode u) → ∃ f, FirstFault bs f ∧ (∀ g, FirstFault bs g → g = f) ∧
        read t here p = .error (.notFound p.toText (some (encodingReason f)))) := by
  cases hdecode : decode bs with
  | ok u =>
    obtain rfl := decode_eq_ok_iff.1 hdecode
    have hread := read_of_encode h
    refine ⟨⟨fun _ => ⟨u, rfl⟩, fun _ => ⟨_, hread⟩⟩, fun s hs => ?_, fun hno => absurd ⟨u, rfl⟩ hno⟩
    rw [← Except.ok.inj (hread.symm.trans hs), encode_dropByteOrderMark]
  | error f =>
    have hf := decode_eq_error_iff.1 hdecode
    have hread := read_of_firstFault h hf
    have hnone : ∀ s, read t here p ≠ .ok s := by
      intro s hs
      rw [hread] at hs
      cases hs
    refine ⟨⟨?_, ?_⟩, fun s hs => absurd hs (hnone s), fun _ => ⟨f, hf, fun g hg => ?_, hread⟩⟩
    · rintro ⟨s, hs⟩
      exact absurd hs (hnone s)
    · rintro ⟨u, rfl⟩
      rw [decode_encode] at hdecode
      cases hdecode
    · exact Except.error.inj ((decode_eq_error_iff.2 hg).symm.trans hdecode)

/-- A byte order mark, a letter, and a slash spelled with three bytes where one is enough. -/
def overlong : Bytes := [0xEF, 0xBB, 0xBF, 0x61, 0xE0, 0x80, 0xAF]

theorem read_exact_overlong :
    bytes ⟨⟨[([['t']], .file overlong)]⟩⟩ [] (.ofText ['t']) = .ok overlong ∧
      FirstFault overlong .continuation ∧
      read ⟨⟨[([['t']], .file overlong)]⟩⟩ [] (.ofText ['t']) = .error (.notFound ['t']
        (some "not valid UTF-8: invalid continuation byte".toList)) := by
  have hbytes : bytes ⟨⟨[([['t']], .file overlong)]⟩⟩ [] (.ofText ['t']) = .ok overlong := by rfl
  have hfault : FirstFault overlong .continuation := decode_eq_error_iff.1 rfl
  have hno : ¬ ∃ u, overlong = encode u := by
    rintro ⟨u, hu⟩
    have hdecode := decode_eq_error_iff.2 hfault
    rw [hu, decode_encode] at hdecode
    cases hdecode
  obtain ⟨f, -, hunique, hread⟩ := (read_exact hbytes).2.2 hno
  obtain rfl := hunique _ hfault
  exact ⟨hbytes, hfault, hread⟩

end TemplateEngine.Source
