import Mathlib.Tactic.SplitIfs
import TemplateEngine.Text.Utf8

set_option autoImplicit false

/-!
# Decoding what was encoded

A character's bytes are told apart by its size. The first one gives the bits in front and the bounds
of the second one, which no encoded character leaves.

The encoding alone tells what the decoder gives. Bytes either are the encoding of one text, or go wrong
behind whole characters: at a byte that starts no character, at a byte that does not go on the character
that was started, or where they end within one.
-/
namespace TemplateEngine.Utf8

theorem decodeFrom_single {b : UInt8} (h : b.toNat < 0x80) (bs : Bytes) :
    decodeFrom none (b :: bs) = decodeFrom.prepend (Char.ofNat b.toNat) (decodeFrom none bs) := by
  simp [decodeFrom, h]

theorem le_of_lead? {b : Nat} {p : Pending} (h : lead? b = some p) : 0x80 ≤ b := by
  simp only [lead?, Bool.and_eq_true, decide_eq_true_eq] at h
  split_ifs at h <;> omega

theorem decodeFrom_lead {b : UInt8} {p : Pending} (h : lead? b.toNat = some p) (bs : Bytes) :
    decodeFrom none (b :: bs) = decodeFrom (some p) bs := by
  have hb : ¬ b.toNat < 0x80 := Nat.not_lt.2 (le_of_lead? h)
  simp [decodeFrom, hb, h]

theorem decodeFrom_last {b : UInt8} {k low high : Nat} (hl : low ≤ b.toNat) (hh : b.toNat ≤ high)
    (bs : Bytes) : decodeFrom (some ⟨k, 0, low, high⟩) (b :: bs) =
      decodeFrom.prepend (Char.ofNat (k * 64 + (b.toNat - 0x80))) (decodeFrom none bs) := by
  simp [decodeFrom, hl, hh]

theorem decodeFrom_next {b : UInt8} {k n low high : Nat} (hl : low ≤ b.toNat)
    (hh : b.toNat ≤ high) (bs : Bytes) : decodeFrom (some ⟨k, n + 1, low, high⟩) (b :: bs) =
      decodeFrom (some ⟨k * 64 + (b.toNat - 0x80), n, 0x80, 0xBF⟩) bs := by
  simp [decodeFrom, hl, hh]

theorem lead?_two {v : Nat} (hl : 0x80 ≤ v) (hh : v ≤ 0x7FF) :
    lead? (v / 64 % 32 + 0xC0) = some ⟨v / 64, 0, 0x80, 0xBF⟩ := by
  have hv : v / 64 % 32 = v / 64 := by omega
  have h : 0xC2 ≤ v / 64 + 0xC0 ∧ v / 64 + 0xC0 ≤ 0xDF := by omega
  simp [lead?, hv, h]

theorem lead?_three {v : Nat} (hl : 0x7FF < v) (hh : v ≤ 0xFFFF) (hs : v < 0xD800 ∨ 0xDFFF < v) :
    ∃ low high, lead? (v / 4096 % 16 + 0xE0) = some ⟨v / 4096, 1, low, high⟩ ∧
      low ≤ v / 64 % 64 + 0x80 ∧ v / 64 % 64 + 0x80 ≤ high := by
  have hv : v / 4096 % 16 = v / 4096 := by omega
  rw [hv]
  simp only [lead?, Bool.and_eq_true, decide_eq_true_eq]
  split_ifs
  · omega
  · exact ⟨0xA0, 0xBF, by rw [show v / 4096 = 0 by omega], by omega, by omega⟩
  · exact ⟨0x80, 0x9F, by rw [show v / 4096 = 0xD by omega], by omega, by omega⟩
  · exact ⟨0x80, 0xBF, by rw [Nat.add_sub_cancel], by omega, by omega⟩
  all_goals omega

theorem lead?_four {v : Nat} (hl : 0xFFFF < v) (hh : v < 0x110000) :
    ∃ low high, lead? (v / 262144 % 8 + 0xF0) = some ⟨v / 262144, 2, low, high⟩ ∧
      low ≤ v / 4096 % 64 + 0x80 ∧ v / 4096 % 64 + 0x80 ≤ high := by
  have hv : v / 262144 % 8 = v / 262144 := by omega
  rw [hv]
  simp only [lead?, Bool.and_eq_true, decide_eq_true_eq]
  split_ifs
  iterate 4 omega
  · exact ⟨0x90, 0xBF, by rw [show v / 262144 = 0 by omega], by omega, by omega⟩
  · exact ⟨0x80, 0xBF, by rw [Nat.add_sub_cancel], by omega, by omega⟩
  · exact ⟨0x80, 0x8F, by rw [show v / 262144 = 4 by omega], by omega, by omega⟩
  · omega

theorem decodeFrom_encodeChar (c : Char) (bs : Bytes) :
    decodeFrom none (String.utf8EncodeChar c ++ bs) =
      decodeFrom.prepend c (decodeFrom none bs) := by
  have hv : c.val.toNat < 0xD800 ∨ 0xDFFF < c.val.toNat ∧ c.val.toNat < 0x110000 := c.valid
  have hc : ∀ n, n = c.val.toNat → Char.ofNat n = c := fun n h => by
    rw [h]
    exact Char.ofNat_toNat c
  unfold String.utf8EncodeChar
  generalize c.val.toNat = v at hv hc
  have byte : ∀ n, n < 256 → (UInt8.ofNat n).toNat = n := fun n h => by
    simp only [UInt8.toNat_ofNat', Nat.mod_eq_of_lt h]
  have tail : ∀ n, (UInt8.ofNat (n % 64 + 0x80)).toNat = n % 64 + 0x80 :=
    fun n => byte _ (by omega)
  dsimp only
  split_ifs with h1 h2 h3
  · have hb := byte v (by omega)
    simp only [List.cons_append, List.nil_append]
    rw [decodeFrom_single (by omega), hb, hc v rfl]
  · have hb := byte (v / 64 % 32 + 0xC0) (by omega)
    simp only [List.cons_append, List.nil_append]
    rw [decodeFrom_lead (by rw [hb]; exact lead?_two (by omega) h2),
      decodeFrom_last (by rw [tail]; omega) (by rw [tail]; omega), tail, hc _ (by omega)]
  · have hb := byte (v / 4096 % 16 + 0xE0) (by omega)
    obtain ⟨low, high, hp, hl, hh⟩ := lead?_three (v := v) (by omega) h3 (by omega)
    simp only [List.cons_append, List.nil_append]
    rw [decodeFrom_lead (by rw [hb]; exact hp),
      decodeFrom_next (by rw [tail]; exact hl) (by rw [tail]; exact hh),
      decodeFrom_last (by rw [tail]; omega) (by rw [tail]; omega), tail, tail, hc _ (by omega)]
  · have hb := byte (v / 262144 % 8 + 0xF0) (by omega)
    obtain ⟨low, high, hp, hl, hh⟩ := lead?_four (v := v) (by omega) (by omega)
    simp only [List.cons_append, List.nil_append]
    rw [decodeFrom_lead (by rw [hb]; exact hp),
      decodeFrom_next (by rw [tail]; exact hl) (by rw [tail]; exact hh),
      decodeFrom_next (by rw [tail]; omega) (by rw [tail]; omega),
      decodeFrom_last (by rw [tail]; omega) (by rw [tail]; omega), tail, tail, tail,
      hc _ (by omega)]

theorem encode_cons (c : Char) (t : Text) : encode (c :: t) = String.utf8EncodeChar c ++ encode t := by
  simp [encode]

theorem decodeFrom_encode (t : Text) : decodeFrom none (encode t) = .ok (t, none) := by
  induction t with
  | nil => rfl
  | cons c t ih =>
    rw [encode_cons, decodeFrom_encodeChar, ih]
    rfl

theorem decode_encode (t : Text) : decode (encode t) = .ok t := by
  rw [decode, decodeFrom_encode]

def Begins (p : Bytes) : Prop := ∃ c : Char, p <+: String.utf8EncodeChar c

def IsCut (p : Bytes) : Prop :=
  p ≠ [] ∧ ∃ (c : Char) (r : Bytes), r ≠ [] ∧ String.utf8EncodeChar c = p ++ r

inductive Faulty : Bytes → Fault → Prop where
  | start {b : UInt8} {bs : Bytes} : ¬ Begins [b] → Faulty (b :: bs) .start
  | continuation {p : Bytes} {b : UInt8} {bs : Bytes} : IsCut p → ¬ Begins (p ++ [b]) →
      Faulty (p ++ b :: bs) .continuation
  | truncated {p : Bytes} : IsCut p → Faulty p .truncated

def FirstFault (bs : Bytes) (f : Fault) : Prop := ∃ t rest, bs = encode t ++ rest ∧ Faulty rest f

variable {v : Nat} {b b₁ b₂ b₃ : UInt8}

theorem toNat_ofNat (h : v < 0xD800 ∨ 0xDFFF < v ∧ v < 0x110000) : (Char.ofNat v).val.toNat = v := by
  have hvalid : v.isValidChar := h
  rw [Char.ofNat, dif_pos hvalid]
  rfl

theorem eq_ofNat {n : Nat} (h : b.toNat = n) : UInt8.ofNat n = b := by
  rw [← h, UInt8.ofNat_toNat]

theorem encodes_one (h : b.toNat < 0x80) :
    String.utf8EncodeChar (Char.ofNat b.toNat) = [b] := by
  rw [String.utf8EncodeChar, toNat_ofNat (by omega), if_pos (by omega), UInt8.ofNat_toNat]

theorem encodes_two (h : 0xC2 ≤ b.toNat ∧ b.toNat ≤ 0xDF) (h₁ : 0x80 ≤ b₁.toNat ∧ b₁.toNat ≤ 0xBF) :
    ∃ c, String.utf8EncodeChar c = [b, b₁] := by
  obtain ⟨v, hv⟩ : ∃ v, v = (b.toNat - 0xC0) * 64 + (b₁.toNat - 0x80) := ⟨_, rfl⟩
  refine ⟨Char.ofNat v, ?_⟩
  rw [String.utf8EncodeChar, toNat_ofNat (by omega), if_neg (by omega), if_pos (by omega),
    eq_ofNat (b := b) (by omega), eq_ofNat (b := b₁) (by omega)]

theorem encodes_three (h : 0xE0 ≤ b.toNat ∧ b.toNat ≤ 0xEF) (h₁ : 0x80 ≤ b₁.toNat ∧ b₁.toNat ≤ 0xBF)
    (h₂ : 0x80 ≤ b₂.toNat ∧ b₂.toNat ≤ 0xBF) (hlong : b.toNat = 0xE0 → 0xA0 ≤ b₁.toNat)
    (hsurrogate : b.toNat = 0xED → b₁.toNat ≤ 0x9F) :
    ∃ c, String.utf8EncodeChar c = [b, b₁, b₂] := by
  obtain ⟨v, hv⟩ : ∃ v, v = (b.toNat - 0xE0) * 4096 + (b₁.toNat - 0x80) * 64 + (b₂.toNat - 0x80) :=
    ⟨_, rfl⟩
  refine ⟨Char.ofNat v, ?_⟩
  rw [String.utf8EncodeChar, toNat_ofNat (by omega), if_neg (by omega), if_neg (by omega),
    if_pos (by omega), eq_ofNat (b := b) (by omega), eq_ofNat (b := b₁) (by omega),
    eq_ofNat (b := b₂) (by omega)]

theorem encodes_four (h : 0xF0 ≤ b.toNat ∧ b.toNat ≤ 0xF4) (h₁ : 0x80 ≤ b₁.toNat ∧ b₁.toNat ≤ 0xBF)
    (h₂ : 0x80 ≤ b₂.toNat ∧ b₂.toNat ≤ 0xBF) (h₃ : 0x80 ≤ b₃.toNat ∧ b₃.toNat ≤ 0xBF)
    (hlong : b.toNat = 0xF0 → 0x90 ≤ b₁.toNat) (hhigh : b.toNat = 0xF4 → b₁.toNat ≤ 0x8F) :
    ∃ c, String.utf8EncodeChar c = [b, b₁, b₂, b₃] := by
  obtain ⟨v, hv⟩ : ∃ v, v = (b.toNat - 0xF0) * 262144 + (b₁.toNat - 0x80) * 4096 +
      (b₂.toNat - 0x80) * 64 + (b₃.toNat - 0x80) := ⟨_, rfl⟩
  refine ⟨Char.ofNat v, ?_⟩
  rw [String.utf8EncodeChar, toNat_ofNat (by omega), if_neg (by omega), if_neg (by omega),
    if_neg (by omega), eq_ofNat (b := b) (by omega), eq_ofNat (b := b₁) (by omega),
    eq_ofNat (b := b₂) (by omega), eq_ofNat (b := b₃) (by omega)]

/-- The decoder has read these bytes since the last whole character, and what is missing completes them to
a character. -/
structure Leads (q : Bytes) (p : Pending) : Prop where
  resumes : ∀ bs, decodeFrom none (q ++ bs) = decodeFrom (some p) bs
  bounds : p.low ≤ p.high ∧ p.high < 256
  spells : ∀ (b : UInt8) (tail : Bytes), p.low ≤ b.toNat → b.toNat ≤ p.high → tail.length = p.more →
    (∀ c ∈ tail, 0x80 ≤ c.toNat ∧ c.toNat ≤ 0xBF) → ∃ c, String.utf8EncodeChar c = q ++ b :: tail

variable {p : Pending} {q bs : Bytes}

theorem lead?_cases {n : Nat} (h : lead? n = some p) : (0x80 ≤ p.low ∧ p.low ≤ p.high ∧ p.high ≤ 0xBF) ∧
    (p.more = 0 ∧ 0xC2 ≤ n ∧ n ≤ 0xDF ∨
      p.more = 1 ∧ 0xE0 ≤ n ∧ n ≤ 0xEF ∧ (n = 0xE0 → 0xA0 ≤ p.low) ∧ (n = 0xED → p.high ≤ 0x9F) ∨
      p.more = 2 ∧ 0xF0 ≤ n ∧ n ≤ 0xF4 ∧ (n = 0xF0 → 0x90 ≤ p.low) ∧ (n = 0xF4 → p.high ≤ 0x8F)) := by
  simp only [lead?, Bool.and_eq_true, decide_eq_true_eq] at h
  split_ifs at h <;> obtain rfl := Option.some.inj h <;> dsimp only <;> omega

theorem leads_of_lead? (h : lead? b.toNat = some p) : Leads [b] p := by
  obtain ⟨hbounds, hcases⟩ := lead?_cases h
  refine ⟨fun bs => decodeFrom_lead h bs, by omega, fun b₁ tail hl hh hlength htail => ?_⟩
  have h₁ : 0x80 ≤ b₁.toNat ∧ b₁.toNat ≤ 0xBF := by omega
  obtain ⟨hmore, hb⟩ | ⟨hmore, hlow, hhigh, hlong, hsurrogate⟩ | ⟨hmore, hlow, hhigh, hlong, hlarge⟩ :=
    hcases
  · obtain rfl := List.length_eq_zero_iff.1 (hlength.trans hmore)
    exact encodes_two hb h₁
  · obtain ⟨b₂, rfl⟩ := List.length_eq_one_iff.1 (hlength.trans hmore)
    exact encodes_three ⟨hlow, hhigh⟩ h₁ (htail b₂ (by simp)) (by omega) (by omega)
  · obtain ⟨b₂, rest, rfl⟩ := List.exists_cons_of_length_eq_add_one (hlength.trans hmore)
    obtain ⟨b₃, rfl⟩ := List.length_eq_one_iff.1 (Nat.succ.inj (hlength.trans hmore))
    exact encodes_four ⟨hlow, hhigh⟩ h₁ (htail b₂ (by simp)) (htail b₃ (by simp)) (by omega) (by omega)

theorem Leads.next {k n low high : Nat} (h : Leads q ⟨k, n + 1, low, high⟩) (hl : low ≤ b.toNat)
    (hh : b.toNat ≤ high) : Leads (q ++ [b]) ⟨k * 64 + (b.toNat - 0x80), n, 0x80, 0xBF⟩ := by
  refine ⟨fun bs => ?_, by simp, fun b₁ tail hl₁ hh₁ hlength htail => ?_⟩
  · rw [List.append_assoc, List.singleton_append, h.resumes, decodeFrom_next hl hh]
  · rw [List.append_assoc, List.singleton_append]
    refine h.spells b (b₁ :: tail) hl hh (congrArg Nat.succ hlength) fun c hc => ?_
    obtain rfl | hc := List.mem_cons.1 hc
    · exact ⟨hl₁, hh₁⟩
    · exact htail c hc

theorem Leads.last {k low high : Nat} (h : Leads q ⟨k, 0, low, high⟩) (hl : low ≤ b.toNat)
    (hh : b.toNat ≤ high) :
    String.utf8EncodeChar (Char.ofNat (k * 64 + (b.toNat - 0x80))) = q ++ [b] := by
  obtain ⟨c, hc⟩ := h.spells b [] hl hh rfl (by simp)
  have hresumes := h.resumes [b]
  have hchar := decodeFrom_encodeChar c []
  rw [List.append_nil, hc, hresumes, decodeFrom_last hl hh] at hchar
  have hsame : Char.ofNat (k * 64 + (b.toNat - 0x80)) = c :=
    (List.cons.inj (congrArg Prod.fst (Except.ok.inj hchar))).1
  rw [hsame, hc]

theorem Leads.completed (h : Leads q p) (hl : p.low ≤ b.toNat) (hh : b.toNat ≤ p.high) :
    ∃ c tail, String.utf8EncodeChar c = q ++ b :: tail := by
  obtain ⟨c, hc⟩ := h.spells b (List.replicate p.more 0x80) hl hh List.length_replicate fun c hc => by
    rw [List.eq_of_mem_replicate hc]
    decide
  exact ⟨c, _, hc⟩

theorem Leads.begins (h : Leads q p) (hl : p.low ≤ b.toNat) (hh : b.toNat ≤ p.high) :
    Begins (q ++ [b]) := by
  obtain ⟨c, tail, hc⟩ := h.completed hl hh
  exact ⟨c, tail, by rw [hc, List.append_assoc, List.singleton_append]⟩

theorem Leads.isCut (h : Leads q p) : IsCut q := by
  obtain ⟨hbounds, hbyte⟩ := h.bounds
  have hlow : (UInt8.ofNat p.low).toNat = p.low := UInt8.toNat_ofNat_of_lt' (by simp only [UInt8.size]; omega)
  obtain ⟨c, tail, hc⟩ := h.completed (b := UInt8.ofNat p.low) (by omega) (by omega)
  refine ⟨?_, c, _, List.cons_ne_nil _ tail, hc⟩
  rintro rfl
  have hresumes := h.resumes []
  simp [decodeFrom] at hresumes

/-- What the decoder stands at behind these bytes, the ones behind the last whole character. -/
inductive Stands : Bytes → Option Pending → Prop where
  | between : Stands [] none
  | within {q : Bytes} {p : Pending} : Leads q p → Stands q (some p)

def Accounts (bs : Bytes) : Except Fault (Text × Option Pending) → Prop
  | .ok (t, s) => ∃ q, bs = encode t ++ q ∧ Stands q s
  | .error f => FirstFault bs f

theorem Accounts.prepend {r : Except Fault (Text × Option Pending)} (h : Accounts bs r) (c : Char) :
    Accounts (String.utf8EncodeChar c ++ bs) (decodeFrom.prepend c r) := by
  cases r with
  | ok x =>
    obtain ⟨t, s⟩ := x
    obtain ⟨q, rfl, hq⟩ := h
    exact ⟨q, by rw [encode_cons, List.append_assoc], hq⟩
  | error f =>
    obtain ⟨t, rest, rfl, hrest⟩ := h
    exact ⟨c :: t, rest, by rw [encode_cons, List.append_assoc], hrest⟩

/-- A decoder that fails on these bytes tells that no character begins with them. -/
theorem not_begins_of_error {f : Fault} (h : ∀ r, decodeFrom none (q ++ r) = .error f) : ¬ Begins q := by
  rintro ⟨c, r, hc⟩
  have hchar := decodeFrom_encodeChar c []
  rw [List.append_nil, ← hc, h] at hchar
  cases hchar

theorem accounts_decodeFrom {s : Option Pending} (hs : Stands q s) (bs : Bytes) :
    Accounts (q ++ bs) (decodeFrom s bs) := by
  induction bs generalizing q s with
  | nil => exact ⟨q, by simp [encode], hs⟩
  | cons b bs ih =>
    cases hs with
    | between =>
      rw [List.nil_append]
      by_cases hb : b.toNat < 0x80
      · rw [decodeFrom_single hb, ← List.singleton_append, ← encodes_one hb]
        exact (ih .between).prepend _
      · cases hlead : lead? b.toNat with
        | none =>
          have herror : ∀ r, decodeFrom none ([b] ++ r) = .error .start := by
            intro r
            simp [decodeFrom, hb, hlead]
          rw [← List.singleton_append, herror]
          exact ⟨[], b :: bs, rfl, .start (not_begins_of_error herror)⟩
        | some p =>
          rw [decodeFrom_lead hlead]
          exact ih (.within (leads_of_lead? hlead))
    | @within _ p hp =>
      obtain ⟨k, more, low, high⟩ := p
      by_cases hb : low ≤ b.toNat ∧ b.toNat ≤ high
      · cases more with
        | zero =>
          have hchar := hp.last hb.1 hb.2
          rw [decodeFrom_last hb.1 hb.2, ← List.singleton_append, ← List.append_assoc, ← hchar]
          exact (ih .between).prepend _
        | succ n =>
          have hrest := ih (.within (hp.next hb.1 hb.2))
          rwa [List.append_assoc, List.singleton_append, ← decodeFrom_next hb.1 hb.2] at hrest
      · have herror : ∀ r, decodeFrom (some ⟨k, more, low, high⟩) (b :: r) = .error .continuation := by
          intro r
          simp [decodeFrom, hb]
        rw [herror]
        refine ⟨[], q ++ b :: bs, rfl, .continuation hp.isCut (not_begins_of_error (f := .continuation) ?_)⟩
        intro r
        rw [List.append_assoc, List.singleton_append, hp.resumes, herror]

variable {t : Text} {f : Fault}

theorem accounts_of_bytes (bs : Bytes) : Accounts bs (decodeFrom none bs) :=
  accounts_decodeFrom .between bs

theorem decodeFrom_append_error {s : Option Pending} (h : decodeFrom s q = .error f) (r : Bytes) :
    decodeFrom s (q ++ r) = .error f := by
  have hprepend : ∀ {c : Char} {x : Except Fault (Text × Option Pending)},
      decodeFrom.prepend c x = .error f → x = .error f := by
    intro c x hx
    cases x with
    | ok y => cases hx
    | error g => exact hx
  induction q generalizing s with
  | nil => cases h
  | cons b q ih =>
    cases s with
    | none =>
      by_cases hb : b.toNat < 0x80
      · rw [decodeFrom_single hb] at h
        rw [List.cons_append, decodeFrom_single hb, ih (hprepend h)]
        rfl
      · cases hlead : lead? b.toNat with
        | none => simpa [decodeFrom, hb, hlead] using h
        | some p =>
          rw [decodeFrom_lead hlead] at h
          rw [List.cons_append, decodeFrom_lead hlead, ih h]
    | some p =>
      obtain ⟨k, more, low, high⟩ := p
      by_cases hb : low ≤ b.toNat ∧ b.toNat ≤ high
      · cases more with
        | zero =>
          rw [decodeFrom_last hb.1 hb.2] at h
          rw [List.cons_append, decodeFrom_last hb.1 hb.2, ih (hprepend h)]
          rfl
        | succ n =>
          rw [decodeFrom_next hb.1 hb.2] at h
          rw [List.cons_append, decodeFrom_next hb.1 hb.2, ih h]
      · simpa [decodeFrom, hb] using h

theorem eq_nil_of_encodeChar {c d : Char} {r : Bytes}
    (h : String.utf8EncodeChar c = String.utf8EncodeChar d ++ r) : r = [] := by
  have hchar := decodeFrom_encodeChar c []
  have hrest := decodeFrom_encodeChar d r
  rw [List.append_nil, h, hrest] at hchar
  have haccounts := accounts_of_bytes r
  cases hr : decodeFrom none r with
  | error g =>
    rw [hr] at hchar
    cases hchar
  | ok x =>
    obtain ⟨t, s⟩ := x
    rw [hr] at hchar haccounts
    simp only [decodeFrom, decodeFrom.prepend, Except.ok.injEq, Prod.mk.injEq, List.cons.injEq] at hchar
    obtain ⟨⟨-, rfl⟩, rfl⟩ := hchar
    obtain ⟨q, rfl, hq⟩ := haccounts
    cases hq
    rfl

theorem IsCut.leads (h : IsCut q) : ∃ p, Leads q p := by
  obtain ⟨hne, c, r, hr, hc⟩ := h
  have haccounts := accounts_of_bytes q
  cases hq : decodeFrom none q with
  | error f =>
    have hchar := decodeFrom_encodeChar c []
    rw [List.append_nil, hc, decodeFrom_append_error hq] at hchar
    cases hchar
  | ok x =>
    obtain ⟨t, s⟩ := x
    rw [hq] at haccounts
    obtain ⟨front, rfl, hs⟩ := haccounts
    cases t with
    | nil =>
      cases hs with
      | between => contradiction
      | @within _ p hp => exact ⟨p, hp⟩
    | cons d t =>
      rw [encode_cons, List.append_assoc, List.append_assoc] at hc
      have hnil := eq_nil_of_encodeChar hc
      simp [hr] at hnil

theorem Faulty.decode (h : Faulty bs f) : decode bs = .error f := by
  cases h with
  | @start b bs h =>
    by_cases hb : b.toNat < 0x80
    · exact absurd ⟨_, [], by rw [List.append_nil, encodes_one hb]⟩ h
    · cases hlead : lead? b.toNat with
      | none => simp [Utf8.decode, decodeFrom, hb, hlead]
      | some p =>
        obtain ⟨-, c, r, -, hc⟩ := (leads_of_lead? hlead).isCut
        exact absurd ⟨c, r, hc.symm⟩ h
  | @continuation q b bs hcut h =>
    obtain ⟨p, hp⟩ := hcut.leads
    by_cases hb : p.low ≤ b.toNat ∧ b.toNat ≤ p.high
    · exact absurd (hp.begins hb.1 hb.2) h
    · rw [Utf8.decode, hp.resumes]
      simp [decodeFrom, hb]
  | truncated hcut =>
    obtain ⟨p, hp⟩ := hcut.leads
    have hresumes := hp.resumes []
    rw [List.append_nil] at hresumes
    rw [Utf8.decode, hresumes]
    rfl

theorem decode_encode_append (t : Text) (h : decode bs = .error f) : decode (encode t ++ bs) = .error f := by
  induction t with
  | nil => exact h
  | cons c t ih =>
    rw [encode_cons, List.append_assoc, decode, decodeFrom_encodeChar]
    rw [decode] at ih
    cases hr : decodeFrom none (encode t ++ bs) with
    | error g => rwa [hr] at ih
    | ok x =>
      obtain ⟨u, s⟩ := x
      rw [hr] at ih
      cases s with
      | none => cases ih
      | some p => exact ih

/-- Bytes are decoded exactly if they are the encoding of a text. -/
theorem decode_eq_ok_iff : decode bs = .ok t ↔ bs = encode t := by
  refine ⟨fun h => ?_, fun h => h ▸ decode_encode t⟩
  have haccounts := accounts_of_bytes bs
  rw [decode] at h
  cases hr : decodeFrom none bs with
  | error g =>
    rw [hr] at h
    cases h
  | ok x =>
    obtain ⟨u, s⟩ := x
    rw [hr] at h haccounts
    cases s with
    | some p => cases h
    | none =>
      obtain rfl := Except.ok.inj h
      obtain ⟨q, rfl, hq⟩ := haccounts
      cases hq
      rw [List.append_nil]

/-- Decoding fails with what is wrong first. -/
theorem decode_eq_error_iff : decode bs = .error f ↔ FirstFault bs f := by
  constructor
  · intro h
    have haccounts := accounts_of_bytes bs
    rw [decode] at h
    cases hr : decodeFrom none bs with
    | error g =>
      rw [hr] at h haccounts
      obtain rfl := Except.error.inj h
      exact haccounts
    | ok x =>
      obtain ⟨u, s⟩ := x
      rw [hr] at h haccounts
      obtain ⟨q, rfl, hq⟩ := haccounts
      cases hq with
      | between => cases h
      | within hp =>
        obtain rfl := Except.error.inj h
        exact ⟨u, q, rfl, .truncated hp.isCut⟩
  · rintro ⟨u, rest, rfl, hrest⟩
    exact decode_encode_append u hrest.decode

end TemplateEngine.Utf8
