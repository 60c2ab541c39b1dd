set_option autoImplicit false

/-!
# Texts and strings

A text is a list of characters: what files, names and the source of a program hold. A string, which is
what a program or a document makes at run time, is a list of code points, and may also hold halves of
surrogate pairs that stand alone. No file can hold such a half, so a string is written only if it is
a text. Searching and cutting are told of lists of any kind and serve both.
-/
namespace TemplateEngine

abbrev Text := List Char

/-- A character, or half of a surrogate pair. -/
inductive CodePoint where
  | char (c : Char)
  /-- The code point `0xD800 + n`, which is no character. -/
  | surrogate (n : Fin 0x800)
  deriving DecidableEq, Repr

abbrev Str := List CodePoint

namespace CodePoint

instance : Inhabited CodePoint := ⟨char default⟩

def toNat : CodePoint → Nat
  | char c => c.toNat
  | surrogate n => 0xD800 + n

def ofNat? (n : Nat) : Option CodePoint :=
  if n.isValidChar then some (char (Char.ofNat n))
  else if h : n - 0xD800 < 0x800 then some (surrogate ⟨n - 0xD800, h⟩) else none

def char? : CodePoint → Option Char
  | char c => some c
  | surrogate _ => none

def satisfies (p : Char → Bool) : CodePoint → Bool
  | char c => p c
  | surrogate _ => false

theorem ofNat?_toNat (c : CodePoint) : ofNat? c.toNat = some c := by
  cases c with
  | char c =>
    have hvalid : c.toNat.isValidChar := c.valid
    rw [toNat, ofNat?, if_pos hvalid, Char.ofNat_toNat]
  | surrogate n =>
    have hvalid : ¬ (0xD800 + n.val).isValidChar := by
      unfold Nat.isValidChar
      omega
    have hn : 0xD800 + n.val - 0xD800 = n.val := by omega
    rw [toNat, ofNat?, if_neg hvalid, dif_pos (by omega)]
    simp only [hn, Fin.eta]

theorem toNat_inj {c d : CodePoint} : c.toNat = d.toNat ↔ c = d := by
  refine ⟨fun h => ?_, fun h => congrArg toNat h⟩
  simpa [ofNat?_toNat] using congrArg ofNat? h

end CodePoint

namespace Text

@[coe] def toStr (t : Text) : Str := t.map .char

instance : Coe Text Str := ⟨toStr⟩

@[simp] theorem toStr_nil : toStr [] = [] := rfl

@[simp] theorem toStr_cons (c : Char) (t : Text) : toStr (c :: t) = .char c :: toStr t := rfl

theorem toStr_flatten (ts : List Text) : toStr ts.flatten = (ts.map toStr).flatten :=
  List.map_flatten

@[simp] theorem toStr_inj {s t : Text} : toStr s = toStr t ↔ s = t :=
  List.map_inj_right fun _ _ h => CodePoint.char.inj h

@[simp] theorem toStr_eq_nil_iff {t : Text} : toStr t = [] ↔ t = [] := List.map_eq_nil_iff

end Text

namespace Str

def text? (s : Str) : Option Text := s.mapM CodePoint.char?

@[simp] theorem text?_toStr (t : Text) : text? t.toStr = some t := by
  induction t with
  | nil => rfl
  | cons c t ih =>
    rw [text?] at ih ⊢
    rw [Text.toStr_cons, List.mapM_cons, ih]
    rfl

theorem eq_toStr_of_text? {s : Str} {t : Text} (h : s.text? = some t) : s = t.toStr := by
  induction s generalizing t with
  | nil =>
    obtain rfl : [] = t := Option.some.inj h
    rfl
  | cons c s ih =>
    rw [text?, List.mapM_cons] at h
    obtain ⟨d, hd, h⟩ := Option.bind_eq_some_iff.1 h
    obtain ⟨u, hu, h⟩ := Option.bind_eq_some_iff.1 h
    obtain rfl : d :: u = t := Option.some.inj h
    cases c with
    | char c =>
      obtain rfl : c = d := Option.some.inj hd
      rw [ih hu, Text.toStr_cons]
    | surrogate n => exact absurd hd (by simp [CodePoint.char?])

/-- Where the first stretch of a string that is no text starts, and where it ends. -/
def gap (s : Str) : Nat × Nat :=
  let start := (s.takeWhile fun c => c.char?.isSome).length
  (start, start + ((s.drop start).takeWhile fun c => c.char?.isNone).length)

end Str

namespace Text

section

variable {α : Type} [DecidableEq α]

def cut? (m : List α) : List α → Option (List α × List α)
  | [] => if m = [] then some ([], []) else none
  | c :: t =>
    if m.isPrefixOf (c :: t) then some ([], (c :: t).drop m.length)
    else (cut? m t).map fun parts => (c :: parts.1, parts.2)

theorem eq_append_drop_of_isPrefixOf {m t : List α} (h : m.isPrefixOf t = true) :
    t = m ++ t.drop m.length := by
  obtain ⟨r, rfl⟩ := List.isPrefixOf_iff_prefix.1 h
  simp

theorem eq_append_of_cut? {m t a b : List α} (h : cut? m t = some (a, b)) : t = a ++ m ++ b := by
  induction t generalizing a b with
  | nil =>
    unfold cut? at h
    split at h <;> simp_all
  | cons c t ih =>
    unfold cut? at h
    split at h
    · next hp =>
      simp only [Option.some.injEq, Prod.mk.injEq] at h
      obtain ⟨rfl, rfl⟩ := h
      simpa using eq_append_drop_of_isPrefixOf hp
    · obtain ⟨⟨x, y⟩, hxy, he⟩ := Option.map_eq_some_iff.1 h
      simp only [Prod.mk.injEq] at he
      obtain ⟨rfl, rfl⟩ := he
      simp [ih hxy]

theorem length_of_cut? {m t a b : List α} (h : cut? m t = some (a, b)) :
    t.length = a.length + m.length + b.length := by
  rw [eq_append_of_cut? h]
  simp only [List.length_append]

def occursIn (m t : List α) : Bool := (cut? m t).isSome

/-- The pieces of `t` between the occurrences of `m`, which is not empty. -/
def splitAt (m t : List α) : List (List α) :=
  go t.length t
where
  go : Nat → List α → List (List α)
    | 0, t => [t]
    | n + 1, t =>
      match cut? m t with
      | none => [t]
      | some (a, b) => a :: go n b

end

section

variable {α : Type}

def join (m : List α) : List (List α) → List α
  | [] => []
  | [t] => t
  | t :: ts => t ++ m ++ join m ts

theorem mem_join {sep : List α} {ls : List (List α)} {c : α} (h : c ∈ join sep ls) :
    c ∈ sep ∨ ∃ l ∈ ls, c ∈ l := by
  fun_induction join sep ls with
  | case1 => simp at h
  | case2 t => exact .inr ⟨t, by simp, h⟩
  | case3 t ts _ ih =>
    simp only [List.mem_append] at h
    obtain (h | h) | h := h
    · exact .inr ⟨t, by simp, h⟩
    · exact .inl h
    · obtain h | ⟨l, hl, hc⟩ := ih h
      · exact .inl h
      · exact .inr ⟨l, by simp [hl], hc⟩

def trimStartBy (p : α → Bool) (t : List α) : List α := t.dropWhile p

def trimEndBy (p : α → Bool) (t : List α) : List α := (t.reverse.dropWhile p).reverse

end

def ofNat (n : Nat) : Text := Nat.toDigits 10 n

def ofInt : Int → Text
  | .ofNat n => ofNat n
  | .negSucc n => '-' :: ofNat (n + 1)

end Text

namespace Str

/-- The order of two strings, by the numbers of their code points. -/
def order : Str → Str → Ordering
  | [], [] => .eq
  | [], _ :: _ => .lt
  | _ :: _, [] => .gt
  | c :: s, d :: t => (compare c.toNat d.toNat).then (order s t)

end Str
end TemplateEngine
