import TemplateEngine.Proofs.Script.Showing

set_option autoImplicit false

/-!
# Room for the text of a value

Calls that are under way leave less room for looking into nested values. With less room the text of a value
is the same, or it is not made for want of room; nothing else changes.
-/
namespace TemplateEngine.Script

namespace Result

variable {α β : Type}

/-- The result `r` is `q`, unless there was no room for it. -/
def Within (r q : Result α) : Prop := r = q ∨ r = raise .recursionError

theorem Within.refl (r : Result α) : Within r r := .inl rfl

theorem Within.trans {r q p : Result α} (h : Within r q) (k : Within q p) : Within r p := by
  obtain rfl | rfl := h
  · exact k
  · exact .inr rfl

theorem Within.bind {r q : Result α} {f g : α → Result β} (h : Within r q)
    (hfg : ∀ a, Within (f a) (g a)) : Within (r >>= f) (q >>= g) := by
  obtain rfl | rfl := h
  · cases r with
    | ok a => exact hfg a
    | error e => exact .refl _
  · exact .inr rfl

theorem Within.mapM {f g : α → Result β} (hfg : ∀ a, Within (f a) (g a)) (xs : List α) :
    Within (xs.mapM f) (xs.mapM g) := by
  induction xs with
  | nil => exact .refl _
  | cons x xs ih =>
    rw [List.mapM_cons, List.mapM_cons]
    exact (hfg x).bind fun _ => ih.bind fun _ => .refl _

/-- Nothing is made of items that there is no room to look at, unless there are none. -/
theorem within_mapM (f : α → Result β) (xs : List α) :
    Within (if xs.isEmpty = true then pure [] else raise .recursionError) (xs.mapM f) := by
  cases xs with
  | nil => exact .refl _
  | cons x xs => exact .inr rfl

end Result

namespace Value

variable {h k : Heap} {n : Nat} {seen : List Value}

/-- A value is shown the same with one level more if what stands one or two levels below it is. -/
theorem show_within_of (v : Value)
    (hitem : ∀ seen w, Result.Within (Value.show h n seen w) (Value.show h (n + 1) seen w))
    (hbelow : ∀ m, n = m + 1 → ∀ seen w,
      Result.Within (Value.show h m seen w) (Value.show h n seen w)) :
    Result.Within (Value.show h (n + 1) seen v) (Value.show h (n + 2) seen v) := by
  unfold Value.show
  cases v.dots?.filter fun _ => seen.any v.same with
  | some t => cases v <;> exact .refl _
  | none =>
    cases v with
    | tuple vs _ => exact (Result.Within.mapM (hitem _) vs).bind fun _ => .refl _
    | list a => exact (Result.Within.mapM (hitem _) (h.items a)).bind fun _ => .refl _
    | slice a b c _ => exact (Result.Within.mapM (hitem _) [a, b, c]).bind fun _ => .refl _
    | dict a =>
      refine (Result.Within.mapM (fun e => ?_) (h.entries a)).bind fun _ => .refl _
      exact (hitem _ e.1).bind fun _ => (hitem _ e.2).bind fun _ => .refl _
    -- What stands two levels below the value is not looked at if there is one level left.
    | frozenset vs _ =>
      cases vs with
      | nil => exact .refl _
      | cons w vs =>
        cases n with
        | zero => exact (Result.within_mapM _ (w :: vs)).bind fun _ => .refl _
        | succ n => exact (Result.Within.mapM (hbelow n rfl _) (w :: vs)).bind fun _ => .refl _
    | view kind a _ =>
      cases kind <;> cases n with
      | zero => exact (Result.within_mapM _ _).bind fun _ => .refl _
      | succ n => exact (Result.Within.mapM (hbelow n rfl _) _).bind fun _ => .refl _
    | exception c vs _ =>
      obtain _ | ⟨w, _ | ⟨w', vs⟩⟩ := vs
      rotate_left
      · exact (Result.Within.mapM (hitem _) [w]).bind fun _ => .refl _
      all_goals
        cases n with
        | zero => exact (Result.within_mapM _ _).bind fun _ => .refl _
        | succ n => exact (Result.Within.mapM (hbelow n rfl _) _).bind fun _ => .refl _
    | _ => exact .refl _

theorem show_within_succ (n : Nat) (seen : List Value) (v : Value) :
    Result.Within (Value.show h n seen v) (Value.show h (n + 1) seen v) := by
  induction n using Nat.strongRecOn generalizing seen v with
  | ind n ih =>
    cases n with
    | zero => exact .inr rfl
    | succ n =>
      refine show_within_of v (ih n (Nat.lt_succ_self n)) fun m hm => ?_
      subst hm
      exact ih m (by omega)

/-- With less room a value is shown the same or not at all. -/
theorem show_within {m n : Nat} (hmn : m ≤ n) (seen : List Value) (v : Value) :
    Result.Within (Value.show h m seen v) (Value.show h n seen v) := by
  induction hmn with
  | refl => exact .refl _
  | step _ ih => exact ih.trans (show_within_succ _ seen v)

theorem toText_within (hface : ∀ a, h.face a = k.face a) (hdepth : k.depth ≤ h.depth) (v : Value) :
    Result.Within (v.toText h) (v.toText k) := by
  have hshown : ∀ v : Value, Result.Within (v.shown h) (v.shown k) := by
    intro v
    rw [shown, shown, show_congr hface]
    exact show_within (Nat.sub_le_sub_left hdepth maxCalls) [] v
  fun_induction Value.toText h v with
  | case1 | case2 | case3 | case4 | case5 => exact .refl _
  | case6 c =>
    rw [toText]
    exact .refl _
  | case7 v =>
    rw [toText, if_pos rfl]
    exact (hshown v).bind fun _ => .refl _
  | case8 c v _ hc ih =>
    rw [toText, if_neg hc]
    exact ih
  | case9 c v w vs _ _ _ files hfiles ihv ihw =>
    rw [toText, hfiles]
    · exact (Result.Within.mapM hshown files).bind fun _ => ihv.bind fun _ => ihw.bind fun _ => .refl _
    all_goals assumption
  | case10 c v w vs _ _ _ hfiles hc ih =>
    rw [toText, hfiles]
    · simpa only [if_pos hc] using ih
    all_goals assumption
  | case11 c v w vs _ _ _ hfiles hc =>
    rw [toText, hfiles]
    · simpa only [if_neg hc] using (hshown _).bind fun _ => .refl _
    all_goals assumption
  | case12 v =>
    rw [toText]
    · exact (hshown v).bind fun _ => .refl _
    all_goals assumption

end Value
end TemplateEngine.Script
