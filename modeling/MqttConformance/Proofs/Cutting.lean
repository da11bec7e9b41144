import Mathlib

/-! Texts cut at their last separator. What stands behind it has no separator, and before it
anything may stand; so the cut is the only one of its kind. -/

namespace MqttConformance.Text

variable {sep : Char} {cs before behind : List Char}

/-- A text cut at its last separator. -/
def cutLast? (sep : Char) (cs : List Char) : Option (List Char × List Char) :=
  match cs.reverse.dropWhile (· ≠ sep) with
  | [] => none
  | _ :: before => some (before.reverse, (cs.reverse.takeWhile (· ≠ sep)).reverse)

theorem cutLast?_eq_some : cutLast? sep cs = some (before, behind) ↔
    cs = before ++ sep :: behind ∧ sep ∉ behind := by
  unfold cutLast?
  constructor
  · intro h
    have hwhole := (List.takeWhile_append_dropWhile (p := (· ≠ sep)) (l := cs.reverse)).symm
    have hhead := List.head?_dropWhile_not (· ≠ sep) cs.reverse
    split at h
    · cases h
    · next c rest hdrop =>
      rw [hdrop] at hwhole hhead
      obtain rfl : c = sep := by simpa using hhead
      cases h
      refine ⟨?_, fun hmem => ?_⟩
      · exact (List.reverse_reverse cs).symm.trans ((congrArg List.reverse hwhole).trans (by simp))
      · simpa using List.mem_takeWhile_imp (List.mem_reverse.1 hmem)
  · rintro ⟨rfl, hsep⟩
    have hreverse : (before ++ sep :: behind).reverse =
        behind.reverse ++ sep :: before.reverse := by simp
    have hbehind : ∀ c ∈ behind.reverse, decide (c ≠ sep) = true := fun c hc =>
      decide_eq_true fun heq => hsep (heq ▸ List.mem_reverse.1 hc)
    rw [hreverse, List.dropWhile_append_of_pos hbehind, List.takeWhile_append_of_pos hbehind]
    simp

/-- Texts that are the same have the same last words. -/
theorem eq_of_last {a b n m : List Char} (hn : sep ∉ n) (hm : sep ∉ m)
    (h : a ++ sep :: n = b ++ sep :: m) : n = m := by
  have hcut : some (a, n) = some (b, m) :=
    (cutLast?_eq_some.2 ⟨rfl, hn⟩).symm.trans (cutLast?_eq_some.2 ⟨h, hm⟩)
  cases hcut
  rfl

end MqttConformance.Text
