import Mathlib.Data.List.Basic
import MetricLedger.Text.Split

/-!
# The lines of a text

A text that does not end in the middle of a line end is cut by a line feed after it. It is on one
line just when no character of it ends a line.
-/

namespace MetricLedger.Text

section
variable {s : List Char} {c d : Char}

theorem lines_ne_nil (h : s ≠ []) : lines s ≠ [] := by
  fun_induction lines s with
  | case1 => exact absurd rfl h
  | _ => simp

theorem length_lines_pos (h : s.getLast? = some d) : 0 < (lines s).length := by
  apply List.length_pos_of_ne_nil
  apply lines_ne_nil
  rintro rfl
  cases h

theorem lines_cons (hc : endsLine c = false) (s : List Char) :
    lines (c :: s) = (c :: (lines s).headD []) :: (lines s).tail := by
  have hreturn : ∀ rest, c = '\r' → s = '\n' :: rest → False := by
    rintro rest rfl
    cases hc
  rw [lines.eq_3 _ _ hreturn, hc]
  cases lines s <;> rfl

/-! ## The character at the end -/

theorem getLast?_of_cons (h : (c :: s).getLast? = some d) (hs : s ≠ []) : s.getLast? = some d := by
  obtain ⟨b, s, rfl⟩ := List.exists_cons_of_ne_nil hs
  rwa [List.getLast?_cons_cons] at h

/-- The end of a line does not stand at the end. -/
theorem getLast?_of_endsLine (h : (c :: s).getLast? = some d) (hc : endsLine c = true)
    (hd : endsLine d = false) : s.getLast? = some d := by
  apply getLast?_of_cons h
  rintro rfl
  cases h
  exact absurd (hc.symm.trans hd) (by decide)

theorem getLast?_of_lines {line : List Char} {more : List (List Char)}
    (h : (c :: s).getLast? = some d) (hlines : lines s = line :: more) : s.getLast? = some d := by
  apply getLast?_of_cons h
  rintro rfl
  cases hlines

/-! ## Cutting -/

theorem lines_append (hlast : s.getLast? = some d) (hd : endsLine d = false) (rest : List Char) :
    lines (s ++ '\n' :: rest) = lines s ++ lines rest := by
  fun_induction lines s with
  | case1 => cases hlast
  | case2 s ih =>
    have hlast := getLast?_of_endsLine hlast (by decide) hd
    have hlast := getLast?_of_endsLine hlast (by decide) hd
    simp only [List.cons_append, lines, ih hlast]
  | case3 c s hreturn hend ih =>
    have hlast := getLast?_of_endsLine hlast hend hd
    have hreturn' : ∀ more, c = '\r' → s ++ '\n' :: rest = '\n' :: more → False := by
      intro more hc hmore
      cases s with
      | nil => cases hlast
      | cons b s =>
        rw [List.cons_append, List.cons.injEq] at hmore
        exact hreturn s hc (by rw [hmore.1])
    rw [List.cons_append, lines.eq_3 _ _ hreturn', if_pos hend, ih hlast, List.cons_append]
  | case4 c s hreturn hend hnil ih =>
    have hs : s = [] := by
      by_contra hs
      exact lines_ne_nil hs hnil
    subst hs
    rw [List.singleton_append, lines_cons (by simpa using hend), lines.eq_3 _ _ (by simp),
      if_pos (by decide)]
    rfl
  | case5 c s hreturn hend line more hlines ih =>
    have hlast := getLast?_of_lines hlast hlines
    rw [List.cons_append, lines_cons (by simpa using hend), ih hlast, hlines]
    rfl

theorem lines_flatMap {α : Type} {f : α → List Char}
    (hlast : ∀ x, (f x).getLast? = some d) (hd : endsLine d = false) (xs : List α) :
    lines (xs.flatMap fun x => f x ++ ['\n']) = xs.flatMap fun x => lines (f x) := by
  induction xs with
  | nil => rfl
  | cons x xs ih =>
    rw [List.flatMap_cons, List.flatMap_cons, List.append_assoc, List.singleton_append,
      lines_append (hlast x) hd, ih]

/-! ## One line -/

theorem lines_of_not_endsLine (hs : s ≠ []) (h : ∀ c ∈ s, endsLine c = false) : lines s = [s] := by
  induction s with
  | nil => exact absurd rfl hs
  | cons c s ih =>
    obtain ⟨hc, htail⟩ := List.forall_mem_cons.1 h
    rw [lines_cons hc]
    by_cases hnil : s = []
    · subst hnil
      rfl
    · rw [ih hnil htail]
      rfl

theorem not_endsLine_of_length_le (hlast : s.getLast? = some d) (hd : endsLine d = false)
    (h : (lines s).length ≤ 1) : ∀ c ∈ s, endsLine c = false := by
  fun_induction lines s with
  | case1 => cases hlast
  | case2 s ih =>
    have hlast := getLast?_of_endsLine hlast (by decide) hd
    have := length_lines_pos (getLast?_of_endsLine hlast (by decide) hd)
    rw [List.length_cons] at h
    omega
  | case3 c s hreturn hend ih =>
    have := length_lines_pos (getLast?_of_endsLine hlast hend hd)
    rw [List.length_cons] at h
    omega
  | case4 c s hreturn hend hnil ih =>
    have hs : s = [] := by
      by_contra hs
      exact lines_ne_nil hs hnil
    subst hs
    simpa using hend
  | case5 c s hreturn hend line more hlines ih =>
    have hlast := getLast?_of_lines hlast hlines
    rw [hlines] at ih
    exact List.forall_mem_cons.2 ⟨by simpa using hend, ih hlast h⟩

end

end MetricLedger.Text
