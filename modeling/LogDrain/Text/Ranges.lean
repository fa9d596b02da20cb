/-
  CODE RANGES: a set of characters given as intervals of code points.

  A table is a list of closed intervals that rise and do not meet.  `CodeRange.anyHolds` walks it
  and stops at the first interval that starts beyond the code point, so a look-up among the low
  code points ends after a few steps.
-/

namespace LogDrain.Text

/-- A closed interval of code points: first and last. -/
abbrev CodeRange := Nat × Nat

/-- Does one of the rising intervals hold `n`? -/
def CodeRange.anyHolds : List CodeRange → Nat → Bool
  | [], _ => false
  | (first, last) :: later, n =>
    if n < first then false else if n ≤ last then true else anyHolds later n

/-- Whatever the table, only a code point inside one of its intervals is found. -/
theorem CodeRange.exists_of_anyHolds :
    ∀ {table : List CodeRange} {n : Nat}, anyHolds table n = true →
      ∃ r ∈ table, r.1 ≤ n ∧ n ≤ r.2
  | (first, last) :: later, n, h => by
    unfold anyHolds at h
    by_cases hf : n < first
    · simp [hf] at h
    · by_cases hl : n ≤ last
      · exact ⟨(first, last), List.mem_cons_self, by omega, hl⟩
      · simp only [hf, hl, if_false] at h
        obtain ⟨r, hr, hb⟩ := exists_of_anyHolds h
        exact ⟨r, List.mem_cons_of_mem _ hr, hb⟩

example : CodeRange.anyHolds [(3, 5), (9, 9)] 4 = true := by decide
example : CodeRange.anyHolds [(3, 5), (9, 9)] 7 = false := by decide

end LogDrain.Text
