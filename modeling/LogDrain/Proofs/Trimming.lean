/-
  TRIMMING: what is left of a text when its ends are taken off.

  Trimming drops the blank characters in front and then those at the end.  The second is
  `List.rdropWhile` (`dropTrailingWhile_eq_rdropWhile`), the counterpart of `List.dropWhile`, and
  both come with laws of what they drop and where they stop.  From these:

    * `trim_eq_empty_iff`     nothing is left of blank texts, and of no others;
    * `trim_eq_iff`           trimming takes off the blanks around a text with firm ends;
    * `dropTrailing_eq_iff`   dropping takes off a run of one character, and leaves none at the end.

  The last two have a text made of what is left and what was taken off, so they read in both
  directions.
-/
import LogDrain.Text.Blank
import Mathlib.Data.List.DropRight
import Mathlib.Data.List.TakeWhile

namespace LogDrain.Text

/-- Dropping at the end is dropping in front of the reversed list. -/
theorem dropTrailingWhile_eq_rdropWhile (p : Char → Bool) (cs : List Char) :
    dropTrailingWhile p cs = cs.rdropWhile p := rfl

/-- The blank texts are those that trimming empties. -/
theorem trim_eq_empty_iff {s : String} : trim s = "" ↔ isBlankText s = true := by
  rw [trim, String.ofList_eq_empty_iff, trimChars, dropTrailingWhile_eq_rdropWhile,
    List.rdropWhile_eq_nil_iff, ← List.dropWhile_eq_nil_iff, List.dropWhile_idempotent,
    List.dropWhile_eq_nil_iff, isBlankText, List.all_eq_true]

/-! ## Firm ends -/

/-- The first and the last character, where there are any. -/
def ends (cs : List Char) : List Char := cs.head?.toList ++ cs.getLast?.toList

/-- The characters neither begin nor end with a blank one. -/
def HasFirmEnds (cs : List Char) : Prop := ∀ c ∈ ends cs, isBlank c = false

instance (cs : List Char) : Decidable (HasFirmEnds cs) :=
  -- a look at the two ends, and not at every character that there is
  decidable_of_iff ((ends cs).all fun c => !isBlank c) (by simp [HasFirmEnds])

theorem mem_ends_cons (c : Char) (cs : List Char) : c ∈ ends (c :: cs) :=
  List.mem_append_left _ (by simp)

theorem mem_ends_concat (cs : List Char) (c : Char) : c ∈ ends (cs ++ [c]) :=
  List.mem_append_right _ (by simp)

/-- A character at an end is followed by the rest, or the rest is before it. -/
theorem split_of_mem_ends {cs : List Char} {c : Char} (h : c ∈ ends cs) :
    (∃ rest, cs = c :: rest) ∨ ∃ before, cs = before ++ [c] := by
  rcases List.mem_append.mp h with h | h
  · exact Or.inl (List.head?_eq_some_iff.mp (Option.mem_toList.mp h))
  · exact Or.inr (List.getLast?_eq_some_iff.mp (Option.mem_toList.mp h))

/-! ## What is taken off -/

/-- A run that is dropped, before what is not, is dropped alone. -/
theorem dropWhile_append_eq {p : Char → Bool} {run rest : List Char} (hrun : ∀ c ∈ run, p c = true)
    (hrest : ∀ c ∈ rest.head?, p c = false) : (run ++ rest).dropWhile p = rest := by
  rw [List.dropWhile_append_of_pos hrun]
  cases rest with
  | nil => rfl
  | cons c rest => rw [List.dropWhile_cons, hrest c rfl, if_neg Bool.false_ne_true]

/-- The same at the end. -/
theorem dropTrailingWhile_append_eq {p : Char → Bool} {run rest : List Char}
    (hrun : ∀ c ∈ run, p c = true) (hrest : ∀ c ∈ rest.getLast?, p c = false) :
    dropTrailingWhile p (rest ++ run) = rest := by
  rw [dropTrailingWhile, List.reverse_append, dropWhile_append_eq, List.reverse_reverse]
  · simpa using hrun
  · simpa using hrest

/-- What is left at the end does not end in what is dropped. -/
theorem getLast?_dropTrailingWhile (p : Char → Bool) (cs : List Char) :
    ∀ c ∈ (dropTrailingWhile p cs).getLast?, p c = false := by
  intro c hc
  obtain ⟨before, hbefore⟩ := List.getLast?_eq_some_iff.mp hc
  rw [dropTrailingWhile_eq_rdropWhile] at hbefore
  have hne : cs.rdropWhile p ≠ [] := by simp [hbefore]
  have hlast := List.rdropWhile_last_not p cs hne
  rw [show (cs.rdropWhile p).getLast hne = c by simp [hbefore]] at hlast
  exact Bool.eq_false_iff.mpr hlast

/-- **Trimming takes off what is added at the ends**, and no more where the ends are firm. -/
theorem trim_padded {core pad pad' : String} (hcore : HasFirmEnds core.toList)
    (hpad : isBlankText pad = true) (hpad' : isBlankText pad' = true) :
    trim (pad ++ core ++ pad') = core := by
  have hleft : ∀ c ∈ pad.toList, isBlank c = true := List.all_eq_true.mp hpad
  have hright : ∀ c ∈ pad'.toList, isBlank c = true := List.all_eq_true.mp hpad'
  by_cases hempty : core = ""
  · subst hempty
    rw [trim_eq_empty_iff, isBlankText, List.all_eq_true]
    simpa [or_imp, forall_and] using ⟨hleft, hright⟩
  have hne : core.toList ≠ [] := fun h => hempty (String.toList_eq_nil_iff.mp h)
  have hfirst : ∀ c ∈ (core.toList ++ pad'.toList).head?, isBlank c = false := by
    rw [List.head?_append_of_ne_nil _ hne]
    exact fun c hc => hcore c (List.mem_append_left _ (Option.mem_toList.mpr hc))
  have hlast : ∀ c ∈ core.toList.getLast?, isBlank c = false :=
    fun c hc => hcore c (List.mem_append_right _ (Option.mem_toList.mpr hc))
  rw [trim, String.toList_append, String.toList_append, List.append_assoc, trimChars,
    dropWhile_append_eq hleft hfirst, dropTrailingWhile_append_eq hright hlast,
      String.ofList_toList]

/-- **Trimming takes off the blanks around a text with firm ends.** -/
theorem trim_eq_iff {s core : String} : trim s = core ↔
    HasFirmEnds core.toList ∧
      ∃ pad pad', s = pad ++ core ++ pad' ∧ isBlankText pad = true ∧ isBlankText pad' = true := by
  constructor
  · rintro rfl
    -- the text is a run of blanks, what is left, and another run of blanks
    have hfront : s.toList = s.toList.takeWhile isBlank ++ s.toList.dropWhile isBlank :=
      List.takeWhile_append_dropWhile.symm
    have hback : s.toList.dropWhile isBlank =
        (trim s).toList ++ (s.toList.dropWhile isBlank).rtakeWhile isBlank := by
      rw [trim, String.toList_ofList]
      exact (List.rdropWhile_append_rtakeWhile ..).symm
    refine ⟨?_, String.ofList (s.toList.takeWhile isBlank),
      String.ofList ((s.toList.dropWhile isBlank).rtakeWhile isBlank), ?_, ?_, ?_⟩
    · intro c hc
      rcases List.mem_append.mp hc with hc | hc
      · -- what trimming leaves at the front is where the text without leading blanks begins
        obtain ⟨rest, hrest⟩ := List.head?_eq_some_iff.mp (Option.mem_toList.mp hc)
        rw [hrest] at hback
        have hhead := List.head?_dropWhile_not isBlank s.toList
        rw [hback] at hhead
        simpa using hhead
      · rw [trim, String.toList_ofList] at hc
        exact getLast?_dropTrailingWhile isBlank _ c (Option.mem_toList.mp hc)
    · rw [← String.toList_inj]
      simp only [String.toList_append, String.toList_ofList]
      rw [List.append_assoc, ← hback]
      exact hfront
    · rw [isBlankText, String.toList_ofList, List.all_eq_true]
      exact fun c hc => List.mem_takeWhile_imp hc
    · rw [isBlankText, String.toList_ofList, List.all_eq_true]
      exact fun c hc => List.mem_rtakeWhile_imp hc
  · rintro ⟨hfirm, pad, pad', rfl, hpad, hpad'⟩
    exact trim_padded hfirm hpad hpad'

/-- **Dropping takes off a run of one character**, and leaves none of it at the end. -/
theorem dropTrailing_eq_iff {c : Char} {s core : String} : dropTrailing c s = core ↔
    (∃ n, s.toList = core.toList ++ List.replicate n c) ∧ core.toList.getLast? ≠ some c := by
  constructor
  · rintro rfl
    rw [dropTrailing, String.toList_ofList]
    refine ⟨⟨(s.toList.rtakeWhile (· == c)).length, ?_⟩, fun hc => ?_⟩
    · have hall : ∀ d ∈ s.toList.rtakeWhile (· == c), d = c :=
        fun d hd => eq_of_beq (List.mem_rtakeWhile_imp (p := (· == c)) hd)
      rw [← List.eq_replicate_of_mem hall]
      exact (List.rdropWhile_append_rtakeWhile ..).symm
    · exact absurd (getLast?_dropTrailingWhile (· == c) _ c hc) (by simp)
  · rintro ⟨⟨n, hs⟩, hlast⟩
    rw [dropTrailing, hs, dropTrailingWhile_append_eq, String.ofList_toList]
    · intro d hd
      rw [List.eq_of_mem_replicate hd]
      exact beq_self_eq_true c
    · intro d hd
      refine beq_eq_false_iff_ne.mpr ?_
      rintro rfl
      exact hlast hd

end LogDrain.Text
