/-
  A TEXT WITHIN A TEXT.
-/

namespace LogDrain.Text

/-- Does the text hold these characters in a row? -/
def hasWithin (part : List Char) : List Char → Bool
  | [] => part.isEmpty
  | c :: cs => part.isPrefixOf (c :: cs) || hasWithin part cs

/-- Exactly the texts made of something, the part and something have it within. -/
theorem hasWithin_iff {part : List Char} :
    ∀ {cs : List Char}, hasWithin part cs = true ↔ ∃ before after, cs = before ++ (part ++ after)
  | [] => by
    simp only [hasWithin, List.isEmpty_iff]
    constructor
    · rintro rfl; exact ⟨[], [], rfl⟩
    · rintro ⟨before, after, h⟩
      cases before <;> cases part <;> simp_all
  | c :: cs => by
    rw [hasWithin, Bool.or_eq_true, hasWithin_iff, List.isPrefixOf_iff_prefix]
    constructor
    · rintro (⟨after, h⟩ | ⟨before, after, h⟩)
      · exact ⟨[], after, h.symm⟩
      · exact ⟨c :: before, after, by rw [h]; rfl⟩
    · rintro ⟨before, after, h⟩
      cases before with
      | nil => exact .inl ⟨after, h.symm⟩
      | cons b before =>
        injection h with _ h
        exact .inr ⟨before, after, h⟩

end LogDrain.Text
