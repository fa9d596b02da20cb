/-
  SELECTION: which provider a selection stands for.

  A selection is any text, or none.  `Answers.Selects` says of one provider that the selection,
  trimmed and in lower case, is its slug or its name in lower case.

    * `Chooses`       from any list, the first provider that the selection stands for is chosen; so
                      two selections that differ in case or in blank ends make the same choice;
    * `ChoosesAlone`  from the catalog, in whatever order, only one provider can be chosen, and each
                      by every spelling of its slug and its name.

  The second rests on `catalog_fits`: in lower case, the slugs and names of the catalog are told
  apart. A spelling is a slug or name in other letters with blanks around it.  These are all that
  trimming takes off (`trim_padded`), for the slugs and names have no blank ends in lower case, and
  lower case would have kept one (`ends_lowerFrom`).
-/
import LogDrain.Proofs.Listing
import LogDrain.Proofs.Screening
import LogDrain.Proofs.Trimming

namespace LogDrain

namespace Text

/-! ## Lower case and blanks -/

/-- The table of lower case leaves the blank characters alone. -/
theorem apply_lowerRuns_of_blank : ∀ r ∈ blankRanges, ∀ i < r.2 + 1 - r.1,
    CaseRun.apply lowerRuns (r.1 + i) = r.1 + i := by
  decide +kernel

/-- A blank character is its own lower case. -/
theorem lowerChar_of_isBlank {c : Char} (h : isBlank c = true) : lowerChar c = [c] := by
  obtain ⟨r, hr, hfirst, hlast⟩ := CodeRange.exists_of_anyHolds h
  have hsame := apply_lowerRuns_of_blank r hr (c.toNat - r.1) (by omega)
  rw [Nat.add_sub_cancel' hfirst] at hsame
  have hdotted : c ≠ 'İ' := by
    rintro rfl
    exact absurd h (by decide)
  rw [lowerChar, if_neg hdotted, hsame, Char.ofNat_toNat]

/-- So it stays where it is, whatever is around it. -/
theorem lowerFrom_cons_of_isBlank {before : Bool} {c : Char} {cs : List Char}
    (h : isBlank c = true) :
    lowerFrom before (c :: cs) = c :: lowerFrom (casedAfter before c) cs := by
  have hsigma : c ≠ 'Σ' := by
    rintro rfl
    exact absurd h (by decide)
  rw [lowerFrom, if_neg hsigma, lowerChar_of_isBlank h]
  rfl

theorem lowerFrom_concat_of_isBlank {c : Char} (h : isBlank c = true) :
    ∀ (before : Bool) (cs : List Char), ∃ lowered, lowerFrom before (cs ++ [c]) = lowered ++ [c]
  | _, [] => ⟨[], lowerFrom_cons_of_isBlank h⟩
  | before, d :: cs => by
    obtain ⟨lowered, hrest⟩ := lowerFrom_concat_of_isBlank h (casedAfter before d) cs
    rw [List.cons_append, lowerFrom, hrest, ← List.append_assoc]
    exact ⟨_, rfl⟩

/-- **Lower case keeps a blank at an end.** -/
theorem ends_lowerFrom {before : Bool} {cs : List Char} {c : Char} (h : isBlank c = true)
    (hc : c ∈ ends cs) : c ∈ ends (lowerFrom before cs) := by
  rcases split_of_mem_ends hc with ⟨rest, rfl⟩ | ⟨rest, rfl⟩
  · rw [lowerFrom_cons_of_isBlank h]
    exact mem_ends_cons c _
  · obtain ⟨lowered, hlowered⟩ := lowerFrom_concat_of_isBlank h before rest
    rw [hlowered]
    exact mem_ends_concat lowered c

/-- A text has firm ends if one with the same lower case has them in lower case. -/
theorem hasFirmEnds_of_lower_eq {s t : String} (h : lower s = lower t)
    (ht : HasFirmEnds (lowerFrom false t.toList)) : HasFirmEnds s.toList := by
  have hchars : lowerFrom false s.toList = lowerFrom false t.toList := String.ofList_inj.mp h
  intro c hc
  refine Bool.eq_false_iff.mpr fun hblank => ?_
  have hlowered : c ∈ ends (lowerFrom false s.toList) := ends_lowerFrom hblank hc
  rw [hchars] at hlowered
  exact Bool.eq_false_iff.mp (ht c hlowered) hblank

theorem lowerChar_ne_nil (c : Char) : lowerChar c ≠ [] := by
  unfold lowerChar
  split <;> exact List.cons_ne_nil _ _

theorem lowerFrom_eq_nil_iff {before : Bool} :
    ∀ {cs : List Char}, lowerFrom before cs = [] ↔ cs = []
  | [] => Iff.rfl
  | c :: cs => by
    refine iff_of_false (fun h => ?_) (List.cons_ne_nil c cs)
    have hfirst := (List.append_eq_nil_iff.mp h).1
    split at hfirst
    · cases hfirst
    · exact lowerChar_ne_nil c hfirst

/-- Only the empty text has an empty lower case. -/
theorem lower_eq_empty_iff {s : String} : lower s = "" ↔ s = "" := by
  rw [lower, ← String.toList_inj, String.toList_ofList, ← String.toList_inj]
  exact lowerFrom_eq_nil_iff

end Text

namespace Answers

open Text

variable {offer offer' : List Provider} {selection selection' : Option String}
  {values : List (String × String)} {provider : Provider}

/-! ## A choice in any list -/

/-- The choice among the providers on offer. -/
def chosen (selection : Option String) (values : List (String × String)) (offer : List Provider) :
    Except Fault Provider :=
  ((of selection values).select offer).mapError .answers

/-- **The first provider that the selection stands for is chosen.** -/
theorem chosen_eq_ok_iff : chosen selection values offer = .ok provider ↔
    trim (selection.getD "") ≠ "" ∧ ∃ before after, offer = before ++ provider :: after ∧
      Selects selection provider ∧ ∀ other ∈ before, ¬ Selects selection other := by
  rw [chosen, mapError_eq_ok, select_eq_ok_iff, List.find?_eq_some_iff_append]
  simp only [Bool.not_eq_true', Bool.eq_false_iff, fits_iff, Ne]
  constructor
  · rintro ⟨hchoice, hselects, before, after, hoffer, hbefore⟩
    exact ⟨hchoice, before, after, hoffer, hselects, hbefore⟩
  · rintro ⟨hchoice, before, after, hoffer, hselects, hbefore⟩
    exact ⟨hchoice, hselects, before, after, hoffer, hbefore⟩

/-- What is not chosen is refused for the answers. -/
theorem chosen_failsAs (h : ∀ provider, chosen selection values offer ≠ .ok provider) :
    FailsAs .answers (chosen selection values offer) := by
  unfold chosen at h ⊢
  cases hselect : (of selection values).select offer with
  | ok provider =>
    rw [hselect] at h
    exact absurd rfl (h provider)
  | error cause => exact ⟨_, rfl, rfl⟩

/-- The two are the same provider, or both are refused. -/
def SameChoice (r r' : Except Fault Provider) : Prop :=
  (∃ provider, r = .ok provider ∧ r' = .ok provider) ∨ FailsAs .answers r ∧ FailsAs .answers r'

theorem sameChoice_of_forall
    (h : ∀ provider, chosen selection values offer = .ok provider ↔
      chosen selection' values offer' = .ok provider) :
    SameChoice (chosen selection values offer) (chosen selection' values offer') := by
  by_cases hnone : ∃ provider, chosen selection values offer = .ok provider
  · obtain ⟨provider, hchosen⟩ := hnone
    exact Or.inl ⟨provider, hchosen, (h provider).mp hchosen⟩
  · have hrefused := not_exists.mp hnone
    exact Or.inr ⟨chosen_failsAs hrefused,
      chosen_failsAs fun provider hchosen => hrefused provider ((h provider).mpr hchosen)⟩

/-- How a provider is chosen from a list. -/
structure Chooses (values : List (String × String)) (offer : List Provider) : Prop where
  picks_iff : ∀ selection provider, chosen selection values offer = .ok provider ↔
    trim (selection.getD "") ≠ "" ∧ ∃ before after, offer = before ++ provider :: after ∧
      Selects selection provider ∧ ∀ other ∈ before, ¬ Selects selection other
  refuses : ∀ selection, (∀ provider, chosen selection values offer ≠ .ok provider) →
    FailsAs .answers (chosen selection values offer)
  alike : ∀ selection selection',
    lower (trim (selection.getD "")) = lower (trim (selection'.getD "")) →
    SameChoice (chosen selection values offer) (chosen selection' values offer)

/-- Only the lower case of what is left after trimming makes a difference. -/
theorem chosen_alike
    (h : lower (trim (selection.getD "")) = lower (trim (selection'.getD "")))
    (provider : Provider) :
    chosen selection values offer = .ok provider ↔
      chosen selection' values offer = .ok provider := by
  have hempty : trim (selection.getD "") = "" ↔ trim (selection'.getD "") = "" := by
    rw [← lower_eq_empty_iff, h, lower_eq_empty_iff]
  simp only [chosen_eq_ok_iff, Selects, Ne, hempty, h]

theorem chooses (values : List (String × String)) (offer : List Provider) :
    Chooses values offer where
  picks_iff _ _ := chosen_eq_ok_iff
  refuses _ := chosen_failsAs
  alike _ _ h := sameChoice_of_forall (chosen_alike h)

/-! ## The choice in the catalog -/

/-- No selection stands for two providers of the catalog. -/
theorem selects_unique {other : Provider} (hoffer : provider ∈ Provider.catalog)
    (hother : other ∈ Provider.catalog) (h : Selects selection provider)
    (h' : Selects selection other) : provider = other := by
  have hselect : (of selection []).select Provider.catalog = .ok provider :=
    select_of_selects hoffer h
  rw [select_of_selects hother h'] at hselect
  exact (Except.ok.inj hselect).symm

/-- **In whatever order the catalog stands**, the provider chosen is the one that the selection
    stands for. -/
theorem chosen_perm_iff (hperm : offer.Perm Provider.catalog) :
    chosen selection values offer = .ok provider ↔
      provider ∈ Provider.catalog ∧ Selects selection provider := by
  constructor
  · intro hchosen
    obtain ⟨-, before, after, hoffer, hselects, -⟩ := chosen_eq_ok_iff.mp hchosen
    have hmem : provider ∈ offer := hoffer ▸ List.mem_append_right before List.mem_cons_self
    exact ⟨hperm.mem_iff.mp hmem, hselects⟩
  · rintro ⟨hmem, hselects⟩
    have hchoice : trim (selection.getD "") ≠ "" := by
      have hinCatalog : chosen selection values Provider.catalog = .ok provider :=
        mapError_eq_ok.mpr (select_of_selects hmem hselects)
      exact (chosen_eq_ok_iff.mp hinCatalog).1
    -- it is the first that fits, for no other one does
    obtain ⟨before, after, hoffer, hnew⟩ := List.eq_append_cons_of_mem (hperm.mem_iff.mpr hmem)
    refine chosen_eq_ok_iff.mpr ⟨hchoice, before, after, hoffer, hselects, fun other hother h => ?_⟩
    have hinOffer : other ∈ offer := hoffer ▸ List.mem_append_left _ hother
    cases selects_unique hmem (hperm.mem_iff.mp hinOffer) hselects h
    exact hnew hother

theorem catalog_lookup : ∀ p ∈ Provider.catalog, Provider.lookup? p.slug = some p := by
  decide +kernel

/-- In lower case, no slug or name has a blank end. -/
theorem catalog_firm : ∀ p ∈ Provider.catalog,
    HasFirmEnds (lowerFrom false p.slug.toList) ∧ HasFirmEnds (lowerFrom false p.name.toList) := by
  decide +kernel

/-- A slug or name in other letters and between blanks still stands for its provider. -/
theorem selects_padded (hoffer : provider ∈ Provider.catalog) {core pad pad' : String}
    (hcore : lower core = lower provider.slug ∨ lower core = lower provider.name)
    (hpad : isBlankText pad = true) (hpad' : isBlankText pad' = true) :
    Selects (some (pad ++ core ++ pad')) provider := by
  obtain ⟨hslug, hname⟩ := catalog_firm provider hoffer
  have hfirm : HasFirmEnds core.toList := by
    rcases hcore with h | h
    · exact hasFirmEnds_of_lower_eq h hslug
    · exact hasFirmEnds_of_lower_eq h hname
  rw [Selects, Option.getD_some, trim_padded hfirm hpad hpad']
  exact hcore

/-- How a provider is chosen from the catalog in this order: as from the catalog in its own, and by
    its slug and its name in every spelling. -/
structure ChoosesAlone (values : List (String × String)) (offer : List Provider) : Prop where
  reordered : ∀ selection,
    SameChoice (chosen selection values offer) (chosen selection values Provider.catalog)
  found : ∀ slug provider, Provider.lookup? slug = some provider →
    chosen (some slug) values offer = .ok provider
  back : ∀ selection provider, chosen selection values offer = .ok provider →
    Provider.lookup? provider.slug = some provider
  respelled : ∀ selection provider, chosen selection values offer = .ok provider →
    ∀ core, lower core = lower provider.slug ∨ lower core = lower provider.name →
      ∀ pad pad', isBlankText pad = true → isBlankText pad' = true →
        chosen (some (pad ++ core ++ pad')) values offer = .ok provider

theorem choosesAlone (values : List (String × String)) (hperm : offer.Perm Provider.catalog) :
    ChoosesAlone values offer where
  reordered _ := sameChoice_of_forall fun _ =>
    (chosen_perm_iff hperm).trans (chosen_perm_iff (List.Perm.refl _)).symm
  found slug provider hlookup := by
    have hoffer : provider ∈ Provider.catalog := List.mem_of_find?_eq_some hlookup
    have hslug : provider.slug = slug := by simpa using List.find?_some hlookup
    have hselects : Selects (some ("" ++ slug ++ "")) provider :=
      selects_padded hoffer (Or.inl (congrArg lower hslug.symm)) rfl rfl
    rw [String.empty_append, String.append_empty] at hselects
    exact (chosen_perm_iff hperm).mpr ⟨hoffer, hselects⟩
  back _ provider hchosen := catalog_lookup provider ((chosen_perm_iff hperm).mp hchosen).1
  respelled _ provider hchosen core hcore pad pad' hpad hpad' := by
    have hoffer := ((chosen_perm_iff hperm).mp hchosen).1
    exact (chosen_perm_iff hperm).mpr ⟨hoffer, selects_padded hoffer hcore hpad hpad'⟩

/-- **The first provider that the selection stands for** is chosen from every list, and from the
    catalog the only one, whatever its order. -/
theorem selection_chooses (values : List (String × String)) :
    (∀ offer, Chooses values offer) ∧
      ∀ offer, offer.Perm Provider.catalog → ChoosesAlone values offer :=
  ⟨chooses values, fun _ => choosesAlone values⟩

/-- The Kelvin sign is a capital k, and the catalog can be read from its end. -/
theorem chooses_reversed : Provider.catalog.reverse.Perm Provider.catalog ∧
    (chosen (some "\u3000LO\u212aI\n") [] Provider.catalog.reverse).toOption =
      Provider.lookup? "loki" ∧
    ChoosesAlone [] Provider.catalog.reverse :=
  ⟨List.reverse_perm _, by decide +kernel, (selection_chooses []).2 _ (List.reverse_perm _)⟩

end Answers

end LogDrain
