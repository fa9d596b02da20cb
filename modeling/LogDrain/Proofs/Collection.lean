/-
  COLLECTION: the secrets that the operator's answers make, exactly.

  The answers are a map from variables to values: no key has two values (`Nodup` of the keys).  The
  provider is any, with any lists of variables, which may repeat each other.

    * `Answered`        a variable has a value that is more than blank;
    * `IsUndeclared`    a key has a value, and is no variable of the provider;
    * `Collects`        when the secrets are collected, which ones they are, and what is named where
                        they are not.

  Everything is read in the answers as a set of pairs, so their order is nowhere (`value_perm`).
  What is undeclared is named in the order of the code points, each key once (`sortTexts_rising`).
  `collects_exactly` is the whole.
-/
import LogDrain.Proofs.Screening
import LogDrain.Proofs.Secrecy

namespace LogDrain

/-! ## Sorted texts rise -/

/-- The texts rise by their code points; so none is there twice. -/
def Rising (texts : List String) : Prop := texts.Pairwise (· < ·)

namespace Answers

/-- **Sorted texts rise**, where none is there twice. -/
theorem sortTexts_rising {texts : List String} (h : texts.Nodup) : Rising (sortTexts texts) := by
  rw [sortTexts_eq_insertionSort]
  have hsorted := texts.pairwise_insertionSort (· ≤ ·)
  have hnodup : (texts.insertionSort (· ≤ ·)).Nodup := (texts.perm_insertionSort _).nodup_iff.mpr h
  exact hsorted.imp₂ (fun _ _ hle hne => lt_of_le_of_ne hle hne) hnodup

/-! ## Answers as a map

  With one value for a key, the list of answers is a map, and every question asked of it is a
  question of membership.  This is what makes the order irrelevant. -/

variable {selection : Option String} {values values' : List (String × String)} {provider : Provider}

/-- The variable has a value that is more than blank. -/
def Answered (values : List (String × String)) (key : String) : Prop :=
  ∃ entry ∈ values, entry.1 = key ∧ Text.isBlankText entry.2 = false

instance (values : List (String × String)) (key : String) : Decidable (Answered values key) :=
  inferInstanceAs (Decidable (∃ entry ∈ values, entry.1 = key ∧ Text.isBlankText entry.2 = false))

/-- The key has a value, and the provider does not declare it. -/
def IsUndeclared (provider : Provider) (values : List (String × String)) (key : String) : Prop :=
  key ∈ values.map (·.1) ∧ key ∉ provider.allVars

/-- In a map, what is found for a key is what stands there. -/
theorem lookup_eq_some_iff (h : (values.map (·.1)).Nodup) {key value : String} :
    values.lookup key = some value ↔ (key, value) ∈ values := by
  induction values with
  | nil => simp
  | cons entry values ih =>
    obtain ⟨hnew, hrest⟩ := List.nodup_cons.mp h
    obtain ⟨key', value'⟩ := entry
    rw [List.lookup_cons, List.mem_cons, Prod.mk.injEq]
    by_cases hkey : key = key'
    · subst hkey
      have hother : (key, value) ∉ values := fun hmem => hnew (List.mem_map.mpr ⟨_, hmem, rfl⟩)
      simp [hother, eq_comm]
    · rw [beq_eq_false_iff_ne.mpr hkey]
      simp [hkey, ih hrest]

/-- So the order of the entries makes no difference. -/
theorem value_perm (h : (values.map (·.1)).Nodup) (hperm : values'.Perm values) (key : String) :
    (of selection values').value key = (of selection values).value key := by
  have h' : (values'.map (·.1)).Nodup := (hperm.map _).nodup_iff.mpr h
  have hlookup : values'.lookup key = values.lookup key := by
    refine Option.ext fun value => ?_
    rw [lookup_eq_some_iff h', lookup_eq_some_iff h, hperm.mem_iff]
  rw [value, value, of, of, hlookup]

/-- A variable counts as filled exactly if it is answered. -/
theorem isFilled_iff (h : (values.map (·.1)).Nodup) {key : String} :
    (of selection values).isFilled key = true ↔ Answered values key := by
  constructor
  · intro hfilled
    obtain ⟨hlookup, hblank⟩ := lookup_of_isFilled hfilled
    exact ⟨(key, _), (lookup_eq_some_iff h).mp hlookup, rfl, hblank⟩
  · rintro ⟨⟨_, value⟩, hmem, rfl, hblank⟩
    have hlookup := (lookup_eq_some_iff h).mpr hmem
    simpa [isFilled, Answers.value, of, hlookup] using hblank

/-- With one value for a key, to be filled is to be answered. -/
theorem isFilled_eq (h : (values.map (·.1)).Nodup) (key : String) :
    (of selection values).isFilled key = decide (Answered values key) :=
  Bool.eq_iff_iff.mpr ((isFilled_iff h).trans decide_eq_true_iff.symm)

/-- The value of an answered variable is the one that stands in the map. -/
theorem value_eq (h : (values.map (·.1)).Nodup) {key value : String}
    (hmem : (key, value) ∈ values) : (of selection values).value key = value := by
  simp [Answers.value, of, (lookup_eq_some_iff h).mpr hmem]

/-! ## What the checks find

  Each check of the collection, said without the code: which keys are named as unexpected, which
  as missing, and what is collected. -/

theorem mem_unexpected {key : String} :
    key ∈ (of selection values).unexpected provider ↔ IsUndeclared provider values key := by
  simp [unexpected, of, sortTexts_eq_insertionSort, IsUndeclared]

/-- They are named in rising order, which says both that they are sorted and that none is named
    twice. -/
theorem unexpected_rising (h : (values.map (·.1)).Nodup) :
    Rising ((of selection values).unexpected provider) :=
  sortTexts_rising (h.filter _)

theorem unexpected_eq_nil_iff : (of selection values).unexpected provider = [] ↔
    ∀ key, ¬ IsUndeclared provider values key := by
  simp only [List.eq_nil_iff_forall_not_mem, mem_unexpected]

/-- The missing variables are the required ones without an answer, in the provider's order. -/
theorem missing_eq (h : (values.map (·.1)).Nodup) :
    (of selection values).missing provider =
      provider.requiredVars.filter fun key => !decide (Answered values key) := by
  simp only [missing, isFilled_eq h]

theorem missing_eq_nil_iff (h : (values.map (·.1)).Nodup) :
    (of selection values).missing provider = [] ↔
      ∀ key ∈ provider.requiredVars, Answered values key := by
  simp [missing_eq h, List.filter_eq_nil_iff]

/-- What is collected: everything required, and of the optional variables those that are
    answered. -/
theorem collectedVars_eq (h : (values.map (·.1)).Nodup) :
    (of selection values).collectedVars provider =
      provider.requiredVars ++ provider.optionalVars.filter fun key =>
        decide (Answered values key) := by
  rw [collectedVars, funext (isFilled_eq h)]

/-- An answered variable of the provider is among those collected. -/
theorem mem_collectedVars (h : (values.map (·.1)).Nodup) {key : String}
    (hdeclared : key ∈ provider.allVars) (hanswered : Answered values key) :
    key ∈ (of selection values).collectedVars provider := by
  rw [collectedVars_eq h, List.mem_append, List.mem_filter]
  exact (List.mem_append.mp hdeclared).imp_right fun hoptional =>
    ⟨hoptional, decide_eq_true hanswered⟩

/-- The answers are collected exactly if both checks find nothing. -/
theorem collect_eq_ok_iff (h : (values.map (·.1)).Nodup) :
    (∃ secrets, (of selection values).collect provider = .ok secrets) ↔
      (∀ key, ¬ IsUndeclared provider values key) ∧
        ∀ key ∈ provider.requiredVars, Answered values key := by
  have hok : (∃ secrets, (of selection values).collect provider = .ok secrets) ↔
      ¬ ∃ cause, (of selection values).collect provider = .error cause := by
    cases (of selection values).collect provider <;> simp
  rw [hok, collect_error_iff, not_or, not_not, not_not, unexpected_eq_nil_iff, missing_eq_nil_iff h]

/-- **The order of the answers makes no difference** to what is collected, nor to what is told
    instead. -/
theorem collect_perm (h : (values.map (·.1)).Nodup) (hperm : values'.Perm values) :
    (of selection values').collect provider = (of selection values).collect provider := by
  have hvalue : (of selection values').value = (of selection values).value :=
    funext (value_perm h hperm)
  have halike : (of selection values').Alike (of selection values) :=
    ⟨rfl, hperm.map _, fun key => by rw [isFilled, isFilled, hvalue]⟩
  unfold collect
  rw [halike.unexpected, halike.missing, halike.collectedVars, hvalue]

/-! ## The collection

  The checks come one after the other, so of two reasons to refuse the first is told. -/

/-- What the answers of one map come to for a provider. -/
def collected (selection : Option String) (values : List (String × String)) (provider : Provider) :
    Except Fault (List Secret) :=
  ((of selection values).collect provider).mapError .answers

/-- The secrets are those that the answers make: the required variables and then the optional ones
    that are answered, in their order, each with its value as it was given. -/
structure Gathered (provider : Provider) (values : List (String × String)) (secrets : List Secret) :
    Prop where
  keys : secrets.map (·.key) =
    provider.requiredVars ++ provider.optionalVars.filter fun key => decide (Answered values key)
  verbatim : ∀ secret ∈ secrets, (secret.key, secret.value) ∈ values ∧
    Text.isBlankText secret.value = false
  kept : ∀ key value, (key, value) ∈ values → Text.isBlankText value = false →
    ⟨key, value⟩ ∈ secrets
  apart : provider.allVars.Nodup → (secrets.map (·.key)).Nodup

/-- The answers are refused with these words. -/
def RefusedWith (r : Except Fault (List Secret)) (words : String) : Prop :=
  ∃ fault, r = .error fault ∧ fault.report = ⟨.answers, words⟩

/-- What becomes of the answers: they are collected exactly if nothing is undeclared and everything
    required is answered; if not, undeclared keys are named before required variables without an
    answer. -/
structure Collects (provider : Provider) (selection : Option String)
    (values : List (String × String)) : Prop where
  returns_iff : (∃ secrets, collected selection values provider = .ok secrets) ↔
    (∀ key, ¬ IsUndeclared provider values key) ∧ ∀ key ∈ provider.requiredVars, Answered values key
  gathered : ∀ secrets, collected selection values provider = .ok secrets →
    Gathered provider values secrets
  undeclared : (∃ key, IsUndeclared provider values key) →
    ∃ names, Rising names ∧ (∀ key, key ∈ names ↔ IsUndeclared provider values key) ∧
      RefusedWith (collected selection values provider)
        ("Unexpected secrets for provider " ++ provider.slug ++ ": " ++ ", ".intercalate names)
  unanswered : (∀ key, ¬ IsUndeclared provider values key) →
    (∃ key ∈ provider.requiredVars, ¬ Answered values key) →
    RefusedWith (collected selection values provider)
      ("Missing required secrets for provider " ++ provider.slug ++ ": " ++
        ", ".intercalate (provider.requiredVars.filter fun key => !decide (Answered values key)))
  unordered : ∀ values', values'.Perm values →
    collected selection values' provider = collected selection values provider

/-- What was collected is what was answered: the keys in the provider's order, each with the value
    that was given, and nothing left out. -/
theorem gathered_of_collect (h : (values.map (·.1)).Nodup) {secrets : List Secret}
    (hcollect : (of selection values).collect provider = .ok secrets) :
    Gathered provider values secrets := by
  have hmade := eq_of_collect hcollect
  have hkeys : secrets.map (·.key) = (of selection values).collectedVars provider := by
    rw [hmade, map_key_mk]
  have hexpected := (collect_eq_ok_iff h).mp ⟨secrets, hcollect⟩ |>.1
  refine ⟨hkeys.trans (collectedVars_eq h), fun secret hsecret => ?_, fun key value hmem hblank =>
    ?_, fun hnodup => ?_⟩
  · obtain ⟨-, hlookup, hblank⟩ := answered_of_collect hcollect secret hsecret
    exact ⟨(lookup_eq_some_iff h).mp hlookup, hblank⟩
  -- an answer that counts is of a declared variable, or the collection would have been refused
  · have hdeclared : key ∈ provider.allVars :=
      not_not.mp fun hnot => hexpected key ⟨List.mem_map.mpr ⟨_, hmem, rfl⟩, hnot⟩
    have hcollected : key ∈ (of selection values).collectedVars provider :=
      mem_collectedVars h hdeclared ⟨_, hmem, rfl, hblank⟩
    rw [hmade]
    exact List.mem_map.mpr ⟨key, hcollected, by rw [value_eq h hmem]⟩
  · rw [hkeys]
    exact hnodup.sublist (collectedVars_sublist _ provider)

/-- **The secrets collected are exactly those that the answers make**, for any provider. -/
theorem collects_exactly (provider : Provider) (selection : Option String)
    (values : List (String × String))
    (h : (values.map (·.1)).Nodup) : Collects provider selection values where
  returns_iff := (exists_congr fun _ => mapError_eq_ok).trans (collect_eq_ok_iff h)
  gathered secrets hcollected := gathered_of_collect h (mapError_eq_ok.mp hcollected)
  -- the check for undeclared keys comes first, so nothing else has to be known
  undeclared := by
    rintro ⟨key, hundeclared⟩
    have hunexpected : (of selection values).unexpected provider ≠ [] :=
      List.ne_nil_of_mem (mem_unexpected.mpr hundeclared)
    have hrefused : collected selection values provider =
        .error (.answers (.unexpectedKeys provider.slug
          ((of selection values).unexpected provider))) := by
      rw [collected, collect, if_pos hunexpected]
      rfl
    exact ⟨_, unexpected_rising h, fun _ => mem_unexpected, _, hrefused, rfl⟩
  unanswered := by
    rintro hexpected ⟨key, hrequired, hunanswered⟩
    have hmissing : (of selection values).missing provider ≠ [] := fun hnone =>
      hunanswered ((missing_eq_nil_iff h).mp hnone key hrequired)
    have hrefused : collected selection values provider =
        .error (.answers (.missingVars provider.slug
          ((of selection values).missing provider))) := by
      rw [collected, collect, if_neg (not_not.mpr (unexpected_eq_nil_iff.mpr hexpected)),
        if_pos hmissing]
      rfl
    rw [missing_eq h] at hrefused
    exact ⟨_, hrefused, rfl⟩
  unordered _ hperm := congrArg (Except.mapError _) (collect_perm h hperm)

/-! ## Answers in disorder

  A provider whose lists overlap, and answers in another order than its variables: the variable
  that is required and optional is collected twice. -/

namespace Disorder

/-- A provider of which one variable is both required and optional. -/
def indexer : Provider := .manual "indexer" "Indexer" ["TOKEN", "INDEX"] ["SITE", "CODEC", "INDEX"]

/-- Answers in no order; one is blank, and one has blank ends. -/
def given : List (String × String) :=
  [("CODEC", " text\n"), ("INDEX", "7"), ("SITE", "\u3000"), ("TOKEN", "t")]

end Disorder

open Disorder in
/-- The answers are a map; they are collected in the order of the variables, the one with blank ends
    as it is, and the one that is wanted twice twice. -/
theorem collects_disordered : (given.map (·.1)).Nodup ∧
    collected none given indexer =
      .ok [⟨"TOKEN", "t"⟩, ⟨"INDEX", "7"⟩, ⟨"CODEC", " text\n"⟩, ⟨"INDEX", "7"⟩] ∧
    Collects indexer none given :=
  ⟨by decide, by decide +kernel, collects_exactly indexer none given (by decide)⟩

end Answers

end LogDrain
