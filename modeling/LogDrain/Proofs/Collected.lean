/-
  COLLECTED SECRETS: which keys a provider's secrets have, and which values.

  The secrets of a manual provider are collected from the answers: each is a variable that the
  provider declares, none comes twice, and each has the value answered, which is not blank
  (`answered_of_collect`). An automatic provider has one secret at most.  In the catalog, no
  provider declares a variable twice, and none uses the key of the token (`catalog_keys`).  So the
  provider's secrets never meet each other or the token when they are written (`keys_of_collect`,
  `keys_of_automatic`).

  Keys that a provider does not declare are named in order.  The order is that of
  `List.insertionSort` (`sortTexts_eq_insertionSort`), whose laws say which keys are named and that
  they rise.
-/
import LogDrain.Setup.Credential
import Mathlib.Data.List.Sort
import Mathlib.Data.String.Basic

namespace LogDrain

/-- Texts are sorted by insertion. -/
theorem sortTexts_eq_insertionSort (texts : List String) :
    sortTexts texts = texts.insertionSort (· ≤ ·) := by
  have hinsert : ∀ (s : String) (texts : List String),
      insertText s texts = texts.orderedInsert (· ≤ ·) s := by
    intro s texts
    induction texts with
    | nil => rfl
    | cons t texts ih => simp only [insertText, List.orderedInsert_cons, ih, ← not_lt, ite_not]
  induction texts with
  | nil => rfl
  | cons s texts ih =>
    rw [List.insertionSort_cons, ← ih, ← hinsert]
    rfl

/-- Secrets made from keys have these keys. -/
theorem map_key_mk (keys : List String) (value : String → String) :
    (keys.map fun key => (⟨key, value key⟩ : Secret)).map (·.key) = keys := by
  simp [Function.comp_def]

namespace Answers

variable {answers : Answers} {provider : Provider} {secrets : List Secret}

/-! ## What is collected

  A variable is collected with the value that was answered, and only if that is not blank. -/

/-- What is collected is what the answers have for the variables. -/
theorem eq_of_collect (h : answers.collect provider = .ok secrets) :
    secrets = (answers.collectedVars provider).map fun key => ⟨key, answers.value key⟩ := by
  unfold collect at h
  split at h
  · cases h
  · split at h
    · cases h
    · cases h
      rfl

/-- The variables collected are those declared, in their order, less optional ones. -/
theorem collectedVars_sublist (answers : Answers) (provider : Provider) :
    (answers.collectedVars provider).Sublist provider.allVars :=
  List.Sublist.append_left List.filter_sublist _

/-- Where the answers are collected, every variable collected is filled: the required ones because
    none is missing, the optional ones because only these are taken. -/
theorem isFilled_of_collect (h : answers.collect provider = .ok secrets) :
    ∀ key ∈ answers.collectedVars provider, answers.isFilled key = true := by
  have hmissing : answers.missing provider = [] := by
    unfold collect at h
    split at h
    · cases h
    · split at h
      · cases h
      · rename_i hnone
        exact Decidable.not_not.mp hnone
  have hrequired : ∀ key ∈ provider.requiredVars, answers.isFilled key = true := by
    intro key hkey
    have hfilled := List.filter_eq_nil_iff.mp hmissing key hkey
    simpa using hfilled
  intro key hkey
  rcases List.mem_append.mp hkey with hkey | hkey
  · exact hrequired key hkey
  · exact (List.mem_filter.mp hkey).2

/-- A variable that is filled was answered, and not with a blank text. -/
theorem lookup_of_isFilled {key : String} (h : answers.isFilled key = true) :
    answers.values.lookup key = some (answers.value key) ∧
      Text.isBlankText (answers.value key) = false := by
  have hblank : Text.isBlankText (answers.value key) = false := by
    simpa [isFilled] using h
  refine ⟨?_, hblank⟩
  unfold value at hblank ⊢
  cases hlookup : answers.values.lookup key with
  | none =>
    rw [hlookup] at hblank
    cases hblank
  | some value => rfl

/-- **Every secret collected** is a declared variable with the value answered, which is not
    blank. -/
theorem answered_of_collect (h : answers.collect provider = .ok secrets) :
    ∀ secret ∈ secrets, secret.key ∈ provider.allVars ∧
      answers.values.lookup secret.key = some secret.value ∧
      Text.isBlankText secret.value = false := by
  intro secret hsecret
  rw [eq_of_collect h] at hsecret
  obtain ⟨key, hkey, rfl⟩ := List.mem_map.mp hsecret
  exact ⟨(answers.collectedVars_sublist provider).subset hkey,
    lookup_of_isFilled (isFilled_of_collect h key hkey)⟩

end Answers

/-! ## The keys of the catalog

  Two facts about the catalog, by evaluation: keys stand once, and none is the token's.
  Everything about keys that meet is reduced to these. -/

/-- No provider on offer declares a variable twice or uses the key of the token. -/
theorem Provider.catalog_keys : ∀ p ∈ Provider.catalog,
    p.allVars.Nodup ∧ Setup.tokenKey ∉ p.allVars ∧ Setup.tokenKey ∉ p.tokenSecret.toList := by
  decide +kernel

/-- The keys are those of secrets that can be written after the token: none twice, and not the
    token's. -/
def KeysApart (secrets : List Secret) : Prop :=
  (secrets.map (·.key)).Nodup ∧ Setup.tokenKey ∉ secrets.map (·.key)

/-- What is collected for a provider on offer is apart. -/
theorem keys_of_collect {answers : Answers} {provider : Provider} {secrets : List Secret}
    (hoffer : provider ∈ Provider.catalog) (h : answers.collect provider = .ok secrets) :
    KeysApart secrets := by
  obtain ⟨hnodup, htoken, -⟩ := Provider.catalog_keys provider hoffer
  have hsub := answers.collectedVars_sublist provider
  rw [Answers.eq_of_collect h, KeysApart, map_key_mk]
  exact ⟨hnodup.sublist hsub, fun hmem => htoken (hsub.subset hmem)⟩

/-- The secret of an automatic provider on offer is apart. -/
theorem keys_of_automatic {provider : Provider} (hoffer : provider ∈ Provider.catalog)
    (token : String) : KeysApart (provider.tokenSecret.toList.map fun key => ⟨key, token⟩) := by
  obtain ⟨-, -, htoken⟩ := Provider.catalog_keys provider hoffer
  rw [KeysApart, map_key_mk]
  refine ⟨?_, htoken⟩
  cases provider.tokenSecret with
  | none => exact List.nodup_nil
  | some key => exact List.pairwise_singleton _ key

end LogDrain
