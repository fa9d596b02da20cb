/-
  CONFIGURATION: which settings an environment gives under any names, and when they can be used.

  Settings are of use if they show who asks and where to ask: the token is the first value of the
  two variables that is more than blank, trimmed, and neither base is empty or ends in a slash.
  Then every address begins with a base that is something (`IsUsable`).

  What is read comes close to that.  Two laws of texts say what is left of a value:

    1. `trim_eq_iff`           trimming takes off the blanks around a text with firm ends;
    2. `dropTrailing_eq_iff`   dropping takes off a run of one character, and leaves none at the
      end.

  But a value counts as soon as it is not empty, and only then is it trimmed or stripped.  So there
  are values of which nothing is left, and these are the only ones that spoil the settings
  (`Spoiled`). `configures` is the whole, and `reads_blank_token` an environment of this kind.
-/
import LogDrain.Proofs.Addresses
import LogDrain.Proofs.Gates
import LogDrain.Proofs.Trimming

namespace LogDrain

namespace Settings

open Text (HasFirmEnds isBlankText trim)

/-! ## Settings that can be used

  What it takes to ask anything at all is said of the settings: who asks, and a base that every
  address begins with.  `Lacks` and `Spoiled` are said of the environment alone, and the two
  meet in the next section. -/

/-- The values of the two variables for the token, the own one first, as far as they are set. -/
def tokenValues (names : SettingNames) (env : Environment) : List String :=
  [env names.token, env "FLY_ACCESS_TOKEN"].filterMap id

/-- The base that the call's address begins with. -/
def baseFor (settings : Settings) : Call → String
  | .query _ => settings.apiBase
  | .machines .. => settings.machinesBase

/-- The settings can be used: they show who asks, as far as the environment tells, and where to
    ask. -/
structure IsUsable (names : SettingNames) (env : Environment) (settings : Settings) : Prop where
  token : ((tokenValues names env).find? fun value => !isBlankText value).map trim =
    some settings.accessToken
  tokenFirm : settings.accessToken ≠ "" ∧ HasFirmEnds settings.accessToken.toList
  apiBase : settings.apiBase ≠ "" ∧ settings.apiBase.toList.getLast? ≠ some '/'
  machinesBase : settings.machinesBase ≠ "" ∧ settings.machinesBase.toList.getLast? ≠ some '/'
  addresses : ∀ call : Call, settings.baseFor call ≠ "" ∧
    ∃ rest, (call.request settings).url = settings.baseFor call ++ rest

/-- What the environment lacks under these names: a token, or else a time limit that is a number. -/
inductive Lacks (names : SettingNames) (env : Environment) : SettingsFault → Prop
  | noToken : (∀ value ∈ tokenValues names env, value = "") →
      Lacks names env (.missingToken names.token)
  | noNumber {token written} : token ∈ tokenValues names env → token ≠ "" →
      env names.timeout = some written → written ≠ "" → Decimal.Numeral.read? written = none →
      Lacks names env (.invalidTimeout names.timeout)

/-- A value counts of which nothing is left: the first token that is not empty is blank, or a base
    is nothing but slashes. -/
inductive Spoiled (names : SettingNames) (env : Environment) : Prop
  | blankToken {value} : (tokenValues names env).find? (· ≠ "") = some value →
      isBlankText value = true → Spoiled names env
  | slashes {name value} : name = names.apiBase ∨ name = names.machinesBase →
      env name = some value → value ≠ "" → (∀ c ∈ value.toList, c = '/') → Spoiled names env

/-- The base is the value without the slashes at its end. -/
structure IsBase (value base : String) : Prop where
  run : ∃ n, value.toList = base.toList ++ List.replicate n '/'
  bare : base.toList.getLast? ≠ some '/'

/-! ## What is read

  A value is filtered first, for being empty, and trimmed afterwards.  So the laws come in pairs:
  what is found, and what is left of it. -/

variable {names : SettingNames} {env : Environment} {settings : Settings}

theorem filled?_eq_some_iff {name value : String} :
    env.filled? name = some value ↔ env name = some value ∧ value ≠ "" := by
  simp [Environment.filled?, Option.filter_eq_some_iff]

theorem find_tokenValues (names : SettingNames) (env : Environment) :
    (tokenValues names env).find? (· ≠ "") =
      (env.filled? names.token).or (env.filled? "FLY_ACCESS_TOKEN") := by
  unfold tokenValues Environment.filled?
  cases env names.token with
  | none =>
    cases env "FLY_ACCESS_TOKEN" with
    | none => rfl
    | some legacy => by_cases h : legacy = "" <;> simp [Option.filter, h]
  | some own =>
    cases env "FLY_ACCESS_TOKEN" with
    | none => by_cases h : own = "" <;> simp [Option.filter, h]
    | some legacy =>
      by_cases h : own = "" <;> by_cases h' : legacy = "" <;> simp [Option.filter, h, h']

/-- **Settings are refused exactly if the environment lacks something.** -/
theorem read_error_iff_lacks {fault : SettingsFault} :
    Settings.read names env = .error fault ↔ Lacks names env fault := by
  rw [read_error_cases, ← find_tokenValues, List.find?_eq_none]
  constructor
  · rintro (⟨hnone, rfl⟩ | ⟨⟨token, hsome⟩, htimeout⟩)
    · exact .noToken fun value hvalue => by simpa using hnone value hvalue
    · obtain ⟨rfl, written, hwritten, hread⟩ := readTimeout_error_iff.mp htimeout
      obtain ⟨hset, hfilled⟩ := filled?_eq_some_iff.mp hwritten
      exact .noNumber (List.mem_of_find?_eq_some hsome) (by simpa using List.find?_some hsome) hset
        hfilled hread
  · intro h
    cases h with
    | noToken hempty => exact Or.inl ⟨fun value hvalue => by simpa using hempty value hvalue, rfl⟩
    | noNumber hmem htoken hset hfilled hread =>
      have hsome : ((tokenValues names env).find? (· ≠ "")).isSome = true :=
        List.find?_isSome.mpr ⟨_, hmem, decide_eq_true htoken⟩
      exact Or.inr ⟨Option.isSome_iff_exists.mp hsome,
        readTimeout_error_iff.mpr ⟨rfl, _, filled?_eq_some_iff.mpr ⟨hset, hfilled⟩, hread⟩⟩

/-- What settings are read from. -/
theorem exists_token_of_read (h : Settings.read names env = .ok settings) :
    ∃ value, (tokenValues names env).find? (· ≠ "") = some value ∧
      settings.accessToken = trim value ∧
      settings.apiBase = readBase env names.apiBase defaultApiBase ∧
      settings.machinesBase = readBase env names.machinesBase defaultMachinesBase := by
  unfold Settings.read at h
  split at h
  · cases h
  · rename_i value hvalue
    cases htimeout : readTimeout env names.timeout with
    | error cause =>
      rw [htimeout] at h
      cases h
    | ok seconds =>
      rw [htimeout] at h
      cases h
      exact ⟨value, (find_tokenValues names env).trans hvalue, rfl, rfl, rfl⟩

theorem isBase_readBase (env : Environment) (name fallback : String) :
    IsBase ((env.filled? name).getD fallback) (readBase env name fallback) := by
  obtain ⟨hrun, hbare⟩ := Text.dropTrailing_eq_iff.mp (rfl : readBase env name fallback = _)
  exact ⟨hrun, hbare⟩

/-- Nothing is left of slashes alone. -/
theorem IsBase.eq_empty_iff {value base : String} (h : IsBase value base) :
    base = "" ↔ ∀ c ∈ value.toList, c = '/' := by
  obtain ⟨n, hrun⟩ := h.run
  rw [hrun]
  constructor
  · rintro rfl c hc
    exact List.eq_of_mem_replicate hc
  · intro hall
    refine Classical.byContradiction fun hne => h.bare ?_
    -- the last character of what is left would be a slash
    have hlast := List.getLast?_eq_some_getLast (mt String.toList_eq_nil_iff.mp hne)
    rw [hlast, hall _ (List.mem_append_left _ (List.getLast_mem _))]

/-- A base that is set to something else than slashes, or not set at all, is not empty. -/
theorem readBase_ne_empty {name fallback : String} (hfallback : ∃ c ∈ fallback.toList, c ≠ '/')
    (h : ∀ value, env name = some value → value ≠ "" → ¬ ∀ c ∈ value.toList, c = '/') :
    readBase env name fallback ≠ "" := by
  intro hempty
  have hall := (isBase_readBase env name fallback).eq_empty_iff.mp hempty
  cases hfilled : env.filled? name with
  | none =>
    obtain ⟨c, hc, hne⟩ := hfallback
    rw [hfilled] at hall
    exact hne (hall c hc)
  | some value =>
    obtain ⟨hset, hne⟩ := filled?_eq_some_iff.mp hfilled
    rw [hfilled] at hall
    exact h value hset hne hall

/-- The first token that is not empty is the first that is not blank, if it is not blank itself. -/
theorem find_not_blank {values : List String} {value : String}
    (h : values.find? (· ≠ "") = some value) (hvalue : isBlankText value = false) :
    (values.find? fun value => !isBlankText value) = some value := by
  obtain ⟨-, before, after, rfl, hbefore⟩ := List.find?_eq_some_iff_append.mp h
  refine List.find?_eq_some_iff_append.mpr ⟨by simp [hvalue], before, after, rfl, fun v hv => ?_⟩
  obtain rfl : v = "" := by simpa using hbefore v hv
  rfl

/-- An address begins with its base. -/
theorem exists_url_eq (settings : Settings) (call : Call) :
    ∃ rest, (call.request settings).url = settings.baseFor call ++ rest := by
  cases call with
  | query q => exact ⟨"/graphql", rfl⟩
  | machines app call =>
    exact ⟨_, (settings.machinesUrl_eq app call).trans (String.append_assoc ..)⟩

/-- **Settings that are read can be used** exactly if no value spoils them. -/
theorem isUsable_iff (h : Settings.read names env = .ok settings) :
    IsUsable names env settings ↔ ¬ Spoiled names env := by
  obtain ⟨value, hvalue, htoken, hapi, hmachines⟩ := exists_token_of_read h
  constructor
  · intro husable hspoiled
    -- a value that spoils the settings leaves an empty token, or an empty base
    cases hspoiled with
    | blankToken hfirst hblank =>
      cases hvalue.symm.trans hfirst
      exact husable.tokenFirm.1 (htoken.trans (Text.trim_eq_empty_iff.mpr hblank))
    | @slashes name value hname hset hfilled hall =>
      have hgiven : env.filled? name = some value := filled?_eq_some_iff.mpr ⟨hset, hfilled⟩
      have hnothing : ∀ fallback, readBase env name fallback = "" := fun fallback => by
        rw [(isBase_readBase env name fallback).eq_empty_iff, hgiven]
        exact hall
      rcases hname with rfl | rfl
      · exact husable.apiBase.1 (hapi.trans (hnothing _))
      · exact husable.machinesBase.1 (hmachines.trans (hnothing _))
  · intro hsound
    -- with nothing spoiled each part is something, and trimming and stripping give it firm ends
    have hblank : isBlankText value = false :=
      Bool.eq_false_iff.mpr fun hblank => hsound (.blankToken hvalue hblank)
    have hapiBase : settings.apiBase ≠ "" := by
      rw [hapi]
      exact readBase_ne_empty ⟨'h', by decide, by decide⟩ fun _ hset hne hall =>
        hsound (.slashes (Or.inl rfl) hset hne hall)
    have hmachinesBase : settings.machinesBase ≠ "" := by
      rw [hmachines]
      exact readBase_ne_empty ⟨'h', by decide, by decide⟩ fun _ hset hne hall =>
        hsound (.slashes (Or.inr rfl) hset hne hall)
    refine ⟨?_, ⟨?_, ?_⟩, ⟨hapiBase, ?_⟩, ⟨hmachinesBase, ?_⟩, fun call =>
      ⟨?_, exists_url_eq _ call⟩⟩
    · rw [find_not_blank hvalue hblank, htoken]
      rfl
    · rw [htoken, Ne, Text.trim_eq_empty_iff, hblank]
      exact Bool.false_ne_true
    · rw [htoken]
      exact (Text.trim_eq_iff.mp rfl).1
    · rw [hapi]
      exact (isBase_readBase _ _ _).bare
    · rw [hmachines]
      exact (isBase_readBase _ _ _).bare
    · cases call with
      | query => exact hapiBase
      | machines => exact hmachinesBase

/-! ## The whole -/

/-- What an environment gives under these names.  It is refused exactly if it lacks something.
    Otherwise the first token that is not empty is trimmed, and the bases lose their slashes; and
    what comes of that can be used exactly if no value spoils it. -/
structure Configures (names : SettingNames) (env : Environment)
    (r : Except SettingsFault Settings) : Prop where
  refuses_iff : ∀ fault, r = .error fault ↔ Lacks names env fault
  token : ∀ settings, r = .ok settings → HasFirmEnds settings.accessToken.toList ∧
    ∃ value, (tokenValues names env).find? (· ≠ "") = some value ∧ settings.accessToken = trim value
  blank : ∀ settings, r = .ok settings →
    (∀ value ∈ tokenValues names env, isBlankText value = true) → settings.accessToken = ""
  apiBase : ∀ settings, r = .ok settings →
    IsBase ((env.filled? names.apiBase).getD defaultApiBase) settings.apiBase
  machinesBase : ∀ settings, r = .ok settings →
    IsBase ((env.filled? names.machinesBase).getD defaultMachinesBase) settings.machinesBase
  usable_iff : ∀ settings, r = .ok settings → (IsUsable names env settings ↔ ¬ Spoiled names env)

/-- **Which settings an environment gives**, under whatever names. -/
theorem configures (names : SettingNames) (env : Environment) :
    Configures names env (Settings.read names env) where
  -- each part is read off how the token and the two bases were read
  refuses_iff _ := read_error_iff_lacks
  token settings h := by
    obtain ⟨value, hvalue, htoken, -⟩ := exists_token_of_read h
    rw [htoken]
    exact ⟨(Text.trim_eq_iff.mp rfl).1, value, hvalue, rfl⟩
  blank settings h hblank := by
    obtain ⟨value, hvalue, htoken, -⟩ := exists_token_of_read h
    rw [htoken, Text.trim_eq_empty_iff]
    exact hblank value (List.mem_of_find?_eq_some hvalue)
  apiBase settings h := by
    obtain ⟨-, -, -, hapi, -⟩ := exists_token_of_read h
    rw [hapi]
    exact isBase_readBase _ _ _
  machinesBase settings h := by
    obtain ⟨-, -, -, -, hmachines⟩ := exists_token_of_read h
    rw [hmachines]
    exact isBase_readBase _ _ _
  usable_iff _ := isUsable_iff

/-- **A blank token hides a token**: it is neither refused nor passed over, and nothing is left of
    it. -/
theorem reads_blank_token :
    let env := Environment.ofPairs [("FLY_API_TOKEN", " "), ("FLY_ACCESS_TOKEN", "tok")]
    ∃ settings, Settings.read .usual env = .ok settings ∧ settings.accessToken = "" ∧
      ¬ IsUsable .usual env settings :=
  ⟨_, rfl, rfl, fun husable => husable.tokenFirm.1 rfl⟩

end Settings

end LogDrain
