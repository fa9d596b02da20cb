/-
  SCALARS THERE AND BACK: what the readers make of a string or a number that was written.

    * A string: each character is written as one or two units, read as the same units, and the units
      of the whole string give its characters (`readString_writeString`).
    * An integer: a run of digits that does not start with a nought unless it is one
      (`readScalar_intDigits`).
    * A number of the 64 bit format: its text has a point, or an exponent, or is a word; so it is
      read as a number of that format (`readScalar_writeReal`), whose name is `Binary64.reread`.
      That it is the same number is not shown, but zero is read as zero.

  What follows a scalar has to begin with a comma or a closing bracket, or to be nothing (`Ends`),
  as it does inside a written text.
-/
import LogDrain.Json.Reader
import LogDrain.Json.Writer
import LogDrain.Proofs.Characters

namespace LogDrain.Json

open Text (Hex.value? Utf16.ofChar Utf16.chars)
open Decimal (Binary64 digitsValue)

/-! ## Strings

  The reader collects units and makes characters of them at the end.  So the law for one character
  is about its units, and holds whatever stands behind; for a string it is an induction along the
  characters. -/

/-- Units in front of what the rest of the string gives. -/
def consUnits (units : List Nat) (rest : Reading (List Nat)) : Reading (List Nat) :=
  units.foldr consUnit rest

/-- A digit that is written is read as the number that it was written for. -/
theorem value?_lowerDigit_mod (n : Nat) :
    Text.Hex.value? (Text.Hex.lowerDigit (n % 16)) = some (n % 16) :=
  Text.Hex.value?_lowerDigit ⟨n % 16, Nat.mod_lt _ (by decide)⟩

/-- A digit that more digits follow. -/
theorem readUnits_digit {start left cs : List Char} {count value d : Nat} {c : Char}
    (hc : Text.Hex.value? c = some d) :
    readUnits start (.digits left (count + 2) value) (c :: cs) =
      readUnits start (.digits left (count + 1) (value * 16 + d)) cs := by
  rw [readUnits, hc]
  simp

/-- The last digit of a unit. -/
theorem readUnits_lastDigit {start left cs : List Char} {value d : Nat} {c : Char}
    (hc : Text.Hex.value? c = some d) (hcs : cs ≠ []) :
    readUnits start (.digits left 1 value) (c :: cs) =
      consUnit (value * 16 + d) (readUnits start .plain cs) := by
  rw [readUnits, hc]
  simp [hcs]

/-- **A unit is read from its escape.** -/
theorem readUnits_unitEscape {start cs : List Char} {n : Nat} (hn : n < 0x10000) (hcs : cs ≠ []) :
    readUnits start .plain (unitEscape n ++ cs) = consUnit n (readUnits start .plain cs) := by
  have hdigits : Text.Hex.lowerDigits 4 n =
      [Text.Hex.lowerDigit (n / 16 / 16 / 16 % 16), Text.Hex.lowerDigit (n / 16 / 16 % 16),
       Text.Hex.lowerDigit (n / 16 % 16), Text.Hex.lowerDigit (n % 16)] := rfl
  have hnumber :
      (((0 * 16 + n / 16 / 16 / 16 % 16) * 16 + n / 16 / 16 % 16) * 16 + n / 16 % 16) * 16 +
        n % 16 = n := by omega
  rw [unitEscape, hdigits]
  simp only [List.cons_append, List.nil_append]
  -- the reader goes over the backslash and the letter, and then takes four digits
  rw [readUnits, if_neg (by decide), if_pos rfl, readUnits, if_pos rfl]
  rw [readUnits_digit (value?_lowerDigit_mod _), readUnits_digit (value?_lowerDigit_mod _),
    readUnits_digit (value?_lowerDigit_mod _), readUnits_lastDigit (value?_lowerDigit_mod _) hcs,
      hnumber]

/-- A short escape. -/
theorem readUnits_short {start cs : List Char} {c e : Char} (hu : c ≠ 'u')
    (hc : shortEscape? c = some e) :
    readUnits start .plain ('\\' :: c :: cs) = consUnit e.toNat (readUnits start .plain cs) := by
  rw [readUnits, if_neg (by decide), if_pos rfl, readUnits, if_neg hu, hc]

/-- **A character is read as its units.** -/
theorem readUnits_writeChar (start : List Char) (c : Char) {cs : List Char} (hcs : cs ≠ []) :
    readUnits start .plain (writeChar c ++ cs) =
      consUnits (Utf16.ofChar c) (readUnits start .plain cs) := by
  unfold writeChar
  -- the seven short escapes first, one by one; then what stands for itself, and what is escaped
  split
  · subst c
    exact readUnits_short (by decide) rfl
  split
  · subst c
    exact readUnits_short (by decide) rfl
  split
  · subst c
    exact readUnits_short (by decide) rfl
  split
  · subst c
    exact readUnits_short (by decide) rfl
  split
  · subst c
    exact readUnits_short (by decide) rfl
  split
  · subst c
    exact readUnits_short (by decide) rfl
  split
  · subst c
    exact readUnits_short (by decide) rfl
  split
  · rename_i hquote hslash _ _ _ _ _ hprintable
    have hunits : Utf16.ofChar c = [c.toNat] := by
      unfold Utf16.ofChar
      rw [if_pos (by omega)]
    rw [hunits, List.cons_append, List.nil_append, readUnits, if_neg hquote, if_neg hslash,
      if_neg (by omega)]
    rfl
  · -- what is escaped is so unit by unit, hence a law for any row of units
    have hall : ∀ units : List Nat, (∀ n ∈ units, n < 0x10000) →
        readUnits start .plain (units.flatMap unitEscape ++ cs) =
          consUnits units (readUnits start .plain cs) := by
      intro units hunits
      induction units with
      | nil => rfl
      | cons n units ih =>
        have hrest : units.flatMap unitEscape ++ cs ≠ [] := by simp [hcs]
        rw [List.flatMap_cons, List.append_assoc,
          readUnits_unitEscape (hunits n List.mem_cons_self) hrest,
          ih fun m hm => hunits m (List.mem_cons_of_mem _ hm)]
        rfl
    exact hall _ fun n hn => Text.Utf16.lt_of_mem_ofChar hn

/-- Units are put in front of what is read after them, if it is read. -/
theorem consUnits_ok (units more : List Nat) (rest : List Char) :
    consUnits units (.ok (more, rest)) = .ok (units ++ more, rest) := by
  induction units with
  | nil => rfl
  | cons n units ih =>
    show consUnit n (consUnits units (.ok (more, rest))) = _
    rw [ih]
    rfl

/-- The units of a written string, up to its closing quote. -/
theorem readUnits_flatMap (start rest : List Char) (cs : List Char) :
    readUnits start .plain (cs.flatMap writeChar ++ '"' :: rest) =
      .ok (cs.flatMap Utf16.ofChar, rest) := by
  induction cs with
  | nil => rfl
  | cons c cs ih =>
    have hrest : cs.flatMap writeChar ++ '"' :: rest ≠ [] := by simp
    rw [List.flatMap_cons, List.append_assoc, readUnits_writeChar start c hrest, ih, consUnits_ok,
      List.flatMap_cons]

/-- **A string is read from its text.** -/
theorem readString_writeString (start : List Char) (s : String) (rest : List Char) :
    readString start (s.toList.flatMap writeChar ++ '"' :: rest) = .ok (s, rest) := by
  unfold readString
  rw [readUnits_flatMap]
  show Except.ok (String.ofList (Utf16.chars (s.toList.flatMap Utf16.ofChar)), rest) = _
  rw [Text.Utf16.chars_flatMap_ofChar, String.ofList_toList]

/-! ## Digits

  A number has no end of its own, so its reader takes digits up to the first character that is
  none.  What may follow a scalar in a written text is therefore fixed first: nothing, a comma, or
  one of the two brackets. -/

/-- What may follow a value in a written text. -/
def Ends (rest : List Char) : Prop :=
  rest = [] ∨ ∃ c cs, rest = c :: cs ∧ (c = ',' ∨ c = ']' ∨ c = '\x7d')

theorem Ends.nil : Ends [] := Or.inl rfl

theorem Ends.comma (cs : List Char) : Ends (',' :: cs) := Or.inr ⟨_, cs, rfl, Or.inl rfl⟩

theorem Ends.bracket (cs : List Char) : Ends (']' :: cs) := Or.inr ⟨_, cs, rfl, Or.inr (Or.inl rfl)⟩

theorem Ends.brace (cs : List Char) : Ends ('\x7d' :: cs) :=
    Or.inr ⟨_, cs, rfl, Or.inr (Or.inr rfl)⟩

/-- No digit comes next. -/
def NoDigit (rest : List Char) : Prop := ∀ c cs, rest = c :: cs → c.isDigit = false

/-- What may follow a scalar is no digit, so a run of digits is over there. -/
theorem Ends.noDigit {rest : List Char} (h : Ends rest) : NoDigit rest := by
  rintro c cs rfl
  obtain hnil | ⟨_, _, heq, rfl | rfl | rfl⟩ := h
  · cases hnil
  all_goals
    cases heq
    rfl

theorem noDigit_cons {c : Char} (hc : c.isDigit = false) (cs : List Char) : NoDigit (c :: cs) := by
  intro d ds heq
  cases heq
  exact hc

/-- At least one character, and digits only. -/
def IsRun (digits : List Char) : Prop := digits ≠ [] ∧ ∀ c ∈ digits, c.isDigit = true

/-- The digits of a number are a run: there is one at least. -/
theorem isRun_toDigits (n : Nat) : IsRun (Nat.toDigits 10 n) :=
  ⟨Nat.toDigits_ne_nil, fun _ hc => Nat.isDigit_of_mem_toDigits (by decide) (by decide) hc⟩

/-- The one nought that is written for an empty part is a run as well. -/
theorem isRun_nought : IsRun ['0'] := ⟨nofun, List.forall_mem_singleton.mpr rfl⟩

/-- Digits are taken up to what is none, and nothing else is. -/
theorem takeWhile_isDigit_append {digits rest : List Char}
    (hdigits : ∀ c ∈ digits, c.isDigit = true) (hrest : NoDigit rest) :
    (digits ++ rest).takeWhile Char.isDigit = digits ∧
      (digits ++ rest).dropWhile Char.isDigit = rest := by
  rw [List.takeWhile_append_of_pos hdigits, List.dropWhile_append_of_pos hdigits]
  cases rest with
  | nil => exact ⟨List.append_nil _, rfl⟩
  | cons c cs =>
    have hc : ¬ c.isDigit = true := by
      rw [hrest c cs rfl]
      decide
    rw [List.takeWhile_cons_of_neg hc, List.dropWhile_cons_of_neg hc]
    exact ⟨List.append_nil _, rfl⟩

/-- What can stand before the point: a nought alone, or a run of digits that does not start with
    one. -/
def IsWhole (digits : List Char) : Prop :=
  digits = ['0'] ∨ ∃ c cs, digits = c :: cs ∧ c ≠ '0' ∧ ∀ d ∈ c :: cs, d.isDigit = true

/-- A whole part is a run of digits; what it adds is that no nought stands in front. -/
theorem IsWhole.isRun {digits : List Char} (h : IsWhole digits) : IsRun digits := by
  obtain rfl | ⟨c, cs, rfl, -, hdigits⟩ := h
  · exact isRun_nought
  · exact ⟨nofun, hdigits⟩

/-- **The digits before the point are read**, and what follows them is left. -/
theorem readWhole?_append {whole rest : List Char} (h : IsWhole whole) (hrest : NoDigit rest) :
    readWhole? (whole ++ rest) = some (whole, rest) := by
  obtain rfl | ⟨c, cs, rfl, hc, hdigits⟩ := h
  · rfl
  · have htail := takeWhile_isDigit_append (fun d hd => hdigits d (List.mem_cons_of_mem _ hd)) hrest
    rw [List.cons_append, readWhole?, if_neg hc, if_pos (hdigits c List.mem_cons_self), htail.1,
      htail.2]

/-- Where a number ends there are neither decimals nor an exponent. -/
theorem readDecimals_of_ends {rest : List Char} (h : Ends rest) :
    readDecimals rest = ([], rest) := by
  obtain rfl | ⟨c, cs, rfl, rfl | rfl | rfl⟩ := h <;> rfl

theorem readExponent?_of_ends {rest : List Char} (h : Ends rest) : readExponent? rest = none := by
  obtain rfl | ⟨c, cs, rfl, rfl | rfl | rfl⟩ := h <;> rfl

/-- No word starts with a digit, nor with a minus and a digit. -/
theorem readWord?_of_isDigit {c : Char} (hc : c.isDigit = true) (cs : List Char) :
    readWord? (c :: cs) = none ∧ readWord? ('-' :: c :: cs) = none := by
  have hne : ∀ w : Char, w.isDigit = false → w ≠ c := by
    rintro w hw rfl
    rw [hw] at hc
    cases hc
  constructor
  · simp [readWord?, words, afterWord?, hne]
  · simp [readWord?, words, afterWord?, hne]

/-- **What starts with a digit is read as a number**, also after a minus. -/
theorem readScalar_of_isDigit {c : Char} (hc : c.isDigit = true) (cs : List Char) :
    readScalar (c :: cs) = readNumber (c :: cs) false (c :: cs) ∧
      readScalar ('-' :: c :: cs) = readNumber ('-' :: c :: cs) true (c :: cs) := by
  obtain ⟨hword, hnegative⟩ := readWord?_of_isDigit hc cs
  unfold readScalar
  rw [hword, hnegative]
  refine ⟨?_, rfl⟩
  simp only []
  split
  · rename_i hhead
    cases hhead
    exact absurd hc (by decide)
  · rfl

/-! ## Integers

  Digits are made from the last one on, and read from the front.  So the induction goes from a
  number to its tenth, and the last digit is folded in last.  That there are not too many of them is
  a condition, for the reader refuses an integer that is too long. -/

/-- **The digits of a number give the number.** -/
theorem digitsValue_toDigits (n : Nat) : digitsValue (Nat.toDigits 10 n) = n := by
  -- digits are made from the last one on, so the induction goes from a number to its tenth
  induction n using Nat.strongRecOn with
  | ind n ih =>
    rw [Nat.toDigits_eq_if (by decide)]
    split
    · rename_i hn
      exact (Nat.zero_add _).trans (Nat.toNat_digitChar_sub_48_of_lt_ten hn)
    · rename_i hn
      have hprefix := ih (n / 10) (by omega)
      have hdigit := Nat.toNat_digitChar_sub_48_of_lt_ten (Nat.mod_lt n (by decide : 0 < 10))
      unfold digitsValue at hprefix ⊢
      rw [List.foldl_append, hprefix]
      show n / 10 * 10 + ((n % 10).digitChar.toNat - 48) = n
      omega

/-- The digits of a positive number do not start with a nought. -/
theorem head_toDigits {n : Nat} (hn : 0 < n) : ∃ c cs, Nat.toDigits 10 n = c :: cs ∧ c ≠ '0' := by
  induction n using Nat.strongRecOn with
  | ind n ih =>
    rw [Nat.toDigits_eq_if (by decide)]
    split
    · refine ⟨_, [], rfl, fun hc => ?_⟩
      rw [Nat.digitChar_eq_zero] at hc
      omega
    · obtain ⟨c, cs, hcs, hc⟩ := ih (n / 10) (by omega) (by omega)
      exact ⟨c, cs ++ [(n % 10).digitChar], by rw [hcs]; rfl, hc⟩

/-- A number is written without a nought in front, unless it is nought. -/
theorem isWhole_toDigits (n : Nat) : IsWhole (Nat.toDigits 10 n) := by
  rcases Nat.eq_zero_or_pos n with rfl | hn
  · exact Or.inl rfl
  · obtain ⟨c, cs, hcs, hc⟩ := head_toDigits hn
    exact Or.inr ⟨c, cs, hcs, hc, hcs ▸ (isRun_toDigits n).2⟩

/-- The digits of a number are read as that number, if they are not too many to be read as an
    integer at all. -/
theorem readNumber_toDigits (start : List Char) (negative : Bool) {n : Nat} {rest : List Char}
    (hn : (Nat.toDigits 10 n).length ≤ maxIntegerDigits) (hrest : Ends rest) :
    readNumber start negative (Nat.toDigits 10 n ++ rest) =
      .ok (.int (if negative then -n else n), rest) := by
  unfold readNumber
  rw [readWhole?_append (isWhole_toDigits n) hrest.noDigit]
  simp only [readDecimals_of_ends hrest, readExponent?_of_ends hrest, digitsValue_toDigits]
  rw [if_neg (by omega)]

/-- **An integer is read from its text.** -/
theorem readScalar_intDigits {n : Int} {rest : List Char}
    (hn : (Nat.toDigits 10 n.natAbs).length ≤ maxIntegerDigits) (hrest : Ends rest) :
    readScalar (Decimal.intDigits n ++ rest) = .ok (.int n, rest) := by
  obtain ⟨hne, hdigits⟩ := isRun_toDigits n.natAbs
  obtain ⟨c, cs, hcs⟩ := List.exists_cons_of_ne_nil hne
  rw [hcs] at hdigits
  obtain ⟨hread, hnegative⟩ := readScalar_of_isDigit (hdigits c List.mem_cons_self) (cs ++ rest)
  unfold Decimal.intDigits
  by_cases hsign : n < 0
  · rw [if_pos hsign, hcs, List.cons_append, List.cons_append, hnegative, ← List.cons_append, ← hcs,
      readNumber_toDigits _ _ hn hrest]
    rw [if_pos rfl, show -((n.natAbs : Nat) : Int) = n by omega]
  · rw [if_neg hsign, hcs, List.cons_append, hread, ← List.cons_append, ← hcs,
      readNumber_toDigits _ _ hn hrest]
    rw [if_neg (by decide), show ((n.natAbs : Nat) : Int) = n by omega]

/-! ## Numbers with a point or an exponent

  The text of a numeral need not be the text of the same number: what is needed is that it is read
  as some number of the 64 bit format.  So the value is left existential, and only its not
  depending on what follows is shown. -/

/-- A text that is read as a number of the 64 bit format, in front of anything that may follow a
    value. -/
def IsNumeral (cs : List Char) : Prop :=
  (∃ c ds, cs = c :: ds ∧ c.isDigit = true) ∧
    ∃ value : Bool → Binary64, ∀ start negative rest, Ends rest →
      readNumber start negative (cs ++ rest) = .ok (.real (value negative), rest)

/-- Decimals are read after a point. -/
theorem readDecimals_point {decimals rest : List Char} (h : IsRun decimals) (hrest : NoDigit rest) :
    readDecimals ('.' :: (decimals ++ rest)) = (decimals, rest) := by
  obtain ⟨hne, hdigits⟩ := h
  obtain ⟨c, cs, rfl⟩ := List.exists_cons_of_ne_nil hne
  have htail := takeWhile_isDigit_append (fun d hd => hdigits d (List.mem_cons_of_mem _ hd)) hrest
  rw [List.cons_append, readDecimals, if_pos (hdigits c List.mem_cons_self), htail.1, htail.2]

/-- An exponent is read after its letter and its sign. -/
theorem readExponent?_signed {digits rest : List Char} (negative : Bool) (h : IsRun digits)
    (hrest : NoDigit rest) :
    readExponent? ('e' :: (if negative then '-' else '+') :: (digits ++ rest)) =
      some (if negative then -(digitsValue digits : Int) else digitsValue digits, rest) := by
  have htail := takeWhile_isDigit_append h.2 hrest
  have hsign : Decimal.Numeral.sign ((if negative then '-' else '+') :: (digits ++ rest)) =
      (negative, digits ++ rest) := by
    cases negative <;> rfl
  rw [readExponent?, if_pos (Or.inl rfl), hsign]
  simp only [htail.1, htail.2]
  rw [if_neg h.1]

/-- A number with a point. -/
theorem isNumeral_point {whole decimals : List Char} (hwhole : IsWhole whole) (h : IsRun decimals) :
    IsNumeral (whole ++ '.' :: decimals) := by
  obtain ⟨hne, hdigits⟩ := hwhole.isRun
  obtain ⟨c, cs, hcs⟩ := List.exists_cons_of_ne_nil hne
  refine ⟨⟨c, cs ++ '.' :: decimals, by rw [hcs]; rfl, hdigits c (hcs ▸ List.mem_cons_self)⟩,
    fun negative => .ofDecimal negative (digitsValue (whole ++ decimals)) (-decimals.length), ?_⟩
  intro start negative rest hrest
  have hread := readDecimals_point h hrest.noDigit
  obtain ⟨d, ds, rfl⟩ := List.exists_cons_of_ne_nil h.1
  unfold readNumber
  rw [List.append_assoc, List.cons_append, readWhole?_append hwhole (noDigit_cons rfl _)]
  simp only [hread, readExponent?_of_ends hrest]

/-- A number with an exponent, with or without decimals. -/
theorem isNumeral_exponent {whole decimals digits : List Char} (hwhole : IsWhole whole)
    (hdecimals : ∀ c ∈ decimals, c.isDigit = true) (below : Bool) (h : IsRun digits) :
    IsNumeral (whole ++ ((if decimals = [] then [] else '.' :: decimals) ++
      'e' :: (if below then '-' else '+') :: digits)) := by
  obtain ⟨hne, hdigit⟩ := hwhole.isRun
  obtain ⟨c, cs, hcs⟩ := List.exists_cons_of_ne_nil hne
  refine ⟨⟨c, _, by rw [hcs]; rfl, hdigit c (hcs ▸ List.mem_cons_self)⟩,
    fun negative => .ofDecimal negative (digitsValue (whole ++ decimals))
      ((if below then -(digitsValue digits : Int) else digitsValue digits) - decimals.length), ?_⟩
  intro start negative rest hrest
  have hexponent := readExponent?_signed below h hrest.noDigit
  have hletter : ∀ more, NoDigit ('e' :: more) := noDigit_cons rfl
  unfold readNumber
  -- with one digit there is no point between it and the exponent
  cases decimals with
  | nil =>
    have hplain : ∀ more, readDecimals ('e' :: more) = ([], 'e' :: more) := fun more => rfl
    rw [if_pos rfl, List.nil_append, List.append_assoc, List.cons_append,
      readWhole?_append hwhole (hletter _)]
    simp only [List.cons_append, hplain, hexponent]
  | cons d ds =>
    rw [if_neg nofun, List.append_assoc, List.cons_append, List.cons_append,
      readWhole?_append hwhole (noDigit_cons rfl _)]
    simp only [List.append_assoc, List.cons_append]
    have hrun : IsRun (d :: ds) := ⟨nofun, hdecimals⟩
    have hread := readDecimals_point hrun
      (hletter ((if below then '-' else '+') :: (digits ++ rest)))
    rw [List.cons_append] at hread
    simp only [hread, hexponent]

/-! ## The shortest text of a number

  The digits come out of a search, of which only little is needed: that there is a digit, and that
  the first one is no nought. -/

section Shortest

open Decimal

/-- A point of a grid that reads back is not nought. -/
theorem onGrid?_pos {r : Reach} {step : Int} {k : Nat} (h : r.onGrid? step = some k) : 0 < k := by
  unfold Reach.onGrid? at h
  simp only [] at h
  generalize r.value * Nat.pow 10 (-step).toNat / (r.denominator * Nat.pow 10 step.toNat) = low at h
  split at h
  · rename_i hlow _
    simp only [Bool.and_eq_true, bne_iff_ne, ne_eq] at hlow
    split at h
    · cases h
      omega
    split at h <;> cases h <;> omega
  · rename_i hlow _
    simp only [Bool.and_eq_true, bne_iff_ne, ne_eq] at hlow
    cases h
    omega
  · cases h
    omega
  · cases h

/-- The digits that are found are those of a positive number, unless none are. -/
theorem firstGrid_pos (r : Reach) (place : Int) (counts : List Nat) :
    r.firstGrid place counts = (0, 0) ∨ 0 < (r.firstGrid place counts).1 := by
  induction counts with
  | nil => exact Or.inl rfl
  | cons count counts ih =>
    rw [Reach.firstGrid]
    split
    · rename_i k hk
      exact Or.inr (onGrid?_pos hk)
    · exact ih

/-- Digits of a positive number, without the noughts at the end: the first one stays. -/
theorem significantDigits_eq_cons {n : Nat} (hn : 0 < n) :
    ∃ c cs, significantDigits n = c :: cs ∧ c ≠ '0' ∧ ∀ d ∈ c :: cs, d.isDigit = true := by
  obtain ⟨c, cs, hcs, hc⟩ := head_toDigits hn
  have hdigits := (isRun_toDigits n).2
  rw [hcs] at hdigits
  refine ⟨c, (cs.reverse.dropWhile (· == '0')).reverse, ?_, hc, ?_⟩
  · -- the first digit is no nought, so dropping stops there at the latest
    have hhead : ([c].dropWhile (· == '0')) = [c] := List.dropWhile_cons_of_neg (by simpa using hc)
    unfold significantDigits
    rw [hcs, List.reverse_cons, List.dropWhile_append, hhead]
    split
    · rename_i hempty
      rw [List.isEmpty_iff.mp hempty]
      rfl
    · rw [List.reverse_append]
      rfl
  · intro d hd
    rcases List.mem_cons.mp hd with rfl | hrest
    · exact hdigits d List.mem_cons_self
    · have hsub := (List.dropWhile_sublist (· == '0')).subset (List.mem_reverse.mp hrest)
      exact hdigits d (List.mem_cons_of_mem _ (List.mem_reverse.mp hsub))

variable {c : Char} {cs : List Char}

theorem isDigit_replicate (n : Nat) : ∀ d ∈ List.replicate n '0', d.isDigit = true := by
  intro d hd
  rw [(List.mem_replicate.mp hd).2]
  decide

/-- A number that is written out in full has a point. -/
theorem isNumeral_inFull (hc : c ≠ '0') (hdigits : ∀ d ∈ c :: cs, d.isDigit = true) (place : Int) :
    IsNumeral (inFull (c :: cs) place) := by
  unfold inFull
  split
  · -- the number is below one: a nought, the point, and noughts before the digits
    refine isNumeral_point (Or.inl rfl) ⟨by simp, ?_⟩
    exact List.forall_mem_append.mpr ⟨isDigit_replicate _, hdigits⟩
  · rename_i hplace
    simp only []
    obtain ⟨n, hn⟩ : ∃ n, place.toNat = n + 1 := ⟨place.toNat - 1, by omega⟩
    -- the digits before the point, filled up with noughts if there are too few
    have hwhole : IsWhole ((c :: cs).take place.toNat ++
        List.replicate (place.toNat - (c :: cs).length) '0') := by
      rw [hn, List.take_succ_cons, List.cons_append]
      refine Or.inr ⟨c, _, rfl, hc, ?_⟩
      rw [← List.cons_append, ← List.take_succ_cons]
      exact List.forall_mem_append.mpr
        ⟨fun d hd => hdigits d (List.mem_of_mem_take hd), isDigit_replicate _⟩
    refine isNumeral_point hwhole ?_
    split
    · exact isRun_nought
    · rename_i hrest
      exact ⟨hrest, fun d hd => hdigits d (List.mem_of_mem_drop hd)⟩

/-- A number that is not has an exponent. -/
theorem isNumeral_withExponent (hc : c ≠ '0') (hdigits : ∀ d ∈ c :: cs, d.isDigit = true)
    (layout : Layout) (exponent : Int) : IsNumeral (withExponent layout (c :: cs) exponent) := by
  have hwhole : IsWhole [c] :=
    Or.inr ⟨c, [], rfl, hc, List.forall_mem_singleton.mpr (hdigits c List.mem_cons_self)⟩
  have hwritten := isRun_toDigits exponent.natAbs
  have hrun : IsRun
      (List.replicate (layout.exponentDigits - (Nat.toDigits 10 exponent.natAbs).length) '0' ++
        Nat.toDigits 10 exponent.natAbs) :=
    ⟨by simp [hwritten.1], List.forall_mem_append.mpr ⟨isDigit_replicate _, hwritten.2⟩⟩
  have hnumeral := isNumeral_exponent hwhole (fun d hd => hdigits d (List.mem_cons_of_mem _ hd))
    (decide (exponent < 0)) hrun
  unfold withExponent
  cases cs with
  | nil => simpa using hnumeral
  | cons d ds => simpa using hnumeral

/-- **The text of a positive number is read as a number.** -/
theorem isNumeral_positiveText (m : Nat) (q : Int) : IsNumeral (positiveText .standard m q) := by
  have hfound : shortest m q = (0, 0) ∨ 0 < (shortest m q).1 := firstGrid_pos _ _ _
  unfold positiveText
  rcases hfound with hnone | hpos
  · rw [hnone]
    exact isNumeral_point (Or.inl rfl) isRun_nought
  · obtain ⟨c, cs, hcs, hc, hdigits⟩ := significantDigits_eq_cons hpos
    simp only [hcs]
    split
    · exact isNumeral_inFull hc hdigits _
    · exact isNumeral_withExponent hc hdigits _ _

end Shortest

/-! ## Numbers of the 64 bit format

  The three kinds of such numbers, and for zero that it stays zero, which decides whether a value
  counts as nothing. -/

/-- The digits of a finite number, without its sign. -/
def unsignedChars (m : Nat) (q : Int) : List Char :=
  if m = 0 then ['0', '.', '0'] else Decimal.positiveText .standard m q

/-- A sign stands in front of a negative number, nought included. -/
theorem writeReal_finite (negative : Bool) (m : Nat) (q : Int) :
    writeReal (.finite negative m q) =
      if negative then '-' :: unsignedChars m q else unsignedChars m q := by
  show (Binary64.finite negative m q).text.toList = _
  unfold Binary64.text unsignedChars
  cases negative <;> by_cases hm : m = 0 <;> simp [hm]

/-- Written without its sign, every number is a numeral: as a nought with a point, or in one of the
    two layouts. -/
theorem isNumeral_unsignedChars (m : Nat) (q : Int) : IsNumeral (unsignedChars m q) := by
  unfold unsignedChars
  split
  · exact isNumeral_point (Or.inl rfl) isRun_nought
  · exact isNumeral_positiveText m q

/-- **Every number that is written is read as some number, whatever follows**: a word as the number
    that has no digits, and a numeral with its sign. -/
theorem exists_readScalar_writeReal (x : Binary64) :
    ∃ y, ∀ rest, Ends rest → readScalar (writeReal x ++ rest) = .ok (.real y, rest) := by
  cases x with
  | nan => exact ⟨.nan, fun _ _ => rfl⟩
  | infinite negative =>
    cases negative
    · exact ⟨.infinite false, fun _ _ => rfl⟩
    · exact ⟨.infinite true, fun _ _ => rfl⟩
  | finite negative m q =>
    -- the numeral begins with a digit, so behind a sign as well as alone it is read as a number
    obtain ⟨⟨c, ds, hcs, hc⟩, value, hvalue⟩ := isNumeral_unsignedChars m q
    refine ⟨value negative, fun rest hrest => ?_⟩
    obtain ⟨hplain, hminus⟩ := readScalar_of_isDigit hc (ds ++ rest)
    rw [hcs] at hvalue
    rw [writeReal_finite, hcs]
    cases negative with
    | false =>
      show readScalar (c :: (ds ++ rest)) = _
      rw [hplain]
      exact hvalue _ false rest hrest
    | true =>
      show readScalar ('-' :: c :: (ds ++ rest)) = _
      rw [hminus]
      exact hvalue _ true rest hrest

/-- The number that the text of a number is read as. -/
def rereadReal (x : Binary64) : Binary64 :=
  match readScalar (writeReal x) with
  | .ok (.real y, _) => y
  | _ => x

/-- **A number of the 64 bit format is read as one.** -/
theorem readScalar_writeReal (x : Binary64) {rest : List Char} (hrest : Ends rest) :
    readScalar (writeReal x ++ rest) = .ok (.real (rereadReal x), rest) := by
  obtain ⟨y, hy⟩ := exists_readScalar_writeReal x
  have hself := hy [] .nil
  rw [List.append_nil] at hself
  have hreread : rereadReal x = y := by
    unfold rereadReal
    rw [hself]
  rw [hreread, hy rest hrest]

/-- Zero is read as zero, of either sign. -/
theorem isZero_rereadReal {x : Binary64} (h : x.isZero = true) : (rereadReal x).isZero = true := by
  cases x with
  | nan | infinite => cases h
  | finite negative m q =>
    have hm : m = 0 := by simpa [Binary64.isZero] using h
    subst hm
    unfold rereadReal
    rw [writeReal_finite]
    cases negative <;> rfl

end LogDrain.Json
