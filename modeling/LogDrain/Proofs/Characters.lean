/-
  CHARACTERS THERE AND BACK: what is written in UTF-8 or in UTF-16 is read back.

  A character has one to four bytes.  The reader takes the first byte and then expects the others
  one by one, the second of them in an interval of its own after some first bytes; a character's own
  bytes lie in these intervals because its number is no surrogate half and below 0x110000.  So the
  reader comes to the end of a character with nothing expected (`scan_encodeChar`), and whole texts
  follow by induction (`decode?_encode`).  With units in place of bytes the same is said of UTF-16
  (`chars_flatMap_ofChar`).
-/
import LogDrain.Text.Utf16
import Mathlib.Tactic.IntervalCases

namespace LogDrain.Text

/-- A character's number is no half of a pair, and not beyond the last character. -/
theorem toNat_cases (c : Char) : c.toNat < 0xD800 ∨ (0xDFFF < c.toNat ∧ c.toNat < 0x110000) := by
  have hvalid : c.toNat.isValidChar := c.valid
  exact hvalid

namespace Utf8

/-- The character of its own number. -/
theorem charOf_toNat (c : Char) : charOf c.toNat = c := by
  have hvalid : c.toNat.isValidChar := c.valid
  unfold charOf
  rw [dif_pos hvalid]
  rfl

theorem scan_cons (halves : Bool) (state : Option Expecting) (b : UInt8) (bs : List UInt8) :
    scan halves state (b :: bs) =
      (step halves state b.toNat).1 ++ scan halves (step halves state b.toNat).2 bs := by
  cases state <;> rfl

theorem toNat_ofNat {n : Nat} (h : n < 0x100) : (UInt8.ofNat n).toNat = n := by
  rw [UInt8.toNat_ofNat']
  omega

/-! ## One byte of a sequence

  The reader is a machine that remembers how many bytes it still expects, and in which interval
  the next one lies.  These laws are its steps. -/

/-- A byte that completes a sequence. -/
theorem step_last {halves : Bool} {value low high n : Nat} (hlow : low ≤ n) (hhigh : n ≤ high) :
    step halves (some ⟨1, value, low, high⟩) n =
      ([some (charOf (value * 0x40 + (n - 0x80)))], none) := by
  simp [step, hlow, hhigh]

/-- A byte after which more are expected. -/
theorem step_more {halves : Bool} {count value low high n : Nat} (hlow : low ≤ n)
    (hhigh : n ≤ high) :
    step halves (some ⟨count + 2, value, low, high⟩) n =
      ([], some ⟨count + 1, value * 0x40 + (n - 0x80), 0x80, 0xBF⟩) := by
  simp [step, hlow, hhigh]

/-- The first byte of two. -/
theorem fresh_two {k : Nat} (hlow : 2 ≤ k) (hhigh : k < 0x20) :
    fresh false (0xC0 + k) = ([], some ⟨1, k, 0x80, 0xBF⟩) := by
  interval_cases k <;> rfl

/-- The first byte of three; the second one lies in an interval of its own after the first and the
    last but two of them. -/
theorem fresh_three {k : Nat} (hk : k < 0x10) :
    fresh false (0xE0 + k) =
      ([], some ⟨2, k, if k = 0 then 0xA0 else 0x80, if k = 0xD then 0x9F else 0xBF⟩) := by
  interval_cases k <;> rfl

/-- The first byte of four, and the interval of the second one. -/
theorem fresh_four {k : Nat} (hk : k < 5) :
    fresh false (0xF0 + k) =
      ([], some ⟨3, k, if k = 0 then 0x90 else 0x80, if k = 4 then 0x8F else 0xBF⟩) := by
  interval_cases k <;> rfl

/-! ## Characters

  A character is one step of the first kind and up to three of the others, by cases on how many
  bytes it has. -/

/-- **A character is read from its bytes**, whatever follows them. -/
theorem scan_encodeChar (c : Char) (bs : List UInt8) :
    scan false none (encodeChar c ++ bs) = some c :: scan false none bs := by
  have hc := toNat_cases c
  conv_rhs => rw [← charOf_toNat c]
  unfold encodeChar
  generalize c.toNat = n at hc ⊢
  simp only []
  -- one to four bytes; in each case the parts of the number that the bytes carry add up to it again
  split
  · rename_i h
    have hfresh : fresh false n = ([some (charOf n)], none) := by
      unfold fresh
      rw [if_pos h]
    simp only [List.cons_append, List.nil_append, scan_cons, toNat_ofNat (by omega : n < 0x100),
      step, hfresh]
  split
  · simp only [List.cons_append, List.nil_append, scan_cons]
    rw [toNat_ofNat (by omega), toNat_ofNat (by omega)]
    rw [show step false none (0xC0 + n / 0x40) = _ from fresh_two (by omega) (by omega)]
    rw [step_last (by omega) (by omega)]
    rw [show n / 0x40 * 0x40 + (0x80 + n % 0x40 - 0x80) = n by omega]
    rfl
  split
  · simp only [List.cons_append, List.nil_append, scan_cons]
    rw [toNat_ofNat (by omega), toNat_ofNat (by omega), toNat_ofNat (by omega)]
    rw [show step false none (0xE0 + n / 0x1000) = _ from fresh_three (by omega)]
    rw [step_more (by split <;> omega) (by split <;> omega)]
    rw [step_last (by omega) (by omega)]
    rw [show (n / 0x1000 * 0x40 + (0x80 + n / 0x40 % 0x40 - 0x80)) * 0x40 +
      (0x80 + n % 0x40 - 0x80) = n by omega]
    rfl
  · simp only [List.cons_append, List.nil_append, scan_cons]
    rw [toNat_ofNat (by omega), toNat_ofNat (by omega), toNat_ofNat (by omega),
      toNat_ofNat (by omega)]
    rw [show step false none (0xF0 + n / 0x40000) = _ from fresh_four (by omega)]
    rw [step_more (by split <;> omega) (by split <;> omega)]
    rw [step_more (by omega) (by omega)]
    rw [step_last (by omega) (by omega)]
    rw [show ((n / 0x40000 * 0x40 + (0x80 + n / 0x1000 % 0x40 - 0x80)) * 0x40 +
      (0x80 + n / 0x40 % 0x40 - 0x80)) * 0x40 + (0x80 + n % 0x40 - 0x80) = n by omega]
    rfl

/-- Characters without damage are all there. -/
theorem allSound_map_some : ∀ cs : List Char, allSound (cs.map some) = some cs
  | [] => rfl
  | c :: cs => by
    rw [List.map_cons, allSound, allSound_map_some cs]
    rfl

/-- **A text is read from its bytes.** -/
theorem decode?_encode (cs : List Char) : decode? (encode cs) = some cs := by
  have hscan : scan false none (encode cs) = cs.map some := by
    induction cs with
    | nil => rfl
    | cons c cs ih =>
      rw [encode, List.flatMap_cons, scan_encodeChar]
      rw [encode] at ih
      rw [ih, List.map_cons]
  rw [decode?, hscan, allSound_map_some]

end Utf8

namespace Utf16

/-- A unit that is no first half stands for itself. -/
theorem chars_cons {n : Nat} (h : isHigh n = false) (units : List Nat) :
    chars (n :: units) = Utf8.charOf n :: chars units := by
  cases units with
  | nil => rfl
  | cons low rest =>
    rw [chars, h]
    rfl

/-- A pair of halves is joined. -/
theorem chars_pair {high low : Nat} (hhigh : isHigh high = true) (hlow : isLow low = true)
    (units : List Nat) : chars (high :: low :: units) =
      Utf8.charOf (join high low) :: chars units := by
  rw [chars, hhigh, hlow]
  rfl

/-- **A character is read from its units**, whatever follows them. -/
theorem chars_ofChar (c : Char) (units : List Nat) :
    chars (ofChar c ++ units) = c :: chars units := by
  have hc := toNat_cases c
  conv_rhs => rw [← Utf8.charOf_toNat c]
  unfold ofChar
  generalize c.toNat = n at hc ⊢
  simp only []
  split
  · refine chars_cons ?_ units
    simp only [isHigh, Bool.and_eq_false_iff, decide_eq_false_iff_not]
    omega
  · have hjoin : join (0xD800 + (n - 0x10000) / 0x400) (0xDC00 + (n - 0x10000) % 0x400) = n := by
      unfold join
      omega
    rw [List.cons_append, List.cons_append, List.nil_append, chars_pair, hjoin]
    · simp only [isHigh, Bool.and_eq_true, decide_eq_true_eq]
      omega
    · simp only [isLow, Bool.and_eq_true, decide_eq_true_eq]
      omega

/-- **A text is read from its units.** -/
theorem chars_flatMap_ofChar (cs : List Char) : chars (cs.flatMap ofChar) = cs := by
  induction cs with
  | nil => rfl
  | cons c cs ih => rw [List.flatMap_cons, chars_ofChar, ih]

/-- The units of a character are numbers of 16 bits. -/
theorem lt_of_mem_ofChar {c : Char} {n : Nat} (h : n ∈ ofChar c) : n < 0x10000 := by
  have hc := toNat_cases c
  unfold ofChar at h
  simp only [] at h
  split at h
  · rw [List.mem_singleton] at h
    omega
  · rcases List.mem_cons.mp h with rfl | hlow
    · omega
    · rw [List.mem_singleton] at hlow
      omega

end Utf16

end LogDrain.Text
