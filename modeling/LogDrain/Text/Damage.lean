/-
  DAMAGED UTF-8: where the bytes of a text first go wrong, and how.

  The walk is that of `Utf8.scan`; it also knows where the sequence begun starts and which of its
  bytes were read.  A sequence goes wrong in one of three ways: its first byte begins none, a later
  byte does not go on with it, or the bytes end inside it.  The damage is the sequence as far as it
  was read, without the byte that does not go on with it.

  `first?_eq_none_iff` says that damage is found exactly where `Utf8.decode?` finds no text.
-/
import LogDrain.Decimal.Integer
import LogDrain.Text.Hex
import LogDrain.Text.Utf8

namespace LogDrain.Text

/-- How a sequence goes wrong. -/
inductive DamageCause where
  /-- Its first byte begins no sequence. -/
  | start
  /-- A later byte does not go on with it. -/
  | continuation
  /-- The bytes end inside it. -/
  | cut
  deriving DecidableEq, Repr

/-- The cause in words. -/
def DamageCause.message : DamageCause → String
  | .start => "invalid start byte"
  | .continuation => "invalid continuation byte"
  | .cut => "unexpected end of data"

/-- A sequence that goes wrong: its bytes, and the place of the first of them. -/
structure Damage where
  place : Nat
  bytes : List UInt8
  cause : DamageCause
  deriving DecidableEq, Repr

namespace Damage

/-- The damage in words; a single byte is shown, of several the first and the last place. -/
def message (d : Damage) : String :=
  let first := Decimal.intText d.place
  let what := match d.bytes with
    | [b] => "byte 0x" ++ String.ofList (Hex.lowerDigits 2 b.toNat) ++ " in position " ++ first
    | bytes => "bytes in position " ++ first ++ "-" ++ Decimal.intText (d.place + bytes.length - 1)
  "'utf-8' codec can't decode " ++ what ++ ": " ++ d.cause.message

/-! ## Finding it -/

/-- The first damage from here on; the sequence begun starts at `place` and has the bytes `held`. -/
def find (place : Nat) (held : List UInt8) : Option Utf8.Expecting → List UInt8 → Option Damage
  | none, [] => none
  | some _, [] => some ⟨place, held, .cut⟩
  | state, b :: bs =>
    match state, Utf8.step false state b.toNat with
    | none, (none :: _, _) => some ⟨place, [b], .start⟩
    | some _, (none :: _, _) => some ⟨place, held, .continuation⟩
    | _, (_, none) => find (place + held.length + 1) [] none bs
    | _, (_, some next) => find place (held ++ [b]) (some next) bs

/-- The first damage of the bytes, if there is any. -/
def first? (bytes : List UInt8) : Option Damage := find 0 [] none bytes

/-! ## Damage is what is no text -/

/-- A byte that starts afresh is damage, a character, or the beginning of a sequence. -/
theorem fresh_cases (halves : Bool) (n : Nat) :
    Utf8.fresh halves n = ([none], none) ∨ (∃ c, Utf8.fresh halves n = ([some c], none)) ∨
      ∃ e, Utf8.fresh halves n = ([], some e) := by
  generalize h : Utf8.fresh halves n = step
  unfold Utf8.fresh at h
  repeat' split at h
  all_goals simp [← h]

/-- A byte shows damage, completes a character, or goes on with a sequence. -/
theorem step_cases (halves : Bool) (state : Option Utf8.Expecting) (n : Nat) :
    (∃ pieces next, Utf8.step halves state n = (none :: pieces, next)) ∨
      (∃ c, Utf8.step halves state n = ([some c], none)) ∨
      ∃ e, Utf8.step halves state n = ([], some e) := by
  cases state with
  | none =>
    rcases fresh_cases halves n with h | ⟨c, h⟩ | ⟨e, h⟩
    · exact .inl ⟨[], none, h⟩
    · exact .inr (.inl ⟨c, h⟩)
    · exact .inr (.inr ⟨e, h⟩)
  | some e =>
    unfold Utf8.step
    simp only
    split
    · split <;> simp
    · exact .inl ⟨_, _, rfl⟩

/-- From any state on, no damage is found exactly where all of the pieces are sound. -/
theorem find_eq_none_iff (bs : List UInt8) (place : Nat) (held : List UInt8)
    (state : Option Utf8.Expecting) :
    find place held state bs = none ↔ (Utf8.allSound (Utf8.scan false state bs)).isSome := by
  induction bs generalizing place held state with
  | nil => cases state <;> simp [find, Utf8.scan, Utf8.allSound]
  | cons b bs ih =>
    rcases step_cases false state b.toNat with ⟨pieces, next, h⟩ | ⟨c, h⟩ | ⟨e, h⟩ <;>
      cases state <;> simp [find, Utf8.scan, Utf8.allSound, h, ih]

/-- No damage is found exactly where the bytes are a text. -/
theorem first?_eq_none_iff {bytes : List UInt8} :
    first? bytes = none ↔ (Utf8.decode? bytes).isSome :=
  find_eq_none_iff bytes 0 [] none

example : first? [0x7B, 0xFF] = some ⟨1, [0xFF], .start⟩ := by decide +kernel
example : first? [0x61, 0xE2, 0x82, 0x28] = some ⟨1, [0xE2, 0x82], .continuation⟩ := by
  decide +kernel
example : first? [0xC3, 0xA9, 0xF0, 0x9F] = some ⟨2, [0xF0, 0x9F], .cut⟩ := by decide +kernel
example : (⟨2, [0xC3], .cut⟩ : Damage).message =
    "'utf-8' codec can't decode byte 0xc3 in position 2: unexpected end of data" := by
  decide +kernel

end Damage

end LogDrain.Text
