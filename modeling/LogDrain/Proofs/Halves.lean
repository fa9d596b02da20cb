/-
  HALVES IN PAIRS: texts that name no half of a pair alone.

  A character beyond U+FFFF has two UTF-16 units, and a JSON text may name them one by one.  So it
  may also name a half without its partner, which stands for no character.  A reader shows it as the
  replacement character and goes on; what becomes of the half itself, where it has to be encoded
  again, is not told. What depends on that is said of texts only in which every half has its
  partner.

    * `Json.unitsOf`   the units that a JSON text names, one for an escape of four digits;
    * `Json.IsPaired`  every half among them stands in a pair (`Utf16.isPaired`);
    * `Reply.IsPaired`, `Web.Request.IsPaired`   the same of what arrives as bytes.  A body may also
      hold a half as it stands, without an escape, in each of its encodings (`Encoding.IsPaired`).

  What is written names no half alone (`keeps_writeChars`): a character is written with all of its
  units, one right after the other.
-/
import LogDrain.Proofs.Bodies
import LogDrain.Proofs.Cloud
import LogDrain.Web.Service

namespace LogDrain

/-! ## Pairs of halves -/

namespace Text.Utf16

/-- Does every half stand in a pair, a first one right before a second one? -/
def isPaired : List Nat → Bool
  | [] => true
  | [n] => !isHigh n && !isLow n
  | high :: low :: rest =>
    if isHigh high && isLow low then isPaired rest
    else !isHigh high && !isLow high && isPaired (low :: rest)

/-- A unit that is no half takes no part in a pair. -/
theorem isPaired_cons {n : Nat} (hhigh : isHigh n = false) (hlow : isLow n = false)
    (units : List Nat) : isPaired (n :: units) = isPaired units := by
  cases units with
  | nil => simp [isPaired, hhigh, hlow]
  | cons low rest => simp [isPaired, hhigh, hlow]

/-- A character's own units come in pairs, whatever follows them. -/
theorem isPaired_ofChar (c : Char) (units : List Nat) :
    isPaired (ofChar c ++ units) = isPaired units := by
  have hc := toNat_cases c
  unfold ofChar
  generalize c.toNat = n at hc ⊢
  simp only []
  split
  · refine isPaired_cons ?_ ?_ units
    · simp only [isHigh, Bool.and_eq_false_iff, decide_eq_false_iff_not]
      omega
    · simp only [isLow, Bool.and_eq_false_iff, decide_eq_false_iff_not]
      omega
  · have hhigh : isHigh (0xD800 + (n - 0x10000) / 0x400) = true := by
      simp only [isHigh, Bool.and_eq_true, decide_eq_true_eq]
      omega
    have hlow : isLow (0xDC00 + (n - 0x10000) % 0x400) = true := by
      simp only [isLow, Bool.and_eq_true, decide_eq_true_eq]
      omega
    simp [isPaired, hhigh, hlow]

end Text.Utf16

/-! ## The units that a JSON text names -/

namespace Json

open Text (Hex.value?)
open Text.Utf16 (isPaired ofChar)

/-- The number of four hexadecimal digits; a character that is none counts as nought. -/
def fourDigits (a b c d : Char) : Nat :=
  [a, b, c, d].foldl (fun n digit => n * 16 + (Hex.value? digit).getD 0) 0

/-- The units that a JSON text names: an escape of four digits names the one of its number, any
    other escape stands for a character that is no half, and every other character stands for
    itself. -/
def unitsOf : List Char → List Nat
  | '\\' :: 'u' :: a :: b :: c :: d :: rest => fourDigits a b c d :: unitsOf rest
  | '\\' :: _ :: rest => '\\'.toNat :: unitsOf rest
  | c :: rest => c.toNat :: unitsOf rest
  | [] => []

/-- No half of a pair stands alone in the text. -/
def IsPaired (cs : List Char) : Prop := isPaired (unitsOf cs) = true

instance (cs : List Char) : Decidable (IsPaired cs) := inferInstanceAs (Decidable (_ = true))

example : IsPaired "[\"\\ud83d\\ude00 \\\\ud800\"]".toList := by decide +kernel
example : ¬ IsPaired "[\"\\ud83d\", \"\\ude00\"]".toList := by decide +kernel

/-! ## What is written is whole

  To be paired is not kept when texts are cut anywhere, since a cut may fall between two halves.
  What is kept is stronger and goes along the text: that a piece changes nothing, whatever comes
  after it (`Keeps`). -/

/-- A piece of a text in which every half has its partner: whatever follows it is as whole with it
    as without it. -/
def Keeps (cs : List Char) : Prop := ∀ rest, IsPaired (cs ++ rest) ↔ IsPaired rest

theorem Keeps.nil : Keeps [] := fun _ => Iff.rfl

/-- Texts in a row are whole if each of them is; this is why a text and its rest are looked at
    together. -/
theorem Keeps.append {cs ds : List Char} (hc : Keeps cs) (hd : Keeps ds) : Keeps (cs ++ ds) := by
  intro rest
  rw [List.append_assoc, hc, hd]

theorem Keeps.cons {c : Char} {cs : List Char} (hc : Keeps [c]) (h : Keeps cs) : Keeps (c :: cs) :=
  hc.append h

/-- A whole text names no half alone. -/
theorem Keeps.isPaired {cs : List Char} (h : Keeps cs) : IsPaired cs := by
  have hnil := (h []).mpr rfl
  rwa [List.append_nil] at hnil

/-- A character that is no backslash. -/
theorem keeps_plain {c : Char} (h : c ≠ '\\') : Keeps [c] := by
  intro rest
  have hunits : unitsOf (c :: rest) = c.toNat :: unitsOf rest := by
    rw [unitsOf.eq_def]
    split <;> simp_all
  have hc := Text.toNat_cases c
  rw [List.singleton_append, IsPaired, hunits, Text.Utf16.isPaired_cons]
  · rfl
  · simp only [Text.Utf16.isHigh, Bool.and_eq_false_iff, decide_eq_false_iff_not]
    omega
  · simp only [Text.Utf16.isLow, Bool.and_eq_false_iff, decide_eq_false_iff_not]
    omega

/-- An escape of one letter. -/
theorem keeps_escape {c : Char} (h : c ≠ 'u') : Keeps ['\\', c] := by
  intro rest
  have hunits : unitsOf ('\\' :: c :: rest) = '\\'.toNat :: unitsOf rest := by
    rw [unitsOf.eq_def]
    split
    · simp_all
    · simp_all
    · rename_i hnone heq
      obtain ⟨rfl, rfl⟩ := List.cons.inj heq
      exact absurd rfl (hnone c rest rfl)
    · simp_all
  show isPaired (unitsOf ('\\' :: c :: rest)) = true ↔ _
  rw [hunits, Text.Utf16.isPaired_cons (by decide) (by decide)]
  rfl

/-- An escaped unit is named by its digits. -/
theorem unitsOf_unitEscape {n : Nat} (h : n < 0x10000) (rest : List Char) :
    unitsOf (unitEscape n ++ rest) = n :: unitsOf rest := by
  have hdigit : ∀ k, (Hex.value? (Text.Hex.lowerDigit (k % 16))).getD 0 = k % 16 := fun k => by
    rw [Text.Hex.value?_lowerDigit ⟨k % 16, Nat.mod_lt _ (by decide)⟩]
    rfl
  show fourDigits _ _ _ _ :: unitsOf rest = _
  congr 1
  simp only [fourDigits, List.foldl, hdigit]
  omega

/-- A character that is escaped unit by unit. -/
theorem keeps_ofChar (c : Char) : Keeps ((ofChar c).flatMap unitEscape) := by
  have hnames : ∀ units : List Nat, (∀ n ∈ units, n < 0x10000) → ∀ rest,
      unitsOf (units.flatMap unitEscape ++ rest) = units ++ unitsOf rest := by
    intro units hall rest
    induction units with
    | nil => rfl
    | cons n units ih =>
      obtain ⟨hn, hunits⟩ := List.forall_mem_cons.mp hall
      rw [List.flatMap_cons, List.append_assoc, unitsOf_unitEscape hn, ih hunits]
      rfl
  intro rest
  rw [IsPaired, hnames _ (fun _ => Text.Utf16.lt_of_mem_ofChar), Text.Utf16.isPaired_ofChar]
  rfl

/-- **A character is written as a whole**: by an escape of its own, as it stands, or by all of its
    units. -/
theorem keeps_writeChar (c : Char) : Keeps (writeChar c) := by
  unfold writeChar
  split
  · exact keeps_escape (by decide)
  split
  · exact keeps_escape (by decide)
  split
  · exact keeps_escape (by decide)
  split
  · exact keeps_escape (by decide)
  split
  · exact keeps_escape (by decide)
  split
  · exact keeps_escape (by decide)
  split
  · exact keeps_escape (by decide)
  split
  -- what is printable stands as it is, unless it is the backslash, which has an escape
  · rename_i hbackslash _ _ _ _ _ _
    exact keeps_plain hbackslash
  · exact keeps_ofChar c

theorem keeps_writeString (s : String) : Keeps (writeString s) := by
  have hchars : Keeps (s.toList.flatMap writeChar) := by
    induction s.toList with
    | nil => exact .nil
    | cons c cs ih => exact (keeps_writeChar c).append ih
  exact .cons (keeps_plain (by decide)) (hchars.append (keeps_plain (by decide)))

/-- Characters without a backslash name nothing but themselves. -/
theorem keeps_of_notMem {cs : List Char} (h : '\\' ∉ cs) : Keeps cs := by
  induction cs with
  | nil => exact .nil
  | cons c cs ih =>
    obtain ⟨hc, hcs⟩ := not_or.mp fun hmem => h (List.mem_cons.mpr hmem)
    exact .cons (keeps_plain (Ne.symm hc)) (ih hcs)

/-- An integer has no backslash in it, so it names no unit at all. -/
theorem notMem_intDigits (n : Int) : '\\' ∉ Decimal.intDigits n := by
  intro hmem
  have hlow : ∀ c ∈ Decimal.intDigits n, c = '-' ∨ c.isDigit = true := by
    intro c hc
    unfold Decimal.intDigits at hc
    have hdigit : c ∈ Nat.toDigits 10 n.natAbs → c.isDigit = true :=
      Nat.isDigit_of_mem_toDigits (by decide) (by decide)
    split at hc
    · exact (List.mem_cons.mp hc).imp_right hdigit
    · exact Or.inr (hdigit hc)
  exact absurd (hlow _ hmem) (by decide)

mutual

/-- **What is written names no half alone.** -/
theorem keeps_writeChars : ∀ v : Json, v.IsExact → Keeps v.writeChars
  | .null, _ | .bool true, _ | .bool false, _ => keeps_of_notMem (by decide)
  | .int n, _ => keeps_of_notMem (notMem_intDigits n)
  | .real x, h => absurd h (by simp [IsExact])
  | .str s, _ => keeps_writeString s
  | .arr [], _ => keeps_of_notMem (by decide)
  | .arr (v :: vs), h => by
    rw [IsExact, AreExact] at h
    exact .cons (keeps_plain (by decide))
      ((keeps_writeChars v h.1).append (keeps_writeItems vs h.2))
  | .obj [], _ => keeps_of_notMem (by decide)
  | .obj ((k, v) :: fs), h => by
    rw [IsExact, HaveExact] at h
    have hvalue : Keeps (':' :: ' ' :: v.writeChars) :=
      .cons (keeps_plain (by decide)) (.cons (keeps_plain (by decide)) (keeps_writeChars v h.2.1))
    exact .cons (keeps_plain (by decide))
      (((keeps_writeString k).append hvalue).append (keeps_writeFields fs h.2.2))

theorem keeps_writeItems : ∀ vs : List Json, AreExact vs → Keeps (writeItems vs)
  | [], _ => keeps_of_notMem (by decide)
  | v :: vs, h => by
    rw [AreExact] at h
    exact .cons (keeps_plain (by decide)) (.cons (keeps_plain (by decide))
      ((keeps_writeChars v h.1).append (keeps_writeItems vs h.2)))

theorem keeps_writeFields : ∀ fs : Fields, HaveExact fs → Keeps (writeFields fs)
  | [], _ => keeps_of_notMem (by decide)
  | (k, v) :: fs, h => by
    rw [HaveExact] at h
    have hvalue : Keeps (':' :: ' ' :: v.writeChars) :=
      .cons (keeps_plain (by decide)) (.cons (keeps_plain (by decide)) (keeps_writeChars v h.1))
    exact .cons (keeps_plain (by decide)) (.cons (keeps_plain (by decide))
      (((keeps_writeString k).append hvalue).append (keeps_writeFields fs h.2)))

end

end Json

/-! ## Replies and bodies

  Of what arrives as bytes the same is asked of the text that they are decoded to.  A reply is read
  as UTF-8, in which a half cannot be written except by an escape; a request may use any of five
  encodings, and in each of them a half can stand as it is. -/

/-- If the body of the reply is text, it names no half alone. -/
def Reply.IsPaired : Reply → Prop
  | .answered _ payload => ∀ cs, Text.Utf8.decode? payload = some cs → Json.IsPaired cs
  | .lost _ => True

instance : DecidablePred Reply.IsPaired
  | .answered _ payload =>
    match h : Text.Utf8.decode? payload with
    | none => isTrue fun _ hcs => nomatch h.symm.trans hcs
    | some cs =>
      decidable_of_iff (Json.IsPaired cs)
        ⟨fun hcs _ heq => Option.some.inj (h.symm.trans heq) ▸ hcs, fun hall => hall cs h⟩
  | .lost _ => isTrue trivial

/-- A reply that may come in any run: it is not lost in an unknown way, and it names no half
    alone. -/
structure Reply.IsOrdinary (reply : Reply) : Prop where
  known : reply ≠ .lost .other
  paired : reply.IsPaired

namespace Text.Encoding

/-- The bytes hold no half of a pair as it stands. -/
def IsPaired : Encoding → List UInt8 → Prop
  | .utf8, bytes => (Utf8.decode? bytes).isSome = true
  | .utf16 bigEndian, bytes => ∀ units, units16? bigEndian bytes = some units →
      Utf16.isPaired units = true
  | .utf32 bigEndian, bytes => ∀ points, points32? bigEndian bytes = some points →
      ∀ n ∈ points, n.isValidChar

end Text.Encoding

/-- If the body of the request is a JSON text, it holds no half alone, neither as it stands nor
    named by an escape. -/
def Web.Request.IsPaired (request : Request) : Prop :=
  ∀ type cs, request.contentType = some type → isJsonType (mediaType type) = true →
    Text.Encoding.decodeJson? request.body = some cs →
      let (encoding, bytes) := Text.Encoding.detect request.body
      encoding.IsPaired bytes ∧ Json.IsPaired cs

/-! ## Reading a text that was written -/

namespace Text

open Json (InAscii)

/-- Printable characters of ASCII are one byte each. -/
theorem Utf8.encode_of_inAscii {cs : List Char} (h : InAscii cs) :
    Utf8.encode cs = cs.map fun c => UInt8.ofNat c.toNat := by
  have hone : ∀ c ∈ cs, Utf8.encodeChar c = [UInt8.ofNat c.toNat] := by
    intro c hc
    have hlow : c.toNat < 0x80 := (h c hc).2.trans (by decide)
    simp only [Utf8.encodeChar, if_pos hlow]
  rw [Utf8.encode, List.flatMap_congr hone, List.map_eq_flatMap]

/-- A text in ASCII is encoded into bytes that are its characters. -/
theorem Utf8.toNat_of_mem_encode {cs : List Char} (h : InAscii cs) :
    ∀ b ∈ Utf8.encode cs, 0x20 ≤ b.toNat ∧ b.toNat < 0x7F := by
  rw [Utf8.encode_of_inAscii h]
  intro b hb
  obtain ⟨c, hc, rfl⟩ := List.mem_map.mp hb
  rw [Utf8.toNat_ofNat ((h c hc).2.trans (by decide))]
  exact h c hc

/-- Such a text is read from its bytes, whether or not halves of pairs are let through. -/
theorem Utf8.scan_encode_of_inAscii (halves : Bool) : ∀ {cs : List Char}, InAscii cs →
    Utf8.scan halves none (Utf8.encode cs) = cs.map some
  | [], _ => rfl
  | c :: cs, h => by
    have hc := h c List.mem_cons_self
    have hcs : InAscii cs := fun d hd => h d (List.mem_cons_of_mem _ hd)
    have hlow : c.toNat < 0x80 := hc.2.trans (by decide)
    have hstep : Utf8.step halves none c.toNat = ([some c], none) := by
      show Utf8.fresh halves c.toNat = _
      rw [Utf8.fresh, if_pos hlow, Utf8.charOf_toNat]
    rw [Utf8.encode_of_inAscii h, List.map_cons, Utf8.scan_cons,
      Utf8.toNat_ofNat (hlow.trans (by decide)), hstep, ← Utf8.encode_of_inAscii hcs,
      Utf8.scan_encode_of_inAscii halves hcs]
    rfl

namespace Encoding

/-- Bytes of printable characters of ASCII show no other encoding: neither a mark nor a zero byte is
    there. -/
theorem detect_of_ascii {bytes : List UInt8} (h : ∀ b ∈ bytes, 0x20 ≤ b.toNat ∧ b.toNat < 0x7F) :
    detect bytes = (.utf8, bytes) := by
  have hzeros : ofZeros bytes = .utf8 := by
    have hne : ∀ b ∈ bytes, b ≠ 0 := by
      rintro b hb rfl
      exact absurd (h 0 hb).1 (by decide)
    unfold ofZeros
    split
    · rw [if_neg (hne _ (by simp)), if_neg (hne _ (by simp))]
    · rw [if_neg (hne _ (by simp)), if_neg (hne _ (by simp))]
    · rfl
  unfold detect
  split
  · exact absurd (h 0x00 (by simp)).1 (by decide)
  · exact absurd (h 0xFF (by simp)).2 (by decide)
  · exact absurd (h 0xFE (by simp)).2 (by decide)
  · exact absurd (h 0xFF (by simp)).2 (by decide)
  · exact absurd (h 0xEF (by simp)).2 (by decide)
  · rw [hzeros]

/-- **A text in ASCII is read in the encoding in which it was written**: UTF-8 is what its first
    bytes are taken for. -/
theorem decodeJson?_encode {cs : List Char} (h : InAscii cs) :
    decodeJson? (Utf8.encode cs) = some cs := by
  unfold decodeJson?
  rw [detect_of_ascii (Utf8.toNat_of_mem_encode h)]
  show Utf8.allSound (Utf8.scan true none (Utf8.encode cs)) = some cs
  rw [Utf8.scan_encode_of_inAscii true h, Utf8.allSound_map_some]

end Encoding

end Text

/-- **The text of a value holds no half of a character alone**, neither as it stands nor escaped. -/
theorem Web.Request.isPaired_of_bodyOf {request : Web.Request} {v : Json}
    (hbody : request.body = Cloud.bodyOf v) (h : v.IsExact) : request.IsPaired := by
  intro type cs _ _ hcs
  have hascii := Json.inAscii_writeChars v h
  rw [hbody, Cloud.bodyOf] at hcs ⊢
  obtain rfl : v.writeChars = cs :=
    Option.some.inj ((Text.Encoding.decodeJson?_encode hascii).symm.trans hcs)
  rw [Text.Encoding.detect_of_ascii (Text.Utf8.toNat_of_mem_encode hascii)]
  refine ⟨?_, (Json.keeps_writeChars v h).isPaired⟩
  show (Text.Utf8.decode? _).isSome = true
  rw [Text.Utf8.decode?_encode]
  rfl

end LogDrain
