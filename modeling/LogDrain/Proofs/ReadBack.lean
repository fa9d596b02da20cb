/-
  JSON THERE AND BACK: a value that is written is read as itself.

  Every value can be read from its text that can be written at all (`Json.IsWritable`): none of its
  integers has more than 4300 digits, and its objects have each key once.  What is read has the same
  shape, keys and texts, and differs at most in its numbers of the 64 bit format (`Json.reread`).  A
  value without those is read as itself (`Json.IsExact`).

  The proof is by recursion on the number of steps.  They are measured by the length of the text,
  and every step takes at least one character of it.

  Three statements are proved at once, for values, for the entries of an array and for the fields
  of an object (`reads`), since each of the three readers calls the next with one step less.  What
  follows the text is left open, because an entry is read in the middle of others; it must only
  begin with something that cannot go on with the value (`Ends`).
-/
import LogDrain.Proofs.Scalars

namespace LogDrain.Json

/-! ## Values

  Three predicates and one function on values, each in three parts, for values, lists and fields,
  as values are built. -/

mutual

/-- Is there no number of the 64 bit format, no integer that is too long, and no key twice? -/
def IsExact : Json → Prop
  | .null | .bool _ | .str _ => True
  | .int n => (Nat.toDigits 10 n.natAbs).length ≤ maxIntegerDigits
  | .real _ => False
  | .arr items => AreExact items
  | .obj fields => (fields.map Prod.fst).Nodup ∧ HaveExact fields

/-- The same of items. -/
def AreExact : List Json → Prop
  | [] => True
  | v :: vs => IsExact v ∧ AreExact vs

/-- The same of fields. -/
def HaveExact : List (String × Json) → Prop
  | [] => True
  | (_, v) :: fs => IsExact v ∧ HaveExact fs

end

theorem areExact_map {α : Type} {f : α → Json} (h : ∀ a, (f a).IsExact) :
    ∀ as : List α, AreExact (as.map f)
  | [] => by simp [AreExact]
  | a :: as => by
    rw [List.map_cons, AreExact]
    exact ⟨h a, areExact_map h as⟩

mutual

/-- Can the value be written: is no integer too long, and no key there twice? -/
def IsWritable : Json → Prop
  | .null | .bool _ | .str _ | .real _ => True
  | .int n => (Nat.toDigits 10 n.natAbs).length ≤ maxIntegerDigits
  | .arr items => AreWritable items
  | .obj fields => (fields.map Prod.fst).Nodup ∧ HaveWritable fields

/-- The same of items. -/
def AreWritable : List Json → Prop
  | [] => True
  | v :: vs => IsWritable v ∧ AreWritable vs

/-- The same of fields. -/
def HaveWritable : List (String × Json) → Prop
  | [] => True
  | (_, v) :: fs => IsWritable v ∧ HaveWritable fs

end

mutual

/-- What the text of the value is read as. -/
def reread : Json → Json
  | .null => .null
  | .bool b => .bool b
  | .int n => .int n
  | .real x => .real (rereadReal x)
  | .str s => .str s
  | .arr items => .arr (rereadItems items)
  | .obj fields => .obj (rereadFields fields)

/-- The same of items. -/
def rereadItems : List Json → List Json
  | [] => []
  | v :: vs => reread v :: rereadItems vs

/-- The same of fields. -/
def rereadFields : List (String × Json) → List (String × Json)
  | [] => []
  | (k, v) :: fs => (k, reread v) :: rereadFields fs

end

/-- The keys stay. -/
theorem keys_rereadFields (fields : Fields) :
    (rereadFields fields).map Prod.fst = fields.map Prod.fst := by
  induction fields with
  | nil => rfl
  | cons f fs ih =>
    obtain ⟨k, v⟩ := f
    rw [rereadFields, List.map_cons, List.map_cons, ih]

mutual

/-- **A value without numbers of the 64 bit format is read as itself.** -/
theorem IsExact.reread_eq : ∀ {v : Json}, v.IsExact → v.IsWritable ∧ v.reread = v
  | .null, _ | .bool _, _ | .str _, _ => ⟨trivial, rfl⟩
  | .int _, h => ⟨h, rfl⟩
  | .real _, h => absurd h (by simp [IsExact])
  | .arr items, h => by
    rw [IsExact] at h
    obtain ⟨hitems, heq⟩ := AreExact.reread_eq h
    rw [IsWritable, reread, heq]
    exact ⟨hitems, rfl⟩
  | .obj fields, h => by
    rw [IsExact] at h
    obtain ⟨hfields, heq⟩ := HaveExact.reread_eq h.2
    rw [IsWritable, reread, heq]
    exact ⟨⟨h.1, hfields⟩, rfl⟩

theorem AreExact.reread_eq : ∀ {vs : List Json}, AreExact vs → AreWritable vs ∧ rereadItems vs = vs
  | [], _ => ⟨trivial, rfl⟩
  | v :: vs, h => by
    rw [AreExact] at h
    obtain ⟨hv, heq⟩ := IsExact.reread_eq h.1
    obtain ⟨hvs, hmore⟩ := AreExact.reread_eq h.2
    rw [AreWritable, rereadItems, heq, hmore]
    exact ⟨⟨hv, hvs⟩, rfl⟩

theorem HaveExact.reread_eq : ∀ {fs : Fields}, HaveExact fs → HaveWritable fs ∧ rereadFields fs = fs
  | [], _ => ⟨trivial, rfl⟩
  | (k, v) :: fs, h => by
    rw [HaveExact] at h
    obtain ⟨hv, heq⟩ := IsExact.reread_eq h.1
    obtain ⟨hfs, hmore⟩ := HaveExact.reread_eq h.2
    rw [HaveWritable, rereadFields, heq, hmore]
    exact ⟨⟨hv, hfs⟩, rfl⟩

end

/-! ## How texts start

  The reader looks at the next character to know what is coming.  So each kind of value has to
  start with a character that no other kind starts with, and with no space. -/

/-- A character that opens neither a string nor a collection, closes none, and is not blank. -/
def OpensScalar (c : Char) : Prop :=
  isSpace c = false ∧ c ≠ '"' ∧ c ≠ '[' ∧ c ≠ ']' ∧ c ≠ '\x7b'

instance (c : Char) : Decidable (OpensScalar c) :=
  inferInstanceAs (Decidable (isSpace c = false ∧ c ≠ '"' ∧ c ≠ '[' ∧ c ≠ ']' ∧ c ≠ '\x7b'))

theorem opensScalar_of_isDigit {c : Char} (hc : c.isDigit = true) : OpensScalar c := by
  have hne : ∀ w : Char, w.isDigit = false → c ≠ w := by
    rintro w hw rfl
    rw [hw] at hc
    cases hc
  refine ⟨?_, hne _ rfl, hne _ rfl, hne _ rfl, hne _ rfl⟩
  simp [isSpace, hne ' ' rfl, hne '\t' rfl, hne '\n' rfl, hne '\r' rfl]

/-- An integer starts with a digit or with its sign. -/
theorem intDigits_eq_cons (n : Int) : ∃ c cs, Decimal.intDigits n = c :: cs ∧ OpensScalar c := by
  obtain ⟨hne, hdigits⟩ := isRun_toDigits n.natAbs
  obtain ⟨c, cs, hcs⟩ := List.exists_cons_of_ne_nil hne
  rw [hcs] at hdigits
  unfold Decimal.intDigits
  rw [hcs]
  split
  · exact ⟨'-', _, rfl, by decide⟩
  · exact ⟨c, cs, rfl, opensScalar_of_isDigit (hdigits c List.mem_cons_self)⟩

/-- A number of the 64 bit format starts with a digit, its sign, or the first letter of a word. -/
theorem writeReal_eq_cons (x : Decimal.Binary64) : ∃ c cs, writeReal x = c :: cs ∧
    OpensScalar c := by
  cases x with
  | nan => exact ⟨'N', _, rfl, by decide⟩
  | infinite negative =>
    cases negative
    · exact ⟨'I', _, rfl, by decide⟩
    · exact ⟨'-', _, rfl, by decide⟩
  | finite negative m q =>
    obtain ⟨⟨c, cs, hcs, hc⟩, -⟩ := isNumeral_unsignedChars m q
    rw [writeReal_finite, hcs]
    cases negative
    · exact ⟨c, cs, rfl, opensScalar_of_isDigit hc⟩
    · exact ⟨'-', _, rfl, by decide⟩

/-- The text of a value starts with no blank character and no closing bracket. -/
theorem writeChars_eq_cons (v : Json) :
    ∃ c cs, v.writeChars = c :: cs ∧ isSpace c = false ∧ c ≠ ']' := by
  cases v with
  | null => exact ⟨'n', _, rfl, by decide, by decide⟩
  | bool b =>
    cases b
    · exact ⟨'f', _, rfl, by decide, by decide⟩
    · exact ⟨'t', _, rfl, by decide, by decide⟩
  | int n =>
    obtain ⟨c, cs, hcs, hspace, -, -, hbracket, -⟩ := intDigits_eq_cons n
    exact ⟨c, cs, hcs, hspace, hbracket⟩
  | real x =>
    obtain ⟨c, cs, hcs, hspace, -, -, hbracket, -⟩ := writeReal_eq_cons x
    exact ⟨c, cs, hcs, hspace, hbracket⟩
  | str s => exact ⟨'"', _, rfl, by decide, by decide⟩
  | arr items => cases items <;> exact ⟨'[', _, by rw [writeChars], by decide, by decide⟩
  | obj fields => cases fields <;> exact ⟨'\x7b', _, by rw [writeChars], by decide, by decide⟩

/-- Fields with each key once are what is left when they are written one after the other. -/
theorem ofPairs_of_nodup {fields : Fields} (h : (fields.map Prod.fst).Nodup) :
    Fields.ofPairs fields = fields := by
  -- a key that is not there yet goes to the end
  have hput : ∀ (front : Fields) (key : String) (v : Json), key ∉ front.map Prod.fst →
      front.put key v = front ++ [(key, v)] := by
    intro front key v hkey
    induction front with
    | nil => rfl
    | cons f front ih =>
      rw [List.map_cons, List.mem_cons, not_or] at hkey
      rw [Fields.put, if_neg (Ne.symm hkey.1), ih hkey.2]
      rfl
  -- by induction on what is still to be put, whatever stands in front of it
  have hfold : ∀ front back : Fields, ((front ++ back).map Prod.fst).Nodup →
      back.foldl (fun fields p => fields.put p.1 p.2) front = front ++ back := by
    intro front back hnodup
    induction back generalizing front with
    | nil => exact (List.append_nil front).symm
    | cons f back ih =>
      have hkey : f.1 ∉ front.map Prod.fst := by
        rw [List.map_append, List.nodup_append] at hnodup
        exact fun hmem => hnodup.2.2 f.1 hmem f.1 List.mem_cons_self rfl
      rw [List.append_cons] at hnodup ⊢
      rw [List.foldl_cons, hput front f.1 f.2 hkey, ih (front ++ [f]) hnodup]
  exact hfold [] fields h

/-- No blank character stands before what starts with none. -/
theorem skipSpaces_cons {c : Char} {cs : List Char} (hc : isSpace c = false) :
    skipSpaces (c :: cs) = c :: cs := by
  rw [skipSpaces, List.dropWhile_cons_of_neg (by rw [hc]; decide)]

/-- No value starts with a space, so skipping spaces leaves it as it is. -/
theorem skipSpaces_writeChars (v : Json) (rest : List Char) :
    skipSpaces (v.writeChars ++ rest) = v.writeChars ++ rest := by
  obtain ⟨c, cs, hcs, hspace, -⟩ := writeChars_eq_cons v
  rw [hcs, List.cons_append, skipSpaces_cons hspace]

/-- Every value takes at least one character, which is what a step of the reader is paid with. -/
theorem length_writeChars_pos (v : Json) : 0 < v.writeChars.length := by
  obtain ⟨c, cs, hcs, -⟩ := writeChars_eq_cons v
  rw [hcs]
  exact Nat.succ_pos _

/-- A value that starts with none of the characters that open one is a scalar. -/
theorem readValue_scalar {steps : Nat} {text rest : List Char}
    (h : ∃ c cs, text = c :: cs ∧ OpensScalar c) :
    readValue (steps + 1) (text ++ rest) = readScalar (text ++ rest) := by
  obtain ⟨c, cs, rfl, -, hquote, hbracket, -, hbrace⟩ := h
  rw [List.cons_append, readValue, if_neg hquote, if_neg hbracket, if_neg hbrace]

/-! ## What can be read in so many steps

  One statement for each of the three readers, and for each a law that takes it one step
  further.  All three are then had by one induction on the steps (`reads`), and a text has more
  characters than it needs steps. -/

/-- Every value is read whose text has at most so many characters. -/
def ReadsValue (steps : Nat) : Prop :=
  ∀ (v : Json) (rest : List Char), v.IsWritable → Ends rest → v.writeChars.length ≤ steps →
    readValue steps (v.writeChars ++ rest) = .ok (v.reread, rest)

/-- The same of items, from the first one on. -/
def ReadsItems (steps : Nat) : Prop :=
  ∀ (v : Json) (vs : List Json) (rest : List Char), v.IsWritable → AreWritable vs →
    v.writeChars.length + (writeItems vs).length ≤ steps →
    readItems steps (v.writeChars ++ (writeItems vs ++ rest)) = .ok (rereadItems (v :: vs), rest)

/-- The same of fields. -/
def ReadsPairs (steps : Nat) : Prop :=
  ∀ (k : String) (v : Json) (fs : Fields) (rest : List Char), v.IsWritable → HaveWritable fs →
    v.writeChars.length + (writeFields fs).length ≤ steps →
    readPairs steps (writeString k ++ ':' :: ' ' :: (v.writeChars ++ (writeFields fs ++ rest))) =
      .ok (rereadFields ((k, v) :: fs), rest)

/-- A value is read with one more step than its parts need.  A scalar needs none; a list and an
    object spend theirs on the bracket. -/
theorem readsValue_succ {steps : Nat} (hitems : ReadsItems steps) (hpairs : ReadsPairs steps) :
    ReadsValue (steps + 1) := by
  intro v rest hv hrest hsteps
  cases v with
  | null => rfl
  | bool b => cases b <;> rfl
  | int n =>
    rw [IsWritable] at hv
    rw [writeChars, readValue_scalar (intDigits_eq_cons n), readScalar_intDigits hv hrest, reread]
  | real x =>
    rw [writeChars, readValue_scalar (writeReal_eq_cons x), readScalar_writeReal x hrest, reread]
  | str s =>
    simp only [writeChars, writeString, List.cons_append, List.append_assoc, List.nil_append]
    rw [readValue, if_pos rfl, readString_writeString]
    rfl
  | arr items =>
    cases items with
    | nil => rfl
    | cons v vs =>
      -- the bracket costs one step, so the items have enough of them left
      rw [IsWritable, AreWritable] at hv
      simp only [writeChars, List.length_cons, List.length_append] at hsteps
      have hread := hitems v vs rest hv.1 hv.2 (by omega)
      obtain ⟨c, cs, hcs, hspace, hbracket⟩ := writeChars_eq_cons v
      rw [hcs, List.cons_append] at hread
      rw [writeChars, hcs, List.cons_append, List.append_assoc, List.cons_append, readValue,
        if_neg (by decide), if_pos rfl, skipSpaces_cons hspace]
      split
      · -- a value does not start with the bracket that would end the array at once
        rename_i hhead
        exact absurd (List.cons.inj hhead).1 hbracket
      · rw [hread]
        rfl
  | obj fields =>
    cases fields with
    | nil => rfl
    | cons f fs =>
      obtain ⟨k, v⟩ := f
      rw [IsWritable, HaveWritable] at hv
      simp only [writeChars, writeString, List.length_cons, List.length_append] at hsteps
      have hread := hpairs k v fs rest hv.2.1 hv.2.2 (by omega)
      simp only [writeString, List.cons_append, List.append_assoc, List.nil_append] at hread
      simp only [writeChars, writeString, List.cons_append, List.append_assoc, List.nil_append]
      rw [readValue, if_neg (by decide), if_neg (by decide), if_pos rfl,
        skipSpaces_cons (by decide)]
      show Except.map _ (readPairs steps _) = _
      rw [hread]
      show Except.ok (Json.obj (Fields.ofPairs (rereadFields ((k, v) :: fs))), rest) = _
      rw [ofPairs_of_nodup (by rw [keys_rereadFields]; exact hv.1), reread]

/-- Entries are read one by one: the value and a comma, or the bracket that ends them. -/
theorem readsItems_succ {steps : Nat} (hvalue : ReadsValue steps) (hitems : ReadsItems steps) :
    ReadsItems (steps + 1) := by
  intro v vs rest hv hvs hsteps
  cases vs with
  | nil =>
    simp only [writeItems, List.length_cons, List.length_nil] at hsteps
    rw [readItems, writeItems, List.cons_append, List.nil_append,
      hvalue v _ hv (.bracket rest) (by omega)]
    rfl
  | cons w ws =>
    rw [AreWritable] at hvs
    simp only [writeItems, List.length_cons, List.length_append] at hsteps
    have hread := hitems w ws rest hvs.1 hvs.2 (by omega)
    simp only [writeItems, List.cons_append, List.append_assoc]
    rw [readItems, hvalue v _ hv (.comma _) (by omega)]
    -- a blank stands between the comma and the next entry
    show (readItems steps (skipSpaces (' ' :: (w.writeChars ++ (writeItems ws ++ rest)))) >>=
      fun items => .ok (v.reread :: items.1, items.2)) = _
    rw [skipSpaces, List.dropWhile_cons_of_pos (by decide), ← skipSpaces, skipSpaces_writeChars w,
      hread]
    rfl

/-- Fields are read one by one: the key, a colon, and the value. -/
theorem readsPairs_succ {steps : Nat} (hvalue : ReadsValue steps) (hpairs : ReadsPairs steps) :
    ReadsPairs (steps + 1) := by
  intro k v fs rest hv hfs hsteps
  have hkey : ∀ start more : List Char,
      readString start (k.toList.flatMap writeChar ++ '"' :: more) = .ok (k, more) :=
    fun start more => readString_writeString start k more
  -- after the key there is a colon and a space, and then the value
  have hblank : ∀ more, skipSpaces (' ' :: (v.writeChars ++ more)) = v.writeChars ++ more := by
    intro more
    rw [skipSpaces, List.dropWhile_cons_of_pos (by decide), ← skipSpaces, skipSpaces_writeChars v]
  have hcolon : ∀ more, skipSpaces (':' :: more) = ':' :: more := fun more =>
    skipSpaces_cons (by decide)
  cases fs with
  | nil =>
    simp only [writeFields, List.length_cons, List.length_nil] at hsteps
    have hread := hvalue v _ hv (.brace rest) (by omega)
    simp only [writeString, writeFields, List.cons_append, List.append_assoc, List.nil_append,
      readPairs, expect, ↓reduceIte, bind, Except.bind, hkey, hcolon, hblank, hread,
      skipSpaces_cons (by decide : isSpace '\x7d' = false)]
    rfl
  | cons f fs =>
    obtain ⟨l, w⟩ := f
    rw [HaveWritable] at hfs
    simp only [writeFields, List.length_cons, List.length_append] at hsteps
    have hmore := hpairs l w fs rest hfs.1 hfs.2 (by omega)
    simp only [writeString, List.cons_append, List.append_assoc, List.nil_append] at hmore
    have hnext : ∀ more, skipSpaces (' ' :: '"' :: more) = '"' :: more := fun more => rfl
    simp only [writeString, writeFields, List.cons_append, List.append_assoc, List.nil_append,
      readPairs, expect, ↓reduceIte, bind, Except.bind, hkey, hcolon, hblank]
    rw [hvalue v _ hv (.comma _) (by omega)]
    simp only [skipSpaces_cons (by decide : isSpace ',' = false)]
    split
    · rename_i hhead
      exact absurd (List.cons.inj hhead).1 (by decide)
    · simp only [↓reduceIte, hnext, hmore]
      rfl

/-- **The readers read what is written**, in as many steps as the text has characters. -/
theorem reads (steps : Nat) : ReadsValue steps ∧ ReadsItems steps ∧ ReadsPairs steps := by
  induction steps with
  | zero =>
    -- the text of a value is not empty, so there is nothing to be read in no steps
    refine ⟨?_, ?_, ?_⟩
    · intro v rest _ _ hsteps
      exact absurd (length_writeChars_pos v) (by omega)
    · intro v vs rest _ _ hsteps
      exact absurd (length_writeChars_pos v) (by omega)
    · intro k v fs rest _ _ hsteps
      exact absurd (length_writeChars_pos v) (by omega)
  | succ steps ih =>
    obtain ⟨hvalue, hitems, hpairs⟩ := ih
    exact ⟨readsValue_succ hitems hpairs, readsItems_succ hvalue hitems,
      readsPairs_succ hvalue hpairs⟩

/-- **A value is read from its text.** -/
theorem read_writeChars_eq {v : Json} (h : v.IsWritable) : read v.writeChars = .ok v.reread := by
  have hread := (reads (2 * v.writeChars.length + 2)).1 v [] h .nil (by omega)
  have hspaces := skipSpaces_writeChars v []
  rw [List.append_nil] at hread hspaces
  unfold read readWhole
  rw [hspaces, hread]
  rfl

/-- **An exact value is read as itself.** -/
theorem read_writeChars {v : Json} (h : v.IsExact) : read v.writeChars = .ok v := by
  obtain ⟨hwritable, heq⟩ := h.reread_eq
  rw [read_writeChars_eq hwritable, heq]

end LogDrain.Json
