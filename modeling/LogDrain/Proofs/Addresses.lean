/-
  ADDRESSES: where the requests of a run go, and what an address tells.

  Everything that is asked of the GraphQL API goes to one address.  Everything that is asked of the
  Machines API goes to its base, followed by segments between slashes: the app, the word `machines`,
  and for a single machine its id and what is done with it.

  Names and ids come from outside and may hold anything.  Three steps keep them in their segments:

    1. **one byte** (`encodeByte_cases`): it is written as a character that stands for itself, or as
       an escape of two digits, and `unescape` has it back whatever follows;
    2. **one segment** (`represents_encode`): it holds no slash, and it is decoded to the text it
       was made of;
    3. **the row of segments** (`splitOn_tail`): since no segment holds a slash, splitting at the
       slashes gives the segments back.

  So an address and a method tell the call that they were made for (`Addressed.tells`).
-/
import LogDrain.Proofs.Characters
import LogDrain.Proofs.Sequence
import LogDrain.Remote.Request

namespace LogDrain

/-! ## Segments -/

namespace Text.Percent

/-- The character stands for itself in a segment. -/
def IsPlain (c : Char) : Prop := c.isAlphanum = true ∨ c ∈ ['_', '.', '-', '~']

instance (c : Char) : Decidable (IsPlain c) :=
  inferInstanceAs (Decidable (c.isAlphanum = true ∨ c ∈ ['_', '.', '-', '~']))

/-- The digits of escapes. -/
def escapeDigits : List Char := "0123456789ABCDEF".toList

/-- Characters that stand for themselves, and escapes of two digits. -/
inductive Escaped : List Char → Prop
  | nil : Escaped []
  | plain {c cs} : IsPlain c → Escaped cs → Escaped (c :: cs)
  | escape {high low cs} : high ∈ escapeDigits → low ∈ escapeDigits → Escaped cs →
      Escaped ('%' :: high :: low :: cs)

/-- The bytes that the characters stand for: an escape stands for one byte, and any other character
    for the bytes of its own. -/
def unescape : List Char → List UInt8
  | '%' :: high :: low :: cs =>
    match Hex.value? high, Hex.value? low with
    | some h, some l => UInt8.ofNat (h * 16 + l) :: unescape cs
    | _, _ => Utf8.encodeChar '%' ++ unescape (high :: low :: cs)
  | c :: cs => Utf8.encodeChar c ++ unescape cs
  | [] => []

/-- The text that a segment stands for, if its bytes are one. -/
def decode? (segment : List Char) : Option (List Char) := Utf8.decode? (unescape segment)

/-- The segment stands for the text: nothing in it could end a segment or a path, and decoded it is
    the text. -/
structure Represents (segment : List Char) (text : String) : Prop where
  escaped : Escaped segment
  apart : ∀ c ∈ ['/', '?', '#', ' '], c ∉ segment
  decoded : decode? segment = some text.toList

/-! ## One byte

  An escape is three characters, and the two digits are those of the byte.  Both directions are
  shown together, for it is the reading that matters: a byte is had back whatever follows. -/

/-- **A byte is written as a character that stands for itself, or as an escape.** -/
theorem encodeByte_cases (b : UInt8) :
    (∃ c, encodeByte b = [c] ∧ IsPlain c ∧ c ≠ '%' ∧ Utf8.encodeChar c = [b]) ∨
    ∃ high low, encodeByte b = ['%', high, low] ∧ high ∈ escapeDigits ∧ low ∈ escapeDigits ∧
      Hex.value? high = some (b.toNat / 16) ∧ Hex.value? low = some (b.toNat % 16) := by
  have hbyte : b.toNat < 256 := b.toNat_lt
  unfold encodeByte
  split
  · rename_i hplain
    have key : ∀ n : Fin 256, isUnreserved (UInt8.ofNat n) = true →
        IsPlain (Char.ofNat n) ∧ Char.ofNat n ≠ '%' ∧
          Utf8.encodeChar (Char.ofNat n) = [UInt8.ofNat n] := by decide +kernel
    have hb := key ⟨b.toNat, hbyte⟩
    rw [UInt8.ofNat_toNat] at hb
    exact Or.inl ⟨_, rfl, hb hplain⟩
  · have hdigit : ∀ n : Fin 16, Hex.upperDigit n ∈ escapeDigits := by decide
    have hhigh : b.toNat / 16 % 16 = b.toNat / 16 := by omega
    refine Or.inr ⟨Hex.upperDigit (b.toNat / 16 % 16), Hex.upperDigit (b.toNat % 16), rfl, ?_, ?_,
      ?_, ?_⟩
    · exact hdigit ⟨_, Nat.mod_lt _ (by decide)⟩
    · exact hdigit ⟨_, Nat.mod_lt _ (by decide)⟩
    · have hread := Hex.value?_upperDigit ⟨b.toNat / 16 % 16, Nat.mod_lt _ (by decide)⟩
      exact hread.trans (congrArg some hhigh)
    · exact Hex.value?_upperDigit ⟨_, Nat.mod_lt _ (by decide)⟩

/-- A character that opens no escape stands for its own bytes. -/
theorem unescape_cons {c : Char} (hc : c ≠ '%') (cs : List Char) :
    unescape (c :: cs) = Utf8.encodeChar c ++ unescape cs := by
  rw [unescape]
  intro high low rest hpercent
  exact absurd hpercent hc

/-- **A byte is read back**, whatever follows it. -/
theorem unescape_encodeByte (b : UInt8) (cs : List Char) :
    unescape (encodeByte b ++ cs) = b :: unescape cs := by
  rcases encodeByte_cases b with ⟨c, hbyte, -, hc, hown⟩ | ⟨high, low, hbyte, -, -, hhigh, hlow⟩
  · rw [hbyte, List.cons_append, List.nil_append, unescape_cons hc, hown]
    rfl
  · have hsum : b.toNat / 16 * 16 + b.toNat % 16 = b.toNat := by omega
    rw [hbyte]
    simp only [List.cons_append, List.nil_append, unescape, hhigh, hlow, hsum, UInt8.ofNat_toNat]

/-! ## One segment

  By induction on the bytes: kept characters stand for themselves, all others are escaped, and no
  slash is kept. -/

theorem escaped_flatMap (bytes : List UInt8) : Escaped (bytes.flatMap encodeByte) := by
  induction bytes with
  | nil => exact .nil
  | cons b bytes ih =>
    rw [List.flatMap_cons]
    rcases encodeByte_cases b with ⟨c, hbyte, hc, -⟩ | ⟨high, low, hbyte, hhigh, hlow, -⟩
    · rw [hbyte]
      exact .plain hc ih
    · rw [hbyte]
      exact .escape hhigh hlow ih

theorem unescape_flatMap (bytes : List UInt8) : unescape (bytes.flatMap encodeByte) = bytes := by
  induction bytes with
  | nil => rfl
  | cons b bytes ih => rw [List.flatMap_cons, unescape_encodeByte, ih]

/-- A character that neither stands for itself nor belongs to an escape is not there. -/
theorem Escaped.notMem {c : Char} (hplain : ¬ IsPlain c) (hescape : c ∉ '%' :: escapeDigits)
    {segment : List Char} (h : Escaped segment) : c ∉ segment := by
  rw [List.mem_cons, not_or] at hescape
  induction h with
  | nil => exact List.not_mem_nil
  | plain hown _ ih =>
    rw [List.mem_cons, not_or]
    refine ⟨?_, ih⟩
    rintro rfl
    exact hplain hown
  | escape hhigh hlow _ ih =>
    simp only [List.mem_cons, not_or]
    refine ⟨hescape.1, ?_, ?_, ih⟩
    · rintro rfl
      exact hescape.2 hhigh
    · rintro rfl
      exact hescape.2 hlow

/-- **A text stands in its segment**, whatever its characters are. -/
theorem represents_encode (text : String) : Represents (encode text).toList text := by
  have hchars : (encode text).toList = (Utf8.encode text.toList).flatMap encodeByte :=
    String.toList_ofList
  have hescaped : Escaped (encode text).toList := by
    rw [hchars]
    exact escaped_flatMap _
  have hoff : ∀ c ∈ ['/', '?', '#', ' '], ¬ IsPlain c ∧ c ∉ '%' :: escapeDigits := by
    intro c hc
    simp only [List.mem_cons, List.not_mem_nil, or_false] at hc
    rcases hc with rfl | rfl | rfl | rfl <;> decide
  refine ⟨hescaped, ?_, ?_⟩
  · intro c hc
    exact hescaped.notMem (hoff c hc).1 (hoff c hc).2
  · rw [decode?, hchars, unescape_flatMap, Utf8.decode?_encode]

/-- A segment stands for one text only. -/
theorem Represents.unique {segment : List Char} {text other : String} (h : Represents segment text)
    (hother : Represents segment other) : text = other := by
  have hsame : some text.toList = some other.toList := h.decoded.symm.trans hother.decoded
  exact String.toList_inj.mp (Option.some.inj hsame)

example : decode? "a%2Fb%20c%3F%C3%A9".toList = some "a/b c?é".toList := by decide +kernel
example : decode? "%zz%C3".toList = none := by decide +kernel

end Text.Percent

/-! ## Rows of segments

  A row is joined by slashes and split at slashes.  Splitting gives back what was joined exactly
  because no segment holds a slash. -/

open Text.Percent (Represents represents_encode)

namespace MachineCall

/-- The single machine that the call is about, and what is done with it. -/
def single? : MachineCall → Option (String × String)
  | .list | .launch _ => none
  | .restart id => some (id, "restart")
  | .wait id _ _ => some (id, "wait")

/-- The segments of the call below all apps. -/
def segments (app : String) (call : MachineCall) : List (List Char) :=
  (Text.Percent.encode app).toList :: "machines".toList ::
    match call.single? with
    | none => []
    | some (id, verb) => [(Text.Percent.encode id).toList, verb.toList]

/-- What the address of the call has below all apps. -/
def tail (app : String) (call : MachineCall) : List Char :=
  (Text.Percent.encode app).toList ++ call.path.toList

/-- The segments stand between slashes. -/
theorem tail_eq_intercalate (app : String) (call : MachineCall) :
    call.tail app = ['/'].intercalate (call.segments app) := by
  cases call <;>
    simp [tail, segments, single?, path, String.toList_append, List.intercalate, List.intersperse]

/-- **Splitting at the slashes gives the segments.** -/
theorem splitOn_tail (app : String) (call : MachineCall) :
    (call.tail app).splitOn '/' = call.segments app := by
  have hslash : ∀ text, '/' ∉ (Text.Percent.encode text).toList := fun text =>
    (represents_encode text).apart '/' (by decide)
  rw [tail_eq_intercalate]
  refine List.splitOn_intercalate '/' ?_ (List.cons_ne_nil _ _)
  cases call <;> simp [segments, single?, hslash]

/-- The call's kind is told by its method and by what is done with a single machine. -/
theorem kind_eq {app app' : String} {call other : MachineCall}
    (hmethod : call.method = other.method) (hsingle : call.single? = other.single?) :
    (Call.machines app call).kind = (Call.machines app' other).kind := by
  cases call <;> cases other <;> simp_all [method, single?, Call.kind]

end MachineCall

/-! ## Addresses

  An address is a base, and segments behind it.  Two calls with one address have the same
  segments, and these determine the app, the machine and what is done with it. -/

/-- Where the request of a call goes: to the one address of the GraphQL API; or to the machines of
    its app, or one machine of it, below the base of the Machines API. -/
inductive Call.GoesTo (settings : Settings) : Call → String → Prop
  | graphql {q} : GoesTo settings (.query q) (settings.apiBase ++ "/graphql")
  | machines {app call tail name} : call.single? = none →
      tail.splitOn '/' = [name, "machines".toList] → Represents name app →
      GoesTo settings (.machines app call)
        (settings.machinesBase ++ "/v1/apps/" ++ String.ofList tail)
  | machine {app call tail name machineId id verb} : call.single? = some (machineId, verb) →
      (verb = "restart" ∨ verb = "wait") →
      tail.splitOn '/' = [name, "machines".toList, id, verb.toList] → Represents name app →
      Represents id machineId →
      GoesTo settings (.machines app call)
        (settings.machinesBase ++ "/v1/apps/" ++ String.ofList tail)

theorem Settings.machinesUrl_eq (settings : Settings) (app : String) (call : MachineCall) :
    settings.machinesUrl app call =
      settings.machinesBase ++ "/v1/apps/" ++ String.ofList (call.tail app) := by
  rw [machinesUrl, MachineCall.tail, String.ofList_append, String.ofList_toList,
    String.ofList_toList, String.append_assoc]

/-- **Every request goes where its call belongs.** -/
theorem Call.goesTo_request (settings : Settings) (call : Call) :
    call.GoesTo settings (call.request settings).url := by
  cases call with
  | query q => exact .graphql
  | machines app call =>
    have hsplit := call.splitOn_tail app
    show GoesTo settings _ (settings.machinesUrl app call)
    rw [settings.machinesUrl_eq]
    cases call with
    | list => exact .machines rfl hsplit (represents_encode app)
    | launch => exact .machines rfl hsplit (represents_encode app)
    | restart id =>
      exact .machine rfl (Or.inl rfl) hsplit (represents_encode app) (represents_encode id)
    | wait id =>
      exact .machine rfl (Or.inr rfl) hsplit (represents_encode app) (represents_encode id)

/-- The same address below the same base has the same segments. -/
theorem MachineCall.segments_eq {settings other : Settings} {app app' : String}
    {call call' : MachineCall} (hbase : settings.machinesBase = other.machinesBase)
    (hurl : settings.machinesUrl app call = other.machinesUrl app' call') :
    call.segments app = call'.segments app' := by
  rw [settings.machinesUrl_eq, other.machinesUrl_eq, hbase, String.append_right_inj,
    String.ofList_inj] at hurl
  rw [← splitOn_tail, ← splitOn_tail, hurl]

/-- Segments tell the app, the single machine and what is done with it. -/
theorem MachineCall.eq_of_segments_eq {app app' : String} {call call' : MachineCall}
    (h : call.segments app = call'.segments app') : app = app' ∧ call.single? = call'.single? := by
  have htext : ∀ {text other : String},
      (Text.Percent.encode text).toList = (Text.Percent.encode other).toList → text = other := by
    intro text other hsame
    have hother := represents_encode other
    rw [← hsame] at hother
    exact (represents_encode text).unique hother
  unfold segments at h
  rw [List.cons.injEq, List.cons.injEq] at h
  obtain ⟨happ, -, hrest⟩ := h
  refine ⟨htext happ, ?_⟩
  -- a machine has two more segments, so either both calls are about one or none is
  rcases hcall : call.single? with _ | ⟨id, verb⟩ <;>
    rcases hother : call'.single? with _ | ⟨id', verb'⟩
  · rfl
  · simp [hcall, hother] at hrest
  · simp [hcall, hother] at hrest
  · simp only [hcall, hother, List.cons.injEq, and_true] at hrest
    rw [htext hrest.1, String.toList_inj.mp hrest.2]

/-- Where the requests of these calls go, and what a request to the Machines API tells: below one
    base, its method and its address tell what is done, to which app, and with which machine. -/
structure Addressed (settings : Settings) (calls : List Call) : Prop where
  goes : ∀ call ∈ calls, call.GoesTo settings (call.request settings).url
  tells : ∀ (other : Settings) (app app' : String) (call call' : MachineCall),
    settings.machinesBase = other.machinesBase →
    ((Call.machines app call).request settings).method =
      ((Call.machines app' call').request other).method →
    ((Call.machines app call).request settings).url =
      ((Call.machines app' call').request other).url →
    (Call.machines app call).kind = (Call.machines app' call').kind ∧ app = app' ∧
      call.single? = call'.single?

/-- **Every request of every run goes to the resource that it is about**, and nothing that stands in
    a name or an id changes that. -/
theorem run_addressed {σ α : Type} (settings : Settings) (respond : σ → Call → Reply × σ)
    (p : Procedure α) (s : σ) : Addressed settings (p.run respond s).calls where
  goes call _ := call.goesTo_request settings
  tells other app app' call call' hbase hmethod hurl := by
    have hsegments := MachineCall.segments_eq hbase hurl
    obtain ⟨happ, hsingle⟩ := MachineCall.eq_of_segments_eq hsegments
    exact ⟨MachineCall.kind_eq hmethod hsingle, happ, hsingle⟩

end LogDrain
