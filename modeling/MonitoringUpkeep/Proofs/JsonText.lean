import Mathlib.Data.List.Forall2
import Mathlib.Tactic.SplitIfs
import MonitoringUpkeep.Json.Reader
import MonitoringUpkeep.Json.Writer

/-!
# Written JSON text reads back

A text is written character by character, each as one escape or as two, and each of these is read back
before the next one. An integer is written with its digits, and read up to the first character that
belongs to no number. An object is written member by member, and read back as a whole if no name stands
in it twice. All that is written of texts and integers is printable ASCII.
-/

namespace MonitoringUpkeep.Json

/-! ## Texts -/

theorem hexValue?_hexDigit (n : Nat) : Text.hexValue? (Text.hexDigit n) = some (n % 16) := by
  have digits : ∀ d < 16, Text.hexValue? (Nat.digitChar d) = some d := by decide
  exact digits _ (Nat.mod_lt _ (by decide))

theorem hex_four (n : Nat) : Text.hex 4 n =
    [Text.hexDigit (n / 16 / 16 / 16), Text.hexDigit (n / 16 / 16), Text.hexDigit (n / 16),
      Text.hexDigit n] := rfl

theorem unit?_hex {n : Nat} (small : n < 0x10000) :
    unit? (Text.hexDigit (n / 16 / 16 / 16)) (Text.hexDigit (n / 16 / 16)) (Text.hexDigit (n / 16))
      (Text.hexDigit n) = some n := by
  have whole : ((n / 16 / 16 / 16 % 16 * 16 + n / 16 / 16 % 16) * 16 + n / 16 % 16) * 16 + n % 16 = n := by
    omega
  simp only [unit?, hexValue?_hexDigit, Option.bind_eq_bind, Option.bind_some, whole]
  rfl

theorem readUnits_escapedUnit {n : Nat} (small : n < 0x10000) (rest : List Char) :
    readUnits (escapedUnit n ++ rest) = (readUnits rest).map fun r => (n :: r.1, r.2) := by
  simp only [escapedUnit, hex_four, List.cons_append, List.nil_append, readUnits, unit?_hex small,
    Option.bind_eq_bind, Option.bind_some]
  cases readUnits rest <;> rfl

/-- A character that is not escaped reads as itself. -/
theorem readUnits_cons {c : Char} (quote : c ≠ '"') (slash : c ≠ '\\') (shown : 0x20 ≤ c.toNat)
    (rest : List Char) :
    readUnits (c :: rest) = (readUnits rest).map fun r => (c.toNat :: r.1, r.2) := by
  have plain : ¬ (c.toNat < 0x20 ∨ c = '\\') := by
    rintro (low | same)
    · omega
    · exact slash same
  rw [readUnits, if_neg plain]
  · cases readUnits rest <;> rfl
  · exact quote
  · exact fun _ _ _ _ _ same _ => slash same
  · exact fun _ _ same _ => slash same

theorem readUnits_short {c d : Char} (known : shortEscape? c = some d) (rest : List Char) :
    readUnits ('\\' :: c :: rest) = (readUnits rest).map fun r => (d.toNat :: r.1, r.2) := by
  rw [readUnits]
  · simp only [known, Option.bind_eq_bind, Option.bind_some]
    cases readUnits rest <;> rfl
  · rintro _ _ _ _ _ rfl -
    cases known

/-- The units that stand for a character. -/
def units (n : Nat) : List Nat := if n < 0x10000 then [n] else [(surrogates n).1, (surrogates n).2]

theorem toNat_lt (c : Char) : c.toNat < 0x110000 := by
  rcases c.valid with low | ⟨-, high⟩
  · exact Nat.lt_trans low (by decide)
  · exact high

/-- The escape of a character is read as its units. -/
theorem readUnits_escapedCode (c : Char) (rest : List Char) :
    readUnits (escapedCode c.toNat ++ rest) =
      (readUnits rest).map fun r => (units c.toNat ++ r.1, r.2) := by
  have short {d e : Char} (known : shortEscape? d = some e) (code : c.toNat = e.toNat) :
      readUnits (['\\', d] ++ rest) = (readUnits rest).map fun r => ([c.toNat] ++ r.1, r.2) := by
    rw [code]
    exact readUnits_short known rest
  have scalar := toNat_lt c
  by_cases small : c.toNat < 0x10000
  · rw [units, if_pos small]
    unfold escapedCode
    split_ifs with quoted shown newline return_ tab backspace feed
    · rw [Char.ofNat_toNat]
      refine short ?_ rfl
      rcases quoted with code | code
      · rw [Char.toNat_inj.mp (code.trans (show 0x22 = '"'.toNat from rfl))]
        rfl
      · rw [Char.toNat_inj.mp (code.trans (show 0x5c = '\\'.toNat from rfl))]
        rfl
    · rw [Char.ofNat_toNat]
      refine readUnits_cons ?_ ?_ shown.1 rest
      · rintro rfl
        exact quoted (.inl rfl)
      · rintro rfl
        exact quoted (.inr rfl)
    · exact short (d := 'n') rfl newline
    · exact short (d := 'r') rfl return_
    · exact short (d := 't') rfl tab
    · exact short (d := 'b') rfl backspace
    · exact short (d := 'f') rfl feed
    · exact readUnits_escapedUnit small rest
  · have escaped : escapedCode c.toNat =
        escapedUnit (surrogates c.toNat).1 ++ escapedUnit (surrogates c.toNat).2 := by
      unfold escapedCode
      split_ifs <;> first | rfl | omega
    have high : (surrogates c.toNat).1 < 0x10000 := by
      simp only [surrogates]
      omega
    have low : (surrogates c.toNat).2 < 0x10000 := by
      simp only [surrogates]
      omega
    rw [escaped, List.append_assoc, readUnits_escapedUnit high, readUnits_escapedUnit low, units,
      if_neg small]
    cases readUnits rest <;> rfl

theorem isHigh_iff (n : Nat) : isHigh n = true ↔ 0xd800 ≤ n ∧ n < 0xdc00 := by simp [isHigh]

theorem isLow_iff (n : Nat) : isLow n = true ↔ 0xdc00 ≤ n ∧ n < 0xe000 := by simp [isLow]

/-- The units of a character are joined to that character again. -/
theorem joinUnits_units (c : Char) (ns : List Nat) :
    joinUnits (units c.toNat ++ ns) = (joinUnits ns).map (c :: ·) := by
  have scalar := toNat_lt c
  by_cases small : c.toNat < 0x10000
  · have apart : ¬ isHigh c.toNat = true ∧ ¬ isLow c.toNat = true := by
      rw [isHigh_iff, isLow_iff]
      rcases c.valid with low | ⟨high, -⟩
      · have : c.toNat < 0xd800 := low
        omega
      · have : 0xdfff < c.toNat := high
        omega
    rw [units, if_pos small]
    cases ns with
    | nil => simp [joinUnits, apart, Char.ofNat_toNat]
    | cons n ns => simp [joinUnits, apart, Char.ofNat_toNat]
  · have high : isHigh (surrogates c.toNat).1 = true := by
      rw [isHigh_iff]
      simp only [surrogates]
      omega
    have low : isLow (surrogates c.toNat).2 = true := by
      rw [isLow_iff]
      simp only [surrogates]
      omega
    have whole : 0x10000 + ((surrogates c.toNat).1 - 0xd800) * 0x400 +
        ((surrogates c.toNat).2 - 0xdc00) = c.toNat := by
      simp only [surrogates]
      omega
    rw [units, if_neg small]
    simp only [List.cons_append, List.nil_append, joinUnits, high, low, if_true, whole,
      Char.ofNat_toNat]

/-- A text that is written reads back, whatever follows. -/
theorem readText_escaped (cs rest : List Char) :
    readText (cs.flatMap (fun c => escapedCode (Symbol.code c)) ++ '"' :: rest) = some (cs, rest) := by
  have unitsRead : readUnits (cs.flatMap (fun c => escapedCode c.toNat) ++ '"' :: rest) =
      some (cs.flatMap (fun c => units c.toNat), rest) := by
    induction cs with
    | nil => rfl
    | cons c cs ih =>
      rw [List.flatMap_cons, List.append_assoc, readUnits_escapedCode, ih]
      rfl
  have joined : joinUnits (cs.flatMap (fun c => units c.toNat)) = some cs := by
    clear unitsRead
    induction cs with
    | nil => rfl
    | cons c cs ih =>
      rw [List.flatMap_cons, joinUnits_units, ih]
      rfl
  unfold readText
  rw [show (fun c : Char => escapedCode (Symbol.code c)) = fun c => escapedCode c.toNat from rfl, unitsRead]
  simp [joined]

/-! ## Values -/

/-- What ends a number: nothing more, or a character that stands between members or behind them. -/
def Delimits (rest : List Char) : Prop := ∀ c ∈ rest.head?, c = ',' ∨ c = '\x7d'

/-- A text from which a value is read, whatever ends it. -/
def Reads (text : List Char) (v : Value) : Prop :=
  ∀ depth rest, Delimits rest → readValue (depth + 1) (text ++ rest) = some (v, rest)

theorem reads_text (s : String) : Reads (writeText s) (.str s) := by
  intro depth rest _
  have parts : writeText s ++ rest =
      '"' :: (s.toList.flatMap (fun c => escapedCode (Symbol.code c)) ++ '"' :: rest) := by
    simp [writeText, writeSymbols]
  rw [parts, readValue]
  simp only [skipBlanks, Char.reduceEq, or_self, if_false, readText_escaped, Option.bind_eq_bind,
    Option.bind_some, String.ofList_toList]
  rfl

theorem head_toDigits {n : Nat} (zero : (Nat.toDigits 10 n).head? = some '0') : n = 0 := by
  induction n using Nat.strongRecOn with
  | ind n ih =>
    rw [Nat.toDigits_eq_if (by decide)] at zero
    split at zero
    · rename_i small
      have digits : ∀ d < 10, Nat.digitChar d = '0' → d = 0 := by decide
      exact digits n small (by simpa using zero)
    · rename_i large
      obtain ⟨d, ds, parts⟩ := List.exists_cons_of_ne_nil (Nat.toDigits_ne_nil (n := n / 10) (b := 10))
      have none := ih (n / 10) (by omega) (by rw [parts] at zero ⊢; exact zero)
      omega

theorem isDigit_of_mem {n : Nat} {c : Char} (member : c ∈ Nat.toDigits 10 n) : c.isDigit = true :=
  Nat.isDigit_of_mem_toDigits (by decide) (by decide) member

/-- The digits of a number read as the number. -/
theorem readMagnitude_toDigits (negative : Bool) (n : Nat) {rest : List Char} (ends : Delimits rest) :
    readMagnitude negative (Nat.toDigits 10 n ++ rest) =
      some (.int (if negative then -(n : Int) else n), rest) := by
  have apart : ∀ c ∈ rest.head?, c.isDigit = false ∧ c ≠ '.' ∧ c ≠ 'e' ∧ c ≠ 'E' := by
    intro c head
    rcases ends c head with rfl | rfl <;> decide
  have span : spanDigits (Nat.toDigits 10 n ++ rest) = (Nat.toDigits 10 n, rest) := by
    rw [spanDigits, List.takeWhile_append_of_pos fun _ => isDigit_of_mem,
      List.dropWhile_append_of_pos fun _ => isDigit_of_mem]
    cases rest with
    | nil => simp
    | cons c rest => simp [(apart c rfl).1]
  have plain : ¬ ((Nat.toDigits 10 n).isEmpty ||
      ((Nat.toDigits 10 n).length > 1 && (Nat.toDigits 10 n).head? == some '0')) = true := by
    simp only [Bool.or_eq_true, List.isEmpty_iff, Bool.and_eq_true, decide_eq_true_eq, beq_iff_eq]
    rintro (none | ⟨many, zero⟩)
    · exact Nat.toDigits_ne_nil none
    · rw [head_toDigits zero, Nat.toDigits_zero] at many
      simp at many
  have fraction : readFraction rest = some ([], rest) := by
    unfold readFraction
    split
    · exact absurd rfl (apart _ rfl).2.1
    · rfl
  have exponent : readExponent rest = some (none, rest) := by
    cases rest with
    | nil => rfl
    | cons c rest => simp [readExponent, apart c rfl]
  have value : natOf (Nat.toDigits 10 n) = n := Nat.ofDigitChars_ten_toDigits
  simp only [readMagnitude, span, if_neg plain, fraction, exponent, Option.bind_eq_bind, Option.bind_some]
  simp [numberOf, value]

/-- The characters, other than digits, on which the reader decides what is to come. -/
def markers : List Char :=
  [' ', '\n', '\r', '\t', 'n', 't', 'f', '"', '[', '\x7b', '-', 'I', 'N']

/-- What begins with a digit is a number. -/
theorem readValue_of_isDigit {c : Char} (digit : c.isDigit = true) (depth : Nat) (rest : List Char) :
    readValue (depth + 1) (c :: rest) = readMagnitude false (c :: rest) := by
  have apart : ∀ d ∈ markers, c ≠ d := by
    rintro d known rfl
    have letters : (markers.all fun d => !d.isDigit) = true := by decide
    have other := List.all_eq_true.mp letters c known
    simp [digit] at other
  have other {d : Char} {ds : List Char} (known : d ∈ markers) : c :: rest ≠ d :: ds :=
    fun same => apart d known (List.cons_eq_cons.mp same).1
  have kept : skipBlanks (c :: rest) = c :: rest := by
    rw [skipBlanks, if_neg]
    rintro (same | same | same | same)
    all_goals exact apart _ (by decide) same
  have infinity : dropText "Infinity".toList (c :: rest) = none := if_neg (apart 'I' (by decide))
  have nan : dropText "NaN".toList (c :: rest) = none := if_neg (apart 'N' (by decide))
  rw [readValue, kept]
  split
  case h_7 =>
    rw [readNumber, infinity, nan]
    exact fun _ => other (by decide)
  all_goals
    rename_i same
    exact absurd same (other (by decide))

/-- The text of an integer: its digits, behind a sign if it is negative. -/
theorem toList_int (n : Int) :
    (toString n).toList = (if n < 0 then ['-'] else []) ++ Nat.toDigits 10 n.natAbs := by
  cases n with
  | ofNat m =>
    show (Nat.repr m).toList = _
    rw [Nat.repr_eq_ofList_toDigits, String.toList_ofList, if_neg (by simp)]
    rfl
  | negSucc m =>
    show ("-" ++ Nat.repr (m + 1)).toList = _
    rw [Nat.repr_eq_ofList_toDigits, String.toList_append, String.toList_ofList,
      String.toList_ofList, if_pos (by simp)]
    rfl

/-- An integer that is written reads back. -/
theorem reads_int (n : Int) : Reads (toString n).toList (.int n) := by
  intro depth rest ends
  obtain ⟨d, ds, parts⟩ :=
    List.exists_cons_of_ne_nil (Nat.toDigits_ne_nil (n := n.natAbs) (b := 10))
  have digit : d.isDigit = true := isDigit_of_mem (n := n.natAbs) (by rw [parts]; simp)
  rw [toList_int]
  split
  · rename_i negative
    have read := readMagnitude_toDigits true n.natAbs ends
    have number (cs : List Char) : readValue (depth + 1) ('-' :: cs) = readNumber ('-' :: cs) := rfl
    have infinity : dropText "Infinity".toList (Nat.toDigits 10 n.natAbs ++ rest) = none := by
      rw [parts]
      refine if_neg ?_
      rintro rfl
      exact absurd digit (by decide)
    rw [List.append_assoc, List.singleton_append, number, readNumber, infinity]
    have value : -(n.natAbs : Int) = n := by omega
    rw [if_pos rfl, value] at read
    exact read
  · rename_i positive
    have read := readMagnitude_toDigits false n.natAbs ends
    have value : (n.natAbs : Int) = n := by omega
    rw [parts, List.cons_append] at read
    rw [List.nil_append, parts, List.cons_append, readValue_of_isDigit digit, read, value]
    rfl

/-! ## Objects -/

theorem readValue_blank (depth : Nat) (cs : List Char) :
    readValue (depth + 1) (' ' :: cs) = readValue (depth + 1) cs := rfl

theorem readMembers_blank (depth : Nat) (cs : List Char) :
    readMembers (depth + 1) (' ' :: cs) = readMembers (depth + 1) cs := rfl

/-- A member that is written, and the field that is read from it. -/
structure Member (m : String × List Char) (f : String × Value) : Prop where
  name : f.1 = m.1
  reads : Reads m.2 f.2

/-- What is read behind a field: the end of the object, or the other fields. -/
def readOthers (depth : Nat) (f : String × Value) :
    List Char → Option (List (String × Value) × List Char)
  | '\x7d' :: rest => some ([f], rest)
  | ',' :: rest => (readMembers depth rest).map fun r => (f :: r.1, r.2)
  | _ => none

/-- A member reads back: its name and its value, and then what stands behind it. -/
theorem readMembers_cons {m : String × List Char} {f : String × Value} (member : Member m f)
    (depth : Nat) {rest : List Char} (ends : Delimits rest) :
    readMembers (depth + 2) (writeText m.1 ++ ':' :: ' ' :: m.2 ++ rest) =
      readOthers (depth + 1) f rest := by
  obtain ⟨k, text⟩ := m
  obtain ⟨k', v⟩ := f
  obtain ⟨rfl, reads⟩ := member
  have parts : writeText k' ++ ':' :: ' ' :: text ++ rest =
      '"' :: (k'.toList.flatMap (fun c => escapedCode (Symbol.code c)) ++
        '"' :: ':' :: ' ' :: (text ++ rest)) := by
    simp [writeText, writeSymbols]
  have value : readValue (depth + 1) (' ' :: (text ++ rest)) = some (v, rest) :=
    (readValue_blank depth _).trans (reads depth rest ends)
  rw [parts]
  show (readText _).bind _ = _
  rw [readText_escaped, Option.bind_some]
  show (readValue (depth + 1) (' ' :: (text ++ rest))).bind _ = _
  rw [value, Option.bind_some, String.ofList_toList]
  cases rest with
  | nil => rfl
  | cons c rest =>
    rcases ends c rfl with rfl | rfl
    · show (readMembers (depth + 1) rest).bind _ = (readMembers (depth + 1) rest).map _
      cases readMembers (depth + 1) rest <;> rfl
    · rfl

/-- The members of an object read back up to its closing brace. -/
theorem readMembers_joinMembers {members : List (String × List Char)} {fields : Fields}
    (each : List.Forall₂ Member members fields) (some : members ≠ []) {depth : Nat}
    (deep : members.length ≤ depth) (rest : List Char) :
    readMembers (depth + 1) (joinMembers members ++ '\x7d' :: rest) = .some (fields, rest) := by
  induction each generalizing depth with
  | nil => exact absurd rfl some
  | @cons m f members fields member others ih =>
    obtain ⟨depth, rfl⟩ : ∃ d, depth = d + 1 := ⟨depth - 1, by simp at deep; omega⟩
    cases others with
    | nil =>
      have ends : Delimits ('\x7d' :: rest) := by
        rintro c ⟨⟩
        exact .inr rfl
      exact readMembers_cons member depth ends
    | @cons m' f' members fields member' others =>
      have later := ih (by simp) (by simpa using deep)
      rw [← readMembers_blank] at later
      have ends : Delimits (',' :: ' ' :: (joinMembers (m' :: members) ++ '\x7d' :: rest)) := by
        rintro c ⟨⟩
        exact .inl rfl
      have text : joinMembers (m :: m' :: members) ++ '\x7d' :: rest =
          writeText m.1 ++ ':' :: ' ' :: m.2 ++
            ',' :: ' ' :: (joinMembers (m' :: members) ++ '\x7d' :: rest) := by
        simp [joinMembers]
      rw [text, readMembers_cons member depth ends]
      show (readMembers (depth + 1) _).map _ = _
      rw [later]
      rfl

/-- Fields with different names are the fields that are read from them. -/
theorem membersOf_of_nodup {fields : Fields} (distinct : (fields.map Prod.fst).Nodup) :
    membersOf fields = fields := by
  have put_new (fs : Fields) (k : String) (v : Value) (new : k ∉ fs.map Prod.fst) :
      Fields.put fs k v = fs ++ [(k, v)] := by
    induction fs with
    | nil => rfl
    | cons f fs ih =>
      obtain ⟨k', w⟩ := f
      simp only [List.map_cons, List.mem_cons, not_or] at new
      rw [Fields.put, if_neg (Ne.symm new.1), ih new.2]
      rfl
  have fold (fs done : Fields) (distinct : ((done ++ fs).map Prod.fst).Nodup) :
      fs.foldl (fun fs m => Fields.put fs m.1 m.2) done = done ++ fs := by
    induction fs generalizing done with
    | nil => simp
    | cons f fs ih =>
      have new : f.1 ∉ done.map Prod.fst := by
        intro old
        rw [List.map_append, List.nodup_append] at distinct
        exact distinct.2.2 _ old _ (by simp) rfl
      rw [List.foldl_cons, put_new done f.1 f.2 new, ih _ (by simpa using distinct)]
      simp
  exact fold fields [] distinct

theorem length_le_joinMembers (members : List (String × List Char)) :
    members.length ≤ (joinMembers members).length := by
  fun_induction joinMembers members with
  | case1 => simp
  | case2 k v =>
    simp only [List.length_append, List.length_cons, List.length_nil]
    omega
  | case3 k v m rest ih =>
    simp only [List.length_append, List.length_cons] at ih ⊢
    omega

/-- An object that is written reads back, if no name stands in it twice. -/
theorem parse?_writeObject {members : List (String × List Char)} {fields : Fields}
    (each : List.Forall₂ Member members fields) (some : members ≠ [])
    (distinct : (fields.map Prod.fst).Nodup) :
    parse? (String.ofList (writeObject members)) = .some (.obj fields) := by
  have deep : members.length ≤ (joinMembers members ++ ['\x7d']).length := by
    have := length_le_joinMembers members
    simp
    omega
  have read := readMembers_joinMembers each some deep []
  obtain ⟨m, others, rfl⟩ := List.exists_cons_of_ne_nil some
  obtain ⟨cs, start⟩ : ∃ cs, joinMembers (m :: others) ++ ['\x7d'] = '"' :: cs := by
    cases others <;> exact ⟨_, rfl⟩
  have whole : writeObject (m :: others) = '\x7b' :: '"' :: cs := by
    rw [← start]
    rfl
  have object (depth : Nat) : readValue (depth + 1) ('\x7b' :: '"' :: cs) =
      (readMembers depth ('"' :: cs)).map fun r => (.obj (membersOf r.1), r.2) := by
    show (readMembers depth ('"' :: cs)).bind _ = _
    cases readMembers depth ('"' :: cs) <;> rfl
  rw [start] at read
  rw [parse?, String.toList_ofList, whole]
  simp only [object, List.length_cons] at read ⊢
  rw [read]
  simp [membersOf_of_nodup distinct, skipBlanks]

/-! ## Printable characters -/

/-- A text of printable ASCII characters alone. -/
def Printable (cs : List Char) : Prop := ∀ c ∈ cs, 0x20 ≤ c.toNat ∧ c.toNat ≤ 0x7e

instance (cs : List Char) : Decidable (Printable cs) :=
  List.decidableBAll _ cs

theorem Printable.append {cs ds : List Char} (first : Printable cs) (second : Printable ds) :
    Printable (cs ++ ds) := by
  intro c member
  rcases List.mem_append.mp member with member | member
  · exact first c member
  · exact second c member

theorem Printable.cons {c : Char} {cs : List Char} (first : 0x20 ≤ c.toNat ∧ c.toNat ≤ 0x7e)
    (others : Printable cs) : Printable (c :: cs) :=
  List.forall_mem_cons.mpr ⟨first, others⟩

theorem printable_escapedUnit (n : Nat) : Printable (escapedUnit n) := by
  have digits (m : Nat) : 0x20 ≤ (Text.hexDigit m).toNat ∧ (Text.hexDigit m).toNat ≤ 0x7e := by
    have all : ∀ d < 16, 0x20 ≤ (Nat.digitChar d).toNat ∧ (Nat.digitChar d).toNat ≤ 0x7e := by decide
    exact all _ (Nat.mod_lt _ (by decide))
  rw [escapedUnit, hex_four]
  refine .cons (by decide) (.cons (by decide) ?_)
  exact .cons (digits _) (.cons (digits _) (.cons (digits _) (.cons (digits _) nofun)))

theorem printable_escapedCode (n : Nat) : Printable (escapedCode n) := by
  have code : ∀ n < 0x7f, (Char.ofNat n).toNat = n := by decide
  unfold escapedCode
  split_ifs with quoted shown newline return_ tab backspace feed small
  · rcases quoted with rfl | rfl <;> decide
  · exact .cons (by rw [code n shown.2]; omega) nofun
  · decide
  · decide
  · decide
  · decide
  · decide
  · exact printable_escapedUnit n
  · exact (printable_escapedUnit _).append (printable_escapedUnit _)

theorem printable_writeSymbols {α : Type} [Symbol α] (cs : List α) : Printable (writeSymbols cs) := by
  refine .cons (by decide) (.append ?_ (.cons (by decide) nofun))
  intro c member
  obtain ⟨a, -, inside⟩ := List.mem_flatMap.mp member
  exact printable_escapedCode _ c inside

theorem printable_int (n : Int) : Printable (toString n).toList := by
  rw [toList_int]
  refine .append ?_ fun c member => ?_
  · split <;> decide
  · have digit := isDigit_of_mem member
    simp only [Char.isDigit, Bool.and_eq_true, decide_eq_true_eq] at digit
    have low : 48 ≤ c.toNat := digit.1
    have high : c.toNat ≤ 57 := digit.2
    omega

theorem printable_writeObject {members : List (String × List Char)}
    (each : ∀ m ∈ members, Printable m.2) : Printable (writeObject members) := by
  have joined : Printable (joinMembers members) := by
    fun_induction joinMembers members with
    | case1 => nofun
    | case2 k v =>
      exact (printable_writeSymbols _).append
        (.cons (by decide) (.cons (by decide) (each _ List.mem_cons_self)))
    | case3 k v m rest ih =>
      obtain ⟨first, others⟩ := List.forall_mem_cons.mp each
      refine ((printable_writeSymbols _).append (.cons (by decide) (.cons (by decide) first))).append ?_
      exact .cons (by decide) (.cons (by decide) (ih others))
  exact .cons (by decide) (joined.append (.cons (by decide) nofun))

end MonitoringUpkeep.Json
