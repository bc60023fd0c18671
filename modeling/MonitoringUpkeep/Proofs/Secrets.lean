import Mathlib.Data.List.Chain
import Mathlib.Data.List.Forall2
import MonitoringUpkeep.Proofs.Substitution

/-!
# The two rules of redaction

The front of the first rule is the word "bearer" with some blanks behind it, and its secrets are tokens.
The front of the second one is a sensitive key with a separator, and its secrets are values. Both rules
find exactly these places, and their fronts keep to themselves: a front begins with a letter that no
front has at any place where a word could begin.
-/

namespace MonitoringUpkeep.Redaction

open MonitoringUpkeep.Symbol (glyph ofString)

variable {α : Type} [Symbol α]

/-- A text spells a word, in any letter case. -/
def Spells (word : List Char) (cs : List α) : Prop :=
  List.Forall₂ (fun w c => isLetter w (glyph c) = true) word cs

/-- A text of blanks alone. -/
def Blank (cs : List α) : Prop := ∀ c ∈ cs, Text.isBlank (glyph c) = true

/-- A colon or an equals sign with blanks around it. -/
def Separator (cs : List α) : Prop :=
  ∃ s c t, cs = s ++ c :: t ∧ Blank s ∧ (glyph c = ':' ∨ glyph c = '=') ∧ Blank t

/-- The word "bearer" with some blanks behind it. -/
def Bearing : Front α := fun _ cs =>
  ∃ word blanks, cs = word ++ blanks ∧ Spells "bearer".toList word ∧ blanks ≠ [] ∧ Blank blanks

/-- A sensitive key that stands as a word of its own, with a separator behind it. -/
def Keying : Front α := fun before cs =>
  ∃ key ∈ sensitiveKeys, ∃ k sep, cs = k ++ sep ∧ Spells key k ∧
    isBoundary before k.head? = true ∧ isBoundary k.getLast? sep.head? = true ∧ Separator sep

/-! ## What the rules find -/

theorem dropWord_eq_some_iff {word : List Char} {cs rest : List α} :
    dropWord word cs = some rest ↔ ∃ w, cs = w ++ rest ∧ Spells word w := by
  induction word generalizing cs with
  | nil =>
    constructor
    · intro dropped
      cases dropped
      exact ⟨[], rfl, .nil⟩
    · rintro ⟨w, rfl, spells⟩
      cases spells
      rfl
  | cons x word ih =>
    cases cs with
    | nil =>
      refine ⟨nofun, ?_⟩
      rintro ⟨w, same, spells⟩
      cases spells
      cases same
    | cons c cs =>
      rw [dropWord]
      constructor
      · intro dropped
        split at dropped
        · rename_i letter
          obtain ⟨w, rfl, spells⟩ := ih.mp dropped
          exact ⟨c :: w, rfl, .cons letter spells⟩
        · cases dropped
      · rintro ⟨_ | ⟨c', w⟩, same, spells⟩
        · cases spells
        · obtain ⟨rfl, rfl⟩ := List.cons_eq_cons.mp same
          obtain ⟨letter, spells⟩ := List.forall₂_cons.mp spells
          rw [if_pos letter]
          exact ih.mpr ⟨w, rfl, spells⟩

/-- No blank begins a text of symbols that are no blanks. -/
theorem longest_blanks {p : Char → Bool} (apart : ∀ {c}, Text.isBlank c = true → p c = false)
    {secret : List α} (some : secret ≠ []) (members : ∀ c ∈ secret, p (glyph c) = true)
    (rest : List α) : ∀ c ∈ (secret ++ rest).head?, Text.isBlank (glyph c) = false := by
  obtain ⟨s, secret, rfl⟩ := List.exists_cons_of_ne_nil some
  rintro c head
  cases head
  cases blank : Text.isBlank (glyph s) with
  | false => rfl
  | true =>
    have member := members s List.mem_cons_self
    rw [apart blank] at member
    cases member

theorem bearer_finds : (bearer : Rule α).Finds Bearing isTokenChar := by
  intro before cs m
  constructor
  · intro found
    obtain ⟨rest, dropped, found⟩ := Option.bind_eq_some_iff.mp found
    obtain ⟨w, rfl, spells⟩ := dropWord_eq_some_iff.mp dropped
    dsimp only at found
    split at found
    · cases found
    · rename_i given
      cases found
      simp only [Bool.or_eq_true, List.isEmpty_iff, not_or] at given
      refine ⟨w ++ run Text.isBlank rest, run isTokenChar (behind Text.isBlank rest),
        behind isTokenChar (behind Text.isBlank rest), ?_,
        ⟨⟨w, _, rfl, spells, given.1, fun _ => mem_run⟩, given.2, fun _ => mem_run,
          fun _ => head_behind⟩, ?_⟩
      · rw [List.append_assoc, List.append_assoc, run_append_behind, run_append_behind]
      · simp
  · rintro ⟨_, secret, rest, rfl, ⟨⟨w, blanks, rfl, spells, given, blank⟩, hides, members, longest⟩, rfl⟩
    have dropped : dropWord "bearer".toList (w ++ blanks ++ secret ++ rest) =
        some (blanks ++ (secret ++ rest)) := dropWord_eq_some_iff.mpr ⟨w, by simp, spells⟩
    have blanks_eq := run_eq blank (longest_blanks isTokenChar_of_isBlank hides members rest)
    have behind_eq := behind_eq blank (longest_blanks isTokenChar_of_isBlank hides members rest)
    simp only [bearer, dropped, Option.bind_eq_bind, Option.bind_some, blanks_eq, behind_eq,
      run_eq members longest]
    simp [given, hides]

theorem mem_wordLetters {key : List Char} (known : key ∈ sensitiveKeys) {w : Char} (member : w ∈ key) :
    w ∈ wordLetters :=
  List.mem_append_right _ (List.mem_flatten.mpr ⟨key, known, member⟩)

/-- What spells the start of a spelt word spells the start of the word. -/
theorem isPrefix_of_spells {word word' : List Char} {k e : List α} (spells : Spells word k)
    (spells' : Spells word' (k ++ e)) (known : ∀ w ∈ word, w ∈ wordLetters)
    (known' : ∀ w ∈ word', w ∈ wordLetters) : word <+: word' := by
  induction spells generalizing word' with
  | nil => exact List.nil_prefix
  | @cons w c word k letter spells ih =>
    cases spells' with
    | @cons w' _ word' _ letter' spells' =>
      obtain ⟨first, others⟩ := List.forall_mem_cons.mp known
      obtain ⟨first', others'⟩ := List.forall_mem_cons.mp known'
      obtain rfl := eq_of_isLetter first first' letter letter'
      exact List.cons_prefix_cons.mpr ⟨rfl, ih spells' others others'⟩

theorem sensitiveKeys_apart : ∀ key ∈ sensitiveKeys, ∀ key' ∈ sensitiveKeys,
    key <+: key' → key = key' := by decide

/-- One text starts with one sensitive key only. -/
theorem rest_eq_of_spells {key key' : List Char} {k k' r r' : List α} (known : key ∈ sensitiveKeys)
    (known' : key' ∈ sensitiveKeys) (spells : Spells key k) (spells' : Spells key' k')
    (same : k ++ r = k' ++ r') : r = r' := by
  have letters := fun w => mem_wordLetters known (w := w)
  have letters' := fun w => mem_wordLetters known' (w := w)
  have length : k.length = k'.length := by
    rcases List.append_eq_append_iff.mp same with ⟨e, rfl, -⟩ | ⟨e, rfl, -⟩
    · have alike := isPrefix_of_spells spells spells' letters letters'
      obtain rfl := sensitiveKeys_apart key known key' known' alike
      exact spells.length_eq.symm.trans spells'.length_eq
    · have alike := isPrefix_of_spells spells' spells letters' letters
      obtain rfl := sensitiveKeys_apart key' known' key known alike
      exact spells.length_eq.symm.trans spells'.length_eq
  exact (List.append_inj same length).2

theorem head?_append_of_spells {key : List Char} {k rest : List α} (known : key ∈ sensitiveKeys)
    (spells : Spells key k) : (k ++ rest).head? = k.head? := by
  cases spells with
  | nil => exact absurd known (by decide)
  | cons letter spells => rfl

theorem afterKey_eq_some_iff {before : Option α} {cs rest : List α} :
    afterKey before cs = some rest ↔ ∃ key ∈ sensitiveKeys, ∃ k, cs = k ++ rest ∧ Spells key k ∧
      isBoundary before k.head? = true ∧ isBoundary k.getLast? rest.head? = true := by
  have take_eq (k rest : List α) :
      (k ++ rest).take ((k ++ rest).length - rest.length) = k := by simp
  constructor
  · intro found
    unfold afterKey at found
    split at found
    · rename_i front
      obtain ⟨key, known, found⟩ := List.exists_of_findSome?_eq_some found
      obtain ⟨r, dropped, found⟩ := Option.bind_eq_some_iff.mp found
      obtain ⟨k, rfl, spells⟩ := dropWord_eq_some_iff.mp dropped
      dsimp only at found
      rw [take_eq] at found
      split at found
      · rename_i back
        cases found
        exact ⟨key, known, k, rfl, spells, head?_append_of_spells known spells ▸ front, back⟩
      · cases found
    · cases found
  · rintro ⟨key, known, k, rfl, spells, front, back⟩
    have dropped : dropWord key (k ++ rest) = some rest := dropWord_eq_some_iff.mpr ⟨k, rfl, spells⟩
    rw [afterKey, head?_append_of_spells known spells, if_pos front]
    cases found : sensitiveKeys.findSome? _ with
    | none =>
      have never := List.findSome?_eq_none_iff.mp found key known
      simp [dropped, back] at never
    | some r =>
      obtain ⟨key', known', found⟩ := List.exists_of_findSome?_eq_some found
      obtain ⟨r', dropped', found⟩ := Option.bind_eq_some_iff.mp found
      obtain ⟨k', same, spells'⟩ := dropWord_eq_some_iff.mp dropped'
      dsimp only at found
      split at found
      · cases found
        rw [rest_eq_of_spells known known' spells spells' same]
      · cases found

theorem not_blank_of_sign {c : Char} (sign : c = ':' ∨ c = '=') : Text.isBlank c = false := by
  rcases sign with rfl | rfl <;> decide

theorem afterSeparator_eq_some_iff {cs rest : List α} :
    afterSeparator cs = some rest ↔ ∃ sep, cs = sep ++ rest ∧ Separator sep ∧
      ∀ c ∈ rest.head?, Text.isBlank (glyph c) = false := by
  constructor
  · intro found
    unfold afterSeparator at found
    split at found
    · rename_i c r stops
      split at found
      · rename_i sign
        cases found
        refine ⟨run Text.isBlank cs ++ c :: run Text.isBlank r, ?_,
          ⟨_, c, _, rfl, fun _ => mem_run, sign, fun _ => mem_run⟩, fun _ => head_behind⟩
        rw [List.append_assoc, List.cons_append, run_append_behind, ← stops, run_append_behind]
      · cases found
    · cases found
  · rintro ⟨_, rfl, ⟨s, c, t, rfl, blank, sign, blank'⟩, longest⟩
    have stops : ∀ d ∈ (c :: (t ++ rest)).head?, Text.isBlank (glyph d) = false := by
      rintro d head
      cases head
      exact not_blank_of_sign sign
    rw [afterSeparator, List.append_assoc, List.cons_append, behind_eq blank stops]
    simp only [sign, if_true, behind_eq blank' longest]

theorem sensitiveValue_finds : (sensitiveValue : Rule α).Finds Keying isValueChar := by
  intro before cs m
  constructor
  · intro found
    obtain ⟨r, keyed, found⟩ := Option.bind_eq_some_iff.mp found
    obtain ⟨rest, parted, found⟩ := Option.bind_eq_some_iff.mp found
    obtain ⟨key, known, k, rfl, spells, front, back⟩ := afterKey_eq_some_iff.mp keyed
    obtain ⟨sep, rfl, separator, -⟩ := afterSeparator_eq_some_iff.mp parted
    dsimp only at found
    split at found
    · cases found
    · rename_i given
      cases found
      have back' : isBoundary k.getLast? sep.head? = true := by
        obtain ⟨s, c, t, rfl, -⟩ := separator
        cases s <;> exact back
      refine ⟨k ++ sep, run isValueChar rest, behind isValueChar rest, ?_,
        ⟨⟨key, known, k, sep, rfl, spells, front, back', separator⟩, by simpa using given,
          fun _ => mem_run, fun _ => head_behind⟩, ?_⟩
      · rw [List.append_assoc, run_append_behind, List.append_assoc]
      · simp [← Nat.add_assoc]
  · rintro ⟨_, secret, rest, rfl,
      ⟨⟨key, known, k, sep, rfl, spells, front, back, separator⟩, hides, members, longest⟩, rfl⟩
    have back' : isBoundary k.getLast? (sep ++ (secret ++ rest)).head? = true := by
      obtain ⟨s, c, t, rfl, -⟩ := separator
      cases s <;> exact back
    have keyed : afterKey before (k ++ sep ++ secret ++ rest) = some (sep ++ (secret ++ rest)) :=
      afterKey_eq_some_iff.mpr ⟨key, known, k, by simp, spells, front, back'⟩
    have parted : afterSeparator (sep ++ (secret ++ rest)) = some (secret ++ rest) :=
      afterSeparator_eq_some_iff.mpr ⟨sep, rfl, separator,
        longest_blanks isValueChar_of_isBlank hides members rest⟩
    simp only [sensitiveValue, keyed, parted, Option.bind_eq_bind, Option.bind_some,
      run_eq members longest]
    simp [hides]
    omega

/-! ## Fronts keep to themselves -/

theorem Spells.exists_letter {word : List Char} {k : List α} (spells : Spells word k) {c : α}
    (member : c ∈ k) : ∃ w ∈ word, isLetter w (glyph c) = true := by
  induction spells with
  | nil => cases member
  | @cons w c' word k letter spells ih =>
    rcases List.mem_cons.mp member with rfl | member
    · exact ⟨w, List.mem_cons_self, letter⟩
    · obtain ⟨w', known, letter'⟩ := ih member
      exact ⟨w', List.mem_cons_of_mem w known, letter'⟩

theorem Spells.split {word : List Char} {a b : List α} {c : α} (spells : Spells word (a ++ c :: b)) :
    ∃ u w v, word = u ++ w :: v ∧ Spells u a ∧ isLetter w (glyph c) = true ∧ Spells v b := by
  induction a generalizing word with
  | nil =>
    cases spells with
    | @cons w _ word _ letter spells => exact ⟨[], w, word, rfl, .nil, letter, spells⟩
  | cons x a ih =>
    cases spells with
    | @cons w _ word _ letter spells =>
      obtain ⟨u, w', v, rfl, first, letter', last⟩ := ih spells
      exact ⟨w :: u, w', v, rfl, .cons letter first, letter', last⟩

theorem bearing_letters : ∀ w ∈ "bearer".toList, w ∈ wordLetters :=
  forall_mem_of_all (by decide)

/-- A character of no front: it belongs neither to a word nor to a separator. -/
def Foreign (c : Char) : Prop :=
  (∀ w ∈ wordLetters, isLetter w c = false) ∧ Text.isBlank c = false ∧ c ≠ ':' ∧ c ≠ '='

instance (c : Char) : Decidable (Foreign c) :=
  decidable_of_iff ((wordLetters.all fun w => !isLetter w c) = true ∧ Text.isBlank c = false ∧
    c ≠ ':' ∧ c ≠ '=') (by simp [Foreign])

theorem Bearing.not_foreign {before : Option α} {kept : List α} (bearing : Bearing before kept) {c : α}
    (member : c ∈ kept) : ¬ Foreign (glyph c) := by
  rintro ⟨letters, blanks, -⟩
  obtain ⟨word, spaces, rfl, spells, -, blank⟩ := bearing
  rcases List.mem_append.mp member with member | member
  · obtain ⟨w, known, letter⟩ := spells.exists_letter member
    rw [letters w (bearing_letters w known)] at letter
    cases letter
  · have space := blank c member
    rw [blanks] at space
    cases space

theorem Separator.sign {sep : List α} (separator : Separator sep) {c : α} (member : c ∈ sep) :
    Text.isBlank (glyph c) = true ∨ glyph c = ':' ∨ glyph c = '=' := by
  obtain ⟨s, x, t, rfl, blank, sign, blank'⟩ := separator
  rcases List.mem_append.mp member with member | member
  · exact .inl (blank c member)
  · rcases List.mem_cons.mp member with rfl | member
    · exact .inr sign
    · exact .inl (blank' c member)

theorem Keying.not_foreign {before : Option α} {kept : List α} (keying : Keying before kept) {c : α}
    (member : c ∈ kept) : ¬ Foreign (glyph c) := by
  rintro ⟨letters, blanks, colon, equals⟩
  obtain ⟨key, known, k, sep, rfl, spells, -, -, separator⟩ := keying
  rcases List.mem_append.mp member with member | member
  · obtain ⟨w, letter, spelt⟩ := spells.exists_letter member
    rw [letters w (mem_wordLetters known letter)] at spelt
    cases spelt
  · rcases separator.sign member with space | sign | sign
    · rw [blanks] at space
      cases space
    · exact colon sign
    · exact equals sign

omit [Symbol α] in
/-- A symbol of a text in two parts is one of the first part or one of the second. -/
theorem cases_of_parts {a b x y : List α} {c : α} (same : a ++ c :: b = x ++ y) :
    (∃ e, x = a ++ c :: e ∧ b = e ++ y) ∨ ∃ e, a = x ++ e ∧ y = e ++ c :: b := by
  rcases List.append_eq_append_iff.mp same with ⟨_ | ⟨c', e⟩, rfl, rest⟩ | ⟨e, rfl, rest⟩
  · exact .inr ⟨[], by simp, by simpa using rest.symm⟩
  · obtain ⟨rfl, rfl⟩ := List.cons_eq_cons.mp rest
    exact .inl ⟨e, rfl, rfl⟩
  · exact .inr ⟨e, rfl, rest⟩

theorem Bearing.begins {before : Option α} {c : α} {b : List α} (bearing : Bearing before (c :: b)) :
    isLetter 'b' (glyph c) = true := by
  obtain ⟨word, blanks, same, spells, -⟩ := bearing
  cases spells with
  | cons letter spells =>
    obtain ⟨rfl, -⟩ := List.cons_eq_cons.mp same
    exact letter

/-- The letter "b" stands only at the start of a front of the first rule. -/
theorem Bearing.turns {before : Option α} {a b : List α} {c : α} (bearing : Bearing before (a ++ c :: b))
    (some : a ≠ []) : isLetter 'b' (glyph c) = false := by
  rw [← Bool.not_eq_true]
  intro first
  have known : 'b' ∈ wordLetters := by decide
  obtain ⟨word, blanks, same, spells, -, blank⟩ := bearing
  rcases cases_of_parts same with ⟨e, rfl, -⟩ | ⟨e, rfl, rfl⟩
  · obtain ⟨u, w, v, parts, front, letter, -⟩ := spells.split
    have member : w ∈ "bearer".toList := by simp [parts]
    obtain rfl := eq_of_isLetter known (bearing_letters w member) first letter
    have once : ∀ u v, "bearer".toList = u ++ 'b' :: v → u = [] := by
      intro u v parts
      cases u with
      | nil => rfl
      | cons x u =>
        have later : 'b' ∈ "earer".toList := by
          have tail : "earer".toList = u ++ 'b' :: v := (List.cons_eq_cons.mp parts).2
          rw [tail]
          simp
        exact absurd later (by decide)
    rw [once u v parts] at front
    cases front
    exact some rfl
  · have token := isTokenChar_of_isLetter known first
    rw [isTokenChar_of_isBlank (blank c (by simp))] at token
    cases token

theorem bearing_lawful [Symbol.Lawful α] : (Bearing : Front α).Lawful isTokenChar where
  nonempty := by
    rintro before ⟨word, blanks, same, spells, given, -⟩
    exact given (List.append_eq_nil_iff.mp same.symm).2
  unmarked bearing c member bracket :=
    bearing.not_foreign member (by rw [bracket]; decide)
  single := bearer_finds.single
  opening bearing := isTokenChar_of_isLetter (by decide) bearing.begins
  inner bearing some bearing' := by
    have other := bearing.turns some
    rw [bearing'.begins] at other
    cases other
  outside part some bearing := by
    have member := glyph_of_mem_mark (part ▸ List.mem_append_right _ List.mem_cons_self)
    have apart : ∀ c ∈ mark.toList, isLetter 'b' c = false := forall_mem_of_all (by decide)
    have other := apart _ member
    rw [bearing.begins] at other
    cases other
  uniform bracket := absurd bracket (by decide)

/-- The letters with which sensitive keys begin. -/
def initials : List Char := sensitiveKeys.filterMap List.head?

theorem initials_letters : ∀ w ∈ initials, w ∈ wordLetters ∧ w ≠ '-' :=
  forall_mem_of_all (by decide)

theorem sensitiveKeys_turn : ∀ key ∈ sensitiveKeys,
    List.IsChain (fun x y => x = '-' → y ∉ initials) key := by decide

/-- A character begins a sensitive key. -/
def Initial (c : Char) : Prop := ∃ w ∈ initials, isLetter w c = true

instance (c : Char) : Decidable (Initial c) :=
  decidable_of_iff ((initials.any fun w => isLetter w c) = true) (by simp [Initial])

theorem Initial.isWord {c : Char} (initial : Initial c) : Text.isWord c = true := by
  obtain ⟨w, known, letter⟩ := initial
  obtain ⟨member, sign⟩ := initials_letters w known
  exact isWord_of_isLetter member letter sign

/-- A separator has no letter of a word in it. -/
theorem Separator.not_letter {sep : List α} (separator : Separator sep) {c : α} (member : c ∈ sep)
    {w : Char} (known : w ∈ wordLetters) : isLetter w (glyph c) = false := by
  rw [← Bool.not_eq_true]
  intro spelt
  rcases separator.sign member with blank | sign | sign
  · have token := isTokenChar_of_isLetter known spelt
    rw [isTokenChar_of_isBlank blank] at token
    cases token
  · exact (not_sign_of_isLetter known spelt).1 sign
  · exact (not_sign_of_isLetter known spelt).2 sign

theorem Separator.not_initial {sep : List α} (separator : Separator sep) {c : α} (member : c ∈ sep) :
    ¬ Initial (glyph c) := by
  rintro ⟨w, known, letter⟩
  rw [separator.not_letter member (initials_letters w known).1] at letter
  cases letter

theorem Separator.ne_nil {sep : List α} (separator : Separator sep) : sep ≠ [] := by
  obtain ⟨s, x, t, rfl, -⟩ := separator
  simp

/-- A front of the second rule begins with the initial of a key, where a word can begin. -/
theorem Keying.begins {before : Option α} {c : α} {b : List α} (keying : Keying before (c :: b)) :
    Initial (glyph c) ∧ ∀ x ∈ before, Text.isWord (glyph x) = false := by
  obtain ⟨key, known, k, sep, same, spells, front, -⟩ := keying
  cases spells with
  | nil => exact absurd known (by decide)
  | @cons w _ word _ letter spells =>
    obtain ⟨rfl, -⟩ := List.cons_eq_cons.mp same
    have initial : Initial (glyph c) :=
      ⟨w, List.mem_filterMap.mpr ⟨w :: word, known, rfl⟩, letter⟩
    refine ⟨initial, ?_⟩
    rintro x rfl
    simpa [isBoundary, initial.isWord] using front

/-- Behind its start a front of the second rule has no initial of a key where a word could begin. -/
theorem Keying.turns {before : Option α} {a b : List α} {c : α} (keying : Keying before (a ++ c :: b))
    (some : a ≠ []) (ends : ∀ x ∈ a.getLast?, Text.isWord (glyph x) = false) :
    ¬ Initial (glyph c) := by
  rintro ⟨w', known', letter'⟩
  obtain ⟨key, known, k, sep, same, spells, -, -, separator⟩ := keying
  rcases cases_of_parts same with ⟨e, rfl, -⟩ | ⟨e, rfl, rfl⟩
  · obtain ⟨a, x, rfl⟩ := List.eq_nil_or_concat a |>.resolve_left some
    rw [List.concat_eq_append, List.append_assoc, List.singleton_append] at spells
    obtain ⟨u, v, tail, rfl, -, last, others⟩ := spells.split
    cases others with
    | @cons w _ tail _ letter others =>
      have letters : ∀ y ∈ u ++ v :: w :: tail, y ∈ wordLetters := fun y => mem_wordLetters known
      have dash : v = '-' := by
        by_contra sign
        have word := isWord_of_isLetter (letters v (by simp)) last sign
        rw [ends x (by simp)] at word
        cases word
      have turn := (List.isChain_append.mp (sensitiveKeys_turn _ known)).2.1
      have other := (List.isChain_cons_cons.mp turn).1 dash
      have same := eq_of_isLetter (letters w (by simp)) (initials_letters w' known').1 letter letter'
      rw [same] at other
      exact other known'
  · exact separator.not_initial (c := c) (by simp) ⟨w', known', letter'⟩

theorem mark_turn :
    List.IsChain (fun x y => Text.isWord x = false → ¬ Initial y) mark.toList := by
  decide +kernel

theorem keying_lawful [Symbol.Lawful α] : (Keying : Front α).Lawful isValueChar where
  nonempty := by
    rintro before ⟨key, known, k, sep, same, -, -, -, separator⟩
    exact separator.ne_nil (List.append_eq_nil_iff.mp same.symm).2
  unmarked keying c member bracket :=
    keying.not_foreign member (by rw [bracket]; decide)
  single := sensitiveValue_finds.single
  opening keying := by
    obtain ⟨⟨w, known, letter⟩, -⟩ := keying.begins
    exact isValueChar_of_isLetter (initials_letters w known).1 letter
  inner keying some keying' := by
    obtain ⟨initial, ends⟩ := keying'.begins
    exact keying.turns some ends initial
  outside part some keying := by
    obtain ⟨initial, ends⟩ := keying.begins
    obtain ⟨a, x, rfl⟩ := List.eq_nil_or_concat _ |>.resolve_left some
    have glyphs := congrArg (List.map glyph) part
    rw [map_glyph_mark, List.concat_eq_append, List.append_assoc, List.singleton_append,
      List.map_append, List.map_cons, List.map_cons] at glyphs
    have turn := mark_turn
    rw [glyphs] at turn
    have turned := (List.isChain_cons_cons.mp (List.isChain_append.mp turn).2.1).1
    exact turned (ends x (by simp)) initial
  uniform _ := forall_mem_of_all (by decide +kernel)

end MonitoringUpkeep.Redaction
