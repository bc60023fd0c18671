import MonitoringUpkeep.Proofs.Seams
import MonitoringUpkeep.Proofs.Secrets

/-!
# Fronts and what stands around them

Where fronts begin and end, and where they cannot. A key that begins a word stands behind a seam of both
rules, a separator and a value hold no front of the first one, and a token that was taken out is no part
of a value.
-/

namespace MonitoringUpkeep.Redaction

open MonitoringUpkeep.Symbol (glyph ofString)

variable {α : Type} [Symbol α]

/-- What ends a value in front of it: nothing more, or a comma or a semicolon. -/
def Closes (rest : List α) : Prop := ∀ c ∈ rest.head?, glyph c = ',' ∨ glyph c = ';'

theorem Closes.not_value {rest : List α} (closes : Closes rest) :
    ∀ c ∈ rest.head?, isValueChar (glyph c) = false := by
  intro c head
  rcases closes c head with same | same
  · rw [same]; decide
  · rw [same]; decide

theorem Closes.not_token {rest : List α} (closes : Closes rest) :
    ∀ c ∈ rest.head?, isTokenChar (glyph c) = false := by
  intro c head
  rcases closes c head with same | same
  · rw [same]; decide
  · rw [same]; decide

/-! ## Symbols of fronts -/

/-- The symbols of a sensitive key. -/
theorem Spells.key_symbols {key : List Char} {k : List α} (known : key ∈ sensitiveKeys)
    (spells : Spells key k) {c : α} (member : c ∈ k) :
    isTokenChar (glyph c) = true ∧ isValueChar (glyph c) = true ∧ isLetter 'b' (glyph c) = false := by
  obtain ⟨w, letter, spelt⟩ := spells.exists_letter member
  have word := mem_wordLetters known letter
  refine ⟨isTokenChar_of_isLetter word spelt, isValueChar_of_isLetter word spelt, ?_⟩
  have unused : ∀ key ∈ sensitiveKeys, 'b' ∉ key := by decide
  rw [← Bool.not_eq_true]
  intro other
  have same := eq_of_isLetter (by decide) word other spelt
  rw [same] at unused
  exact unused key known letter

theorem isWord_ends : ∀ key ∈ sensitiveKeys, key.getLast? ≠ some '-' := by decide

/-- A sensitive key ends as a word does. -/
theorem Spells.ends {key : List Char} {k : List α} (known : key ∈ sensitiveKeys)
    (spells : Spells key k) : ∃ c, k.getLast? = some c ∧ Text.isWord (glyph c) = true := by
  obtain ⟨k, c, rfl⟩ : ∃ l c, k = l ++ [c] := by
    rcases List.eq_nil_or_concat k with rfl | ⟨l, c, rfl⟩
    · cases spells
      exact absurd known (by decide)
    · exact ⟨l, c, by simp⟩
  obtain ⟨u, w, v, rfl, -, letter, others⟩ := spells.split
  cases others
  have word := mem_wordLetters known (w := w) (by simp)
  have sign : w ≠ '-' := by
    rintro rfl
    exact isWord_ends _ known (by simp)
  exact ⟨c, by simp, isWord_of_isLetter word letter sign⟩

theorem Spells.begins {key : List Char} {k : List α} (known : key ∈ sensitiveKeys)
    (spells : Spells key k) : ∃ x, k.head? = some x ∧ Initial (glyph x) := by
  cases spells with
  | nil => exact absurd known (by decide)
  | @cons w x word k letter spells =>
    exact ⟨x, rfl, w, List.mem_filterMap.mpr ⟨w :: word, known, rfl⟩, letter⟩

theorem Separator.not_word {sep : List α} (separator : Separator sep) {c : α} (member : c ∈ sep) :
    Text.isWord (glyph c) = false := by
  rcases separator.sign member with blank | sign | sign
  · exact isWord_of_isBlank blank
  · rw [sign]
    decide
  · rw [sign]
    decide

theorem Foreign.not_initial {c : Char} (foreign : Foreign c) : ¬ Initial c := by
  rintro ⟨w, known, letter⟩
  rw [foreign.1 w (initials_letters w known).1] at letter
  cases letter

/-! ## Seams in front of a key -/

omit [Symbol α] in
theorem last_of_suffix {a b : List α} {c : α} (suffix : b <:+ a) (last : c ∈ b.getLast?) :
    c ∈ a.getLast? := by
  obtain ⟨t, rfl⟩ := suffix
  rw [List.getLast?_append, Option.mem_def.mp last]
  rfl

/-- No front of the first rule stands across the start of a word. -/
theorem bearing_seam {a : List α} {x : α} (start : ∀ c ∈ a.getLast?, Text.isWord (glyph c) = false)
    (word : Text.isWord (glyph x) = true) : Seam Bearing a x := by
  rintro before b y suffix some ⟨bearer, blanks, same, spells, -, blank⟩
  rcases cases_of_parts same with ⟨e, rfl, -⟩ | ⟨e, -, rfl⟩
  · obtain ⟨b, c, rfl⟩ := List.eq_nil_or_concat b |>.resolve_left some
    have outside := start c (last_of_suffix suffix (by simp))
    obtain ⟨w, known, letter⟩ := spells.exists_letter (c := c) (by simp)
    have apart : ∀ w ∈ "bearer".toList, w ≠ '-' := forall_mem_of_all (by decide)
    rw [isWord_of_isLetter (bearing_letters w known) letter (apart w known)] at outside
    cases outside
  · rw [isWord_of_isBlank (blank x (by simp))] at word
    cases word

/-- No front of the second rule stands across the start of a key that begins a word. -/
theorem keying_seam {a : List α} {x : α} (start : ∀ c ∈ a.getLast?, Text.isWord (glyph c) = false)
    (initial : Initial (glyph x)) : Seam Keying a x := by
  intro before b y suffix some keying
  exact keying.turns some (fun c last => start c (last_of_suffix suffix last)) initial

theorem keying_seam_of_foreign {a : List α} {x : α} (foreign : Foreign (glyph x)) : Seam Keying a x :=
  fun _ _ _ _ _ keying => keying.not_foreign (by simp) foreign

/-! ## The last symbols of fronts -/

omit [Symbol α] in
theorem mem_of_concat {a b e : List α} {y : α} (same : a ++ [y] = b ++ e) (some : e ≠ []) : y ∈ e := by
  obtain ⟨e, z, rfl⟩ := List.eq_nil_or_concat e |>.resolve_left some
  have last := congrArg List.getLast? same
  simp only [List.concat_eq_append, ← List.append_assoc, List.getLast?_concat] at last
  cases last
  simp

/-- Behind the last letter of a front of the first rule there are blanks alone, and there are some. -/
theorem Bearing.last {before : Option α} {kept : List α} (bearing : Bearing before kept) :
    ∃ w l blanks, kept = w ++ l :: blanks ∧ (∃ x ∈ wordLetters, isLetter x (glyph l) = true) ∧
      blanks ≠ [] ∧ Blank blanks := by
  obtain ⟨word, blanks, rfl, spells, given, blank⟩ := bearing
  obtain ⟨w, l, rfl⟩ : ∃ w l, word = w ++ [l] := by
    rcases List.eq_nil_or_concat word with rfl | ⟨w, l, rfl⟩
    · cases spells
    · exact ⟨w, l, by simp⟩
  obtain ⟨x, known, letter⟩ := spells.exists_letter (c := l) (by simp)
  exact ⟨w, l, blanks, by simp, ⟨x, bearing_letters x known, letter⟩, given, blank⟩

/-- No front of the first rule ends where one of the second rule does: there is a sign between the
    last letter and the last blanks of the latter. -/
theorem Bearing.ends_apart {before before' : Option α} {a b kept kept' : List α}
    (bearing : Bearing before kept) (keying : Keying before' kept') : a ++ kept ≠ b ++ kept' := by
  intro same
  obtain ⟨w, l, blanks, rfl, ⟨x, known, letter⟩, -, blank⟩ := bearing.last
  obtain ⟨key, -, k, sep, rfl, -, -, -, separator⟩ := keying
  have apart {c : α} (member : c ∈ sep) : c ≠ l := by
    rintro rfl
    rw [separator.not_letter member known] at letter
    cases letter
  obtain ⟨s, sign, t, rfl, -, either, -⟩ := separator
  have other := not_blank_of_sign either
  have parts : (a ++ w) ++ l :: blanks = (b ++ k ++ s ++ [sign]) ++ t := by simpa using same
  rcases cases_of_parts parts with ⟨e, front, rfl⟩ | ⟨e, -, rfl⟩
  · have member := mem_of_concat front (by simp)
    rcases List.mem_cons.mp member with rfl | member
    · exact apart (by simp) rfl
    · rw [blank sign (by simp [member])] at other
      cases other
  · exact apart (by simp) rfl

/-- A front of the second rule begins with an initial of a key and ends with a symbol of separators. -/
theorem Keying.ends {before : Option α} {kept : List α} (keying : Keying before kept) :
    ∃ f m l, kept = f :: m ++ [l] ∧ Initial (glyph f) ∧
      (Text.isBlank (glyph l) = true ∨ glyph l = ':' ∨ glyph l = '=') := by
  obtain ⟨key, known, k, sep, rfl, spells, -, -, separator⟩ := keying
  obtain ⟨f, head, initial⟩ := spells.begins known
  obtain ⟨k, rfl⟩ := List.head?_eq_some_iff.mp head
  obtain ⟨s, l, rfl⟩ := List.eq_nil_or_concat sep |>.resolve_left separator.ne_nil
  exact ⟨f, k ++ s, l, by simp, initial, separator.sign (by simp)⟩

/-- A token that was taken out is no part of a value: there are blanks in front of it, and none of its
    mark is in a front of the second rule. -/
theorem Bearing.shields [Symbol.Lawful α] {before before' : Option α} {a b kept kept' t c sep : List α}
    (bearing : Bearing before kept) (separator : Separator sep) (within : ∀ d ∈ t, d ∈ sep)
    (keying : Keying before' kept') (members : ∀ d ∈ c, isValueChar (glyph d) = true) :
    a ++ kept ++ ofString mark ++ t ≠ b ++ kept' ++ c := by
  intro same
  obtain ⟨f, m, l, rfl, initial, sign⟩ := keying.ends
  have parts : (b ++ f :: m) ++ l :: c = (a ++ kept) ++ (ofString mark ++ t) := by
    simpa using same.symm
  -- the front ends in front of the mark, in the mark, or behind it
  rcases cases_of_parts parts with ⟨e, front, rfl⟩ | ⟨e, front, back⟩
  · cases e with
    | nil => exact bearing.ends_apart keying (by simpa using front)
    | cons d e =>
      obtain ⟨w, x, blanks, rfl, -, given, blank⟩ := bearing.last
      obtain ⟨blanks, y, rfl⟩ := List.eq_nil_or_concat blanks |>.resolve_left given
      have ends : (a ++ w ++ x :: blanks) ++ [y] = (b ++ f :: m ++ [l]) ++ d :: e := by
        simpa using front
      have value := members y (List.mem_append_left _ (mem_of_concat ends (by simp)))
      rw [isValueChar_of_isBlank (blank y (by simp))] at value
      cases value
  · rcases cases_of_parts back.symm with ⟨e', marked, -⟩ | ⟨e', rfl, rfl⟩
    · have apart : ∀ c ∈ mark.toList, Text.isBlank c = false ∧ c ≠ ':' ∧ c ≠ '=' :=
        forall_mem_of_all (by decide)
      obtain ⟨space, colon, equals⟩ := apart (glyph l) (glyph_of_mem_mark (by simp [marked]))
      rcases sign with blank | sign | sign
      · rw [space] at blank
        cases blank
      · exact colon sign
      · exact equals sign
    · have bracketed : (a ++ kept ++ ofString "[REDACTED") ++ Symbol.ofChar ']' :: e' =
          b ++ f :: m := by
        rw [front]
        have parted : (ofString mark : List α) = ofString "[REDACTED" ++ [Symbol.ofChar ']'] := rfl
        simp [parted]
      rcases cases_of_parts bracketed with ⟨y, -, rfl⟩ | ⟨y, -, inside⟩
      · exact separator.not_initial (within f (by simp)) initial
      · refine keying.not_foreign (c := Symbol.ofChar ']') ?_ ?_
        · simp [inside]
        · rw [Symbol.Lawful.glyph_ofChar]
          decide

/-! ## What the rules keep -/

section
variable {before : Option α} {a rest out : List α}

theorem bearing_dull (none : ∀ c ∈ a, isLetter 'b' (glyph c) = false)
    (others : Redacted Bearing isTokenChar (lastOf before a) rest out) :
    Redacted Bearing isTokenChar before (a ++ rest) (a ++ out) := by
  refine .behind_dull (fun _ => ?_) ?_ others
  · rintro ⟨word, blanks, same, -, given, -⟩
    exact given (List.append_eq_nil_iff.mp same.symm).2
  · intro c member before b bearing
    have other := none c member
    rw [bearing.begins] at other
    cases other

theorem keying_dull [Symbol.Lawful α] (none : ∀ c ∈ a, ¬ Initial (glyph c))
    (others : Redacted Keying isValueChar (lastOf before a) rest out) :
    Redacted Keying isValueChar before (a ++ rest) (a ++ out) := by
  refine .behind_dull (fun _ => keying_lawful.nonempty) ?_ others
  intro c member before b keying
  exact none c member keying.begins.1

/-- A value has no blank behind a word, so the first rule keeps it. -/
theorem bearing_value (members : ∀ c ∈ a, isValueChar (glyph c) = true) (closes : Closes rest)
    (others : Redacted Bearing isTokenChar (lastOf before a) rest out) :
    Redacted Bearing isTokenChar before (a ++ rest) (a ++ out) := by
  refine .behind ?_ others
  rintro b c y rfl before ⟨_, d, tail, same, ⟨word, blanks, rfl, spells, given, blank⟩, -⟩
  obtain ⟨s, blanks, rfl⟩ := List.exists_cons_of_ne_nil given
  have space := blank s List.mem_cons_self
  have swapped : word ++ s :: (blanks ++ d :: tail) = c :: y ++ rest := by simpa using same.symm
  rcases cases_of_parts swapped with ⟨e, parts, -⟩ | ⟨e, rfl, parts⟩
  · have value := members s (List.mem_append_right b (by simp [parts]))
    rw [isValueChar_of_isBlank space] at value
    cases value
  · cases e with
    | nil =>
      rcases closes s (by simp [parts]) with comma | semicolon
      · rw [comma] at space
        exact absurd space (by decide)
      · rw [semicolon] at space
        exact absurd space (by decide)
    | cons l e =>
      obtain ⟨w, known, letter⟩ := spells.exists_letter (c := l) (by simp)
      have value := isValueChar_of_isLetter (bearing_letters w known) letter
      rw [closes.not_value l (by simp [parts])] at value
      cases value

end

end MonitoringUpkeep.Redaction
