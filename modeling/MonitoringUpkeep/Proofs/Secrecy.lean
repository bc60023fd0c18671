import MonitoringUpkeep.Proofs.Fronts
import MonitoringUpkeep.Proofs.NormalForm

/-!
# What hides a value

A value behind a sensitive key is taken out, whatever it is, if the key is still there when the second
rule comes to it. A secret in front of the key can take the key with it: the word "bearer" turns a key
behind it into a token, and a value that a key follows without a blank has that key as its end. Then the
value behind the key stays in the text, but for the one case where it is a part of the same secret.
-/

namespace MonitoringUpkeep.Redaction

open MonitoringUpkeep.Symbol (glyph ofString)

variable {α : Type} [Symbol α]

/-- A value is made of symbols that are no blanks, commas and semicolons. -/
structure IsValue (v : List α) : Prop where
  some : v ≠ []
  members : ∀ c ∈ v, isValueChar (glyph c) = true

/-- A text, and behind it a sensitive key where a word can begin, and its separator. -/
structure Keyed (p k sep : List α) : Prop where
  start : ∀ c ∈ p.getLast?, Text.isWord (glyph c) = false
  spelt : ∃ key ∈ sensitiveKeys, Spells key k
  separator : Separator sep

/-! ## Both rules behind a key -/

/-- Two values that no front and no token has a part in. -/
theorem sign_foreign {c : Char} (sign : c = '%' ∨ c = '&') :
    isValueChar c = true ∧ isTokenChar c = false ∧ Foreign c := by
  rcases sign with rfl | rfl <;> decide

variable [Symbol.Lawful α]

theorem redactSymbols_eq {t u y : List α} (tokens : Redacted Bearing isTokenChar none t u)
    (values : Redacted Keying isValueChar none u y) : redactSymbols t = y := by
  have first : u = apply bearer t := tokens.eq bearer_finds fun _ => bearing_lawful.nonempty
  rw [redactSymbols, ← first]
  exact (values.eq sensitiveValue_finds fun _ => keying_lawful.nonempty).symm

/-- A value that stays where it is can be told from another one. -/
theorem not_hidden {f : List α → List α} {y z : List α}
    (shown : ∀ u, glyph u = '%' ∨ glyph u = '&' → f [u] = y ++ u :: z) :
    ¬ ∀ v v', IsValue v → IsValue v' → f v = f v' := by
  intro same
  have value (c : Char) (member : isValueChar c = true) : IsValue [(Symbol.ofChar c : α)] :=
    ⟨by simp, by simpa using member⟩
  have equal := same _ _ (value '%' (by decide)) (value '&' (by decide))
  rw [shown _ (by simp), shown _ (by simp)] at equal
  have glyphs := congrArg glyph (List.cons_eq_cons.mp (List.append_cancel_left equal)).1
  simp at glyphs

/-- Behind a value the rules begin anew. -/
theorem Closes.redacted {rest : List α} (closes : Closes rest) (before : Option α) :
    Redacted Bearing isTokenChar before rest (apply bearer rest) ∧
      Redacted Keying isValueChar before (apply bearer rest) (redactSymbols rest) ∧
      Closes (apply bearer rest) := by
  obtain ⟨tokens, values⟩ := redactSymbols_redacted rest
  have head := tokens.head_of_not_member bearing_lawful closes.not_token
  have closes' : Closes (apply bearer rest) := by
    intro c known
    rw [head] at known
    exact closes c known
  exact ⟨tokens.anywhere bearing_lawful closes.not_token before,
    values.anywhere keying_lawful closes'.not_value before, closes'⟩

section
variable {p k sep v rest o o₂ b kept c : List α} {x : α} (keyed : Keyed p k sep)
include keyed

omit [Symbol.Lawful α] in
theorem Keyed.first : ∃ x, k.head? = some x ∧ Initial (glyph x) := by
  obtain ⟨key, known, spells⟩ := keyed.spelt
  exact spells.begins known

omit [Symbol.Lawful α] in
theorem Keyed.key_symbols : ∀ c ∈ k,
    isTokenChar (glyph c) = true ∧ isValueChar (glyph c) = true ∧ isLetter 'b' (glyph c) = false := by
  obtain ⟨key, known, spells⟩ := keyed.spelt
  exact fun c member => spells.key_symbols known member

omit [Symbol.Lawful α] in
/-- Where a word can begin, a key with its separator is a front of the second rule. -/
theorem Keyed.keying {before : Option α} (start : ∀ c ∈ before, Text.isWord (glyph c) = false) :
    Keying before (k ++ sep) := by
  obtain ⟨key, known, spells⟩ := keyed.spelt
  obtain ⟨x, head, initial⟩ := spells.begins known
  obtain ⟨y, last, word⟩ := spells.ends known
  obtain ⟨s, t, parts⟩ := List.exists_cons_of_ne_nil keyed.separator.ne_nil
  have apart : Text.isWord (glyph s) = false := keyed.separator.not_word (by simp [parts])
  refine ⟨key, known, k, sep, rfl, spells, ?_, ?_, keyed.separator⟩
  · cases before with
    | none => simp [isBoundary, head, initial.isWord]
    | some c => simp [isBoundary, head, initial.isWord, start c rfl]
  · simp [isBoundary, last, parts, word, apart]

omit [Symbol.Lawful α] in
/-- A text that ends with the mark does not end with a key. -/
theorem Keyed.not_suffix {y : List α} (last : ∀ c ∈ y.getLast?, glyph c = ']') : ¬ k <:+ y := by
  intro suffix
  obtain ⟨key, known, spells⟩ := keyed.spelt
  obtain ⟨c, ends, word⟩ := spells.ends known
  rw [last c (last_of_suffix suffix ends)] at word
  exact absurd word (by decide)

/-- The first rule leaves the place in front of the key as one where a word can begin. -/
theorem Keyed.start_of_redacted (tokens : Redacted Bearing isTokenChar none p o) :
    ∀ c ∈ o.getLast?, Text.isWord (glyph c) = false := by
  rcases tokens.ending with same | same
  · rw [same]
    exact keyed.start
  · intro c last
    rw [same, Option.mem_some_iff] at last
    rw [← last, Symbol.Lawful.glyph_ofChar]
    decide

/-! ### The key is left by the first rule -/

section
variable (head : k.head? = some x) (tokens : Passes Bearing isTokenChar none p x o)
include head tokens

omit [Symbol.Lawful α] in
theorem Keyed.tokens_of_key : Redacted Bearing isTokenChar none (p ++ k) (o ++ k) := by
  refine tokens.onward head ?_
  have kept : Redacted Bearing isTokenChar (lastOf none p) (k ++ []) (k ++ []) :=
    bearing_dull (fun c member => (keyed.key_symbols c member).2.2) .nil
  simpa using kept

theorem Keyed.tokens_of_value (members : ∀ c ∈ v, isValueChar (glyph c) = true)
    (closes : Closes rest) :
    Redacted Bearing isTokenChar none (p ++ (k ++ (sep ++ (v ++ rest))))
      (o ++ (k ++ (sep ++ (v ++ apply bearer rest)))) := by
  refine tokens.onward (by simp [head]) ?_
  refine bearing_dull (fun c member => (keyed.key_symbols c member).2.2) ?_
  refine bearing_dull (fun c member => keyed.separator.not_letter member (by decide)) ?_
  exact bearing_value members closes (closes.redacted _).1

end

/-! ### The key is left by both rules -/

section
variable (head : k.head? = some x) (values : Passes Keying isValueChar none o x o₂)
include head values

omit [Symbol.Lawful α] in
/-- A key alone is no place of the second rule: its separator is missing. -/
theorem Keyed.values_of_key : Redacted Keying isValueChar none (o ++ k) (o₂ ++ k) := by
  refine values.onward head ?_
  have kept : Redacted Keying isValueChar (lastOf none o) (k ++ []) (k ++ []) := by
    refine .behind ?_ .nil
    rintro b c y parts before ⟨_, d, tail, same, ⟨_, -, k', sep', rfl, -, -, -, separator⟩, -⟩
    obtain ⟨s, t, rfl⟩ := List.exists_cons_of_ne_nil separator.ne_nil
    have member : s ∈ k := by
      rw [List.append_nil] at same
      rw [parts, same]
      simp
    obtain ⟨key, known, spells⟩ := keyed.spelt
    obtain ⟨w, letter, spelt⟩ := spells.exists_letter member
    rw [separator.not_letter List.mem_cons_self (mem_wordLetters known letter)] at spelt
    cases spelt
  simpa using kept

omit [Symbol.Lawful α] in
theorem Keyed.values_of_value (start : ∀ c ∈ o.getLast?, Text.isWord (glyph c) = false)
    (value : IsValue v) {r r₂ : List α} (closes : Closes r)
    (others : ∀ before, Redacted Keying isValueChar before r r₂) :
    Redacted Keying isValueChar none (o ++ (k ++ (sep ++ (v ++ r))))
      (o₂ ++ (k ++ sep ++ ofString mark ++ r₂)) := by
  have place : Place Keying isValueChar (lastOf none o) (k ++ sep) v r := by
    refine ⟨keyed.keying ?_, value.some, value.members, closes.not_value⟩
    simpa [lastOf] using start
  refine values.onward (by simp [head]) ?_
  simpa using Redacted.mask place (others _)

end

/-! ### The key is left by the first rule and taken by the second one -/

section
variable (head : k.head? = some x) (taken : Reaches Keying isValueChar none o x b kept c o₂)
include head taken

omit [Symbol.Lawful α] in
theorem Keyed.taken_of_key :
    Redacted Keying isValueChar none (o ++ k) (o₂ ++ kept ++ ofString mark) := by
  have masked := taken.onward head (fun c member => (keyed.key_symbols c member).2.1)
    (by simp) .nil
  simpa using masked

omit [Symbol.Lawful α] in
/-- A separator without blanks is a part of the secret that the key is in, and so is the value. -/
theorem Keyed.taken_of_value (bare : ∀ c ∈ sep, Text.isBlank (glyph c) = false)
    (members : ∀ c ∈ v, isValueChar (glyph c) = true) {r r₂ : List α} (closes : Closes r)
    (others : ∀ before, Redacted Keying isValueChar before r r₂) :
    Redacted Keying isValueChar none (o ++ (k ++ (sep ++ (v ++ r))))
      (o₂ ++ kept ++ ofString mark ++ r₂) := by
  have whole : ∀ c ∈ k ++ sep ++ v, isValueChar (glyph c) = true := by
    intro c member
    rcases List.mem_append.mp member with member | member
    · rcases List.mem_append.mp member with member | member
      · exact (keyed.key_symbols c member).2.1
      · rcases keyed.separator.sign member with blank | sign | sign
        · rw [bare c member] at blank
          cases blank
        · rw [sign]
          decide
        · rw [sign]
          decide
    · exact members c member
  have masked := taken.onward (by simp [head]) whole closes.not_value (others _)
  simpa using masked

/-- A blank in the separator ends the secret that the key is in, and the value stays. -/
theorem Keyed.shown_of_taken (spaced : ¬ ∀ c ∈ sep, Text.isBlank (glyph c) = false) {r r₂ : List α}
    (others : ∀ before, Redacted Keying isValueChar before r r₂) {u : α} (foreign : Foreign (glyph u)) :
    Redacted Keying isValueChar none (o ++ (k ++ (sep ++ ([u] ++ r))))
      (o₂ ++ kept ++ ofString mark ++ (behind isValueChar sep ++ ([u] ++ r₂))) := by
  have some : behind isValueChar sep ≠ [] := by
    intro none
    have whole := run_append_behind isValueChar sep
    rw [none, List.append_nil] at whole
    refine spaced fun c member => ?_
    rw [← whole] at member
    have value := mem_run member
    rw [← Bool.not_eq_true]
    intro blank
    rw [isValueChar_of_isBlank blank] at value
    cases value
  have within : ∀ d ∈ behind isValueChar sep, ¬ Initial (glyph d) := fun d member =>
    keyed.separator.not_initial ((List.dropWhile_suffix _).subset member)
  refine taken.partly head (fun c member => (keyed.key_symbols c member).2.1)
    (fun none => absurd none some) fun before => ?_
  exact keying_dull within (keying_dull (by simpa using foreign.not_initial) (others _))

end

/-! ### The key is taken by the first rule -/

section
variable (head : k.head? = some x) (taken : Reaches Bearing isTokenChar none p x b kept c o)
include head taken

omit [Symbol.Lawful α] in
theorem Keyed.lost_key :
    Redacted Bearing isTokenChar none (p ++ k) (o ++ kept ++ ofString mark) := by
  have masked := taken.onward head (fun c member => (keyed.key_symbols c member).1) (by simp) .nil
  simpa using masked

theorem Keyed.shown_of_lost (closes : Closes rest) {u : α} (other : isTokenChar (glyph u) = false)
    (foreign : Foreign (glyph u)) :
    Redacted Bearing isTokenChar none (p ++ (k ++ (sep ++ ([u] ++ rest))))
      (o ++ kept ++ ofString mark ++ (behind isTokenChar sep ++ ([u] ++ apply bearer rest))) := by
  have within : ∀ d ∈ behind isTokenChar sep, isLetter 'b' (glyph d) = false := fun d member =>
    keyed.separator.not_letter ((List.dropWhile_suffix _).subset member) (by decide)
  refine taken.partly head (fun c member => (keyed.key_symbols c member).1)
    (fun _ d known => ?_) fun before => ?_
  · cases known
    exact other
  · have single : ∀ d ∈ [u], isLetter 'b' (glyph d) = false := by
      simpa using foreign.1 'b' (by decide)
    exact bearing_dull within (bearing_dull single (closes.redacted _).1)

end

/-! ### What is seen of a value -/

/-- With the key left by both rules the value is taken out, and nothing else around it. -/
theorem Keyed.hides (closes : Closes rest) (head : k.head? = some x)
    (tokens : Passes Bearing isTokenChar none p x o)
    (values : Passes Keying isValueChar none o x o₂) :
    k <:+ redactSymbols (p ++ k) ∧ ∀ v, IsValue v →
      redactSymbols (p ++ k ++ sep ++ v ++ rest) =
        redactSymbols p ++ k ++ sep ++ ofString mark ++ redactSymbols rest := by
  have start := keyed.start_of_redacted tokens.here
  have key := redactSymbols_eq (keyed.tokens_of_key head tokens) (keyed.values_of_key head values)
  refine ⟨key ▸ List.suffix_append o₂ k, fun v value => ?_⟩
  have others (before : Option α) := (closes.redacted before).2.1
  have text := redactSymbols_eq (keyed.tokens_of_value head tokens value.members closes)
    (keyed.values_of_value head values start value (closes.redacted none).2.2 others)
  rw [← redactSymbols_eq tokens.here values.here] at text
  simpa using text

/-- With the key taken by the second rule the value is taken out as a part of the same secret, or it
    stays: that is for the separator to say. -/
theorem Keyed.hides_iff_bare (closes : Closes rest) (head : k.head? = some x)
    (tokens : Passes Bearing isTokenChar none p x o)
    (taken : Reaches Keying isValueChar none o x b kept c o₂) :
    k <:+ apply bearer (p ++ k) ∧ ¬ k <:+ redactSymbols (p ++ k) ∧
      ((∀ v v', IsValue v → IsValue v' → redactSymbols (p ++ k ++ sep ++ v ++ rest) =
          redactSymbols (p ++ k ++ sep ++ v' ++ rest)) ↔
        ∀ c ∈ sep, Text.isBlank (glyph c) = false) := by
  have key := keyed.tokens_of_key head tokens
  have others (before : Option α) := (closes.redacted before).2.1
  have closes' := (closes.redacted none).2.2
  refine ⟨?_, ?_, ?_, ?_⟩
  · have first : o ++ k = apply bearer (p ++ k) :=
      key.eq bearer_finds fun _ => bearing_lawful.nonempty
    exact first ▸ List.suffix_append o k
  · rw [redactSymbols_eq key (keyed.taken_of_key head taken)]
    exact keyed.not_suffix (by simp [getLast?_mark])
  · intro same
    by_contra spaced
    refine not_hidden (y := o₂ ++ kept ++ ofString mark ++ behind isValueChar sep)
      (z := redactSymbols rest) ?_ same
    intro u sign
    obtain ⟨value, -, foreign⟩ := sign_foreign sign
    have text := redactSymbols_eq
      (keyed.tokens_of_value head tokens (v := [u]) (by simpa using value) closes)
      (keyed.shown_of_taken head taken spaced others foreign)
    simpa using text
  · intro bare v v' value value'
    have text {v : List α} (value : IsValue v) := redactSymbols_eq
      (keyed.tokens_of_value head tokens value.members closes)
      (keyed.taken_of_value head taken bare value.members closes' others)
    have equal := (text value).trans (text value').symm
    simpa using equal

/-- With the key taken by the first rule the value stays. -/
theorem Keyed.shows (closes : Closes rest) (head : k.head? = some x)
    (taken : Reaches Bearing isTokenChar none p x b kept c o) :
    ¬ k <:+ apply bearer (p ++ k) ∧ ¬ k <:+ redactSymbols (p ++ k) ∧
      ¬ ∀ v v', IsValue v → IsValue v' → redactSymbols (p ++ k ++ sep ++ v ++ rest) =
        redactSymbols (p ++ k ++ sep ++ v' ++ rest) := by
  have key := keyed.lost_key head taken
  have first : o ++ kept ++ ofString mark = apply bearer (p ++ k) :=
    key.eq bearer_finds fun _ => bearing_lawful.nonempty
  refine ⟨?_, ?_, ?_⟩
  · rw [← first]
    exact keyed.not_suffix (by simp [getLast?_mark])
  · refine keyed.not_suffix ?_
    obtain ⟨-, values⟩ := redactSymbols_redacted (p ++ k)
    rw [← first] at values
    rcases values.ending with same | same
    · simp [same, List.getLast?_append, getLast?_mark]
    · simp [same]
  · refine not_hidden (y := applyFrom sensitiveValue none 0
      (o ++ kept ++ ofString mark ++ behind isTokenChar sep)) (z := redactSymbols rest) ?_
    intro u sign
    obtain ⟨value, other, foreign⟩ := sign_foreign sign
    have tokens := keyed.shown_of_lost head taken closes other foreign
    rcases passes_or_reaches (fun _ => keying_lawful.nonempty) (keying_seam_of_foreign foreign) value
        none with ⟨o', values⟩ | ⟨b', kept', c', o', reaches⟩
    · rw [← values.here.eq sensitiveValue_finds fun _ => keying_lawful.nonempty]
      have single : ∀ d ∈ [u], ¬ Initial (glyph d) := by simpa using foreign.not_initial
      have beyond := values.onward rfl (keying_dull single (closes.redacted _).2.1)
      have text := redactSymbols_eq tokens (by simpa using beyond)
      simpa using text
    · have within : ∀ d ∈ behind isTokenChar sep, d ∈ sep :=
        fun d member => (List.dropWhile_suffix _).subset member
      exact absurd reaches.parts
        (taken.keeps.shields keyed.separator within reaches.keeps reaches.members)

end

/-- What hides a value behind a sensitive key: that the key is still there when the second rule comes to
    it. Then the mark stands for the value, and what is in front of the key and behind the value comes out
    as if it stood alone. There is one other way, and no third: a secret in front of the key takes the key
    with it, the separator without blanks, and the value. -/
theorem redactSymbols_hides {p k sep rest : List α} (keyed : Keyed p k sep) (closes : Closes rest) :
    (k <:+ redactSymbols (p ++ k) → ∀ v, IsValue v →
      redactSymbols (p ++ k ++ sep ++ v ++ rest) =
        redactSymbols p ++ k ++ sep ++ ofString mark ++ redactSymbols rest) ∧
    ((∀ v v', IsValue v → IsValue v' → redactSymbols (p ++ k ++ sep ++ v ++ rest) =
        redactSymbols (p ++ k ++ sep ++ v' ++ rest)) ↔
      k <:+ redactSymbols (p ++ k) ∨
        k <:+ apply bearer (p ++ k) ∧ ∀ c ∈ sep, Text.isBlank (glyph c) = false) := by
  obtain ⟨x, head, initial⟩ := keyed.first
  have member : isTokenChar (glyph x) = true ∧ isValueChar (glyph x) = true := by
    obtain ⟨token, value, -⟩ := keyed.key_symbols x (List.mem_of_head? head)
    exact ⟨token, value⟩
  rcases passes_or_reaches (fun _ => bearing_lawful.nonempty)
      (bearing_seam keyed.start initial.isWord) member.1 none with ⟨o, tokens⟩ | ⟨b, kept, c, o, taken⟩
  · rcases passes_or_reaches (fun _ => keying_lawful.nonempty)
        (keying_seam (keyed.start_of_redacted tokens.here) initial) member.2 none with
      ⟨o₂, values⟩ | ⟨b, kept, c, o₂, taken⟩
    · obtain ⟨seen, hidden⟩ := keyed.hides closes head tokens values
      refine ⟨fun _ => hidden, fun _ => .inl seen, fun _ v v' value value' => ?_⟩
      rw [hidden v value, hidden v' value']
    · obtain ⟨left, gone, iff⟩ := keyed.hides_iff_bare closes head tokens taken
      simp only [gone, left, iff, false_or, true_and, false_implies, and_self]
  · obtain ⟨lost, gone, shown⟩ := keyed.shows closes head taken
    simp only [gone, lost, shown, false_or, false_and, false_implies, and_self]

/-- The word "token" spells a sensitive key, and a colon with a blank is a separator. -/
theorem keyed_token {p : List Char} (start : p.getLast?.all (fun c => !Text.isWord c) = true) :
    Keyed p "token".toList ": ".toList where
  start := by simpa [Option.all_eq_true] using start
  spelt := by
    refine ⟨"token".toList, by decide, ?_⟩
    repeat refine .cons (by decide) ?_
    exact .nil
  separator := by
    refine ⟨[], ':', [' '], rfl, nofun, .inl (by decide), ?_⟩
    rintro c member
    rw [List.mem_singleton.mp member]
    decide

/-- A token in front of the key that ends before it leaves the key where it is. -/
theorem redactSymbols_hides_rotated :
    Keyed "Invalid bearer abc, ".toList "token".toList ": ".toList ∧
      Closes "; try again".toList ∧
      "token".toList <:+ redactSymbols ("Invalid bearer abc, ".toList ++ "token".toList) ∧
      (∀ v, IsValue v → redactSymbols ("Invalid bearer abc, ".toList ++ "token".toList ++
          ": ".toList ++ v ++ "; try again".toList) =
        redactSymbols "Invalid bearer abc, ".toList ++ "token".toList ++ ": ".toList ++
          ofString mark ++ redactSymbols "; try again".toList) := by
  have keyed : Keyed "Invalid bearer abc, ".toList "token".toList ": ".toList :=
    keyed_token (by decide)
  have closes : Closes "; try again".toList := by
    rintro c head
    cases head
    exact .inr (by decide)
  have seen : "token".toList <:+ redactSymbols ("Invalid bearer abc, ".toList ++ "token".toList) := by
    decide +kernel
  exact ⟨keyed, closes, seen, (redactSymbols_hides keyed closes).1 seen⟩

/-- The word "bearer" in front of the key turns the key into a token, and the value is seen. -/
theorem redactSymbols_shows_value :
    Keyed "Invalid bearer ".toList "token".toList ": ".toList ∧ Closes ([] : List Char) ∧
      IsValue "hunter2".toList ∧ IsValue "[REDACTED]".toList ∧
      redactSymbols ("Invalid bearer ".toList ++ "token".toList ++ ": ".toList ++ "hunter2".toList ++ []) =
        "Invalid bearer [REDACTED]: hunter2".toList ∧
      redactSymbols
          ("Invalid bearer ".toList ++ "token".toList ++ ": ".toList ++ "[REDACTED]".toList ++ []) =
        "Invalid bearer [REDACTED]: [REDACTED]".toList := by
  refine ⟨keyed_token (by decide), nofun, ⟨by decide, ?_⟩, ⟨by decide, ?_⟩, ?_⟩
  · exact forall_mem_of_all (by decide +kernel)
  · exact forall_mem_of_all (by decide +kernel)
  · decide +kernel

end MonitoringUpkeep.Redaction
