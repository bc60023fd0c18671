import MonitoringUpkeep.Redaction

/-!
# Letters, blanks and marks

How the classes of characters that redaction looks at lie to each other: blanks belong to no other
class, and what spells a letter of a sensitive key belongs to words, tokens and values alike. Letter case
and the letters that share it leave finitely many characters for a letter, and there are finitely many
blanks, so these facts are read off the tables.
-/

namespace MonitoringUpkeep

/-- A type of symbols in which a character is classified as itself. -/
class Symbol.Lawful (α : Type) [Symbol α] : Prop where
  glyph_ofChar (c : Char) : Symbol.glyph (Symbol.ofChar c : α) = c

attribute [simp] Symbol.Lawful.glyph_ofChar

instance : Symbol.Lawful Char := ⟨Char.ofNat_toNat⟩

instance : Symbol.Lawful TextUnit := ⟨Char.ofNat_toNat⟩

theorem CharClass.within_cons_cons (a b : Nat) (rest : List Nat) (n : Nat) :
    within (a :: b :: rest) n = true ↔ a ≤ n ∧ (n < b ∨ within rest n = true) := by
  by_cases low : n < a
  · simp [within, low, Nat.not_le.mpr low]
  · by_cases high : n < b <;> simp [within, low, high, Nat.not_lt.mp low]

namespace Redaction

/-- A property of the members of a list, checked one by one. -/
theorem forall_mem_of_all {α : Type} {p : α → Prop} [DecidablePred p] {l : List α}
    (all : l.all (fun a => decide (p a)) = true) : ∀ a ∈ l, p a := by
  simpa using all

/-! ## Blanks -/

/-- The blank characters one by one. -/
def blankCodes : List Nat :=
  [0x9, 0xa, 0xb, 0xc, 0xd, 0x1c, 0x1d, 0x1e, 0x1f, 0x20, 0x85, 0xa0, 0x1680, 0x2000, 0x2001, 0x2002,
    0x2003, 0x2004, 0x2005, 0x2006, 0x2007, 0x2008, 0x2009, 0x200a, 0x2028, 0x2029, 0x202f, 0x205f,
    0x3000]

variable {c w : Char}

theorem mem_blankCodes (blank : Text.isBlank c = true) : c.toNat ∈ blankCodes := by
  have unrolled : CharClass.within Text.blanks.bounds c.toNat = true := blank
  simp only [Text.blanks, CharClass.within_cons_cons] at unrolled
  simp only [blankCodes, List.mem_cons, List.not_mem_nil, or_false]
  simp only [CharClass.within, Bool.false_eq_true, or_false] at unrolled
  omega

theorem blankCodes_apart : ∀ n ∈ blankCodes,
    Text.isWord (Char.ofNat n) = false ∧ isTokenChar (Char.ofNat n) = false := by
  decide +kernel

theorem isWord_of_isBlank (blank : Text.isBlank c = true) : Text.isWord c = false := by
  simpa using (blankCodes_apart _ (mem_blankCodes blank)).1

theorem isTokenChar_of_isBlank (blank : Text.isBlank c = true) : isTokenChar c = false := by
  simpa using (blankCodes_apart _ (mem_blankCodes blank)).2

theorem isValueChar_of_isBlank (blank : Text.isBlank c = true) : isValueChar c = false := by
  simp [isValueChar, blank]

/-! ## Letters -/

/-- The codes of all characters that can spell a letter of the English alphabet or an ASCII sign. -/
def letterCodes : List Nat := List.range 128 ++ [0x130, 0x131, 0x17f, 0x212a]

theorem toLower_of_large (far : 90 < c.toNat) : c.toLower = c := by
  refine dif_neg ?_
  rintro ⟨-, capital⟩
  exact absurd capital (Nat.not_le.mpr far)

theorem mem_letterCodes (ascii : w.toNat < 128) (spelt : isLetter w c = true) :
    c.toNat ∈ letterCodes := by
  simp only [isLetter, Bool.or_eq_true, Bool.and_eq_true, beq_iff_eq] at spelt
  simp only [letterCodes, List.mem_append, List.mem_range, List.mem_cons, List.not_mem_nil, or_false]
  rcases spelt with ((lower | ⟨-, same⟩) | ⟨-, same⟩) | ⟨-, same | same⟩
  · left
    rcases Nat.lt_or_ge 90 c.toNat with far | near
    · rwa [← lower, toLower_of_large far] at ascii
    · omega
  all_goals simp [same]

/-- The one letter or sign that a character spells. -/
def letterOf (c : Char) : Char :=
  if c.toNat = 0x17f then 's'
  else if c.toNat = 0x212a then 'k'
  else if c.toNat = 0x130 ∨ c.toNat = 0x131 then 'i'
  else c.toLower

theorem letterOf_eq (ascii : w.toNat < 128) (spelt : isLetter w c = true) : letterOf c = w := by
  have plain (n : Nat) (far : 128 ≤ n) (code : c.toNat = n) : c.toLower ≠ w := by
    rintro rfl
    rw [toLower_of_large (by omega)] at ascii
    omega
  simp only [isLetter, Bool.or_eq_true, Bool.and_eq_true, beq_iff_eq] at spelt
  unfold letterOf
  rcases spelt with ((lower | ⟨rfl, same⟩) | ⟨rfl, same⟩) | ⟨rfl, same | same⟩
  · rw [if_neg fun code => plain _ (by decide) code lower,
      if_neg fun code => plain _ (by decide) code lower, if_neg ?_]
    · exact lower
    · rintro (code | code)
      · exact plain _ (by decide) code lower
      · exact plain _ (by decide) code lower
  all_goals simp [same]

/-- The letters and signs of the words that redaction looks for. -/
def wordLetters : List Char := "bearer".toList ++ sensitiveKeys.flatten

theorem wordLetters_ascii : ∀ w ∈ wordLetters, w.toNat < 128 := forall_mem_of_all (by decide)

theorem eq_of_isLetter {w' : Char} (known : w ∈ wordLetters) (known' : w' ∈ wordLetters)
    (spelt : isLetter w c = true) (spelt' : isLetter w' c = true) : w = w' :=
  (letterOf_eq (wordLetters_ascii w known) spelt).symm.trans
    (letterOf_eq (wordLetters_ascii w' known') spelt')

theorem letterCodes_apart : ∀ w ∈ wordLetters, ∀ n ∈ letterCodes,
    isLetter w (Char.ofNat n) = true →
      isTokenChar (Char.ofNat n) = true ∧ isValueChar (Char.ofNat n) = true ∧
        (w ≠ '-' → Text.isWord (Char.ofNat n) = true) ∧
        Char.ofNat n ≠ ':' ∧ Char.ofNat n ≠ '=' :=
  forall_mem_of_all (by decide +kernel)

section
variable (known : w ∈ wordLetters) (spelt : isLetter w c = true)
include known spelt

theorem isTokenChar_of_isLetter : isTokenChar c = true := by
  have small := mem_letterCodes (wordLetters_ascii w known) spelt
  simpa using (letterCodes_apart w known _ small (by simpa using spelt)).1

theorem isValueChar_of_isLetter : isValueChar c = true := by
  have small := mem_letterCodes (wordLetters_ascii w known) spelt
  simpa using (letterCodes_apart w known _ small (by simpa using spelt)).2.1

theorem isWord_of_isLetter (letter : w ≠ '-') : Text.isWord c = true := by
  have small := mem_letterCodes (wordLetters_ascii w known) spelt
  simpa using (letterCodes_apart w known _ small (by simpa using spelt)).2.2.1 letter

theorem not_sign_of_isLetter : c ≠ ':' ∧ c ≠ '=' := by
  have small := mem_letterCodes (wordLetters_ascii w known) spelt
  simpa using (letterCodes_apart w known _ small (by simpa using spelt)).2.2.2

end

end Redaction

end MonitoringUpkeep
