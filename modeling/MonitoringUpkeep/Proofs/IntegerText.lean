import Mathlib.Data.Nat.Digits.Defs
import MonitoringUpkeep.Proofs.Glyphs
import MonitoringUpkeep.Text.Integer

/-!
# Integers as texts

A text that is read as an integer is of a simple form: blanks, at most one sign, digits of any scripts with
single underscores between them, blanks. What it is read as is the number that the digits denote, with the
sign.
-/

namespace MonitoringUpkeep.Text

/-! ## Digits -/

/-- A character is the digit of a value in some script. -/
def IsDigit (c : Char) (d : Nat) : Prop := ∃ first ∈ zeros, c.toNat = first + d ∧ d < 10

/-- The digits of the scripts do not overlap. -/
theorem zeros_apart : zeros.Pairwise fun first next => first + 10 ≤ next := by
  decide +kernel

theorem find?_zero {firsts : List Nat} (apart : firsts.Pairwise fun first next => first + 10 ≤ next)
    (n d : Nat) :
    (firsts.find? fun first => first ≤ n && n < first + 10).map (n - ·) = some d ↔
      ∃ first ∈ firsts, n = first + d ∧ d < 10 := by
  induction firsts with
  | nil => simp
  | cons first rest ih =>
    have ⟨later, below⟩ := List.pairwise_cons.mp apart
    by_cases inside : first ≤ n ∧ n < first + 10
    · have found : (decide (first ≤ n) && decide (n < first + 10)) = true := by simpa using inside
      simp only [List.find?_cons, found, Option.map_some, Option.some.injEq]
      constructor
      · rintro rfl
        exact ⟨first, List.mem_cons_self, by omega, by omega⟩
      · rintro ⟨other, member, same, small⟩
        rcases List.mem_cons.mp member with rfl | member
        · omega
        · have := later other member
          omega
    · have skipped : (decide (first ≤ n) && decide (n < first + 10)) = false := by simpa using inside
      simp only [List.find?_cons, skipped, ih below]
      constructor
      · rintro ⟨other, member, digit⟩
        exact ⟨other, List.mem_cons_of_mem first member, digit⟩
      · rintro ⟨other, member, digit⟩
        rcases List.mem_cons.mp member with rfl | member
        · omega
        · exact ⟨other, member, digit⟩

variable {c : Char} {d : Nat}

theorem digitValue?_iff : digitValue? c = some d ↔ IsDigit c d := find?_zero zeros_apart c.toNat d

/-- No digit is a blank, a sign or an underscore. -/
theorem digits_apart : ∀ first ∈ zeros, ∀ d < 10, first + d ∉ Redaction.blankCodes ∧
    first + d ≠ '-'.toNat ∧ first + d ≠ '+'.toNat ∧ first + d ≠ '_'.toNat := by
  decide +kernel

theorem IsDigit.not_margin (digit : IsDigit c d) : isMargin c = false := by
  obtain ⟨first, known, same, small⟩ := digit
  have apart := (digits_apart first known d small).1
  rw [← same] at apart
  have blank : isBlank c = false := Bool.eq_false_iff.mpr fun blank =>
    apart (Redaction.mem_blankCodes blank)
  simp [isMargin, blank]

theorem IsDigit.not_sign (digit : IsDigit c d) : c ≠ '-' ∧ c ≠ '+' ∧ c ≠ '_' := by
  obtain ⟨first, known, same, small⟩ := digit
  obtain ⟨-, minus, plus, underscore⟩ := digits_apart first known d small
  rw [← same] at minus plus underscore
  exact ⟨fun is => minus (is ▸ rfl), fun is => plus (is ▸ rfl), fun is => underscore (is ▸ rfl)⟩

/-- A run of digits with single underscores between them, and the values of the digits. -/
inductive DigitRun : List Char → List Nat → Prop
  | last {c : Char} {d : Nat} : IsDigit c d → DigitRun [c] [d]
  | next {c : Char} {d : Nat} {cs : List Char} {ds : List Nat} :
    IsDigit c d → DigitRun cs ds → DigitRun (c :: cs) (d :: ds)
  | separated {c : Char} {d : Nat} {cs : List Char} {ds : List Nat} :
    IsDigit c d → DigitRun cs ds → DigitRun (c :: '_' :: cs) (d :: ds)

/-- A run begins with a digit. -/
theorem DigitRun.exists_cons {cs : List Char} {ds : List Nat} (run : DigitRun cs ds) :
    ∃ c d rest, cs = c :: rest ∧ IsDigit c d := by
  cases run with
  | last digit | next digit | separated digit => exact ⟨_, _, _, rfl, digit⟩

/-- A run ends with a digit. -/
theorem DigitRun.exists_concat {cs : List Char} {ds : List Nat} (run : DigitRun cs ds) :
    ∃ front c d, cs = front ++ [c] ∧ IsDigit c d := by
  induction run with
  | last digit => exact ⟨[], _, _, rfl, digit⟩
  | @next c _ _ _ _ _ ih =>
    obtain ⟨front, last, d, rfl, digit⟩ := ih
    exact ⟨c :: front, last, d, rfl, digit⟩
  | @separated c _ _ _ _ _ ih =>
    obtain ⟨front, last, d, rfl, digit⟩ := ih
    exact ⟨c :: '_' :: front, last, d, rfl, digit⟩

theorem digitRun?_iff {cs : List Char} {ds : List Nat} : digitRun? cs = some ds ↔ DigitRun cs ds := by
  fun_induction digitRun? cs generalizing ds with
  | case1 => exact ⟨nofun, nofun⟩
  | case2 c =>
    rw [Option.map_eq_some_iff]
    constructor
    · rintro ⟨d, digit, rfl⟩
      exact .last (digitValue?_iff.mp digit)
    · intro run
      cases run with
      | last digit => exact ⟨_, digitValue?_iff.mpr digit, rfl⟩
      | next _ none => cases none
  | case3 c rest ih =>
    simp only [Option.bind_eq_bind, Option.bind_eq_some_iff, digitValue?_iff, ih, pure,
      Option.some.injEq]
    constructor
    · rintro ⟨d, digit, ds, run, rfl⟩
      exact .separated digit run
    · intro run
      cases run with
      | separated digit run => exact ⟨_, digit, _, run, rfl⟩
      | next digit run =>
        obtain ⟨_, _, _, same, underscore⟩ := run.exists_cons
        cases same
        exact absurd rfl underscore.not_sign.2.2
  | case4 c rest notAlone notSeparated ih =>
    simp only [Option.bind_eq_bind, Option.bind_eq_some_iff, digitValue?_iff, ih, pure,
      Option.some.injEq]
    constructor
    · rintro ⟨d, digit, ds, run, rfl⟩
      exact .next digit run
    · intro run
      cases run with
      | last => exact absurd rfl notAlone
      | next digit run => exact ⟨_, digit, _, run, rfl⟩
      | separated => exact absurd rfl (notSeparated _)

/-! ## Margins -/

/-- Margins are stripped off up to the first and the last character that is none. -/
theorem stripChars_eq {p : Char → Bool} {before cs after rest front : List Char} {first last : Char}
    (left : ∀ c ∈ before, p c = true) (right : ∀ c ∈ after, p c = true)
    (opened : cs = first :: rest) (begins : p first = false)
    (closed : cs = front ++ [last]) (ends : p last = false) :
    stripChars p (before ++ cs ++ after) = cs := by
  have fromLeft : (before ++ cs ++ after).dropWhile p = cs ++ after := by
    rw [List.append_assoc, List.dropWhile_append_of_pos left, opened, List.cons_append,
      List.dropWhile_cons_of_neg (by simp [begins])]
  have reversed : ∀ c ∈ after.reverse, p c = true := fun c member =>
    right c (List.mem_reverse.mp member)
  have fromRight : (cs ++ after).reverse.dropWhile p = cs.reverse := by
    rw [List.reverse_append, List.dropWhile_append_of_pos reversed, closed, List.reverse_append,
      List.reverse_singleton, List.singleton_append, List.dropWhile_cons_of_neg (by simp [ends])]
  rw [stripChars, fromLeft, fromRight, List.reverse_reverse]

/-- What is stripped off a text are margins at both of its ends. -/
theorem exists_stripChars (p : Char → Bool) (cs : List Char) : ∃ before after,
    cs = before ++ stripChars p cs ++ after ∧ (∀ c ∈ before, p c = true) ∧
      ∀ c ∈ after, p c = true := by
  have taken (cs : List Char) : ∀ c ∈ cs.takeWhile p, p c = true :=
    List.all_eq_true.mp List.all_takeWhile
  refine ⟨cs.takeWhile p, ((cs.dropWhile p).reverse.takeWhile p).reverse, ?_, taken cs, ?_⟩
  · rw [stripChars, List.append_assoc, ← List.reverse_append, List.takeWhile_append_dropWhile,
      List.reverse_reverse, List.takeWhile_append_dropWhile]
  · intro c member
    exact taken _ c (List.mem_reverse.mp member)

/-! ## Integers -/

/-- A sign in front of a number, and the factor that it stands for. -/
inductive Sign : List Char → Int → Prop
  | none : Sign [] 1
  | plus : Sign ['+'] 1
  | minus : Sign ['-'] (-1)

/-- A text is that of an integer: blanks, a sign or none, digits of any scripts, no more than are read and
    with single underscores between them, and blanks. The four information separators do not count as
    blanks here. -/
inductive IsInteger (s : String) (n : Int) : Prop
  | intro {before sign digits after : List Char} {factor : Int} {ds : List Nat} :
    s.toList = before ++ (sign ++ digits) ++ after → (∀ c ∈ before, isMargin c = true) →
    (∀ c ∈ after, isMargin c = true) → Sign sign factor → DigitRun digits ds → ds.length ≤ 4300 →
    n = factor * (Nat.ofDigits 10 ds.reverse : Nat) → IsInteger s n

theorem ofDigits_eq (ds : List Nat) : ofDigits ds = Nat.ofDigits 10 ds.reverse := by
  rw [Nat.ofDigits_eq_foldr, List.foldr_reverse, ofDigits]
  simp [Nat.add_comm]

theorem readMagnitude?_iff {cs : List Char} {m : Nat} : readMagnitude? cs = some m ↔
    ∃ ds, DigitRun cs ds ∧ ds.length ≤ digitLimit ∧ m = Nat.ofDigits 10 ds.reverse := by
  simp only [readMagnitude?, Option.bind_eq_bind, Option.bind_eq_some_iff, digitRun?_iff]
  constructor
  · rintro ⟨ds, run, read⟩
    by_cases short : ds.length ≤ digitLimit
    · rw [if_pos short] at read
      exact ⟨ds, run, short, by rw [← Option.some.inj read, ofDigits_eq]⟩
    · rw [if_neg short] at read
      cases read
  · rintro ⟨ds, run, short, rfl⟩
    exact ⟨ds, run, by rw [if_pos short, ofDigits_eq]⟩

/-- What stands between the margins of an integer begins and ends with what is no margin. -/
theorem exists_ends {sign digits : List Char} {factor : Int} {ds : List Nat} (signed : Sign sign factor)
    (run : DigitRun digits ds) : ∃ first rest front last,
      sign ++ digits = first :: rest ∧ isMargin first = false ∧
        sign ++ digits = front ++ [last] ∧ isMargin last = false := by
  obtain ⟨front, last, d, closed, ends⟩ := run.exists_concat
  obtain ⟨c, d', rest, opened, begins⟩ := run.exists_cons
  cases signed with
  | none =>
    exact ⟨c, rest, front, last, opened, begins.not_margin, closed, ends.not_margin⟩
  | plus =>
    exact ⟨'+', digits, '+' :: front, last, rfl, by decide, by rw [closed]; rfl, ends.not_margin⟩
  | minus =>
    exact ⟨'-', digits, '-' :: front, last, rfl, by decide, by rw [closed]; rfl, ends.not_margin⟩

/-- An integer is read from a text exactly where the text is that of the integer. -/
theorem readInteger?_iff {s : String} {n : Int} : readInteger? s = some n ↔ IsInteger s n := by
  constructor
  · intro read
    obtain ⟨before, after, whole, left, right⟩ := exists_stripChars isMargin s.toList
    rw [readInteger?] at read
    split at read
    all_goals
      simp only [Option.map_eq_some_iff, Option.bind_eq_bind, Option.bind_eq_some_iff,
        readMagnitude?_iff, pure, Option.some.injEq] at read
      obtain ⟨_, ⟨_, ⟨ds, run, short, rfl⟩, rfl⟩, rfl⟩ := read
    · next signed =>
      rw [signed] at whole
      exact .intro whole left right .minus run short (neg_one_mul _).symm
    · next signed =>
      rw [signed] at whole
      exact .intro whole left right .plus run short (one_mul _).symm
    · exact .intro whole left right .none run short (one_mul _).symm
  · rintro ⟨whole, left, right, signed, run, short, rfl⟩
    obtain ⟨first, rest, front, last, opened, begins, closed, ends⟩ := exists_ends signed run
    have magnitude := readMagnitude?_iff.mpr ⟨_, run, short, rfl⟩
    rw [readInteger?, whole, stripChars_eq left right opened begins closed ends]
    cases signed with
    | none =>
      -- A digit is no sign, so the text is read as one without a sign.
      obtain ⟨c, _, rest, rfl, digit⟩ := run.exists_cons
      obtain ⟨minus, plus, -⟩ := digit.not_sign
      simp only [List.nil_append]
      split
      · next same => exact absurd (List.cons.inj same).1 minus
      · next same => exact absurd (List.cons.inj same).1 plus
      · rw [magnitude, one_mul]
        rfl
    | plus =>
      simp only [List.singleton_append, magnitude, one_mul]
      rfl
    | minus =>
      simp only [List.singleton_append, magnitude, neg_one_mul]
      rfl

end MonitoringUpkeep.Text
