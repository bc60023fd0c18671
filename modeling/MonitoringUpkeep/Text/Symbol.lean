/-!
# Symbols

Most texts are made of characters. A text that a template fills in can also hold surrogates, the
halves of a pair of 16-bit units, which are no characters. What works on both is written for any
type of symbols with codes.
-/

namespace MonitoringUpkeep

/-- A type of symbols that texts are made of. -/
class Symbol (α : Type) where
  /-- the number by which a symbol is written -/
  code : α → Nat
  /-- the symbol that is a character -/
  ofChar : Char → α

instance : Symbol Char := ⟨Char.toNat, id⟩

namespace Symbol

/-- The character by which a symbol is classified: its own, or for a surrogate the null character,
    which like a surrogate belongs to no class. -/
def glyph {α : Type} [Symbol α] (a : α) : Char := Char.ofNat (code a)

@[simp] theorem glyph_char (c : Char) : glyph c = c := Char.ofNat_toNat c

def ofString {α : Type} [Symbol α] (s : String) : List α := s.toList.map ofChar

end Symbol

/-- A character or a surrogate. -/
inductive TextUnit where
  | char (c : Char)
  | surrogate (n : Nat)
deriving DecidableEq

instance : Symbol TextUnit where
  code
    | .char c => c.toNat
    | .surrogate n => n
  ofChar := .char

def TextUnit.ofCode (n : Nat) : TextUnit :=
  if 0xd800 ≤ n ∧ n < 0xe000 then .surrogate n else .char (Char.ofNat n)

end MonitoringUpkeep
