/-!
# Keywords

The word of the English alphabet, in capitals, that a text spells in some letter case.
-/

namespace MonitoringUpkeep.Text

/-- Characters outside the English alphabet whose capital form consists of its letters. -/
def capitalForms : List (Nat × String) :=
  [(0xdf, "SS"), (0x131, "I"), (0x17f, "S"), (0xfb00, "FF"), (0xfb01, "FI"), (0xfb02, "FL"),
    (0xfb03, "FFI"), (0xfb04, "FFL"), (0xfb05, "ST"), (0xfb06, "ST")]

/-- The capitals of the English alphabet that a character stands for. One that stands for none is
    left alone, so that no keyword holds it. -/
def capitalForm (c : Char) : List Char :=
  match capitalForms.find? (·.1 = c.toNat) with
  | some (_, form) => form.toList
  | none => [c.toUpper]

def keyword (s : String) : String := String.ofList (s.toList.flatMap capitalForm)

end MonitoringUpkeep.Text
