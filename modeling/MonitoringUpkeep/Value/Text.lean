import MonitoringUpkeep.Number.Decimal
import MonitoringUpkeep.Text.Quoted
import MonitoringUpkeep.Value.Basic

/-!
# Values as text

How values appear in messages and logs. A text shows as it is when it stands alone and as a quoted
literal inside arrays and objects.
-/

namespace MonitoringUpkeep.Value

mutual

/-- A value as a literal; `asciiOnly` escapes all characters outside the ASCII range. -/
def literalWith (asciiOnly : Bool) : Value → String
  | .null => "None"
  | .bool true => "True"
  | .bool false => "False"
  | .int n => toString n
  | .real x => x.text "inf" "nan"
  | .str s => Text.quoteWith asciiOnly s
  | .arr items => "[" ++ literalItems asciiOnly items ++ "]"
  | .obj fields => "\x7b" ++ literalFields asciiOnly fields ++ "\x7d"

def literalItems (asciiOnly : Bool) : List Value → String
  | [] => ""
  | [v] => literalWith asciiOnly v
  | v :: w :: rest => literalWith asciiOnly v ++ ", " ++ literalItems asciiOnly (w :: rest)

def literalFields (asciiOnly : Bool) : List (String × Value) → String
  | [] => ""
  | [(k, v)] => Text.quoteWith asciiOnly k ++ ": " ++ literalWith asciiOnly v
  | (k, v) :: f :: rest =>
    Text.quoteWith asciiOnly k ++ ": " ++ literalWith asciiOnly v ++ ", "
      ++ literalFields asciiOnly (f :: rest)

end

def literal (v : Value) : String := literalWith false v

/-- A number with six significant digits, taken as a number of the 64-bit format. -/
def general : Value → String
  | .bool b => (Binary64.finite (if b then 1 else 0)).general
  | .int n => (Binary64.ofRat n).general
  | .real x => x.general
  | v => v.literal

def display : Value → String
  | .str s => s
  | v => v.literal

end MonitoringUpkeep.Value
