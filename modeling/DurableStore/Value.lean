import DurableStore.Text.Hexadecimal

/-!
Column values and their literals.

A text literal stands between single quotes, and a quote inside it is written twice, so a literal
ends at the first quote that no second one follows.
-/

namespace DurableStore

/-- One column value or bound parameter. -/
inductive Value where
  | null
  | bool (flag : Bool)
  | int (number : Int64)
  | text (content : String)
  | bytes (content : Bytes)
  deriving DecidableEq, Inhabited

/-- One result row. -/
abbrev Row := List Value

/-- A captured result set. -/
abbrev Rows := List Row

namespace Value

/-- `content` with every single quote written twice. -/
def doubleQuotes (content : List Char) : List Char :=
  content.flatMap fun c => if c = '\'' then ['\'', '\''] else [c]

/-- The literal that denotes a value. -/
def literal : Value → String
  | .null => "NULL"
  | .bool flag => if flag then "TRUE" else "FALSE"
  | .int number => toString number.toInt
  | .text content => String.ofList ('\'' :: doubleQuotes content.toList ++ ['\''])
  | .bytes content => "X'" ++ Text.Hexadecimal.upperPairs content ++ "'"

end Value

end DurableStore
