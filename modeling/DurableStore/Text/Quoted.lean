import DurableStore.Text.Hexadecimal
import DurableStore.Text.Printable

/-!
Text between double quotes, for people to read.

The double quote, the backslash and characters that are not shown as they are are escaped.
-/

namespace DurableStore.Text

/-- The hexadecimal digits of a value, without leading zeros. -/
def shortHexadecimal (value : Nat) : List Char :=
  let digits := (Hexadecimal.digits 8 value).dropWhile (· = '0')
  if digits.isEmpty then ['0'] else digits

/-- A character as it is written between double quotes. -/
def escape (c : Char) : List Char :=
  match c with
  | '\x00' => ['\\', '0']
  | '\t' => ['\\', 't']
  | '\r' => ['\\', 'r']
  | '\n' => ['\\', 'n']
  | '\\' => ['\\', '\\']
  | '"' => ['\\', '"']
  | c => if isPrintable c then [c] else ['\\', 'u', '\x7b'] ++ shortHexadecimal c.toNat ++ ['\x7d']

/-- A text between double quotes. -/
def quoted (text : String) : String :=
  String.ofList ('"' :: text.toList.flatMap escape ++ ['"'])

end DurableStore.Text
