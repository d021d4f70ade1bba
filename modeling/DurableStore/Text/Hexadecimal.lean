import DurableStore.Bytes

/-!
Hexadecimal text of words and of byte sequences.

`pairs` writes two digits for each byte and `bytes?` reads them back.
-/

namespace DurableStore.Text.Hexadecimal

/-- The lower-case digit of a value below sixteen. -/
def digit (value : Nat) : Char :=
  if value < 10 then Char.ofNat (48 + value) else Char.ofNat (87 + value)

/-- The last `width` digits of `value`, leading zeros included. -/
def digits (width value : Nat) : List Char :=
  match width with
  | 0 => []
  | width + 1 => digits width (value / 16) ++ [digit (value % 16)]

/-- The eight digits of a word. -/
def word (value : UInt32) : String :=
  String.ofList (digits 8 value.toNat)

/-- Two lower-case digits for each byte. -/
def pairs (bytes : Bytes) : String :=
  String.ofList (bytes.flatMap fun byte => digits 2 byte.toNat)

/-- Two upper-case digits for each byte. -/
def upperPairs (bytes : Bytes) : String :=
  String.ofList (bytes.flatMap fun byte => (digits 2 byte.toNat).map Char.toUpper)

/-- The value of a digit in either case. -/
def value? (digit : Char) : Option Nat :=
  if '0' ≤ digit ∧ digit ≤ '9' then some (digit.toNat - 48)
  else if 'a' ≤ digit ∧ digit ≤ 'f' then some (digit.toNat - 87)
  else if 'A' ≤ digit ∧ digit ≤ 'F' then some (digit.toNat - 55)
  else none

/-- The bytes that pairs of digits stand for. -/
def bytesOf? : List Char → Option Bytes
  | [] => some []
  | [_] => none
  | high :: low :: rest => do
    let high ← value? high
    let low ← value? low
    let bytes ← bytesOf? rest
    return UInt8.ofNat (16 * high + low) :: bytes

/-- The bytes that a text of digit pairs stands for. -/
def bytes? (text : String) : Option Bytes :=
  bytesOf? text.toList

end DurableStore.Text.Hexadecimal
