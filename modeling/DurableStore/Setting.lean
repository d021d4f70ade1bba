import DurableStore.Fault
import DurableStore.Text.Blank

/-!
Options that a session sets while the database is open.

Names and values are read without regard to case and to blanks around them; the fault for a bad
one quotes both as they were given.
-/

namespace DurableStore

/-- An option and the value it is set to. -/
inductive Setting where
  /-- Take or give up exclusive use. -/
  | exclusive (enable : Bool)
  /-- Reuse results or run every statement. -/
  | reuseResults (enable : Bool)
  deriving DecidableEq, Inhabited, Repr

namespace Setting

/-- A text without blanks at its ends and with its ASCII letters in upper case. -/
def canonical (text : String) : String :=
  String.ofList ((Text.trim text.toList).map Char.toUpper)

/-- The truth value that a text stands for. -/
def flag? (text : String) : Option Bool :=
  match canonical text with
  | "TRUE" | "1" => some true
  | "FALSE" | "0" => some false
  | _ => none

/-- Reads an option's name and value. -/
def parse (name value : String) : Except Fault Setting :=
  match flag? value, canonical name with
  | some enable, "EXCLUSIVE" => .ok (.exclusive enable)
  | some enable, "OPTIMIZE_REUSE_RESULTS" => .ok (.reuseResults enable)
  | _, _ => .error (.invalidSetting name value)

/-- The option's name. -/
def name : Setting → String
  | .exclusive _ => "EXCLUSIVE"
  | .reuseResults _ => "OPTIMIZE_REUSE_RESULTS"

/-- The value the option is set to. -/
def flag : Setting → Bool
  | .exclusive enable | .reuseResults enable => enable

/-- The option as it would be written. -/
def text (setting : Setting) : String :=
  setting.name ++ " " ++ if setting.flag then "TRUE" else "FALSE"

end Setting

end DurableStore
