import DurableStore.Statement.Lexeme
import DurableStore.Value

/-!
Prepared statements and the keys under which their results are reused.

Preparing drops comments and blanks outside quotations, so that statements that differ in nothing
else share a text, and notes every construct whose value can change between two runs.  A
statement without such constructs, all of whose quotations and comments are closed, is cacheable;
its `Fingerprint` is that text with the bound parameters.
-/

namespace DurableStore

/-- What can give another value when a statement runs again. -/
inductive Construct where
  /-- The current date or time. -/
  | currentTime
  /-- A random number or identifier. -/
  | random
  /-- The next value of a sequence. -/
  | sequenceNextValue
  /-- A correlated subquery over one of the others. -/
  | correlatedSubquery
  deriving DecidableEq, Inhabited, Repr

namespace Construct

/-- The words that denote the current date or time. -/
def timeWords : List String :=
  ["CURRENT_TIMESTAMP", "CURRENT_TIME", "CURRENT_DATE", "NOW", "SYSDATE", "SYSTIME",
   "SYSTIMESTAMP", "LOCALTIME", "LOCALTIMESTAMP", "TODAY"]

/-- The words that denote something random. -/
def randomWords : List String :=
  ["RAND", "RANDOM", "RANDOM_UUID", "SECURE_RAND", "UUID"]

/-- The words that denote the next value of a sequence. -/
def sequenceWords : List String :=
  ["NEXTVAL"]

/-- The construct that an identifier in upper case denotes. -/
def ofIdentifier? (identifier : String) : Option Construct :=
  if identifier ∈ timeWords then some .currentTime
  else if identifier ∈ randomWords then some .random
  else if identifier ∈ sequenceWords then some .sequenceNextValue
  else none

/-- Whether `NEXT`, `VALUE` and `FOR` stand one after another among the identifiers. -/
def hasNextValueFor : List String → Bool
  | "NEXT" :: "VALUE" :: "FOR" :: _ => true
  | _ :: rest => hasNextValueFor rest
  | [] => false

/-- `construct` behind the others, unless it is among them. -/
def addTo (constructs : List Construct) (construct : Construct) : List Construct :=
  if construct ∈ constructs then constructs else constructs ++ [construct]

/-- The constructs that the identifiers of a statement denote, in order of first appearance; a
sequence's next value comes last if only `NEXT VALUE FOR` denotes it. -/
def ofIdentifiers (identifiers : List String) : List Construct :=
  let named := (identifiers.filterMap ofIdentifier?).foldl addTo []
  if hasNextValueFor identifiers then addTo named .sequenceNextValue else named

end Construct

/-- The text of the tokens among `lexemes`, with one space where a gap lies between two tokens.
`started` says that a token came before, `pending` that a gap came since. -/
def joinTokens (started pending : Bool) : List Lexeme → List Char
  | [] => []
  | .gap _ _ :: rest => joinTokens started true rest
  | token :: rest =>
    (if started && pending then [' '] else []) ++ token.text ++ joinTokens true false rest

/-- What a statement's result is kept under. -/
structure Fingerprint where
  /-- The normalized text. -/
  text : String
  /-- The bound parameters. -/
  params : List Value
  deriving DecidableEq, Inhabited

namespace Fingerprint

/-- Parameters numbered from `first` on. -/
def listed : (first : Nat) → List Value → List String
  | _, [] => []
  | first, value :: rest => s!"{first}: {value.literal}" :: listed (first + 1) rest

/-- The text, and the parameters in braces if there are any. -/
def display (fingerprint : Fingerprint) : String :=
  if fingerprint.params.isEmpty then fingerprint.text
  else fingerprint.text ++ " \x7b" ++ ", ".intercalate (listed 1 fingerprint.params) ++ "\x7d"

end Fingerprint

/-- A statement with its current parameters. -/
structure Statement where
  /-- The normalized text. -/
  text : String
  /-- The constructs that forbid reuse. -/
  constructs : List Construct
  /-- The values of the parameters, the first one first. -/
  params : List Value
  /-- Every quotation and comment of the text is closed. -/
  complete : Bool
  deriving DecidableEq, Inhabited

namespace Statement

/-- The statement that lexemes make up; every parameter is null. -/
def ofLexemes (lexemes : List Lexeme) : Statement :=
  { text := String.ofList (joinTokens false false lexemes)
    constructs := Construct.ofIdentifiers (lexemes.filterMap Lexeme.identifier?)
    params := List.replicate (lexemes.count .parameter) .null
    complete := lexemes.all Lexeme.isClosed }

/-- Prepares a statement; blanks at its ends do not count. -/
def prepare (sql : String) : Statement :=
  ofLexemes (Lexeme.cut (Text.trim sql.toList))

/-- Flags a construct that the words of the text do not show. -/
def withConstruct (statement : Statement) (construct : Construct) : Statement :=
  { statement with constructs := Construct.addTo statement.constructs construct }

/-- Whether results of the statement may be reused. -/
def isCacheable (statement : Statement) : Bool :=
  statement.complete && statement.constructs.isEmpty

/-- Binds the parameter at `index`, the first being 1, adding null parameters up to it. -/
def bind (statement : Statement) (index : Nat) (value : Value) : Statement :=
  let slot := index - 1
  let missing := slot + 1 - statement.params.length
  let params := statement.params ++ List.replicate missing Value.null
  { statement with params := params.set slot value }

/-- Sets every parameter to null. -/
def clearBindings (statement : Statement) : Statement :=
  { statement with params := statement.params.map fun _ => Value.null }

/-- What the statement's result is kept under. -/
def fingerprint (statement : Statement) : Fingerprint :=
  { text := statement.text, params := statement.params }

end Statement

end DurableStore
