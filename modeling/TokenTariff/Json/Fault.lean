import TokenTariff.Json.Number
import TokenTariff.Text.Hidden

/-!
# What can be wrong with a JSON text

A fault lies either in the form of a text, so that it is no JSON at all, or in its content, so that
it does not say what was asked for. Every fault has one wording.
-/

namespace TokenTariff.Json

inductive Found where
  | null
  | bool (b : Bool)
  | number (n : Number)
  | text (s : String)
  | sequence
  | map

def Found.describe : Found → String
  | .null => "null"
  | .bool b => s!"boolean `{b}`"
  | .number (.int i) => s!"integer `{i}`"
  | .number (.real x) => s!"floating point `{Layout.json.write x}`"
  | .text s => "string " ++ quoteText s
  | .sequence => "sequence"
  | .map => "map"

inductive Fault where
  | endInValue
  | endInList
  | endInObject
  | endInString
  | noValue
  | badWord
  | noColon
  | noListSeparator
  | noObjectSeparator
  | keyNotString
  | trailingComma
  | trailingText
  | badNumber
  | numberTooLarge
  | badEscape
  | controlCharacter
  | loneSurrogate
  | unpairedSurrogate
  | tooDeep
  /-- The bytes of a text are no characters. -/
  | noText
  | wrongType (found : Found) (wanted : String)
  | wrongInteger (found : Int) (wanted : String)
  | notSingleKey
  | wrongLength (length : Nat) (wanted : String)
  | missing (field : String)
  | duplicate (field : String)
  | unknownVariant (found : String) (known : List String)
  /-- The content was read but the domain refuses it. -/
  | refused (reason : String)

namespace Fault

def choices : List String → String
  | [] => ""
  | [a] => s!"`{a}`"
  | [a, b] => s!"`{a}` or `{b}`"
  | names => "one of " ++ ", ".intercalate (names.map fun a => s!"`{a}`")

def message : Fault → String
  | endInValue => "EOF while parsing a value"
  | endInList => "EOF while parsing a list"
  | endInObject => "EOF while parsing an object"
  | endInString => "EOF while parsing a string"
  | noValue => "expected value"
  | badWord => "expected ident"
  | noColon => "expected `:`"
  | noListSeparator => "expected `,` or `]`"
  | noObjectSeparator => "expected `,` or `\x7d`"
  | keyNotString => "key must be a string"
  | trailingComma => "trailing comma"
  | trailingText => "trailing characters"
  | badNumber => "invalid number"
  | numberTooLarge => "number out of range"
  | badEscape => "invalid escape"
  | controlCharacter => "control character (\\u0000-\\u001F) found while parsing a string"
  | loneSurrogate => "lone leading surrogate in hex escape"
  | unpairedSurrogate => "unexpected end of hex escape"
  | tooDeep => "recursion limit exceeded"
  | noText => "invalid unicode code point"
  | wrongType found wanted => s!"invalid type: {found.describe}, expected {wanted}"
  | wrongInteger found wanted => s!"invalid value: integer `{found}`, expected {wanted}"
  | notSingleKey => "invalid value: map, expected map with a single key"
  | wrongLength length wanted => s!"invalid length {length}, expected {wanted}"
  | missing field => s!"missing field `{field}`"
  | duplicate field => s!"duplicate field `{field}`"
  | unknownVariant found known => s!"unknown variant `{found}`, expected {choices known}"
  | refused reason => reason

/-- The fault lies in what the text says, not in its form. -/
def inContent : Fault → Bool
  | wrongType .. | wrongInteger .. | notSingleKey | wrongLength .. | missing .. | duplicate ..
  | unknownVariant .. | refused .. => true
  | _ => false

end Fault

end TokenTariff.Json
