import Ticketing.Uuid
import Ticketing.Python.Float

/-!
# Python values

The values that reach the code from JSON payloads, with the operations the code
uses on them.

## Main Definitions

* `Value` — JSON values as Python holds them
* `Value.get` — `value.get(key, default)`
* `Value.text`, `Value.repr` — `str(value)` and `repr(value)`
* `Value.hundredth` — `str(value / 100)`
* `PythonText` — what Python's texts take from the Unicode character database

## Design Notes

A float is kept as the text `str` gives it.  What the Unicode database says
of characters that are not ASCII is a parameter: it is data, and differs from one release
of Python to the next.
-/

namespace Ticketing

/-- A JSON value as Python holds it. -/
inductive Value
  | none
  | bool (value : Bool)
  | int (value : ℤ)
  /-- A float, by its text. -/
  | float (text : String)
  | str (value : String)
  | list (items : List Value)
  | dict (entries : List (String × Value))

/-- The exceptions of Python's own operations. -/
inductive PythonError
  /-- `AttributeError`: the value has no such method. -/
  | attribute
  /-- `TypeError`: an unsupported operand. -/
  | type
  /-- `OverflowError`: an integer too large for a float. -/
  | overflow
  deriving DecidableEq

namespace Value

/-- `value.get(key, default)`: only a dict has it. -/
def get (value : Value) (key : String) (default : Value) : Except PythonError Value :=
  match value with
  | dict entries => .ok ((entries.lookup key).getD default)
  | _ => .error .attribute

/-- The truth value of a value. -/
def truthy : Value → Bool
  | none => false
  | bool value => value
  | int value => value ≠ 0
  | float text => text ≠ "0.0" && text ≠ "-0.0"
  | str value => value ≠ ""
  | list items => !items.isEmpty
  | dict entries => !entries.isEmpty

end Value

/-- The Unicode character database, as far as Python's texts depend on it. -/
structure PythonText where
  /-- `str.isprintable` of a character that is not ASCII. -/
  isPrintable : Char → Bool
  /-- The upper case of a character that is not ASCII: several characters perhaps. -/
  upperCase : Char → List Char
  /-- The lower case of a text that is not all ASCII: that of a sigma depends on its place. -/
  lowerCase : String → String

section Texts

variable (python : PythonText)

/-- `char.isspace()`. -/
def isSpace (char : Char) : Bool :=
  let code := char.toNat
  (9 ≤ code && code ≤ 13) || (28 ≤ code && code ≤ 32) || (0x2000 ≤ code && code ≤ 0x200a) ||
    [0x85, 0xa0, 0x1680, 0x2028, 0x2029, 0x202f, 0x205f, 0x3000].contains code

/-- `text.strip()`. -/
def strip (text : String) : String :=
  String.ofList ((text.toList.dropWhile isSpace).rdropWhile isSpace)

/-- `text.lower()`. -/
def PythonText.lower (text : String) : String :=
  if text.toList.all (·.toNat < 128) then String.ofList (text.toList.map Char.toLower)
  else python.lowerCase text

/-- `text.upper()`. -/
def PythonText.upper (text : String) : String :=
  String.ofList (text.toList.flatMap fun char =>
    if char.toNat < 128 then [char.toUpper] else python.upperCase char)

/-- A character in `repr` of a string between two `quote`s. -/
def PythonText.escape (quote char : Char) : List Char :=
  if char = quote ∨ char = '\\' then ['\\', char]
  else if char = '\n' then ['\\', 'n']
  else if char = '\r' then ['\\', 'r']
  else if char = '\t' then ['\\', 't']
  else if char.toNat < 32 ∨ char.toNat = 127 then '\\' :: 'x' :: Uuid.hexDigits 2 char.toNat
  else if char.toNat < 128 ∨ python.isPrintable char then [char]
  else if char.toNat < 0x100 then '\\' :: 'x' :: Uuid.hexDigits 2 char.toNat
  else if char.toNat < 0x10000 then '\\' :: 'u' :: Uuid.hexDigits 4 char.toNat
  else '\\' :: 'U' :: Uuid.hexDigits 8 char.toNat

/-- `repr` of a string: in double quotes where it has single ones only. -/
def PythonText.quote (text : String) : String :=
  let quote := if '\'' ∈ text.toList ∧ '"' ∉ text.toList then '"' else '\''
  String.ofList (quote :: text.toList.flatMap (python.escape quote) ++ [quote])

namespace Value

mutual

/-- `repr(value)`. -/
def repr : Value → String
  | none => "None"
  | bool value => if value then "True" else "False"
  | int value => toString value
  | float text => text
  | str value => python.quote value
  | list items => "[" ++ ", ".intercalate (reprItems items) ++ "]"
  | dict entries => "\x7b" ++ ", ".intercalate (reprEntries entries) ++ "\x7d"

/-- `repr` of the items of a list. -/
def reprItems : List Value → List String
  | [] => []
  | item :: rest => item.repr :: reprItems rest

/-- The entries of a dict, each with its key. -/
def reprEntries : List (String × Value) → List String
  | [] => []
  | (key, value) :: rest => (python.quote key ++ ": " ++ value.repr) :: reprEntries rest

end

/-- `str(value)`: only a string has another text than its `repr`. -/
def text : Value → String
  | str value => value
  | value => value.repr python

/-- `str(value / 100)`. -/
def hundredth : Value → Except PythonError String
  | bool value => quotient value.toInt
  | int value => quotient value
  | float text => .ok (Python.reprFloat (.div .binary64 (Python.readFloat text)
      (.ofNat .binary64 100)))
  | _ => .error .type
where
  /-- The quotient of an integer. -/
  quotient (value : ℤ) : Except PythonError String :=
    match Python.divInt value 100 (by decide) with
    | some result => .ok (Python.reprFloat result)
    | Option.none => .error .overflow

end Value

end Texts

end Ticketing
