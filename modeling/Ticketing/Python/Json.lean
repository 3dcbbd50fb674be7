import Ticketing.Python

/-!
# JSON texts

Python's `json.dumps` and `json.loads`, with the options this code leaves at
their defaults.

## Main Definitions

* `dumps` — the text of a value
* `loads` — the value of a text, or `none` where an exception is raised
* `Printable` — the values Python can hold and print

## Main Results

* `loads_dumps` — what has been printed is read back

## Design Notes

A number is read as the longest run of the characters numbers are made of: what
may follow a number is none of these, so a run that is no number as a whole is
an error either way.  `float(text)` is seen through the text `str` gives it, and
that is the parameter `repr`.

A text with half of a surrogate pair in it has no value here, while Python reads
a string that no text file can hold; `dumps` writes both halves.
-/

namespace Ticketing.Json

/-! ## Strings -/

/-- The characters with an escape of their own. -/
def shortEscapes : List (Char × Char) :=
  [('"', '"'), ('\\', '\\'), ('\n', 'n'), ('\r', 'r'), ('\t', 't'),
    (Char.ofNat 12, 'f'), (Char.ofNat 8, 'b')]

/-- The characters that may follow a backslash, with what they stand for. -/
def unescapes : List (Char × Char) := ('/', '/') :: shortEscapes.map Prod.swap

/-- `\uXXXX`. -/
def escapeUnit (unit : ℕ) : List Char := '\\' :: 'u' :: Uuid.hexDigits 4 unit

/-- A character inside a printed string: only ASCII is printed as it is. -/
def escape (char : Char) : List Char :=
  match shortEscapes.lookup char with
  | some short => ['\\', short]
  | none =>
      if ' ' ≤ char ∧ char ≤ '~' then [char]
      else if char.toNat < 0x10000 then escapeUnit char.toNat
      else
        escapeUnit (0xd800 + (char.toNat - 0x10000) / 0x400)
          ++ escapeUnit (0xdc00 + (char.toNat - 0x10000) % 0x400)

/-- A printed string. -/
def dumpsString (text : String) : List Char := '"' :: (text.toList.flatMap escape ++ ['"'])

/-- The four digits after `\u`. -/
def scanUnit (text : List Char) : Option (ℕ × List Char) :=
  if text.length < 4 then none
  else (Uuid.readHex 0 (text.take 4)).map fun unit => (unit, text.drop 4)

/-- What `\u` starts, which is two escapes where the first is half of a pair. -/
def scanEscapedUnit (text : List Char) : Option (Char × List Char) := do
  let (unit, rest) ← scanUnit text
  if 0xd800 ≤ unit ∧ unit < 0xdc00 then
    if ['\\', 'u'].isPrefixOf rest then
      let (low, rest) ← scanUnit (rest.drop 2)
      if 0xdc00 ≤ low ∧ low < 0xe000 then
        some (Char.ofNat (0x10000 + (unit - 0xd800) * 0x400 + (low - 0xdc00)), rest)
      else none
    else none
  else if 0xdc00 ≤ unit ∧ unit < 0xe000 then none
  else some (Char.ofNat unit, rest)

/-- One character of a string. -/
def scanChar : List Char → Option (Char × List Char)
  | [] => none
  | ['\\'] => none
  | '\\' :: 'u' :: rest => scanEscapedUnit rest
  | '\\' :: short :: rest => (unescapes.lookup short).map fun char => (char, rest)
  -- control characters must be escaped
  | char :: rest => if char.toNat < 0x20 then none else some (char, rest)

/-- What follows an opening quote. -/
def scanString : ℕ → List Char → Option (List Char × List Char)
  | 0, _ => none
  | fuel + 1, text =>
      if text.head? = some '"' then some ([], text.tail)
      else do
        let (char, rest) ← scanChar text
        let (chars, rest) ← scanString fuel rest
        return (char :: chars, rest)

/-! ## Numbers and constants -/

/-- The text of a float: JSON has no infinities, but Python prints them. -/
def dumpsFloat (text : String) : List Char :=
  if text = "nan" then "NaN".toList
  else if text = "inf" then "Infinity".toList
  else if text = "-inf" then "-Infinity".toList
  else text.toList

/-- `int.__repr__`. -/
def dumpsInt (value : ℤ) : List Char :=
  if value < 0 then '-' :: Nat.toDigits 10 value.natAbs else Nat.toDigits 10 value.natAbs

/-- The constants, with their texts. -/
def constants : List (String × Value) :=
  [("null", .none), ("true", .bool true), ("false", .bool false), ("NaN", .float "nan"),
    ("Infinity", .float "inf"), ("-Infinity", .float "-inf")]

/-- The characters numbers are made of. -/
def isNumberChar (char : Char) : Bool :=
  char.isDigit || ['-', '+', '.', 'e', 'E'].contains char

/-- A fraction and an exponent, both optional. -/
def isTail (text : List Char) : Bool :=
  let rest :=
    if text.head? = some '.' ∧ (text.tail.takeWhile Char.isDigit) ≠ [] then
      text.tail.dropWhile Char.isDigit
    else text
  let exponent := if rest.tail.head? = some '+' ∨ rest.tail.head? = some '-' then rest.tail.tail
    else rest.tail
  rest.isEmpty ||
    (rest.head? = some 'e' || rest.head? = some 'E') && !exponent.isEmpty &&
      exponent.all Char.isDigit

/-- `sys.get_int_max_str_digits()`. -/
def maxDigits : ℕ := 4300

/-- A number without its sign. -/
def unsigned (text : List Char) : List Char :=
  if text.head? = some '-' then text.tail else text

/-- The value of a number. -/
def readNumber (repr : String → String) (text : List Char) : Option Value :=
  let whole := (unsigned text).takeWhile Char.isDigit
  let tail := (unsigned text).dropWhile Char.isDigit
  if whole = [] ∨ whole.head? = some '0' ∧ 1 < whole.length then none
  else if tail = [] then
    if maxDigits < whole.length then none
    else
      let magnitude : ℤ := Nat.ofDigitChars 10 whole 0
      some (.int (if text.head? = some '-' then -magnitude else magnitude))
  else if isTail tail then some (.float (repr (String.ofList text)))
  else none

/-- A constant or a number. -/
def scanAtom (repr : String → String) (text : List Char) : Option (Value × List Char) :=
  match constants.findSome? fun word =>
      (text.dropPrefix? word.1.toList).map fun rest => (word.2, rest) with
  | some found => some found
  | none =>
      (readNumber repr (text.takeWhile isNumberChar)).map fun value =>
        (value, text.dropWhile isNumberChar)

/-! ## Values -/

mutual

/-- `json.dumps`. -/
def dumps : Value → List Char
  | .none => "null".toList
  | .bool value => if value then "true".toList else "false".toList
  | .int value => dumpsInt value
  | .float text => dumpsFloat text
  | .str text => dumpsString text
  | .list items => '[' :: dumpsItems items
  | .dict entries => '{' :: dumpsEntries entries

/-- What follows an opening bracket. -/
def dumpsItems : List Value → List Char
  | [] => [']']
  | [item] => dumps item ++ [']']
  | item :: items => dumps item ++ ", ".toList ++ dumpsItems items

/-- What follows an opening brace. -/
def dumpsEntries : List (String × Value) → List Char
  | [] => ['}']
  | [(key, value)] => dumpsString key ++ ": ".toList ++ dumps value ++ ['}']
  | (key, value) :: entries =>
      dumpsString key ++ ": ".toList ++ dumps value ++ ", ".toList ++ dumpsEntries entries

end

/-- The characters that may stand between tokens. -/
def isSpace (char : Char) : Bool := [' ', '\t', '\n', '\r'].contains char

/-- Drop white space. -/
def skip (text : List Char) : List Char := text.dropWhile isSpace

/-- `dict(pairs)`: a repeated key keeps its place and takes its last value. -/
def toDict (pairs : List (String × Value)) : List (String × Value) :=
  pairs.foldl (fun entries pair =>
    if entries.any (·.1 = pair.1) then
      entries.map fun entry => if entry.1 = pair.1 then pair else entry
    else entries ++ [pair]) []

section Scan

variable (repr : String → String)

mutual

/-- The value at the front of a text. -/
def scanValue : ℕ → List Char → Option (Value × List Char)
  | 0, _ => none
  | fuel + 1, '"' :: rest =>
      (scanString (fuel + 1) rest).map fun found => (.str (String.ofList found.1), found.2)
  | fuel + 1, '[' :: rest =>
      if (skip rest).head? = some ']' then some (.list [], (skip rest).tail)
      else (scanItems fuel (skip rest)).map fun found => (.list found.1, found.2)
  | fuel + 1, '{' :: rest =>
      if (skip rest).head? = some '}' then some (.dict [], (skip rest).tail)
      else (scanEntries fuel (skip rest)).map fun found => (.dict (toDict found.1), found.2)
  | _ + 1, text => scanAtom repr text

/-- One item or more, and the closing bracket. -/
def scanItems : ℕ → List Char → Option (List Value × List Char)
  | 0, _ => none
  | fuel + 1, text => do
      let (item, rest) ← scanValue fuel text
      match skip rest with
      | ']' :: rest => return ([item], rest)
      | ',' :: rest =>
          let (items, rest) ← scanItems fuel (skip rest)
          return (item :: items, rest)
      | _ => none

/-- One entry or more, and the closing brace. -/
def scanEntries : ℕ → List Char → Option (List (String × Value) × List Char)
  | 0, _ => none
  | fuel + 1, text =>
      if text.head? = some '"' then do
        let (key, rest) ← scanString fuel text.tail
        if (skip rest).head? = some ':' then
          let (value, rest) ← scanValue fuel (skip (skip rest).tail)
          let entry := (String.ofList key, value)
          match skip rest with
          | '}' :: rest => return ([entry], rest)
          | ',' :: rest =>
              let (entries, rest) ← scanEntries fuel (skip rest)
              return (entry :: entries, rest)
          | _ => none
        else none
      else none

end

/-- `json.loads`. -/
def loads (text : String) : Option Value := do
  let (value, rest) ← scanValue repr (text.length + 1) (skip text.toList)
  if (skip rest).isEmpty then return value else none

end Scan

/-! ## Printed strings are read back -/

theorem unescapes_lookup {char short : Char} (listed : shortEscapes.lookup char = some short) :
    short ≠ 'u' ∧ unescapes.lookup short = some char := by
  have each : ∀ entry ∈ shortEscapes, entry.2 ≠ 'u' ∧ unescapes.lookup entry.2 = some entry.1 := by
    decide
  obtain ⟨front, back, split, -⟩ := List.lookup_eq_some_iff.mp listed
  exact each (char, short) (by rw [split]; simp)

theorem not_listed {char : Char} (unlisted : shortEscapes.lookup char = none) :
    char ≠ '"' ∧ char ≠ '\\' := by
  refine ⟨?_, ?_⟩ <;>
  · rintro rfl
    revert unlisted
    decide

theorem scanUnit_hexDigits {unit : ℕ} (bound : unit < 0x10000) (rest : List Char) :
    scanUnit (Uuid.hexDigits 4 unit ++ rest) = some (unit, rest) := by
  have length := Uuid.length_hexDigits 4 unit
  have long : ¬ (Uuid.hexDigits 4 unit ++ rest).length < 4 := by
    rw [List.length_append, length]
    omega
  unfold scanUnit
  rw [if_neg long, List.take_left' length, List.drop_left' length,
    Uuid.readHex_hexDigits_of_lt bound]
  rfl

/-- No character is half of a surrogate pair. -/
theorem not_surrogate (char : Char) : char.toNat < 0xd800 ∨ 0xe000 ≤ char.toNat := by
  have valid := char.valid
  simp only [UInt32.isValidChar, Nat.isValidChar] at valid
  have same : char.toNat = char.val.toNat := rfl
  omega

theorem scanEscapedUnit_of_lt {char : Char} (bound : char.toNat < 0x10000) (rest : List Char) :
    scanEscapedUnit (Uuid.hexDigits 4 char.toNat ++ rest) = some (char, rest) := by
  have whole := not_surrogate char
  unfold scanEscapedUnit
  rw [scanUnit_hexDigits bound]
  simp only [Option.bind_eq_bind, Option.bind_some]
  rw [if_neg (by omega), if_neg (by omega), Char.ofNat_toNat]

/-- Two halves are read as one character. -/
theorem scanEscapedUnit_halves {high low : ℕ} (isHigh : 0xd800 ≤ high ∧ high < 0xdc00)
    (isLow : 0xdc00 ≤ low ∧ low < 0xe000) (rest : List Char) :
    scanEscapedUnit (Uuid.hexDigits 4 high ++ (escapeUnit low ++ rest))
      = some (Char.ofNat (0x10000 + (high - 0xd800) * 0x400 + (low - 0xdc00)), rest) := by
  have escaped : ['\\', 'u'].isPrefixOf (escapeUnit low ++ rest) = true := rfl
  have digits : (escapeUnit low ++ rest).drop 2 = Uuid.hexDigits 4 low ++ rest := rfl
  unfold scanEscapedUnit
  rw [scanUnit_hexDigits (by omega)]
  simp only [Option.bind_eq_bind, Option.bind_some]
  rw [if_pos isHigh, if_pos escaped, digits, scanUnit_hexDigits (by omega)]
  simp only [Option.bind_some]
  rw [if_pos isLow]

/-- The halves of a code point give it back. -/
theorem join_halves {point : ℕ} (large : 0x10000 ≤ point) :
    0x10000 + (0xd800 + (point - 0x10000) / 0x400 - 0xd800) * 0x400
      + (0xdc00 + (point - 0x10000) % 0x400 - 0xdc00) = point := by
  rw [Nat.add_sub_cancel_left, Nat.add_sub_cancel_left, Nat.add_assoc, Nat.div_add_mod',
    Nat.add_sub_cancel' large]

/-- A character outside the basic plane is read from its two halves. -/
theorem scanEscapedUnit_pair {char : Char} (large : 0x10000 ≤ char.toNat) (rest : List Char) :
    scanEscapedUnit (Uuid.hexDigits 4 (0xd800 + (char.toNat - 0x10000) / 0x400)
      ++ (escapeUnit (0xdc00 + (char.toNat - 0x10000) % 0x400) ++ rest)) = some (char, rest) := by
  have valid : char.toNat < 0x110000 := by
    have valid := char.valid
    simp only [UInt32.isValidChar, Nat.isValidChar] at valid
    have same : char.toNat = char.val.toNat := rfl
    omega
  rw [scanEscapedUnit_halves (by omega) (by omega), join_halves large, Char.ofNat_toNat]

/-- An escaped character is read back. -/
theorem scanChar_escape (char : Char) (rest : List Char) :
    scanChar (escape char ++ rest) = some (char, rest) := by
  unfold escape
  cases listed : shortEscapes.lookup char with
  | some short =>
      obtain ⟨different, known⟩ := unescapes_lookup listed
      simp only [List.cons_append, List.nil_append]
      rw [scanChar]
      · rw [known]
        rfl
      · exact different
  | none =>
      obtain ⟨-, notBackslash⟩ := not_listed listed
      dsimp only
      split_ifs with plain small
      · have printable : ¬ char.toNat < 0x20 := by
          have above : ' '.toNat ≤ char.toNat := plain.1
          exact not_lt.mpr above
        simp only [List.cons_append, List.nil_append]
        rw [scanChar]
        · rw [if_neg printable]
        · rintro rfl
          exact absurd rfl notBackslash
        · rintro _ rfl
          exact absurd rfl notBackslash
        · rintro _ _ rfl
          exact absurd rfl notBackslash
      · exact scanEscapedUnit_of_lt small rest
      · rw [List.append_assoc]
        exact scanEscapedUnit_pair (not_lt.mp small) rest

/-- An escaped character does not close a string. -/
theorem head?_escape (char : Char) (rest : List Char) :
    (escape char ++ rest).head? ≠ some '"' := by
  unfold escape
  cases listed : shortEscapes.lookup char with
  | some short => simp
  | none =>
      obtain ⟨notQuote, -⟩ := not_listed listed
      dsimp only
      split_ifs
      · simpa using notQuote
      · simp [escapeUnit]
      · simp [escapeUnit]

theorem scanString_escape {chars : List Char} {fuel : ℕ} (enough : chars.length < fuel)
    (rest : List Char) :
    scanString fuel (chars.flatMap escape ++ '"' :: rest) = some (chars, rest) := by
  induction chars generalizing fuel with
  | nil =>
      obtain ⟨fuel, rfl⟩ := Nat.exists_eq_add_of_lt enough
      simp [scanString]
  | cons char chars ih =>
      obtain ⟨fuel, rfl⟩ : ∃ more, fuel = more + 1 := ⟨fuel - 1, by omega⟩
      have enough : chars.length < fuel := by simpa using enough
      rw [List.flatMap_cons, List.append_assoc, scanString, if_neg (head?_escape _ _),
        scanChar_escape]
      simp only [Option.bind_eq_bind, Option.bind_some]
      rw [ih enough]
      rfl

/-! ## Printed numbers are read back -/

/-- What may follow a value goes on with no number. -/
def Follows (rest : List Char) : Prop := ∀ char ∈ rest.head?, isNumberChar char = false

theorem isNumberChar_of_isDigit {char : Char} (digit : char.isDigit = true) :
    isNumberChar char = true := by
  simp [isNumberChar, digit]

/-- A sign or nothing, and a digit. -/
def Numeric (text : List Char) : Prop :=
  ∃ digit rest, digit.isDigit = true ∧ unsigned text = digit :: rest

theorem numeric_of_readNumber {repr : String → String} {text : List Char} {value : Value}
    (known : readNumber repr text = some value) : Numeric text := by
  unfold readNumber at known
  dsimp only at known
  split_ifs at known with bad
  all_goals
    obtain ⟨some, -⟩ := not_or.mp bad
    revert some
    unfold Numeric
    rcases unsigned text with _ | ⟨digit, rest⟩
    · simp
    · intro some
      refine ⟨digit, rest, ?_, rfl⟩
      by_contra other
      exact some (by simp [other])

/-- A number starts with a character of its own. -/
theorem Numeric.head {text : List Char} (numeric : Numeric text) :
    ∃ char rest, text = char :: rest ∧ (char = '-' ∨ char.isDigit = true) := by
  obtain ⟨digit, rest, isDigit, starts⟩ := numeric
  unfold unsigned at starts
  split_ifs at starts with negative
  · obtain ⟨rest, rfl⟩ := List.head?_eq_some_iff.mp negative
    exact ⟨'-', rest, rfl, .inl rfl⟩
  · exact ⟨digit, rest, starts, .inr isDigit⟩

theorem unsigned_append {text : List Char} (some : text ≠ []) (rest : List Char) :
    unsigned (text ++ rest) = unsigned text ++ rest := by
  cases text with
  | nil => exact absurd rfl some
  | cons char text =>
      by_cases negative : char = '-' <;> simp [unsigned, negative]

/-- A number is none of the constants. -/
theorem not_constant {text : List Char} (numeric : Numeric text) (rest : List Char) :
    constants.findSome? (fun word =>
      ((text ++ rest).dropPrefix? word.1.toList).map fun rest => (word.2, rest)) = none := by
  have letters : ∀ word ∈ constants, word.1.toList ≠ [] ∧
      ((unsigned word.1.toList).head?.map Char.isDigit) = some false := by
    decide
  refine List.findSome?_eq_none_iff.mpr fun word listed => ?_
  obtain ⟨char, tail, split, -⟩ := numeric.head
  obtain ⟨digit, more, isDigit, starts⟩ := numeric
  obtain ⟨wordSome, letter⟩ := letters word listed
  rw [Option.map_eq_none_iff]
  by_contra found
  obtain ⟨after, dropped⟩ := Option.ne_none_iff_exists'.mp found
  obtain ⟨front, whole, same⟩ := List.dropPrefix?_eq_some_iff.mp dropped
  obtain rfl : front = word.1.toList := by simpa using same
  have unsignedSame := congrArg unsigned whole
  rw [unsigned_append (by simp [split]), unsigned_append wordSome, starts] at unsignedSame
  cases first : unsigned word.1.toList with
  | nil => simp [first] at letter
  | cons head tail =>
      rw [first, List.cons_append, List.cons_append, List.cons.injEq] at unsignedSame
      rw [first, List.head?_cons, Option.map_some, ← unsignedSame.1, isDigit] at letter
      cases letter

theorem takeWhile_isNumberChar {text rest : List Char}
    (each : ∀ char ∈ text, isNumberChar char = true) (follows : Follows rest) :
    (text ++ rest).takeWhile isNumberChar = text ∧
      (text ++ rest).dropWhile isNumberChar = rest := by
  rw [List.takeWhile_append_of_pos each, List.dropWhile_append_of_pos each]
  cases rest with
  | nil => simp
  | cons char rest => simp [follows char rfl]

/-- A number at the front of a text is read. -/
theorem scanAtom_number {repr : String → String} {text rest : List Char} {value : Value}
    (known : readNumber repr text = some value) (each : ∀ char ∈ text, isNumberChar char = true)
    (follows : Follows rest) : scanAtom repr (text ++ rest) = some (value, rest) := by
  obtain ⟨taken, dropped⟩ := takeWhile_isNumberChar each follows
  unfold scanAtom
  rw [not_constant (numeric_of_readNumber known)]
  simp only
  rw [taken, dropped, known]
  rfl

/-- Only zero is printed with a zero in front. -/
theorem eq_zero_of_head {value : ℕ} (zero : (Nat.toDigits 10 value).head? = some '0') :
    value = 0 := by
  induction value using Nat.strongRecOn with
  | ind value ih =>
      by_cases small : value < 10
      · rw [Nat.toDigits_of_lt_base small] at zero
        simpa using zero
      · have split := Nat.toDigits_of_base_le (b := 10) (by decide) (not_lt.mp small)
        rw [split, List.head?_append_of_ne_nil _ Nat.toDigits_ne_nil] at zero
        have := ih (value / 10) (by omega) zero
        omega

theorem toDigits_takeWhile (value : ℕ) :
    (Nat.toDigits 10 value).takeWhile Char.isDigit = Nat.toDigits 10 value ∧
      (Nat.toDigits 10 value).dropWhile Char.isDigit = [] := by
  have each : ∀ char ∈ Nat.toDigits 10 value, char.isDigit = true :=
    fun char listed => Nat.isDigit_of_mem_toDigits (by decide) (by decide) listed
  exact ⟨List.takeWhile_eq_self_iff.mpr each, List.dropWhile_eq_nil_iff.mpr each⟩

theorem toDigits_plain (value : ℕ) :
    ¬ (Nat.toDigits 10 value = [] ∨
      (Nat.toDigits 10 value).head? = some '0' ∧ 1 < (Nat.toDigits 10 value).length) := by
  rintro (empty | ⟨zero, long⟩)
  · exact Nat.toDigits_ne_nil empty
  · rw [eq_zero_of_head zero, Nat.toDigits_zero] at long
    simp at long

theorem unsigned_dumpsInt (value : ℤ) :
    unsigned (dumpsInt value) = Nat.toDigits 10 value.natAbs := by
  unfold dumpsInt
  split_ifs
  · rfl
  · unfold unsigned
    rw [if_neg]
    intro negative
    have digit := Nat.isDigit_of_mem_toDigits (by decide) (by decide)
      (List.mem_of_mem_head? negative)
    revert digit
    decide

theorem head_dumpsInt (value : ℤ) : (dumpsInt value).head? = some '-' ↔ value < 0 := by
  unfold dumpsInt
  split_ifs with negative
  · simp [negative]
  · refine iff_of_false (fun sign => ?_) negative
    have digit := Nat.isDigit_of_mem_toDigits (by decide) (by decide) (List.mem_of_mem_head? sign)
    revert digit
    decide

theorem readNumber_dumpsInt (repr : String → String) {value : ℤ}
    (short : (Nat.toDigits 10 value.natAbs).length ≤ maxDigits) :
    readNumber repr (dumpsInt value) = some (.int value) := by
  obtain ⟨taken, dropped⟩ := toDigits_takeWhile value.natAbs
  unfold readNumber
  simp only [unsigned_dumpsInt, taken, dropped, head_dumpsInt]
  rw [if_neg (toDigits_plain _), if_pos trivial, if_neg (not_lt.mpr short),
    Nat.ofDigitChars_ten_toDigits]
  congr 2
  split_ifs <;> omega

theorem isNumberChar_dumpsInt (value : ℤ) :
    ∀ char ∈ dumpsInt value, isNumberChar char = true := by
  have digits : ∀ char ∈ Nat.toDigits 10 value.natAbs, isNumberChar char = true :=
    fun char listed =>
      isNumberChar_of_isDigit (Nat.isDigit_of_mem_toDigits (by decide) (by decide) listed)
  unfold dumpsInt
  split_ifs
  · intro char listed
    rcases List.mem_cons.mp listed with rfl | digit
    · decide
    · exact digits char digit
  · exact digits

/-! ## Printed values are read back -/

/-- A float's text: one that JSON does not have, or a number that `repr` leaves alone. -/
def IsFloat (repr : String → String) (text : String) : Prop :=
  text ∈ ["nan", "inf", "-inf"] ∨
    readNumber repr text.toList = some (.float text) ∧
      ∀ char ∈ text.toList, isNumberChar char = true

/-- The values Python holds and prints: keys differ, and an int is not too long for `str`. -/
inductive Printable (repr : String → String) : Value → Prop
  | none : Printable repr .none
  | bool (value : Bool) : Printable repr (.bool value)
  | int (value : ℤ) (short : (Nat.toDigits 10 value.natAbs).length ≤ maxDigits) :
      Printable repr (.int value)
  | float (text : String) (isFloat : IsFloat repr text) : Printable repr (.float text)
  | str (text : String) : Printable repr (.str text)
  | list (items : List Value) (each : ∀ item ∈ items, Printable repr item) :
      Printable repr (.list items)
  | dict (entries : List (String × Value)) (nodup : (entries.map Prod.fst).Nodup)
      (each : ∀ entry ∈ entries, Printable repr entry.2) : Printable repr (.dict entries)

variable {repr : String → String}

theorem scanAtom_constant : ∀ word ∈ constants, ∀ rest : List Char,
    scanAtom repr (word.1.toList ++ rest) = some (word.2, rest) := by
  simp [constants, scanAtom, List.dropPrefix?]

theorem scanAtom_float {text : String} (isFloat : IsFloat repr text) {rest : List Char}
    (follows : Follows rest) :
    scanAtom repr (dumpsFloat text ++ rest) = some (.float text, rest) := by
  unfold dumpsFloat
  split_ifs with nan inf negative
  · exact nan ▸ scanAtom_constant ("NaN", .float "nan") (by simp [constants]) rest
  · exact inf ▸ scanAtom_constant ("Infinity", .float "inf") (by simp [constants]) rest
  · exact negative ▸ scanAtom_constant ("-Infinity", .float "-inf") (by simp [constants]) rest
  · rcases isFloat with listed | ⟨known, each⟩
    · simp [nan, inf, negative] at listed
    · exact scanAtom_number known each follows

/-- A text that starts like a constant or a number. -/
def Atomic (text : List Char) : Prop :=
  ∃ char rest, text = char :: rest ∧
    (char.isDigit = true ∨ char ∈ ['-', 'n', 't', 'f', 'N', 'I'])

theorem Numeric.atomic {text : List Char} (numeric : Numeric text) : Atomic text := by
  obtain ⟨char, rest, rfl, sign | digit⟩ := numeric.head
  · exact ⟨char, rest, rfl, .inr (by simp [sign])⟩
  · exact ⟨char, rest, rfl, .inl digit⟩

theorem IsFloat.atomic {text : String} (isFloat : IsFloat repr text) :
    Atomic (dumpsFloat text) := by
  unfold dumpsFloat
  split_ifs with nan inf negative
  · exact ⟨'N', ['a', 'N'], rfl, .inr (by simp)⟩
  · exact ⟨'I', "nfinity".toList, rfl, .inr (by simp)⟩
  · exact ⟨'-', "Infinity".toList, rfl, .inr (by simp)⟩
  · rcases isFloat with listed | ⟨known, -⟩
    · simp [nan, inf, negative] at listed
    · exact (numeric_of_readNumber known).atomic

/-- The first character of an atom opens nothing, closes nothing and is no space. -/
theorem Atomic.head {text : List Char} (atomic : Atomic text) :
    ∃ char rest, text = char :: rest ∧ isSpace char = false ∧
      char ∉ ['"', '[', '{', ']'] := by
  obtain ⟨char, rest, rfl, digit | listed⟩ := atomic
  · have other : ∀ char ∈ [' ', '\t', '\n', '\r', '"', '[', '{', ']'], char.isDigit = false := by
      simp
    refine ⟨char, rest, rfl, ?_, fun listed => ?_⟩
    · by_contra space
      have listed : char ∈ [' ', '\t', '\n', '\r'] :=
        List.contains_iff_mem.mp (eq_true_of_ne_false space)
      rw [other char (List.mem_append_left ['"', '[', '{', ']'] listed)] at digit
      cases digit
    · rw [other char (List.mem_append_right [' ', '\t', '\n', '\r'] listed)] at digit
      cases digit
  · have other : ∀ char ∈ ['-', 'n', 't', 'f', 'N', 'I'],
        isSpace char = false ∧ char ∉ ['"', '[', '{', ']'] := by
      simp [isSpace]
    exact ⟨char, rest, rfl, other char listed⟩

theorem scanValue_atom {text : List Char} (atomic : Atomic text) (fuel : ℕ) (rest : List Char) :
    scanValue repr (fuel + 1) (text ++ rest) = scanAtom repr (text ++ rest) := by
  obtain ⟨char, more, rfl, -, other⟩ := atomic.head
  simp only [List.mem_cons, not_or] at other
  rw [List.cons_append, scanValue]
  · rintro _ same
    exact other.1 (List.cons.inj same).1
  · rintro _ same
    exact other.2.1 (List.cons.inj same).1
  · rintro _ same
    exact other.2.2.1 (List.cons.inj same).1

/-- The printed text starts a value. -/
def Opens (text : List Char) : Prop :=
  ∃ char rest, text = char :: rest ∧ isSpace char = false ∧ char ≠ ']'

theorem Opens.skip {text : List Char} (opens : Opens text) (rest : List Char) :
    Json.skip (text ++ rest) = text ++ rest := by
  obtain ⟨char, more, rfl, notSpace, -⟩ := opens
  simp [Json.skip, notSpace]

/-- The value is read from the front of its text. -/
structure Scans (repr : String → String) (value : Value) : Prop where
  opens : Opens (dumps value)
  scan : ∀ fuel rest, (dumps value).length ≤ fuel → Follows rest →
    scanValue repr fuel (dumps value ++ rest) = some (value, rest)

theorem Scans.of_atomic {value : Value} (atomic : Atomic (dumps value))
    (scan : ∀ rest, Follows rest →
      scanAtom repr (dumps value ++ rest) = some (value, rest)) : Scans repr value where
  opens := by
    obtain ⟨char, rest, starts, notSpace, other⟩ := atomic.head
    exact ⟨char, rest, starts, notSpace, fun same => other (by simp [same])⟩
  scan fuel rest enough follows := by
    obtain ⟨char, more, starts, -⟩ := id atomic
    obtain ⟨fuel, rfl⟩ : ∃ less, fuel = less + 1 := by
      rw [starts, List.length_cons] at enough
      exact ⟨fuel - 1, by omega⟩
    rw [scanValue_atom atomic]
    exact scan rest follows

theorem dumpsString_append (text : String) (rest : List Char) :
    dumpsString text ++ rest = '"' :: (text.toList.flatMap escape ++ '"' :: rest) := by
  simp [dumpsString]

theorem length_escape_pos (char : Char) : 1 ≤ (escape char).length := by
  unfold escape
  cases shortEscapes.lookup char with
  | some short => simp
  | none =>
      dsimp only
      split_ifs <;> simp [escapeUnit]

theorem length_dumpsString (text : String) :
    text.toList.length + 2 ≤ (dumpsString text).length := by
  have each : text.toList.length ≤ (text.toList.flatMap escape).length := by
    induction text.toList with
    | nil => simp
    | cons char chars ih =>
        have := length_escape_pos char
        simp only [List.length_cons, List.flatMap_cons, List.length_append]
        omega
  simp only [dumpsString, List.length_cons, List.length_append, List.length_nil]
  omega

theorem scans_str (text : String) : Scans repr (.str text) where
  opens := ⟨'"', _, rfl, rfl, by decide⟩
  scan fuel rest enough follows := by
    have long := length_dumpsString text
    rw [dumps] at enough ⊢
    obtain ⟨fuel, rfl⟩ : ∃ less, fuel = less + 1 := ⟨fuel - 1, by omega⟩
    rw [dumpsString_append, scanValue, scanString_escape (by omega)]
    simp

theorem skip_of_head {char : Char} {text : List Char} (notSpace : isSpace char = false) :
    skip (char :: text) = char :: text := by
  simp [skip, notSpace]

@[simp] theorem skip_comma (rest : List Char) : skip (',' :: rest) = ',' :: rest :=
  skip_of_head rfl

@[simp] theorem skip_colon (rest : List Char) : skip (':' :: rest) = ':' :: rest :=
  skip_of_head rfl

@[simp] theorem skip_bracket (rest : List Char) : skip (']' :: rest) = ']' :: rest :=
  skip_of_head rfl

@[simp] theorem skip_brace (rest : List Char) : skip ('}' :: rest) = '}' :: rest :=
  skip_of_head rfl

@[simp] theorem skip_space (rest : List Char) : skip (' ' :: rest) = skip rest := rfl

theorem follows_of_head {char : Char} {rest : List Char} (other : isNumberChar char = false) :
    Follows (char :: rest) := by
  rintro _ ⟨⟩
  exact other

theorem dumpsItems_append (item : Value) (items : List Value) (rest : List Char) :
    dumpsItems (item :: items) ++ rest
      = dumps item ++ (if items = [] then ']' :: rest
          else ',' :: ' ' :: (dumpsItems items ++ rest)) := by
  cases items with
  | nil => simp [dumpsItems]
  | cons next items => simp [dumpsItems]

theorem opens_dumpsItems {item : Value} (opens : Opens (dumps item)) (items : List Value) :
    Opens (dumpsItems (item :: items)) := by
  obtain ⟨char, more, starts, facts⟩ := opens
  have whole := dumpsItems_append item items []
  rw [List.append_nil, starts, List.cons_append] at whole
  exact ⟨char, _, whole, facts⟩

theorem scanItems_dumpsItems {items : List Value} (nonempty : items ≠ [])
    (each : ∀ item ∈ items, Scans repr item) {fuel : ℕ}
    (enough : (dumpsItems items).length ≤ fuel) (rest : List Char) :
    scanItems repr fuel (dumpsItems items ++ rest) = some (items, rest) := by
  induction items generalizing fuel with
  | nil => exact absurd rfl nonempty
  | cons item items ih =>
      have scans := each item List.mem_cons_self
      have length := congrArg List.length (dumpsItems_append item items [])
      rw [List.append_nil, List.length_append] at length
      obtain ⟨fuel, rfl⟩ : ∃ less, fuel = less + 1 := by
        refine ⟨fuel - 1, ?_⟩
        split_ifs at length <;> simp only [List.length_cons] at length <;> omega
      rw [dumpsItems_append, scanItems]
      cases items with
      | nil =>
          rw [if_pos rfl] at length ⊢
          simp only [List.length_cons] at length
          rw [scans.scan fuel _ (by omega) (follows_of_head rfl)]
          simp
      | cons next items =>
          rw [if_neg (List.cons_ne_nil _ _)] at length ⊢
          simp only [List.length_cons, List.append_nil] at length
          rw [scans.scan fuel _ (by omega) (follows_of_head rfl)]
          have opens := opens_dumpsItems (each next (by simp)).opens items
          have again : scanItems repr fuel (dumpsItems (next :: items) ++ rest)
              = some (next :: items, rest) :=
            ih (List.cons_ne_nil _ _)
              (fun other listed => each other (List.mem_cons_of_mem item listed)) (by omega)
          simp only [Option.bind_eq_bind, Option.bind_some, skip_comma, skip_space,
            opens.skip, again]
          rfl

theorem dumpsEntries_append (key : String) (value : Value) (entries : List (String × Value))
    (rest : List Char) :
    dumpsEntries ((key, value) :: entries) ++ rest
      = dumpsString key ++ (':' :: ' ' :: (dumps value ++ (if entries = [] then '}' :: rest
          else ',' :: ' ' :: (dumpsEntries entries ++ rest)))) := by
  cases entries with
  | nil => simp [dumpsEntries]
  | cons next entries => simp [dumpsEntries]

theorem opens_dumpsEntries (entry : String × Value) (entries : List (String × Value)) :
    Opens (dumpsEntries (entry :: entries)) := by
  have whole := dumpsEntries_append entry.1 entry.2 entries []
  rw [List.append_nil, dumpsString_append] at whole
  exact ⟨'"', _, whole, rfl, by decide⟩

theorem scanEntries_dumpsEntries {entries : List (String × Value)} (nonempty : entries ≠ [])
    (each : ∀ entry ∈ entries, Scans repr entry.2) {fuel : ℕ}
    (enough : (dumpsEntries entries).length ≤ fuel) (rest : List Char) :
    scanEntries repr fuel (dumpsEntries entries ++ rest) = some (entries, rest) := by
  induction entries generalizing fuel with
  | nil => exact absurd rfl nonempty
  | cons entry entries ih =>
      obtain ⟨key, value⟩ := entry
      have scans : Scans repr value := each (key, value) List.mem_cons_self
      have long := length_dumpsString key
      have length := congrArg List.length (dumpsEntries_append key value entries [])
      rw [List.append_nil, List.length_append, List.length_cons, List.length_cons,
        List.length_append] at length
      obtain ⟨fuel, rfl⟩ : ∃ less, fuel = less + 1 := ⟨fuel - 1, by omega⟩
      rw [dumpsEntries_append, dumpsString_append, scanEntries]
      simp only [List.head?_cons, if_true, List.tail_cons]
      rw [scanString_escape (by omega)]
      simp only [Option.bind_eq_bind, Option.bind_some, skip_colon, List.head?_cons, if_true,
        List.tail_cons, skip_space, scans.opens.skip]
      cases entries with
      | nil =>
          rw [if_pos rfl] at length ⊢
          simp only [List.length_cons] at length
          rw [scans.scan fuel _ (by omega) (follows_of_head rfl)]
          simp
      | cons next entries =>
          rw [if_neg (List.cons_ne_nil _ _)] at length ⊢
          simp only [List.length_cons, List.append_nil] at length
          rw [scans.scan fuel _ (by omega) (follows_of_head rfl)]
          have again : scanEntries repr fuel (dumpsEntries (next :: entries) ++ rest)
              = some (next :: entries, rest) :=
            ih (List.cons_ne_nil _ _)
              (fun other listed => each other (List.mem_cons_of_mem (key, value) listed))
              (by omega)
          simp only [Option.bind_some, skip_comma, skip_space,
            (opens_dumpsEntries next entries).skip, again]
          simp

/-- A dict's entries, which have different keys, are the dict they make. -/
theorem toDict_of_nodup {entries : List (String × Value)} (nodup : (entries.map Prod.fst).Nodup) :
    toDict entries = entries := by
  induction entries using List.reverseRecOn with
  | nil => rfl
  | append_singleton entries entry ih =>
      rw [List.map_append, List.nodup_append] at nodup
      have absent : entries.any (·.1 = entry.1) = false := by
        rw [List.any_eq_false]
        intro other listed same
        have same : other.1 = entry.1 := of_decide_eq_true same
        exact nodup.2.2 _ (List.mem_map_of_mem listed) _ (by simp) same
      have start : toDict entries = entries := ih nodup.1
      unfold toDict at start ⊢
      rw [List.foldl_append, start]
      simp [absent]

theorem scans_list {items : List Value} (each : ∀ item ∈ items, Scans repr item) :
    Scans repr (.list items) where
  opens := ⟨'[', _, rfl, rfl, by decide⟩
  scan fuel rest enough follows := by
    rw [dumps, List.length_cons] at enough
    obtain ⟨fuel, rfl⟩ : ∃ less, fuel = less + 1 := ⟨fuel - 1, by omega⟩
    rw [dumps, List.cons_append, scanValue]
    cases items with
    | nil => simp [dumpsItems]
    | cons item items =>
        have opens := opens_dumpsItems (each item (by simp)).opens items
        obtain ⟨char, more, starts, -, notClosing⟩ := id opens
        rw [opens.skip, if_neg (by simpa [starts] using notClosing),
          scanItems_dumpsItems (List.cons_ne_nil _ _) each (by omega)]
        rfl

theorem scans_dict {entries : List (String × Value)} (nodup : (entries.map Prod.fst).Nodup)
    (each : ∀ entry ∈ entries, Scans repr entry.2) : Scans repr (.dict entries) where
  opens := ⟨'{', _, rfl, rfl, by decide⟩
  scan fuel rest enough follows := by
    rw [dumps, List.length_cons] at enough
    obtain ⟨fuel, rfl⟩ : ∃ less, fuel = less + 1 := ⟨fuel - 1, by omega⟩
    rw [dumps, List.cons_append, scanValue]
    cases entries with
    | nil => simp [dumpsEntries]
    | cons entry entries =>
        have opens := opens_dumpsEntries entry entries
        have quote : (dumpsEntries (entry :: entries) ++ rest).head? = some '"' := by
          rw [dumpsEntries_append, dumpsString_append]
          rfl
        rw [opens.skip, if_neg (by rw [quote]; decide),
          scanEntries_dumpsEntries (List.cons_ne_nil _ _) each (by omega)]
        simp [toDict_of_nodup nodup]

/-- **Every printable value scans.** -/
theorem Printable.scans {value : Value} (printable : Printable repr value) : Scans repr value := by
  induction printable with
  | none =>
      exact .of_atomic ⟨'n', "ull".toList, rfl, .inr (by simp)⟩ fun rest _ =>
        scanAtom_constant ("null", .none) (by simp [constants]) rest
  | bool value =>
      cases value with
      | false =>
          exact .of_atomic ⟨'f', "alse".toList, rfl, .inr (by simp)⟩ fun rest _ =>
            scanAtom_constant ("false", .bool false) (by simp [constants]) rest
      | true =>
          exact .of_atomic ⟨'t', "rue".toList, rfl, .inr (by simp)⟩ fun rest _ =>
            scanAtom_constant ("true", .bool true) (by simp [constants]) rest
  | int value short =>
      have known := readNumber_dumpsInt repr short
      refine .of_atomic ?_ fun rest follows => ?_
      · rw [dumps]
        exact (numeric_of_readNumber known).atomic
      · rw [dumps]
        exact scanAtom_number known (isNumberChar_dumpsInt value) follows
  | float text isFloat =>
      refine .of_atomic ?_ fun rest follows => ?_
      · rw [dumps]
        exact isFloat.atomic
      · rw [dumps]
        exact scanAtom_float isFloat follows
  | str text => exact scans_str text
  | list items each ih => exact scans_list ih
  | dict entries nodup each ih => exact scans_dict nodup ih

/-- **Round trip.**  What `json.dumps` has printed `json.loads` reads back. -/
theorem loads_dumps {value : Value} (printable : Printable repr value) :
    loads repr (String.ofList (dumps value)) = some value := by
  have scans := printable.scans
  have whole : skip (dumps value) = dumps value := by
    simpa using scans.opens.skip []
  have scanned := scans.scan ((dumps value).length + 1) [] (by omega) (by simp [Follows])
  unfold loads
  rw [String.length_ofList, String.toList_ofList, whole]
  rw [List.append_nil] at scanned
  rw [scanned]
  rfl

end Ticketing.Json
