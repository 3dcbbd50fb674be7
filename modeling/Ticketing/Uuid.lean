import Mathlib

/-!
# UUIDs and their spellings

Rows are keyed by UUIDs, but ids travel through the code as texts: the database
compares the UUID a text parses to, Redis compares the texts.

## Main Definitions

* `Uuid` — a 128-bit identifier
* `Uuid.str` — `str(uuid)`, the canonical spelling
* `Uuid.parse` — `uuid.UUID(hex)`, which a UUID field applies to a text

## Design Notes

`Uuid.parse` accepts what the `uuid` module documents: 32 hexadecimal digits of
either case, with hyphens, curly braces and a URN prefix all optional.
-/

namespace Ticketing

/-- A UUID, as its 128-bit integer. -/
structure Uuid where
  int : ℕ
  int_lt : int < 16 ^ 32
  deriving DecidableEq

namespace Uuid

/-- The UUID of these low 128 bits. -/
def ofNat (n : ℕ) : Uuid := ⟨n % 16 ^ 32, Nat.mod_lt n (by decide)⟩

/-! ## The order of UUIDs -/

instance : LE Uuid := ⟨fun first second => first.int ≤ second.int⟩

instance : DecidableRel (α := Uuid) (· ≤ ·) := fun first second =>
  inferInstanceAs (Decidable (first.int ≤ second.int))

instance : IsTrans Uuid (· ≤ ·) := ⟨fun _ _ _ => Nat.le_trans⟩

instance : Std.Total (α := Uuid) (· ≤ ·) := ⟨fun first second => Nat.le_total first.int second.int⟩

instance : Std.Antisymm (α := Uuid) (· ≤ ·) where
  antisymm first second le ge := by
    obtain ⟨value, bound⟩ := first
    obtain ⟨value', bound'⟩ := second
    obtain rfl : value = value' := Nat.le_antisymm le ge
    rfl

/-! ## Spellings -/

/-- The last `width` hexadecimal digits of a number. -/
def hexDigits : ℕ → ℕ → List Char
  | 0, _ => []
  | width + 1, value => hexDigits width (value / 16) ++ [Nat.digitChar (value % 16)]

/-- Digits in groups of 8-4-4-4-12. -/
def hyphenate (hex : List Char) : List Char :=
  hex.take 8 ++ '-' :: (hex.drop 8).take 4 ++ '-' :: (hex.drop 12).take 4 ++
    '-' :: (hex.drop 16).take 4 ++ '-' :: hex.drop 20

/-- `str(uuid)`: 32 lower-case digits with hyphens. -/
def str (uuid : Uuid) : String := String.ofList (hyphenate (hexDigits 32 uuid.int))

/-- The value of one hexadecimal digit. -/
def hexValue (char : Char) : Option ℕ :=
  if '0' ≤ char ∧ char ≤ '9' then some (char.toNat - '0'.toNat)
  else if 'a' ≤ char ∧ char ≤ 'f' then some (char.toNat - 'a'.toNat + 10)
  else if 'A' ≤ char ∧ char ≤ 'F' then some (char.toNat - 'A'.toNat + 10)
  else none

/-- `int(hex, 16)`, accumulated from the left. -/
def readHex : ℕ → List Char → Option ℕ
  | value, [] => some value
  | value, char :: rest => (hexValue char).bind fun digit => readHex (16 * value + digit) rest

/-- `text.replace(pattern, '')`; `skip` characters of a match are still to be dropped. -/
def removeFrom (pattern : List Char) : ℕ → List Char → List Char
  | _, [] => []
  | skip + 1, _ :: rest => removeFrom pattern skip rest
  | 0, char :: rest =>
      if pattern.isPrefixOf (char :: rest) then removeFrom pattern (pattern.length - 1) rest
      else char :: removeFrom pattern 0 rest

/-- An opening or closing curly brace. -/
def isBrace (char : Char) : Bool := char == '{' || char == '}'

/-- `text.strip('\x7b\x7d')`: drop curly braces at both ends. -/
def stripBraces (text : List Char) : List Char :=
  ((text.dropWhile isBrace).reverse.dropWhile isBrace).reverse

/-- `uuid.UUID(text)`; `none` where it raises `ValueError`.  The digits are read by `int(hex, 16)`,
which also takes some undocumented spellings: a `0x` or a `+` in front, underscores between
digits, blanks around them, digits of other scripts.  These are left out. -/
def parse (text : String) : Option Uuid :=
  let text := removeFrom ['u', 'u', 'i', 'd', ':'] 0 (removeFrom ['u', 'r', 'n', ':'] 0 text.toList)
  let hex := (stripBraces text).filter (· ≠ '-')
  if hex.length = 32 then
    (readHex 0 hex).bind fun value => if bound : value < 16 ^ 32 then some ⟨value, bound⟩ else none
  else none

/-! ## The canonical spelling parses back -/

theorem length_hexDigits (width value : ℕ) : (hexDigits width value).length = width := by
  induction width generalizing value with
  | zero => rfl
  | succ width ih => simp [hexDigits, ih]

/-- The characters `str` prints for a digit. -/
theorem digitChar_facts (digit : ℕ) (bound : digit < 16) :
    hexValue (Nat.digitChar digit) = some digit ∧
      Nat.digitChar digit ∉ ['u', '{', '}', '-'] := by
  interval_cases digit <;> decide

theorem mem_hexDigits {width value : ℕ} {char : Char} (mem : char ∈ hexDigits width value) :
    char ∉ ['u', '{', '}', '-'] := by
  induction width generalizing value with
  | zero => simp [hexDigits] at mem
  | succ width ih =>
      rcases List.mem_append.mp mem with earlier | last
      · exact ih earlier
      · rw [List.mem_singleton.mp last]
        exact (digitChar_facts _ (Nat.mod_lt _ (by norm_num))).2

theorem readHex_append (value : ℕ) (front back : List Char) :
    readHex value (front ++ back)
      = (readHex value front).bind fun middle => readHex middle back := by
  induction front generalizing value with
  | nil => rfl
  | cons char rest ih =>
      simp only [List.cons_append, readHex]
      cases hexValue char with
      | none => rfl
      | some digit => exact ih _

theorem readHex_hexDigits (width start value : ℕ) :
    readHex start (hexDigits width value) = some (start * 16 ^ width + value % 16 ^ width) := by
  induction width generalizing value with
  | zero => simp [hexDigits, readHex, Nat.mod_one]
  | succ width ih =>
      have digit := (digitChar_facts (value % 16) (Nat.mod_lt _ (by norm_num))).1
      rw [hexDigits, readHex_append, ih]
      simp only [Option.bind_some, readHex, digit, Option.some.injEq]
      have split := Nat.mod_mul (x := value) (a := 16) (b := 16 ^ width)
      rw [pow_succ', split]
      ring

theorem readHex_hexDigits_of_lt {width value : ℕ} (bound : value < 16 ^ width) :
    readHex 0 (hexDigits width value) = some value := by
  rw [readHex_hexDigits, Nat.mod_eq_of_lt bound, Nat.zero_mul, Nat.zero_add]

theorem removeFrom_of_notMem {first : Char} {rest text : List Char} (absent : first ∉ text) :
    removeFrom (first :: rest) 0 text = text := by
  induction text with
  | nil => rfl
  | cons char text ih =>
      obtain ⟨different, absent⟩ := not_or.mp (List.mem_cons.not.mp absent)
      have noMatch : (first :: rest).isPrefixOf (char :: text) = false := by
        simp [List.isPrefixOf, different]
      rw [removeFrom, noMatch, ih absent]
      rfl

theorem stripBraces_of_notMem {text : List Char} (noBrace : '{' ∉ text ∧ '}' ∉ text) :
    stripBraces text = text := by
  have keep : ∀ list : List Char, '{' ∉ list ∧ '}' ∉ list →
      list.dropWhile isBrace = list := by
    rintro (_ | ⟨char, list⟩) ⟨left, right⟩
    · rfl
    · have notBrace : isBrace char = false := by
        simp only [List.mem_cons, not_or] at left right
        simp [isBrace, Ne.symm left.1, Ne.symm right.1]
      rw [List.dropWhile_cons, notBrace]
      rfl
  unfold stripBraces
  rw [keep text noBrace, keep text.reverse (by simpa using noBrace), List.reverse_reverse]

theorem mem_hyphenate {hex : List Char} {char : Char} (mem : char ∈ hyphenate hex) :
    char = '-' ∨ char ∈ hex := by
  simp only [hyphenate, List.mem_append, List.mem_cons] at mem
  rcases mem with (((group | rfl | group) | rfl | group) | rfl | group) | rfl | group
  · exact .inr (List.mem_of_mem_take group)
  · exact .inl rfl
  · exact .inr (List.mem_of_mem_drop (List.mem_of_mem_take group))
  · exact .inl rfl
  · exact .inr (List.mem_of_mem_drop (List.mem_of_mem_take group))
  · exact .inl rfl
  · exact .inr (List.mem_of_mem_drop (List.mem_of_mem_take group))
  · exact .inl rfl
  · exact .inr (List.mem_of_mem_drop group)

/-- Removing the hyphens again gives back the digits. -/
theorem filter_hyphenate {hex : List Char} (noHyphen : '-' ∉ hex) :
    (hyphenate hex).filter (· ≠ '-') = hex := by
  have keep : ∀ list : List Char, list ⊆ hex → list.filter (· ≠ '-') = list := by
    intro list sub
    refine List.filter_eq_self.mpr fun char mem => ?_
    have different : char ≠ '-' := fun same => noHyphen (same ▸ sub mem)
    simpa using different
  have hyphen : decide ('-' ≠ '-') = false := by decide
  simp only [hyphenate, List.filter_append, List.filter_cons, hyphen, Bool.false_eq_true, if_false]
  rw [keep _ fun _ mem => List.mem_of_mem_take mem,
    keep _ fun _ mem => List.mem_of_mem_drop (List.mem_of_mem_take mem),
    keep _ fun _ mem => List.mem_of_mem_drop (List.mem_of_mem_take mem),
    keep _ fun _ mem => List.mem_of_mem_drop (List.mem_of_mem_take mem),
    keep _ fun _ mem => List.mem_of_mem_drop mem]
  have split := fun skip width => List.take_append_drop width (hex.drop skip)
  simp only [List.drop_drop] at split
  rw [List.append_assoc, List.append_assoc, List.append_assoc, split 16 4, split 12 4, split 8 4,
    List.take_append_drop]

/-- **Round trip.**  The canonical spelling of a UUID parses to it. -/
theorem parse_str (uuid : Uuid) : parse uuid.str = some uuid := by
  have absent : ∀ char, char ∈ ['u', '{', '}'] → char ∉ uuid.str.toList := by
    intro char listed mem
    rw [str, String.toList_ofList] at mem
    rcases mem_hyphenate mem with rfl | digit
    · simp at listed
    · exact mem_hexDigits digit (List.mem_append_left ['-'] listed)
  have noPrefix : 'u' ∉ uuid.str.toList := absent _ (by simp)
  have noBrace : '{' ∉ uuid.str.toList ∧ '}' ∉ uuid.str.toList :=
    ⟨absent _ (by simp), absent _ (by simp)⟩
  have digits : uuid.str.toList.filter (· ≠ '-') = hexDigits 32 uuid.int := by
    rw [str, String.toList_ofList]
    exact filter_hyphenate fun mem => mem_hexDigits mem (by simp)
  unfold parse
  rw [removeFrom_of_notMem noPrefix, removeFrom_of_notMem noPrefix]
  simp only [stripBraces_of_notMem noBrace, digits, length_hexDigits, if_true,
    readHex_hexDigits_of_lt uuid.int_lt, Option.bind_some]
  rw [dif_pos uuid.int_lt]

/-- No UUID is spelled by the empty text. -/
theorem str_ne_empty (uuid : Uuid) : uuid.str ≠ "" := by
  intro empty
  have parsed := parse_str uuid
  rw [empty] at parsed
  cases parsed

/-- Different UUIDs have different canonical spellings. -/
theorem str_injective : Function.Injective str := by
  intro left right same
  have parsed := congrArg parse same
  simpa only [parse_str, Option.some.injEq] using parsed

-- from here on a text is read by `parse_str`, never by running the reader on it
attribute [irreducible] parse

end Uuid

end Ticketing
