import StatementShape.Config.Value
import StatementShape.Json.Escape
import StatementShape.Number.Shortest
import StatementShape.Text.Printable

/-!
# Texts of configuration values

A value is shown in messages in a form that tells its type: strings are quoted and escaped, dates
and times name their parts. Standing alone, a string is shown as it is, and dates and times in
digits.

## Main definitions

* `Quoting`, `quoted`: strings in quotes
* `Value.display`: a value in a message
* `Value.plain`: a value on its own
-/

namespace StatementShape.Config

open Calendar (Date Instant Time)
open Json (hexDigit)
open Number (plainNumerals)

/-! ### Strings -/

/-- A number in hexadecimal digits, of a given width. -/
def hexadecimal (width n : Nat) : List Char :=
  (List.range width).map fun i => hexDigit (n / Nat.pow 16 (width - 1 - i) % 16)

/-- The escape of a character by its number, as short as it can be. -/
def numberEscape (c : Char) : List Char :=
  let n := c.toNat
  if n < 0x100 then '\\' :: 'x' :: hexadecimal 2 n
  else if n < 0x10000 then '\\' :: 'u' :: hexadecimal 4 n
  else '\\' :: 'U' :: hexadecimal 8 n

/-- A character between quotes: the quote and the backslash are escaped, and so are line ends,
tabs and all that cannot be printed. -/
def escaped (quote : Char) (c : Char) : List Char :=
  if c = quote ∨ c = '\\' then ['\\', c]
  else if c = '\n' then ['\\', 'n']
  else if c = '\r' then ['\\', 'r']
  else if c = '\t' then ['\\', 't']
  else if Text.isPrintable c then [c]
  else numberEscape c

/-- The quote for a string: a single one, unless the string holds single quotes and no double
ones. -/
def quoteFor (s : List Char) : Char :=
  if s.contains '\'' && !s.contains '"' then '"' else '\''

/-- A string in quotes. -/
def quoted (s : List Char) : List Char :=
  let quote := quoteFor s
  quote :: (s.flatMap (escaped quote) ++ [quote])

/-! ### Dates and times -/

/-- A call with numbers in parentheses. -/
def parts (name : String) (numbers : List Int) (more : List String) : String :=
  name ++ "(" ++ String.intercalate ", " (numbers.map toString ++ more) ++ ")"

/-- The parts of a date in a message. -/
def dateParts (d : Date) : List Int := [d.year, d.month, d.day]

/-- The parts of a time in a message; seconds and microseconds only as far as they are needed. -/
def timeParts (t : Time) : List Int :=
  if t.microsecond ≠ 0 then [t.hour, t.minute, t.second, t.microsecond]
  else if t.second ≠ 0 then [t.hour, t.minute, t.second]
  else [t.hour, t.minute]

/-- A number of minutes ahead of universal time in a message: whole days, and seconds of one. -/
def zoneDisplay (ahead : Int) : String :=
  if ahead = 0 then "datetime.timezone.utc"
  else
    let seconds := 60 * ahead
    let span := if seconds < 0 then
        "datetime.timedelta(days=-1, seconds=" ++ toString (seconds + 86400) ++ ")"
      else "datetime.timedelta(seconds=" ++ toString seconds ++ ")"
    "datetime.timezone(" ++ span ++ ")"

/-- A number of minutes ahead of universal time in digits. -/
def zoneText (ahead : Int) : String :=
  (if ahead < 0 then "-" else "+") ++ Number.padLeft 2 (ahead.natAbs / 60) ++ ":"
    ++ Number.padLeft 2 (ahead.natAbs % 60)

/-! ### Values -/

namespace Value

mutual

/-- A value in a message. -/
def display : Value → List Char
  | nothing => "None".toList
  | bool true => "True".toList
  | bool false => "False".toList
  | integer n => (toString n).toList
  | float x => x.text plainNumerals
  | string s => quoted s
  | date d => (parts "datetime.date" (dateParts d) []).toList
  | time t => (parts "datetime.time" (timeParts t) []).toList
  | dateTime i ahead =>
    let zone := (ahead.map fun a => "tzinfo=" ++ zoneDisplay a).toList
    (parts "datetime.datetime" (dateParts i.date ++ timeParts i.time) zone).toList
  | array [] => ['[', ']']
  | array (v :: vs) => '[' :: (display v ++ displayItems vs ++ [']'])
  | table [] => ['{', '}']
  | table ((k, v) :: es) =>
    '{' :: (quoted k ++ ':' :: ' ' :: display v ++ displayEntries es ++ ['}'])

/-- Further items in a message. -/
def displayItems : List Value → List Char
  | [] => []
  | v :: vs => ',' :: ' ' :: (display v ++ displayItems vs)

/-- Further entries in a message. -/
def displayEntries : List (List Char × Value) → List Char
  | [] => []
  | (k, v) :: es => ',' :: ' ' :: (quoted k ++ ':' :: ' ' :: display v ++ displayEntries es)

end

/-- A value on its own. -/
def plain : Value → List Char
  | string s => s
  | date d => d.text.toList
  | time t => t.text.toList
  | dateTime i ahead => (i.text " " ++ (ahead.map zoneText).getD "").toList
  | v => v.display

end Value

end StatementShape.Config
