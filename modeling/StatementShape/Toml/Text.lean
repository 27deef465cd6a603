import StatementShape.Json.Escape

/-!
# Strings, keys and blanks of TOML

Strings stand between double quotes, with escapes, or between single quotes, without; three quotes
enclose a string over several lines. A key is a bare word or a string on one line, and several keys
joined by points lead into nested tables.

## Main definitions

* `skipBlanks`, `skipLines`: blanks, and blanks with line ends and comments
* `stringIn`: a string in front of a text
* `keyIn`, `pathIn`: a key, and keys joined by points
-/

namespace StatementShape.Toml

/-! ### Blanks and comments -/

/-- Blanks within a line. -/
def isBlank (c : Char) : Bool := c = ' ' || c = '\t'

/-- A text without the blanks in front of it. -/
def skipBlanks (cs : List Char) : List Char := cs.dropWhile isBlank

/-- Control characters, but for the tab, which may stand wherever text may. -/
def isControl (c : Char) : Bool := (c < ' ' && c ≠ '\t') || c = '\x7f'

/-- The text behind a comment, if one begins here: up to the end of the line. -/
def skipComment : List Char → Option (List Char)
  | '#' :: rest =>
    if (rest.takeWhile (· ≠ '\n')).any isControl then none else some (rest.dropWhile (· ≠ '\n'))
  | cs => some cs

/-- A text without the blanks, line ends and comments in front of it, at most `n` comments. -/
def skipLines : Nat → List Char → Option (List Char)
  | 0, cs => some cs
  | n + 1, cs =>
    match cs.dropWhile fun c => isBlank c || c = '\n' with
    | '#' :: rest => (skipComment ('#' :: rest)).bind (skipLines n)
    | rest => some rest

/-! ### Strings -/

/-- A character by its number in `n` hexadecimal digits. Surrogates are no characters. -/
def charNumber (n : Nat) (cs : List Char) : Option (List Char × List Char) := do
  let digits ← (cs.take n).mapM Json.hexValue?
  if digits.length = n then
    let value := digits.foldl (fun v d => 16 * v + d) 0
    if value < 0xD800 ∨ (0xE000 ≤ value ∧ value < 0x110000) then
      some ([Char.ofNat value], cs.drop n)
    else none
  else none

/-- What an escape stands for, and the text behind it; the backslash has been read. -/
def escapeIn : List Char → Option (List Char × List Char)
  | 'b' :: cs => some (['\x08'], cs)
  | 't' :: cs => some (['\t'], cs)
  | 'n' :: cs => some (['\n'], cs)
  | 'f' :: cs => some (['\x0c'], cs)
  | 'r' :: cs => some (['\r'], cs)
  | '"' :: cs => some (['"'], cs)
  | '\\' :: cs => some (['\\'], cs)
  | 'u' :: cs => charNumber 4 cs
  | 'U' :: cs => charNumber 8 cs
  | _ => none

/-- A line that goes on behind a backslash: nothing but blanks may be left of the line, and the
blanks and line ends behind it do not count. -/
def lineGoesOn (cs : List Char) : Option (List Char) :=
  match skipBlanks cs with
  | '\n' :: rest => some (rest.dropWhile fun c => isBlank c || c = '\n')
  | [] => some []
  | _ => none

/-- A string between double quotes on one line; the first quote has been read. -/
def basicString : Nat → List Char → Option (List Char × List Char)
  | 0, _ => none
  | fuel + 1, cs =>
    match cs with
    | [] => none
    | '"' :: rest => some ([], rest)
    | '\\' :: rest => do
      let (c, rest) ← escapeIn rest
      let (s, rest) ← basicString fuel rest
      return (c ++ s, rest)
    | c :: rest =>
      if isControl c then none
      else (basicString fuel rest).map fun (s, rest) => (c :: s, rest)

/-- A string between three double quotes, which have been read. -/
def basicLines : Nat → List Char → Option (List Char × List Char)
  | 0, _ => none
  | fuel + 1, cs =>
    match cs with
    | [] => none
    | '"' :: '"' :: '"' :: rest => some ([], rest)
    | '\\' :: rest => do
      let (c, rest) ← if rest.head?.any fun c => isBlank c || c = '\n' then
          (lineGoesOn rest).map fun rest => ([], rest)
        else escapeIn rest
      let (s, rest) ← basicLines fuel rest
      return (c ++ s, rest)
    | c :: rest =>
      if isControl c && c ≠ '\n' then none
      else (basicLines fuel rest).map fun (s, rest) => (c :: s, rest)

/-- A string between single quotes on one line; the first quote has been read. -/
def literalString (cs : List Char) : Option (List Char × List Char) :=
  let s := cs.takeWhile (· ≠ '\'')
  match cs.dropWhile (· ≠ '\'') with
  | _ :: rest => if s.any isControl then none else some (s, rest)
  | [] => none

/-- A string between three single quotes, which have been read. -/
def literalLines : List Char → Option (List Char × List Char)
  | [] => none
  | '\'' :: '\'' :: '\'' :: rest => some ([], rest)
  | c :: rest =>
    if isControl c && c ≠ '\n' then none
    else (literalLines rest).map fun (s, rest) => (c :: s, rest)

/-- Quotes in front of the closing ones: up to two belong to the string. -/
def closingQuotes (quote : Char) (s rest : List Char) : List Char × List Char :=
  match rest with
  | c :: rest' =>
    if c ≠ quote then (s, rest)
    else match rest' with
      | d :: rest'' =>
        if d ≠ quote then (s ++ [quote], rest') else (s ++ [quote, quote], rest'')
      | [] => (s ++ [quote], [])
  | [] => (s, [])

/-- A text without the line end in front of it. -/
def skipLineEnd : List Char → List Char
  | '\n' :: rest => rest
  | cs => cs

/-- A string on one line in front of a text. -/
def shortString : List Char → Option (List Char × List Char)
  | '"' :: rest => basicString (rest.length + 1) rest
  | '\'' :: rest => literalString rest
  | _ => none

/-- A string in front of a text. -/
def stringIn : List Char → Option (List Char × List Char)
  | '"' :: '"' :: '"' :: rest =>
    (basicLines (rest.length + 1) (skipLineEnd rest)).map fun (s, r) => closingQuotes '"' s r
  | '\'' :: '\'' :: '\'' :: rest =>
    (literalLines (skipLineEnd rest)).map fun (s, r) => closingQuotes '\'' s r
  | cs => shortString cs

/-! ### Keys -/

/-- Characters of bare keys. -/
def isKeyChar (c : Char) : Bool := c.isAlphanum || c = '-' || c = '_'

/-- A key in front of a text. -/
def keyIn (cs : List Char) : Option (List Char × List Char) :=
  if cs.head?.any isKeyChar then some (cs.takeWhile isKeyChar, cs.dropWhile isKeyChar)
  else shortString cs

/-- Further keys behind points, at most `n`. -/
def moreKeys : Nat → List Char → Option (List (List Char) × List Char)
  | 0, cs => some ([], cs)
  | n + 1, cs =>
    match cs with
    | '.' :: rest => do
      let (k, rest) ← keyIn (skipBlanks rest)
      let (ks, rest) ← moreKeys n (skipBlanks rest)
      return (k :: ks, rest)
    | cs => some ([], cs)

/-- Keys joined by points in front of a text, with the blanks behind them. -/
def pathIn (cs : List Char) : Option (List (List Char) × List Char) := do
  let (k, rest) ← keyIn cs
  let (ks, rest) ← moreKeys rest.length (skipBlanks rest)
  return (k :: ks, rest)

end StatementShape.Toml
