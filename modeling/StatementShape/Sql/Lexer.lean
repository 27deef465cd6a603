import StatementShape.Sql.Dialect
import StatementShape.Text.Case
import StatementShape.Text.Digit
import StatementShape.Text.Letter

/-!
# Cutting SQL into tokens

The lexer moves a cursor over the text. At each step it skips a blank or a comment, or reads the
longest token that the conventions of the dialect allow. A word that takes the rest of its statement
as raw text is followed by one string token that reaches to the next semicolon.

## Main definitions

* `Cursor`, `Cursor.advance`: a place in the text, with its line and column
* `Probe`, `probe`: the longest spelling with blanks or marks that begins at a place
* `Scan.step`: one blank, comment or token
* `tokenize`: the tokens of a text, or `none` if a string, identifier or comment does not end
-/

namespace StatementShape.Sql

open Text

/-! ### Places -/

/-- A place in a text: how much has been read, the line and column of the character read last,
that character, and the rest. -/
structure Cursor where
  offset : Nat := 0
  line : Nat := 1
  column : Nat := 0
  last : Option Char := none
  rest : List Char
  deriving DecidableEq, Repr

namespace Cursor

/-- A line ends behind a line feed or a carriage return, and once behind the two together. The
column of the next character is then its distance from the line's end. -/
def place (c : Cursor) (n : Nat) : Nat × Nat :=
  match c.last, c.rest.head? with
  | some '\r', some '\n' => (c.line, c.column)
  | some '\r', _ => (c.line + 1, n)
  | some '\n', _ => (c.line + 1, n)
  | _, _ => (c.line, c.column + n)

/-- Reading the next `n` characters, if there are as many. A line end among them counts when it
is left, so only the last one can start a line. -/
def advance (c : Cursor) (n : Nat) : Option Cursor :=
  if n = 0 then some c
  else if n ≤ c.rest.length then
    let (line, column) := c.place n
    some { offset := c.offset + n, line, column, last := (c.rest.take n).getLast?,
           rest := c.rest.drop n }
  else none

/-- Reading one character after another while `p` holds of the next. -/
def advanceWhile (p : Char → Bool) : Nat → Cursor → Cursor
  | 0, c => c
  | n + 1, c =>
    match c.rest.head? with
    | some x => if p x then (c.advance 1).elim c (advanceWhile p n) else c
    | none => c

/-- The text between an earlier place and this one. -/
def textFrom (c start : Cursor) : List Char := start.rest.take (c.offset - start.offset)

/-- Whether a text stands at the character read last. -/
def at? (c : Cursor) (text : List Char) : Bool :=
  match c.last with
  | some x => (x :: c.rest).take text.length == text
  | none => false

@[simp] theorem advance_zero (c : Cursor) : c.advance 0 = some c := rfl

/-- Reading moves the offset and shortens the rest by as much. -/
theorem advance_spec {c d : Cursor} {n : Nat} (h : c.advance n = some d) :
    d.offset = c.offset + n ∧ d.rest = c.rest.drop n ∧ n ≤ c.rest.length := by
  unfold advance at h
  split at h
  · next hn => subst hn; cases h; simp
  · split at h
    · next hle => cases h; exact ⟨rfl, rfl, hle⟩
    · cases h

end Cursor

/-! ### Spellings with marks and blanks -/

/-- The classes of a text's characters that lexing needs. -/
def Lexical.mark? (lx : Lexical) (c : Char) : Option TokenKind := lx.marks.lookup c

/-- Marks end a bare name: single tokens and quotes. -/
def Lexical.isMark (lx : Lexical) (c : Char) : Bool :=
  (lx.mark? c).isSome || quoteMarks.contains c

/-- The kind of a spelling, if it has one of its own. -/
def Lexical.kind? (lx : Lexical) (word : String) : Option TokenKind := lx.words.lookup word

/-- Comment openings, with the opening of hints where the dialect has them. -/
def Lexical.commentStarts (lx : Lexical) : List (String × Option String) :=
  if lx.hints then ("/*+", some "*/") :: lx.comments else lx.comments

/-- Letters in front of a quote that mark national strings in every dialect. -/
def Lexical.nationalStrings (lx : Lexical) : List Quotation :=
  lx.strings.flatMap fun q => ["n", "N"].map fun w =>
    { q with opening := w.toList ++ q.opening, kind := .nationalString }

/-- All quotations of strings. -/
def Lexical.quotations (lx : Lexical) : List Quotation :=
  lx.strings ++ lx.markedStrings ++ lx.nationalStrings

/-- Spellings that a word cannot be: those with a blank or a mark in them, in capitals. They are
looked for before bare names are read. -/
def Lexical.markedSpellings (lx : Lexical) : List (List Char) :=
  let spellings := lx.words.map (·.1.toList) ++ lx.commentStarts.map (·.1.toList)
    ++ lx.quotations.map (·.opening) ++ (if lx.heredocs then [['$']] else [])
  (spellings.filter fun s => s.any fun c => c == ' ' || lx.isMark c).map capitalize

/-- What probing found: the longest spelling, as written with single blanks, the number of
characters looked at, and whether the place behind it can end a word. -/
structure Probe where
  word : Option (List Char)
  length : Nat
  closed : Bool

/-- Following spellings through the capitals of one character. -/
def follow (spellings : List (List Char)) (capitals : List Char) : List (List Char) :=
  spellings.filterMap fun s =>
    if s.take capitals.length == capitals then some (s.drop capitals.length) else none

/-- Probing at a character `x` that is followed by `more`: `spellings` are the rests of the
spellings that fit so far, `seen` the characters read before, in reverse. A run of blanks counts as
one blank. -/
def probeFrom (isMark : Char → Bool) (spellings : List (List Char)) (seen : List Char)
    (word : Option (List Char)) (length : Nat) (afterBlank marked : Bool) (x : Char) :
    List Char → Probe
  | more =>
    let spellings := follow spellings (capital x)
    if spellings.isEmpty then { word, length, closed := afterBlank || marked }
    else
      let seen := x :: seen
      let word := if spellings.contains [] then some seen.reverse else word
      go isMark spellings seen word (length + 1) afterBlank marked more
where
  /-- The characters behind the last one that counted. -/
  go (isMark : Char → Bool) (spellings : List (List Char)) (seen : List Char)
      (word : Option (List Char)) (length : Nat) (afterBlank marked : Bool) :
      List Char → Probe
    | [] => { word, length, closed := true }
    | y :: more =>
      let marked := marked || isMark y
      if isBlank y && afterBlank then
        go isMark spellings seen word (length + 1) afterBlank marked more
      else
        let y' := if isBlank y then ' ' else y
        let next := follow spellings (capital y')
        if next.isEmpty then { word, length, closed := isBlank y || marked }
        else
          let seen := y' :: seen
          let word := if next.contains [] then some seen.reverse else word
          go isMark next seen word (length + 1) (isBlank y) marked more

/-- Probing at the character read last. -/
def Lexical.probe (lx : Lexical) (c : Cursor) : Probe :=
  match c.last with
  | none => { word := none, length := 0, closed := false }
  | some x =>
    probeFrom lx.isMark lx.markedSpellings [] none 0 false (lx.isMark x) x c.rest

/-! ### Quoted text -/

/-- Escape sequences that stand for one character each. -/
def sequenceLetters : List Char := ['a', 'b', 'f', 'n', 'r', 't', 'v', '\\']

/-- How a quoted text is read: its closing mark, its escapes, and whether it is raw. -/
structure QuoteRule where
  closing : List Char
  escapes : List Char
  raw : Bool

/-- Quoted text, read from its first character, the one read last. The answer is the text and
the place of the last closing mark, or, if it never closes, the text up to the end. -/
def quoted (lx : Lexical) (rule : QuoteRule) :
    Nat → Cursor → List Char → Option (List Char × Cursor × Bool)
  | 0, _, _ => none
  | fuel + 1, c, text => do
    let x ← c.last
    let next := c.rest.head?
    let isSequence := !rule.raw && lx.escapes.contains '\\' && x == '\\'
      && next.any sequenceLetters.contains
    if isSequence then
      quoted lx rule fuel (← c.advance 2) (next.toList ++ x :: text)
    else
      let plain := lx.strings.any (·.opening == [x])
      let escapes := (lx.rawEscapes || !rule.raw) && rule.escapes.contains x
        && next.any (fun y => rule.closing == [y] || rule.escapes.contains y)
        && (!plain || next == some x)
      if escapes then
        if 2 ≤ c.rest.length then
          let kept := if rule.closing == next.toList then next.toList else next.toList ++ [x]
          quoted lx rule fuel (← c.advance 2) (kept ++ text)
        else none
      else if c.at? rule.closing then
        return (text.reverse, ← c.advance (rule.closing.length - 1), true)
      else if c.rest.isEmpty then
        return ((x :: text).reverse, c, false)
      else
        quoted lx rule fuel (← c.advance 1) (x :: text)

/-- Closed quoted text behind an opening of the given length, which begins at the character read
last. -/
def closedQuote (lx : Lexical) (rule : QuoteRule) (opening : Nat) (c : Cursor) :
    Option (List Char × Cursor) := do
  let inside ← c.advance opening
  let (text, c, closed) ← quoted lx rule (inside.rest.length + 1) inside []
  if closed then some (text, c) else none

/-! ### Comments -/

/-- A block comment, read from the first character behind its opening, which is the one read
last: `depth` openings are still open. The place is that of the closing's first character. -/
def blockComment (opening closing : List Char) (nested : Bool) :
    Nat → Nat → Cursor → Option Cursor
  | 0, _, _ => none
  | fuel + 1, depth, c =>
    if c.rest.isEmpty then none
    else
      let depth := if c.at? closing then depth - 1 else depth
      if depth = 0 then some c
      else do
        let c ← c.advance 1
        if nested && !c.rest.isEmpty && opening.length == closing.length && c.at? opening then
          blockComment opening closing nested fuel (depth + 1) (← c.advance opening.length)
        else blockComment opening closing nested fuel depth c

/-- A comment whose opening begins at the character read last. -/
def comment (lx : Lexical) (opening : List Char) (closing : Option String) (c : Cursor) :
    Option Cursor :=
  match closing with
  | none => some (c.advanceWhile (fun x => x != '\n' && x != '\r') c.rest.length)
  | some closing => do
    let inside ← c.advance opening.length
    let c ← blockComment opening closing.toList lx.nestedComments (inside.rest.length + 1) 1 inside
    c.advance (closing.length - 1)

/-! ### Tokens -/

/-- The state of a scan: where it is, and the tokens so far, the newest first. -/
structure Scan where
  cursor : Cursor
  tokens : List Token := []

/-- A new token from `start` to where the cursor is. -/
def Scan.emit (s : Scan) (start : Nat) (kind : TokenKind) (text : List Char) : Scan :=
  { s with tokens := { kind, text := String.ofList text, start, stop := s.cursor.offset,
                       line := s.cursor.line, column := s.cursor.column } :: s.tokens }

/-- The kind of the newest token. -/
def Scan.lastKind? (s : Scan) : Option TokenKind := s.tokens.head?.map (·.kind)

/-- A bare name, from the character read last: up to the next blank or mark. Behind a parameter
sign it is never a keyword. -/
def Scan.word (lx : Lexical) (s : Scan) (start : Cursor) : Scan :=
  let inName := fun x => !isBlank x && (lx.nameMarks.contains x || !lx.isMark x)
  let c := s.cursor.advanceWhile inName s.cursor.rest.length
  let text := c.textFrom start
  let kind := if s.lastKind? = some .parameter then .var
    else (lx.kind? (upper text)).getD .var
  { s with cursor := c }.emit start.offset kind text

/-- The parts of a number: digits, one point, one exponent with a sign. -/
def numberEnd (spaced noPoint : Bool) : Nat → Cursor → (point : Bool) → (exponent : Nat) → Cursor
  | 0, c, _, _ => c
  | fuel + 1, c, point, exponent =>
    match c.rest.head?, c.advance 1 with
    | some x, some d =>
      if isDigit x then numberEnd spaced noPoint fuel d point exponent
      else if x == '.' && !point then
        if noPoint then c else numberEnd spaced noPoint fuel d true exponent
      else if (x == '-' || x == '+') && exponent == 1 then
        numberEnd spaced noPoint fuel d point 2
      else if (x == 'e' || x == 'E') && exponent == 0 then
        numberEnd spaced noPoint fuel d point 1
      else if x == '_' && spaced then numberEnd spaced noPoint fuel d point exponent
      else c
    | _, _ => c

/-- Digits of a base behind its two-character sign. -/
def isNumeral (base : Nat) (digits : List Char) : Bool :=
  !digits.isEmpty && digits.all fun c =>
    let v := if c.isDigit then c.toNat - '0'.toNat
      else if c.isAlpha then c.toLower.toNat - 'a'.toNat + 10 else base
    v < base

/-- A number, whose first digit is the character read last. A dialect may read a base sign, a
suffix that names a type, or a name that begins with digits. -/
def Scan.number (lx : Lexical) (s : Scan) (start : Cursor) : Scan :=
  let more := fun x => !isBlank x && !lx.isMark x
  let based (base : Nat) (kind : TokenKind) : Scan :=
    let c := s.cursor.advanceWhile more s.cursor.rest.length
    let text := c.textFrom start
    let kind := if isNumeral base (text.drop 2) then kind else .identifier
    { s with cursor := c }.emit start.offset kind text
  match s.cursor.last, s.cursor.rest.head?.map Char.toUpper with
  | some '0', some 'B' =>
    if lx.bitNumbers then based 2 .bitString else s.emit start.offset .number ['0']
  | some '0', some 'X' =>
    if lx.hexNumbers then based 16 .hexString else s.emit start.offset .number ['0']
  | _, _ =>
    let noPoint := s.lastKind? = some .parameter
    let c := numberEnd lx.spacedNumbers noPoint s.cursor.rest.length s.cursor false 0
    let text := c.textFrom start
    let plain := { s with cursor := c }.emit start.offset .number text
    if c.rest.head?.any isLetter then
      let d := c.advanceWhile more c.rest.length
      let suffix := d.textFrom c
      if lx.numberSuffixes.contains (upper suffix) then
        (({ s with cursor := d }.emit start.offset .number text).emit start.offset .dcolon
          [':', ':']).emit start.offset .type suffix
      else if lx.digitNames then
        { s with cursor := d }.emit start.offset .var (d.textFrom start)
      else plain
    else plain

/-- A dollar-quoted string, or the dollar sign alone where no tag follows it. -/
def Scan.heredoc (lx : Lexical) (s : Scan) (start : Cursor) : Option Scan := do
  let inside ← s.cursor.advance 1
  let rule : QuoteRule := { closing := ['$'], escapes := lx.escapes, raw := true }
  let (tag, c) ← if inside.last = some '$' then some ([], inside)
    else (quoted lx rule (inside.rest.length + 1) inside []).map fun r => (r.1, r.2.1)
  if !tag.isEmpty && (c.rest.isEmpty || tag.all isDigit || tag.any isBlank) then
    return s.emit start.offset .parameter ['$']
  let body : QuoteRule :=
    { closing := '$' :: tag ++ ['$'], escapes := lx.escapes, raw := false }
  let (text, c) ← closedQuote lx body 1 c
  return { s with cursor := c }.emit start.offset .heredocString text

/-- A string behind one of the dialect's openings. -/
def Scan.string (lx : Lexical) (s : Scan) (start : Cursor) (q : Quotation) : Option Scan := do
  let escapes := if q.kind = .byteString then lx.byteEscapes else lx.escapes
  let rule : QuoteRule := { closing := q.closing, escapes, raw := q.raw }
  let (text, c) ← closedQuote lx rule q.opening.length s.cursor
  if q.base.any fun b => !text.isEmpty && !isNumeral b text then none
  else return { s with cursor := c }.emit start.offset q.kind text

/-- Words behind which a hint counts. -/
def takesHint : TokenKind → Bool
  | .select | .insert | .update | .delete => true
  | _ => false

/-- One step of a scan: it reads a blank, a comment or a token, and always at least one
character. -/
def Scan.step (lx : Lexical) (s : Scan) : Option Scan := do
  let start := s.cursor
  let c ← start.advance 1
  let x ← c.last
  let s := { s with cursor := c }
  if isBlank x then return s
  if isDigit x then return s.number lx start
  if let some closing := lx.identifiers.lookup x then
    let escapes := [closing]
    let (text, c) ← closedQuote lx { closing := [closing], escapes, raw := false } 1 c
    return { s with cursor := c }.emit start.offset .identifier text
  let probe := lx.probe c
  if let some word := probe.word then
    if lx.heredocs && word == ['$'] then return ← s.heredoc lx start
    if let some q := lx.quotations.find? (·.opening == word) then
      return ← s.string lx start q
    if let some (opening, closing) := lx.commentStarts.find? (·.1.toList == word) then
      let c ← comment lx opening.toList closing c
      let s' := { s with cursor := c }
      return if opening == "/*+" && s.lastKind?.any takesHint
        then s'.emit start.offset .hint (c.textFrom start) else s'
    if probe.closed then
      if let some kind := lx.kind? (upper word) then
        let c ← c.advance (probe.length - 1)
        return { s with cursor := c }.emit start.offset kind word
  match lx.mark? x with
  | some kind => return s.emit start.offset kind [x]
  | none => return s.word lx start

/-- Words behind which a command may stand, besides the beginning of the text. -/
def opensCommand : TokenKind → Bool
  | .semicolon | .begin_ => true
  | _ => false

/-- Whether the newest token takes the rest of the statement: a command at the beginning of the
text or behind a semicolon or `BEGIN`, with anything but a semicolon right behind it. -/
def Scan.takesRest (lx : Lexical) (before s : Scan) : Bool :=
  before.tokens.length < s.tokens.length
    && (match s.tokens with
      | [t] => lx.commands.contains t.kind
      | t :: u :: _ => lx.commands.contains t.kind && opensCommand u.kind
      | [] => false)
    && s.cursor.rest.head? != some ';'

/-- Scanning to the end of the text or, with `toSemicolon`, to just before the next semicolon
that is a token. -/
def Scan.run (lx : Lexical) (toSemicolon : Bool) : Nat → Scan → Option Scan
  | 0, s => some s
  | fuel + 1, s =>
    if s.cursor.rest.isEmpty then some s
    else do
      let next ← s.step lx
      let next ← if s.takesRest lx next then do
          let inner ← Scan.run lx true fuel next
          let text := strip (inner.cursor.textFrom next.cursor)
          let next' := { next with cursor := inner.cursor }
          pure <| if text.isEmpty then next'
            else next'.emit next.cursor.offset .string text
        else pure next
      if toSemicolon && next.cursor.rest.head? == some ';' then some next
      else Scan.run lx toSemicolon fuel next

/-- The tokens of a text, or `none` if a string, an identifier or a comment has no end. -/
def tokenize (lx : Lexical) (text : List Char) : Option (List Token) :=
  ((Scan.run lx false (text.length + 1) { cursor := { rest := text } }).map
    (·.tokens)).map List.reverse

end StatementShape.Sql
