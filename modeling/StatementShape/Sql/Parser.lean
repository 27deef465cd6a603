import StatementShape.Sql.Expression
import StatementShape.Sql.Token
import StatementShape.Text.Case

/-!
# Reading expressions from tokens

A parser takes a list of tokens and answers what it read and the tokens behind it, or refuses the
text. Reading nothing is an answer of its own, so that a rule may try the next alternative without
refusing. The combinators here are those the grammar is written in; loops are bounded by the number
of tokens.

## Main definitions

* `Parser`: the parsers
* `Parser.accept`, `Parser.acceptWords`: taking a token of a kind, or a sequence of words
* `Parser.attempt`, `Parser.tentative`: reading that leaves the tokens alone where it refuses, or
  where it reads nothing
* `Parser.iterate`, `Parser.many`, `Parser.commaList`: loops
* `Parser.node`, `Parser.need`: trees, and the parts they cannot do without
-/

namespace StatementShape.Sql

/-- Parsers: functions on the rest of the tokens that may refuse. -/
abbrev Parser := StateT (List Token) Option

namespace Parser

variable {α β : Type}

/-! ### Single tokens -/

/-- The next token, left in place. -/
def peek : Parser (Option Token) := return (← get).head?

/-- The kind of the next token, left in place. -/
def peekKind : Parser (Option TokenKind) := return (← get).head?.map (·.kind)

/-- The kind of the token behind the next one. -/
def secondKind : Parser (Option TokenKind) := return (← get)[1]?.map (·.kind)

/-- Whether no token is left. -/
def atEnd : Parser Bool := return (← get).isEmpty

/-- The next token, taken. -/
def take : Parser (Option Token) := do
  match ← get with
  | [] => return none
  | t :: ts => set ts; return some t

/-- Dropping the next tokens. -/
def skip (n : Nat) : Parser Unit := modify (·.drop n)

/-- Whether the next token is of a kind. -/
def sees (k : TokenKind) : Parser Bool := return (← peekKind) == some k

/-- Whether the next token is of one of some kinds. -/
def seesAny (p : TokenKind → Bool) : Parser Bool := return (← peekKind).any p

/-- Taking a token of a kind, if it is the next. -/
def accept (k : TokenKind) : Parser Bool := do
  match ← get with
  | t :: ts => if t.kind = k then set ts; return true else return false
  | [] => return false

/-- Taking a token of one of some kinds, if it is the next. -/
def acceptAny (p : TokenKind → Bool) : Parser (Option Token) := do
  match ← get with
  | t :: ts => if p t.kind then set ts; return some t else return none
  | [] => return none

/-- Taking two tokens of the given kinds, both or none. -/
def acceptPair (k l : TokenKind) : Parser Bool := do
  match ← get with
  | t :: u :: ts => if t.kind = k && u.kind = l then set ts; return true else return false
  | _ => return false

/-- Refusing unless the next token has the kind, which is taken. -/
def expect (k : TokenKind) : Parser Unit := do
  if ← accept k then return () else failure

/-! ### Words -/

/-- Whether a token says a word, in any letter case. Strings never do. -/
def says? (t : Token) (word : String) : Bool :=
  t.kind != .string && Text.upper t.text.toList == word

/-- Taking a sequence of words, all or none. -/
def acceptWords (words : List String) : Parser Bool := do
  let ts ← get
  let n := words.length
  if ts.length < n then return false
  if (ts.zip words).all fun p => says? p.1 p.2 then set (ts.drop n); return true
  else return false

/-- Taking one of some sequences of words, the first that fits. -/
def acceptAnyWords : List (List String) → Parser Bool
  | [] => return false
  | words :: more => do
    if ← acceptWords words then return true else acceptAnyWords more

/-- Taking one of some words, if the next token says it. -/
def acceptWord (words : List String) : Parser (Option String) := do
  match ← get with
  | t :: ts =>
    match words.find? (says? t) with
    | some w => set ts; return some w
    | none => return none
  | [] => return none

/-! ### Alternatives and loops -/

/-- Attempting: what a parser reads, or nothing with the tokens left alone, if it refuses or
reads nothing. -/
def attempt (p : Parser (Option α)) : Parser (Option α) := fun ts =>
  match p ts with
  | some (some a, rest) => some (some a, rest)
  | _ => some (none, ts)

/-- Reading tentatively: the tokens are left alone if nothing is read, and a refusal stands. -/
def tentative (p : Parser (Option α)) : Parser (Option α) := fun ts =>
  match p ts with
  | some (some a, rest) => some (some a, rest)
  | some (none, _) => some (none, ts)
  | none => none

/-- Looking ahead: whether a parser would read something here. -/
def ahead (p : Parser (Option α)) : Parser Bool := fun ts =>
  match p ts with
  | some (some _, _) => some (true, ts)
  | _ => some (false, ts)

/-- The first of two parsers that reads something. -/
def orElse? (p q : Parser (Option α)) : Parser (Option α) := do
  match ← p with
  | some a => return some a
  | none => q

/-- A parser under a condition, which otherwise reads nothing. -/
def whenever (b : Bool) (p : Parser (Option α)) : Parser (Option α) := if b then p else return none

/-- At most `n` repetitions of a step that says when it is done. -/
def iterateUpTo (step : α → Parser (Option α)) : Nat → α → Parser α
  | 0, a => return a
  | n + 1, a => do
    match ← step a with
    | some b => iterateUpTo step n b
    | none => return a

/-- Repeating a step until it is done. Each repetition takes a token, so their number is bounded
by the number of tokens. -/
def iterate (step : α → Parser (Option α)) (a : α) : Parser α := fun ts =>
  iterateUpTo step (ts.length + 1) a ts

/-- As many items as can be read. -/
def many (p : Parser (Option α)) : Parser (List α) := do
  let items ← iterate (fun items => return (← p).map (· :: items)) []
  return items.reverse

/-- Items between commas. An item may be missing anywhere; the answer also says whether the last
item is missing behind a comma. -/
def commaItems (p : Parser (Option α)) : Parser (List α × Bool) := do
  let first ← p
  let (items, open_) ← iterate (fun (items, _) => do
    if ← accept .comma then
      let item ← p
      return some (item.toList ++ items, item.isNone)
    else return none) (first.toList, false)
  return (items.reverse, open_)

/-- Items between commas. -/
def commaList (p : Parser (Option α)) : Parser (List α) := return (← commaItems p).1

/-- A parser between parentheses, which are required. -/
def wrapped (p : Parser α) : Parser α := do
  expect .lParen
  let a ← p
  expect .rParen
  return a

/-- A parser between parentheses, or without them. -/
def wrappedIfOpen (p : Parser α) : Parser α := do
  let opened ← accept .lParen
  let a ← p
  if opened then expect .rParen
  return a

/-! ### Trees -/

/-- A tree as the answer. -/
def node (kind : ExpressionKind) (parts : List Expression) : Parser Expression :=
  return .node kind parts

/-- A tree as something read. -/
def some? (kind : ExpressionKind) (parts : List Expression) : Parser (Option Expression) :=
  return some (.node kind parts)

/-- A part that a tree cannot do without. -/
def need (a : Option α) : Parser α := match a with
  | some a => return a
  | none => failure

/-- A list of parts that may not be empty. -/
def needSome (as : List α) : Parser (List α) := if as.isEmpty then failure else return as

/-- An operator node with both of its operands. -/
def operation (kind : ExpressionKind) (left right : Option Expression) :
    Parser (Option Expression) := do
  some? kind [← need left, ← need right]

/-- A chain of operators of one precedence, from left to right: `kind?` tells the operators. -/
def chain (kind? : TokenKind → Option ExpressionKind) (operand : Parser (Option Expression)) :
    Parser (Option Expression) := do
  iterate (fun left => do
    match ← peekKind with
    | some k =>
      match kind? k with
      | some kind =>
        skip 1
        let right ← operand
        return some (← operation kind left right)
      | none => return none
    | none => return none) (← operand)

end Parser

end StatementShape.Sql
