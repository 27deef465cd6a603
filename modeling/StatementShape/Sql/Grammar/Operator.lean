import StatementShape.Sql.Grammar.Operand

/-!
# Operators

Operators in the order of their precedence, from the signs in front of an operand to the assignment.
Every operator needs its operands. Intervals and typed literals are operands too.

## Main definitions

* `Rules.interval`: spans of time
* `Rules.typedOperand`: an operand that may begin with a type
* `Rules.sign` to `Rules.assign`: the levels of precedence
* `Rules.named`: an expression with its alias
-/

namespace StatementShape.Sql

open Sql.Parser

namespace Rules

variable (g : Rules)

/-! ### Intervals and types -/

/-- Units of time that an interval can have. -/
def timeUnits : List String :=
  ["YEAR", "Y", "YY", "YYY", "YYYY", "YR", "YEARS", "YRS", "MONTH", "MM", "MON", "MONS", "MONTHS",
    "DAY", "D", "DD", "DAYS", "DAYOFMONTH", "DAY OF WEEK", "WEEKDAY", "DOW", "DW", "WEEKDAY_ISO",
    "DAYOFYEAR", "DOY", "DY", "WEEK", "W", "WK", "WEEKOFYEAR", "WOY", "WY", "WEEKISO", "QUARTER",
    "Q", "QTR", "QTRS", "QUARTERS", "HOUR", "H", "HH", "HR", "HOURS", "HRS", "MINUTE", "M", "MI",
    "MIN", "MINUTES", "MINS", "SECOND", "S", "SEC", "SECONDS", "SECS", "MILLISECOND", "MS", "MSEC",
    "MSECS", "MSECOND", "MSECONDS", "MILLISEC", "MILLISECS", "MILLISECON", "MILLISECONDS",
    "MICROSECOND", "US", "USEC", "USECS", "MICROSEC", "MICROSECS", "USECOND", "USECONDS",
    "MICROSECONDS", "NANOSECOND", "NS", "NSEC", "NANOSEC", "NSECOND", "NSECONDS", "NANOSECS",
    "EPOCH", "EPOCH_SECOND", "EPOCH_SECONDS", "EPOCH_MILLISECOND", "EPOCH_MILLISECONDS",
    "EPOCH_MICROSECOND", "EPOCH_MICROSECONDS", "EPOCH_NANOSECOND", "EPOCH_NANOSECONDS",
    "TIMEZONE_HOUR", "TZH", "TIMEZONE_MINUTE", "TZM", "DECADE", "DEC", "DECS", "DECADES",
    "MILLENNIUM", "MIL", "MILS", "MILLENIA", "CENTURY", "C", "CENT", "CENTS", "CENTURIES"]

/-- Whether a text holds a span of time: a number with a unit behind it. -/
def hasSpan (text : List Char) : Bool :=
  (List.range text.length).any fun i =>
    let s := text.drop i
    let digits := s.takeWhile Char.isDigit
    let rest := s.dropWhile Char.isDigit
    let rest := match rest with
      | '.' :: r => if (r.head?.any Char.isDigit) then r.dropWhile Char.isDigit else rest
      | _ => rest
    !digits.isEmpty && ((rest.dropWhile Text.isBlank).head?.any Char.isAlpha)

/-- The number and unit of an interval, whose unit may stand in its text. -/
def span : Parser (Option Expression) := do
  let t? ← peek
  let text? := t?.bind fun t => if t.kind = .string then some t.text.toList else none
  let bare := t?.any fun t => t.kind != .identifier
  let count ← if text?.isSome then g.primary else g.term
  match count with
  | none => return none
  | some count =>
    let next? ← peek
    let plainColumn := bare && count.kind = .column && count.parts.length = 1
    if plainColumn && next?.any fun t => !timeUnits.contains (Text.upper t.text.toList) then
      return none
    let here ← get
    let unit ← g.partCall
    let unit ← match unit with
      | some u => pure (some u)
      | none => if ← sees .as_ then pure none else g.variable true
    let inText := text?.any hasSpan
    if inText && unit.isSome then set here
    if ← acceptWords ["TO"] then
      let _ ← orElse? g.partCall (g.variable true)
    some? .interval [count]

/-- Intervals, also as sums of several. -/
def interval : Parser (Option Expression) := tentative do
  if !(← accept .interval) then return none
  match ← g.span with
  | none => return none
  | some first =>
    iterate (fun e => do
      match e with
      | none => return none
      | some e =>
        let here ← get
        let _ ← accept .plus
        if ← seesAny fun k => k = .string || k = .number then
          let more ← need (← g.span)
          return some (some (.node .add [e, more]))
        else
          set here
          return none) (some first)

/-- An operand that begins with a type: a literal of that type or, with its sizes, the type
itself. Any other operand is a column. -/
def typedOperand : Parser (Option Expression) := do
  match ← g.interval with
  | some e => g.columnSteps false e
  | none =>
    let here ← get
    match ← g.readType { notCall := true, names := false } with
    | none => g.column
    | some type =>
      if type.kind = .cast then g.columnSteps false type
      else
        let behind ← get
        match ← g.primary with
        | some e =>
          if e.kind = .literal then
            let e ← g.columnSteps false e
            some? .cast [← need e, type]
          else
            if !type.parts.isEmpty && 1 < here.length - behind.length then
              set behind
              g.columnSteps false type
            else
              set here
              g.column
        | none =>
          if !type.parts.isEmpty && 1 < here.length - behind.length then
            set behind
            g.columnSteps false type
          else
            set here
            g.column

/-! ### Precedence -/

/-- Time zones behind an operand. -/
def inTimeZone (e : Option Expression) : Parser (Option Expression) :=
  iterate (fun e => do
    if ← acceptWords ["AT", "TIME", "ZONE"] then
      some <$> some? .atTimeZone [← need e, ← need (← g.unary)]
    else return none) e

/-- Signs in front of an operand. A plus sign says nothing. -/
def sign : Parser (Option Expression) := do
  match ← peekKind with
  | some .plus => skip 1; g.unary
  | some .not => skip 1; some? .not [← need (← g.equality)]
  | some .tilde => skip 1; some? .bitwiseNot [← need (← g.unary)]
  | some .dash => skip 1; some? .neg [← need (← g.unary)]
  | some .pipeSlash => skip 1; some? .sqrt [← need (← g.unary)]
  | some .dpipeSlash => skip 1; some? .cbrt [← need (← g.unary)]
  | _ => g.inTimeZone (← g.typedOperand)

/-- Powers, where the dialect writes them with a caret or two stars. -/
def power : Parser (Option Expression) :=
  chain (fun k => match k with
    | .caret => if g.conventions.caretIsPower then some .pow else none
    | .dstar => some .pow
    | _ => none) g.sign

/-- Products. A word that divides needs its second operand to be an operator. -/
def product : Parser (Option Expression) := do
  iterate (fun left => do
    let here ← get
    match ← acceptAny fun k => k = .star || k = .slash || k = .div || k = .lrArrow with
    | none => return none
    | some t =>
      let right ← g.power
      if right.isNone && t.kind = .div && t.text.toList.all Char.isAlpha then
        set here
        return none
      let kind : ExpressionKind := match t.kind with
        | .star => .mul
        | .slash => .div
        | .div => .intDiv
        | _ => .distance
      return some (← operation kind left right)) (← g.power)

/-- Sums, remainders and collations. -/
def sum : Parser (Option Expression) :=
  chain (fun k => match k with
    | .dash => some .sub
    | .plus => some .add
    | .mod => some .mod
    | .collate => some .collate
    | _ => none) g.product

/-- Operators on bits and texts. -/
def bitOperator? (k : TokenKind) : Option ExpressionKind :=
  match k with
  | .amp => some .bitwiseAnd
  | .caret => if g.conventions.caretIsPower then none else some .bitwiseXor
  | .pipe => some .bitwiseOr
  | .hash => if g.conventions.hashIsOperator then some .bitwiseXor else none
  | .dpipe => if g.conventions.barsConcatenate then some .dPipe else none
  | _ => none

/-- Operations on bits and texts, shifts and defaults for null. -/
def bits : Parser (Option Expression) := do
  iterate (fun left => do
    match (← peekKind).bind g.bitOperator? with
    | some kind =>
      skip 1
      return some (← operation kind left (← g.sum))
    | none =>
      if ← accept .dquestion then
        let right ← g.sum
        some <$> some? .coalesce ((← need left) :: right.toList)
      else if ← acceptPair .lt .lt then
        return some (← operation .bitwiseLeftShift left (← g.sum))
      else if ← acceptPair .gt .gt then
        return some (← operation .bitwiseRightShift left (← g.sum))
      else return none) (← g.sum)

/-! ### Ranges -/

/-- The character that escapes in a pattern. -/
def escaped (e : Option Expression) : Parser (Option Expression) := do
  if ← accept .escape then
    let c ← orElse? stringLiteral (do if ← accept .null then some? .null [] else return none)
    some? .escape [← need e, ← need c]
  else return e

/-- Comparisons with a pattern or a range that take one operand. -/
def pattern? : TokenKind → Option ExpressionKind
  | .like => some .like
  | .ilike => some .ilike
  | .rlike => some .regexpLike
  | .irlike => some .regexpILike
  | .similarTo => some .similarTo
  | .glob => some .glob
  | .overlaps => some .overlaps
  | .atGt | .ltAt => some .arrayContainsAll
  | .damp => some .arrayOverlaps
  | .dat => some .textSearch
  | .questionAmp => some .jsonbContainsAll
  | .questionPipe => some .jsonbContainsAny
  | .hashDash => some .jsonbDelete
  | .adjacent => some .adjacent
  | .ampLt => some .extendsLeft
  | .ampGt => some .extendsRight
  | .caretAt => some (.call "startswith")
  | .memberOf => some .memberOf
  | _ => none

/-- Membership: in a list, in a query, or in a column. -/
def membership (left : Expression) : Parser (Option Expression) := do
  if ← acceptPair .unnest .lParen then
    let items ← commaList g.equality
    expect .rParen
    some? .in_ (left :: (← needSome items))
  else
    match ← acceptAny fun k => k = .lParen || k = .lBracket with
    | some t =>
      let items ← commaList (g.queryOrExpression false)
      let items ← match items with
        | [q] => if q.kind.isQuery then pure (← g.modifiers (some q)).toList else pure items
        | _ => pure items
      expect (if t.kind = .lParen then .rParen else .rBracket)
      some? .in_ (left :: items)
    | none =>
      let column ← g.column
      some? .in_ (left :: column.toList)

/-- Between two bounds. -/
def betweenBounds (left : Option Expression) : Parser (Option Expression) := do
  let symmetric ← acceptWords ["SYMMETRIC"]
  if !symmetric then let _ ← acceptWords ["ASYMMETRIC"]
  let low ← g.bits
  let _ ← accept .and
  let high ← g.bits
  some? .between [← need left, ← need low, ← need high]

/-- Identity: with null, a truth value, or whether two values are distinct. -/
def identity (left : Option Expression) : Parser (Option Expression) := tentative do
  let negated ← accept .not
  if ← acceptWords ["DISTINCT", "FROM"] then
    operation (if negated then .nullSafeEq else .nullSafeNeq) left (← g.bits)
  else if ← accept .json then
    let _ ← acceptWord ["VALUE", "SCALAR", "ARRAY", "OBJECT"]
    let _ ← acceptWords ["WITH", "UNIQUE", "KEYS"]
    some? .is [← need left]
  else
    let right ← if ← accept .null then some? .null [] else g.bits
    match right with
    | none => return none
    | some right =>
      let e : Expression := .node .is [← need left, right]
      return some (if negated then .node .not [e] else e)

/-- A comprehension: its variables, what they range over, and a condition. -/
def comprehension (left : Option Expression) : Parser (Option Expression) := tentative do
  let names ← commaList g.column
  if !(← accept .in_) then return none
  let values ← g.column
  let condition ← if ← acceptWords ["IF"] then g.disjunction else pure none
  some? .comprehension ([← need left, ← need values] ++ names ++ condition.toList)

/-- An operator by name, in parentheses. -/
def namedOperator (left : Option Expression) : Parser (Option Expression) := do
  iterate (fun left => do
    if ← accept .lParen then
      let _ ← many do
        if ← sees .rParen then return none else take
      let _ ← accept .rParen
      let e ← operation .operator left (← g.bits)
      let _ ← acceptPair .operator .lParen
      return some e
    else return none) left

/-- A comparison with a range behind an operand: nothing if none is there, and otherwise what it
makes, where a comparison that reads nothing leaves its word alone. -/
def rangeStep (left : Option Expression) : Parser (Option (Option Expression)) := do
  let here ← get
  let back (e : Option Expression) : Parser (Option (Option Expression)) := do
    match e with
    | some e => return some (some e)
    | none => set here; return some none
  match ← peekKind with
  | none => return none
  | some k =>
    let patterns := g.conventions.barsConcatenate || k != .damp
    match if patterns then pattern? k else none with
    | some kind =>
      skip 1
      return some (← escaped (← operation kind left (← g.bits)))
    | none =>
      match k with
      | .between => skip 1; return some (← g.betweenBounds left)
      | .in_ => skip 1; return some (← g.membership (← need left))
      | .is => skip 1; back (← g.identity left)
      | .for_ => skip 1; back (← g.comprehension left)
      | .operator => skip 1; return some (← g.namedOperator left)
      | _ => return none

/-- Comparisons with ranges, patterns and null, which `NOT` may stand in front of. -/
def range : Parser (Option Expression) := do
  let left ← g.bits
  let negated ← accept .not
  match ← g.rangeStep left with
  | some none => return left
  | some (some e) => finish negated (some e)
  | none =>
    if ← accept .isnull then
      finish negated (some (.node .is [← need left]))
    else if negated && (← accept .null) then
      finish negated (some (.node .is [← need left]))
    else finish negated left
where
  /-- What may still follow a comparison. -/
  finish (negated : Bool) (e : Option Expression) : Parser (Option Expression) := do
    let e ← if ← accept .notnull then some? .not [← need e] else pure e
    let e := if negated then e.map fun e => .node .not [e] else e
    let here ← get
    if ← accept .is then
      match ← g.identity e with
      | some e => return some e
      | none =>
        set here
        return none
    else return e

/-! ### Comparisons and connectives -/

/-- Comparisons of order. -/
def comparison : Parser (Option Expression) :=
  chain (fun k => match k with
    | .gt => some .gt
    | .gte => some .gte
    | .lt => some .lt
    | .lte => some .lte
    | _ => none) g.range

/-- Comparisons of equality. -/
def equal : Parser (Option Expression) :=
  chain (fun k => match k with
    | .eq => some .eq
    | .neq => some .neq
    | .nullsafeEq => some .nullSafeEq
    | _ => none) g.comparison

/-- Conjunctions. -/
def conjunction : Parser (Option Expression) :=
  chain (fun k => match k with
    | .and => some .and
    | .damp => if g.conventions.barsConcatenate then none else some .and
    | .xor => if g.conventions.barsConcatenate then none else some .xor
    | _ => none) g.equal

/-- Disjunctions. -/
def disjoined : Parser (Option Expression) :=
  chain (fun k => match k with
    | .or => some .or
    | .dpipe => if g.conventions.barsConcatenate then none else some .or
    | _ => none) g.conjunction

/-- Assignments, which group to the right. Any word can be assigned to. -/
def assign : Parser (Option Expression) := do
  let left ← g.disjoined
  let left ← match left with
    | some e => pure (some e)
    | none =>
      if (← secondKind) == some .colonEq then
        skip 1
        some? .column []
      else pure none
  if ← accept .colonEq then operation .propertyEq left (← g.assignment)
  else return left

/-- An expression with its alias. -/
def named : Parser (Option Expression) := do g.aliased false (← g.assign)

end Rules

end StatementShape.Sql
