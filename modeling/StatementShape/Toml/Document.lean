import StatementShape.Toml.Scalar

/-!
# TOML documents

A document is read line by line. A line in brackets opens a table, in double brackets a further item
of an array of tables; any other line gives a key a value in the table that is open. No key is given
twice, and a table that was written in one piece is not added to.

## Main definitions

* `valueIn`: a value in front of a text
* `State`: the tables so far, and which of them are closed to additions
* `Toml.read`: the tables of a document
-/

namespace StatementShape.Toml

open Config (Entries Value)

/-- The names that lead to a table. -/
abbrev Path := List (List Char)

/-- Whether a path leads into one of some tables, or to it. -/
def leadsInto (tables : List Path) (path : Path) : Bool := tables.any (·.isPrefixOf path)

/-- A change at the end of a path: the tables in front of its last name are opened, and the entry
must be new there. -/
def addEntry (intoArrays : Bool) (path : Path) (v : Value) (entries : Entries) : Option Entries :=
  match path.getLast? with
  | none => none
  | some name =>
    entries.update intoArrays
      (fun t => if (t.lookup name).isNone then some (t.put name v) else none) path.dropLast

/-- Whether a value is written in one piece though it has parts. -/
def isWhole : Value → Bool
  | .array _ | .table _ => true
  | _ => false

/-! ### Values -/

mutual

/-- A value in front of a text. -/
def valueIn : Nat → List Char → Except Flaw (Value × List Char)
  | 0, _ => .error .malformed
  | fuel + 1, cs =>
    match cs with
    | 't' :: 'r' :: 'u' :: 'e' :: rest => .ok (.bool true, rest)
    | 'f' :: 'a' :: 'l' :: 's' :: 'e' :: rest => .ok (.bool false, rest)
    | '[' :: rest => do
      let (items, rest) ← itemsIn fuel rest
      return (.array items, rest)
    | '\x7b' :: rest =>
      match skipBlanks rest with
      | '\x7d' :: rest => .ok (.table [], rest)
      | rest => do
        let (entries, rest) ← entriesIn fuel [] [] rest
        return (.table entries, rest)
    | c :: _ =>
      if c = '"' ∨ c = '\'' then
        orMalformed ((stringIn cs).map fun (s, rest) => (.string s, rest))
      else match dateTimeIn cs with
        | some answer => orMalformed answer
        | none =>
          match timeIn cs with
          | some (t, rest) => .ok (.time t, rest)
          | none => numberIn cs
    | [] => .error .malformed

/-- The items of an array up to its closing bracket; a comma may stand behind the last. -/
def itemsIn : Nat → List Char → Except Flaw (List Value × List Char)
  | 0, _ => .error .malformed
  | fuel + 1, cs => do
    match ← orMalformed (skipLines cs.length cs) with
    | ']' :: rest => return ([], rest)
    | cs =>
      let (v, cs) ← valueIn fuel cs
      match ← orMalformed (skipLines cs.length cs) with
      | ',' :: rest =>
        let (vs, rest) ← itemsIn fuel rest
        return (v :: vs, rest)
      | ']' :: rest => return ([v], rest)
      | _ => .error .malformed

/-- The entries of a table up to its closing brace: those before, and the paths that are closed. -/
def entriesIn : Nat → Entries → List Path → List Char → Except Flaw (Entries × List Char)
  | 0, _, _, _ => .error .malformed
  | fuel + 1, entries, closed, cs => do
    let (path, cs) ← orMalformed (pathIn cs)
    match cs with
    | '=' :: rest =>
      let (v, cs) ← valueIn fuel (skipBlanks rest)
      if leadsInto closed path then .error .malformed
      else
        let entries ← orMalformed (addEntry false path v entries)
        match skipBlanks cs with
        | '\x7d' :: rest => return (entries, rest)
        | ',' :: rest =>
          entriesIn fuel entries (if isWhole v then path :: closed else closed) (skipBlanks rest)
        | _ => .error .malformed
    | _ => .error .malformed

end

/-! ### Lines -/

/-- The state of a document: the tables so far, the path of the open one, those written in one
piece, those that cannot be opened again, and those that cannot once another is opened. -/
structure State where
  entries : Entries := []
  header : Path := []
  whole : List Path := []
  opened : List Path := []
  pending : List Path := []

/-- Opening a table by its path. -/
def State.openTable (s : State) (path : Path) : Option State := do
  let s := { s with opened := s.pending ++ s.opened, pending := [] }
  if s.opened.contains path || leadsInto s.whole path then none
  else
    let entries ← s.entries.update true some path
    return { s with entries, opened := path :: s.opened, header := path }

/-- A further item of an array of tables. -/
def appendItem (name : List Char) (entries : Entries) : Option Entries :=
  match entries.lookup name with
  | none => some (entries.put name (.array [.table []]))
  | some (.array items) => some (entries.put name (.array (items ++ [.table []])))
  | some _ => none

/-- Opening a further item of an array of tables by its path. What was closed in the item before
is open again. -/
def State.openItem (s : State) (path : Path) : Option State := do
  let s := { s with opened := s.pending ++ s.opened, pending := [] }
  if leadsInto s.whole path then none
  else
    let name ← path.getLast?
    let inside := fun p : Path => !path.isPrefixOf p
    let entries ← s.entries.update true (appendItem name) path.dropLast
    return { s with entries, whole := s.whole.filter inside,
                    opened := path :: s.opened.filter inside, header := path }

/-- Paths to the tables that a path of several names goes through, less the last. -/
def waypoints (header path : Path) : List Path :=
  (List.range (path.length - 1)).map fun i => header ++ path.take (i + 1)

/-- Giving a value to a path in the open table. -/
def State.assign (s : State) (path : Path) (v : Value) : Option State := do
  let through := waypoints s.header path
  if through.any s.opened.contains || leadsInto s.whole (s.header ++ path.dropLast) then none
  else
    let entries ← addEntry true (s.header ++ path) v s.entries
    return { s with entries, pending := through ++ s.pending,
                    whole := if isWhole v then (s.header ++ path) :: s.whole else s.whole }

/-- A line that begins with a bracket or a key: the state behind it, and the text. -/
def lineIn (s : State) (cs : List Char) : Except Flaw (State × List Char) :=
  match cs with
  | '[' :: '[' :: rest => do
    let (path, rest) ← orMalformed (pathIn (skipBlanks rest))
    let s ← orMalformed (s.openItem path)
    match rest with
    | ']' :: ']' :: rest => return (s, rest)
    | _ => .error .malformed
  | '[' :: rest => do
    let (path, rest) ← orMalformed (pathIn (skipBlanks rest))
    let s ← orMalformed (s.openTable path)
    match rest with
    | ']' :: rest => return (s, rest)
    | _ => .error .malformed
  | cs => do
    let (path, rest) ← orMalformed (pathIn cs)
    match rest with
    | '=' :: rest =>
      let (v, rest) ← valueIn (2 * rest.length + 1) (skipBlanks rest)
      let s ← orMalformed (s.assign path v)
      return (s, rest)
    | _ => .error .malformed

/-- The lines of a document, at most `n`. Behind each stands nothing but a comment. -/
def linesIn : Nat → State → List Char → Except Flaw State
  | 0, s, _ => .ok s
  | n + 1, s, cs =>
    match skipBlanks cs with
    | [] => .ok s
    | '\n' :: rest => linesIn n s rest
    | cs => do
      let (s, cs) ← if cs.head? = some '#' then .ok (s, cs) else lineIn s cs
      match ← orMalformed (skipComment (skipBlanks cs)) with
      | [] => return s
      | '\n' :: rest => linesIn n s rest
      | _ => .error .malformed

/-- Line ends of every kind are line feeds. -/
def plainLines : List Char → List Char
  | '\r' :: '\n' :: rest => '\n' :: plainLines rest
  | '\r' :: rest => '\n' :: plainLines rest
  | c :: rest => c :: plainLines rest
  | [] => []

/-- The tables of a document, or the first flaw in it. -/
def read (text : List Char) : Except Flaw Entries :=
  let cs := plainLines text
  (linesIn (cs.length + 1) {} cs).map (·.entries)

end StatementShape.Toml
