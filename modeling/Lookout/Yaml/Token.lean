import Lookout.Yaml.Literal

/-!
# YAML tokens

Blocks are written by indentation: a block opens at the column of its first key or item and closes
at the first token that stands further to the left.  That a scalar or a bracket was a key shows only
at the colon behind it; until then it is a candidate, and its key token is inserted afterwards.

Directives, anchors, aliases, tags and block scalars are refused.

## Main definitions

* `Yaml.Token`, `Yaml.Token.scan` — the tokens of a text.
* `Yaml.Outline` — the blocks, brackets and candidates that are open.
-/

namespace Lookout.Yaml

/-- What a text consists of. -/
inductive Token where
  | documentStart
  | documentEnd
  | openBlockSequence
  | openBlockMapping
  | closeBlock
  | openSequence
  | closeSequence
  | openMapping
  | closeMapping
  /-- a dash -/
  | item
  | comma
  | key
  | value
  | scalar (plain : Bool) (text : String)

/-- A token that turns out to be a key if a colon follows it. -/
structure Candidate where
  /-- nothing but a key may stand here -/
  required : Bool
  /-- place among the tokens -/
  index : Nat
  line : Nat
  column : Nat

/-- How many columns a key may take. -/
def maxKeyLength : Nat := 1024

/-- Whether a colon would come too late to make a key. -/
def Candidate.isStale (k : Candidate) (cursor : Cursor) : Bool :=
  k.line < cursor.line || k.column + maxKeyLength < cursor.column

/-- What has been read, and what is open there. -/
structure Outline where
  tokens : Array Token := #[]
  /-- columns of the open blocks, innermost first -/
  blocks : List Nat := []
  /-- candidate inside the innermost open bracket -/
  candidate : Option Candidate := none
  /-- candidates outside of each open bracket, innermost first -/
  outer : List (Option Candidate) := []
  /-- whether a key may begin here -/
  keyAllowed : Bool := true

namespace Outline

/-- Whether a bracket is open. -/
def inBrackets (o : Outline) : Bool := !o.outer.isEmpty

/-- The least column for what belongs to the innermost block. -/
def indent (o : Outline) : Nat :=
  match o.blocks with
  | [] => 0
  | column :: _ => column + 1

/-- Adds a token. -/
def push (o : Outline) (token : Token) : Outline := { o with tokens := o.tokens.push token }

/-- Inserts a token. -/
def insert (o : Outline) (index : Nat) (token : Token) : Outline :=
  { o with tokens := o.tokens.insertIdxIfInBounds index token }

/-! ### Blocks -/

/-- Closes the blocks from a column on; brackets know no indentation. -/
def closeFrom (o : Outline) (column : Nat) : Outline :=
  if o.inBrackets then o
  else
    let closed := o.blocks.takeWhile (column ≤ ·)
    { o with
      blocks := o.blocks.drop closed.length
      tokens := o.tokens ++ closed.map fun _ => Token.closeBlock }

/-- Opens a block at a column, unless the innermost one starts there. -/
def openAt (o : Outline) (column index : Nat) (token : Token) : Outline :=
  if o.inBrackets || column < o.indent then o
  else { o.insert index token with blocks := column :: o.blocks }

/-! ### Candidates -/

/-- Gives up a candidate that must not be required. -/
def forget : Option Candidate → Option (Option Candidate)
  | some k => if k.required then none else some none
  | none => some none

/-- Gives up a candidate that is stale. -/
def forgetStale (cursor : Cursor) : Option Candidate → Option (Option Candidate)
  | some k => if k.isStale cursor then forget (some k) else some (some k)
  | none => some none

/-- Gives up the innermost candidate. -/
def dropCandidate (o : Outline) : Option Outline := do
  some { o with candidate := ← forget o.candidate }

/-- Gives up what is stale. -/
def dropStale (o : Outline) (cursor : Cursor) : Option Outline := do
  let candidate ← forgetStale cursor o.candidate
  let outer ← o.outer.mapM (forgetStale cursor)
  some { o with candidate, outer }

/-- The next token is a candidate, if a key may begin there. -/
def propose (o : Outline) (cursor : Cursor) : Option Outline :=
  if o.keyAllowed then do
    let o ← o.dropCandidate
    some { o with
      candidate := some {
        required := !o.inBrackets && o.blocks.head? == some cursor.column
        index := o.tokens.size
        line := cursor.line
        column := cursor.column } }
  else some o

/-! ### Steps -/

/-- The mark of a document's start or end. -/
def marker (o : Outline) (token : Token) : Option Outline := do
  let o ← (o.closeFrom 0).dropCandidate
  some { o.push token with keyAllowed := false }

/-- An opening bracket. -/
def openBracket (o : Outline) (cursor : Cursor) (token : Token) : Option Outline := do
  let o ← o.propose cursor
  some { o.push token with
    outer := o.candidate :: o.outer
    candidate := none
    keyAllowed := true }

/-- A closing bracket, which may be one too many. -/
def closeBracket (o : Outline) (token : Token) : Option Outline := do
  let o ← o.dropCandidate
  let o := match o.outer with
    | [] => o
    | candidate :: outer => { o with candidate, outer }
  some { o.push token with keyAllowed := false }

/-- A comma. -/
def comma (o : Outline) : Option Outline := do
  let o ← o.dropCandidate
  some { o.push .comma with keyAllowed := true }

/-- Opens a block at the cursor for an item, key or value that does not follow its key on the
line. -/
def beginBlock (o : Outline) (cursor : Cursor) (token : Token) : Option Outline :=
  if o.inBrackets then some o
  else if o.keyAllowed then some (o.openAt cursor.column o.tokens.size token)
  else none

/-- A dash. -/
def item (o : Outline) (cursor : Cursor) : Option Outline := do
  let o ← o.beginBlock cursor .openBlockSequence
  let o ← o.dropCandidate
  some { o.push .item with keyAllowed := true }

/-- A question mark. -/
def key (o : Outline) (cursor : Cursor) : Option Outline := do
  let o ← o.beginBlock cursor .openBlockMapping
  let o ← o.dropCandidate
  some { o.push .key with keyAllowed := !o.inBrackets }

/-- A colon, which makes the candidate a key. -/
def value (o : Outline) (cursor : Cursor) : Option Outline :=
  match o.candidate with
  | some k =>
    let o := (o.insert k.index .key).openAt k.column k.index .openBlockMapping
    some { o.push .value with candidate := none, keyAllowed := false }
  | none => do
    let o ← o.beginBlock cursor .openBlockMapping
    some { o.push .value with keyAllowed := !o.inBrackets }

/-- A quoted scalar. -/
def quoted (o : Outline) (cursor : Cursor) (quote : Char) : Option (Outline × Cursor) := do
  let o ← o.propose cursor
  let (text, next) ← quoted? quote cursor
  some ({ o.push (.scalar false text) with keyAllowed := false }, next)

/-- A plain scalar. -/
def plain (o : Outline) (cursor : Cursor) : Option (Outline × Cursor) := do
  let o ← o.propose cursor
  let scalar ← plain? o.inBrackets o.indent cursor
  some ({ o.push (.scalar true scalar.text) with keyAllowed := scalar.endsLine }, scalar.next)

/-- Whether a plain scalar can start with a character. -/
def startsPlain (inBrackets : Bool) (c : Char) (rest : List Char) : Bool :=
  if c == '-' then !rest.head?.any isBlank
  else if c == '?' || c == ':' then !inBrackets && !isWordEnd rest
  else !(isBlank c || "#&*!|>'\"%@`,[]\x7b\x7d".toList.contains c)

/-- The token at a cursor, and the cursor behind it. -/
def step (o : Outline) (cursor : Cursor) : Option (Outline × Cursor) :=
  let after (n : Nat) (o : Option Outline) := o.map (·, cursor.skip n)
  match cursor.rest with
  | [] => none
  | c :: rest =>
    if cursor.column == 0 && c == '%' then none
    else if cursor.column == 0 && startsDocument cursor.rest then after 3 (o.marker .documentStart)
    else if cursor.column == 0 && endsDocument cursor.rest then after 3 (o.marker .documentEnd)
    else if c == '[' then after 1 (o.openBracket cursor .openSequence)
    else if c == '{' then after 1 (o.openBracket cursor .openMapping)
    else if c == ']' then after 1 (o.closeBracket .closeSequence)
    else if c == '}' then after 1 (o.closeBracket .closeMapping)
    else if c == ',' then after 1 o.comma
    else if c == '-' && isWordEnd rest then after 1 (o.item cursor)
    else if c == '?' && (o.inBrackets || isWordEnd rest) then after 1 (o.key cursor)
    else if c == ':' && (o.inBrackets || isWordEnd rest) then after 1 (o.value cursor)
    else if c == '\'' || c == '"' then o.quoted cursor c
    else if startsPlain o.inBrackets c rest then o.plain cursor
    else none

/-- All tokens from a cursor on, in at most so many steps. -/
def finish : Nat → Outline → Cursor → Option (List Token)
  | 0, _, _ => none
  | steps + 1, o, cursor => do
    let (place, keyAllowed) :=
      skipSpace o.inBrackets cursor.line cursor.column o.keyAllowed false cursor.rest
    let o ← { o with keyAllowed }.dropStale place
    let o := o.closeFrom (place.column + 1)
    if place.rest.isEmpty then
      let o ← (o.closeFrom 0).dropCandidate
      some o.tokens.toList
    else
      let (o, next) ← o.step place
      finish steps o next

end Outline

/-- The tokens of a text.  Every step takes a character, and the last one finds the end. -/
def Token.scan (text : String) : Option (List Token) :=
  let cs := match text.toList with
    | '\ufeff' :: rest => rest
    | cs => cs
  if cs.all isPrintable then
    Outline.finish (cs.length + 1) {} (.start (normalizeBreaks cs))
  else none

end Lookout.Yaml
