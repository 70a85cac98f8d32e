import Lookout.Yaml.Cursor
import Lookout.Yaml.Scalar

/-!
# Scalars as they stand in a text

A scalar without quotes ends at a comment, at a colon that ends a word, at a bracket or comma if it
stands between brackets, and where a line is indented too little.  A quoted scalar ends at its
quote.  Both may go over several lines, which are folded into one.

## Main definitions

* `Yaml.plain?`, `Yaml.quoted?` — read a scalar.
* `Yaml.escape?` — what a backslash stands for.
-/

namespace Lookout.Yaml

/-! ## Plain scalars -/

/-- A plain scalar that has been read. -/
structure Plain where
  text : String
  /-- whether a line has ended behind it -/
  endsLine : Bool
  next : Cursor

/-- Whether a plain scalar is over at a word that starts here, behind a gap. -/
def endsBefore (inBrackets : Bool) (indent column : Nat) (gap : Gap) (cs : List Char) : Bool :=
  !gap.isNone && (cs.head? == some '#' ||
    (gap.isBreaks && ((!inBrackets && column < indent) || (column == 0 && isMarker cs))))

/-- Whether a plain scalar is over at an indicator. -/
def endsAt (inBrackets : Bool) : List Char → Bool
  | c :: rest =>
    (c == ':' && isWordEnd rest) || (inBrackets && [',', '[', ']', '{', '}'].contains c)
  | [] => true

/-- Whether a colon between brackets stands where it must not. -/
def isMisplacedColon : List Char → Bool
  | ':' :: c :: _ => [',', '?', '[', ']', '{', '}'].contains c
  | _ => false

/-- Goes on with a plain scalar, of which `text` has been read, in reverse. -/
def plainFrom (inBrackets : Bool) (indent line column : Nat) (text : List Char) (gap : Gap) :
    List Char → Option Plain
  | [] => some ⟨.ofList text.reverse, gap.isBreaks, ⟨[], line, column⟩⟩
  | c :: rest =>
    if isBreak c then plainFrom inBrackets indent (line + 1) 0 text (gap.addBreak c) rest
    else if isBlank c then
      if gap.isBreaks && c == '\t' && column < indent then none
      else plainFrom inBrackets indent line (column + 1) text (gap.addBlank c) rest
    else if endsBefore inBrackets indent column gap (c :: rest) then
      some ⟨.ofList text.reverse, gap.isBreaks, ⟨c :: rest, line, column⟩⟩
    else if inBrackets && isMisplacedColon (c :: rest) then none
    else if endsAt inBrackets (c :: rest) then
      some ⟨.ofList text.reverse, gap.isBreaks, ⟨c :: rest, line, column⟩⟩
    else
      plainFrom inBrackets indent line (column + 1) (c :: (gap.text.reverse ++ text)) .none rest

/-- Reads a plain scalar, whose further lines start at `indent` or behind it. -/
def plain? (inBrackets : Bool) (indent : Nat) (cursor : Cursor) : Option Plain :=
  plainFrom inBrackets indent cursor.line cursor.column [] .none cursor.rest

/-! ## Quoted scalars -/

/-- The escapes of one letter. -/
def escapes : List (Char × Char) :=
  [('0', '\x00'), ('a', '\x07'), ('b', '\x08'), ('t', '\t'), ('\t', '\t'), ('n', '\n'),
    ('v', '\x0b'), ('f', '\x0c'), ('r', '\r'), ('e', '\x1b'), (' ', ' '), ('"', '"'), ('/', '/'),
    ('\\', '\\'), ('N', '\u0085'), ('_', '\u00a0'), ('L', '\u2028'), ('P', '\u2029')]

/-- The character whose number is written in hexadecimal digits. -/
def hexChar? (digits : Nat) (cs : List Char) : Option Char := do
  let written := cs.take digits
  if written.length < digits then none
  let n ← ofDigits? 16 written
  if n.isValidChar then some (.ofNat n) else none

/-- What a backslash and the characters behind it stand for, and how many characters those are. -/
def escape? : List Char → Option (Char × Nat)
  | [] => none
  | 'x' :: rest => (hexChar? 2 rest).map (·, 3)
  | 'u' :: rest => (hexChar? 4 rest).map (·, 5)
  | 'U' :: rest => (hexChar? 8 rest).map (·, 9)
  | c :: _ => (escapes.lookup c).map (·, 1)

/-- What a step inside a quoted scalar finds. -/
inductive QuotedStep where
  /-- the closing quote -/
  | close
  /-- a character, written with so many more -/
  | char (c : Char) (more : Nat)
  /-- the end of a line that does not count -/
  | joinLine

/-- The step at a character that is neither blank nor a line break. -/
def quotedStep? (quote c : Char) (rest : List Char) : Option QuotedStep :=
  if c == quote then
    if quote == '\'' && rest.head? == some '\'' then some (.char '\'' 1) else some .close
  else if quote == '"' && c == '\\' then
    if rest.head?.any isBreak then some .joinLine
    else (escape? rest).map fun (c, length) => .char c length
  else some (.char c 0)

/-- Goes on with a quoted scalar, of which `text` has been read, in reverse. -/
def quotedFrom (quote : Char) (line column : Nat) (text : List Char) (gap : Gap) :
    List Char → Option (String × Cursor)
  | [] => none
  | c :: rest =>
    if isBreak c then quotedFrom quote (line + 1) 0 text (gap.addBreak c) rest
    else if isBlank c then quotedFrom quote line (column + 1) text (gap.addBlank c) rest
    else if column == 0 && isMarker (c :: rest) then none
    else
      let text := gap.text.reverse ++ text
      match quotedStep? quote c rest with
      | none => none
      | some .close => some (.ofList text.reverse, ⟨rest, line, column + 1⟩)
      | some (.char c more) =>
        quotedFrom quote line (column + 1 + more) (c :: text) .none (rest.drop more)
      | some .joinLine => quotedFrom quote (line + 1) 0 text (.breaks none []) (rest.drop 1)
termination_by cs => cs.length
decreasing_by all_goals simp only [List.length_cons, List.length_drop]; omega

/-- Reads a scalar behind the quote that it starts with. -/
def quoted? (quote : Char) (cursor : Cursor) : Option (String × Cursor) :=
  let cursor := cursor.skip 1
  quotedFrom quote cursor.line cursor.column [] .none cursor.rest

end Lookout.Yaml
