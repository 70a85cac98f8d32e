/-!
# Places in a text

A text is read line by line; where something stands in its line decides what it belongs to.  Line
breaks that a text may be written with are made alike first.

## Main definitions

* `Yaml.Cursor` — what is left of a text, and where that is.
* `Yaml.Gap` — blanks and line breaks inside a scalar, `Yaml.Gap.text` what they stand for.
* `Yaml.skipSpace` — the way to the next token.
-/

namespace Lookout.Yaml

/-! ## Characters -/

/-- Whether a text may hold a character. -/
def isPrintable (c : Char) : Bool :=
  ['\t', '\n', '\r', '\u0085'].contains c || (' ' ≤ c && c ≤ '~') ||
    ('\u00a0' ≤ c && c != '\ufeff' && c != '\ufffe' && c != '\uffff')

/-- Whether a character ends a line. -/
def isBreak (c : Char) : Bool := ['\n', '\u2028', '\u2029'].contains c

/-- Whether a character is a space or a tab. -/
def isBlank (c : Char) : Bool := c == ' ' || c == '\t'

/-- Writes the ends of lines alike; the two separators of Unicode stay. -/
def normalizeBreaks : List Char → List Char
  | '\r' :: '\n' :: rest => '\n' :: normalizeBreaks rest
  | c :: rest => (if c == '\r' || c == '\u0085' then '\n' else c) :: normalizeBreaks rest
  | [] => []

/-- Whether a word is over: at a blank, a line break or the end. -/
def isWordEnd : List Char → Bool
  | [] => true
  | c :: _ => isBlank c || isBreak c

/-- Whether a line begins with the mark of a document's start. -/
def startsDocument : List Char → Bool
  | '-' :: '-' :: '-' :: rest => isWordEnd rest
  | _ => false

/-- Whether a line begins with the mark of a document's end. -/
def endsDocument : List Char → Bool
  | '.' :: '.' :: '.' :: rest => isWordEnd rest
  | _ => false

/-- Whether a line begins with either mark. -/
def isMarker (cs : List Char) : Bool := startsDocument cs || endsDocument cs

/-! ## Cursors -/

/-- What is left of a text, and where that is. -/
structure Cursor where
  rest : List Char
  line : Nat
  column : Nat

/-- The start of a text. -/
def Cursor.start (rest : List Char) : Cursor := ⟨rest, 0, 0⟩

/-- Goes on by characters that end no line. -/
def Cursor.skip (c : Cursor) (n : Nat) : Cursor :=
  { c with rest := c.rest.drop n, column := c.column + n }

/-- The way to the next token: over spaces, comments and line breaks.  Tabs are skipped only where
no key could begin; tells whether a key may begin where the way ends, which is so on each new line
outside brackets. -/
def skipSpace (inBrackets : Bool) (line column : Nat) (keyAllowed inComment : Bool) :
    List Char → Cursor × Bool
  | [] => (⟨[], line, column⟩, keyAllowed)
  | c :: rest =>
    if isBreak c then skipSpace inBrackets (line + 1) 0 (keyAllowed || !inBrackets) false rest
    else if inComment || c == ' ' || (c == '\t' && (inBrackets || !keyAllowed)) then
      skipSpace inBrackets line (column + 1) keyAllowed inComment rest
    else if c == '#' then skipSpace inBrackets line (column + 1) keyAllowed true rest
    else (⟨c :: rest, line, column⟩, keyAllowed)

/-! ## Gaps -/

/-- Blanks and line breaks inside a scalar. -/
inductive Gap where
  | blanks (cs : List Char)
  /-- a line break, if it counts, and the breaks behind it -/
  | breaks (first : Option Char) (more : List Char)

namespace Gap

/-- No gap. -/
def none : Gap := blanks []

/-- A gap goes on with a blank; blanks at the start of a line do not count. -/
def addBlank (c : Char) : Gap → Gap
  | blanks cs => blanks (cs ++ [c])
  | gap => gap

/-- A gap goes on with a line break; blanks at the end of a line do not count. -/
def addBreak (c : Char) : Gap → Gap
  | blanks _ => breaks c []
  | breaks first more => breaks first (more ++ [c])

/-- Whether there is any gap. -/
def isNone : Gap → Bool
  | blanks cs => cs.isEmpty
  | breaks _ _ => false

/-- Whether a line has ended. -/
def isBreaks : Gap → Bool
  | blanks _ => false
  | breaks _ _ => true

/-- What a gap stands for: a single line break is a space, and of several the first one falls
away. -/
def text : Gap → List Char
  | blanks cs => cs
  | breaks (some '\n') [] => [' ']
  | breaks (some '\n') more => more
  | breaks first more => first.toList ++ more

end Gap

end Lookout.Yaml
