import Lookout.Decimal.Scaled
import Lookout.Json.Basic

/-!
# The tokens of JSON text

Cuts text into marks, literals, numbers and strings.  A number that is too large and a string with
half a surrogate pair are tokens without a value, because a reader that skips them never notices;
text that no reader accepts ends the tokens with `Token.bad`.

## Main definitions

* `Json.Token` — the tokens.
* `Json.Token.scan` — the tokens of a text.

## Main statements

* `Json.Token.length_scanOne` — a token takes at least one character, so that the scan ends.
-/

namespace Lookout.Json

/-- A token of JSON text. -/
inductive Token where
  | openArray
  | closeArray
  | openObject
  | closeObject
  | comma
  | colon
  | null
  | bool (b : Bool)
  /-- without a value if it is too large for a float -/
  | number (n : Option Number)
  /-- without a value if half a surrogate pair is escaped in it -/
  | string (s : Option String)
  /-- here the text stops to be JSON -/
  | bad

namespace Token

/-- Space, tab, line feed and carriage return. -/
def isBlank (c : Char) : Bool := c == ' ' || c == '\t' || c == '\n' || c == '\r'

/-- The value of a hexadecimal digit, in either case. -/
def hexValue? (c : Char) : Option Nat :=
  if c.isDigit then some (c.toNat - '0'.toNat)
  else if 'a' ≤ c ∧ c ≤ 'f' then some (c.toNat - 'a'.toNat + 10)
  else if 'A' ≤ c ∧ c ≤ 'F' then some (c.toNat - 'A'.toNat + 10)
  else none

/-- The value of four hexadecimal digits. -/
def hexWord? (a b c d : Char) : Option Nat := do
  let a ← hexValue? a
  let b ← hexValue? b
  let c ← hexValue? c
  let d ← hexValue? d
  some (((a * 16 + b) * 16 + c) * 16 + d)

/-- The character that a letter after a backslash stands for. -/
def escaped? (c : Char) : Option Char :=
  match c with
  | '"' => some '"'
  | '\\' => some '\\'
  | '/' => some '/'
  | 'b' => some (Char.ofNat 8)
  | 'f' => some (Char.ofNat 12)
  | 'n' => some '\n'
  | 'r' => some '\r'
  | 't' => some '\t'
  | _ => none

/-- What has been read of a string: its characters, last first, and the first half of a surrogate
pair that still waits for the second. -/
structure Partial where
  done : List Char
  half : Option Nat

/-- Adds a character; none may follow half a pair. -/
def Partial.push (p : Partial) (c : Char) : Option Partial :=
  if p.half.isSome then none else some ⟨c :: p.done, none⟩

/-- Adds the value of a `\u` escape: a character, or half a surrogate pair. -/
def Partial.pushWord (p : Partial) (n : Nat) : Option Partial :=
  match p.half with
  | none =>
    if 0xDC00 ≤ n ∧ n ≤ 0xDFFF then none
    else if 0xD800 ≤ n ∧ n ≤ 0xDBFF then some { p with half := some n }
    else some ⟨Char.ofNat n :: p.done, none⟩
  | some high =>
    if 0xDC00 ≤ n ∧ n ≤ 0xDFFF then
      some ⟨Char.ofNat ((high - 0xD800) * 0x400 + (n - 0xDC00) + 0x10000) :: p.done, none⟩
    else none

/-- The finished string; half a pair at the end spoils it. -/
def Partial.finish (p : Partial) : Option String :=
  if p.half.isSome then none else some (String.ofList p.done.reverse)

/-- Reads a string from behind its opening quote: its value, if it has one, and the text behind
the closing quote. -/
def scanString (p : Option Partial) : List Char → Option (Option String × List Char)
  | [] => none
  | '"' :: rest => some (p.bind Partial.finish, rest)
  | '\\' :: 'u' :: a :: b :: c :: d :: rest =>
    match hexWord? a b c d with
    | none => none
    | some n => scanString (p.bind (·.pushWord n)) rest
  | '\\' :: c :: rest =>
    match escaped? c with
    | none => none
    | some c => scanString (p.bind (·.push c)) rest
  | c :: rest => if c.toNat < 32 then none else scanString (p.bind (·.push c)) rest

/-- The digits at the front of a text. -/
def digits (cs : List Char) : List Char := cs.takeWhile Char.isDigit

/-- The text behind the digits at its front. -/
def afterDigits (cs : List Char) : List Char := cs.dropWhile Char.isDigit

/-- The digits behind a point, if there is one. -/
def scanFraction : List Char → Option (List Char × List Char)
  | '.' :: rest =>
    if (digits rest).isEmpty then none else some (digits rest, afterDigits rest)
  | rest => some ([], rest)

/-- The sign at the front of a text: whether it is a minus, and what follows it. -/
def splitSign : List Char → Bool × List Char
  | '-' :: rest => (true, rest)
  | '+' :: rest => (false, rest)
  | rest => (false, rest)

/-- The exponent behind its mark, if there is one. -/
def scanExponent : List Char → Option (Option Int × List Char)
  | c :: rest =>
    if c = 'e' ∨ c = 'E' then
      let (negative, rest) := splitSign rest
      if (digits rest).isEmpty then none else
      let n : Nat := (digits rest).foldl (fun n c => n * 10 + Decimal.digitValue c) 0
      some (some (if negative then -n else n), afterDigits rest)
    else some (none, c :: rest)
  | [] => some (none, [])

/-- The value of a number from its parts.  Without point and exponent it is whole, unless it is
too long or a negative zero. -/
def numberOf (negative : Bool) (whole fraction : List Char) (exponent : Option Int) :
    Option Number :=
  let (significand, left) := Decimal.gather 0 whole
  let float (significand : Nat) (power : Int) : Option Number :=
    (Decimal.scaled significand power).map fun x => .float (if negative then -x else x)
  if fraction.isEmpty && exponent.isNone && left.isEmpty then
    if !negative then some (.whole significand)
    else if significand = 0 ∨ UInt64.size / 2 < significand then float significand 0
    else some (.whole (-significand))
  else
    let (all, unused) := Decimal.gather significand fraction
    float all ((left.length : Int) - (fraction.length - unused.length : Nat) + exponent.getD 0)

/-- Whether digits can stand before a point: at least one, and no needless zero in front. -/
def isWholePart : List Char → Bool
  | [] => false
  | '0' :: rest => rest.isEmpty
  | _ :: _ => true

/-- Reads a number from behind its sign. -/
def scanNumber (negative : Bool) (cs : List Char) : Option (Token × List Char) :=
  if isWholePart (digits cs) then do
    let (fraction, rest) ← scanFraction (afterDigits cs)
    let (exponent, rest) ← scanExponent rest
    some (.number (numberOf negative (digits cs) fraction exponent), rest)
  else none

/-- Reads the token at the front of a text that starts with no blank. -/
def scanOne : List Char → Option (Token × List Char)
  | '[' :: rest => some (.openArray, rest)
  | ']' :: rest => some (.closeArray, rest)
  | '\x7b' :: rest => some (.openObject, rest)
  | '\x7d' :: rest => some (.closeObject, rest)
  | ',' :: rest => some (.comma, rest)
  | ':' :: rest => some (.colon, rest)
  | 'n' :: 'u' :: 'l' :: 'l' :: rest => some (.null, rest)
  | 't' :: 'r' :: 'u' :: 'e' :: rest => some (.bool true, rest)
  | 'f' :: 'a' :: 'l' :: 's' :: 'e' :: rest => some (.bool false, rest)
  | '"' :: rest => (scanString (some ⟨[], none⟩) rest).map fun (s, rest) => (.string s, rest)
  | '-' :: rest => scanNumber true rest
  | cs => scanNumber false cs

/-! ### A token takes at least one character -/

theorem length_afterDigits_le (cs : List Char) : (afterDigits cs).length ≤ cs.length :=
  (List.dropWhile_suffix _).length_le

/-- Where there are digits, less is left behind them. -/
theorem length_afterDigits_lt {cs : List Char} (h : digits cs ≠ []) :
    (afterDigits cs).length < cs.length := by
  have hsplit :=
    congrArg List.length (List.takeWhile_append_dropWhile (p := Char.isDigit) (l := cs))
  have hpos := List.length_pos_iff.2 h
  rw [List.length_append] at hsplit
  unfold digits at hpos
  unfold afterDigits
  omega

theorem length_scanString {p : Option Partial} {cs rest : List Char} {s : Option String}
    (h : scanString p cs = some (s, rest)) : rest.length < cs.length := by
  fun_induction scanString p cs with
  | case1 => simp at h
  | case2 => simp_all
  | case3 => simp at h
  | case4 p a b c d tail n _ ih =>
    have := ih h
    simp only [List.length_cons]
    omega
  | case5 => simp at h
  | case6 p c tail _ ch _ ih =>
    have := ih h
    simp only [List.length_cons]
    omega
  | case7 => simp at h
  | case8 p c tail _ _ _ _ ih =>
    have := ih h
    simp only [List.length_cons]
    omega

theorem length_scanFraction_le {cs fraction rest : List Char}
    (h : scanFraction cs = some (fraction, rest)) : rest.length ≤ cs.length := by
  unfold scanFraction at h
  split at h
  · next tail =>
    split at h
    · simp at h
    · have := length_afterDigits_le tail
      simp only [Option.some.injEq, Prod.mk.injEq] at h
      rw [← h.2, List.length_cons]
      omega
  · simp only [Option.some.injEq, Prod.mk.injEq] at h
    exact Nat.le_of_eq (congrArg List.length h.2.symm)

theorem length_splitSign_le (cs : List Char) : (splitSign cs).2.length ≤ cs.length := by
  unfold splitSign
  split <;> simp

theorem length_scanExponent_le {cs rest : List Char} {exponent : Option Int}
    (h : scanExponent cs = some (exponent, rest)) : rest.length ≤ cs.length := by
  unfold scanExponent at h
  split at h
  · next c tail =>
    split at h
    · have hsign := length_splitSign_le tail
      have hdigits := length_afterDigits_le (splitSign tail).2
      dsimp only at h
      split at h
      · simp at h
      · simp only [Option.some.injEq, Prod.mk.injEq] at h
        rw [← h.2, List.length_cons]
        omega
    · simp only [Option.some.injEq, Prod.mk.injEq] at h
      exact Nat.le_of_eq (congrArg List.length h.2.symm)
  · simp only [Option.some.injEq, Prod.mk.injEq] at h
    exact Nat.le_of_eq (congrArg List.length h.2.symm)

theorem length_scanNumber {negative : Bool} {cs rest : List Char} {token : Token}
    (h : scanNumber negative cs = some (token, rest)) : rest.length < cs.length := by
  unfold scanNumber at h
  split at h
  · next hwhole =>
    have hdigits : digits cs ≠ [] := by
      intro hnil
      simp [hnil, isWholePart] at hwhole
    simp only [Option.bind_eq_bind, Option.bind_eq_some_iff, Option.some.injEq,
      Prod.mk.injEq] at h
    obtain ⟨⟨fraction, tail⟩, hfraction, ⟨exponent, last⟩, hexponent, _, rfl⟩ := h
    exact Nat.lt_of_le_of_lt
      (Nat.le_trans (length_scanExponent_le hexponent) (length_scanFraction_le hfraction))
      (length_afterDigits_lt hdigits)
  · simp at h

theorem length_scanOne {cs rest : List Char} {token : Token}
    (h : scanOne cs = some (token, rest)) : rest.length < cs.length := by
  unfold scanOne at h
  split at h
  case h_10 tail =>
    obtain ⟨⟨s, last⟩, hs, heq⟩ := Option.map_eq_some_iff.1 h
    simp only [Prod.mk.injEq] at heq
    have := length_scanString hs
    rw [← heq.2, List.length_cons]
    omega
  case h_11 tail =>
    have := length_scanNumber h
    rw [List.length_cons]
    omega
  case h_12 => exact length_scanNumber h
  all_goals
    simp only [Option.some.injEq, Prod.mk.injEq] at h
    simp only [← h.2, List.length_cons]
    omega

/-- The tokens of a text, up to the first place where it stops to be JSON. -/
def scan (cs : List Char) : List Token :=
  match cs with
  | [] => []
  | c :: rest =>
    if isBlank c then scan rest
    else
      match _h : scanOne (c :: rest) with
      | none => [.bad]
      | some (token, after) => token :: scan after
termination_by cs.length
decreasing_by
  · simp
  · exact length_scanOne _h

end Token

end Lookout.Json
