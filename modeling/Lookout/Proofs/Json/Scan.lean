import Mathlib.Data.List.TakeWhile
import Lookout.Json.Printer
import Lookout.Json.Token

/-!
# Texts that are put together

A text that is JSON token by token is cut into the same tokens whatever follows, as long as nothing
follows that goes on with a number (`scan_append`).  So the tokens of a text that is put together
are those of its parts: `Spelled` says which they are, for a part that stands in a longer text.

## Main definitions

* `Json.Token.Closed` — a text that does not go on with a number.
* `Json.Spelled` — the tokens of a text, wherever it stands.
* `Json.Delimited` — a text that is a token of its own, whatever follows.

## Main statements

* `Json.delimited_quote`, `Json.spelled_int` — strings and whole numbers are read as they are
  written.
-/

namespace Lookout.Json
namespace Token

/-! ## What may follow a token -/

/-- Whether a number goes on with a character. -/
def goesOn (c : Char) : Bool := c.isDigit || c == '.' || c == 'e' || c == 'E'

/-- A text does not go on with a number. -/
def Closed (cs : List Char) : Prop := ∀ c ∈ cs.head?, goesOn c = false

theorem closed_nil : Closed [] := by
  intro c member
  cases member

theorem closed_cons {c : Char} {rest : List Char} : Closed (c :: rest) ↔ goesOn c = false := by
  simp [Closed]

theorem Closed.append {cs rest : List Char} (closed : Closed cs) (closed_rest : Closed rest) :
    Closed (cs ++ rest) := by
  cases cs with
  | nil => exact closed_rest
  | cons c tail => exact closed_cons.2 (closed_cons.1 closed)

theorem splitSign_append (c : Char) (tail rest : List Char) :
    splitSign (c :: tail ++ rest) =
      ((splitSign (c :: tail)).1, (splitSign (c :: tail)).2 ++ rest) := by
  by_cases minus : c = '-'
  · subst minus
    rfl
  by_cases plus : c = '+'
  · subst plus
    rfl
  have bare (more : List Char) : splitSign (c :: more) = (false, c :: more) := by
    simp only [splitSign]
    split
    · next same => exact absurd (List.cons.inj same).1 minus
    · next same => exact absurd (List.cons.inj same).1 plus
    · rfl
  rw [List.cons_append, bare, bare, List.cons_append]

section
variable {cs rest : List Char} (closed : Closed rest)
include closed

theorem split_digits_append (cs : List Char) :
    digits (cs ++ rest) = digits cs ∧ afterDigits (cs ++ rest) = afterDigits cs ++ rest := by
  induction cs with
  | nil =>
    cases rest with
    | nil => exact ⟨rfl, rfl⟩
    | cons c rest =>
      have stops : c.isDigit = false := by
        have stops := closed_cons.1 closed
        simp only [goesOn, Bool.or_eq_false_iff] at stops
        exact stops.1.1.1
      simp [digits, afterDigits, stops]
  | cons c tail ih =>
    simp only [digits, afterDigits] at ih ⊢
    cases digit : c.isDigit with
    | true => simp [digit, ih]
    | false => simp [digit]

theorem scanFraction_append {fraction after : List Char}
    (read : scanFraction cs = some (fraction, after)) :
    scanFraction (cs ++ rest) = some (fraction, after ++ rest) := by
  cases cs with
  | nil =>
    cases read
    cases rest with
    | nil => rfl
    | cons c rest =>
      have other : c ≠ '.' := by
        rintro rfl
        exact absurd (closed_cons.1 closed) (by decide)
      simp only [List.nil_append, scanFraction]
      split
      · next same => exact absurd (List.cons.inj same).1 other
      · rfl
  | cons c tail =>
    obtain ⟨digits_eq, after_eq⟩ := split_digits_append closed tail
    by_cases point : c = '.'
    · subst point
      simp only [List.cons_append, scanFraction, digits_eq, after_eq] at read ⊢
      split at read
      · cases read
      · next some =>
        cases read
        rw [if_neg some]
    · have whole (more : List Char) : scanFraction (c :: more) = some ([], c :: more) := by
        simp only [scanFraction]
        split
        · next same => exact absurd (List.cons.inj same).1 point
        · rfl
      rw [whole] at read
      cases read
      exact whole (tail ++ rest)

theorem scanExponent_append {exponent : Option Int} {after : List Char}
    (read : scanExponent cs = some (exponent, after)) :
    scanExponent (cs ++ rest) = some (exponent, after ++ rest) := by
  cases cs with
  | nil =>
    cases read
    cases rest with
    | nil => rfl
    | cons c rest =>
      have other : ¬ (c = 'e' ∨ c = 'E') := by
        rintro (rfl | rfl)
        · exact absurd (closed_cons.1 closed) (by decide)
        · exact absurd (closed_cons.1 closed) (by decide)
      rw [List.nil_append, scanExponent, if_neg other]
  | cons c tail =>
    rw [List.cons_append, scanExponent]
    rw [scanExponent] at read
    by_cases mark : c = 'e' ∨ c = 'E'
    · rw [if_pos mark] at read ⊢
      cases tail with
      | nil => cases read
      | cons d tail =>
        obtain ⟨digits_eq, after_eq⟩ := split_digits_append closed (splitSign (d :: tail)).2
        rw [splitSign_append]
        simp only [digits_eq, after_eq] at read ⊢
        split at read
        · cases read
        · next some =>
          cases read
          rw [if_neg some]
    · rw [if_neg mark] at read ⊢
      cases read
      rfl

theorem scanNumber_append {negative : Bool} {token : Token} {after : List Char}
    (read : scanNumber negative cs = some (token, after)) :
    scanNumber negative (cs ++ rest) = some (token, after ++ rest) := by
  obtain ⟨digits_eq, after_eq⟩ := split_digits_append closed cs
  rw [scanNumber] at read ⊢
  rw [digits_eq, after_eq]
  split at read
  · next whole =>
    simp only [Option.bind_eq_bind, Option.bind_eq_some_iff, Option.some.injEq,
      Prod.mk.injEq] at read
    obtain ⟨⟨fraction, tail⟩, fraction_eq, ⟨exponent, last⟩, exponent_eq, rfl, rfl⟩ := read
    rw [if_pos whole, scanFraction_append closed fraction_eq]
    simp only [Option.bind_eq_bind, Option.bind_some, scanExponent_append closed exponent_eq]
  · cases read

end

/-! ## Strings -/

/-- A letter behind a backslash, that is known there, stands for its character. -/
theorem scanString_escaped (p : Option Partial) {c ch : Char} (known : escaped? c = some ch)
    (tail : List Char) :
    scanString p ('\\' :: c :: tail) = scanString (p.bind (·.push ch)) tail := by
  have other : c ≠ 'u' := by
    rintro rfl
    cases known
  rw [scanString]
  · simp only [known]
  · intro a b d e rest same
    exact absurd same other

/-- A character that is neither a quote nor a backslash, and can be seen, stands for itself. -/
theorem scanString_plain (p : Option Partial) {c : Char} (quote : c ≠ '"') (back : c ≠ '\\')
    (visible : ¬ c.toNat < 32) (tail : List Char) :
    scanString p (c :: tail) = scanString (p.bind (·.push c)) tail := by
  rw [scanString]
  · rw [if_neg visible]
  · exact quote
  · intro a b d e rest same
    exact absurd same back
  · intro d rest same
    exact absurd same back

theorem scanString_append {p : Option Partial} {cs after : List Char} {s : Option String}
    (read : scanString p cs = some (s, after)) (rest : List Char) :
    scanString p (cs ++ rest) = some (s, after ++ rest) := by
  fun_induction scanString p cs with
  | case1 => cases read
  | case2 p tail =>
    cases read
    rfl
  | case3 => cases read
  | case4 p a b c d tail n word ih =>
    simp only [List.cons_append, scanString, word]
    exact ih read
  | case5 => cases read
  | case6 p c tail apart ch known ih =>
    rw [List.cons_append, List.cons_append, scanString_escaped p known]
    exact ih read
  | case7 => cases read
  | case8 p c tail quote _ back visible ih =>
    have other : c ≠ '\\' := by
      intro same
      cases tail with
      | nil => cases read
      | cons d tail => exact back d tail same rfl
    rw [List.cons_append, scanString_plain p quote other visible]
    exact ih read

/-! ## Tokens -/

/-- A token that starts with a digit is a number. -/
theorem scanOne_of_isDigit {c : Char} (digit : c.isDigit = true) (rest : List Char) :
    scanOne (c :: rest) = scanNumber false (c :: rest) := by
  unfold scanOne
  split
  case h_12 => rfl
  all_goals
    next same =>
      rw [(List.cons.inj same).1] at digit
      cases digit

/-- A number starts with a digit. -/
theorem exists_digit_of_scanNumber {negative : Bool} {cs after : List Char} {token : Token}
    (read : scanNumber negative cs = some (token, after)) :
    ∃ c tail, cs = c :: tail ∧ c.isDigit = true := by
  cases cs with
  | nil => cases read
  | cons c tail =>
    refine ⟨c, tail, rfl, ?_⟩
    cases digit : c.isDigit with
    | true => rfl
    | false =>
      have none : digits (c :: tail) = [] := List.takeWhile_cons_of_neg (by simp [digit])
      rw [scanNumber, none, if_neg (by decide)] at read
      cases read

theorem scanOne_append {cs after rest : List Char} {token : Token} (closed : Closed rest)
    (read : scanOne cs = some (token, after)) :
    scanOne (cs ++ rest) = some (token, after ++ rest) := by
  unfold scanOne at read
  split at read
  case h_10 tail =>
    obtain ⟨⟨s, last⟩, string, same⟩ := Option.map_eq_some_iff.1 read
    cases same
    simp only [List.cons_append, scanOne, scanString_append string rest, Option.map_some]
  case h_11 tail =>
    have longer := scanNumber_append closed read
    simpa only [List.cons_append, scanOne] using longer
  case h_12 =>
    have longer := scanNumber_append closed read
    obtain ⟨c, tail, rfl, digit⟩ := exists_digit_of_scanNumber read
    rw [List.cons_append] at longer ⊢
    rw [scanOne_of_isDigit digit, longer]
  all_goals
    cases read
    rfl

@[simp] theorem scan_nil : scan [] = [] := by rw [scan]

theorem scan_of_blank {c : Char} (blank : isBlank c = true) (rest : List Char) :
    scan (c :: rest) = scan rest := by
  rw [scan, if_pos blank]

theorem scan_of_scanOne {c : Char} {rest after : List Char} {token : Token}
    (solid : isBlank c = false) (read : scanOne (c :: rest) = some (token, after)) :
    scan (c :: rest) = token :: scan after := by
  rw [scan, if_neg (by simp [solid])]
  split
  · next none => rw [read] at none; cases none
  · next found => rw [read] at found; cases found; rfl

/-- **The tokens of a text that is put together** are those of its parts, if the first part is JSON
token by token and no number goes on behind it. -/
theorem scan_append {cs rest : List Char} (closed : Closed rest) (fine : bad ∉ scan cs) :
    scan (cs ++ rest) = scan cs ++ scan rest := by
  fun_induction scan cs with
  | case1 => rfl
  | case2 c tail blank ih =>
    rw [List.cons_append, scan_of_blank blank]
    exact ih fine
  | case3 c tail solid none =>
    exact absurd (List.mem_singleton.2 rfl) fine
  | case4 c tail solid token after read ih =>
    have solid : isBlank c = false := by simpa using solid
    have longer := scanOne_append closed read
    rw [List.cons_append] at longer ⊢
    rw [scan_of_scanOne solid longer, ih fun among => fine (.tail _ among), List.cons_append]

end Token

/-! ## Spelling -/

open Token (scan)

/-- A text is spelled by some tokens: they are its tokens wherever it stands, as long as no number
goes on behind it. -/
def Spelled (text : String) (tokens : List Token) : Prop :=
  ∀ rest, Token.Closed rest → scan (text.toList ++ rest) = tokens ++ scan rest

theorem spelled_of_scan {text : String} {tokens : List Token} (read : scan text.toList = tokens)
    (fine : .bad ∉ tokens) : Spelled text tokens := by
  intro rest closed
  subst read
  exact Token.scan_append closed fine

theorem Spelled.scan_eq {text : String} {tokens : List Token} (spelled : Spelled text tokens) :
    scan text.toList = tokens := by
  have alone := spelled [] Token.closed_nil
  rwa [List.append_nil, Token.scan_nil, List.append_nil] at alone

theorem spelled_empty : Spelled "" [] := by
  intro rest _
  rfl

/-- What is put together is spelled by what its parts are spelled by. -/
theorem Spelled.append {text more : String} {tokens later : List Token}
    (spelled : Spelled text tokens) (spelled_more : Spelled more later)
    (closed : Token.Closed more.toList) : Spelled (text ++ more) (tokens ++ later) := by
  intro rest closed_rest
  rw [String.toList_append, List.append_assoc, spelled _ (closed.append closed_rest),
    spelled_more rest closed_rest, List.append_assoc]

/-! ### Marks -/

/-- A text is a token of its own, whatever follows. -/
def Delimited (text : String) (token : Token) : Prop :=
  ∀ rest, scan (text.toList ++ rest) = token :: scan rest

theorem Delimited.spelled {text : String} {token : Token} (delimited : Delimited text token) :
    Spelled text [token] := by
  intro rest _
  exact delimited rest

/-- Behind a token of its own anything may follow. -/
theorem Delimited.append {text more : String} {token : Token} {later : List Token}
    (delimited : Delimited text token) (spelled : Spelled more later) :
    Spelled (text ++ more) (token :: later) := by
  intro rest closed
  rw [String.toList_append, List.append_assoc, delimited, spelled rest closed, List.cons_append]

theorem delimited_of_scanOne (c : Char) (front : List Char) {token : Token}
    (solid : Token.isBlank c = false)
    (read : ∀ rest, Token.scanOne (c :: (front ++ rest)) = some (token, rest)) :
    Delimited (String.ofList (c :: front)) token := by
  intro rest
  rw [String.toList_ofList, List.cons_append, Token.scan_of_scanOne solid (read rest)]

theorem delimited_openArray : Delimited "[" .openArray :=
  delimited_of_scanOne '[' [] rfl fun _ => rfl

theorem delimited_closeArray : Delimited "]" .closeArray :=
  delimited_of_scanOne ']' [] rfl fun _ => rfl

theorem delimited_openObject : Delimited "\x7b" .openObject :=
  delimited_of_scanOne '\x7b' [] rfl fun _ => rfl

theorem delimited_closeObject : Delimited "\x7d" .closeObject :=
  delimited_of_scanOne '\x7d' [] rfl fun _ => rfl

theorem delimited_comma : Delimited "," .comma :=
  delimited_of_scanOne ',' [] rfl fun _ => rfl

theorem delimited_colon : Delimited ":" .colon :=
  delimited_of_scanOne ':' [] rfl fun _ => rfl

theorem delimited_null : Delimited "null" .null :=
  delimited_of_scanOne 'n' ['u', 'l', 'l'] rfl fun _ => rfl

theorem delimited_bool (b : Bool) : Delimited (if b then "true" else "false") (.bool b) := by
  cases b with
  | true => exact delimited_of_scanOne 't' ['r', 'u', 'e'] rfl fun _ => rfl
  | false => exact delimited_of_scanOne 'f' ['a', 'l', 's', 'e'] rfl fun _ => rfl

/-! ### Strings -/

/-- The value of an escape of a control character. -/
theorem hexWord_of_lt {n : Nat} (small : n < 32) :
    Token.hexWord? '0' '0' (hexDigit (n / 16)) (hexDigit (n % 16)) = some n := by
  decide +revert

/-- What stands for a character inside a string is read as the character. -/
theorem scanString_escape (done : List Char) (c : Char) (tail : List Char) :
    Token.scanString (some ⟨done, none⟩) (escape c ++ tail) =
      Token.scanString (some ⟨c :: done, none⟩) tail := by
  unfold escape
  split
  · exact Token.scanString_escaped _ rfl tail
  · exact Token.scanString_escaped _ rfl tail
  · exact Token.scanString_escaped _ rfl tail
  · exact Token.scanString_escaped _ rfl tail
  · exact Token.scanString_escaped _ rfl tail
  · next quote back _ _ _ =>
    have self : Char.ofNat c.toNat = c := Char.ofNat_toNat c
    split
    · next backspace =>
      rw [backspace] at self
      subst self
      exact Token.scanString_escaped _ rfl tail
    split
    · next feed =>
      rw [feed] at self
      subst self
      exact Token.scanString_escaped _ rfl tail
    split
    · next control =>
      have low : ¬ (0xDC00 ≤ c.toNat ∧ c.toNat ≤ 0xDFFF) := by omega
      have high : ¬ (0xD800 ≤ c.toNat ∧ c.toNat ≤ 0xDBFF) := by omega
      simp only [List.cons_append, List.nil_append, Token.scanString, hexWord_of_lt control,
        Option.bind_some, Token.Partial.pushWord, if_neg low, if_neg high, self]
    · next visible => exact Token.scanString_plain _ quote back visible tail

theorem scanString_quoted (done cs tail : List Char) :
    Token.scanString (some ⟨done, none⟩) (cs.flatMap escape ++ '"' :: tail) =
      some (some (String.ofList (done.reverse ++ cs)), tail) := by
  induction cs generalizing done with
  | nil => simp [Token.scanString, Token.Partial.finish]
  | cons c cs ih =>
    rw [List.flatMap_cons, List.append_assoc, scanString_escape, ih]
    simp

/-- **A string is a token of its own as it is quoted.** -/
theorem delimited_quote (s : String) : Delimited (quote s) (.string (some s)) := by
  have text_eq : quote s = String.ofList ('"' :: (s.toList.flatMap escape ++ ['"'])) := by
    apply String.toList_injective
    simp [quote]
  rw [text_eq]
  refine delimited_of_scanOne _ _ rfl ?_
  intro rest
  rw [List.append_assoc, Token.scanOne, List.singleton_append, scanString_quoted]
  simp

/-! ### Whole numbers -/

theorem le_ofDigitChars (cs : List Char) (n : Nat) : n ≤ Nat.ofDigitChars 10 cs n := by
  induction cs generalizing n with
  | nil => exact Nat.le_refl n
  | cons c cs ih =>
    rw [Nat.ofDigitChars_cons]
    have later := ih (10 * n + (c.toNat - '0'.toNat))
    omega

/-- Digits whose value fits a word are all taken. -/
theorem gather_eq {cs : List Char} {n : Nat} (small : Nat.ofDigitChars 10 cs n < UInt64.size) :
    Decimal.gather n cs = (Nat.ofDigitChars 10 cs n, []) := by
  induction cs generalizing n with
  | nil => rfl
  | cons c cs ih =>
    rw [Nat.ofDigitChars_cons] at small ⊢
    have next_eq : n * 10 + Decimal.digitValue c = 10 * n + (c.toNat - '0'.toNat) := by
      rw [Decimal.digitValue, Nat.mul_comm]
    have next_small : n * 10 + Decimal.digitValue c < UInt64.size := by
      rw [next_eq]
      exact Nat.lt_of_le_of_lt (le_ofDigitChars cs _) small
    rw [Decimal.gather, if_pos next_small, next_eq]
    exact ih small

/-- Only zero starts with a zero. -/
theorem exists_head_toDigits {n : Nat} (positive : 0 < n) :
    ∃ c tail, Nat.toDigits 10 n = c :: tail ∧ c ≠ '0' := by
  induction n using Nat.strongRecOn with
  | ind n ih =>
    rcases Nat.lt_or_ge n 10 with small | large
    · have other : ∀ m < 10, 0 < m → Nat.digitChar m ≠ '0' := by decide
      exact ⟨n.digitChar, [], Nat.toDigits_of_lt_base small, other n small positive⟩
    · obtain ⟨c, tail, front_eq, other⟩ := ih (n / 10) (by omega) (by omega)
      refine ⟨c, tail ++ [(n % 10).digitChar], ?_, other⟩
      rw [Nat.toDigits_of_base_le (by decide) large, front_eq, List.cons_append]

theorem isWholePart_toDigits (n : Nat) : Token.isWholePart (Nat.toDigits 10 n) = true := by
  rcases Nat.eq_zero_or_pos n with rfl | positive
  · decide
  · obtain ⟨c, tail, text_eq, other⟩ := exists_head_toDigits positive
    rw [text_eq, Token.isWholePart]
    exact other

/-- The digits of a number are read as digits before the point. -/
theorem scanNumber_toDigits (negative : Bool) (n : Nat) :
    Token.scanNumber negative (Nat.toDigits 10 n) =
      some (.number (Token.numberOf negative (Nat.toDigits 10 n) [] none), []) := by
  have all : ∀ c ∈ Nat.toDigits 10 n, c.isDigit = true := fun c member =>
    Nat.isDigit_of_mem_toDigits (by decide) (by decide) member
  have digits_eq : Token.digits (Nat.toDigits 10 n) = Nat.toDigits 10 n :=
    List.takeWhile_eq_self_iff.2 all
  have after_eq : Token.afterDigits (Nat.toDigits 10 n) = [] := List.dropWhile_eq_nil_iff.2 all
  rw [Token.scanNumber, digits_eq, after_eq, if_pos (isWholePart_toDigits n)]
  rfl

theorem gather_toDigits {n : Nat} (small : n < UInt64.size) :
    Decimal.gather 0 (Nat.toDigits 10 n) = (n, []) := by
  have value : Nat.ofDigitChars 10 (Nat.toDigits 10 n) 0 = n := Nat.ofDigitChars_ten_toDigits
  rw [gather_eq (by rwa [value]), value]

theorem numberOf_toDigits {n : Nat} (small : n < UInt64.size) :
    Token.numberOf false (Nat.toDigits 10 n) [] none = some (.whole n) := by
  simp [Token.numberOf, gather_toDigits small]

/-- Behind a minus the digits of a number are whole as long as a signed word holds it. -/
theorem numberOf_toDigits_of_negative {n : Nat} (positive : 0 < n) (small : n ≤ UInt64.size / 2) :
    Token.numberOf true (Nat.toDigits 10 n) [] none = some (.whole (-n)) := by
  have fits : n < UInt64.size := Nat.lt_of_le_of_lt small (by decide)
  have whole : ¬ (n = 0 ∨ UInt64.size / 2 < n) := by omega
  simp [Token.numberOf, gather_toDigits fits, whole]

/-- **A natural number is spelled as it is written.** -/
theorem spelled_nat {n : Nat} (small : n < UInt64.size) :
    Spelled (toString n) [.number (some (.whole n))] := by
  have read := scanNumber_toDigits false n
  rw [numberOf_toDigits small] at read
  obtain ⟨c, tail, text_eq, digit⟩ := Token.exists_digit_of_scanNumber read
  have solid : Token.isBlank c = false := by
    cases blank : Token.isBlank c with
    | false => rfl
    | true =>
      simp only [Token.isBlank, Bool.or_eq_true, beq_iff_eq] at blank
      rcases blank with ((rfl | rfl) | rfl) | rfl <;> cases digit
  rw [text_eq] at read
  refine spelled_of_scan ?_ (by simp)
  rw [Nat.toString_eq_ofList_toDigits, String.toList_ofList, text_eq,
    Token.scan_of_scanOne solid ((Token.scanOne_of_isDigit digit tail).trans read), Token.scan_nil]

/-- **A whole number is spelled as it is written**, if a word of sixty-four bits holds it, signed
or not. -/
theorem spelled_int {n : Int} (least : Int64.minValue.toInt ≤ n) (most : n < UInt64.size) :
    Spelled (toString n) [.number (some (.whole n))] := by
  cases n with
  | ofNat n => exact spelled_nat (Int.ofNat_lt.1 most)
  | negSucc n =>
    have bound : Int64.minValue.toInt = -(UInt64.size / 2 : Nat) := by decide
    have read := scanNumber_toDigits true (n + 1)
    rw [numberOf_toDigits_of_negative n.succ_pos (by omega)] at read
    have text_eq : toString (Int.negSucc n) = String.ofList ('-' :: Nat.toDigits 10 (n + 1)) := by
      apply String.toList_injective
      have front : toString (Int.negSucc n) = "-" ++ toString (n + 1) := rfl
      simp [front]
    have first : Token.scanOne ('-' :: Nat.toDigits 10 (n + 1)) =
        some (.number (some (.whole (Int.negSucc n))), []) := read
    refine spelled_of_scan ?_ (by simp)
    rw [text_eq, String.toList_ofList, Token.scan_of_scanOne rfl first, Token.scan_nil]

end Lookout.Json
