/-
# Crochet.Proofs.Json.Scanning -- a printed text is scanned into its tokens

`feed` is the scanner from some point of a text on.  A string or a punctuation
mark ends by itself; a word or a number ends where a character follows that it
cannot go on with, which is what `Closed` says of the rest.  `scan_chars` then
holds for both layouts: what is printed between the tokens is blank, and two
words never touch.
-/
import Crochet.Json.Printer
import Crochet.Proofs.Text.Cuts
import Crochet.Proofs.Text.Digits

set_option autoImplicit false

namespace Crochet.Json

namespace Token

/-! ## Feeding the scanner -/

/-- The tokens, newest first, when the scanner goes on with a text. -/
def Scanner.feed (s : Scanner) (cs : List Char) : Option (List Token) :=
  (cs.foldlM Scanner.step? s).bind Scanner.finish?

theorem scan_eq (cs : List Char) :
    scan cs = (Scanner.feed ⟨.between, []⟩ cs).map List.reverse := by
  unfold scan Scanner.feed
  cases cs.foldlM Scanner.step? ⟨.between, []⟩ with
  | none => rfl
  | some s => cases h : s.finish? <;> simp [h]

theorem feed_cons (s : Scanner) (c : Char) (cs : List Char) :
    s.feed (c :: cs) = (s.step? c).bind fun next => next.feed cs := by
  unfold Scanner.feed
  rw [List.foldlM_cons]
  cases s.step? c <;> rfl

/-- No word or number goes on with the text. -/
def Closed (cs : List Char) : Prop := ∀ c ∈ cs.head?, isRunChar c = false

theorem closed_nil : Closed [] := by simp [Closed]

theorem closed_cons {c : Char} (stop : isRunChar c = false) (cs : List Char) :
    Closed (c :: cs) := by simpa [Closed] using stop

/-! ## Words and numbers -/

theorem isSpace_of_isRunChar {c : Char} (run : isRunChar c = true) :
    isSpace c = false ∧ c ≠ '"' := by
  constructor
  · rw [Bool.eq_false_iff]
    intro space
    simp only [isSpace, Bool.or_eq_true, beq_iff_eq] at space
    obtain ((rfl | rfl) | rfl) | rfl := space <;> revert run <;> decide
  · rintro rfl
    revert run
    decide

theorem feed_start_run {c : Char} (run : isRunChar c = true) (found : List Token)
    (rest : List Char) :
    Scanner.feed ⟨.between, found⟩ (c :: rest) = Scanner.feed ⟨.run [c], found⟩ rest := by
  obtain ⟨notSpace, notQuote⟩ := isSpace_of_isRunChar run
  simp [feed_cons, Scanner.step?, start?, notSpace, notQuote, run]

theorem feed_run {cs : List Char} (all : ∀ c ∈ cs, isRunChar c = true) (run : List Char)
    (found : List Token) (rest : List Char) :
    Scanner.feed ⟨.run run, found⟩ (cs ++ rest) =
      Scanner.feed ⟨.run (cs.reverse ++ run), found⟩ rest := by
  induction cs generalizing run with
  | nil => rfl
  | cons c cs ih =>
      have first : isRunChar c = true := all c (by simp)
      rw [List.cons_append, feed_cons]
      simp only [Scanner.step?, first, if_true, Option.bind_some]
      rw [ih (fun d inside => all d (by simp [inside]))]
      simp

/-- A finished run is its token. -/
theorem feed_closed {run : List Char} {t : Token} (spelled : ofRun? run.reverse = some t)
    (found : List Token) {rest : List Char} (closed : Closed rest) :
    Scanner.feed ⟨.run run, found⟩ rest = Scanner.feed ⟨.between, t :: found⟩ rest := by
  cases rest with
  | nil => simp [Scanner.feed, Scanner.finish?, spelled]
  | cons c rest =>
      have stop : isRunChar c = false := closed c rfl
      simp [feed_cons, Scanner.step?, stop, spelled]

theorem feed_word (cs : List Char) {t : Token} (nonempty : cs ≠ [])
    (all : cs.all isRunChar = true) (spelled : ofRun? cs = some t) (found : List Token)
    {rest : List Char} (closed : Closed rest) :
    Scanner.feed ⟨.between, found⟩ (cs ++ rest) =
      Scanner.feed ⟨.between, t :: found⟩ rest := by
  obtain ⟨c, cs, rfl⟩ := List.exists_cons_of_ne_nil nonempty
  rw [List.all_eq_true] at all
  rw [List.cons_append, feed_start_run (all c (by simp)),
    feed_run (fun d inside => all d (by simp [inside]))]
  exact feed_closed (by simpa using spelled) found closed

theorem isRunChar_of_isAsciiDigit {c : Char} (digit : Text.isAsciiDigit c = true) :
    isRunChar c = true := by
  rw [Text.isAsciiDigit_eq] at digit
  simp [isRunChar, Char.isAlphanum, digit]

end Token

namespace Number

theorem chars_ofNat (n : Nat) : (ofNat n).chars = Nat.toDigits 10 n := by simp [chars, ofNat]

/-- A natural number's digits are read as that number. -/
theorem unsigned?_toDigits (n : Nat) : unsigned? false (Nat.toDigits 10 n) = some (ofNat n) := by
  have digits : ∀ d ∈ Nat.toDigits 10 n, Text.isAsciiDigit d = true :=
    fun _ => Text.isAsciiDigit_of_mem_toDigits
  have stop : Text.NoDigit [] := by simp [Text.NoDigit]
  have whole := Text.takeWhile_run digits stop
  have after := Text.dropWhile_run digits stop
  rw [List.append_nil] at whole after
  have first : digits? (Nat.toDigits 10 n) = some (Nat.toDigits 10 n, []) := by
    obtain ⟨d, ds, shape⟩ := List.exists_cons_of_ne_nil (Nat.toDigits_ne_nil (n := n) (b := 10))
    unfold digits?
    rw [whole, after, shape]
  have leading : noLeadingZero (Nat.toDigits 10 n) = true := by
    rcases Nat.eq_zero_or_pos n with rfl | pos
    · rfl
    · have front := Text.toDigits_head_ne_zero pos
      unfold noLeadingZero
      split
      · rename_i shape
        simp [shape] at front
      · rfl
  simp [unsigned?, first, leading, fraction?, exponent?, ofNat]

theorem ofChars?_toDigits (n : Nat) : ofChars? (Nat.toDigits 10 n) = some (ofNat n) := by
  obtain ⟨d, ds, shape⟩ := List.exists_cons_of_ne_nil (Nat.toDigits_ne_nil (n := n) (b := 10))
  have digit : Text.isAsciiDigit d = true :=
    Text.isAsciiDigit_of_mem_toDigits (n := n) (by simp [shape])
  have unsigned := unsigned?_toDigits n
  rw [shape] at unsigned ⊢
  unfold ofChars?
  split
  · rename_i minus
    cases minus
    simp [Text.isAsciiDigit] at digit
  · exact unsigned

end Number

namespace Token

theorem ofRun?_toDigits (n : Nat) : ofRun? (Nat.toDigits 10 n) = some (number (.ofNat n)) := by
  have noWord : ∀ (c : Char) (word : List Char), Text.isAsciiDigit c = false →
      Nat.toDigits 10 n ≠ c :: word := by
    intro c word letter same
    have : Text.isAsciiDigit c = true :=
      Text.isAsciiDigit_of_mem_toDigits (n := n) (by simp [same])
    simp [letter] at this
  have notNull : Nat.toDigits 10 n ≠ "null".toList := noWord 'n' _ (by decide)
  have notTrue : Nat.toDigits 10 n ≠ "true".toList := noWord 't' _ (by decide)
  have notFalse : Nat.toDigits 10 n ≠ "false".toList := noWord 'f' _ (by decide)
  simp only [ofRun?, notNull, notTrue, notFalse, if_false, Number.ofChars?_toDigits,
    Option.map_some]

end Token

/-! ## Strings -/

namespace Literal

theorem not_surrogate (c : Char) : isLow c.toNat = false ∧ isHigh c.toNat = false := by
  have valid := c.valid
  simp only [UInt32.isValidChar, Nat.isValidChar] at valid
  have same : c.val.toNat = c.toNat := rfl
  simp only [isLow, isHigh, Bool.and_eq_false_iff, decide_eq_false_iff_not]
  omega

/-- Characters spell themselves. -/
theorem spell_toNat (newest after : List Char) :
    spell after (newest.map Char.toNat) = some (newest.reverse ++ after) := by
  induction newest generalizing after with
  | nil => rfl
  | cons c cs ih =>
      obtain ⟨notLow, notHigh⟩ := not_surrogate c
      rw [List.map_cons, spell.eq_def]
      simp [notLow, notHigh, Char.ofNat_toNat, ih]

theorem ofReversed_toNat (text : String) :
    ofReversed ((text.toList.map Char.toNat).reverse) = some text := by
  rw [ofReversed, ← List.map_reverse, spell_toNat]
  simp

end Literal

namespace Token

theorem hexValue?_hexDigit : ∀ d < 16, hexValue? (Literal.hexDigit d) = some d := by decide

/-- A one-letter escape adds what it spells. -/
theorem feed_shortEscape {letter : Char} {code : Nat} (spelled : escaped? letter = some code)
    (short : letter ≠ 'u') (units : List Nat) (found : List Token) (rest : List Char) :
    Scanner.feed ⟨.string units, found⟩ ('\\' :: letter :: rest) =
      Scanner.feed ⟨.string (code :: units), found⟩ rest := by
  simp [feed_cons, Scanner.step?, inString?, short, spelled]

/-- The long escape of a control character. -/
theorem feed_hexEscape {n : Nat} (small : n < 32) (units : List Nat) (found : List Token)
    (rest : List Char) :
    Scanner.feed ⟨.string units, found⟩ (Literal.hexEscape n ++ rest) =
      Scanner.feed ⟨.string (n :: units), found⟩ rest := by
  have high := hexValue?_hexDigit (n / 16) (by omega)
  have low := hexValue?_hexDigit (n % 16) (by omega)
  have zero : hexValue? '0' = some 0 := by decide
  have sum : 16 * (n / 16) + n % 16 = n := Nat.div_add_mod n 16
  simp [Literal.hexEscape, feed_cons, Scanner.step?, inString?, zero, high, low, sum]

/-- An escaped character adds its code point. -/
theorem feed_escape (c : Char) (units : List Nat) (found : List Token) (rest : List Char) :
    Scanner.feed ⟨.string units, found⟩ (Literal.escape c ++ rest) =
      Scanner.feed ⟨.string (c.toNat :: units), found⟩ rest := by
  unfold Literal.escape
  split
  · rename_i quote
    subst quote
    exact feed_shortEscape rfl (by decide) units found rest
  split
  · rename_i backslash
    subst backslash
    exact feed_shortEscape rfl (by decide) units found rest
  split
  · rename_i control
    split
    case h_6 => exact feed_hexEscape control units found rest
    all_goals
      rename_i code
      rw [code]
      exact feed_shortEscape rfl (by decide) units found rest
  · rename_i notQuote notBackslash notControl
    simp [feed_cons, Scanner.step?, inString?, notQuote, notBackslash, notControl]

theorem feed_escapes (cs : List Char) (units : List Nat) (found : List Token)
    (rest : List Char) :
    Scanner.feed ⟨.string units, found⟩ (cs.flatMap Literal.escape ++ rest) =
      Scanner.feed ⟨.string ((cs.map Char.toNat).reverse ++ units), found⟩ rest := by
  induction cs generalizing units with
  | nil => rfl
  | cons c cs ih =>
      rw [List.flatMap_cons, List.append_assoc, feed_escape, ih]
      simp

theorem feed_open (found : List Token) (rest : List Char) :
    Scanner.feed ⟨.between, found⟩ ('"' :: rest) = Scanner.feed ⟨.string [], found⟩ rest := by
  rw [feed_cons, show Scanner.step? ⟨.between, found⟩ '"' = some ⟨.string [], found⟩ from rfl,
    Option.bind_some]

theorem feed_close (units : List Nat) (found : List Token) (rest : List Char) :
    Scanner.feed ⟨.string units, found⟩ ('"' :: rest) =
      Scanner.feed ⟨.between, string (Literal.ofReversed units) :: found⟩ rest := by
  rw [feed_cons, show Scanner.step? ⟨.string units, found⟩ '"' =
    some ⟨.between, string (Literal.ofReversed units) :: found⟩ from rfl, Option.bind_some]

/-- Half a surrogate pair is one unit. -/
theorem feed_half (units : List Nat) (found : List Token) (rest : List Char) :
    Scanner.feed ⟨.string units, found⟩ ("\\ud800".toList ++ rest) =
      Scanner.feed ⟨.string (0xd800 :: units), found⟩ rest := by
  have d : hexValue? 'd' = some 13 := by decide
  have eight : hexValue? '8' = some 8 := by decide
  have zero : hexValue? '0' = some 0 := by decide
  simp [feed_cons, Scanner.step?, inString?, d, eight, zero]

/-- A quoted literal is the string it spells. -/
theorem feed_quoted (s : Literal) (found : List Token) (rest : List Char) :
    Scanner.feed ⟨.between, found⟩ (s.quoted ++ rest) =
      Scanner.feed ⟨.between, string s :: found⟩ rest := by
  cases s with
  | none =>
      have alone : Literal.ofReversed [0xd800] = none := by decide
      rw [Literal.quoted, List.cons_append, List.cons_append, feed_open, List.append_assoc,
        feed_half, List.singleton_append, feed_close, alone]
  | some text =>
      rw [Literal.quoted, List.cons_append, List.cons_append, feed_open, List.append_assoc,
        feed_escapes, List.append_nil, List.singleton_append, feed_close,
        Literal.ofReversed_toNat]

end Token

end Crochet.Json
