/-
# Crochet.Proofs.Decimal.Compact -- what a decimal loses by being short

A finite float with a fixed number of places is written as an `Expansion`: a
sign, digits, the point and that many digits.  Cutting zeros off its end stops
at the point, so it never comes to the zeros in front of it, and the point goes
only when it ends the text.  What is cut off has no worth, and it can be put
back, for it is known how many places there were: short texts are the same
exactly if the long ones are.
-/
import Crochet.Decimal.Reader
import Crochet.Drawing.Svg
import Crochet.Proofs.Decimal
import Crochet.Proofs.Float
import Crochet.Proofs.Text.Cuts

set_option autoImplicit false

namespace Crochet.Decimal

open Text (Stops isAsciiDigit)

/-! ## The number a text stands for -/

/-- The number that a text is read as, before it is rounded to a float. -/
def value? (text : List Char) : Option ℚ :=
  let (negative, rest) := signed text
  (number? rest).map fun (digits, ten) =>
    (if negative then -1 else 1) * ((digits : ℚ) * (10 : ℚ) ^ ten)

/-- A sign is told from the digits behind it. -/
theorem signed_signChars (negative : Bool) {c : Char} (digit : isAsciiDigit c = true)
    (rest : List Char) : signed (signChars negative ++ c :: rest) = (negative, c :: rest) := by
  cases negative with
  | true => rfl
  | false =>
      simp only [signChars, Bool.false_eq_true, if_false, List.nil_append]
      unfold signed
      split
      · rename_i minus
        obtain ⟨rfl, -⟩ := List.cons.inj minus
        cases digit
      · rename_i plus
        obtain ⟨rfl, -⟩ := List.cons.inj plus
        cases digit
      · rfl

section Digits

variable {whole fraction : List Char} (filled : whole ≠ [])
  (digits : ∀ c ∈ whole, isAsciiDigit c = true)

include filled digits

theorem number?_whole : number? whole = some (Nat.ofDigitChars 10 whole 0, 0) := by
  have ends : whole.dropWhile isAsciiDigit = [] := List.dropWhile_eq_nil_iff.mpr digits
  have all : whole.takeWhile isAsciiDigit = whole := List.takeWhile_eq_self_iff.mpr digits
  simp [number?, ends, all, filled, exponent?]

theorem number?_point (decimals : ∀ c ∈ fraction, isAsciiDigit c = true) :
    number? (whole ++ '.' :: fraction) =
      some (Nat.ofDigitChars 10 (whole ++ fraction) 0, -(fraction.length : ℤ)) := by
  have stop : Stops isAsciiDigit ('.' :: fraction) := Text.stops_cons.mpr (by decide)
  have ends : fraction.dropWhile isAsciiDigit = [] := List.dropWhile_eq_nil_iff.mpr decimals
  have all : fraction.takeWhile isAsciiDigit = fraction := List.takeWhile_eq_self_iff.mpr decimals
  simp [number?, Text.takeWhile_run digits stop, Text.dropWhile_run digits stop, ends, all,
    filled, exponent?]

/-- No point is cut off behind digits. -/
theorem rdropWhile_digits (before : List Char) :
    (before ++ whole).rdropWhile (· == '.') = before ++ whole := by
  obtain ⟨front, c, rfl⟩ := (List.eq_nil_or_concat' whole).resolve_left filled
  have digit : isAsciiDigit c = true := digits c (by simp)
  rw [← List.append_assoc, List.rdropWhile_concat_neg]
  intro point
  rw [eq_of_beq point] at digit
  cases digit

end Digits

/-- Zeros are cut off behind the point only. -/
theorem rdropWhile_point (before fraction : List Char) :
    (before ++ '.' :: fraction).rdropWhile (· == '0') =
      before ++ '.' :: fraction.rdropWhile (· == '0') := by
  induction fraction using List.reverseRecOn with
  | nil => exact List.rdropWhile_concat_neg _ _ _ (by decide)
  | append_singleton fraction c ih =>
      rw [← List.cons_append, ← List.append_assoc, List.rdropWhile_concat, List.rdropWhile_concat]
      split
      · exact ih
      · simp

/-! ## Decimals with a point -/

/-- A decimal that is written with a point. -/
structure Expansion where
  negative : Bool
  /-- The digits in front of the point; there is at least one. -/
  whole : List Char
  /-- The digits behind the point. -/
  fraction : List Char
  filled : whole ≠ []
  whole_digits : ∀ c ∈ whole, isAsciiDigit c = true
  fraction_digits : ∀ c ∈ fraction, isAsciiDigit c = true

namespace Expansion

/-- All that stands in front of the point. -/
def front (d : Expansion) : List Char := signChars d.negative ++ d.whole

def written (d : Expansion) : List Char := d.front ++ '.' :: d.fraction

/-- The decimals up to the last one that is not a zero. -/
def kept (d : Expansion) : List Char := d.fraction.rdropWhile (· == '0')

/-- The point and the kept decimals, or nothing if there are none. -/
def tail (d : Expansion) : List Char := if d.kept = [] then [] else '.' :: d.kept

/-- The number with the given decimals behind its point. -/
def worth (d : Expansion) (fraction : List Char) : ℚ :=
  (if d.negative then -1 else 1) *
    ((Nat.ofDigitChars 10 (d.whole ++ fraction) 0 : ℚ) * (10 : ℚ) ^ (-(fraction.length : ℤ)))

variable (d e : Expansion)

theorem kept_digits {c : Char} (inside : c ∈ d.kept) : isAsciiDigit c = true :=
  d.fraction_digits c ((List.rdropWhile_prefix _ d.fraction).subset inside)

/-- The last kept decimal is needed. -/
theorem kept_last : d.kept.getLast? ≠ some '0' := by
  intro last
  obtain ⟨some, isZero⟩ := List.mem_getLast?_eq_getLast last
  exact List.rdropWhile_last_not (· == '0') d.fraction some (beq_iff_eq.mpr isZero.symm)

/-- What is not kept are zeros. -/
theorem exists_zeros : ∃ n, d.fraction = d.kept ++ List.replicate n '0' := by
  have zeros : ∀ c ∈ d.fraction.rtakeWhile (· == '0'), c = '0' :=
    fun c inside => by simpa using List.mem_rtakeWhile_imp inside
  refine ⟨(d.fraction.rtakeWhile (· == '0')).length, ?_⟩
  rw [← List.eq_replicate_of_mem zeros]
  exact List.rdropWhile_append_rtakeWhile.symm

theorem kept_eq_nil_iff : d.kept = [] ↔ d.fraction = List.replicate d.fraction.length '0' := by
  constructor
  · intro nothing
    obtain ⟨n, shape⟩ := d.exists_zeros
    rw [nothing, List.nil_append] at shape
    rw [shape, List.length_replicate]
  · intro zeros
    rw [kept, zeros, List.rdropWhile_eq_nil_iff]
    intro c inside
    simpa using (List.mem_replicate.mp inside).2

theorem tail_stops : Stops isAsciiDigit d.tail := by
  rw [tail]
  split
  · simp [Stops]
  · exact Text.stops_cons.mpr (by decide)

theorem kept_eq : d.kept = d.tail.drop 1 := by
  rw [tail]
  split
  · assumption
  · rfl

theorem compact_written : compact d.written = d.front ++ d.tail := by
  have cut : compact d.written = (d.front ++ '.' :: d.kept).rdropWhile (· == '.') :=
    congrArg (List.rdropWhile (· == '.')) (rdropWhile_point d.front d.fraction)
  rw [cut, tail]
  split
  · rename_i nothing
    rw [nothing, List.rdropWhile_concat_pos _ _ _ (by decide), List.append_nil]
    exact rdropWhile_digits d.filled d.whole_digits (signChars d.negative)
  · rename_i something
    rw [List.append_cons]
    exact rdropWhile_digits something (fun c => d.kept_digits) (d.front ++ ['.'])

/-! ## Worth -/

theorem signed_front (rest : List Char) :
    signed (d.front ++ rest) = (d.negative, d.whole ++ rest) := by
  obtain ⟨c, cs, shape⟩ := List.exists_cons_of_ne_nil d.filled
  have digit : isAsciiDigit c = true := d.whole_digits c (by simp [shape])
  rw [front, shape, List.append_assoc]
  exact signed_signChars d.negative digit (cs ++ rest)

theorem value?_point {fraction : List Char} (decimals : ∀ c ∈ fraction, isAsciiDigit c = true) :
    value? (d.front ++ '.' :: fraction) = some (d.worth fraction) := by
  simp only [value?, signed_front, number?_point d.filled d.whole_digits decimals,
    Option.map_some, worth]

theorem value?_front : value? d.front = some (d.worth []) := by
  have signed := d.signed_front []
  rw [List.append_nil, List.append_nil] at signed
  simp [value?, signed, number?_whole d.filled d.whole_digits, worth]

theorem value?_short : value? (d.front ++ d.tail) = some (d.worth d.kept) := by
  rw [tail]
  split
  · rename_i nothing
    rw [List.append_nil, value?_front, nothing]
  · exact d.value?_point fun c => d.kept_digits

theorem worth_concat_zero (fraction : List Char) :
    d.worth (fraction ++ ['0']) = d.worth fraction := by
  have digits : Nat.ofDigitChars 10 (d.whole ++ (fraction ++ ['0'])) 0 =
      10 * Nat.ofDigitChars 10 (d.whole ++ fraction) 0 := by
    rw [← List.append_assoc, Nat.ofDigitChars_append]
    rfl
  have ten : (10 : ℚ) ^ (-((fraction ++ ['0']).length : ℤ)) =
      (10 : ℚ) ^ (-(fraction.length : ℤ)) * 10⁻¹ := by
    rw [← zpow_sub_one₀ (by norm_num)]
    congr 1
    simp
    omega
  rw [worth, worth, digits, ten]
  push_cast
  ring

/-- Zeros behind the last decimal are worth nothing. -/
theorem worth_kept : d.worth d.kept = d.worth d.fraction := by
  obtain ⟨n, shape⟩ := d.exists_zeros
  rw [shape]
  clear shape
  induction n with
  | zero => simp
  | succ n ih =>
      rw [List.replicate_succ', ← List.append_assoc, worth_concat_zero]
      exact ih

theorem value?_compact : value? (compact d.written) = value? d.written := by
  rw [compact_written, value?_short, worth_kept]
  exact (d.value?_point d.fraction_digits).symm

/-! ## Telling decimals apart -/

variable {d e}

/-- Decimals with the same number of places are the same if they are so in short. -/
theorem eq_of_short (places : d.fraction.length = e.fraction.length)
    (same : d.front ++ d.tail = e.front ++ e.tail) : d.written = e.written := by
  -- the sign comes from the text: a zero is worth the same with and without it
  have signs := congrArg signed same
  rw [signed_front, signed_front, Prod.mk.injEq] at signs
  obtain ⟨sign, rest⟩ := signs
  have whole : d.whole = e.whole := by
    have runs := congrArg (List.takeWhile isAsciiDigit) rest
    rwa [Text.takeWhile_run d.whole_digits d.tail_stops,
      Text.takeWhile_run e.whole_digits e.tail_stops] at runs
  rw [whole] at rest
  have kept : d.kept = e.kept := by
    rw [kept_eq, kept_eq, List.append_cancel_left rest]
  obtain ⟨n, zeros⟩ := d.exists_zeros
  obtain ⟨m, zeros'⟩ := e.exists_zeros
  have count : n = m := by
    rw [zeros, zeros', kept] at places
    simpa using places
  rw [written, written, front, front, sign, whole, zeros, zeros', kept, count]

theorem compact_inj (places : d.fraction.length = e.fraction.length) :
    compact d.written = compact e.written ↔ d.written = e.written := by
  constructor
  · rw [compact_written, compact_written]
    exact eq_of_short places
  · exact congrArg compact

end Expansion

/-! ## Finite floats -/

open Float.Model UnpackedFloat in
/-- A finite float is taken apart as one: its exponent is not all ones. -/
theorem ofFloat_of_isFinite {x : Float} (finite : x.isFinite = true) :
    ∃ negative mantissa exponent, Binary.ofFloat x = .finite negative mantissa exponent := by
  have exponent : (@unpackExponent Format.binary64 x.toBits.toBitVec).toNat =
      x.toBits.toNat / Binary.leadingBit % 2048 := by
    simp [unpackExponent, BitVec.extractLsb_toNat, Nat.shiftRight_eq_div_pow, Binary.leadingBit]
  have proper : x.toBits.toNat / Binary.leadingBit % 2048 ≠ 2047 := by
    intro full
    have ones : @unpackExponent Format.binary64 x.toBits.toBitVec = -1#_ :=
      BitVec.eq_of_toNat_eq (exponent.trans full)
    have other : (Binary64.parts x).isFinite = false := by
      show (UnpackedFloat.unpack Format.binary64 x.toBits.toBitVec).isFinite = false
      simp only [UnpackedFloat.unpack, if_pos ones]
      split <;> rfl
    have same : (Binary64.parts x).isFinite = true := finite
    rw [other] at same
    cases same
  simp only [Binary.ofFloat, if_neg proper]
  split
  · exact ⟨_, _, _, rfl⟩
  · exact ⟨_, _, _, rfl⟩

/-- A finite float with some places is a decimal with so many digits behind its point. -/
theorem exists_expansion {x : Float} (finite : x.isFinite = true) {places : Nat}
    (some : 0 < places) :
    ∃ d : Expansion, d.fraction.length = places ∧ fixedChars places x = d.written := by
  obtain ⟨negative, mantissa, exponent, parts⟩ := ofFloat_of_isFinite finite
  generalize rounded : roundHalfEven (ratio mantissa exponent places).1
    (ratio mantissa exponent places).2 = units
  have fits : units % Nat.pow 10 places < 10 ^ places := Nat.mod_lt _ (Nat.pow_pos (by decide))
  refine ⟨{
    negative := negative
    whole := Nat.toDigits 10 (units / Nat.pow 10 places)
    fraction := Text.padded places (units % Nat.pow 10 places)
    filled := Nat.toDigits_ne_nil
    whole_digits := fun c => Text.isAsciiDigit_of_mem_toDigits
    fraction_digits := fun c => Text.padded_digits places _ }, Text.padded_length some fits, ?_⟩
  simp only [fixedChars, parts, rounded, pointed, if_neg some.ne', Expansion.written, Expansion.front,
    List.append_assoc]

end Crochet.Decimal

namespace Crochet.Svg

open Decimal (Expansion fixed value?)

theorem length_eq {x : Float} {d : Expansion} (shape : Decimal.fixedChars 2 x = d.written) :
    length x = String.ofList (d.front ++ d.tail) := by
  rw [length, shape, d.compact_written]

/-- **A length is written short, and its value is kept**, for every finite float.  With two places
it is a decimal with a sign, digits, the point and two digits.  The point and the two digits go
together if both are zeros; otherwise the point stays with one or two of them, of which the last is
not a zero; all in front of the point stays.  Both texts stand for one number, and two lengths are
written alike exactly if they are so with two places. -/
theorem length_compact {x : Float} (finite : x.isFinite = true) :
    (∃ d : Expansion, d.fraction.length = 2 ∧ fixed 2 x = String.ofList d.written ∧
      (d.fraction = ['0', '0'] → length x = String.ofList d.front) ∧
      (d.fraction ≠ ['0', '0'] → ∃ kept, kept <+: d.fraction ∧
        (kept.length = 1 ∨ kept.length = 2) ∧ kept.getLast? ≠ some '0' ∧
        length x = String.ofList (d.front ++ '.' :: kept)) ∧
      ∃ q, value? (fixed 2 x).toList = some q ∧ value? (length x).toList = some q) ∧
    ∀ y : Float, y.isFinite = true → (length x = length y ↔ fixed 2 x = fixed 2 y) := by
  obtain ⟨d, places, shape⟩ := Decimal.exists_expansion finite (by decide : 0 < 2)
  have zeros : d.kept = [] ↔ d.fraction = ['0', '0'] := by
    rw [d.kept_eq_nil_iff, places]
    rfl
  refine ⟨⟨d, places, congrArg String.ofList shape, ?_, ?_, d.worth d.fraction, ?_, ?_⟩, ?_⟩
  · intro both
    rw [length_eq shape, Expansion.tail, if_pos (zeros.mpr both), List.append_nil]
  · intro needed
    have some : d.kept ≠ [] := zeros.not.mpr needed
    have first : 0 < d.kept.length := List.length_pos_iff.mpr some
    have front : d.kept <+: d.fraction := List.rdropWhile_prefix _ _
    have room : d.kept.length ≤ 2 := places ▸ front.length_le
    refine ⟨d.kept, front, by omega, d.kept_last, ?_⟩
    rw [length_eq shape, Expansion.tail, if_neg some]
  · rw [fixed, String.toList_ofList, shape]
    exact d.value?_point d.fraction_digits
  · rw [length, String.toList_ofList, shape, d.value?_compact]
    exact d.value?_point d.fraction_digits
  · intro y finite'
    obtain ⟨e, places', shape'⟩ := Decimal.exists_expansion finite' (by decide : 0 < 2)
    rw [length, length, fixed, fixed, String.ofList_inj, String.ofList_inj, shape, shape']
    exact Expansion.compact_inj (places.trans places'.symm)

/-- The zeros of a hundred are not cut off, and what rounds to it is written like it. -/
theorem length_compact_hundred :
    let x : Float := 100
    let y : Float := 99.999
    x.isFinite = true ∧ y.isFinite = true ∧ fixed 2 x = "100.00" ∧ length x = "100" ∧
      length x = length y ∧ value? (length x).toList = value? (fixed 2 x).toList := by
  intro x y
  have finite : x.isFinite = true := by decide +kernel
  have finite' : y.isFinite = true := by decide +kernel
  have shape : fixed 2 x = "100.00" := by decide +kernel
  have shape' : fixed 2 y = "100.00" := by decide +kernel
  obtain ⟨⟨d, places, written, short, -, q, long, kept⟩, alike⟩ := length_compact finite
  have parts : d.front = "100".toList ∧ '.' :: d.fraction = ".00".toList := by
    have chars : d.front ++ '.' :: d.fraction = "100".toList ++ ".00".toList :=
      String.ofList_inj.mp (written.symm.trans shape)
    exact List.append_inj' chars (by simp [places])
  obtain ⟨whole, fraction⟩ := parts
  refine ⟨finite, finite', shape, ?_, (alike y finite').mpr (shape.trans shape'.symm),
    kept.trans long.symm⟩
  rw [short (List.cons.inj fraction).2, whole]
  rfl

/-- A length that rounds to zero keeps its sign. -/
example : [512, 1.5, 0.126, 0, -0.004].map length = ["512", "1.5", "0.13", "0", "-0"] := by
  decide +kernel

end Crochet.Svg
