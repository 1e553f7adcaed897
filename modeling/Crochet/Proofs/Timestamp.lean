/-
# Crochet.Proofs.Timestamp -- a written timestamp is read back

The reader allows more than the writer uses.  Each of its parts is shown on
what the writer gives it: a padded number, a mark, the decimals, the zone.
Every part takes exactly what was written for it, because what follows is
never a digit and never blank.  The writer tells a second and the nanoseconds
in it, so a timestamp comes back `settled`: nanoseconds that run on are a part
of the next second, or of the leap second behind second 59.
-/
import Crochet.Timestamp.Reader
import Crochet.Proofs.Text.Cuts
import Crochet.Proofs.Text.Digits

set_option autoImplicit false

namespace Crochet.Timestamp

open Text

/-! ## Numbers and marks -/

theorem noDigit_cons {c : Char} (stop : isAsciiDigit c = false) (cs : List Char) :
    NoDigit (c :: cs) := by simpa [NoDigit] using stop

/-- A run of at most `width` digits is read whole. -/
theorem number?_digits {width : Nat} {ds rest : List Char} (nonempty : ds ≠ [])
    (digits : ∀ d ∈ ds, isAsciiDigit d = true) (fits : ds.length ≤ width)
    (stop : NoDigit rest) :
    number? width (ds ++ rest) = some (Nat.ofDigitChars 10 ds 0, rest) := by
  have taken : ((ds ++ rest).take width).takeWhile isAsciiDigit = ds := by
    rw [List.take_append, List.take_of_length_le fits]
    refine takeWhile_run digits fun c first => ?_
    cases rest with
    | nil => simp at first
    | cons d rest =>
        cases room : width - ds.length with
        | zero => simp [room] at first
        | succ n =>
            have : d = c := by simpa [room] using first
            exact stop c (by simp [this])
  obtain ⟨d, ds, rfl⟩ := List.exists_cons_of_ne_nil nonempty
  unfold number?
  rw [taken]
  simp

theorem number?_padded {width places n : Nat} {rest : List Char}
    (fits : (padded places n).length ≤ width) (stop : NoDigit rest) :
    number? width (padded places n ++ rest) = some (n, rest) := by
  rw [number?_digits (padded_ne_nil places n) (fun _ => padded_digits places n) fits stop,
    ofDigitChars_padded]

theorem trimStart_cons {c : Char} (solid : isBlank c = false) (cs : List Char) :
    trimStart (c :: cs) = c :: cs := by simp [trimStart, solid]

theorem trimStart_padded (places n : Nat) (rest : List Char) :
    trimStart (padded places n ++ rest) = padded places n ++ rest := by
  obtain ⟨d, ds, shape⟩ := List.exists_cons_of_ne_nil (padded_ne_nil places n)
  have digit : isAsciiDigit d = true := padded_digits places n (by simp [shape])
  rw [shape, List.cons_append]
  exact trimStart_cons (isBlank_of_isAsciiDigit digit) _

theorem field?_padded {low high n : Nat} {rest : List Char} (lower : low ≤ n) (upper : n ≤ high)
    (small : n < 100) (stop : NoDigit rest) :
    field? low high (padded 2 n ++ rest) = some (n, rest) := by
  have fits : (padded 2 n).length ≤ 2 := Nat.le_of_eq (padded_length (by decide) small)
  simp [field?, trimStart_padded, number?_padded fits stop, lower, upper]

theorem mark?_cons {c : Char} (solid : isBlank c = false) (rest : List Char) :
    mark? c (c :: rest) = some rest := by simp [mark?, trimStart_cons solid]

/-! ## The date -/

theorem year?_yearChars (year : Int) {rest : List Char} (stop : NoDigit rest) :
    year? (yearChars year ++ rest) = some (year, rest) := by
  have whole : number? (padded 4 year.natAbs ++ rest).length (padded 4 year.natAbs ++ rest) =
      some (year.natAbs, rest) := number?_padded (by simp) stop
  unfold yearChars
  split
  · rename_i plain
    have fits : (padded 4 year.natAbs).length ≤ 4 :=
      Nat.le_of_eq (padded_length (by decide) (by omega))
    have sign : (year.natAbs : Int) = year := by omega
    obtain ⟨d, ds, shape⟩ := List.exists_cons_of_ne_nil (padded_ne_nil 4 year.natAbs)
    have digit : isAsciiDigit d = true := padded_digits 4 year.natAbs (by simp [shape])
    have read := number?_padded fits stop
    unfold year?
    rw [trimStart_padded]
    rw [shape, List.cons_append] at read ⊢
    split
    · rename_i minus
      cases minus
      simp [isAsciiDigit] at digit
    · rename_i plus
      cases plus
      simp [isAsciiDigit] at digit
    · simp [read, sign]
  · split
    · rename_i negative
      have sign : -(year.natAbs : Int) = year := by omega
      simp only [year?, List.cons_append, trimStart_cons (c := '-') (by decide), whole]
      show some (-(year.natAbs : Int), rest) = some (year, rest)
      rw [sign]
    · rename_i negative
      have sign : (year.natAbs : Int) = year := by omega
      simp only [year?, List.cons_append, trimStart_cons (c := '+') (by decide), whole]
      show some ((year.natAbs : Int), rest) = some (year, rest)
      rw [sign]

theorem daysIn_le (year : Int) (month : Nat) : Date.daysIn year month ≤ 31 := by
  unfold Date.daysIn
  split
  · split <;> decide
  · split <;> decide

/-- The characters of a date. -/
def dateChars (d : Date) : List Char :=
  yearChars d.year ++ '-' :: padded 2 d.month ++ '-' :: padded 2 d.day

theorem date?_dateChars {d : Date} (valid : d.IsValid) {rest : List Char} (stop : NoDigit rest) :
    date? (dateChars d ++ rest) = some (d, rest) := by
  obtain ⟨-, -, monthPos, monthLe, dayPos, dayLe⟩ := id valid
  have dayMax := daysIn_le d.year d.month
  have hyphen (cs : List Char) : NoDigit ('-' :: cs) := noDigit_cons (by decide) cs
  simp only [date?, dateChars, List.append_assoc, List.cons_append]
  have day : field? 1 31 (padded 2 d.day ++ rest) = some (d.day, rest) :=
    field?_padded dayPos (by omega) (by omega) stop
  rw [year?_yearChars _ (hyphen _)]
  simp [mark?_cons (c := '-') (by decide), Date.checked?, valid, day,
    field?_padded monthPos monthLe (by omega) (hyphen _)]

/-! ## The time of day -/

theorem nano?_fractionChars {nano : Nat} (small : nano < 1000000000) {rest : List Char}
    (stop : NoDigit rest) (noPoint : rest.head? ≠ some '.') :
    nano? (fractionChars nano ++ rest) = some (nano, rest) := by
  have decimals (places value : Nat) (pos : 0 < places) (le : places ≤ 9)
      (fits : value < 10 ^ places) :
      nano? ('.' :: padded places value ++ rest) =
        some (value * Nat.pow 10 (9 - places), rest) := by
    have length := padded_length pos fits
    have read : number? 9 (padded places value ++ rest) = some (value, rest) :=
      number?_padded (by omega) stop
    have drop : ([] ++ rest).dropWhile isAsciiDigit = rest := dropWhile_run (by simp) stop
    rw [List.nil_append] at drop
    simp [nano?, read, length, drop]
  unfold fractionChars
  split
  · rename_i zero
    subst zero
    cases rest with
    | nil => rfl
    | cons c rest =>
        have notPoint : c ≠ '.' := by simpa using noPoint
        simp [nano?, notPoint]
  split
  · rename_i milli
    rw [decimals 3 _ (by decide) (by decide) (by omega)]
    simp only [Option.some.injEq, Prod.mk.injEq, and_true]
    show nano / 1000000 * 1000000 = nano
    omega
  split
  · rename_i micro
    rw [decimals 6 _ (by decide) (by decide) (by omega)]
    simp only [Option.some.injEq, Prod.mk.injEq, and_true]
    show nano / 1000 * 1000 = nano
    omega
  · rw [decimals 9 _ (by decide) (by decide) small]
    simp

theorem zone?_zulu : zone? ['Z'] = some (0, []) := by decide

/-! ## Nanoseconds that run on -/

theorem writtenSecond_le (t : Timestamp) : t.writtenSecond ≤ 60 := by
  have second := t.second_lt
  unfold writtenSecond
  split <;> omega

theorem writtenNano_lt (t : Timestamp) : t.writtenNano < 1000000000 := by
  have nano := t.nano_lt
  unfold writtenNano
  split <;> omega

/-- The timestamp as it is read back.  Nanoseconds that run on are counted into the next second,
unless that is the leap second behind second 59. -/
def settled (t : Timestamp) : Timestamp :=
  { t with
    second := if t.nano < 1000000000 ∨ t.second = 59 then t.second else t.second + 1
    nano := if t.nano < 1000000000 ∨ t.second = 59 then t.nano else t.nano - 1000000000
    second_lt := by have := t.second_lt; split <;> omega
    nano_lt := by have := t.nano_lt; split <;> omega }

theorem settled_second (t : Timestamp) :
    t.settled.second = if t.writtenSecond = 60 then 59 else t.writtenSecond := by
  have second := t.second_lt
  simp only [settled, writtenSecond]
  split_ifs <;> omega

theorem settled_nano (t : Timestamp) :
    t.settled.nano =
      if t.writtenSecond = 60 then t.writtenNano + 1000000000 else t.writtenNano := by
  have second := t.second_lt
  simp only [settled, writtenSecond, writtenNano]
  split_ifs <;> omega

theorem settled_eq_self_iff (t : Timestamp) :
    t.settled = t ↔ t.nano < 1000000000 ∨ t.second = 59 := by
  have second := t.second_lt
  constructor
  · intro same
    by_contra runs
    have moved := congrArg Timestamp.second same
    simp only [settled, if_neg runs] at moved
    omega
  · intro still
    simp only [settled, if_pos still]

/-- Settling a timestamp leaves what is written of it. -/
theorem text_settled (t : Timestamp) : t.settled.text = t.text := by
  have secondLe := t.writtenSecond_le
  have nanoLt := t.writtenNano_lt
  have second : t.settled.writtenSecond = t.writtenSecond := by
    rw [writtenSecond, settled_second, settled_nano]
    split_ifs <;> omega
  have nano : t.settled.writtenNano = t.writtenNano := by
    rw [writtenNano, settled_nano]
    split_ifs <;> omega
  simp only [text, chars, second, nano]
  rfl

/-- Without an offset nothing is shifted, and what was written is settled. -/
theorem ofLocal?_written (t : Timestamp) :
    ofLocal? t.date t.hour t.minute t.writtenSecond t.writtenNano 0 = some t.settled := by
  have hour := t.hour_lt
  have minute := t.minute_lt
  have notBefore : ¬ ((t.hour : Int) * 60 + t.minute - 0 < 0) := by omega
  have notAfter : ¬ (1440 ≤ (t.hour : Int) * 60 + t.minute - 0) := by omega
  have inDay : (((t.hour : Int) * 60 + t.minute - 0) % 1440).toNat = t.hour * 60 + t.minute := by
    omega
  have hours : (t.hour * 60 + t.minute) / 60 = t.hour := by omega
  have minutes : (t.hour * 60 + t.minute) % 60 = t.minute := by omega
  have inside : t.date.IsValid ∧ t.hour * 60 + t.minute < 1440 ∧ t.writtenSecond ≤ 60 ∧
      t.writtenNano < 1000000000 :=
    ⟨t.date_valid, by omega, t.writtenSecond_le, t.writtenNano_lt⟩
  simp only [ofLocal?, notBefore, notAfter, if_false, inDay, dif_pos inside, Option.some.injEq]
  exact Timestamp.ext rfl hours minutes t.settled_second.symm t.settled_nano.symm

theorem settled_of_ofLocal? {date : Date} {hour minute second nano : Nat} {offset : Int}
    {t : Timestamp} (made : ofLocal? date hour minute second nano offset = some t) :
    t.settled = t := by
  simp only [ofLocal?] at made
  split at made
  · cases made
  · split at made
    · rename_i inside
      obtain rfl := Option.some.inj made
      rw [settled_eq_self_iff]
      by_cases leap : second = 60
      · exact .inr (if_pos leap)
      · exact .inl (by simpa [leap] using inside.2.2.2)
    · cases made

/-- The characters of a time of day and what ends a timestamp. -/
def timeChars (t : Timestamp) : List Char :=
  padded 2 t.hour ++ ':' :: padded 2 t.minute ++ ':' :: padded 2 t.writtenSecond ++
    fractionChars t.writtenNano ++ ['Z']

/-- **A written timestamp is read back settled.** -/
theorem ofString?_text (t : Timestamp) : ofString? t.text = some t.settled := by
  have colon (cs : List Char) : NoDigit (':' :: cs) := noDigit_cons (by decide) cs
  have zulu : NoDigit ['Z'] := noDigit_cons (by decide) []
  have noPoint : NoDigit (fractionChars t.writtenNano ++ ['Z']) := by
    unfold fractionChars
    split
    · exact zulu
    · split_ifs <;> exact noDigit_cons (by decide) _
  have shape : t.chars = dateChars t.date ++ 'T' :: timeChars t := by
    simp [chars, dateChars, timeChars]
  have hour := t.hour_lt
  have minute := t.minute_lt
  have second := t.writtenSecond_le
  have day : date? (dateChars t.date ++ 'T' :: timeChars t) = some (t.date, 'T' :: timeChars t) :=
    date?_dateChars t.date_valid (noDigit_cons (by decide) _)
  have decimals := nano?_fractionChars t.writtenNano_lt zulu (by decide)
  have nothing : trimStart [] = [] := rfl
  simp only [ofString?, ofChars?, text, String.toList_ofList, shape, day]
  simp [timeChars, separator?, mark?_cons (c := ':') (by decide), zone?_zulu, ofLocal?_written,
    decimals, nothing, trimStart_cons (c := 'Z') (by decide),
    field?_padded (Nat.zero_le t.hour) (Nat.le_of_lt_succ hour) (by omega) (colon _),
    field?_padded (Nat.zero_le t.minute) (Nat.le_of_lt_succ minute) (by omega) (colon _),
    field?_padded (Nat.zero_le t.writtenSecond) second (by omega) noPoint]

/-- Whatever is read is settled. -/
theorem settled_of_ofString? {text : String} {t : Timestamp} (read : ofString? text = some t) :
    t.settled = t := by
  simp only [ofString?, ofChars?, Option.bind_eq_bind, Option.bind_eq_some_iff] at read
  -- one value for each part that is read; the last part is the end of the text
  obtain ⟨⟨date, _⟩, -, _, -, ⟨hour, _⟩, -, _, -, ⟨minute, _⟩, -, _, -, ⟨second, _⟩, -, ⟨nano, _⟩, -,
    ⟨offset, _⟩, -, _, -, made⟩ := read
  exact settled_of_ofLocal? made

end Crochet.Timestamp
