import FlagSearch.Json.Tokens
import FlagSearch.Json.Writer
import Mathlib.Data.List.TakeWhile
import Mathlib.Tactic.IntervalCases

/-!
# Numbers of JSON read back

A number is read as it was written, digit by digit, as long as nothing comes after it that could
belong to it.  That leaves what the digits stand for: a natural number is read as itself, up to 64
bits, and what a binary64 number is read as is a fact about its digits alone.

* `Numeral.WellFormed` — the numbers that JSON can write.
* `Json.readToken_numeral` — a number is read as it was written.
* `Numeral.nat?_ofNat` — the value of a natural number.
* `Numeral.wellFormed_ofNat`, `Json.wellFormed_numeralOf` — what the writer makes of numbers.
-/

namespace FlagSearch

def Digits (cs : List Char) : Prop := cs ≠ [] ∧ ∀ c ∈ cs, c.isDigit = true

structure Exponent.WellFormed (exponent : Exponent) : Prop where
  mark : exponent.mark = 'e' ∨ exponent.mark = 'E'
  sign : ∀ sign ∈ exponent.sign, sign = '+' ∨ sign = '-'
  digits : Digits exponent.digits

structure Numeral.WellFormed (numeral : Numeral) : Prop where
  whole : Digits numeral.whole
  leading : numeral.whole = ['0'] ∨ numeral.whole.head? ≠ some '0'
  fraction : ∀ c ∈ numeral.fraction, c.isDigit = true
  exponent : ∀ exponent ∈ numeral.exponent, exponent.WellFormed

def fractionText (fraction : List Char) : List Char :=
  if fraction = [] then [] else '.' :: fraction

def exponentText : Option Exponent → List Char
  | some exponent => exponent.text
  | none => []

theorem Numeral.text_eq (numeral : Numeral) :
    numeral.text = (if numeral.negative then ['-'] else []) ++
      (numeral.whole ++ (fractionText numeral.fraction ++ exponentText numeral.exponent)) := by
  obtain ⟨negative, whole, fraction, _ | exponent⟩ := numeral
  · simp [Numeral.text, fractionText, exponentText]
  · simp [Numeral.text, fractionText, exponentText]

namespace Json

/-! ## What may follow a number -/

def EndsDigits (rest : List Char) : Prop := ∀ c ∈ rest.head?, c.isDigit = false

/-- The text does not go on with anything that a number may go on with. -/
def EndsNumber (rest : List Char) : Prop :=
  ∀ c ∈ rest.head?, c.isDigit = false ∧ c ≠ '.' ∧ c ≠ 'e' ∧ c ≠ 'E'

theorem EndsNumber.endsDigits {rest : List Char} (ends : EndsNumber rest) : EndsDigits rest :=
  fun c first => (ends c first).1

theorem EndsNumber.nil : EndsNumber [] := by
  simp [EndsNumber]

/-! ## The parts of a number -/

variable {rest : List Char}

theorem readDigits_append {digits : List Char} (isDigits : Digits digits)
    (ends : EndsDigits rest) : readDigits (digits ++ rest) = some (digits, rest) := by
  obtain ⟨nonempty, all⟩ := isDigits
  have taken : (digits ++ rest).takeWhile Char.isDigit = digits := by
    rw [List.takeWhile_append_of_pos all]
    cases rest with
    | nil => simp
    | cons c rest => simp [ends c rfl]
  have dropped : (digits ++ rest).dropWhile Char.isDigit = rest := by
    rw [List.dropWhile_append_of_pos all]
    cases rest with
    | nil => rfl
    | cons c rest => simp [ends c rfl]
  unfold readDigits
  rw [taken, dropped]
  split
  next => exact absurd rfl nonempty
  · rfl

theorem readWhole_append {whole : List Char} (isDigits : Digits whole)
    (leading : whole = ['0'] ∨ whole.head? ≠ some '0') (ends : EndsDigits rest) :
    readWhole (whole ++ rest) = some (whole, rest) := by
  rcases leading with rfl | leading
  · rfl
  · rw [← readDigits_append isDigits ends]
    cases whole with
    | nil => exact absurd rfl isDigits.1
    | cons c whole =>
      rw [readWhole.eq_def]
      split
      next zero => exact absurd (congrArg List.head? zero) leading
      · rfl

theorem readFraction_append {fraction : List Char} (all : ∀ c ∈ fraction, c.isDigit = true)
    (ends : EndsDigits rest) (noPoint : rest.head? ≠ some '.') :
    readFraction (fractionText fraction ++ rest) = some (fraction, rest) := by
  unfold fractionText
  by_cases none : fraction = []
  · subst none
    rw [if_pos rfl, List.nil_append, readFraction.eq_def]
    split
    next => exact absurd rfl noPoint
    · rfl
  · rw [if_neg none, List.cons_append, readFraction, readDigits_append ⟨none, all⟩ ends]

theorem readSigned_append {mark : Char} {sign : Option Char} {digits : List Char}
    (signs : ∀ c ∈ sign, c = '+' ∨ c = '-') (isDigits : Digits digits) (ends : EndsDigits rest) :
    readSigned mark (sign.toList ++ digits ++ rest) = some (some ⟨mark, sign, digits⟩, rest) := by
  have read (sign : Option Char) :
      readExponentDigits mark sign (digits ++ rest) = some (some ⟨mark, sign, digits⟩, rest) := by
    rw [readExponentDigits, readDigits_append isDigits ends, Option.map_some]
  cases sign with
  | none =>
    obtain ⟨nonempty, all⟩ := isDigits
    obtain ⟨c, digits, rfl⟩ := List.exists_cons_of_ne_nil nonempty
    have digit := all c List.mem_cons_self
    rw [Option.toList_none, List.nil_append, readSigned.eq_def]
    split
    next plus => cases plus; cases digit
    next minus => cases minus; cases digit
    · exact read none
  | some sign =>
    rcases signs sign rfl with rfl | rfl
    · exact read (some '+')
    · exact read (some '-')

theorem readExponent_append {exponent : Option Exponent}
    (wellFormed : ∀ e ∈ exponent, e.WellFormed) (ends : EndsNumber rest) :
    readExponent (exponentText exponent ++ rest) = some (exponent, rest) := by
  cases exponent with
  | none =>
    rw [exponentText, List.nil_append, readExponent.eq_def]
    split
    next => exact absurd rfl (ends 'e' rfl).2.2.1
    next => exact absurd rfl (ends 'E' rfl).2.2.2
    · rfl
  | some e =>
    obtain ⟨mark, sign, digits⟩ := e
    obtain ⟨marks, signs, isDigits⟩ := wellFormed _ rfl
    rcases marks with rfl | rfl
    · exact readSigned_append signs isDigits ends.endsDigits
    · exact readSigned_append signs isDigits ends.endsDigits

/-! ## Whole numbers -/

theorem endsDigits_exponentText {exponent : Option Exponent}
    (wellFormed : ∀ e ∈ exponent, e.WellFormed) (ends : EndsNumber rest) :
    EndsDigits (exponentText exponent ++ rest) ∧
      (exponentText exponent ++ rest).head? ≠ some '.' := by
  cases exponent with
  | none => exact ⟨ends.endsDigits, fun point => (ends '.' point).2.1 rfl⟩
  | some e =>
    obtain ⟨mark, sign, digits⟩ := e
    rcases (wellFormed _ rfl).mark with rfl | rfl
    · simp [exponentText, Exponent.text, EndsDigits]
    · simp [exponentText, Exponent.text, EndsDigits]

theorem endsDigits_fractionText {fraction : List Char} (ends : EndsDigits rest) :
    EndsDigits (fractionText fraction ++ rest) := by
  unfold fractionText
  split
  · exact ends
  · simp [EndsDigits]

theorem readNumeral_text {numeral : Numeral} (wellFormed : numeral.WellFormed)
    (ends : EndsNumber rest) : readNumeral (numeral.text ++ rest) = some (numeral, rest) := by
  obtain ⟨negative, whole, fraction, exponent⟩ := numeral
  obtain ⟨digits, leading, places, powers⟩ := wellFormed
  obtain ⟨endsPlaces, noPoint⟩ := endsDigits_exponentText powers ends
  have unsigned : readUnsigned negative
      (whole ++ (fractionText fraction ++ exponentText exponent) ++ rest) =
        some (⟨negative, whole, fraction, exponent⟩, rest) := by
    rw [readUnsigned, List.append_assoc, List.append_assoc,
      readWhole_append digits leading (endsDigits_fractionText endsPlaces)]
    simp [readFraction_append places endsPlaces noPoint, readExponent_append powers ends]
  rw [Numeral.text_eq]
  cases negative with
  | true => exact unsigned
  | false =>
    obtain ⟨c, whole, rfl⟩ := List.exists_cons_of_ne_nil digits.1
    have digit := digits.2 c List.mem_cons_self
    rw [← unsigned, if_neg Bool.false_ne_true, List.nil_append, List.cons_append,
      List.cons_append, readNumeral.eq_def]
    split
    next minus => cases minus; cases digit
    · rfl

theorem readToken_of_start {c : Char} (start : c = '-' ∨ c.isDigit = true) (rest : List Char) :
    readToken (c :: rest) =
      (readNumeral (c :: rest)).map fun (numeral, rest) => (.scalar (.number numeral), rest) := by
  rw [readToken.eq_def]
  split
  all_goals first
    | next other =>
        cases other
        exact absurd start (by decide)
    | rfl

theorem exists_start {numeral : Numeral} (wellFormed : numeral.WellFormed) :
    ∃ c cs, numeral.text = c :: cs ∧ (c = '-' ∨ c.isDigit = true) := by
  obtain ⟨nonempty, all⟩ := wellFormed.whole
  obtain ⟨c, whole, first⟩ := List.exists_cons_of_ne_nil nonempty
  rw [Numeral.text_eq, first]
  cases numeral.negative with
  | true => exact ⟨_, _, rfl, .inl rfl⟩
  | false => exact ⟨_, _, rfl, .inr (all c (first ▸ List.mem_cons_self))⟩

theorem readToken_numeral {numeral : Numeral} (wellFormed : numeral.WellFormed)
    (ends : EndsNumber rest) :
    readToken (numeral.text ++ rest) = some (.scalar (.number numeral), rest) := by
  have read := readNumeral_text wellFormed ends
  obtain ⟨c, cs, text, start⟩ := exists_start wellFormed
  rw [text, List.cons_append] at read ⊢
  rw [readToken_of_start start, read, Option.map_some]

end Json

/-! ## Natural numbers -/

theorem digits_toDigits (n : Nat) : Digits (Nat.toDigits 10 n) :=
  ⟨Nat.toDigits_ne_nil, fun _ => Nat.isDigit_of_mem_toDigits (by decide) (by decide)⟩

theorem head?_toDigits {n : Nat} (positive : 0 < n) : (Nat.toDigits 10 n).head? ≠ some '0' := by
  induction n using Nat.strongRecOn with
  | ind n ih =>
    rw [Nat.toDigits_eq_if (by decide)]
    split
    next small => interval_cases n <;> decide
    next large =>
      have shorter := ih (n / 10) (by omega) (by omega)
      obtain ⟨c, cs, digits⟩ := List.exists_cons_of_ne_nil (digits_toDigits (n / 10)).1
      rw [digits] at shorter ⊢
      exact shorter

theorem digitsValue_toDigits (n : Nat) : digitsValue (Nat.toDigits 10 n) = n :=
  Nat.ofDigitChars_ten_toDigits

namespace Numeral

theorem leading_toDigits (n : Nat) :
    Nat.toDigits 10 n = ['0'] ∨ (Nat.toDigits 10 n).head? ≠ some '0' := by
  rcases Nat.eq_zero_or_pos n with rfl | positive
  · exact .inl rfl
  · exact .inr (head?_toDigits positive)

theorem wellFormed_ofNat (n : Nat) : (ofNat n).WellFormed where
  whole := digits_toDigits n
  leading := leading_toDigits n
  fraction := by simp [ofNat]
  exponent := by simp [ofNat]

theorem nat?_ofNat {n : Nat} (fits : n < wordLimit) : (ofNat n).nat? = some n := by
  simp [nat?, ofNat, digitsValue_toDigits, fits]

end Numeral

/-! ## Binary64 numbers -/

namespace Json

theorem wellFormed_exponentOf (value : Int) : (exponentOf value).WellFormed where
  mark := .inl rfl
  sign := by
    rintro sign ⟨⟩
    split <;> simp
  digits := digits_toDigits _

theorem wellFormed_layout (negative : Bool) {digits : List Char} (isDigits : Digits digits)
    (leading : digits.head? ≠ some '0') (point : Int) :
    (layout negative digits point).WellFormed := by
  obtain ⟨nonempty, all⟩ := isDigits
  obtain ⟨c, rest, rfl⟩ := List.exists_cons_of_ne_nil nonempty
  have first := all c List.mem_cons_self
  have later : ∀ c ∈ rest, c.isDigit = true := fun d among => all d (List.mem_cons_of_mem _ among)
  have zero : ∀ n, ∀ d ∈ List.replicate n '0', d.isDigit = true := by
    simp +contextual [List.mem_replicate]
  unfold layout
  split
  · have exponent : ∀ e ∈ some (exponentOf (point - 1)), e.WellFormed := by
      rintro e ⟨⟩
      exact wellFormed_exponentOf _
    exact ⟨⟨by simp, by simpa using first⟩, .inr leading, later, exponent⟩
  split
  · have fraction : ∀ n, ∀ d ∈ List.replicate n '0' ++ c :: rest, d.isDigit = true :=
      fun n d among => (List.mem_append.1 among).elim (zero n d) (all d)
    exact ⟨⟨by simp, by simp⟩, .inl rfl, fraction _, by simp⟩
  · obtain ⟨width, wide⟩ : ∃ width, point.toNat = width + 1 := ⟨point.toNat - 1, by omega⟩
    have whole : ∀ n, ∀ d ∈ c :: rest.take width ++ List.replicate n '0', d.isDigit = true := by
      intro n d among
      rcases List.mem_append.1 among with taken | padded
      · exact all d (List.take_subset (width + 1) (c :: rest) taken)
      · exact zero n d padded
    simp only [wide, List.take_succ_cons, List.drop_succ_cons]
    refine ⟨⟨by simp, whole _⟩, .inr leading, ?_, by simp⟩
    split
    · simp
    · exact fun d among => later d (List.drop_subset _ _ among)

theorem wellFormed_numeralOf (x : Binary64) : (numeralOf x).WellFormed := by
  simp only [numeralOf]
  split
  next => exact ⟨⟨by simp, by simp⟩, .inl rfl, by simp, by simp⟩
  next nonzero =>
    exact wellFormed_layout _ (digits_toDigits _) (head?_toDigits (Nat.pos_of_ne_zero nonzero)) _

end Json

end FlagSearch
