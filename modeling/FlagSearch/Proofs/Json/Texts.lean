import FlagSearch.Json.Tokens
import FlagSearch.Json.Writer
import Mathlib.Tactic.IntervalCases

/-!
# Strings of JSON read back

A text is written character by character and read unit by unit: a character is one unit, whether it
stands for itself or behind a backslash, and it is put together again from that unit, since no
character is half of a surrogate pair.

* `Json.readUnits_escape` — one character.
* `Json.joinHalves_units` — the characters of the units of a text.
* `Json.readToken_quoted` — a text between its quotes.
-/

namespace FlagSearch.Json

theorem readUnits_hex4 (units : List Nat) {n : Nat} (control : n < 0x20) (rest : List Char) :
    readUnits units ('\\' :: 'u' :: (hex4 n ++ rest)) = readUnits (n :: units) rest := by
  interval_cases n <;> rfl

theorem readUnits_escape (units : List Nat) (c : Char) (rest : List Char) :
    readUnits units (escape c ++ rest) = readUnits (c.toNat :: units) rest := by
  unfold escape
  split
  next named => subst named; rfl
  split
  next named => subst named; rfl
  split
  next named => subst named; rfl
  split
  next named => subst named; rfl
  split
  next named => subst named; rfl
  split
  next named => subst named; rfl
  split
  next named => subst named; rfl
  split
  next control => exact readUnits_hex4 units control rest
  next quote backslash _ _ _ _ _ control =>
    have plain : ¬(c.toNat < 0x20 ∨ c = '\\') := not_or.2 ⟨control, backslash⟩
    rw [List.singleton_append, readUnits.eq_def]
    split
    next named => cases named
    next named => exact absurd (List.cons.inj named).1 backslash
    next named => exact absurd (List.cons.inj named).1 backslash
    next named =>
      cases named
      rw [if_neg quote, if_neg plain]

theorem readUnits_escapes (units : List Nat) (text rest : List Char) :
    readUnits units (text.flatMap escape ++ '"' :: rest) =
      some (units.reverse ++ text.map Char.toNat, rest) := by
  induction text generalizing units with
  | nil => simp [readUnits]
  | cons c text ih =>
    rw [List.flatMap_cons, List.append_assoc, readUnits_escape, ih, List.reverse_cons,
      List.append_assoc, List.map_cons, List.singleton_append]

theorem isHalf_toNat (c : Char) : isHighHalf c.toNat = false ∧ isLowHalf c.toNat = false := by
  have valid := c.valid
  simp only [UInt32.isValidChar, Nat.isValidChar, Char.toNat_val] at valid
  constructor
  · simp only [isHighHalf, Bool.and_eq_false_iff, decide_eq_false_iff_not]
    omega
  · simp only [isLowHalf, Bool.and_eq_false_iff, decide_eq_false_iff_not]
    omega

theorem joinHalves_units (text : List Char) : joinHalves (text.map Char.toNat) = some text := by
  -- The reader looks at two units at once, but joins none of these.
  induction text with
  | nil => rfl
  | cons c text ih =>
    obtain ⟨high, low⟩ := isHalf_toNat c
    cases text with
    | nil => simp [joinHalves, high, low]
    | cons next text =>
      rw [List.map_cons, List.map_cons, joinHalves, if_neg (by simp [high]),
        if_neg (by simp [low]), ← List.map_cons, ih, Option.map_some, Char.ofNat_toNat]

theorem quoted_some (text : String) :
    quoted (some text) = '"' :: (text.toList.flatMap escape ++ ['"']) :=
  rfl

theorem quoted_none : quoted none = "\"\\ud800\"".toList :=
  rfl

theorem readToken_quote (rest : List Char) :
    readToken ('"' :: rest) = (readText rest).map fun (text, rest) => (.text text, rest) :=
  rfl

theorem readToken_quoted (text : Option String) (rest : List Char) :
    readToken (quoted text ++ rest) = some (.text text, rest) := by
  cases text with
  | none =>
    have unit : hexValue4? 'd' '8' '0' '0' = some 0xD800 := by decide
    have half : isHighHalf 0xD800 = true := by decide
    simp [quoted_none, readToken_quote, readText, readUnits, unit, joinHalves, half]
  | some text =>
    have read : readText (text.toList.flatMap escape ++ '"' :: rest) = some (some text, rest) := by
      simp [readText, readUnits_escapes, joinHalves_units]
    rw [quoted_some, List.cons_append, List.append_assoc, List.singleton_append, readToken_quote,
      read, Option.map_some]

end FlagSearch.Json
