import FlagSearch.Text.Digits
import FlagSearch.Text.Quoted

/-!
# Quoted characters read back

A character between single quotes may be shown by a letter, by itself behind a backslash, by its
number or as it is, and it can be told from what is shown which character it was.

* `Text.ofDigits_hex` — hexadecimal digits stand for the number they were made of.
* `Text.pointOf`, `Text.pointOf_escape` — the code point that is shown.
* `Text.character_injective` — no two characters look the same.
-/

namespace FlagSearch.Text

theorem digitValue_digitChar : ∀ digit < 16, digitValue (Nat.digitChar digit) = digit := by decide

theorem ofDigits_hex (n : Nat) : ofDigits 16 (hex n) = n := by
  unfold hex
  induction n using Nat.strongRecOn with
  | ind n ih =>
    rw [Nat.toDigits_eq_if (by decide)]
    split
    next small => simp [ofDigits, digitValue_digitChar n small]
    next large =>
      have front := ih (n / 16) (by omega)
      have last := digitValue_digitChar (n % 16) (Nat.mod_lt _ (by decide))
      unfold ofDigits at front ⊢
      rw [List.foldl_append, front, List.foldl_cons, List.foldl_nil, last]
      omega

def pointOf : List Char → Nat
  | [c] => c.toNat
  | ['\\', '0'] => 0
  | ['\\', 't'] => '\t'.toNat
  | ['\\', 'r'] => '\r'.toNat
  | ['\\', 'n'] => '\n'.toNat
  | ['\\', c] => c.toNat
  | '\\' :: 'u' :: '\x7b' :: rest => ofDigits 16 rest.dropLast
  | _ => 0

theorem pointOf_escape (c : Char) : pointOf (escape '\'' c) = c.toNat := by
  unfold escape
  split
  next named => subst named; rfl
  split
  next named => subst named; rfl
  split
  next named => subst named; rfl
  split
  next named => subst named; rfl
  split
  next marked => rcases marked with rfl | rfl <;> rfl
  split
  next unseen =>
    have rest : pointOf (['\\', 'u', '\x7b'] ++ hex c.toNat ++ ['\x7d']) =
        ofDigits 16 (hex c.toNat ++ ['\x7d']).dropLast := rfl
    rw [rest, List.dropLast_concat, ofDigits_hex]
  next => rfl

theorem character_injective {c d : Char} (same : character c = character d) : c = d := by
  have shown : escape '\'' c = escape '\'' d := by
    have texts := congrArg String.toList same
    simpa [character, quoted] using texts
  apply Char.toNat_inj.1
  rw [← pointOf_escape c, shown, pointOf_escape]

end FlagSearch.Text
