import FlagSearch.Proofs.Json.Documents

/-!
# Documents on one line read back

A document on one line spells the same tokens as over several lines, with no blank between them.

* `Json.legible_compact` — the text of a document spells its tokens.
* `Json.parse?_compact` — a document is read back from its text.
-/

namespace FlagSearch.Json

theorem compactItems_eq (items : List Json) : compactItems items = items.map compactChars := by
  induction items with
  | nil => rfl
  | cons item items ih => rw [compactItems, ih, List.map_cons]

theorem compactMembers_eq (members : List (Option String × Json)) :
    compactMembers members =
      members.map fun member => quoted member.1 ++ ':' :: member.2.compactChars := by
  induction members with
  | nil => rfl
  | cons member members ih => rw [compactMembers, ih, List.map_cons]

theorem Legible.memberOnLine {member : Option String × Json}
    (legible : Legible compactChars tokens member.2) :
    Legible (fun member => quoted member.1 ++ ':' :: member.2.compactChars)
      (fun member => .text member.1 :: .colon :: member.2.tokens) member := by
  intro cs ts ends spells
  have colon : Spells (':' :: (member.2.compactChars ++ cs)) (.colon :: (member.2.tokens ++ ts)) :=
    .token rfl rfl (Nat.le_refl _) (legible cs ts ends spells)
  simpa using colon.quoted member.1

theorem legible_compact {json : Json} (wellFormed : WellFormed json) :
    Legible compactChars tokens json := by
  have bracket (cs : List Char) : EndsNumber (']' :: cs) := by simp [EndsNumber]
  have brace (cs : List Char) : EndsNumber ('\x7d' :: cs) := by simp [EndsNumber]
  induction wellFormed with
  | null => exact fun cs ts _ spells => spells.word ['u', 'l', 'l'] rfl rfl
  | bool b =>
    cases b with
    | true => exact fun cs ts _ spells => spells.word ['r', 'u', 'e'] rfl rfl
    | false => exact fun cs ts _ spells => spells.word ['a', 'l', 's', 'e'] rfl rfl
  | number wellFormed => exact fun cs ts ends spells => spells.numeral ends wellFormed
  | string text => exact fun cs ts _ spells => spells.quoted text
  | @array items _ ih =>
    intro cs ts _ spells
    have close : Spells (']' :: cs) (.closeArray :: ts) := .token rfl rfl (Nat.le_refl _) spells
    have inside := Legible.separated ih _ _ (bracket cs) close
    simp only [compactChars, tokens, compactItems_eq, itemTokens_eq, List.append_assoc,
      List.cons_append, List.nil_append]
    exact .token rfl rfl (Nat.le_refl _) inside
  | @object members _ ih =>
    intro cs ts _ spells
    have close : Spells ('\x7d' :: cs) (.closeObject :: ts) := .token rfl rfl (Nat.le_refl _) spells
    have legible := fun part among => (ih part among).memberOnLine
    have inside := Legible.separated legible _ _ (brace cs) close
    simp only [compactChars, tokens, compactMembers_eq, memberTokens_eq, List.append_assoc,
      List.cons_append, List.nil_append]
    exact .token rfl rfl (Nat.le_refl _) inside

theorem parse?_compact {json : Json} (wellFormed : WellFormed json) :
    parse? json.compact = some json := by
  have spells := legible_compact wellFormed [] [] .nil .nil
  rw [List.append_nil, List.append_nil] at spells
  exact parse?_of_spells wellFormed spells

end FlagSearch.Json
