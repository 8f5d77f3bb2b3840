import FlagSearch.Json.Reader
import FlagSearch.Proofs.Json.Numbers
import FlagSearch.Proofs.Json.Texts

/-!
# Documents of JSON read back

Between a document and its text stand the tokens.  The text of a document spells its tokens, with
blanks between them, and the reader goes over the tokens of a document as it goes over one value.

* `Json.WellFormed` — the documents that JSON can write.
* `Json.tokens` — the tokens of a document.
* `Json.Spells`, `Json.tokens?_of_spells` — texts and their tokens.
* `Json.legible_pretty` — the text of a document spells its tokens.
* `Json.readValue_tokens` — the reader goes over the tokens of a document.
* `Json.parse?_pretty` — a document is read back from its text.
-/

namespace FlagSearch.Json

/-- A document whose numbers JSON can write. -/
inductive WellFormed : Json → Prop where
  | null : WellFormed null
  | bool (b : Bool) : WellFormed (bool b)
  | number {n : Numeral} (wellFormed : n.WellFormed) : WellFormed (number n)
  | string (text : Option String) : WellFormed (string text)
  | array {items : List Json} (all : ∀ item ∈ items, WellFormed item) : WellFormed (array items)
  | object {members : List (Option String × Json)}
      (all : ∀ member ∈ members, WellFormed member.2) : WellFormed (object members)

def separated : List (List Token) → List Token
  | [] => []
  | first :: rest => first ++ rest.flatMap (.comma :: ·)

mutual

def tokens : Json → List Token
  | null => [.scalar null]
  | bool b => [.scalar (bool b)]
  | number n => [.scalar (number n)]
  | string text => [.text text]
  | array items => .openArray :: separated (itemTokens items) ++ [.closeArray]
  | object members => .openObject :: separated (memberTokens members) ++ [.closeObject]

def itemTokens : List Json → List (List Token)
  | [] => []
  | item :: rest => item.tokens :: itemTokens rest

def memberTokens : List (Option String × Json) → List (List Token)
  | [] => []
  | (key, value) :: rest => (.text key :: .colon :: value.tokens) :: memberTokens rest

end

theorem itemTokens_eq (items : List Json) : itemTokens items = items.map tokens := by
  induction items with
  | nil => rfl
  | cons item items ih => rw [itemTokens, ih, List.map_cons]

theorem memberTokens_eq (members : List (Option String × Json)) :
    memberTokens members =
      members.map fun member => .text member.1 :: .colon :: member.2.tokens := by
  induction members with
  | nil => rfl
  | cons member members ih => rw [memberTokens, ih, List.map_cons]

/-! ## Texts and their tokens -/

/-- `Spells cs ts`: the tokens of the text `cs` are `ts`. -/
inductive Spells : List Char → List Token → Prop where
  | nil : Spells [] []
  | blank {c : Char} {cs : List Char} {ts : List Token} (blank : isBlank c = true)
      (rest : Spells cs ts) : Spells (c :: cs) ts
  | token {c : Char} {cs rest : List Char} {t : Token} {ts : List Token}
      (visible : isBlank c = false) (read : readToken (c :: cs) = some (t, rest))
      (shorter : rest.length ≤ cs.length) (spells : Spells rest ts) : Spells (c :: cs) (t :: ts)

theorem scan_of_spells {cs : List Char} {ts : List Token} (spells : Spells cs ts)
    (seen : List Token) {fuel : Nat} (enough : cs.length ≤ fuel) :
    scan seen fuel cs = some (seen.reverse ++ ts) := by
  -- One round takes a blank or a whole token, so the fuel outlasts the characters.
  induction spells generalizing seen fuel with
  | nil => simp [scan]
  | blank blank _ ih =>
    cases fuel with
    | zero => cases enough
    | succ fuel =>
      rw [scan, if_pos blank]
      exact ih seen (Nat.le_of_succ_le_succ enough)
  | token visible read shorter _ ih =>
    cases fuel with
    | zero => cases enough
    | succ fuel =>
      rw [scan, if_neg (by simp [visible]), read]
      simp only
      rw [ih _ (shorter.trans (Nat.le_of_succ_le_succ enough)), List.reverse_cons,
        List.append_assoc, List.singleton_append]

theorem tokens?_of_spells {text : List Char} {ts : List Token} (spells : Spells text ts) :
    tokens? text = some ts :=
  scan_of_spells spells [] (Nat.le_refl _)

section

variable {cs : List Char} {ts : List Token}

theorem Spells.lineBreak (spells : Spells cs ts) (depth : Nat) :
    Spells (lineBreak depth ++ cs) ts := by
  refine .blank rfl ?_
  induction 2 * depth with
  | zero => exact spells
  | succ n ih => exact .blank rfl ih

theorem Spells.word (spells : Spells cs ts) {c : Char} (inside : List Char) {t : Token}
    (visible : isBlank c = false) (read : readToken (c :: (inside ++ cs)) = some (t, cs)) :
    Spells (c :: (inside ++ cs)) (t :: ts) :=
  .token visible read (by simp) spells

theorem Spells.quoted (spells : Spells cs ts) (text : Option String) :
    Spells (quoted text ++ cs) (.text text :: ts) := by
  have read := readToken_quoted text cs
  obtain ⟨inside, shape⟩ : ∃ inside, Json.quoted text = '"' :: inside := by
    cases text with
    | none => exact ⟨_, rfl⟩
    | some text => exact ⟨_, rfl⟩
  rw [shape] at read ⊢
  exact spells.word inside rfl read

theorem Spells.numeral (spells : Spells cs ts) (ends : EndsNumber cs) {n : Numeral}
    (wellFormed : n.WellFormed) : Spells (n.text ++ cs) (.scalar (.number n) :: ts) := by
  have read := readToken_numeral wellFormed ends
  obtain ⟨c, inside, shape, start⟩ := exists_start wellFormed
  rw [shape] at read ⊢
  have visible : isBlank c = false := by
    rw [Bool.eq_false_iff]
    intro blank
    simp only [isBlank, Bool.or_eq_true, beq_iff_eq] at blank
    rcases blank with ((rfl | rfl) | rfl) | rfl <;> revert start <;> decide
  exact spells.word inside visible read

end

/-! ## The tokens of a document in its text -/

/-- Wherever it stands, what is written of `part` spells the tokens that stand for it. -/
def Legible {α : Type} (write : α → List Char) (words : α → List Token) (part : α) : Prop :=
  ∀ cs ts, EndsNumber cs → Spells cs ts → Spells (write part ++ cs) (words part ++ ts)

theorem commaSeparated_cons (first : List Char) (rest : List (List Char)) :
    commaSeparated (first :: rest) = first ++ rest.flatMap (',' :: ·) := by
  induction rest generalizing first with
  | nil => simp [commaSeparated]
  | cons next rest ih => rw [commaSeparated, ih, List.flatMap_cons, List.cons_append]

section

variable {α : Type} {write : α → List Char} {words : α → List Token} {parts : List α}

theorem endsNumber_flatMap_comma {rest : List Char} (texts : List (List Char))
    (ends : EndsNumber rest) : EndsNumber (texts.flatMap (',' :: ·) ++ rest) := by
  cases texts with
  | nil => exact ends
  | cons => simp [EndsNumber]

theorem Legible.flatMap_comma (legible : ∀ part ∈ parts, Legible write words part) :
    Legible (fun parts => (parts.map write).flatMap (',' :: ·))
      (fun parts => (parts.map words).flatMap (.comma :: ·)) parts := by
  intro cs ts ends spells
  -- A part that is a number ends at the next comma, or at what comes after all parts.
  induction parts with
  | nil => exact spells
  | cons part parts ih =>
    obtain ⟨first, others⟩ := List.forall_mem_cons.1 legible
    have spelled := first _ _ (endsNumber_flatMap_comma _ ends) (ih others)
    simp only [List.map_cons, List.flatMap_cons, List.cons_append, List.append_assoc]
    exact .token rfl rfl (Nat.le_refl _) spelled

theorem Legible.separated (legible : ∀ part ∈ parts, Legible write words part) :
    Legible (fun parts => commaSeparated (parts.map write))
      (fun parts => separated (parts.map words)) parts := by
  intro cs ts ends spells
  cases parts with
  | nil => exact spells
  | cons part parts =>
    obtain ⟨first, others⟩ := List.forall_mem_cons.1 legible
    have later := Legible.flatMap_comma others cs ts ends spells
    simp only [List.map_cons, commaSeparated_cons, Json.separated, List.append_assoc]
    exact first _ _ (endsNumber_flatMap_comma _ ends) later

end

theorem prettyItems_eq (depth : Nat) (items : List Json) :
    prettyItems depth items = items.map fun item => lineBreak depth ++ item.prettyChars depth := by
  induction items with
  | nil => rfl
  | cons item items ih => rw [prettyItems, ih, List.map_cons]

theorem prettyMembers_eq (depth : Nat) (members : List (Option String × Json)) :
    prettyMembers depth members = members.map fun member =>
      lineBreak depth ++ (quoted member.1 ++ ':' :: ' ' :: member.2.prettyChars depth) := by
  induction members with
  | nil => rfl
  | cons member members ih => rw [prettyMembers, ih, List.map_cons, List.append_assoc]

theorem Legible.lineBreak {α : Type} {write : α → List Char} {words : α → List Token} {part : α}
    (legible : Legible write words part) (depth : Nat) :
    Legible (fun part => Json.lineBreak depth ++ write part) words part := by
  intro cs ts ends spells
  simp only [List.append_assoc]
  exact (legible cs ts ends spells).lineBreak depth

theorem Legible.member {depth : Nat} {member : Option String × Json}
    (legible : Legible (prettyChars depth) tokens member.2) :
    Legible (fun member => quoted member.1 ++ ':' :: ' ' :: member.2.prettyChars depth)
      (fun member => .text member.1 :: .colon :: member.2.tokens) member := by
  intro cs ts ends spells
  have colon : Spells (':' :: ' ' :: (member.2.prettyChars depth ++ cs))
      (.colon :: (member.2.tokens ++ ts)) :=
    .token rfl rfl (Nat.le_refl _) (.blank rfl (legible cs ts ends spells))
  simpa using colon.quoted member.1

theorem legible_pretty {json : Json} (wellFormed : WellFormed json) (depth : Nat) :
    Legible (prettyChars depth) tokens json := by
  have ends (depth : Nat) (c : Char) (cs : List Char) :
      EndsNumber (lineBreak depth ++ c :: cs) := by
    simp [EndsNumber, lineBreak]
  induction wellFormed generalizing depth with
  | null => exact fun cs ts _ spells => spells.word ['u', 'l', 'l'] rfl rfl
  | bool b =>
    cases b with
    | true => exact fun cs ts _ spells => spells.word ['r', 'u', 'e'] rfl rfl
    | false => exact fun cs ts _ spells => spells.word ['a', 'l', 's', 'e'] rfl rfl
  | number wellFormed => exact fun cs ts ends spells => spells.numeral ends wellFormed
  | string text => exact fun cs ts _ spells => spells.quoted text
  | @array items _ ih =>
    intro cs ts _ spells
    have close : Spells (']' :: cs) (.closeArray :: ts) := .token rfl rfl (Nat.le_refl _) spells
    cases items with
    | nil => exact .token rfl rfl (Nat.le_refl _) close
    | cons item items =>
      have legible := fun part among => (ih part among (depth + 1)).lineBreak (depth + 1)
      have inside := Legible.separated legible _ _ (ends depth _ _) (close.lineBreak depth)
      simp only [prettyChars, tokens, prettyItems_eq, itemTokens_eq, List.append_assoc,
        List.cons_append, List.nil_append]
      exact .token rfl rfl (Nat.le_refl _) inside
  | @object members _ ih =>
    intro cs ts _ spells
    have close : Spells ('\x7d' :: cs) (.closeObject :: ts) := .token rfl rfl (Nat.le_refl _) spells
    cases members with
    | nil => exact .token rfl rfl (Nat.le_refl _) close
    | cons member members =>
      have legible := fun part among => (ih part among (depth + 1)).member.lineBreak (depth + 1)
      have inside := Legible.separated legible _ _ (ends depth _ _) (close.lineBreak depth)
      simp only [prettyChars, tokens, prettyMembers_eq, memberTokens_eq, List.append_assoc,
        List.cons_append, List.nil_append]
      exact .token rfl rfl (Nat.le_refl _) inside

/-! ## The reader -/

theorem readValue_openArray (stack : List Frame) (first : Json) (rest : List Token) :
    readValue stack (.openArray :: (first.tokens ++ rest)) =
      readValue (.items [] :: stack) (first.tokens ++ rest) := by
  cases first <;> rfl

theorem readAfter_items {items : List Json}
    (read : ∀ item ∈ items, ∀ stack rest,
      readValue stack (item.tokens ++ rest) = readAfter item stack rest)
    (item : Json) (seen : List Json) (stack : List Frame) (rest : List Token) :
    readAfter item (.items seen :: stack)
        ((items.map tokens).flatMap (.comma :: ·) ++ .closeArray :: rest) =
      readAfter (.array (seen.reverse ++ item :: items)) stack rest := by
  induction items generalizing item seen with
  | nil => simp [readAfter]
  | cons next items ih =>
    obtain ⟨first, others⟩ := List.forall_mem_cons.1 read
    simp only [List.map_cons, List.flatMap_cons, List.cons_append, List.append_assoc]
    rw [readAfter, first, ih others, List.reverse_cons, List.append_assoc, List.singleton_append]

theorem readAfter_members {members : List (Option String × Json)}
    (read : ∀ member ∈ members, ∀ stack rest,
      readValue stack (member.2.tokens ++ rest) = readAfter member.2 stack rest)
    (member : Option String × Json) (seen : List (Option String × Json)) (stack : List Frame)
    (rest : List Token) :
    readAfter member.2 (.members seen member.1 :: stack)
        ((members.map fun member => .text member.1 :: .colon :: member.2.tokens).flatMap
          (.comma :: ·) ++ .closeObject :: rest) =
      readAfter (.object (seen.reverse ++ member :: members)) stack rest := by
  induction members generalizing member seen with
  | nil => simp [readAfter]
  | cons next members ih =>
    obtain ⟨first, others⟩ := List.forall_mem_cons.1 read
    simp only [List.map_cons, List.flatMap_cons, List.cons_append, List.append_assoc]
    rw [readAfter, first, ih others, List.reverse_cons, List.append_assoc, List.singleton_append]

theorem readValue_tokens {json : Json} (wellFormed : WellFormed json) (stack : List Frame)
    (rest : List Token) : readValue stack (json.tokens ++ rest) = readAfter json stack rest := by
  induction wellFormed generalizing stack rest with
  | null | bool | number | string => rfl
  | @array items _ ih =>
    rw [tokens, itemTokens_eq]
    cases items with
    | nil => rfl
    | cons item items =>
      obtain ⟨first, others⟩ := List.forall_mem_cons.1 ih
      simp only [List.map_cons, separated, List.cons_append, List.append_assoc, List.nil_append]
      rw [readValue_openArray, first, readAfter_items others, List.reverse_nil, List.nil_append]
  | @object members _ ih =>
    rw [tokens, memberTokens_eq]
    cases members with
    | nil => rfl
    | cons member members =>
      obtain ⟨first, others⟩ := List.forall_mem_cons.1 ih
      simp only [List.map_cons, separated, List.cons_append, List.append_assoc, List.nil_append]
      rw [readValue, first, readAfter_members others, List.reverse_nil, List.nil_append]

theorem parse?_of_spells {json : Json} (wellFormed : WellFormed json) {text : List Char}
    (spells : Spells text json.tokens) : parse? (String.ofList text) = some json := by
  have read := readValue_tokens wellFormed [] []
  rw [List.append_nil] at read
  rw [parse?, String.toList_ofList, tokens?_of_spells spells, Option.bind_some, read, readAfter]

theorem parse?_pretty {json : Json} (wellFormed : WellFormed json) :
    parse? json.pretty = some json := by
  have spells := legible_pretty wellFormed 0 [] [] .nil .nil
  rw [List.append_nil, List.append_nil] at spells
  exact parse?_of_spells wellFormed spells

end FlagSearch.Json
