import FlagSearch.FlagSet.Text
import FlagSearch.Proofs.FlagSet.Bools

/-!
# Reading the text of a flag set

Writing goes through the row of a set and reading through a list of bits that are turned over one by
one; the two undo each other.

* `FlagSet.IsBit` — the two characters that are read.
* `FlagSet.mapM_readBit_ok`, `FlagSet.mapM_readBit_error_iff` — what a row of characters reads as,
  and where reading stops.
* `FlagSet.ofText_toText` — a set reads back from its text.
* `FlagSet.toList_of_ofText`, `FlagSet.toBools_ofText`, `FlagSet.toText_ofText` — a set that was read.
* `FlagSet.exists_ofText_iff`, `FlagSet.ofText_error_iff` — the texts that are read, and how others
  fail.
-/

namespace FlagSearch.FlagSet

@[simp] theorem readBit_bitChar (selected : Bool) : readBit (bitChar selected) = .ok selected := by
  cases selected <;> rfl

theorem readBit_ok {c : Char} {selected : Bool} (read : readBit c = .ok selected) :
    c = bitChar selected := by
  unfold readBit at read
  split at read
  next zero =>
    cases read
    exact zero
  · split at read
    next one =>
      cases read
      exact one
    · cases read

@[simp] theorem mapM_readBit_bitChar (bits : List Bool) :
    (bits.map bitChar).mapM readBit = .ok bits := by
  induction bits with
  | nil => rfl
  | cons selected bits ih =>
    rw [List.map_cons, List.mapM_cons, ih, readBit_bitChar]
    rfl

theorem mapM_readBit_ok {text : List Char} {bits : List Bool}
    (read : text.mapM readBit = .ok bits) : text = bits.map bitChar := by
  induction text generalizing bits with
  | nil =>
    cases read
    rfl
  | cons c text ih =>
    rw [List.mapM_cons] at read
    cases first : readBit c with
    | error other =>
      rw [first] at read
      cases read
    | ok selected =>
      rw [first] at read
      cases later : text.mapM readBit with
      | error other =>
        rw [later] at read
        cases read
      | ok rest =>
        rw [later] at read
        cases read
        rw [List.map_cons, ← readBit_ok first, ← ih later]

def IsBit (c : Char) : Prop := c = '0' ∨ c = '1'

theorem isBit_bitChar (selected : Bool) : IsBit (bitChar selected) := by
  cases selected with
  | false => exact .inl rfl
  | true => exact .inr rfl

theorem map_eq_error_iff {α β : Type} {f : α → β} {read : Except Char α} {c : Char} :
    read.map f = .error c ↔ read = .error c := by
  cases read with
  | error other => simp [Except.map]
  | ok value => simp [Except.map]

theorem mapM_readBit_bitChar_cons (selected : Bool) (text : List Char) :
    (bitChar selected :: text).mapM readBit = (text.mapM readBit).map (selected :: ·) := by
  rw [List.mapM_cons, readBit_bitChar]
  cases text.mapM readBit with
  | error other => rfl
  | ok bits => rfl

theorem mapM_readBit_of_not_isBit {c : Char} (other : ¬ IsBit c) (text : List Char) :
    (c :: text).mapM readBit = .error c := by
  rw [IsBit, not_or] at other
  rw [List.mapM_cons, readBit, if_neg other.1, if_neg other.2]
  rfl

theorem mapM_readBit_error_iff {text : List Char} {c : Char} :
    text.mapM readBit = .error c ↔
      ∃ before after, text = before ++ c :: after ∧ (∀ b ∈ before, IsBit b) ∧ ¬ IsBit c := by
  induction text with
  | nil =>
    constructor
    · intro failed
      cases failed
    · rintro ⟨before, after, split, _⟩
      simp at split
  | cons first text ih =>
    by_cases isBit : IsBit first
    · obtain ⟨selected, rfl⟩ : ∃ selected, first = bitChar selected := by
        rcases isBit with rfl | rfl
        · exact ⟨false, rfl⟩
        · exact ⟨true, rfl⟩
      rw [mapM_readBit_bitChar_cons, map_eq_error_iff, ih]
      constructor
      · rintro ⟨before, after, rfl, bits, other⟩
        exact ⟨_ :: before, after, rfl, List.forall_mem_cons.2 ⟨isBit, bits⟩, other⟩
      · rintro ⟨before, after, split, bits, other⟩
        cases before with
        | nil =>
          obtain ⟨rfl, _⟩ := List.cons.inj split
          exact absurd isBit other
        | cons b before =>
          obtain ⟨_, rfl⟩ := List.cons.inj split
          exact ⟨before, after, rfl, (List.forall_mem_cons.1 bits).2, other⟩
    · rw [mapM_readBit_of_not_isBit isBit]
      constructor
      · intro failed
        cases failed
        exact ⟨[], text, rfl, by simp, isBit⟩
      · rintro ⟨before, after, split, bits, _⟩
        cases before with
        | nil =>
          obtain ⟨rfl, _⟩ := List.cons.inj split
          rfl
        | cons b before =>
          obtain ⟨rfl, _⟩ := List.cons.inj split
          exact absurd (bits first List.mem_cons_self) isBit

theorem ofText_toText (set : FlagSet) : ofText set.toText = .ok set := by
  rw [ofText, toText, String.toList_ofList, mapM_readBit_bitChar, Except.map, ofBits_toBools]

theorem toList_of_ofText {text : String} {set : FlagSet} (read : ofText text = .ok set) :
    text.toList = set.toBools.map bitChar := by
  unfold ofText at read
  cases bits : text.toList.mapM readBit with
  | error other =>
    rw [bits] at read
    cases read
  | ok row =>
    rw [bits] at read
    cases read
    rw [toBools_ofBits, mapM_readBit_ok bits]

theorem toBools_ofText {text : String} {set : FlagSet} (read : ofText text = .ok set) :
    set.toBools = text.toList.map (· == '1') := by
  have same : ∀ selected, (bitChar selected == '1') = selected := by decide
  rw [toList_of_ofText read, List.map_map]
  simp only [Function.comp_def, same, List.map_id']

theorem toText_ofText {text : String} {set : FlagSet} (read : ofText text = .ok set) :
    set.toText = text := by
  rw [toText, ← toList_of_ofText read, String.ofList_toList]

theorem ofText_error_iff {text : String} {c : Char} :
    ofText text = .error c ↔ ∃ before after, text.toList = before ++ c :: after ∧
      (∀ b ∈ before, IsBit b) ∧ ¬ IsBit c := by
  rw [ofText, map_eq_error_iff, mapM_readBit_error_iff]

theorem exists_ofText_iff {text : String} :
    (∃ set, ofText text = .ok set) ↔ ∀ c ∈ text.toList, IsBit c := by
  constructor
  · rintro ⟨set, read⟩ c within
    rw [toList_of_ofText read] at within
    obtain ⟨selected, _, rfl⟩ := List.mem_map.1 within
    exact isBit_bitChar selected
  · intro bits
    cases read : ofText text with
    | ok set => exact ⟨set, rfl⟩
    | error c =>
      obtain ⟨before, after, split, _, other⟩ := ofText_error_iff.1 read
      exact absurd (bits c (by simp [split])) other

end FlagSearch.FlagSet
