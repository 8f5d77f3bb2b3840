import FlagSearch.Proofs.FlagSet.Text
import FlagSearch.Proofs.Stored.Records
import FlagSearch.Proofs.Text.Quoted
import FlagSearch.Stored.FlagSet

/-!
# Stored flag sets read back

A flag set is stored as its text, so what is read from a document depends on the text alone, and no
two sets share a text or a document.

* `FlagSet.notABit_injective` — the wording of a failure tells the character.
* `FlagSet.ofJson?_ofText`, `FlagSet.ofJson?_json` — reading a document.
* `FlagSet.parse?_compact_bind` — reading the text of a document.
* `FlagSet.text_form_exact` — the text form as a whole.
-/

namespace FlagSearch.FlagSet

theorem notABit_injective {c d : Char} (same : notABit c = notABit d) : c = d := by
  have words : "invalid flag bit " ++ Text.character c = "invalid flag bit " ++ Text.character d :=
    same
  exact Text.character_injective ((String.append_right_inj _).1 words)

theorem ofJson?_ofText (text : String) : ofJson? (.ofText text) = (ofText text).toOption := by
  rw [ofJson?, Json.text?_ofText, Option.bind_eq_bind, Option.bind_some]

theorem ofJson?_json (set : FlagSet) : ofJson? set.json = some set := by
  rw [json, ofJson?_ofText, ofText_toText]
  rfl

theorem ofJson?_eq_some_iff {document : Json} {set : FlagSet} :
    ofJson? document = some set ↔ document = set.json := by
  constructor
  · intro read
    cases document with
    | string text =>
      cases text with
      | none => cases read
      | some text =>
        have found : (ofText text).toOption = some set := (ofJson?_ofText text).symm.trans read
        cases other : ofText text with
        | error c =>
          rw [other] at found
          cases found
        | ok set' =>
          rw [other] at found
          cases found
          rw [json, toText_ofText other]
          rfl
    | null | bool _ | number _ | array _ | object _ => cases read
  · rintro rfl
    exact ofJson?_json set

theorem parse?_compact_bind (text : String) :
    (Json.parse? (Json.ofText text).compact).bind ofJson? = (ofText text).toOption := by
  have oneLine : (Json.ofText text).compact = (Json.ofText text).pretty := rfl
  have wellFormed : (Json.ofText text).WellFormed := .string _
  rw [oneLine, Json.parse?_pretty wellFormed, Option.bind_some, ofJson?_ofText]

theorem toText_injective {set other : FlagSet} (same : set.toText = other.toText) :
    set = other := by
  have read := ofText_toText set
  rw [same, ofText_toText] at read
  exact (Except.ok.inj read).symm

theorem compact_json_injective {set other : FlagSet} (same : set.json.compact = other.json.compact) :
    set = other := by
  have read := parse?_compact_bind set.toText
  have read' := parse?_compact_bind other.toText
  have texts : (ofText set.toText).toOption = (ofText other.toText).toOption := by
    rw [← read, ← read']
    exact congrArg (fun text => (Json.parse? text).bind ofJson?) same
  rw [ofText_toText, ofText_toText] at texts
  exact Option.some.inj texts

/-- Every set reads back from its text.  The texts that are read are the rows of `0` and `1`; they
give as many positions as they have characters and are written again as they were, and any other
text fails with its first other character.  Stored sets are read in the same way, and neither a text
nor a stored form belongs to two sets. -/
theorem text_form_exact :
    (∀ set : FlagSet, set.toText.toList = set.toBools.map bitChar ∧ ofText set.toText = .ok set) ∧
      (∀ text, (∃ set, ofText text = .ok set) ↔ ∀ c ∈ text.toList, c = '0' ∨ c = '1') ∧
      (∀ text set, ofText text = .ok set → set.length = text.length ∧ set.toText = text) ∧
      (∀ text message, (ofText text).mapError notABit = .error message ↔
        ∃ before c after, text.toList = before ++ c :: after ∧ (∀ b ∈ before, b = '0' ∨ b = '1') ∧
          ¬ (c = '0' ∨ c = '1') ∧ message = notABit c) ∧
      (∀ c d, notABit c = notABit d → c = d) ∧
      (∀ document set, ofJson? document = some set ↔ document = set.json) ∧
      (∀ text, (Json.parse? (Json.ofText text).compact).bind ofJson? = (ofText text).toOption) ∧
      ∀ set other : FlagSet, set.toText = other.toText ∨ set.json.compact = other.json.compact →
        set = other := by
  refine ⟨fun set => ⟨String.toList_ofList, ofText_toText set⟩, fun _ => exists_ofText_iff, ?_, ?_,
    fun _ _ => notABit_injective, fun _ _ => ofJson?_eq_some_iff, parse?_compact_bind, ?_⟩
  · intro text set read
    refine ⟨?_, toText_ofText read⟩
    have row := congrArg List.length (toBools_ofText read)
    rwa [length_toBools, List.length_map, String.length_toList] at row
  · intro text message
    constructor
    · intro failed
      cases read : ofText text with
      | ok set =>
        rw [read] at failed
        cases failed
      | error c =>
        rw [read] at failed
        cases failed
        obtain ⟨before, after, split, bits, other⟩ := ofText_error_iff.1 read
        exact ⟨before, c, after, split, bits, other, rfl⟩
    · rintro ⟨before, c, after, split, bits, other, rfl⟩
      rw [ofText_error_iff.2 ⟨before, after, split, bits, other⟩]
      rfl
  · rintro set other (texts | stored)
    · exact toText_injective texts
    · exact compact_json_injective stored

/-- A row that is read, a row with two characters that are no bits, and a set that was made in two
ways. -/
theorem text_form_exact_mixed :
    (∃ set, ofText "0110" = .ok set ∧ set.length = 4 ∧ set.toText = "0110") ∧
      (ofText "10x1y").mapError notABit = .error "invalid flag bit 'x'" ∧
      notABit (Char.ofNat 120) = notABit 'x' ∧ Char.ofNat 120 = 'x' ∧
      (zeros 3).toText = (ofBits [false, false, false]).toText ∧
      zeros 3 = ofBits [false, false, false] := by
  obtain ⟨_, readable, exact, fails, told, _, _, apart⟩ := text_form_exact
  have bits : ∀ c ∈ ['0', '1', '1', '0'], c = '0' ∨ c = '1' := by simp
  obtain ⟨set, read⟩ := (readable "0110").2 bits
  obtain ⟨length, text⟩ := exact "0110" set read
  have named : notABit (Char.ofNat 120) = notABit 'x' := rfl
  have same : (zeros 3).toText = (ofBits [false, false, false]).toText := by decide
  refine ⟨⟨set, read, length, text⟩, (fails _ _).2 ⟨['1', '0'], 'x', ['1', 'y'], rfl, ?_⟩, named,
    told _ _ named, same, apart _ _ (.inl same)⟩
  exact ⟨by simp, by simp, by decide +kernel⟩

end FlagSearch.FlagSet
