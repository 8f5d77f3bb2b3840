import FlagSearch.Json.Record
import FlagSearch.Proofs.Json.Numbers
import FlagSearch.Proofs.Json.Documents

/-!
# Stored records read back

A record is written as an object with a member for each field that has a value, and the reader looks
its fields up by name.  As long as the names of a record differ, every field is found again, and one
without a value is found missing.

* `Json.record` — the members of a record.
* `Json.fields?_record` — the fields of a record.
* `Json.tagged?_record` — the tag of a record, and its other fields.
* `Json.list?_array` — the items of an array.
-/

namespace FlagSearch.Json

def record (slots : List (String × Option Json)) : List (Option String × Json) :=
  slots.flatMap fun slot => member? slot.1 slot.2

variable {slots : List (String × Option Json)}

theorem mem_record {m : Option String × Json} :
    m ∈ record slots ↔ ∃ slot ∈ slots, ∃ value, slot.2 = some value ∧ m = member slot.1 value := by
  rw [record, List.mem_flatMap]
  refine exists_congr fun slot => and_congr_right fun _ => ?_
  cases slot.2 with
  | none => simp [member?]
  | some value => simp [member?]

theorem wellFormed_record (all : ∀ slot ∈ slots, ∀ value, slot.2 = some value → WellFormed value) :
    WellFormed (object (record slots)) := by
  refine .object fun m among => ?_
  obtain ⟨slot, listed, value, given, rfl⟩ := mem_record.1 among
  exact all slot listed value given

/-! ## Fields by name -/

theorem filter_record {p : Option String × Json → Bool} {q : String → Bool}
    (byName : ∀ name value, p (member name value) = q name) (slots : List (String × Option Json)) :
    (record slots).filter p = record (slots.filter fun slot => q slot.1) := by
  have picked (slot : String × Option Json) : (member? slot.1 slot.2).filter p =
      if q slot.1 then member? slot.1 slot.2 else [] := by
    cases slot.2 with
    | none => simp [member?]
    | some value =>
      rw [member?, List.filter_cons, byName]
      rfl
  induction slots with
  | nil => rfl
  | cons slot slots ih =>
    rw [record, List.flatMap_cons, List.filter_append, picked, ← record, ih, List.filter_cons]
    split
    · rfl
    · rfl

theorem filter_name (distinct : (slots.map Prod.fst).Nodup) {slot : String × Option Json}
    (among : slot ∈ slots) : (slots.filter fun other => other.1 = slot.1) = [slot] := by
  induction slots with
  | nil => cases among
  | cons first slots ih =>
    obtain ⟨absent, distinct⟩ := List.nodup_cons.1 distinct
    rcases List.mem_cons.1 among with rfl | later
    · have none : (slots.filter fun other => other.1 = slot.1) = [] :=
        List.filter_eq_nil_iff.2 fun other listed same =>
          absent (List.mem_map.2 ⟨other, listed, of_decide_eq_true same⟩)
      rw [List.filter_cons_of_pos (by simp), none]
    · have differs : first.1 ≠ slot.1 := fun same =>
        absent (same ▸ List.mem_map_of_mem later)
      rw [List.filter_cons_of_neg (by simpa using differs), ih distinct later]

theorem single?_record (distinct : (slots.map Prod.fst).Nodup) {slot : String × Option Json}
    (among : slot ∈ slots) : single? (record slots) slot.1 = some slot.2 := by
  have found : (record slots).filter (fun m => m.1 = some slot.1) = member? slot.1 slot.2 := by
    rw [filter_record (q := fun name => name = slot.1) (by simp [member]),
      filter_name distinct among, record, List.flatMap_singleton]
  rw [single?, found]
  cases slot.2 with
  | none => rfl
  | some value => rfl

theorem mapM_eq_of_mem {α β : Type} {f g : α → Option β} {xs : List α}
    (same : ∀ x ∈ xs, f x = g x) : xs.mapM f = xs.mapM g := by
  induction xs with
  | nil => rfl
  | cons x xs ih =>
    obtain ⟨first, others⟩ := List.forall_mem_cons.1 same
    rw [List.mapM_cons, List.mapM_cons, first, ih others]

theorem mapM_unless {α β : Type} (p : α → Bool) (g : α → β) (xs : List α) :
    (xs.mapM fun x => if p x then none else some (g x)) =
      if xs.any p then none else some (xs.map g) := by
  induction xs with
  | nil => rfl
  | cons x xs ih =>
    rw [List.mapM_cons, ih, List.any_cons]
    cases p x with
    | true => rfl
    | false =>
      cases xs.any p with
      | true => rfl
      | false => rfl

theorem fields?_record (slots : List (String × Option Json))
    (distinct : (slots.map Prod.fst).Nodup) :
    (object (record slots)).fields? (slots.map Prod.fst) = some (slots.map Prod.snd) := by
  have whole : (record slots).all (fun m => m.1.isSome) = true := by
    rw [List.all_eq_true]
    intro m among
    obtain ⟨slot, _, value, _, rfl⟩ := mem_record.1 among
    rfl
  have found := mapM_eq_of_mem fun slot (among : slot ∈ slots) => single?_record distinct among
  rw [fields?, if_pos whole, List.mapM_map]
  exact found.trans (List.mapM_pure (m := Option))

theorem tagged?_record {tag name : String} {level : Nat}
    (distinct : (tag :: slots.map Prod.fst).Nodup)
    (plain : ∀ levels,
      (object (record ((tag, some (ofText name)) :: slots))).isPlain (levels + 1) = true)
    (within : level ≤ levelLimit) :
    (object (record ((tag, some (ofText name)) :: slots))).tagged? tag level =
      some (name, object (record slots)) := by
  have among : (tag, some (ofText name)) ∈ (tag, some (ofText name)) :: slots :=
    List.mem_cons_self
  have value : single? (record ((tag, some (ofText name)) :: slots)) tag =
      some (some (ofText name)) :=
    single?_record (by rwa [List.map_cons]) among
  have rest : (record ((tag, some (ofText name)) :: slots)).filter (fun m => m.1 ≠ some tag) =
      record slots := by
    have others : ∀ slot ∈ slots, slot.1 ≠ tag := fun slot among same =>
      (List.nodup_cons.1 distinct).1 (same ▸ List.mem_map_of_mem among)
    rw [filter_record (q := fun name => name ≠ tag) (by simp [member]),
      List.filter_cons_of_neg (by simp), List.filter_eq_self.2 (by simpa using others)]
  have left := plain (levelLimit - level)
  rw [← Nat.sub_add_comm within] at left
  rw [tagged?, if_pos left, value, rest]
  rfl

/-! ## Values -/

theorem required_bind {α β : Type} {read : Json → Option α} {value : Json} {a : α}
    (reads : read value = some a) (f : α → Option β) :
    (required read (some value) >>= f) = f a := by
  rw [required, reads, Option.bind_eq_bind, Option.bind_some]

theorem required_bind_unless {α β : Type} {read : Json → Option α} {value : Json} {lost : Bool}
    {a : α} (reads : read value = if lost then none else some a) (f : α → Option β) :
    (required read (some value) >>= f) = if lost then none else f a := by
  rw [required, reads]
  cases lost with
  | true => rfl
  | false => rfl

theorem list?_array {α β : Type} {write : α → Json} {read : Json → Option β} {f : α → Option β}
    {xs : List α} (reads : ∀ x ∈ xs, read (write x) = f x) :
    (array (xs.map write)).list? read = xs.mapM f := by
  rw [list?, List.mapM_map]
  exact mapM_eq_of_mem reads

theorem text?_ofText (text : String) : (ofText text).text? = some text :=
  rfl

theorem bool?_bool (b : Bool) : (bool b).bool? = some b :=
  rfl

theorem list?_ofTexts (texts : List String) : (ofTexts texts).list? text? = some texts :=
  (list?_array fun _ _ => rfl).trans ((List.mapM_pure (m := Option)).trans (by simp))

theorem nat?_ofNat {n : Nat} (fits : n < wordLimit) : (ofNat n).nat? = some n :=
  Numeral.nat?_ofNat fits

end FlagSearch.Json
