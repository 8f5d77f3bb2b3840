import FlagSearch.Path
import Mathlib.Data.List.Basic

/-!
# Names in paths

A name without slashes that leads neither here nor up stays a step of its own wherever it is joined
to a path.  So what lies at `join base name` is called `name`, whatever the base is, and with a name
in front of it, too, it lies in the directory of that name.

* `Path.IsName` — such names; `Path.isName_of_fileName?`, file names are among them.
* `Path.lead`, `Path.join_eq` — what a base puts in front of a name.
* `Path.fileName?_join`, `Path.parent?_join` — the way back from a joined path.
* `Path.stem_prefix` — a name without its extension.
-/

namespace FlagSearch

namespace Text

variable {separator : Char}

theorem pieces_of_not_mem {text : List Char} (single : separator ∉ text) :
    pieces separator text = [text] := by
  induction text with
  | nil => rfl
  | cons c rest ih =>
    obtain ⟨other, single⟩ := List.ne_and_not_mem_of_not_mem_cons single
    rw [pieces, if_neg (Ne.symm other), ih single, extendFirst]

theorem pieces_append (before after : List Char) :
    pieces separator (before ++ separator :: after) =
      pieces separator before ++ pieces separator after := by
  induction before with
  | nil => simp [pieces]
  | cons c before ih =>
    rw [List.cons_append, pieces, ih, pieces]
    split
    · rfl
    · obtain ⟨piece, others, cut⟩ := List.exists_cons_of_ne_nil (pieces_ne_nil separator before)
      simp [cut, extendFirst]

theorem joined_dropLast_prefix (all : List (List Char)) :
    joined separator all.dropLast <+: joined separator all := by
  match all with
  | [] => exact List.prefix_rfl
  | [_] => exact List.nil_prefix
  | [piece, _] => exact List.prefix_append piece _
  | piece :: next :: other :: rest =>
    have shorter := joined_dropLast_prefix (next :: other :: rest)
    simpa [joined] using shorter

end Text

namespace Path

open Text (pieces joined)

structure IsName (name : String) : Prop where
  nonempty : name.toList ≠ []
  single : '/' ∉ name.toList
  notHere : name.toList ≠ here
  notUp : name.toList ≠ up

variable {base above name inner outer : String}

theorem isName_of_fileName? {path : String} (named : fileName? path = some name) : IsName name := by
  rw [fileName?] at named
  split at named
  next last i ends =>
    obtain ⟨listed, isStep⟩ := List.mem_filter.1 (List.mem_of_getLast? ends)
    have piece : last ∈ names path := List.fst_mem_of_mem_zipIdx listed
    split at named
    · cases named
    next leads =>
      obtain rfl := Option.some.inj named
      obtain ⟨notHere, notUp⟩ := not_or.1 leads
      have nonempty : last ≠ [] := by
        rintro rfl
        simp [Path.isStep] at isStep
      exact ⟨by simpa, by simpa using Text.not_mem_of_mem_pieces piece, by simpa, by simpa⟩
  · cases named

/-! ## Joining -/

/-- What stands in front of a name that is joined to a base. -/
def lead (base : String) : String :=
  if base = "" then "" else if base.toList.getLast? = some '/' then base else base ++ "/"

theorem join_eq (isName : IsName name) : join base name = lead base ++ name := by
  have relative : isAbsolute name = false := by
    rw [isAbsolute, beq_eq_false_iff_ne]
    exact fun first => isName.single (List.mem_of_head? first)
  simp only [join, lead, relative, Bool.false_eq_true, false_or]
  split
  · simp
  · split <;> rfl

theorem toList_lead (base : String) :
    (lead base).toList = [] ∨ ∃ above, (lead base).toList = above ++ ['/'] := by
  unfold lead
  split
  · exact .inl rfl
  · split
    next slash =>
      obtain ⟨above, same⟩ := List.getLast?_eq_some_iff.1 slash
      exact .inr ⟨above, same⟩
    · exact .inr ⟨base.toList, by simp⟩

theorem exists_names_join (base : String) (isName : IsName name) :
    ∃ before, names (join base name) = before ++ [name.toList] := by
  rw [names, join_eq isName, String.toList_append]
  have single := Text.pieces_of_not_mem isName.single
  rcases toList_lead base with none | ⟨above, slash⟩
  · exact ⟨[], by rw [none, List.nil_append, single, List.nil_append]⟩
  · refine ⟨pieces '/' above, ?_⟩
    rw [slash, List.append_assoc, List.singleton_append, Text.pieces_append, single]

theorem steps_append (before : List (List Char)) (isName : IsName name) :
    steps (before ++ [name.toList]) = steps before ++ [(name.toList, before.length)] := by
  simp [steps, List.zipIdx_append, List.filter_append, isStep, isName.nonempty, isName.notHere]

theorem fileName?_join (base : String) (isName : IsName name) :
    fileName? (join base name) = some name := by
  obtain ⟨before, cut⟩ := exists_names_join base isName
  simp [fileName?, cut, steps_append before isName, isName.notHere, isName.notUp]

theorem lead_join (above : String) (isName : IsName name) :
    lead (join above name) = join above name ++ "/" := by
  have text : (join above name).toList = (lead above).toList ++ name.toList := by
    rw [join_eq isName, String.toList_append]
  have nonempty : join above name ≠ "" := by
    intro none
    rw [none] at text
    exact isName.nonempty (List.append_eq_nil_iff.1 text.symm).2
  have noSlash : (join above name).toList.getLast? ≠ some '/' := by
    rw [text, List.getLast?_append_of_ne_nil _ isName.nonempty]
    exact fun last => isName.single (List.mem_of_getLast? last)
  rw [lead, if_neg nonempty, if_neg noSlash]

theorem names_join_join (above : String) (isInner : IsName inner) (isOuter : IsName outer) :
    names (join (join above inner) outer) = names (join above inner) ++ [outer.toList] := by
  have text : (join (join above inner) outer).toList =
      (join above inner).toList ++ '/' :: outer.toList := by
    simp [join_eq isOuter, lead_join above isInner]
  rw [names, names, text, Text.pieces_append, Text.pieces_of_not_mem isOuter.single]

theorem parent?_join (above : String) (isInner : IsName inner) (isOuter : IsName outer) :
    parent? (join (join above inner) outer) = some (join above inner) := by
  obtain ⟨before, cut⟩ := exists_names_join above isInner
  have steps_eq : steps (names (join (join above inner) outer)) =
      steps before ++ [(inner.toList, before.length)] ++ [(outer.toList, before.length + 1)] := by
    rw [names_join_join above isInner isOuter, steps_append _ isOuter, cut,
      steps_append before isInner, List.length_append, List.length_singleton]
  have kept : (names (join (join above inner) outer)).take (before.length + 1) =
      names (join above inner) := by
    rw [names_join_join above isInner isOuter, cut]
    exact List.take_left' (by simp)
  have whole : joined '/' (names (join above inner)) = (join above inner).toList :=
    Text.joined_pieces '/' _
  rw [parent?, steps_eq]
  simp [kept, whole]

/-! ## Extensions -/

theorem stem_prefix (name : List Char) : stem name <+: name := by
  have shorter : joined '.' (pieces '.' name).dropLast <+: joined '.' (pieces '.' name) :=
    Text.joined_dropLast_prefix _
  rw [Text.joined_pieces] at shorter
  unfold stem
  split
  · exact List.prefix_rfl
  · exact List.prefix_rfl
  · exact shorter

end Path

end FlagSearch
