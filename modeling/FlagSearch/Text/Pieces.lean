/-!
# Pieces of a text

A text is cut at every occurrence of a separator; the pieces are what stands between them, the
empty ones included.

* `pieces`, `joined` — cutting, and putting together again.
* `joined_pieces`, `not_mem_of_mem_pieces` — nothing is lost, and no piece holds a separator.
-/

namespace FlagSearch.Text

def extendFirst (c : Char) : List (List Char) → List (List Char)
  | [] => [[c]]
  | piece :: rest => (c :: piece) :: rest

def pieces (separator : Char) : List Char → List (List Char)
  | [] => [[]]
  | c :: rest =>
      if c = separator then [] :: pieces separator rest
      else extendFirst c (pieces separator rest)

def joined (separator : Char) : List (List Char) → List Char
  | [] => []
  | [piece] => piece
  | piece :: next :: rest => piece ++ separator :: joined separator (next :: rest)

theorem pieces_ne_nil (separator : Char) (text : List Char) : pieces separator text ≠ [] := by
  cases text with
  | nil => simp [pieces]
  | cons c rest =>
    simp only [pieces]
    split
    · simp
    · cases pieces separator rest <;> simp [extendFirst]

theorem joined_extendFirst (separator c : Char) (all : List (List Char)) :
    joined separator (extendFirst c all) = c :: joined separator all := by
  match all with
  | [] => rfl
  | [_] => rfl
  | _ :: _ :: _ => rfl

theorem joined_pieces (separator : Char) (text : List Char) :
    joined separator (pieces separator text) = text := by
  induction text with
  | nil => rfl
  | cons c rest ih =>
    simp only [pieces]
    split
    · next same =>
      obtain ⟨piece, others, cut⟩ := List.exists_cons_of_ne_nil (pieces_ne_nil separator rest)
      rw [cut] at ih ⊢
      simp [joined, ih, same]
    · rw [joined_extendFirst, ih]

theorem not_mem_of_mem_pieces {separator : Char} {text piece : List Char}
    (mem : piece ∈ pieces separator text) : separator ∉ piece := by
  induction text generalizing piece with
  | nil => simp_all [pieces]
  | cons c rest ih =>
    simp only [pieces] at mem
    split at mem
    · rcases List.mem_cons.1 mem with rfl | mem
      · simp
      · exact ih mem
    · next other =>
      obtain ⟨first, others, cut⟩ := List.exists_cons_of_ne_nil (pieces_ne_nil separator rest)
      rw [cut] at mem ih
      rcases List.mem_cons.1 mem with rfl | mem
      · simp only [List.mem_cons, not_or]
        exact ⟨fun same => other same.symm, ih List.mem_cons_self⟩
      · exact ih (List.mem_cons_of_mem _ mem)

end FlagSearch.Text
