import ClauseSharing.Text.Blank

/-! # Words of texts put together from words

A word followed by a blank is the first word of the whole text, and a word by itself is the only
word of its text (`Text.wordsOf_append_space`, `Text.wordsOf_solid`). -/

namespace ClauseSharing.Text

/-- A word: at least one character, and no blank among them. -/
structure Solid (word : List Char) : Prop where
  ne_nil : word ≠ []
  visible : ∀ char ∈ word, isBlank char = false

theorem untilBlank_solid_append {word : List Char} (solid : ∀ char ∈ word, isBlank char = false)
    (rest : List Char) : untilBlank (word ++ rest) = word ++ untilBlank rest := by
  apply List.takeWhile_append_of_pos
  intro char inside
  rw [solid char inside, Bool.not_false]

theorem fromBlank_solid_append {word : List Char} (solid : ∀ char ∈ word, isBlank char = false)
    (rest : List Char) : fromBlank (word ++ rest) = fromBlank rest := by
  apply List.dropWhile_append_of_pos
  intro char inside
  rw [solid char inside, Bool.not_false]

theorem words_blank_cons {blank : Char} (isblank : isBlank blank = true) (rest : List Char) :
    words (blank :: rest) = words rest := by
  rw [words, if_pos isblank]

/-- The first word ends where a blank or the end of the text comes. -/
theorem words_solid_append {word : List Char} (solid : Solid word) {rest : List Char}
    (ends : untilBlank rest = []) (after : fromBlank rest = rest) :
    words (word ++ rest) = word :: words rest := by
  cases word with
  | nil => exact absurd rfl solid.ne_nil
  | cons first tail =>
    have firstVisible := solid.visible first (List.mem_cons_self ..)
    have tailVisible : ∀ char ∈ tail, isBlank char = false := fun char inside =>
      solid.visible char (List.mem_cons_of_mem _ inside)
    rw [List.cons_append, words, if_neg (by rw [firstVisible]; exact Bool.false_ne_true),
      untilBlank_solid_append tailVisible, fromBlank_solid_append tailVisible, ends, after,
      List.append_nil]

theorem wordsOf_solid {word : String} (solid : Solid word.toList) : wordsOf word = [word] := by
  have alone : words (word.toList ++ []) = _ := words_solid_append solid rfl rfl
  rw [List.append_nil, words] at alone
  rw [wordsOf, alone, List.map_singleton, String.ofList_toList]

theorem wordsOf_space_append (rest : String) : wordsOf (" " ++ rest) = wordsOf rest := by
  have spaced : (" " ++ rest).toList = ' ' :: rest.toList := String.toList_append ..
  rw [wordsOf, spaced, words_blank_cons rfl, wordsOf]

/-- A word and a space in front of a text put one word in front of its words. -/
theorem wordsOf_append_space {word : String} (solid : Solid word.toList) (rest : String) :
    wordsOf (word ++ " " ++ rest) = word :: wordsOf rest := by
  have spaced : (word ++ " " ++ rest).toList = word.toList ++ ' ' :: rest.toList := by
    simp only [String.toList_append, List.append_assoc]
    rfl
  have split : words (word.toList ++ ' ' :: rest.toList) = _ := words_solid_append solid rfl rfl
  rw [words_blank_cons rfl] at split
  rw [wordsOf, spaced, split, List.map_cons, String.ofList_toList, wordsOf]

end ClauseSharing.Text
