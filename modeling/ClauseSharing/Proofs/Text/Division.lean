import ClauseSharing.Proofs.Text.Words

/-! # How a text divides into words

A text is a row of words with blanks around and between them. There is one such row for every text,
and it is the one that is read (`Text.divides_iff`). -/

namespace ClauseSharing.Text

/-- A text divides into words if blanks stand in front of each of them and behind the last, and no
word goes on where it ends. -/
inductive Divides : List Char → List (List Char) → Prop where
  | blank {blanks : List Char} : (∀ char ∈ blanks, isBlank char = true) → Divides blanks []
  | word {blanks word rest : List Char} {words : List (List Char)} :
      (∀ char ∈ blanks, isBlank char = true) → Solid word →
      (∀ next ∈ rest.head?, isBlank next = true) → Divides rest words →
      Divides (blanks ++ (word ++ rest)) (word :: words)

theorem words_blanks_append {blanks : List Char} (allBlank : ∀ char ∈ blanks, isBlank char = true)
    (rest : List Char) : words (blanks ++ rest) = words rest := by
  induction blanks with
  | nil => rfl
  | cons first others ih =>
    obtain ⟨firstBlank, othersBlank⟩ := List.forall_mem_cons.mp allBlank
    rw [List.cons_append, words_blank_cons firstBlank, ih othersBlank]

theorem head?_fromBlank (chars : List Char) :
    ∀ next ∈ (fromBlank chars).head?, isBlank next = true := by
  intro next first
  have stopped := List.head?_dropWhile_not (fun char => !isBlank char) chars
  rw [← fromBlank] at stopped
  cases rest : fromBlank chars with
  | nil =>
    rw [rest] at first
    exact nomatch first
  | cons char others =>
    rw [rest] at first stopped
    cases first
    simpa using stopped

theorem ends_of_head? {rest : List Char} (ends : ∀ next ∈ rest.head?, isBlank next = true) :
    untilBlank rest = [] ∧ fromBlank rest = rest := by
  cases rest with
  | nil => exact ⟨rfl, rfl⟩
  | cons next others =>
    have blank : ¬(!isBlank next) = true := by
      rw [ends next rfl]
      exact Bool.false_ne_true
    exact ⟨List.takeWhile_cons_of_neg blank, List.dropWhile_cons_of_neg blank⟩

theorem Divides.cons_blank {blank : Char} (isblank : isBlank blank = true) {chars : List Char}
    {found : List (List Char)} (divides : Divides chars found) :
    Divides (blank :: chars) found := by
  cases divides with
  | blank all => exact .blank (List.forall_mem_cons.mpr ⟨isblank, all⟩)
  | word all solid ends rest =>
    have divided := Divides.word (List.forall_mem_cons.mpr ⟨isblank, all⟩) solid ends rest
    exact divided

theorem divides_words (chars : List Char) : Divides chars (words chars) := by
  induction chars using words.induct with
  | case1 =>
    rw [words]
    exact .blank fun _ none => absurd none List.not_mem_nil
  | case2 char rest isblank ih =>
    rw [words_blank_cons isblank]
    exact ih.cons_blank isblank
  | case3 char rest visible ih =>
    have solid : Solid (char :: untilBlank rest) := by
      refine ⟨List.cons_ne_nil _ _, List.forall_mem_cons.mpr ⟨Bool.eq_false_iff.mpr visible, ?_⟩⟩
      intro next inside
      simpa using List.all_eq_true.mp List.all_takeWhile next inside
    have whole : char :: rest = [] ++ ((char :: untilBlank rest) ++ fromBlank rest) :=
      congrArg (List.cons char) List.takeWhile_append_dropWhile.symm
    rw [words, if_neg visible, whole]
    exact .word (fun _ none => absurd none List.not_mem_nil) solid (head?_fromBlank rest) ih

/-- **Every text divides into words in one way**, which is how it is read. -/
theorem divides_iff {chars : List Char} {found : List (List Char)} :
    Divides chars found ↔ words chars = found := by
  constructor
  · intro divides
    induction divides with
    | @blank blanks all =>
      have none := words_blanks_append all []
      rwa [List.append_nil, words] at none
    | word all solid ends _ ih =>
      obtain ⟨none, same⟩ := ends_of_head? ends
      rw [words_blanks_append all, words_solid_append solid none same, ih]
  · rintro rfl
    exact divides_words chars

theorem divides_toList_iff {text : String} {found : List String} :
    Divides text.toList (found.map String.toList) ↔ wordsOf text = found := by
  rw [divides_iff, wordsOf]
  constructor
  · intro same
    have back : String.ofList ∘ String.toList = id := funext fun _ => String.ofList_toList
    rw [same, List.map_map, back, List.map_id]
  · rintro rfl
    have back : String.toList ∘ String.ofList = id := funext fun _ => String.toList_ofList
    rw [List.map_map, back, List.map_id]

end ClauseSharing.Text
