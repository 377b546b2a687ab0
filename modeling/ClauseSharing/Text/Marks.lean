/-! # Cutting at marks

A text of several parts is cut where a mark stands: at its first occurrence, at its last one, or at
all of them. The mark itself belongs to no part, and what it parts makes up the text again. -/

namespace ClauseSharing.Text

/-- What stands before the first mark and what stands after it. -/
def cutFirst (mark : Char) : List Char → Option (List Char × List Char)
  | [] => none
  | char :: rest =>
    if char = mark then some ([], rest)
    else (cutFirst mark rest).map fun (before, after) => (char :: before, after)

/-- What stands before the last mark and what stands after it. -/
def cutLast (mark : Char) : List Char → Option (List Char × List Char)
  | [] => none
  | char :: rest =>
    match cutLast mark rest with
    | some (before, after) => some (char :: before, after)
    | none => if char = mark then some ([], rest) else none

/-- The parts between marks, one more than there are marks. -/
def parts (mark : Char) : List Char → List (List Char)
  | [] => [[]]
  | char :: rest =>
    if char = mark then [] :: parts mark rest
    else
      match parts mark rest with
      | [] => [[char]]
      | first :: others => (char :: first) :: others

theorem cutFirst_eq_some {mark : Char} {chars before after : List Char}
    (cut : cutFirst mark chars = some (before, after)) :
    chars = before ++ mark :: after ∧ mark ∉ before := by
  induction chars generalizing before with
  | nil => simp [cutFirst] at cut
  | cons char rest ih =>
    rw [cutFirst] at cut
    split at cut
    · rename_i same
      obtain ⟨rfl, rfl⟩ := Prod.mk.inj (Option.some.inj cut)
      simp [same]
    · rename_i other
      obtain ⟨⟨inner, tail⟩, innerCut, joined⟩ := Option.map_eq_some_iff.mp cut
      obtain ⟨rfl, rfl⟩ := Prod.mk.inj joined
      obtain ⟨whole, absent⟩ := ih innerCut
      refine ⟨by simp [whole], fun inside => ?_⟩
      rcases List.mem_cons.mp inside with same | inside
      · exact other same.symm
      · exact absent inside

theorem cutLast_eq_none {mark : Char} {chars : List Char} (cut : cutLast mark chars = none) :
    mark ∉ chars := by
  induction chars with
  | nil => simp
  | cons char rest ih =>
    rw [cutLast] at cut
    split at cut
    · cases cut
    · rename_i uncut
      split at cut
      · cases cut
      · rename_i other
        intro inside
        rcases List.mem_cons.mp inside with same | inside
        · exact other same.symm
        · exact ih uncut inside

theorem cutLast_eq_some {mark : Char} {chars before after : List Char}
    (cut : cutLast mark chars = some (before, after)) :
    chars = before ++ mark :: after ∧ mark ∉ after := by
  induction chars generalizing before with
  | nil => simp [cutLast] at cut
  | cons char rest ih =>
    rw [cutLast] at cut
    split at cut
    · rename_i inner tail innerCut
      obtain ⟨rfl, rfl⟩ := Prod.mk.inj (Option.some.inj cut)
      obtain ⟨whole, absent⟩ := ih innerCut
      exact ⟨by simp [whole], absent⟩
    · rename_i uncut
      split at cut
      · rename_i same
        obtain ⟨rfl, rfl⟩ := Prod.mk.inj (Option.some.inj cut)
        exact ⟨by simp [same], cutLast_eq_none uncut⟩
      · cases cut

theorem cutLast_of_not_mem {mark : Char} {chars : List Char} (absent : mark ∉ chars) :
    cutLast mark chars = none := by
  induction chars with
  | nil => rfl
  | cons char rest ih =>
    rw [List.mem_cons, not_or] at absent
    obtain ⟨first, others⟩ := absent
    rw [cutLast, ih others]
    exact if_neg fun same => first same.symm

/-- Where no mark follows, the cut is made at this one. -/
theorem cutLast_append {mark : Char} {after : List Char} (absent : mark ∉ after)
    (before : List Char) : cutLast mark (before ++ mark :: after) = some (before, after) := by
  induction before with
  | nil =>
    rw [List.nil_append, cutLast, cutLast_of_not_mem absent]
    exact if_pos rfl
  | cons char rest ih => rw [List.cons_append, cutLast, ih]

theorem parts_ne_nil (mark : Char) (chars : List Char) : parts mark chars ≠ [] := by
  cases chars with
  | nil => simp [parts]
  | cons char rest =>
    rw [parts]
    split
    · simp
    · split <;> simp

/-- The parts with the mark between them are the text. -/
theorem intercalate_parts (mark : Char) (chars : List Char) :
    [mark].intercalate (parts mark chars) = chars := by
  induction chars with
  | nil => rfl
  | cons char rest ih =>
    obtain ⟨first, others, known⟩ := List.exists_cons_of_ne_nil (parts_ne_nil mark rest)
    rw [known] at ih
    rw [parts, known]
    split
    · rename_i same
      rw [List.intercalate_cons_cons, ih, same]
      rfl
    · cases others with
      | nil => simpa using ih
      | cons second others =>
        rw [List.intercalate_cons_cons] at ih ⊢
        rw [← ih]
        rfl

end ClauseSharing.Text
