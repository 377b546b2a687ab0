/-! # Rising order

Lists are put in rising order of a number that each entry has. Entries of one number stay in the
order in which they were. -/

namespace ClauseSharing

variable {α ι : Type} [LE ι] [DecidableLE ι]

/-- Puts an entry in front of the first one whose number is not below its own. -/
def insertRising (number : α → ι) (entry : α) : List α → List α
  | [] => [entry]
  | first :: rest =>
    if number entry ≤ number first then entry :: first :: rest
    else first :: insertRising number entry rest

/-- The entries by rising numbers. -/
def sortRising (number : α → ι) (entries : List α) : List α :=
  entries.foldr (insertRising number) []

theorem insertRising_perm (number : α → ι) (entry : α) (entries : List α) :
    (insertRising number entry entries).Perm (entry :: entries) := by
  induction entries with
  | nil => exact .refl _
  | cons first rest ih =>
    rw [insertRising]
    split
    · exact .refl _
    · exact (ih.cons first).trans (.swap ..)

/-- Sorting neither loses nor adds an entry. -/
theorem sortRising_perm (number : α → ι) (entries : List α) :
    (sortRising number entries).Perm entries := by
  induction entries with
  | nil => exact .refl _
  | cons first rest ih => exact (insertRising_perm ..).trans (ih.cons first)

theorem pairwise_insertRising [Std.IsLinearPreorder ι] (number : α → ι)
    (entry : α) {entries : List α} (rising : entries.Pairwise (number · ≤ number ·)) :
    (insertRising number entry entries).Pairwise (number · ≤ number ·) := by
  induction entries with
  | nil => exact List.pairwise_singleton ..
  | cons first rest ih =>
    obtain ⟨below, restRising⟩ := List.pairwise_cons.mp rising
    rw [insertRising]
    split
    · rename_i before
      refine List.pairwise_cons.mpr ⟨fun other inside => ?_, rising⟩
      rcases List.mem_cons.mp inside with rfl | inside
      · exact before
      · exact Std.le_trans before (below other inside)
    · rename_i behind
      refine List.pairwise_cons.mpr ⟨fun other inside => ?_, ih restRising⟩
      rcases List.mem_cons.mp ((insertRising_perm ..).mem_iff.mp inside) with rfl | inside
      · exact Std.le_of_not_ge behind
      · exact below other inside

/-- Sorted entries have rising numbers. -/
theorem pairwise_sortRising [Std.IsLinearPreorder ι] (number : α → ι) (entries : List α) :
    (sortRising number entries).Pairwise (number · ≤ number ·) := by
  induction entries with
  | nil => exact .nil
  | cons first rest ih => exact pairwise_insertRising number first ih

end ClauseSharing
