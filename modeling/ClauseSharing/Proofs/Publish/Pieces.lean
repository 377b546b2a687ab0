import ClauseSharing.Peer.Publish
import ClauseSharing.Proofs.Text.Decimal
import ClauseSharing.Text.Marks

/-! # Cutting what is written

A list is cut from the front into pieces of the given width, until nothing is left
(`piecesOf_of_ne_nil`), so that only the last piece may be shorter and none is empty
(`cutInto_piecesOf`). Texts become writes under rising identifiers, and what is written in two parts
is numbered through (`StoreSettings.numbered_append`). No two of the keys are the same, since no
identifier has a colon in it (`StoreSettings.recordKey_injective`). -/

namespace ClauseSharing

section

variable {α : Type} {width : Nat}

/-- Consecutive pieces of a list: each of the given width but the last, which may be shorter, and
none empty. -/
structure CutInto (width : Nat) (list : List α) (pieces : List (List α)) : Prop where
  flatten : pieces.flatten = list
  nonempty : ∀ piece ∈ pieces, piece ≠ []
  narrow : ∀ piece ∈ pieces, piece.length ≤ width
  full : ∀ piece ∈ pieces.dropLast, piece.length = width

@[simp] theorem piecesOf_nil : piecesOf width ([] : List α) = [] := by
  rw [piecesOf]

/-- The first piece is as long as it may be, and the rest is cut in the same way. -/
theorem piecesOf_of_ne_nil (positive : 0 < width) {list : List α} (nonempty : list ≠ []) :
    piecesOf width list = list.take width :: piecesOf width (list.drop width) := by
  cases list with
  | nil => exact absurd rfl nonempty
  | cons first rest =>
    obtain ⟨less, rfl⟩ := Nat.exists_eq_succ_of_ne_zero (Nat.ne_of_gt positive)
    rw [piecesOf, if_neg (Nat.ne_of_gt positive)]
    rfl

theorem piecesOf_append (positive : 0 < width) {front : List α} (full : front.length = width)
    (rest : List α) : piecesOf width (front ++ rest) = front :: piecesOf width rest := by
  have nonempty : front ++ rest ≠ [] := by
    intro empty
    rw [(List.append_eq_nil_iff.mp empty).1] at full
    exact Nat.ne_of_lt positive full
  rw [piecesOf_of_ne_nil positive nonempty, List.take_left' full, List.drop_left' full]

theorem piecesOf_of_length_le (positive : 0 < width) {list : List α} (nonempty : list ≠ [])
    (narrow : list.length ≤ width) : piecesOf width list = [list] := by
  rw [piecesOf_of_ne_nil positive nonempty, List.take_of_length_le narrow,
    List.drop_of_length_le narrow, piecesOf_nil]

/-- What holds of the empty list, and of any other list if it holds of what is left of it when the
first piece is cut off, holds of every list. -/
theorem cutting_induction (positive : 0 < width) {motive : List α → Prop} (empty : motive [])
    (cut : ∀ list, list ≠ [] → motive (list.drop width) → motive list) (list : List α) :
    motive list := by
  generalize size : list.length = length
  induction length using Nat.strongRecOn generalizing list with
  | _ length ih =>
    by_cases nonempty : list = []
    · rw [nonempty]
      exact empty
    · have shorter : (list.drop width).length < length := by
        have := List.length_pos_iff.mpr nonempty
        rw [List.length_drop]
        omega
      exact cut list nonempty (ih _ shorter _ rfl)

theorem cutInto_piecesOf (positive : 0 < width) (list : List α) :
    CutInto width list (piecesOf width list) := by
  induction list using cutting_induction positive with
  | empty =>
    rw [piecesOf_nil]
    constructor <;> simp
  | cut list nonempty ih =>
    have someTaken : list.take width ≠ [] := by
      rw [ne_eq, List.take_eq_nil_iff]
      rintro (zero | empty)
      · exact Nat.ne_of_gt positive zero
      · exact nonempty empty
    rw [piecesOf_of_ne_nil positive nonempty]
    constructor
    · rw [List.flatten_cons, ih.flatten, List.take_append_drop]
    · exact List.forall_mem_cons.mpr ⟨someTaken, ih.nonempty⟩
    · exact List.forall_mem_cons.mpr ⟨List.length_take_le .., ih.narrow⟩
    · by_cases last : list.drop width = []
      · rw [last, piecesOf_nil]
        simp
      · -- Something is left, so this piece is not the last one and as long as it may be.
        have long : width ≤ list.length := by
          rw [List.drop_eq_nil_iff] at last
          omega
        have more : piecesOf width (list.drop width) ≠ [] := by
          rw [piecesOf_of_ne_nil positive last]
          exact List.cons_ne_nil _ _
        rw [List.dropLast_cons_of_ne_nil more]
        exact List.forall_mem_cons.mpr ⟨List.length_take_of_le long, ih.full⟩

end

namespace StoreSettings

theorem toList_recordKey (settings : StoreSettings) (identifier : Nat) :
    (settings.recordKey identifier).toList =
      settings.stem.toList ++ ':' :: Nat.toDigits 10 identifier := by
  have digits : (toString identifier).toList = Nat.toDigits 10 identifier := Nat.toList_repr
  rw [recordKey, String.toList_append, String.toList_append, digits, List.append_assoc]
  rfl

/-- The last colon of a key stands between the stem and the identifier. -/
theorem cutLast_recordKey (settings : StoreSettings) (identifier : Nat) :
    Text.cutLast ':' (settings.recordKey identifier).toList =
      some (settings.stem.toList, Nat.toDigits 10 identifier) := by
  rw [toList_recordKey]
  apply Text.cutLast_append
  intro colon
  have digit := List.all_eq_true.mp (SignedDecimal.digits_all_isDigit identifier) ':' colon
  exact absurd digit (by decide)

/-- The key of a record tells the stem and the identifier. -/
theorem recordKey_injective {one other : StoreSettings} {first second : Nat}
    (same : one.recordKey first = other.recordKey second) :
    one.stem = other.stem ∧ first = second := by
  have cut := one.cutLast_recordKey first
  rw [same, other.cutLast_recordKey] at cut
  obtain ⟨stems, digits⟩ := Prod.mk.inj (Option.some.inj cut)
  refine ⟨(String.toList_injective stems).symm, ?_⟩
  have read := SignedDecimal.readMagnitude?_toDigits first
  rw [← digits, SignedDecimal.readMagnitude?_toDigits] at read
  exact (Option.some.inj read).symm

variable (settings : StoreSettings) (first : Nat)

/-- Texts as writes, where the text at each place goes under the identifier so many after the
first. -/
def numbered (texts : List String) : List Write :=
  texts.mapIdx fun index text => (settings.recordKey (first + index), text)

@[simp] theorem numbered_nil : settings.numbered first [] = [] := rfl

@[simp] theorem numbered_cons (text : String) (texts : List String) :
    settings.numbered first (text :: texts) =
      (settings.recordKey first, text) :: settings.numbered (first + 1) texts := by
  simp only [numbered, List.mapIdx_cons, Nat.add_zero, Nat.add_assoc, Nat.add_comm 1]

@[simp] theorem length_numbered (texts : List String) :
    (settings.numbered first texts).length = texts.length := List.length_mapIdx

theorem map_snd_numbered (texts : List String) :
    (settings.numbered first texts).map Prod.snd = texts := by
  induction texts generalizing first with
  | nil => rfl
  | cons text texts ih => rw [numbered_cons, List.map_cons, ih]

/-- The keys are those of the identifiers from the first on. -/
theorem map_fst_numbered (texts : List String) :
    (settings.numbered first texts).map Prod.fst =
      (List.range' first texts.length).map settings.recordKey := by
  induction texts generalizing first with
  | nil => rfl
  | cons text texts ih =>
    rw [numbered_cons, List.map_cons, ih, List.length_cons, List.range'_succ, List.map_cons]

theorem getElem?_numbered (texts : List String) (index : Nat) :
    (settings.numbered first texts)[index]? =
      texts[index]?.map fun text => (settings.recordKey (first + index), text) :=
  List.getElem?_mapIdx

theorem exists_of_mem_numbered {texts : List String} {pair : Write}
    (inside : pair ∈ settings.numbered first texts) :
    ∃ identifier, ∃ text ∈ texts, pair = (settings.recordKey identifier, text) := by
  obtain ⟨index, bound, rfl⟩ := List.mem_mapIdx.mp inside
  exact ⟨first + index, texts[index], List.getElem_mem bound, rfl⟩

theorem numbered_append (front rest : List String) :
    settings.numbered first (front ++ rest) =
      settings.numbered first front ++ settings.numbered (first + front.length) rest := by
  simp only [numbered, List.mapIdx_append, Nat.add_comm front.length, Nat.add_assoc]

theorem take_numbered (count : Nat) (texts : List String) :
    (settings.numbered first texts).take count = settings.numbered first (texts.take count) := by
  apply List.ext_getElem?
  intro index
  by_cases before : index < count
  · simp only [List.getElem?_take_of_lt before, getElem?_numbered]
  · simp only [List.getElem?_take_eq_none (Nat.le_of_not_lt before), getElem?_numbered,
      Option.map_none]

theorem drop_numbered (count : Nat) (texts : List String) :
    (settings.numbered first texts).drop count =
      settings.numbered (first + (texts.take count).length) (texts.drop count) := by
  rcases Nat.le_total count texts.length with inside | beyond
  · rw [List.length_take_of_le inside]
    apply List.ext_getElem?
    intro index
    simp only [List.getElem?_drop, getElem?_numbered, Nat.add_assoc]
  · have numberedBeyond : (settings.numbered first texts).length ≤ count := by
      rw [length_numbered]
      exact beyond
    rw [List.drop_of_length_le numberedBeyond, List.drop_of_length_le beyond, numbered_nil]

end StoreSettings

namespace IdCounter

variable {counter : IdCounter} {count : Nat}

theorem next_advance (enough : count ≤ counter.remaining) :
    (counter.advance count).next = counter.next + count := by
  have bound := counter.next_le
  unfold remaining limit at enough
  exact Nat.min_eq_left (by unfold limit; omega)

theorem remaining_advance (enough : count ≤ counter.remaining) :
    (counter.advance count).remaining = counter.remaining - count := by
  rw [remaining, next_advance enough, remaining]
  omega

theorem advance_advance (first second : Nat) :
    (counter.advance first).advance second = counter.advance (first + second) := by
  apply IdCounter.ext
  simp only [advance, startingAt, limit]
  omega

theorem take?_of_le (enough : 1 ≤ counter.remaining) :
    counter.take? = some (counter.next, counter.advance 1) := if_pos enough

theorem takeMany?_of_le (enough : count ≤ counter.remaining) :
    counter.takeMany? count = some (List.range' counter.next count, counter.advance count) :=
  if_pos enough

@[simp] theorem advance_zero : counter.advance 0 = counter := by
  apply IdCounter.ext
  simp only [advance, startingAt, limit]
  have bound := counter.next_le
  omega

end IdCounter

end ClauseSharing
