import ClauseSharing.Number.Ranged
import ClauseSharing.Proofs.Text.Words

/-! # Decimal texts are read back

The text of an integer is one word, and it is read back as that integer
(`SignedDecimal.read?_toString`). A number of a range is read back from its text within every range
that holds it (`Ranged.ofText?_toString`). The texts that are read are those of the grammar
`SignedDecimal.Writes`, and no others (`SignedDecimal.readChars?_eq_some_iff`). -/

namespace ClauseSharing

namespace SignedDecimal

theorem digits_all_isDigit (number : Nat) : (Nat.toDigits 10 number).all Char.isDigit = true := by
  rw [List.all_eq_true]
  intro char inside
  exact Nat.isDigit_of_mem_toDigits (by decide) (by decide) inside

theorem readMagnitude?_toDigits (number : Nat) :
    readMagnitude? (Nat.toDigits 10 number) = some number := by
  rw [readMagnitude?, if_pos ⟨Nat.toDigits_ne_nil, digits_all_isDigit number⟩,
    Nat.ofDigitChars_ten_toDigits]

theorem readChars?_toDigits (number : Nat) :
    readChars? (Nat.toDigits 10 number) = some (number : Int) := by
  have magnitude := readMagnitude?_toDigits number
  have digits := digits_all_isDigit number
  generalize Nat.toDigits 10 number = chars at magnitude digits
  unfold readChars?
  split
  · exact absurd digits (by simp)
  · exact absurd digits (by simp)
  · rw [magnitude]
    rfl

theorem toList_toString_ofNat (number : Nat) :
    (toString (number : Int)).toList = Nat.toDigits 10 number := by
  rw [Int.toString_eq_repr, Int.repr_eq_if, if_pos (Int.natCast_nonneg number), Int.toNat_natCast,
    Nat.toList_repr]

theorem toList_toString_neg {int : Int} (negative : int < 0) :
    (toString int).toList = '-' :: Nat.toDigits 10 int.natAbs := by
  have magnitude : (-int).toNat = int.natAbs := by omega
  rw [Int.toString_eq_repr, Int.repr_eq_if, if_neg (by omega), magnitude, String.toList_append,
    Nat.toList_repr]
  rfl

/-- An integer is read back from its text. -/
theorem read?_toString (int : Int) : read? (toString int) = some int := by
  rw [read?]
  rcases Int.lt_or_le int 0 with negative | positive
  · have back : -(int.natAbs : Int) = int := by omega
    rw [toList_toString_neg negative, readChars?, readMagnitude?_toDigits]
    exact congrArg some back
  · obtain ⟨number, rfl⟩ := Int.eq_ofNat_of_zero_le positive
    rw [toList_toString_ofNat, readChars?_toDigits]

/-- Whether characters are one or more ASCII digits. -/
structure Digits (chars : List Char) : Prop where
  ne_nil : chars ≠ []
  digits : ∀ char ∈ chars, char.isDigit = true

/-- A text writes an integer if it is an optional sign and then the decimal digits of its magnitude,
any number of zeros first. -/
inductive Writes : List Char → Int → Prop where
  | unsigned {digits : List Char} : Digits digits → Writes digits (Nat.ofDigitChars 10 digits 0)
  | plus {digits : List Char} :
    Digits digits → Writes ('+' :: digits) (Nat.ofDigitChars 10 digits 0)
  | minus {digits : List Char} : Digits digits →
      Writes ('-' :: digits) (-(Nat.ofDigitChars 10 digits 0 : Nat))

theorem readMagnitude?_eq_some_iff {chars : List Char} {magnitude : Nat} :
    readMagnitude? chars = some magnitude ↔
      Digits chars ∧ Nat.ofDigitChars 10 chars 0 = magnitude := by
  rw [readMagnitude?]
  constructor
  · intro read
    split at read
    · rename_i accepted
      exact ⟨⟨accepted.1, List.all_eq_true.mp accepted.2⟩, Option.some.inj read⟩
    · exact nomatch read
  · rintro ⟨digits, rfl⟩
    exact if_pos ⟨digits.ne_nil, List.all_eq_true.mpr digits.digits⟩

/-- No sign is a digit, so the digits of an unsigned integer do not begin with one. -/
theorem Digits.readChars? {chars : List Char} (digits : Digits chars) :
    readChars? chars = (readMagnitude? chars).map Int.ofNat := by
  unfold SignedDecimal.readChars?
  split
  · exact absurd (digits.digits '-' (List.mem_cons_self ..)) (by decide)
  · exact absurd (digits.digits '+' (List.mem_cons_self ..)) (by decide)
  · rfl

/-- **A text is read as an integer exactly if it writes that integer.** -/
theorem readChars?_eq_some_iff {chars : List Char} {int : Int} :
    readChars? chars = some int ↔ Writes chars int := by
  constructor
  · intro read
    unfold readChars? at read
    split at read
    · obtain ⟨_, lifted, rfl⟩ := Option.map_eq_some_iff.mp read
      obtain ⟨magnitude, written, ⟨⟩⟩ := Option.bind_eq_some_iff.mp lifted
      obtain ⟨digits, rfl⟩ := readMagnitude?_eq_some_iff.mp written
      exact .minus digits
    · obtain ⟨magnitude, written, rfl⟩ := Option.map_eq_some_iff.mp read
      obtain ⟨digits, rfl⟩ := readMagnitude?_eq_some_iff.mp written
      exact .plus digits
    · obtain ⟨magnitude, written, rfl⟩ := Option.map_eq_some_iff.mp read
      obtain ⟨digits, rfl⟩ := readMagnitude?_eq_some_iff.mp written
      exact .unsigned digits
  · intro written
    cases written with
    | unsigned digits =>
      rw [digits.readChars?, readMagnitude?_eq_some_iff.mpr ⟨digits, rfl⟩]
      rfl
    | plus digits =>
      rw [readChars?, readMagnitude?_eq_some_iff.mpr ⟨digits, rfl⟩]
      rfl
    | minus digits =>
      rw [readChars?, readMagnitude?_eq_some_iff.mpr ⟨digits, rfl⟩]
      rfl

theorem isBlank_of_isDigit {char : Char} (digit : char.isDigit = true) :
    Text.isBlank char = false := by
  obtain ⟨least, greatest⟩ : 48 ≤ char.toNat ∧ char.toNat ≤ 57 := by
    rw [Char.isDigit, Bool.and_eq_true, decide_eq_true_iff, decide_eq_true_iff] at digit
    exact ⟨UInt32.le_iff_toNat_le.mp digit.1, UInt32.le_iff_toNat_le.mp digit.2⟩
  simp only [Text.isBlank, Text.blankRanges, List.any_cons, List.any_nil, Bool.or_false,
    Bool.or_eq_false_iff, Bool.and_eq_false_iff, decide_eq_false_iff_not]
  omega

/-- A text that writes an integer is one word. -/
theorem Writes.solid {chars : List Char} {int : Int} (written : Writes chars int) :
    Text.Solid chars := by
  have digits {chars : List Char} (digits : Digits chars) :
      ∀ char ∈ chars, Text.isBlank char = false :=
    fun char inside => isBlank_of_isDigit (digits.digits char inside)
  cases written with
  | unsigned written => exact ⟨written.ne_nil, digits written⟩
  | plus written => exact ⟨List.cons_ne_nil _ _, List.forall_mem_cons.mpr ⟨rfl, digits written⟩⟩
  | minus written => exact ⟨List.cons_ne_nil _ _, List.forall_mem_cons.mpr ⟨rfl, digits written⟩⟩

/-- A sign alone writes no integer. -/
theorem Writes.ne_sign {chars : List Char} {int : Int} (written : Writes chars int) :
    chars ≠ ['+'] ∧ chars ≠ ['-'] := by
  cases written with
  | unsigned digits =>
    constructor <;> (rintro rfl; exact absurd (digits.digits _ (List.mem_cons_self ..)) (by decide))
  | plus digits =>
    exact ⟨fun alone => digits.ne_nil (List.cons.inj alone).2,
      fun other => absurd (List.cons.inj other).1 (by decide)⟩
  | minus digits =>
    exact ⟨fun other => absurd (List.cons.inj other).1 (by decide),
      fun alone => digits.ne_nil (List.cons.inj alone).2⟩

theorem solid_toDigits (number : Nat) : Text.Solid (Nat.toDigits 10 number) where
  ne_nil := Nat.toDigits_ne_nil
  visible := fun _ inside =>
    isBlank_of_isDigit (Nat.isDigit_of_mem_toDigits (by decide) (by decide) inside)

theorem solid_toString (int : Int) : Text.Solid (toString int).toList := by
  rcases Int.lt_or_le int 0 with negative | positive
  · rw [toList_toString_neg negative]
    refine ⟨List.cons_ne_nil _ _, fun char inside => ?_⟩
    rcases List.mem_cons.mp inside with rfl | inside
    · rfl
    · exact (solid_toDigits _).visible char inside
  · obtain ⟨number, rfl⟩ := Int.eq_ofNat_of_zero_le positive
    rw [toList_toString_ofNat]
    exact solid_toDigits number

end SignedDecimal

namespace Ranged

variable {low high : Int}

/-- A number of a range is read back from its text. -/
theorem ofText?_toString {int : Int} (low_le : low ≤ int) (le_high : int ≤ high) :
    (ofText? (toString int) : Option (Ranged low high)) = some ⟨int, low_le, le_high⟩ := by
  have signed : ¬(0 ≤ low ∧ (toString int).toList.head? = some '-') := by
    rintro ⟨nonnegative, sign⟩
    obtain ⟨number, rfl⟩ := Int.eq_ofNat_of_zero_le (Int.le_trans nonnegative low_le)
    have digit := Nat.isDigit_of_mem_toDigits (by decide) (by decide)
      (List.mem_of_mem_head? (SignedDecimal.toList_toString_ofNat number ▸ sign))
    exact absurd digit (by decide)
  rw [ofText?, if_neg signed, SignedDecimal.read?_toString, Option.bind_some, ofInt?,
    dif_pos ⟨low_le, le_high⟩]

/-- Whether a text denotes a number of a range: an optional sign and then its decimal digits, where
the minus sign belongs to ranges with negative numbers only. -/
structure Denotes (text : String) (number : Ranged low high) : Prop where
  writes : SignedDecimal.Writes text.toList number.val
  sign : text.toList.head? = some '-' → low < 0

theorem ofInt?_eq_some_iff {int : Int} {number : Ranged low high} :
    ofInt? int = some number ↔ int = number.val := by
  rw [ofInt?]
  constructor
  · intro inside
    split at inside
    · cases inside
      rfl
    · cases inside
  · rintro rfl
    exact dif_pos ⟨number.low_le, number.le_high⟩

/-- **A text is read as a number of a range exactly if it denotes that number.** -/
theorem ofText?_eq_some_iff_denotes {text : String} {number : Ranged low high} :
    ofText? text = some number ↔ Denotes text number := by
  have written : (SignedDecimal.read? text).bind ofInt? = some number ↔
      SignedDecimal.Writes text.toList number.val := by
    simp only [Option.bind_eq_some_iff, ofInt?_eq_some_iff, SignedDecimal.read?,
      SignedDecimal.readChars?_eq_some_iff, exists_eq_right]
  rw [ofText?]
  constructor
  · intro read
    split at read
    · cases read
    · rename_i signed
      exact ⟨written.mp read, fun sign => Int.not_le.mp fun nonnegative =>
        signed ⟨nonnegative, sign⟩⟩
  · rintro ⟨writes, sign⟩
    rw [if_neg fun signed => absurd (sign signed.2) (Int.not_lt.mpr signed.1)]
    exact written.mpr writes

/-- Where the range has negative numbers, a text is read as a number of the range exactly if it
writes that number. -/
theorem ofText?_eq_some_iff (negative : low < 0) {text : String} {number : Ranged low high} :
    ofText? text = some number ↔ SignedDecimal.Writes text.toList number.val := by
  rw [ofText?_eq_some_iff_denotes]
  exact ⟨Denotes.writes, fun writes => ⟨writes, fun _ => negative⟩⟩

end Ranged

end ClauseSharing
