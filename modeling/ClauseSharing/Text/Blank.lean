/-! # Blank characters

The Unicode property `White_Space`, which holds of twenty-five characters, and the words of a
text: its longest runs of other characters. -/

namespace ClauseSharing.Text

/-- The inclusive ranges of code points with the property `White_Space`. -/
def blankRanges : List (Nat × Nat) :=
  [(0x09, 0x0D), (0x20, 0x20), (0x85, 0x85), (0xA0, 0xA0), (0x1680, 0x1680), (0x2000, 0x200A),
    (0x2028, 0x2029), (0x202F, 0x202F), (0x205F, 0x205F), (0x3000, 0x3000)]

/-- Whether a character has the property `White_Space`. -/
def isBlank (char : Char) : Bool :=
  blankRanges.any fun (first, last) => first ≤ char.toNat && char.toNat ≤ last

/-- Everything before the first blank. -/
def untilBlank (chars : List Char) : List Char :=
  chars.takeWhile fun char => !isBlank char

/-- Everything from the first blank on. -/
def fromBlank (chars : List Char) : List Char :=
  chars.dropWhile fun char => !isBlank char

theorem length_fromBlank_le (chars : List Char) : (fromBlank chars).length ≤ chars.length :=
  (List.dropWhile_sublist _).length_le

/-- The longest runs of characters that are not blank, in order. -/
def words : List Char → List (List Char)
  | [] => []
  | char :: rest =>
    if isBlank char then words rest
    else (char :: untilBlank rest) :: words (fromBlank rest)
termination_by chars => chars.length
decreasing_by
  · simp
  · have shorter := length_fromBlank_le rest
    simp only [List.length_cons]
    omega

/-- The words of a string. -/
def wordsOf (text : String) : List String :=
  (words text.toList).map String.ofList

end ClauseSharing.Text
