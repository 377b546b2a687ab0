import ClauseSharing.Text.Utf8

/-! # Texts survive being sent

Every character of a text is sent as one to four bytes, each of which satisfies what the first one
asks of those behind it (`Utf8.firstFlaw_utf8EncodeChar`). So the bytes of a text have no flaw, and
they are read as the text (`Utf8.decode_encode`). -/

namespace ClauseSharing.Utf8

variable {first second : UInt8}

theorem isContinuation_of_toNat (low : 128 ≤ first.toNat) (high : first.toNat ≤ 191) :
    isContinuation first = true := by
  rw [isContinuation, Bool.and_eq_true, decide_eq_true_iff, decide_eq_true_iff]
  exact ⟨low, high⟩

theorem followers_of_ascii (high : first.toNat ≤ 127) : followers first = some [] := by
  have ascii : first < 0x80 := Nat.lt_succ_of_le high
  rw [followers, if_pos ascii]

theorem not_lt_of_toNat {bound : UInt8} (least : bound.toNat ≤ first.toNat) : ¬first < bound :=
  Nat.not_lt_of_le least

theorem not_le_of_toNat {bound : UInt8} (above : bound.toNat < first.toNat) : ¬first ≤ bound :=
  Nat.not_le_of_lt above

theorem followers_of_two (low : 194 ≤ first.toNat) (high : first.toNat ≤ 223) :
    followers first = some [isContinuation] := by
  have notOne : ¬first < 0x80 := not_lt_of_toNat (Nat.le_trans (by decide) low)
  have start : ¬first < 0xC2 := not_lt_of_toNat low
  have two : first ≤ 0xDF := high
  rw [followers, if_neg notOne, if_neg start, if_pos two]

/-- Behind the first of three bytes comes one that rules out longer forms and surrogates. -/
theorem followers_of_three (low : 224 ≤ first.toNat) (high : first.toNat ≤ 239)
    (more : 128 ≤ second.toNat) (less : second.toNat ≤ 191)
    (shortest : first.toNat = 224 → 160 ≤ second.toNat)
    (noSurrogate : first.toNat = 237 → second.toNat ≤ 159) :
    ∃ test, followers first = some [test, isContinuation] ∧ test second = true := by
  have notOne : ¬first < 0x80 := not_lt_of_toNat (Nat.le_trans (by decide) low)
  have start : ¬first < 0xC2 := not_lt_of_toNat (Nat.le_trans (by decide) low)
  have notTwo : ¬first ≤ 0xDF := not_le_of_toNat low
  have three : first ≤ 0xEF := high
  rw [followers, if_neg notOne, if_neg start, if_neg notTwo, if_pos three]
  refine ⟨_, rfl, ?_⟩
  rw [Bool.and_eq_true, decide_eq_true_iff, decide_eq_true_iff]
  constructor
  · split
    · rename_i same
      exact shortest (congrArg UInt8.toNat same)
    · exact more
  · split
    · rename_i same
      exact noSurrogate (congrArg UInt8.toNat same)
    · exact less

/-- Behind the first of four bytes comes one that rules out longer forms and numbers past the last
code point. -/
theorem followers_of_four (low : 240 ≤ first.toNat) (high : first.toNat ≤ 244)
    (more : 128 ≤ second.toNat) (less : second.toNat ≤ 191)
    (shortest : first.toNat = 240 → 144 ≤ second.toNat)
    (greatest : first.toNat = 244 → second.toNat ≤ 143) :
    ∃ test, followers first = some [test, isContinuation, isContinuation] ∧ test second = true := by
  have notOne : ¬first < 0x80 := not_lt_of_toNat (Nat.le_trans (by decide) low)
  have start : ¬first < 0xC2 := not_lt_of_toNat (Nat.le_trans (by decide) low)
  have notTwo : ¬first ≤ 0xDF := not_le_of_toNat (Nat.le_trans (by decide) low)
  have notThree : ¬first ≤ 0xEF := not_le_of_toNat low
  have four : first ≤ 0xF4 := high
  rw [followers, if_neg notOne, if_neg start, if_neg notTwo, if_neg notThree, if_pos four]
  refine ⟨_, rfl, ?_⟩
  rw [Bool.and_eq_true, decide_eq_true_iff, decide_eq_true_iff]
  constructor
  · split
    · rename_i same
      exact shortest (congrArg UInt8.toNat same)
    · exact more
  · split
    · rename_i same
      exact greatest (congrArg UInt8.toNat same)
    · exact less

theorem toNat_ofNat {number : Nat} (bounded : number < 256) : (UInt8.ofNat number).toNat = number :=
  UInt8.toNat_ofNat_of_lt bounded

/-! The bytes of a character, by the number of them. -/

section

variable {number : Nat}

theorem isContinuation_ofNat (number : Nat) :
    isContinuation (UInt8.ofNat (number % 64 + 128)) = true := by
  have byte : (UInt8.ofNat (number % 64 + 128)).toNat = number % 64 + 128 := toNat_ofNat (by omega)
  exact isContinuation_of_toNat (by omega) (by omega)

theorem followers_ofNat_one (high : number ≤ 127) : followers (UInt8.ofNat number) = some [] := by
  have byte : (UInt8.ofNat number).toNat = number := toNat_ofNat (by omega)
  exact followers_of_ascii (by omega)

theorem followers_ofNat_two (low : 127 < number) (high : number ≤ 2047) :
    followers (UInt8.ofNat (number / 64 % 32 + 192)) = some [isContinuation] := by
  have byte : (UInt8.ofNat (number / 64 % 32 + 192)).toNat = number / 64 % 32 + 192 :=
    toNat_ofNat (by omega)
  exact followers_of_two (by omega) (by omega)

theorem followers_ofNat_three (low : 2047 < number) (high : number ≤ 65535)
    (noSurrogate : number < 55296 ∨ 57343 < number) :
    ∃ test, followers (UInt8.ofNat (number / 4096 % 16 + 224)) = some [test, isContinuation] ∧
      test (UInt8.ofNat (number / 64 % 64 + 128)) = true := by
  have byte : (UInt8.ofNat (number / 4096 % 16 + 224)).toNat = number / 4096 % 16 + 224 :=
    toNat_ofNat (by omega)
  have next : (UInt8.ofNat (number / 64 % 64 + 128)).toNat = number / 64 % 64 + 128 :=
    toNat_ofNat (by omega)
  apply followers_of_three <;> omega

theorem followers_ofNat_four (low : 65535 < number) (high : number < 1114112) :
    ∃ test, followers (UInt8.ofNat (number / 262144 % 8 + 240)) =
        some [test, isContinuation, isContinuation] ∧
      test (UInt8.ofNat (number / 4096 % 64 + 128)) = true := by
  have byte : (UInt8.ofNat (number / 262144 % 8 + 240)).toNat = number / 262144 % 8 + 240 :=
    toNat_ofNat (by omega)
  have next : (UInt8.ofNat (number / 4096 % 64 + 128)).toNat = number / 4096 % 64 + 128 :=
    toNat_ofNat (by omega)
  apply followers_of_four <;> omega

end

section

variable {index start : Nat} {tests : List (UInt8 → Bool)} {test : UInt8 → Bool} {byte : UInt8}
  {rest : List UInt8}

theorem firstFlaw_cons_of_test (good : test byte = true) :
    firstFlaw index start (test :: tests) (byte :: rest) = firstFlaw
      (index + 1) start tests rest := by
  rw [firstFlaw, if_pos good]

theorem firstFlaw_cons_of_followers (follows : followers byte = some tests) :
    firstFlaw index start [] (byte :: rest) = firstFlaw (index + 1) index tests rest := by
  rw [firstFlaw, follows]

/-- The bytes of a character have no flaw, if those behind it have none. -/
theorem firstFlaw_utf8EncodeChar (char : Char)
    (sound : ∀ index start, firstFlaw index start [] rest = none) (index start : Nat) :
    firstFlaw index start [] (String.utf8EncodeChar char ++ rest) = none := by
  have valid : char.val.toNat < 55296 ∨ 57343 < char.val.toNat ∧ char.val.toNat < 1114112 :=
    char.valid
  unfold String.utf8EncodeChar
  dsimp only
  generalize char.val.toNat = number at valid ⊢
  by_cases one : number ≤ 127
  · rw [if_pos one]
    exact (firstFlaw_cons_of_followers (followers_ofNat_one one)).trans (sound _ _)
  · rw [if_neg one]
    by_cases two : number ≤ 2047
    · rw [if_pos two]
      refine (firstFlaw_cons_of_followers (followers_ofNat_two (by omega) two)).trans ?_
      exact (firstFlaw_cons_of_test (isContinuation_ofNat _)).trans (sound _ _)
    · rw [if_neg two]
      by_cases three : number ≤ 65535
      · rw [if_pos three]
        obtain ⟨test, follows, good⟩ := followers_ofNat_three (by omega) three (by omega)
        refine (firstFlaw_cons_of_followers follows).trans ?_
        refine (firstFlaw_cons_of_test good).trans ?_
        exact (firstFlaw_cons_of_test (isContinuation_ofNat _)).trans (sound _ _)
      · rw [if_neg three]
        obtain ⟨test, follows, good⟩ := followers_ofNat_four (by omega : 65535 < number) (by omega)
        refine (firstFlaw_cons_of_followers follows).trans ?_
        refine (firstFlaw_cons_of_test good).trans ?_
        refine (firstFlaw_cons_of_test (isContinuation_ofNat _)).trans ?_
        exact (firstFlaw_cons_of_test (isContinuation_ofNat _)).trans (sound _ _)

end

/-- **A text is read as it was sent.** -/
theorem decode_encode (text : String) : decode (encode text) = .ok text := by
  obtain ⟨bytes, ⟨chars, same⟩⟩ := text
  subst same
  have unflawed (index start : Nat) :
      firstFlaw index start [] (chars.flatMap String.utf8EncodeChar) = none := by
    induction chars generalizing index start with
    | nil => rfl
    | cons char chars ih =>
      rw [List.flatMap_cons]
      exact firstFlaw_utf8EncodeChar char ih index start
  have bytes : encode ⟨chars.utf8Encode, ⟨chars, rfl⟩⟩ = chars.flatMap String.utf8EncodeChar :=
    List.toList_data_toByteArray
  have back : (⟨(chars.flatMap String.utf8EncodeChar).toArray⟩ : ByteArray) = chars.utf8Encode := by
    apply ByteArray.ext
    rw [← Array.toList_inj]
    exact List.toList_data_toByteArray.symm
  have valid : chars.utf8Encode.IsValidUTF8 := ⟨chars, rfl⟩
  rw [bytes, decode, unflawed, back, String.fromUTF8?, dif_pos valid]
  rfl

end ClauseSharing.Utf8
