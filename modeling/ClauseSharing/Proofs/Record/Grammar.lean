import ClauseSharing.Proofs.Literal
import ClauseSharing.Proofs.Record
import ClauseSharing.Proofs.Text.Division
import Mathlib.Data.List.Forall2

/-! # The grammar of records

A record is a row of words that spell literals, closed by one that writes zero. Any other text
breaks the grammar somewhere, and the leftmost word at which it does decides what is reported
(`Record.Parses`). Reading follows the grammar on every text, and keeps in the buffer what was
spelled in front of that word (`Record.decodeInto_eq_iff`). -/

namespace ClauseSharing.Record

/-- Whether a word writes an integer of sixty-four bits. -/
def Writes (word : String) (int : Int) : Prop :=
  SignedDecimal.Writes word.toList int ∧ -9223372036854775808 ≤ int ∧ int ≤ 9223372036854775807

/-- Whether a word writes the wire integer of a literal, which is nonzero and at most as far from
zero as the number of atoms. -/
def Spells (word : String) (literal : Literal) : Prop :=
  ∃ int, Writes word int ∧ int ≠ 0 ∧ int.natAbs ≤ 4294967296 ∧ literal.toInt = int

/-- The grammar of records: words, the literals that those in front of the decisive word spell, and
what becomes of the record. -/
inductive Parses : List String → Clause → Except ReadError Unit → Prop where
  /-- The last word writes zero, and all others spell literals. -/
  | complete {front : List String} {clause : Clause} {last : String} :
      List.Forall₂ Spells front clause → Writes last 0 → Parses (front ++ [last]) clause (.ok ())
  /-- A word writes no integer of sixty-four bits. -/
  | token {front rest : List String} {clause : Clause} {word : String} :
      List.Forall₂ Spells front clause → (∀ int, ¬Writes word int) →
      Parses (front ++ word :: rest) clause (.error (.token word))
  /-- An integer is too far from zero to be the wire integer of a literal. -/
  | notLiteral {front rest : List String} {clause : Clause} {word : String} {int : Int} :
      List.Forall₂ Spells front clause → Writes word int → 4294967296 < int.natAbs →
      Parses (front ++ word :: rest) clause (.error (.notLiteral int))
  /-- A word, whatever it is, comes behind the one that writes zero. -/
  | trailing {front rest : List String} {clause : Clause} {last : String} :
      List.Forall₂ Spells front clause → Writes last 0 → rest ≠ [] →
      Parses (front ++ last :: rest) clause (.error .trailing)
  /-- All words spell literals, so none closes the record. -/
  | unterminated {words : List String} {clause : Clause} :
      List.Forall₂ Spells words clause → Parses words clause (.error .unterminated)

theorem ofText?_eq_some_iff_writes {word : String} {int : Int} :
    (∃ number : Long, Ranged.ofText? word = some number ∧ number.val = int) ↔ Writes word int := by
  constructor
  · rintro ⟨number, read, rfl⟩
    exact ⟨(Ranged.ofText?_eq_some_iff (by decide)).mp read, number.low_le, number.le_high⟩
  · rintro ⟨written, least, greatest⟩
    exact ⟨⟨int, least, greatest⟩, (Ranged.ofText?_eq_some_iff (by decide)).mpr written, rfl⟩

/-- A literal is read from the integers whose magnitude is that of a wire integer. -/
theorem readLiteral_cases {int : Int} (nonzero : int ≠ 0) :
    (∃ literal, readLiteral int = .ok literal ∧ int.natAbs ≤ 4294967296 ∧ literal.toInt = int) ∨
      (readLiteral int = .error (.notLiteral int) ∧ 4294967296 < int.natAbs) := by
  cases read : readLiteral int with
  | ok literal =>
    have wire := readLiteral_eq_ok_iff.mp read
    have small := literal.natAbs_toInt
    have bound := literal.atom.toNat_lt
    exact .inl ⟨literal, rfl, by omega, wire⟩
  | error reason =>
    obtain ⟨rfl, zero | large⟩ := readLiteral_eq_error_iff.mp read
    · exact absurd zero nonzero
    · exact .inr ⟨rfl, large⟩

section

variable {word : String} {rest : List String}

theorem readWords_of_spells {literal : Literal} (spells : Spells word literal) :
    readWords (word :: rest) = (literal :: (readWords rest).1, (readWords rest).2) := by
  obtain ⟨int, written, nonzero, small, wire⟩ := spells
  obtain ⟨number, read, rfl⟩ := ofText?_eq_some_iff_writes.mpr written
  have found : readLiteral number.val = .ok literal := by
    rw [readLiteral, ← wire, Literal.ofInt?_toInt]
  rw [readWords, read]
  simp only [if_neg nonzero, found]

theorem readWords_of_zero (zero : Writes word 0) :
    readWords (word :: rest) = ([], if rest.isEmpty then .ok () else .error .trailing) := by
  obtain ⟨number, read, isZero⟩ := ofText?_eq_some_iff_writes.mpr zero
  rw [readWords, read]
  simp only [if_pos isZero]

theorem readWords_of_not_writes (unreadable : ∀ int, ¬Writes word int) :
    readWords (word :: rest) = ([], .error (.token word)) := by
  have unread : (Ranged.ofText? word : Option Long) = none := by
    rw [Option.eq_none_iff_forall_ne_some]
    intro number read
    exact unreadable number.val (ofText?_eq_some_iff_writes.mp ⟨number, read, rfl⟩)
  rw [readWords, unread]

theorem readWords_of_large {int : Int} (written : Writes word int)
    (large : 4294967296 < int.natAbs) :
    readWords (word :: rest) = ([], .error (.notLiteral int)) := by
  obtain ⟨number, read, rfl⟩ := ofText?_eq_some_iff_writes.mpr written
  have nonzero : number.val ≠ 0 := by omega
  have refused : readLiteral number.val = .error (.notLiteral number.val) := by
    rcases readLiteral_cases nonzero with ⟨_, _, small, _⟩ | ⟨refused, _⟩
    · omega
    · exact refused
  rw [readWords, read]
  simp only [if_neg nonzero, refused]

/-- A word spells a literal, writes zero, writes an integer of no literal, or writes none that is
read. -/
theorem word_cases (word : String) :
    (∃ literal, Spells word literal) ∨ Writes word 0 ∨
      (∃ int, Writes word int ∧ 4294967296 < int.natAbs) ∨ ∀ int, ¬Writes word int := by
  by_cases readable : ∃ int, Writes word int
  · obtain ⟨int, written⟩ := readable
    by_cases zero : int = 0
    · exact .inr (.inl (zero ▸ written))
    · rcases readLiteral_cases zero with ⟨literal, -, small, wire⟩ | ⟨-, large⟩
      · exact .inl ⟨literal, int, written, zero, small, wire⟩
      · exact .inr (.inr (.inl ⟨int, written, large⟩))
  · exact .inr (.inr (.inr fun int written => readable ⟨int, written⟩))

end

theorem Parses.cons {word : String} {literal : Literal} (spells : Spells word literal)
    {words : List String} {clause : Clause} {outcome : Except ReadError Unit}
    (parses : Parses words clause outcome) : Parses (word :: words)
    (literal :: clause) outcome := by
  cases parses with
  | complete front zero => exact .complete (.cons spells front) zero
  | token front unreadable => exact .token (.cons spells front) unreadable
  | notLiteral front written large => exact .notLiteral (.cons spells front) written large
  | trailing front zero more => exact .trailing (.cons spells front) zero more
  | unterminated all => exact .unterminated (.cons spells all)

theorem parses_readWords (words : List String) :
    Parses words (readWords words).1 (readWords words).2 := by
  induction words with
  | nil => exact .unterminated .nil
  | cons word rest ih =>
    rcases word_cases word with ⟨literal, spells⟩ | zero | ⟨int, written, large⟩ | unreadable
    · rw [readWords_of_spells spells]
      exact ih.cons spells
    · rw [readWords_of_zero zero]
      cases rest with
      | nil =>
        have parses := Parses.complete .nil zero
        exact parses
      | cons next later =>
        have parses := Parses.trailing .nil zero (List.cons_ne_nil next later)
        exact parses
    · rw [readWords_of_large written large]
      have parses : Parses ([] ++ word :: rest) [] (.error (.notLiteral int)) :=
        .notLiteral .nil written large
      exact parses
    · rw [readWords_of_not_writes unreadable]
      have parses : Parses ([] ++ word :: rest) [] (.error (.token word)) := .token .nil unreadable
      exact parses

/-- Literals that are spelled are read, whatever comes behind them. -/
theorem readWords_append {front : List String} {clause : Clause}
    (spelled : List.Forall₂ Spells front clause) (rest : List String) :
    readWords (front ++ rest) = (clause ++ (readWords rest).1, (readWords rest).2) := by
  induction spelled with
  | nil => rfl
  | cons spells _ ih => rw [List.cons_append, readWords_of_spells spells, ih, List.cons_append]

theorem readWords_eq_iff {words : List String} {clause : Clause} {outcome : Except ReadError Unit} :
    readWords words = (clause, outcome) ↔ Parses words clause outcome := by
  constructor
  · intro read
    have parses := parses_readWords words
    rwa [read] at parses
  · intro parses
    cases parses with
    | complete front zero => simp [readWords_append front, readWords_of_zero zero]
    | token front unreadable => simp [readWords_append front, readWords_of_not_writes unreadable]
    | notLiteral front written large =>
      simp [readWords_append front, readWords_of_large written large]
    | trailing front zero more => simp [readWords_append front, readWords_of_zero zero, more]
    | unterminated all =>
      have read := readWords_append all []
      rwa [List.append_nil, readWords, List.append_nil] at read

/-- **Reading follows the grammar.** A text is divided into words, and the words decide, from the
left, what becomes of the record and what is put behind the literals that the buffer held. -/
theorem decodeInto_eq_iff {buffer after : Clause} {record : String}
    {outcome : Except ReadError Unit} :
    decodeInto buffer record = (after, outcome) ↔ ∃ words clause,
      Text.Divides record.toList (words.map String.toList) ∧ Parses words clause outcome ∧
        after = buffer ++ clause := by
  rw [decodeInto]
  constructor
  · intro read
    obtain ⟨rfl, rfl⟩ := Prod.mk.inj read
    exact ⟨_, _, Text.divides_toList_iff.mpr rfl, parses_readWords _, rfl⟩
  · rintro ⟨words, clause, divides, parses, rfl⟩
    rw [Text.divides_toList_iff.mp divides, readWords_eq_iff.mpr parses]

example : decodeInto [⟨0, true⟩] "-3 +00 x" = ([⟨0, true⟩, ⟨2, false⟩], .error .trailing) := by cbv

end ClauseSharing.Record
