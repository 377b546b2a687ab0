import ClauseSharing.Proofs.Record
import Mathlib.Logic.Function.Basic

/-! # The normal form of a record

The record of a clause is the one text under which the clause is written, and it is read back as
that clause. So any text that is read can be replaced by the normal form of what it holds, and doing
so twice changes nothing more. Without the closing zero the text of a clause is refused, and a zero
put behind it makes it readable again (`Record.decoding_undoes_encoding`). -/

namespace ClauseSharing.Record

theorem encodeOpen_cons_cons (first second : Literal) (rest : Clause) :
    encodeOpen (first :: second :: rest) =
      toString first.toInt ++ " " ++ encodeOpen (second :: rest) :=
  String.intercalate_cons_cons

theorem encodeOpen_singleton (literal : Literal) :
    encodeOpen [literal] = toString literal.toInt :=
  String.intercalate_singleton

/-- A record of at least one literal is its open form, a space and the closing zero. -/
theorem encode_of_ne_nil {clause : Clause} (nonempty : clause ≠ []) :
    encode clause = encodeOpen clause ++ " 0" := by
  induction clause with
  | nil => exact absurd rfl nonempty
  | cons first rest ih =>
    cases rest with
    | nil =>
      rw [encode_cons, encodeOpen_singleton, String.append_assoc]
      rfl
    | cons second others =>
      rw [encode_cons, encodeOpen_cons_cons, ih (List.cons_ne_nil _ _), String.append_assoc,
        String.append_assoc, String.append_assoc]

/-- Dropping the zero and the space leaves the integers with spaces between them. -/
theorem dimacs_false (clause : Clause) : dimacs false clause = encodeOpen clause := by
  cases clause with
  | nil => rfl
  | cons literal rest =>
    have closed : (encode (literal :: rest)).toList =
        (encodeOpen (literal :: rest)).toList ++ [' '] ++ ['0'] := by
      rw [encode_of_ne_nil (List.cons_ne_nil _ _), String.toList_append, List.append_assoc]
      rfl
    rw [dimacs, if_neg Bool.false_ne_true, closed, List.dropLast_concat, List.dropLast_concat,
      String.ofList_toList]

theorem wordsOf_encodeOpen (clause : Clause) :
    Text.wordsOf (encodeOpen clause) = clause.map fun literal => toString literal.toInt := by
  induction clause with
  | nil => simp [encodeOpen, Text.wordsOf, Text.words]
  | cons first rest ih =>
    have solid := SignedDecimal.solid_toString first.toInt
    cases rest with
    | nil =>
      rw [encodeOpen_singleton, Text.wordsOf_solid solid, List.map_singleton]
    | cons second others =>
      rw [encodeOpen_cons_cons, Text.wordsOf_append_space solid, ih]
      rfl

/-- Where no zero closes the literals, all of them are read and then the end is missed. -/
theorem readWords_open (clause : Clause) :
    readWords (clause.map fun literal => toString literal.toInt) =
      (clause, .error .unterminated) := by
  induction clause with
  | nil => rfl
  | cons literal rest ih => rw [List.map_cons, readWords_toInt_cons, ih]

theorem decode_encodeOpen (clause : Clause) :
    decode (encodeOpen clause) = .error .unterminated := by
  rw [decode, decodeInto, wordsOf_encodeOpen, readWords_open]

theorem decode_encodeOpen_zero (clause : Clause) :
    decode (encodeOpen clause ++ " 0") = .ok clause := by
  cases clause with
  | nil =>
    have spaced : decode (" " ++ encode []) = decode (encode []) := by
      rw [decode, decode, decodeInto, decodeInto, Text.wordsOf_space_append]
    exact spaced.trans (decode_encode [])
  | cons literal rest => rw [← encode_of_ne_nil (List.cons_ne_nil _ _), decode_encode]

theorem encode_injective : Function.Injective encode := by
  intro one other same
  have read := congrArg decode same
  rw [decode_encode, decode_encode] at read
  exact Except.ok.inj read

/-- The normal form of a record holds what the record holds. -/
theorem decode_normalize (record : String) : (normalize record).bind decode = decode record := by
  rw [normalize]
  cases decode record with
  | error reason => rfl
  | ok clause => exact decode_encode clause

/-- A normal form is its own normal form. -/
theorem normalize_normalize (record : String) :
    (normalize record).bind normalize = normalize record := by
  rw [normalize]
  cases decode record with
  | error reason => rfl
  | ok clause =>
    have fixed : normalize (encode clause) = .ok (encode clause) := by
      rw [normalize, decode_encode]
      rfl
    exact fixed

/-- **Decoding undoes encoding.** The record of any clause is read back behind whatever a buffer
holds, so different clauses have different records, and a text that is read has a normal form, which
holds the same clause and is its own normal form. With its zero the open form of a clause is the
record, without it is refused, and a zero behind it makes it readable. -/
theorem decoding_undoes_encoding :
    (∀ buffer clause : Clause, decodeInto buffer (encode clause) = (buffer ++ clause, .ok ())) ∧
    (∀ clause : Clause, decode (encode clause) = .ok clause) ∧
    Function.Injective encode ∧
    (∀ record : String, (normalize record).bind decode = decode record ∧
      (normalize record).bind normalize = normalize record) ∧
    ∀ clause : Clause, dimacs true clause = encode clause ∧
    dimacs false clause = encodeOpen clause ∧
      decode (dimacs false clause) = .error .unterminated ∧
      decode (dimacs false clause ++ " 0") = .ok clause := by
  refine ⟨decodeInto_encode, decode_encode, encode_injective,
    fun record => ⟨decode_normalize record, normalize_normalize record⟩, fun clause => ?_⟩
  rw [dimacs_false]
  exact ⟨rfl, rfl, decode_encodeOpen clause, decode_encodeOpen_zero clause⟩

end ClauseSharing.Record
