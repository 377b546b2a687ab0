import ClauseSharing.Record
import ClauseSharing.Proofs.Text.Decimal

/-! # Records are read back

Reading the record of a clause gives that clause, whatever its literals are and however often they
are repeated (`Record.decode_encode`), and puts it behind what a buffer holds
(`Record.decodeInto_encode`). -/

namespace ClauseSharing.Record

theorem encode_cons (literal : Literal) (rest : Clause) :
    encode (literal :: rest) = toString literal.toInt ++ " " ++ encode rest := by
  rw [encode, encode, List.map_cons, String.join_cons, String.append_assoc]

/-- The words of a record are the wire integers and the closing zero. -/
theorem wordsOf_encode (clause : Clause) :
    Text.wordsOf (encode clause) = clause.map (fun literal => toString literal.toInt) ++ ["0"] := by
  induction clause with
  | nil => exact Text.wordsOf_solid (SignedDecimal.solid_toString 0)
  | cons literal rest ih =>
    rw [encode_cons, Text.wordsOf_append_space (SignedDecimal.solid_toString literal.toInt), ih,
      List.map_cons, List.cons_append]

theorem readWords_toInt_cons (literal : Literal) (words : List String) :
    readWords (toString literal.toInt :: words) =
      (literal :: (readWords words).1, (readWords words).2) := by
  have magnitude := Literal.natAbs_toInt literal
  have bound := literal.atom.toNat_lt
  have read : (Ranged.ofText? (toString literal.toInt) : Option Long) =
      some ⟨literal.toInt, by omega, by omega⟩ := Ranged.ofText?_toString _ _
  have nonzero : literal.toInt ≠ 0 := by omega
  rw [readWords, read]
  simp only [if_neg nonzero, readLiteral, Literal.ofInt?_toInt]

theorem readWords_encoded (clause : Clause) :
    readWords (clause.map (fun literal => toString literal.toInt) ++ ["0"]) = (clause, .ok ()) := by
  induction clause with
  | nil => rfl
  | cons literal rest ih => rw [List.map_cons, List.cons_append, readWords_toInt_cons, ih]

/-- The record of a clause is read behind what the buffer holds. -/
theorem decodeInto_encode (buffer clause : Clause) :
    decodeInto buffer (encode clause) = (buffer ++ clause, .ok ()) := by
  rw [decodeInto, wordsOf_encode, readWords_encoded]

@[simp]
theorem decode_encode (clause : Clause) : decode (encode clause) = .ok clause := by
  rw [decode, decodeInto_encode, List.nil_append]

end ClauseSharing.Record
