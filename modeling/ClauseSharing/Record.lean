import ClauseSharing.Clause
import ClauseSharing.Number.Ranged
import ClauseSharing.Text.Blank

/-! # Records

A record is the text under which a clause is shared: the wire integer of each literal followed by
a space, and a closing `0`. Writing keeps the order and the repetition of literals. Reading splits
the text at blanks, takes any signed decimal for a literal, and stops at the first offence. -/

namespace ClauseSharing.Record

/-- Why a text is no record. -/
inductive ReadError where
  /-- A word that is no signed integer of sixty-four bits. -/
  | token (word : String)
  /-- A word after the closing zero. -/
  | trailing
  /-- No closing zero. -/
  | unterminated
  /-- An integer that is the wire form of no literal. -/
  | notLiteral (int : Int)
deriving DecidableEq

/-- The record of a clause. -/
def encode (clause : Clause) : String :=
  String.join (clause.map fun literal => toString literal.toInt ++ " ") ++ "0"

/-- The record of the clause of one literal. -/
def encodeUnit (literal : Literal) : String :=
  encode [literal]

/-- The wire integers of a clause, separated by spaces, without the closing zero. -/
def encodeOpen (clause : Clause) : String :=
  " ".intercalate (clause.map fun literal => toString literal.toInt)

/-- The text of a clause with the closing zero, or without the zero and the space in front of it, as
far as there is one. -/
def dimacs (closed : Bool) (clause : Clause) : String :=
  if closed then encode clause else String.ofList (encode clause).toList.dropLast.dropLast

/-- The literal with the given wire integer. -/
def readLiteral (int : Int) : Except ReadError Literal :=
  match Literal.ofInt? int with
  | some literal => .ok literal
  | none => .error (.notLiteral int)

/-- The literals written before the record ends or fails, and how it does. -/
def readWords : List String → Clause × Except ReadError Unit
  | [] => ([], .error .unterminated)
  | word :: rest =>
    match (Ranged.ofText? word : Option Long) with
    | none => ([], .error (.token word))
    | some int =>
      if int.val = 0 then
        ([], if rest.isEmpty then .ok () else .error .trailing)
      else
        match readLiteral int.val with
        | .error reason => ([], .error reason)
        | .ok literal =>
          let (literals, outcome) := readWords rest
          (literal :: literals, outcome)

/-- Reads a record behind the literals that a buffer already holds. On an error the buffer keeps
the literals before the offence. -/
def decodeInto (buffer : Clause) (record : String) : Clause × Except ReadError Unit :=
  let (literals, outcome) := readWords (Text.wordsOf record)
  (buffer ++ literals, outcome)

/-- The clause that a record holds. -/
def decode (record : String) : Except ReadError Clause :=
  match decodeInto [] record with
  | (clause, .ok ()) => .ok clause
  | (_, .error reason) => .error reason

/-- The normal form of what a record holds. -/
def normalize (record : String) : Except ReadError String := (decode record).map encode

end ClauseSharing.Record
