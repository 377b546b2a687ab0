import ClauseSharing.Literal

/-! # Clauses

A clause is the disjunction of its literals, kept as a list: the order and the repetition of
literals are part of a clause, and sharing a clause changes neither. -/

namespace ClauseSharing

/-- A disjunction of literals, in order. -/
abbrev Clause := List Literal

namespace Clause

/-- How many literals a clause has, as far as sharing tells clauses apart. -/
inductive Kind where
  /-- No literal: the clause that never holds. -/
  | empty
  /-- One literal, which has to hold. -/
  | unit
  /-- Two literals. -/
  | binary
  /-- Three literals or more. -/
  | long
deriving DecidableEq

/-- The kind of a clause. -/
def kind : Clause → Kind
  | [] => .empty
  | [_] => .unit
  | [_, _] => .binary
  | _ :: _ :: _ :: _ => .long

/-- The clause without its literals, as a buffer that is used again. -/
def cleared (clause : Clause) : Clause := clause.take 0

/-- The greatest literal block distance that is told apart from greater ones. -/
def maxDistance : Nat := 255

/-- The literal block distance given to a clause whose literals have no decision levels:
the number of its literals, as far as distances are told apart. -/
def distance (clause : Clause) : Nat :=
  min clause.length maxDistance

end Clause

end ClauseSharing
