/-! # Percent signs

In an address a byte may be written as a percent sign and two hexadecimal digits. A percent sign
without them stands for itself, so every sequence of bytes can be read, and one without percent
signs is read as it stands. -/

namespace ClauseSharing.Percent

/-- The percent sign. -/
def sign : UInt8 := 0x25

/-- The value of a hexadecimal digit. -/
def digitValue? (byte : UInt8) : Option UInt8 :=
  if 0x30 ≤ byte ∧ byte ≤ 0x39 then some (byte - 0x30)
  else if 0x41 ≤ byte ∧ byte ≤ 0x46 then some (byte - 0x37)
  else if 0x61 ≤ byte ∧ byte ≤ 0x66 then some (byte - 0x57)
  else none

/-- The byte that three bytes write between them. -/
def escaped? (first high low : UInt8) : Option UInt8 :=
  if first = sign then do return 16 * (← digitValue? high) + (← digitValue? low)
  else none

/-- The bytes that are meant. -/
def decode : List UInt8 → List UInt8
  | first :: high :: low :: rest =>
    match escaped? first high low with
    | some byte => byte :: decode rest
    | none => first :: decode (high :: low :: rest)
  | bytes => bytes

/-- Bytes without a percent sign are meant as they stand. -/
theorem decode_of_not_mem {bytes : List UInt8} (absent : sign ∉ bytes) : decode bytes = bytes := by
  fun_induction decode bytes with
  | case1 first high low rest byte known =>
    have other : first ≠ sign := fun same => absent (by simp [same])
    simp [escaped?, other] at known
  | case2 first high low rest _ ih => rw [ih fun inside => absent (List.mem_cons_of_mem _ inside)]
  | case3 => rfl

end ClauseSharing.Percent
