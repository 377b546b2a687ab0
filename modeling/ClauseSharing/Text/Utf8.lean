/-! # Texts in bytes

A text travels as UTF-8. Bytes that are no text are described by the index of the first byte that
belongs to no character, and by how many bytes there are wrong for sure, or by the fact that the
bytes end within a character. Where no flaw is reported, each one is replaced by one character that
stands for what cannot be read. -/

namespace ClauseSharing.Utf8

/-- Where and how a sequence of bytes stops being text. -/
inductive Flaw where
  /-- The bytes end within the character that starts at `index`. -/
  | incomplete (index : Nat)
  /-- The `count` bytes from `index` on start no character. -/
  | invalid (count index : Nat)
deriving DecidableEq

namespace Flaw

/-- The description of a flaw. -/
def message : Flaw → String
  | incomplete index => s!"incomplete utf-8 byte sequence from index {index}"
  | invalid count index => s!"invalid utf-8 sequence of {count} bytes from index {index}"

end Flaw

/-- Whether a byte continues a character. -/
def isContinuation (byte : UInt8) : Bool :=
  0x80 ≤ byte && byte ≤ 0xBF

/-- What each byte after the first has to satisfy, for a first byte that can start a character. The
second byte is bounded more tightly where a longer form, a surrogate or a number past the last code
point would be written. -/
def followers (first : UInt8) : Option (List (UInt8 → Bool)) :=
  if first < 0x80 then some []
  else if first < 0xC2 then none
  else if first ≤ 0xDF then some [isContinuation]
  else if first ≤ 0xEF then
    let low : UInt8 := if first = 0xE0 then 0xA0 else 0x80
    let high : UInt8 := if first = 0xED then 0x9F else 0xBF
    some [fun byte => low ≤ byte && byte ≤ high, isContinuation]
  else if first ≤ 0xF4 then
    let low : UInt8 := if first = 0xF0 then 0x90 else 0x80
    let high : UInt8 := if first = 0xF4 then 0x8F else 0xBF
    some [fun byte => low ≤ byte && byte ≤ high, isContinuation, isContinuation]
  else none

/-- The first flaw of a sequence of bytes, where `index` bytes come before it, `start` of them
before the character at hand, of which `awaited` is still to come. -/
def firstFlaw (index start : Nat) (awaited : List (UInt8 → Bool)) : List UInt8 → Option Flaw
  | [] => if awaited.isEmpty then none else some (.incomplete start)
  | byte :: rest =>
    match awaited with
    | test :: awaited =>
      if test byte then firstFlaw (index + 1) start awaited rest
      else some (.invalid (index - start) start)
    | [] =>
      match followers byte with
      | some awaited => firstFlaw (index + 1) index awaited rest
      | none => some (.invalid 1 index)

/-- The text that the bytes write, or their first flaw. -/
def decode (bytes : List UInt8) : Except Flaw String :=
  match firstFlaw 0 0 [] bytes with
  | some flaw => .error flaw
  | none => .ok ((String.fromUTF8? ⟨bytes.toArray⟩).getD "")

/-- Whether the bytes write a text. -/
def isText (bytes : List UInt8) : Bool := (firstFlaw 0 0 [] bytes).isNone

/-- The bytes of the character that stands for a flaw. -/
def replacement : List UInt8 := [0xEF, 0xBF, 0xBD]

/-- Replaces each flaw of a sequence of bytes, where `held` are the bytes read of the character at
hand, of which `awaited` is still to come. A byte that breaks a character off is read as the first
of another one. -/
def mend (held : List UInt8) (awaited : List (UInt8 → Bool)) : List UInt8 → List UInt8
  | [] => if awaited.isEmpty then [] else replacement
  | byte :: rest =>
    let broken := match awaited with
      | test :: _ => !test byte
      | [] => false
    match awaited, broken with
    | [_], false => held ++ byte :: mend [] [] rest
    | _ :: awaited, false => mend (held ++ [byte]) awaited rest
    | _, _ =>
      (if broken then replacement else []) ++
      match followers byte with
      | some [] => byte :: mend [] [] rest
      | some awaited => mend [byte] awaited rest
      | none => replacement ++ mend [] [] rest

/-- The text that the bytes write, with each flaw replaced. -/
def decodeMended (bytes : List UInt8) : String :=
  (String.fromUTF8? ⟨(mend [] [] bytes).toArray⟩).getD ""

/-- The bytes of a text. -/
def encode (text : String) : List UInt8 :=
  text.toUTF8.data.toList

end ClauseSharing.Utf8
