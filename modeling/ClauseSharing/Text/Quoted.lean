import ClauseSharing.Text.Visible

/-! # Quoted text

Reports show foreign text between double quotes. A quote and a backslash get a backslash before
them, the common controls have letters, and any other character that does not show is written by
its code point. -/

namespace ClauseSharing.Text

/-- The code point of a character between `\u` and braces, in hexadecimal. -/
def codePointEscape (char : Char) : List Char :=
  ['\\', 'u', '\x7b'] ++ Nat.toDigits 16 char.toNat ++ ['\x7d']

/-- A character as quoted text writes it. -/
def quoteChar (char : Char) : List Char :=
  match char with
  | '"' => ['\\', '"']
  | '\\' => ['\\', '\\']
  | '\n' => ['\\', 'n']
  | '\r' => ['\\', 'r']
  | '\t' => ['\\', 't']
  | '\x00' => ['\\', '0']
  | _ => if isVisible char then [char] else codePointEscape char

/-- A text between double quotes. -/
def quote (text : String) : String :=
  String.ofList ('"' :: text.toList.flatMap quoteChar ++ ['"'])

end ClauseSharing.Text
