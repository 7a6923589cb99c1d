import Stageflow.Text.Graphic

/-!
# Quoted text for diagnostics

Text between double quotes. Quotes, backslashes, tabs and line ends have short escapes; other
characters without a shape of their own are written as `\u` and their code point in braces.
-/

namespace Stageflow.Text

/-- Digits of a number in base 16, in lower case. -/
def hex (n : Nat) : List Char := Nat.toDigits 16 n

/-- A character inside a quoted diagnostic. -/
def showChar (c : Char) : List Char :=
  match c with
  | '\x00' => ['\\', '0']
  | '\t' => ['\\', 't']
  | '\n' => ['\\', 'n']
  | '\r' => ['\\', 'r']
  | '"' => ['\\', '"']
  | '\\' => ['\\', '\\']
  | c => if isGraphic c then [c] else ['\\', 'u', '\x7b'] ++ hex c.toNat ++ ['\x7d']

/-- A text between quotes, for diagnostics. -/
def quote (s : String) : String := String.ofList ('"' :: (s.toList.flatMap showChar ++ ['"']))

end Stageflow.Text
