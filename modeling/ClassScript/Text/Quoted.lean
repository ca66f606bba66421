import ClassScript.Text.Printable

/-!
Texts in quotes, as messages show them: what would not be seen is written as an escape.
-/

namespace ClassScript.Quoted

/-- A code point in lower-case hexadecimal digits, between braces. -/
def codePoint (c : Char) : List Char :=
  '\\' :: 'u' :: '\x7b' :: (Nat.toDigits 16 c.toNat ++ ['\x7d'])

def character (c : Char) : List Char :=
  match c with
  | '\x00' => ['\\', '0']
  | '\t' => ['\\', 't']
  | '\r' => ['\\', 'r']
  | '\n' => ['\\', 'n']
  | '\x22' => ['\\', '\x22']
  | '\\' => ['\\', '\\']
  | c => if Printable.isShown c then [c] else codePoint c

def quote (s : String) : String :=
  String.ofList ('\x22' :: (s.toList.flatMap character ++ ['\x22']))

end ClassScript.Quoted
