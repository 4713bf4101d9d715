import EdgeRoutes.Text.Visible

/-!
The quoted form in which a message shows a text: printable characters as they are, the usual
backslash escapes, and a code point in hexadecimal for the rest.
-/

namespace EdgeRoutes.Text

def hexDigits (n : Nat) : List Char := Nat.toDigits 16 n

def quoteChar (c : Char) : List Char :=
  match c with
  | '\x00' => ['\\', '0']
  | '\t' => ['\\', 't']
  | '\r' => ['\\', 'r']
  | '\n' => ['\\', 'n']
  | '"' => ['\\', '"']
  | '\\' => ['\\', '\\']
  | c => if isVisible c then [c] else "\\u\x7b".toList ++ hexDigits c.toNat ++ ['}']

def quote (s : String) : String :=
  String.ofList ('"' :: s.toList.flatMap quoteChar ++ ['"'])

end EdgeRoutes.Text
