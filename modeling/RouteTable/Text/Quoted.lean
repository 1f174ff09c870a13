/-
Text in double quotes, as messages show it. A quote and a backslash get a backslash, four controls
have short escapes, and a character that does not show, or that would attach to the one before it,
is written as its code point in hexadecimal digits.
-/
import RouteTable.Unicode.Property

namespace RouteTable.Text.Quoted

open Unicode

/-- The code point of `c` in lower-case hexadecimal digits, without leading zeros, in braces after
`\u`. -/
def codePoint (c : Char) : List Char :=
  '\\' :: 'u' :: '\x7b' :: (Nat.toDigits 16 c.toNat ++ ['\x7d'])

/-- How one character is written between the quotes. -/
def escape (c : Char) : List Char :=
  match c with
  | '\x00' => ['\\', '0']
  | '\t' => ['\\', 't']
  | '\r' => ['\\', 'r']
  | '\n' => ['\\', 'n']
  | '"' => ['\\', '"']
  | '\\' => ['\\', '\\']
  | _ => if isGraphemeExtend c || !isPrintable c then codePoint c else [c]

/-- The characters of a text in quotes. -/
def encode (cs : List Char) : List Char := '"' :: (cs.flatMap escape ++ ['"'])

end RouteTable.Text.Quoted

namespace RouteTable

/-- The text in double quotes. -/
def quoted (s : String) : String := String.ofList (Text.Quoted.encode s.toList)

end RouteTable
