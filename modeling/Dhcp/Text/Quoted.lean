import Dhcp.Text.Hidden

/-!
# Quoted text

A text that came from the network is shown between quotation marks, with an escape for every
character that could be mistaken: the quotation mark and the backslash themselves, the controls
that have a short name, and the characters of `isHidden` by their number in hexadecimal. So a
quoted text stays on one line, whatever it holds.

Quotation is not checked for being undone: nothing in this library reads quoted text back.
-/

namespace Dhcp.Text

/-- The form of one character inside quotation marks. -/
def escape (c : Char) : List Char :=
  match c with
  | '\x00' => ['\\', '0']
  | '\t' => ['\\', 't']
  | '\n' => ['\\', 'n']
  | '\r' => ['\\', 'r']
  | '"' => ['\\', '"']
  | '\\' => ['\\', '\\']
  | c =>
    if isHidden c then ['\\', 'u', '\x7b'] ++ Nat.toDigits 16 c.toNat ++ ['\x7d']
    else [c]

/-- The text between quotation marks, with escapes. -/
def quoted (text : String) : String :=
  String.ofList ('"' :: text.toList.flatMap escape ++ ['"'])

end Dhcp.Text
