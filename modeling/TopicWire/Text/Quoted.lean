import TopicWire.Text.Printable

/-!
# Quoted text

`quoted` shows a text between double quotes so that every character can be read off: a quote and
a backslash get a backslash, line ends and tabs their letter, and a character that cannot be shown
on its own the hexadecimal number of its code point in braces.
-/

namespace TopicWire.Text

def hexDigits (n : Nat) : List Char :=
  Nat.toDigits 16 n

def escaped (c : Char) : List Char :=
  match c with
  | '"' => ['\\', '"']
  | '\\' => ['\\', '\\']
  | '\n' => ['\\', 'n']
  | '\r' => ['\\', 'r']
  | '\t' => ['\\', 't']
  | '\x00' => ['\\', '0']
  | c =>
    if isPrintable c && !isExtender c then [c]
    else ['\\', 'u', '\x7b'] ++ hexDigits c.toNat ++ ['\x7d']

/-- A text between double quotes, with its special characters escaped. -/
def quoted (s : String) : String :=
  String.ofList ('"' :: s.toList.flatMap escaped ++ ['"'])

end TopicWire.Text
