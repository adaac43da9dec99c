/-
Text in quotes, as it is shown to a reader: quotes, backslashes and characters
that cannot be seen by themselves are escaped, the last by their code.
-/
import BinlogCursor.Text.Letters

namespace BinlogCursor.Text

def codeChars (c : Char) : List Char :=
  Nat.toDigits 16 c.toNat

def shownChars (c : Char) : List Char :=
  match c with
  | '\x00' => ['\\', '0']
  | '\t' => ['\\', 't']
  | '\n' => ['\\', 'n']
  | '\r' => ['\\', 'r']
  | '"' => ['\\', '"']
  | '\\' => ['\\', '\\']
  | c =>
    if isShown c then [c]
    else ['\\', 'u', '\x7b'] ++ codeChars c ++ ['\x7d']

def quoted (s : String) : String :=
  String.ofList ('"' :: s.toList.flatMap shownChars ++ ['"'])

end BinlogCursor.Text
