import GridTalk.Text.Printable

/-!
# Quoted text

A text between double quotes with whatever cannot stand there as it is escaped: quotes and
backslashes, line ends and tabs by one letter, and marks, controls and other characters without ink
of their own by their code point in braces.
-/

namespace GridTalk.Text

/-- A code point between braces, in small hexadecimal digits. -/
def bracedCode (c : Char) : List Char :=
  "\\u\x7b".toList ++ Nat.toDigits 16 c.toNat ++ ['\x7d']

/-- A character as it stands between quotes. -/
def quotedChar (c : Char) : List Char :=
  if c = '\x00' then ['\\', '0']
  else if c = '\t' then ['\\', 't']
  else if c = '\r' then ['\\', 'r']
  else if c = '\n' then ['\\', 'n']
  else if c = '"' ∨ c = '\\' then ['\\', c]
  else if isPlain c then [c]
  else bracedCode c

/-- A text in double quotes. -/
def quoted (s : List Char) : List Char := '"' :: s.flatMap quotedChar ++ ['"']

end GridTalk.Text
