import Tidemark.Text.Invisible
import Tidemark.Text.Mark

/-!
# Quoted text

Messages show paths and offending values between double quotes, so that their ends and their
invisible characters can be seen.  Inside the quotes a backslash announces an escape; characters
that print nothing by themselves are written as their code point.
-/

namespace Tidemark.Text

/-- Whether a message shows the character by its code point. -/
def isHidden (c : Char) : Bool :=
  isInvisible c || isExtender c

/-- A character inside quotes. -/
def quoteChar (c : Char) : List Char :=
  if c = '"' then ['\\', '"']
  else if c = '\\' then ['\\', '\\']
  else if c = '\n' then ['\\', 'n']
  else if c = '\r' then ['\\', 'r']
  else if c = '\t' then ['\\', 't']
  else if c = '\x00' then ['\\', '0']
  else if isHidden c then ['\\', 'u', '\x7b'] ++ Nat.toDigits 16 c.toNat ++ ['\x7d']
  else [c]

/-- A text between double quotes. -/
def quoted (s : String) : String :=
  String.ofList ('"' :: s.toList.flatMap quoteChar ++ ['"'])

end Tidemark.Text
