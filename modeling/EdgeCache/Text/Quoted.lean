/-
Quoted text, the form in which error messages repeat what they complain about: between double quotes, with a
backslash before quotes and backslashes, short escapes for tab, line ends and NUL, and the code point in braces for
every other character that cannot be shown by itself.
-/
import EdgeCache.Unicode.Printable

namespace EdgeCache.Text

def quoteChar (c : Char) : List Char :=
  if c = '"' then ['\\', '"']
  else if c = '\\' then ['\\', '\\']
  else if c = '\t' then ['\\', 't']
  else if c = '\r' then ['\\', 'r']
  else if c = '\n' then ['\\', 'n']
  else if c.toNat = 0 then ['\\', '0']
  else if Unicode.isPrintable c then [c]
  else ['\\', 'u', '\x7b'] ++ Nat.toDigits 16 c.toNat ++ ['\x7d']

def quoted (s : String) : String := String.ofList ('"' :: s.toList.flatMap quoteChar ++ ['"'])

end EdgeCache.Text
