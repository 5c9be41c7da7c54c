import RankSieve.Text.Category
import RankSieve.Text.Decimal
import RankSieve.Text.Property

/-!
# `RankSieve.Text.Quoted` — texts between quotation marks

The form in which events and messages show a text, so that it stays on one line and its ends can be
seen: double quotation marks around it, and escapes for what would not show as itself.
-/

namespace RankSieve

/-- A character inside quotation marks. Characters that join the one before them are escaped with
    those that do not print, since neither could be told apart by eye. -/
def quotedChar (c : Char) : Text :=
  if c = '\x00' then ['\\', '0']
  else if c = '\t' then ['\\', 't']
  else if c = '\r' then ['\\', 'r']
  else if c = '\n' then ['\\', 'n']
  else if c = '\\' then ['\\', '\\']
  else if c = '"' then ['\\', '"']
  else if isPrintable c && !graphemeExtendRanges.contains c then [c]
  else "\\u\x7b".toList ++ Decimal.hex c.toNat ++ ['}']

/-- A text between quotation marks. -/
def Text.quoted (t : Text) : Text := '"' :: t.flatMap quotedChar ++ ['"']

end RankSieve
