/-
  ChatKeys.Text.Quoted

  A text between double quotes, as it is shown in diagnoses: quotes and
  backslashes are escaped, line breaks and tabs have their short escapes, and
  every other character that leaves no mark is given by its number in braces.
-/
import ChatKeys.Text.Unseen

namespace ChatKeys.Text

/-- How one character is shown between quotes. -/
def shown (c : Char) : String :=
  if c = '"' then "\\\""
  else if c = '\\' then "\\\\"
  else if c = '\n' then "\\n"
  else if c = '\r' then "\\r"
  else if c = '\t' then "\\t"
  else if c = '\x00' then "\\0"
  else if isUnseen c then
    "\\u\x7b" ++ String.ofList (Nat.toDigits 16 c.toNat) ++ "\x7d"
  else c.toString

def quoted (s : String) : String :=
  "\"" ++ String.join (s.toList.map shown) ++ "\""

end ChatKeys.Text
