import TestDouble.Text.Printable

/-!
# Quoted texts

Two ways of writing a text in double quotes. `jsonQuoted` escapes only what JSON obliges it to
escape. `quoted` is for people: it also shows hidden characters by their code.
-/

namespace TestDouble.Text

/-- The hexadecimal digits of a number in lower case, without padding. -/
def hex (n : Nat) : String := String.ofList (Nat.toDigits 16 n)

/-- How JSON writes one character inside quotes. -/
def jsonEscape (c : Char) : String :=
  if c = '"' then "\\\""
  else if c = '\\' then "\\\\"
  else if c.toNat = 0x08 then "\\b"
  else if c.toNat = 0x09 then "\\t"
  else if c.toNat = 0x0A then "\\n"
  else if c.toNat = 0x0C then "\\f"
  else if c.toNat = 0x0D then "\\r"
  else if c.toNat < 0x10 then "\\u000" ++ hex c.toNat
  else if c.toNat < 0x20 then "\\u00" ++ hex c.toNat
  else c.toString

/-- A text as a JSON string. -/
def jsonQuoted (s : String) : String := "\"" ++ String.join (s.toList.map jsonEscape) ++ "\""

/-- How a quoted text for people shows one character. -/
def escape (c : Char) : String :=
  if c = '"' then "\\\""
  else if c = '\\' then "\\\\"
  else if c.toNat = 0x00 then "\\0"
  else if c.toNat = 0x09 then "\\t"
  else if c.toNat = 0x0A then "\\n"
  else if c.toNat = 0x0D then "\\r"
  else if isHidden c then "\\u\x7b" ++ hex c.toNat ++ "\x7d"
  else c.toString

/-- A text in quotes, its hidden characters shown by their code. -/
def quoted (s : String) : String := "\"" ++ String.join (s.toList.map escape) ++ "\""

end TestDouble.Text
