import Scanout.Text.Hidden

namespace Scanout.Text

/-- The digits of `n` in lower-case hexadecimal, without padding. -/
def hex (n : Nat) : String :=
  String.ofList (Nat.toDigits 16 n)

def hexPadded (width n : Nat) : String :=
  let digits := Nat.toDigits 16 n
  String.ofList (List.replicate (width - digits.length) '0' ++ digits)

/-- A character spelled by its number. -/
def numbered (c : Char) : String :=
  "\\u\x7b" ++ hex c.toNat ++ "\x7d"

/-- A character inside quoted text: the usual short escapes, numbers for what does not show. -/
def quotedChar (c : Char) : String :=
  if c = '\t' then "\\t"
  else if c = '\r' then "\\r"
  else if c = '\n' then "\\n"
  else if c.toNat = 0 then "\\0"
  else if c = '\\' then "\\\\"
  else if c = '"' then "\\\""
  else if isHidden c then numbered c
  else c.toString

/-- Text in double quotes, as log messages and errors show file names and codes. -/
def quoted (s : String) : String :=
  "\"" ++ String.join (s.toList.map quotedChar) ++ "\""

/-- A character in the plain-ASCII spelling that names in configuration messages get. -/
def asciiChar (c : Char) : String :=
  if c = '\t' then "\\t"
  else if c = '\r' then "\\r"
  else if c = '\n' then "\\n"
  else if c.toNat = 0x27 then "\\" ++ c.toString
  else if c = '"' then "\\\""
  else if c = '\\' then "\\\\"
  else if 0x20 ≤ c.toNat && c.toNat ≤ 0x7e then c.toString
  else numbered c

/-- Text with everything outside printable ASCII spelled by number. -/
def asciiOnly (s : String) : String :=
  String.join (s.toList.map asciiChar)

end Scanout.Text
