import ImageFs.Text.Unprinted

/-!
Texts in quotation marks, as messages show them. The quotation mark and the backslash are written
behind a backslash, so the closing mark is the first that stands alone.
-/

namespace ImageFs.Text

def hexDigits (n : Nat) : String :=
  String.ofList (Nat.toDigits 16 n)

/-- A number in hexadecimal behind `0x`. -/
def hex (n : Nat) : String :=
  "0x" ++ hexDigits n

def escapedChar (char : Char) : String :=
  if char = '"' then "\\\""
  else if char = '\\' then "\\\\"
  else if char = '\n' then "\\n"
  else if char = '\r' then "\\r"
  else if char = '\t' then "\\t"
  else if char.toNat = 0 then "\\0"
  else if Unprinted.contains char then "\\u\x7b" ++ hexDigits char.toNat ++ "\x7d"
  else String.singleton char

def quote (text : String) : String :=
  "\"" ++ String.join (text.toList.map escapedChar) ++ "\""

end ImageFs.Text
