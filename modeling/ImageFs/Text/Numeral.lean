/-!
Decimal numerals in arguments and tables.
-/

namespace ImageFs.Text

/-- Why a text is not a numeral. -/
inductive NumeralError where
  | empty
  | invalidDigit
  | tooLarge
deriving DecidableEq, Repr

namespace NumeralError

def message : NumeralError → String
  | empty => "cannot parse integer from empty string"
  | invalidDigit => "invalid digit found in string"
  | tooLarge => "number too large to fit in target type"

end NumeralError

/-- Appends digits to the number read so far. The first offending character decides the error:
a character that is no digit, or the digit with which the bound is reached. -/
def readDigits (bound : Nat) : List Char → Nat → Except NumeralError Nat
  | [], value => .ok value
  | char :: rest, value =>
      if char.isDigit then
        let next := value * 10 + (char.toNat - '0'.toNat)
        if next < bound then readDigits bound rest next else .error .tooLarge
      else .error .invalidDigit

/-- The number below `bound` that a text stands for; one plus sign may precede the digits. -/
def readNumeral (bound : Nat) (text : String) : Except NumeralError Nat :=
  match text.toList with
  | [] => .error .empty
  | ['+'] => .error .invalidDigit
  | '+' :: digits => readDigits bound digits 0
  | digits => readDigits bound digits 0

/-- Pads a text with blanks on the left. -/
def alignRight (width : Nat) (text : String) : String :=
  String.ofList (List.replicate (width - text.length) ' ') ++ text

end ImageFs.Text
