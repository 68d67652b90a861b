import SheetQuery.Text.Basic

/-!
# Counts

Natural numbers of 64 bits as texts write them: decimal digits, with an optional plus sign in front.
-/

namespace SheetQuery

inductive CountFault where
  | empty
  | invalidDigit
  | tooLarge
deriving DecidableEq, Repr

def CountFault.text : CountFault → Text
  | empty => "cannot parse integer from empty string".toList
  | invalidDigit => "invalid digit found in string".toList
  | tooLarge => "number too large to fit in target type".toList

namespace Count

/-- The first number that is too large. -/
def bound : Nat := 18446744073709551616

/-- The number that digits behind the number `n` make. -/
def readDigits (n : Nat) : Text → Except CountFault Nat
  | [] => .ok n
  | c :: rest =>
    match Text.digitValue? c with
    | none => .error .invalidDigit
    | some d => if 10 * n + d < bound then readDigits (10 * n + d) rest else .error .tooLarge

def read : Text → Except CountFault Nat
  | [] => .error .empty
  | ['+'] => .error .invalidDigit
  | '+' :: digits => readDigits 0 digits
  | digits => readDigits 0 digits

end Count

end SheetQuery
