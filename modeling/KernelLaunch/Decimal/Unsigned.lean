import KernelLaunch.Overflow
import KernelLaunch.Text.Blank

/-! Reading a word from decimal text: an optional plus sign and digits, nothing else. -/

namespace KernelLaunch

inductive NumberError where
  | empty
  | invalidDigit
  | tooLarge
  deriving DecidableEq

def NumberError.message : NumberError → String
  | .empty => "cannot parse integer from empty string"
  | .invalidDigit => "invalid digit found in string"
  | .tooLarge => "number too large to fit in target type"

def digit? (character : Char) : Option Nat :=
  if character.isDigit then some (character.toNat - '0'.toNat) else none

/-- Reads on after the digits of `number`. The first fault from the left wins: a character that is
no digit, or the digit with which the number leaves the word. -/
def readDigits (number : Nat) : List Char → Except NumberError Nat
  | [] => .ok number
  | character :: rest =>
    match digit? character with
    | none => .error .invalidDigit
    | some digit =>
      let next := number * 10 + digit
      if next < wordLimit then readDigits next rest else .error .tooLarge

/-- Reads a whole text as a word. A lone plus sign has no digits and is no number. -/
def readWord : List Char → Except NumberError Nat
  | [] => .error .empty
  | ['+'] => .error .invalidDigit
  | '+' :: rest => readDigits 0 rest
  | characters => readDigits 0 characters

def readTrimmedWord (text : String) : Except NumberError Nat := readWord (trimBlank text.toList)

end KernelLaunch
