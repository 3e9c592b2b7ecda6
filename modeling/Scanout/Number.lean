namespace Scanout

inductive NumberError
  | empty
  | invalidDigit
  | tooLarge
  | tooSmall
deriving DecidableEq, Repr

def NumberError.message : NumberError → String
  | empty => "cannot parse integer from empty string"
  | invalidDigit => "invalid digit found in string"
  | tooLarge => "number too large to fit in target type"
  | tooSmall => "number too small to fit in target type"

namespace Number

/-- The value of a digit in a base up to sixteen. -/
def digit? (base : Nat) (c : Char) : Option Nat :=
  let value :=
    if '0' ≤ c && c ≤ '9' then c.toNat - '0'.toNat
    else if 'a' ≤ c && c ≤ 'f' then c.toNat - 'a'.toNat + 10
    else if 'A' ≤ c && c ≤ 'F' then c.toNat - 'A'.toNat + 10
    else base
  if value < base then some value else none

/-- Reads digits after those worth `acc`, up to the first that is none or that reaches `bound`. -/
def readDigits (base bound acc : Nat) : List Char → Except NumberError Nat
  | [] => .ok acc
  | c :: rest =>
    match digit? base c with
    | none => .error .invalidDigit
    | some d =>
      if acc * base + d < bound then readDigits base bound (acc * base + d) rest
      else .error .tooLarge

/-- Reads a number below `bound`: an optional plus sign and at least one digit. -/
def read (base bound : Nat) : List Char → Except NumberError Nat
  | [] => .error .empty
  | ['+'] => .error .invalidDigit
  | '+' :: rest => readDigits base bound 0 rest
  | text => readDigits base bound 0 text

/-- Reads a decimal number between `-bound` and `bound - 1`, with either sign. -/
def readSigned (bound : Nat) : List Char → Except NumberError Int
  | ['-'] => .error .invalidDigit
  | '-' :: rest =>
    match readDigits 10 (bound + 1) 0 rest with
    | .ok n => .ok (-n)
    | .error .tooLarge => .error .tooSmall
    | .error e => .error e
  | text => (read 10 bound text).map Int.ofNat

/-- The bytes that pairs of hexadecimal digits stand for, up to the first that is no pair. -/
def bytesOfHex : List Char → List UInt8
  | high :: low :: rest =>
    match digit? 16 high, digit? 16 low with
    | some h, some l => UInt8.ofNat (16 * h + l) :: bytesOfHex rest
    | _, _ => []
  | _ => []

end Number

end Scanout
