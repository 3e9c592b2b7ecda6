namespace Scanout.Text

/-- A quotient rounded to the nearest whole number, a half going to the even neighbour. -/
def roundHalfEven (num den : Nat) : Nat :=
  let q := num / den
  let r := num % den
  if 2 * r < den then q
  else if den < 2 * r then q + 1
  else if q % 2 = 0 then q else q + 1

/-- A non-negative finite double as a quotient of whole numbers. -/
def ratio (x : Float) : Nat × Nat :=
  let bits := x.toBits.toNat
  let exponent := bits / Nat.pow 2 52 % Nat.pow 2 11
  let fraction := bits % Nat.pow 2 52
  let mantissa := if exponent = 0 then fraction else fraction + Nat.pow 2 52
  let shift := max exponent 1
  if 1075 ≤ shift then (mantissa * Nat.pow 2 (shift - 1075), 1)
  else (mantissa, Nat.pow 2 (1075 - shift))

/-- A non-negative finite double with two decimal places, rounded from its exact value. -/
def twoPlaces (x : Float) : String :=
  let (num, den) := ratio x
  let hundredths := roundHalfEven (num * 100) den
  let places := hundredths % 100
  toString (hundredths / 100) ++ "." ++ (if places < 10 then "0" else "") ++ toString places

end Scanout.Text
