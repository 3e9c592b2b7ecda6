namespace Scanout.Text

/-- How many bytes a sequence that starts with `first` has, with the allowed range of the second
byte, as the Unicode standard's table of well-formed sequences gives them. -/
def sequenceShape (first : UInt8) : Option (Nat × UInt8 × UInt8) :=
  if first < 0x80 then some (1, 0x80, 0xbf)
  else if first < 0xc2 then none
  else if first < 0xe0 then some (2, 0x80, 0xbf)
  else if first = 0xe0 then some (3, 0xa0, 0xbf)
  else if first = 0xed then some (3, 0x80, 0x9f)
  else if first < 0xf0 then some (3, 0x80, 0xbf)
  else if first = 0xf0 then some (4, 0x90, 0xbf)
  else if first < 0xf4 then some (4, 0x80, 0xbf)
  else if first = 0xf4 then some (4, 0x80, 0x8f)
  else none

/-- The continuation bytes that a sequence of `count` more bytes finds, the first of them between
`low` and `high`. -/
def continuation (low high : UInt8) : Nat → List UInt8 → List UInt8
  | 0, _ => []
  | _, [] => []
  | count + 1, b :: rest =>
    if low ≤ b && b ≤ high then b :: continuation 0x80 0xbf count rest else []

/-- Bytes read as UTF-8. Each maximal part that starts no character becomes U+FFFD. -/
def decodeLossy (bytes : List UInt8) : List Char :=
  match bytes with
  | [] => []
  | first :: rest =>
    match sequenceShape first with
    | none => Char.ofNat 0xfffd :: decodeLossy rest
    | some (size, low, high) =>
      let more := continuation low high (size - 1) rest
      let code := more.foldl (fun code b => code * 64 + (b.toNat - 0x80))
        (if size = 1 then first.toNat else first.toNat % Nat.pow 2 (7 - size))
      (if more.length = size - 1 then Char.ofNat code else Char.ofNat 0xfffd)
        :: decodeLossy (rest.drop more.length)
termination_by bytes.length
decreasing_by all_goals simp only [List.length_cons, List.length_drop]; omega

/-- The text of `bytes`, with U+FFFD where they are no UTF-8. -/
def lossy (bytes : List UInt8) : String :=
  String.ofList (decodeLossy bytes)

def bytes (s : String) : List UInt8 :=
  s.toUTF8.toList

/-- The bytes a fixed-size name field of the kernel keeps: up to 31, ending before any NUL. -/
def nameField (s : String) : List UInt8 :=
  ((bytes s).take 31).takeWhile (· ≠ 0)

end Scanout.Text
