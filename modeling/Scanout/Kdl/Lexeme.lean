import Scanout.Kdl.Node
import Scanout.Number

namespace Scanout.Kdl

/-- A reader of a part of a text: what it found and the rest, or nothing. -/
abbrev Reader (α : Type) := List Char → Option (α × List Char)

/-- Skips what `skip` skips, over and over, at most `fuel` times. -/
def skipTimes (skip : List Char → Option (List Char)) : Nat → List Char → List Char
  | 0, cs => cs
  | fuel + 1, cs =>
    match skip cs with
    | some rest => skipTimes skip fuel rest
    | none => cs

/-- Skips what `skip` skips as often as it does. Every time takes a character at least. -/
def skipAll (skip : List Char → Option (List Char)) (cs : List Char) : List Char :=
  skipTimes skip cs.length cs

def isSpace (c : Char) : Bool :=
  let n := c.toNat
  n == 0x09 || n == 0x20 || n == 0xa0 || n == 0x1680 || (0x2000 ≤ n && n ≤ 0x200a) || n == 0x202f
    || n == 0x205f || n == 0x3000 || n == 0xfeff

/-- The rest after the end of a comment that is `depth` deep inside others. -/
def commentEnd : Nat → List Char → Option (List Char)
  | _, [] => none
  | 0, '*' :: '/' :: rest => some rest
  | depth + 1, '*' :: '/' :: rest => commentEnd depth rest
  | depth, '/' :: '*' :: rest => commentEnd (depth + 1) rest
  | depth, _ :: rest => commentEnd depth rest

def blank? : List Char → Option (List Char)
  | '/' :: '*' :: rest => commentEnd 0 rest
  | c :: rest => if isSpace c then some rest else none
  | [] => none

def newline? : List Char → Option (List Char)
  | '\r' :: '\n' :: rest => some rest
  | c :: rest =>
    let n := c.toNat
    if n == 0x0a || n == 0x0d || n == 0x0c || n == 0x85 || n == 0x2028 || n == 0x2029 then some rest
    else none
  | [] => none

/-- The text after the current line, or the end of the text. -/
def afterLine : List Char → List Char
  | [] => []
  | c :: rest =>
    match newline? (c :: rest) with
    | some next => next
    | none => afterLine rest

def lineComment? : List Char → Option (List Char)
  | '/' :: '/' :: rest => some (afterLine rest)
  | _ => none

/-- Skips what may stand between the parts of a node: blanks, and line ends after a backslash. -/
def nodeSpace? (cs : List Char) : Option (List Char) :=
  match cs with
  | '\\' :: rest =>
    let rest := skipAll blank? rest
    (lineComment? rest).or (newline? rest)
  | _ => blank? cs

/-- Skips what may stand between nodes. -/
def lineSpace? (cs : List Char) : Option (List Char) :=
  ((newline? cs).or (blank? cs)).or (lineComment? cs)

def skipNodeSpace : List Char → List Char := skipAll nodeSpace?
def skipLineSpace : List Char → List Char := skipAll lineSpace?

/-- Skips the mark that takes the next part out, with the space after it. -/
def slashdash? : List Char → Option (List Char)
  | '/' :: '-' :: rest => some (skipNodeSpace rest)
  | _ => none

/-- A character that no name holds, wherever it stands. -/
def isDelimiter (c : Char) : Bool :=
  let n := c.toNat
  "\\/()\x7b\x7d<>;[]=,\"".toList.contains c || n == 0xa0 || n == 0x1680
    || (0x2000 ≤ n && n ≤ 0x200a) || n == 0x202f || n == 0x205f || n == 0x3000 || n == 0x85
    || n == 0x2028 || n == 0x2029

/-- A character inside a name. -/
def isNameChar (c : Char) : Bool :=
  0x21 < c.toNat && !isDelimiter c

/-- A character that starts a name, or follows the sign that starts it. -/
def isNameStart (c : Char) : Bool :=
  0x21 ≤ c.toNat && !isDelimiter c && !('0' ≤ c && c ≤ '9')

def isSign (c : Char) : Bool :=
  c == '+' || c == '-'

def nameChars : Reader (List Char)
  | [] => none
  | c :: rest =>
    if isSign c then
      match rest with
      | d :: more =>
        if isNameStart d then some (c :: d :: more.takeWhile isNameChar, more.dropWhile isNameChar)
        else some ([c], rest)
      | [] => some ([c], [])
    else if isNameStart c then some (c :: rest.takeWhile isNameChar, rest.dropWhile isNameChar)
    else none

/-- A name that is not quoted. The words for values are no names. -/
def bareName : Reader String := fun cs =>
  match nameChars cs with
  | none => none
  | some (chars, rest) =>
    let name := String.ofList chars
    if name = "true" ∨ name = "false" ∨ name = "null" then none else some (name, rest)

/-- The character that a short escape stands for. -/
def shortEscape? : Char → Option Char
  | '"' => some '"'
  | '\\' => some '\\'
  | '/' => some '/'
  | 'b' => some (Char.ofNat 8)
  | 'f' => some (Char.ofNat 12)
  | 'n' => some '\n'
  | 'r' => some '\r'
  | 't' => some '\t'
  | _ => none

/-- The character with a number, if there is one. -/
def scalar? (n : Nat) : Option Char :=
  if h : n.isValidChar then some (Char.ofNatAux n h) else none

def isHexDigit (c : Char) : Bool :=
  (Number.digit? 16 c).isSome

/-- A character by its number in braces, one to six hexadecimal digits. -/
def numberedChar : Reader Char
  | '{' :: rest =>
    let digits := rest.takeWhile isHexDigit
    if digits.isEmpty || 6 < digits.length then none
    else
      match Number.readDigits 16 (Nat.pow 2 24) 0 digits, rest.dropWhile isHexDigit with
      | .ok n, '}' :: rest => (scalar? n).map (·, rest)
      | _, _ => none
  | _ => none

/-- What is left of a quoted text after its opening quote, at most `fuel` characters. -/
def quotedChars : Nat → Reader (List Char)
  | 0, _ => none
  | _ + 1, [] => none
  | _ + 1, '"' :: rest => some ([], rest)
  | fuel + 1, '\\' :: 'u' :: rest => do
    let (c, rest) ← numberedChar rest
    let (cs, rest) ← quotedChars fuel rest
    return (c :: cs, rest)
  | fuel + 1, '\\' :: e :: rest => do
    let c ← shortEscape? e
    let (cs, rest) ← quotedChars fuel rest
    return (c :: cs, rest)
  | _ + 1, ['\\'] => none
  | fuel + 1, c :: rest => do
    let (cs, rest) ← quotedChars fuel rest
    return (c :: cs, rest)

def quotedText : Reader String
  | '"' :: rest =>
    (quotedChars (rest.length + 1) rest).map fun (cs, rest) => (String.ofList cs, rest)
  | _ => none

/-- Whether a text starts with so many number signs. -/
def startsWithHashes (count : Nat) (cs : List Char) : Bool :=
  (cs.take count).length == count && (cs.take count).all (· == '#')

/-- What is left of a raw text after its opening quote, up to a quote and so many number signs. -/
def rawChars (hashes : Nat) : Reader (List Char)
  | [] => none
  | c :: rest =>
    if c = '"' && startsWithHashes hashes rest then some ([], rest.drop hashes)
    else (rawChars hashes rest).map fun (cs, rest) => (c :: cs, rest)

def rawText : Reader String
  | 'r' :: rest =>
    let hashes := (rest.takeWhile (· == '#')).length
    match rest.dropWhile (· == '#') with
    | '"' :: rest => (rawChars hashes rest).map fun (cs, rest) => (String.ofList cs, rest)
    | _ => none
  | _ => none

/-- Splits a sign off. -/
def sign : List Char → List Char × List Char
  | c :: rest => if isSign c then ([c], rest) else ([], c :: rest)
  | [] => ([], [])

def isDigit (radix : Nat) (c : Char) : Bool :=
  (Number.digit? radix c).isSome

/-- A digit and the digits and underscores after it, without the underscores. -/
def digits (radix : Nat) : Reader (List Char)
  | c :: rest =>
    if isDigit radix c then
      let more := fun c => isDigit radix c || c == '_'
      some (c :: (rest.takeWhile more).filter (· != '_'), rest.dropWhile more)
    else none
  | [] => none

/-- The base that a letter after a zero stands for. -/
def radix? : Char → Option Nat
  | 'b' => some 2
  | 'o' => some 8
  | 'x' => some 16
  | _ => none

/-- An integer in a base that is written before it. -/
def prefixedNumber : Reader Literal := fun cs =>
  match sign cs with
  | (s, '0' :: letter :: rest) => do
    let radix ← radix? letter
    let (ds, rest) ← digits radix rest
    return (.integer radix (s ++ ds), rest)
  | _ => none

/-- Skips the places after a point. -/
def fraction? : List Char → Option (List Char)
  | '.' :: rest => (digits 10 rest).map (·.2)
  | _ => none

def exponent? : List Char → Option (List Char)
  | c :: rest =>
    if c = 'e' || c = 'E' then
      some ((sign rest).2.dropWhile fun c => isDigit 10 c || c == '_')
    else none
  | [] => none

/-- A decimal number. With a point or an exponent it is no integer. -/
def decimalNumber : Reader Literal := fun cs =>
  let (s, rest) := sign cs
  match digits 10 rest with
  | none => none
  | some (ds, rest) =>
    match fraction? rest with
    | some rest => some (.decimal, (exponent? rest).getD rest)
    | none =>
      match exponent? rest with
      | some rest => some (.decimal, rest)
      | none => some (.integer 10 (s ++ ds), rest)

def number : Reader Literal := fun cs =>
  (prefixedNumber cs).or (decimalNumber cs)

def keyword : Reader Literal
  | 'n' :: 'u' :: 'l' :: 'l' :: rest => some (.null, rest)
  | 't' :: 'r' :: 'u' :: 'e' :: rest => some (.boolean true, rest)
  | 'f' :: 'a' :: 'l' :: 's' :: 'e' :: rest => some (.boolean false, rest)
  | _ => none

def text : Reader String := fun cs =>
  (rawText cs).or (quotedText cs)

def literal : Reader Literal := fun cs =>
  match text cs with
  | some (s, rest) => some (.string s, rest)
  | none => (keyword cs).or (number cs)

/-- A name, quoted or not. A number is none. -/
def name : Reader String := fun cs =>
  if (number cs).isSome then none else (bareName cs).or (quotedText cs)

def type? : Reader String
  | '(' :: rest =>
    match name rest with
    | some (t, ')' :: rest) => some (t, rest)
    | _ => none
  | _ => none

def value : Reader Value := fun cs =>
  match type? cs with
  | some (t, rest) => (literal rest).map fun (l, rest) => (⟨some t, l⟩, rest)
  | none => (literal cs).map fun (l, rest) => (⟨none, l⟩, rest)

end Scanout.Kdl
