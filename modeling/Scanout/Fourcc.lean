import Scanout.Text.Quoted

namespace Scanout

/-- A pixel format, by its four-character code as a little-endian number. -/
structure Fourcc where
  value : UInt32
deriving DecidableEq, Repr

inductive FormatError
  | notFourCharacters (code : String)
  | unknown (code : String)
deriving DecidableEq, Repr

def FormatError.message : FormatError → String
  | notFourCharacters code =>
    "format " ++ Text.quoted code ++ " is not a four-character code"
  | unknown code => "unknown format " ++ Text.quoted code

namespace Fourcc

/-- The printable codes among those that a run knows. -/
def codes : List String :=
  ["AB10", "AB12", "AB15", "AB24", "AB30", "AB4H", "AR12", "AR15", "AR24", "AR30", "AR4H",
  "AYUV", "B5A8", "B8A8", "BA12", "BA15", "BA24", "BA30", "BG16", "BG24", "BGR8", "BX12",
  "BX15", "BX24", "BX30", "BXA8", "C8  ", "GR32", "GR88", "NV12", "NV15", "NV16", "NV21",
  "NV24", "NV42", "NV61", "P010", "P012", "P016", "P210", "Q401", "Q410", "R16 ", "R5A8",
  "R8  ", "R8A8", "RA12", "RA15", "RA24", "RA30", "RG16", "RG24", "RG32", "RG88", "RGB8",
  "RX12", "RX15", "RX24", "RX30", "RXA8", "UYVY", "VU24", "VU30", "VYUY", "X0L0", "X0L2",
  "XB12", "XB15", "XB24", "XB30", "XB4H", "XBA8", "XR12", "XR15", "XR24", "XR30", "XR4H",
  "XRA8", "XV30", "XV36", "XV48", "XYUV", "Y0L0", "Y0L2", "Y210", "Y212", "Y216", "Y410",
  "Y412", "Y416", "YU08", "YU10", "YU11", "YU12", "YU16", "YU24", "YUV9", "YUYV", "YV11",
  "YV12", "YV16", "YV24", "YVU9", "YVYU"]

/-- Four bytes as a number, the first the least significant. -/
def pack (a b c d : UInt8) : UInt32 :=
  a.toUInt32 ||| (b.toUInt32 <<< 8) ||| (c.toUInt32 <<< 16) ||| (d.toUInt32 <<< 24)

/-- The number of a code of four bytes. -/
def ofBytes? : List UInt8 → Option UInt32
  | [a, b, c, d] => some (pack a b c d)
  | _ => none

/-- The formats that a run knows, by number. The first is a mark for a byte order and has no
printable code. -/
def listed : List UInt32 :=
  0x80000000 :: codes.filterMap fun code => ofBytes? code.toUTF8.toList

/-- The format with a number, if the number is one of a list. -/
def ofListed? (known : List UInt32) (value : UInt32) : Option Fourcc :=
  if value ∈ known then some ⟨value⟩ else none

/-- A printable ASCII character or a space. -/
def isCodeByte (b : UInt8) : Bool :=
  0x20 ≤ b && b ≤ 0x7e

/-- Reads a code. Which numbers are formats is for `recognize` to say. -/
def parse (code : String) (recognize : UInt32 → Option Fourcc := ofListed? listed) :
    Except FormatError Fourcc :=
  let bytes := code.toUTF8.toList
  match ofBytes? bytes with
  | none => .error (.notFourCharacters code)
  | some value =>
    if !bytes.all isCodeByte then .error (.notFourCharacters code)
    else
      match recognize value with
      | some format => .ok format
      | none => .error (.unknown code)

/-- The four bytes of a number, the least significant first. -/
def unpack (value : UInt32) : List UInt8 :=
  [value.toUInt8, (value >>> 8).toUInt8, (value >>> 16).toUInt8, (value >>> 24).toUInt8]

def code (format : Fourcc) : String :=
  String.ofList ((unpack format.value).map fun b => Char.ofNat b.toNat)

def text (format : Fourcc) : String :=
  "DrmFourcc(" ++ format.code ++ ")"

/-- The format used unless another is asked for: 32 bits, no alpha. -/
def xrgb8888 : Fourcc := ⟨pack 0x58 0x52 0x32 0x34⟩

end Fourcc

end Scanout
