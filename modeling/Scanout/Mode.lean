import Scanout.Text.Utf8

namespace Scanout

/-- A display mode of a connector. The name is the kernel's, in bytes. -/
structure Mode where
  name : List UInt8
  width : UInt16
  height : UInt16
  refresh : UInt32
  clock : UInt32
  type : UInt32
deriving DecidableEq, Repr

namespace Mode

/-- Bit 3 of the type marks the mode a connector prefers. -/
def isPreferred (mode : Mode) : Bool :=
  mode.type &&& 8 != 0

/-- The type bits that have a meaning. -/
def knownType (mode : Mode) : UInt32 :=
  mode.type &&& 127

def label (mode : Mode) : String :=
  Text.lossy mode.name

def size (mode : Mode) : UInt32 × UInt32 :=
  (mode.width.toUInt32, mode.height.toUInt32)

/-- The number of pixels. A product of two 16-bit sizes fits 32 bits. -/
def area (mode : Mode) : UInt32 :=
  mode.width.toUInt32 * mode.height.toUInt32

/-- Whether a mode is the one called `name`. A `refresh` of zero fits any. -/
def isCalled (name : String) (refresh : UInt32) (mode : Mode) : Bool :=
  mode.name == Text.bytes name && (refresh == 0 || mode.refresh == refresh)

/-- The earliest mode of the largest area, `best` standing before the list. -/
def largestFrom (best : Mode) : List Mode → Mode
  | [] => best
  | mode :: rest => largestFrom (if best.area < mode.area then mode else best) rest

def largest? : List Mode → Option Mode
  | [] => none
  | mode :: rest => some (largestFrom mode rest)

/-- The mode to use when none is asked for: the first preferred one, else the largest. -/
def default? (modes : List Mode) : Option Mode :=
  match modes.find? isPreferred with
  | some mode => some mode
  | none => largest? modes

/-- A chosen mode, and whether it stands in for one that was asked for but not found. -/
structure Choice where
  mode : Mode
  fallback : Bool
deriving DecidableEq, Repr

/-- Picks the mode called `name`, or the default one when there is no name or no such mode. -/
def pick (modes : List Mode) (name : Option String) (refresh : UInt32) : Option Choice :=
  match name with
  | none => (default? modes).map (⟨·, false⟩)
  | some name =>
    match modes.find? (isCalled name refresh) with
    | some mode => some ⟨mode, false⟩
    | none => (default? modes).map (⟨·, true⟩)

end Mode

end Scanout
