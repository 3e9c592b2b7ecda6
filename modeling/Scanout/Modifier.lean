import Scanout.Number

namespace Scanout

structure Modifier where
  raw : UInt64
deriving DecidableEq, Repr

namespace Modifier

def linear : Modifier := ⟨0⟩

/-- The modifier that stands for an unknown layout. -/
def invalid : Modifier := ⟨0x00ffffffffffffff⟩

def names : List (UInt64 × String) :=
  [(0, "Linear"),
  (0x00ffffffffffffff, "Invalid"),
  (648518346341351425, "Allwinner_tiled"),
  (504403158265495556, "Broadcom_sand128"),
  (504403158265495557, "Broadcom_sand256"),
  (504403158265495554, "Broadcom_sand32"),
  (504403158265495555, "Broadcom_sand64"),
  (504403158265495558, "Broadcom_uif"),
  (504403158265495553, "Broadcom_vc4_t_tiled"),
  (288230376151711746, "Generic_16_16_tile"),
  (216172782113783827, "Nvidia_16bx2_block_eight_gob"),
  (216172782113783826, "Nvidia_16bx2_block_four_gob"),
  (216172782113783824, "Nvidia_16bx2_block_one_gob"),
  (216172782113783828, "Nvidia_16bx2_block_sixteen_gob"),
  (216172782113783829, "Nvidia_16bx2_block_thirtytwo_gob"),
  (216172782113783825, "Nvidia_16bx2_block_two_gob"),
  (216172782113783809, "Nvidia_tegra_tiled"),
  (360287970189639681, "Qcom_compressed"),
  (288230376151711745, "Samsung_64_32_tile"),
  (432345564227567620, "Vivante_split_super_tiled"),
  (432345564227567619, "Vivante_split_tiled"),
  (432345564227567618, "Vivante_super_tiled"),
  (432345564227567617, "Vivante_tiled"),
  (72057594037927937, "I915_x_tiled"),
  (72057594037927938, "I915_y_tiled"),
  (72057594037927940, "I915_y_tiled_ccs"),
  (72057594037927943, "I915_y_tiled_gen12_mc_ccs"),
  (72057594037927942, "I915_y_tiled_gen12_rc_ccs")]

/-- How a modifier is written in messages: its name, or its number. -/
def text (m : Modifier) : String :=
  (names.lookup m.raw).getD ("Unrecognized(" ++ toString m.raw ++ ")")

end Modifier

/-- A modifier as the user asks for it. -/
inductive ModifierSpec
  | linear
  | invalid
  | value (raw : UInt64)
deriving DecidableEq, Repr

namespace ModifierSpec

/-- Reads a request: a keyword in any case, a decimal number, or a hexadecimal one after `0x`.
Zero asks for the linear layout. -/
def ofChars? (text : List Char) : Option ModifierSpec :=
  if text.map Char.toLower = "linear".toList then some linear
  else if text.map Char.toLower = "invalid".toList then some invalid
  else
    let number :=
      match text with
      | '0' :: 'x' :: digits | '0' :: 'X' :: digits => Number.read 16 UInt64.size digits
      | digits => Number.read 10 UInt64.size digits
    match number with
    | .ok 0 => some linear
    | .ok raw => some (value (UInt64.ofNat raw))
    | .error _ => none

def parse? (text : String) : Option ModifierSpec :=
  ofChars? text.toList

def complaint (text : String) : String :=
  "invalid modifier `" ++ text ++ "`, expected `linear`, `invalid` or a number"

def toModifier : ModifierSpec → Modifier
  | linear => .linear
  | invalid => .invalid
  | value raw => ⟨raw⟩

end ModifierSpec

end Scanout
