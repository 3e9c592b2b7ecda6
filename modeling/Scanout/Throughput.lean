namespace Scanout

structure ThroughputReport where
  frames : Nat
  elapsed : Nat
deriving DecidableEq, Repr

def second : Nat := 1000000000

namespace ThroughputReport

/-- The time in seconds, whole seconds and the rest of a second converted apart. -/
def seconds (report : ThroughputReport) : Float :=
  (UInt64.ofNat (report.elapsed / second)).toFloat
    + (UInt64.ofNat (report.elapsed % second)).toFloat / 1000000000.0

/-- Frames in a second, and zero over no time at all. -/
def rate (report : ThroughputReport) : Float :=
  if 0.0 < report.seconds then (UInt64.ofNat report.frames).toFloat / report.seconds else 0.0

end ThroughputReport

/-- Counts shown frames and says from time to time how fast they come. Measuring starts at the
first frame, whose own cost is left out. -/
structure Throughput where
  start : Nat
  lastReport : Nat
  frames : Nat
deriving DecidableEq, Repr

namespace Throughput

def interval : Nat := 2 * second

def begin (now : Nat) : Throughput :=
  ⟨now, now, 0⟩

/-- Records a frame shown at `now`. -/
def frame (t : Throughput) (now : Nat) : Throughput × Option ThroughputReport :=
  if t.frames = 0 then (⟨now, now, 1⟩, none)
  else if now - t.lastReport < interval then ({ t with frames := t.frames + 1 }, none)
  else
    ({ t with lastReport := now, frames := t.frames + 1 }, some ⟨t.frames, now - t.start⟩)

/-- Records frames shown one after the other, with what is said after each. -/
def frameAll (t : Throughput) : List Nat → Throughput × List (Option ThroughputReport)
  | [] => (t, [])
  | now :: later =>
    let (t, report) := t.frame now
    let (t, reports) := frameAll t later
    (t, report :: reports)

end Throughput

end Scanout
