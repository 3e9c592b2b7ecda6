import Scanout.Bench.Gbm
import Scanout.Bench.Gl

namespace Scanout

/-- Buffers and a surface that a renderer is tried on, and the fences it gave. -/
structure Studio where
  buffers : List Buffer
  surface : Option Surface
  fences : List Fence
deriving DecidableEq, Repr

namespace Studio

def empty : Studio := ⟨[], none, []⟩

/-- Adds a buffer to draw into, and gives its position. -/
def addBuffer (a : Allocator Bench) (spec : BufferSpec) (modifier : Option Modifier) (s : Studio) :
    Act Bench (Except CallError Nat × Studio) := do
  match ← a.allocate spec (modifier.elim (.implicit renderingUsage) .explicit) with
  | .error cause => return (.error cause, s)
  | .ok buffer => return (.ok s.buffers.length, { s with buffers := s.buffers ++ [buffer] })

def anySurface (a : Allocator Bench) (s : Studio) :
    Act Bench (Except CallError Surface × Studio) := do
  match s.surface with
  | some surface => return (.ok surface, s)
  | none =>
    match ← a.createSurface ⟨16, 16, .xrgb8888⟩ (.implicit renderingUsage) with
    | .error cause => return (.error cause, s)
    | .ok surface => return (.ok surface, { s with surface := some surface })

def render (r : Renderer Bench) (target : RenderTarget) (frame : Nat) (s : Studio) :
    Act Bench (Except Failure Nat × Studio) := do
  match ← r.render target frame with
  | .error failure => return (.error failure, s)
  | .ok fence => return (.ok s.fences.length, { s with fences := s.fences ++ [fence] })

/-- Has the renderer wait for a new fence, which is closed afterwards. -/
def wait (r : Renderer Bench) (label : String) : Act Bench (Except Failure Unit) := do
  let fence ← Bench.issue label
  let result ← r.waitForScanout fence
  closeFence fence
  return result

def dropFences (s : Studio) : Act Bench (Unit × Studio) := do
  s.fences.forM closeFence
  return ((), { s with fences := [] })

def drop (a : Allocator Bench) (s : Studio) : Act Bench Unit := do
  s.buffers.forM a.free
  s.surface.forM a.dropSurface
  s.fences.forM closeFence

end Studio

end Scanout
