import Scanout.Collaborators

namespace Scanout

variable {σ : Type} [World σ]

/-- The entries of the listed properties, without those whose name cannot be read. -/
def readEntries (device : Device σ) (object : DisplayObject) :
    List (PropertyId × UInt64) → Act σ (List PropertyEntry)
  | [] => return []
  | (handle, value) :: rest => do
    match ← device.propertyName handle with
    | .ok name => return ⟨name, handle, value⟩ :: (← readEntries device object rest)
    | .error cause =>
      note (.propertyUnreadable object cause)
      readEntries device object rest

def PropertyTable.load (device : Device σ) (object : DisplayObject) :
    Act σ (Except DisplayError PropertyTable) := do
  match ← device.properties object with
  | .error cause => return .error (.propertyQueryFailed object cause)
  | .ok listed =>
    let entries ← readEntries device object listed
    note (.propertiesRead object entries.length)
    return .ok ⟨object, entries⟩

def PropertyCache.load (device : Device σ) (topology : Topology) :
    Act σ (Except DisplayError PropertyCache) := do
  match ← PropertyTable.load device (.connector topology.connector) with
  | .error e => return .error e
  | .ok connector =>
    match ← PropertyTable.load device (.crtc topology.crtc) with
    | .error e => return .error e
    | .ok crtc =>
      match ← PropertyTable.load device (.plane topology.plane) with
      | .error e => return .error e
      | .ok plane => return .ok ⟨connector, crtc, plane⟩

end Scanout
