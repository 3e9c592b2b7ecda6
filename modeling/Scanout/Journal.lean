import Scanout.Program

namespace Scanout

/-- The world of a program that has nothing to present on: only what it logs. -/
structure Journal where
  notes : List Note

namespace Journal

def blank : Journal := ⟨[]⟩

instance : World Journal where
  record n journal := ⟨journal.notes ++ [n]⟩
  now journal := (0, journal)
  close _ journal := journal

def unanswered {α : Type} : Act Journal (Except CallError α) :=
  return .error .noSuchRequest

/-- What opens as a plain file: every call on it fails. -/
def plainFile : Device Journal where
  enable _ := unanswered
  resources := unanswered
  connector _ := unanswered
  encoder _ := unanswered
  planes := unanswered
  plane _ := unanswered
  properties _ := unanswered
  propertyName _ := unanswered
  createBlob _ := unanswered
  destroyBlob _ := unanswered
  addFramebuffer _ _ := unanswered
  removeFramebuffer _ := unanswered
  commit _ := unanswered

/-- A machine without display devices. Paths lead to plain files, unless they do not open. -/
def machine (openFile : String → Except CallError Unit) : Machine Journal Unit where
  opener :=
    { candidates := return .error .noEntry
      openAt := fun path => return openFile path
      resources := fun _ => unanswered
      close := fun _ => return }
  device _ := plainFile
  allocator _ := unanswered
  renderer _ _ := return .error (.of "Unable to obtain a valid EGL Display.")
  dropRenderer := return
  waiter := ⟨fun _ => return .ok ()⟩
  inputReady := return .ok false

end Journal

end Scanout
