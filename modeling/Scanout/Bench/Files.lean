import Scanout.Bench.Udev
import Scanout.ConfigFile

namespace Scanout

/-- The files of a bench: those that are always there, and a directory for the user's configuration,
which may hold a file. -/
structure FileModel where
  directory : String
  content : Option (List UInt8)

namespace FileModel

def places (model : FileModel) : UserPlaces :=
  ⟨some "/nonexistent", some model.directory, none⟩

/-- What a path outside of the directory leads to. -/
def elsewhere (path : String) : FileEntry :=
  match ({ NodeModel.bare with nullIsDevice := false }).openPath path with
  | .ok _ => .readable []
  | .error cause => if cause = .errno 21 then .unreadable cause else .absent cause

def entry (model : FileModel) (path : String) : FileEntry :=
  if some path = model.places.configPath then
    match model.content with
    | some bytes => .readable bytes
    | none => .absent .noEntry
  else if path = model.directory then .unreadable (.errno 21)
  else elsewhere path

end FileModel

end Scanout
