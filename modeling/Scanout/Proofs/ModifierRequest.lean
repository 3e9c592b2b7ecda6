import Scanout.Program
import Scanout.Proofs.ArgumentReading
import Scanout.Proofs.ConfigReading

namespace Scanout

namespace Config

variable {decode : String → Except ConfigError Config} {config : Config}

variable {σ : Type} [World σ] {files : String → FileEntry} {places : UserPlaces}
  {path : Option String} {world : σ}

end Config

namespace Settings

variable {recognize : UInt32 → Option Fourcc} {line : CommandLine} {config : Config}
  {settings : Settings}

section Readers

variable {σ : Type} [World σ] {readLine : List String → Except Halt CommandLine}
  {document : String → Option (List Kdl.Node)} {decode : String → Except ConfigError Config}

end Readers

end Settings

end Scanout
