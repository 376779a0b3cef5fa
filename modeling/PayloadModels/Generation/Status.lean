/-!
# What a run does to files

A generated file is new, differs from the one that is there, or is the same (`FileStatus`), and a
`Summary` counts the files of a run by status.
-/

namespace PayloadModels

/-- What writing a generated file does to the file that is there. -/
inductive FileStatus where
  | created
  | updated
  | unchanged
  deriving DecidableEq, Repr, Inhabited

/-- Whether there is anything to write. -/
def FileStatus.isChanged (status : FileStatus) : Bool := status ≠ .unchanged

/-- How many files of a run have each status. -/
structure Summary where
  created : Nat
  updated : Nat
  unchanged : Nat
  deriving DecidableEq, Repr

namespace Summary

/-- The summary of the statuses of a run's files. -/
def ofList (statuses : List FileStatus) : Summary :=
  { created := statuses.count .created
    updated := statuses.count .updated
    unchanged := statuses.count .unchanged }

/-- The number of files that are written. -/
def changed (summary : Summary) : Nat := summary.created + summary.updated

/-- The summary in one line. -/
def line (summary : Summary) : String :=
  toString summary.created ++ " created, " ++ toString summary.updated ++ " updated, "
    ++ toString summary.unchanged ++ " unchanged"

end Summary

end PayloadModels
