import PayloadModels.Generation.Files

/-!
# What a command shows

The lines that a run prints, and what it tells of its progress while it renders.
-/

namespace PayloadModels

/-!
## Styled text

Text for a terminal, which shows styles by codes around it. Text is padded to a width inside its
codes, so that a column keeps its width. Where the output is no terminal, styles show nothing.
-/

/-- How text stands out. -/
inductive Style where
  | red
  | green
  | yellow
  | cyan
  | bold
  | dim
  deriving DecidableEq, Repr

namespace Style

/-- The number of a style's code. -/
def number : Style → Nat
  | red => 31
  | green => 32
  | yellow => 33
  | cyan => 36
  | bold => 1
  | dim => 2

/-- The code that begins a style. -/
def code (style : Style) : String := "\x1b[" ++ toString style.number ++ "m"

/-- The code that ends all styles. -/
def reset : String := "\x1b[0m"

/-- The text in some styles, if they are to be shown. -/
def apply (styles : List Style) (colored : Bool) (text : String) : String :=
  if colored then String.join (styles.map code) ++ text ++ reset else text

end Style

end PayloadModels

namespace PayloadModels.Report

/-!
## Reports

What a run prints about the files it generated (`Report.generated`) and about the orphans it
found (`Report.orphans`), line by line. Files are shown by their paths below the project's
directory.
-/

/-- A path as reports show it: what follows the directory, if it lies there. -/
def shownPath (directory path : Path) : String := (directory.after? path).getD path.text

/-- What a report says about a file of a status. -/
def label (status : FileStatus) (dryRun : Bool) : String :=
  match status, dryRun with
  | .created, false => "created"
  | .created, true => "would create"
  | .updated, false => "updated"
  | .updated, true => "would update"
  | .unchanged, _ => "unchanged"

/-- How a report shows a status. -/
def style : FileStatus → Style
  | .created => .green
  | .updated => .yellow
  | .unchanged => .dim

/-- The label of a status, as wide as the widest. -/
def statusLabel (status : FileStatus) (dryRun colored : Bool) : String :=
  Style.apply [style status] colored (Text.padStart 12 (label status dryRun))

/-- The lines about the files of a run: one for each changed file, or for each file when `verbose`,
and a summary. -/
def generated (files : List GeneratedFile) (directory : Path) (dryRun verbose colored : Bool) :
    List String :=
  let shown := files.filter fun file => verbose || file.status.isChanged
  let heading := Style.apply [.bold] colored (if dryRun then "Dry run:" else "Done:")
  shown.map (fun file =>
    statusLabel file.status dryRun colored ++ " " ++ shownPath directory file.path)
  ++ [heading ++ " " ++ (Summary.ofList (files.map (·.status))).line]

/-- The lines about orphans, which were removed or can be. -/
def orphans (paths : List Path) (directory : Path) (removed colored : Bool) : List String :=
  let word := if removed then "removed" else "orphaned"
  let label := Style.apply [.red] colored (Text.padStart 12 word)
  let advice := Style.apply [.dim] colored "Run with --prune to remove orphaned models"
  paths.map (fun path => label ++ " " ++ shownPath directory path)
  ++ (if removed || paths.isEmpty then [] else [advice])

end PayloadModels.Report

namespace PayloadModels

/-!
## Rendering with progress

A command works out the files of a set model by model, and tells a `Reporter` how far it is
(`Generator.renderModels`). What a reporter makes of that is no part of the files.
-/

/-- Something that is told how far the rendering of models is, and has a state of its own. -/
structure Reporter (σ : Type) where
  startModel : String → σ → σ
  finishModel : σ → σ
  finish : σ → σ
  /-- What becomes of the state when a model cannot be rendered. -/
  abandon : σ → σ

namespace Reporter

/-- The reporter that shows nothing. -/
def silent : Reporter Unit :=
  { startModel := fun _ state => state
    finishModel := id
    finish := id
    abandon := id }

variable {σ ε α β : Type}

/-- What is there already and what is rendered of further models, where the reporter is told of each
of them. The first one that cannot be rendered stops this. -/
def collect (reporter : Reporter σ) (render : String → α → Except ε (List β)) :
    σ → List β → List (String × α) → σ × Except ε (List β)
  | state, there, [] => (reporter.finish state, .ok there)
  | state, there, (name, model) :: models =>
    let started := reporter.startModel name state
    match render name model with
    | .error error => (reporter.abandon started, .error error)
    | .ok rendered =>
      reporter.collect render (reporter.finishModel started) (there ++ rendered) models

end Reporter

/-- The files of all models, in order, compared with those on a disk, where a reporter is told of
each model. -/
def Generator.renderModels {σ : Type} (generator : Generator) (disk : Disk)
    (reporter : Reporter σ) (state : σ) (set : ModelSet) : σ × Except Error (List GeneratedFile) :=
  reporter.collect (generator.modelFiles disk) state [] set.models

end PayloadModels
