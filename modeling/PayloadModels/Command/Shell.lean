import PayloadModels.CommandLine.Reader
import PayloadModels.Error

/-!
# Completions for shells

A shell completes the first word of a command line to the name of a command once it has read a
script (`Shell.script`) that tells it these names.
-/

namespace PayloadModels

/-- A shell that can complete commands. -/
inductive Shell where
  | bash
  | elvish
  | fish
  | powerShell
  | zsh
  deriving DecidableEq, Repr

namespace Shell

/-- The shell of a name, in any case. -/
def ofName? (name : String) : Option Shell :=
  match Unicode.lowercase name with
  | "bash" => some bash
  | "elvish" => some elvish
  | "fish" => some fish
  | "powershell" | "pwsh" => some powerShell
  | "zsh" => some zsh
  | _ => none

/-- The names of the commands, with text between them. -/
def wordsWith (between : String) : String :=
  between.intercalate (CommandLine.Verb.all.map CommandLine.Verb.word)

/-- The script that makes a shell complete the names of the commands. -/
def script : Shell → List String
  | bash => ["complete -W \"" ++ wordsWith " " ++ "\" modelsync"]
  | elvish =>
    ["set edit:completion:arg-completer[modelsync] = \x7b|@words| put " ++ wordsWith " " ++ " \x7d"]
  | fish => ["complete -c modelsync -n __fish_use_subcommand -f -a '" ++ wordsWith " " ++ "'"]
  | powerShell =>
    ["Register-ArgumentCompleter -Native -CommandName modelsync -ScriptBlock \x7b",
     "  param($word) @('" ++ wordsWith "', '" ++ "') | Where-Object \x7b $_ -like \"$word*\" \x7d",
     "\x7d"]
  | zsh => ["#compdef modelsync", "compadd " ++ wordsWith " "]

/-- The script for the shell of a name. -/
def scriptFor (name : String) : Except Error (List String) :=
  match ofName? name with
  | some shell => .ok shell.script
  | none => .error (.unknownShell name)

end Shell

end PayloadModels
