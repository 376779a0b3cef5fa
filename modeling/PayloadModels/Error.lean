/-!
# Errors

Everything that can keep a run from finishing (`Error`), with the message a user sees
(`Error.message`), a code that tells the kinds apart (`Error.code`) and, for some kinds, what to
do about it (`Error.help?`).
-/

namespace PayloadModels

/-- Why a run could not finish. -/
inductive Error where
  | configNotFound (path : String)
  | configUnparsable (path reason : String)
  | configInvalid (fault : String)
  | configUnreadable (path reason : String)
  | unknownLanguage (name : String)
  | unknownShell (name : String)
  | sourceNotFound (pattern : String)
  | payloadUnparsable (path reason : String)
  | payloadInvalid (path reason : String)
  | patternInvalid (pattern reason : String)
  /-- The models whose files a run would change. -/
  | outOfDate (models : List String)
  | fileUnreadable (path reason : String)
  | fileUnwritable (path reason : String)
  | recordUndecodable (record reason : String)
  deriving DecidableEq, Repr

namespace Error

/-- The message of the error. -/
def message : Error → String
  | configNotFound path => "Configuration file not found: " ++ path
  | configUnparsable path reason =>
    "Failed to parse configuration file: " ++ path ++ ": " ++ reason
  | configInvalid fault => "Invalid configuration: " ++ fault
  | configUnreadable path _ => "Failed to read configuration file: " ++ path
  | unknownLanguage name => "Language not supported: " ++ name
  | unknownShell name => "Unknown shell: " ++ name
  | sourceNotFound pattern => "No sample payloads match '" ++ pattern ++ "'"
  | payloadUnparsable path reason =>
    "Failed to parse sample payload: " ++ path ++ ": " ++ reason
  | payloadInvalid path reason => "Invalid sample payload: " ++ path ++ ": " ++ reason
  | patternInvalid pattern reason => "Invalid source pattern '" ++ pattern ++ "': " ++ reason
  | outOfDate models => "Models are out of date: " ++ ", ".intercalate models
  | fileUnreadable path _ => "Failed to read file: " ++ path
  | fileUnwritable path reason => "Failed to write file: " ++ path ++ ": " ++ reason
  | recordUndecodable record reason => "Failed to decode " ++ record ++ ": " ++ reason

/-- The code of the error's kind. -/
def code : Error → String
  | configNotFound _ => "modelsync::config::not_found"
  | configUnparsable _ _ => "modelsync::config::parse_failed"
  | configInvalid _ => "modelsync::config::invalid"
  | configUnreadable _ _ => "modelsync::config::read_failed"
  | unknownLanguage _ => "modelsync::language::not_supported"
  | unknownShell _ => "modelsync::cli::unknown_shell"
  | sourceNotFound _ => "modelsync::source::not_found"
  | payloadUnparsable _ _ => "modelsync::source::parse_failed"
  | payloadInvalid _ _ => "modelsync::source::invalid"
  | patternInvalid _ _ => "modelsync::source::invalid_pattern"
  | outOfDate _ => "modelsync::generate::out_of_date"
  | fileUnreadable _ _ => "modelsync::fs::read_failed"
  | fileUnwritable _ _ => "modelsync::fs::write_failed"
  | recordUndecodable _ _ => "modelsync::records::decode_failed"

/-- What a user can do about the error. -/
def help? : Error → Option String
  | configNotFound _ => some "Create a modelsync.yaml or point to one with --config"
  | unknownLanguage _ => some "Supported languages: swift, kotlin, objc, rust"
  | unknownShell _ => some "Supported shells: bash, elvish, fish, powershell, zsh"
  | sourceNotFound _ =>
    some "Source paths are resolved relative to the directory containing modelsync.yaml"
  | payloadInvalid _ _ =>
    some "A sample payload must be a JSON object or an array of JSON objects"
  | outOfDate _ => some "Run 'modelsync generate' to update the generated models"
  | recordUndecodable _ _ =>
    some "Missing and null fields decode to defaults; other values must match the field type"
  | _ => none

end Error

end PayloadModels
