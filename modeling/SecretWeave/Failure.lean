import SecretWeave.Fault

/-!
# Failures

What can go wrong when secrets are put into templates: the template may be at fault, or the source
of secrets, the configuration, the system or the call.
-/

namespace SecretWeave

inductive SystemError where
  | notFound
  | noDevice
  | notStartable
  | permissionDenied
  | exists
  | notDirectory
  | isDirectory
  | invalid
  | noSpace
  | nameTooLong
  | notEmpty
  | invalidText
  | strayNul
  deriving DecidableEq, Repr

namespace SystemError

def reason : SystemError → Text
  | .notFound => "No such file or directory".toList
  | .noDevice => "No such device or address".toList
  | .notStartable => "Exec format error".toList
  | .permissionDenied => "Permission denied".toList
  | .exists => "File exists".toList
  | .notDirectory => "Not a directory".toList
  | .isDirectory => "Is a directory".toList
  | .invalid => "Invalid argument".toList
  | .noSpace => "No space left on device".toList
  | .nameTooLong => "File name too long".toList
  | .notEmpty => "Directory not empty".toList
  | .invalidText => "stream did not contain valid UTF-8".toList
  | .strayNul => "nul byte found in provided data".toList

/-- The number by which the system knows the reason, if it is the system's own. -/
def number : SystemError → Option Nat
  | .notFound => some 2
  | .noDevice => some 6
  | .notStartable => some 8
  | .permissionDenied => some 13
  | .exists => some 17
  | .notDirectory => some 20
  | .isDirectory => some 21
  | .invalid => some 22
  | .noSpace => some 28
  | .nameTooLong => some 36
  | .notEmpty => some 39
  | .invalidText => none
  | .strayNul => none

def message (e : SystemError) : Text :=
  match e.number with
  | some n => e.reason ++ " (os error ".toList ++ Text.ofNat n ++ [')']
  | none => e.reason

end SystemError

inductive Failure where
  | template (fault : Fault)
  | system (error : SystemError)
  | badConfig
  | badDotenv
  | keychain
  | unknownVersion (selector : Text)
  | badVariable (name : Text)
  | unknownSource (name : Text)
  | sourceFailed (message : Text)
  | secretNotFound (path : Text)
  | noInput
  | fileExists (path : Text)
  | noCommand
  deriving DecidableEq, Repr

namespace Failure

def ofUsage : Fault → Failure
  | .unknownVersion s => .unknownVersion s
  | .badName n => .badVariable n
  | f => .template f

def message : Failure → Text
  | .template f => f.message
  | .system e => "IO error: ".toList ++ e.message
  | .badConfig => "TOML parsing error".toList
  | .badDotenv => "Dotenv error".toList
  | .keychain => "Keyring error".toList
  | .unknownVersion s =>
    "unknown template version: '".toList ++ s ++ "' supported versions are 1, 2 and latest".toList
  | .badVariable n =>
    "template variable '".toList ++ n ++
      "' is invalid, variable names must match [A-Za-z_][A-Za-z0-9_]*".toList
  | .unknownSource n => "Secret source '".toList ++ n ++ "' not found".toList
  | .sourceFailed m => "Secret source operation failed: ".toList ++ m
  | .secretNotFound p => "Secret '".toList ++ p ++ "' not found".toList
  | .noInput => "no data on stdin: pipe a template into this command or pass --in-file".toList
  | .fileExists p =>
    "file ".toList ++ p ++ " already exists, use --force to overwrite it".toList
  | .noCommand =>
    "No command specified. Usage: secretinject run -- <command> [args...]".toList

def chain : Failure → List Text
  -- what was placed on a line is told once more without it
  | .template (.located n f) => [(Fault.located n f).message, f.message]
  | .system e => [(Failure.system e).message, e.message]
  | f => [f.message]

end Failure

end SecretWeave
