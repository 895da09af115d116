import Cashp.Guard.DenyCore
import Cashp.Kit.Text

/-!
The allowlist validators (`identifier.go`) that workloads go through.
-/

namespace Cashp.Guard

def maxIdentifierLen : Nat := 64
def maxEnvNameLen : Nat := 128
def maxEnvValueLen : Nat := 32768
def maxImageRefLen : Nat := 512

def deniedEnvNames : List String :=
  ["BASH_ENV", "BASH_FUNC_", "CDPATH", "DYLD_INSERT_LIBRARIES", "ENV", "GCONV_PATH",
    "GLIBC_TUNABLES", "IFS", "LD_AUDIT", "LD_LIBRARY_PATH", "LD_PRELOAD", "NODE_OPTIONS", "PATH",
    "PERL5LIB", "PERL5OPT", "PYTHONPATH", "PYTHONSTARTUP", "SHELL", "SHELLOPTS", "ZDOTDIR"]

def beginsWith (text start : String) : Bool := start.toList.isPrefixOf text.toList

def containsText (text part : String) : Bool :=
  text.toList.tails.any fun tail => part.toList.isPrefixOf tail

def isASCIIPrintable (text : String) : Bool :=
  text.toList.all fun c => 0x20 ≤ c.toNat && c.toNat ≤ 0x7e

def isLowerAlnum (c : Char) : Bool := ('a' ≤ c && c ≤ 'z') || ('0' ≤ c && c ≤ '9')

def isAlnum (c : Char) : Bool :=
  ('a' ≤ c && c ≤ 'z') || ('A' ≤ c && c ≤ 'Z') || ('0' ≤ c && c ≤ '9')

def quote (text : String) : String :=
  let escaped := text.toList.flatMap fun c => if c = '"' ∨ c = '\\' then ['\\', c] else [c]
  String.ofList ('"' :: escaped ++ ['"'])

def invalid (field value why : String) : String := field ++ " " ++ quote value ++ ": " ++ why

def checkCommon (field value : String) (maxLen : Nat) : Verdict := do
  denyWhen (value = "") .invalidInput (invalid field value "must not be empty")
  denyWhen (maxLen < value.utf8ByteSize) .invalidInput
    (invalid field "" ("exceeds " ++ toString maxLen ++ " bytes"))
  denyWhen (value.toList.contains '\x00' = true) .invalidInput
    (invalid field "" "contains a null byte")
  denyWhen (isASCIIPrintable value = false) .invalidInput
    (invalid field "" "contains non-printable or non-ASCII bytes")

def checkIdentifierFrom (field value : String) (previous : Char) : List Char → Verdict
  | [] => .ok ()
  | c :: rest =>
    if isLowerAlnum c then checkIdentifierFrom field value c rest
    else do
      denyWhen (c ≠ '-' ∧ c ≠ '_') .invalidInput
        (invalid field value "contains a character outside [a-z0-9_-]")
      denyWhen (previous = '-' ∨ previous = '_') .invalidInput
        (invalid field value "contains consecutive separators")
      checkIdentifierFrom field value c rest

def validateIdentifier (field value : String) : Verdict := do
  checkCommon field value maxIdentifierLen
  denyWhen (value.toList.head?.any isLowerAlnum = false ∨
      value.toList.getLast?.any isLowerAlnum = false) .invalidInput
    (invalid field value "must start and end with a lowercase alphanumeric")
  checkIdentifierFrom field value ' ' value.toList

def validateImageReference (value : String) : Verdict := do
  checkCommon "image" value maxImageRefLen
  denyWhen (beginsWith value "-" = true) .invalidInput
    (invalid "image" value "starts with an option marker")
  denyWhen (containsText value ".." = true) .invalidInput
    (invalid "image" value "contains a traversal sequence")
  denyWhen (value.toList.all (fun c => isAlnum c || ['.', '-', '_', '/', ':', '@'].contains c) =
      false) .invalidInput
    (invalid "image" value "contains a character outside the OCI reference set")

def validateEnvVarName (value : String) : Verdict := do
  checkCommon "env name" value maxEnvNameLen
  denyWhen (value.toList.head?.any (fun c => ('A' ≤ c && c ≤ 'Z') || c == '_') = false)
    .invalidInput (invalid "env name" value "must start with an uppercase letter or underscore")
  denyWhen (value.toList.all
      (fun c => ('A' ≤ c && c ≤ 'Z') || ('0' ≤ c && c ≤ '9') || c == '_') = false) .invalidInput
    (invalid "env name" value "contains a character outside [A-Z0-9_]")
  denyWhen (deniedEnvNames.contains value = true) .invalidInput
    (invalid "env name" value "is a loader or word-splitting variable")
  denyWhen (beginsWith value "BASH_FUNC_" = true ∨ beginsWith value "LD_" = true) .invalidInput
    (invalid "env name" value "is a loader or exported-function variable")

def checkEnvVarChars : List Char → Verdict
  | [] => .ok ()
  | c :: rest => do
    denyWhen (c = '\x00') .invalidInput (invalid "env value" "" "contains a null byte")
    denyWhen (c.toNat < 0x20 ∨ c.toNat = 0x7f) .invalidInput
      (invalid "env value" "" "contains a control character")
    checkEnvVarChars rest

def validateEnvVarValue (value : String) : Verdict := do
  denyWhen (maxEnvValueLen < value.utf8ByteSize) .invalidInput
    (invalid "env value" "" ("exceeds " ++ toString maxEnvValueLen ++ " bytes"))
  checkEnvVarChars value.toList

def validateEnvVars : List (String × String) → Except DenyError (List String)
  | [] => .ok []
  | (name, value) :: rest => do
    validateEnvVarName name
    validateEnvVarValue value
    let others ← validateEnvVars rest
    .ok ((name ++ "=" ++ value) :: others)

end Cashp.Guard
