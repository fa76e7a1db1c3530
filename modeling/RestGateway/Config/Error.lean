import RestGateway.Config.Setting
import RestGateway.Text.Ascii

/-!
# What is wrong with a configuration

A value of the wrong kind is reported with its key and the source it came from; a setting that the
gateway cannot start with is reported by a sentence.
-/

set_option autoImplicit false

namespace RestGateway.Config

inductive Origin where
  | builtin
  | file (path : String)
  | environment
  deriving DecidableEq, Repr

inductive ValueFault where
  | wrongType (found : Setting) (wanted : String)
  | wrongValue (found : Setting) (wanted : String)
  | wrongLength (length : Nat) (wanted : String)
  | missing (name : String)

def ValueFault.text : ValueFault → String
  | .wrongType found wanted => "invalid type: found " ++ found.shown ++ ", expected " ++ wanted
  | .wrongValue found wanted => "invalid value " ++ found.shown ++ ", expected " ++ wanted
  | .wrongLength length wanted => "invalid length " ++ toString length ++ ", expected " ++ wanted
  | .missing name => "missing field `" ++ name ++ "`"

inductive Error where
  /-- A setting that breaks a rule. -/
  | unusable (reason : String)
  /-- A value that does not fit its key. -/
  | value (key : List String) (fault : ValueFault) (origin : Origin)
  /-- A file that is not of the file format. -/
  | malformed (path : String)

namespace Error

/-- Keys of the environment are shown in upper case, those of files below the name `default`. -/
def place (key : List String) : Origin → String
  | .builtin => ""
  | .file path =>
    " for key " ++ Text.quoted (".".intercalate ("default" :: key)) ++ " in " ++ path ++
      " TOML file"
  | .environment =>
    " for key " ++ Text.quoted (".".intercalate (key.map fun k => k.map Char.toUpper)) ++
      " in `SG_RESTFUL_` environment variable(s)"

def message : Error → String
  | .unusable reason => reason
  | .value key fault origin => fault.text ++ place key origin
  | .malformed path => "malformed TOML in " ++ path ++ " TOML file"

end Error

end RestGateway.Config
