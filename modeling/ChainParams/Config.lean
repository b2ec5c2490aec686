import ChainParams.ParameterSet.Form

/-!
# Configuration files

A network is described by a file in the JSON form of its parameter set.  What is
read from a file is always validated, so it can be registered unless its magic
is taken.
-/

namespace ChainParams

/-- Why the text of a file could not be had. -/
inductive FileError where
  | notFound
  | notUtf8
  | other (reason : String)
  deriving DecidableEq

/-- The wording of a file error. -/
def FileError.message : FileError → String
  | notFound => "No such file or directory (os error 2)"
  | notUtf8 => "stream did not contain valid UTF-8"
  | other reason => reason

/-- Why a file gives no parameter set. -/
inductive ConfigError where
  | unreadable (e : FileError)
  | malformed (fault : Json.Fault)
  | inconsistent (flaw : Flaw)

/-- The wording of a fault. -/
def Json.Fault.message : Json.Fault → String
  | eof => "the text ends too early"
  | malformed => "the text is not JSON"
  | data m => m.message

/-- The wording of a configuration error. -/
def ConfigError.message : ConfigError → String
  | unreadable e => "failed to read network config: " ++ e.message
  | malformed fault => "malformed network config: " ++ fault.message
  | inconsistent flaw => "network config is inconsistent: " ++ flaw.message

namespace Config

/-- The parameter set that a text describes. -/
def parse (text : String) : Except ConfigError ParameterSet :=
  match ParameterSet.form.readText text with
  | .error fault => .error (.malformed fault)
  | .ok p =>
    match p.validate with
    | .ok () => .ok p
    | .error flaw => .error (.inconsistent flaw)

/-- The parameter set that the bytes of a file describe. -/
def load : Except FileError ByteArray → Except ConfigError ParameterSet
  | .error e => .error (.unreadable e)
  | .ok bytes =>
    match String.fromUTF8? bytes with
    | some text => parse text
    | none => .error (.unreadable .notUtf8)

/-- The text that describes a parameter set. -/
def render (p : ParameterSet) : String :=
  (ParameterSet.form.write p).indented

end Config

end ChainParams
