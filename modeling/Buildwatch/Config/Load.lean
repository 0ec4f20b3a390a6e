import Buildwatch.Codec.Config
import Buildwatch.Path
import Buildwatch.Text.Utf8
import Buildwatch.Toml.Reader

/-!
# Finding the configuration

The configuration comes from the first file that exists: that of the project, then
that of the user. A file that exists and cannot be used is an error, whatever the
other files hold; without any file the defaults are used.
-/

namespace Buildwatch

inductive ConfigError
  | unreadable (path : Path) (reason : String)
  | malformed (path : Path)
  deriving DecidableEq, Repr

/-- The sentence that reports the error; the account of what is malformed follows it. -/
def ConfigError.message : ConfigError → String
  | .unreadable path reason => s!"Failed to read config file {path.display}: {reason}"
  | .malformed path => s!"Failed to parse config file {path.display}"

namespace ConfigFile

/-! ## Places -/

def projectFile : String := ".haskell-build.toml"

/-- The file of the user, as seen from the directory for configuration. -/
def userFile : String := "haskell-build/config.toml"

/-- Where the configuration of the user is kept, given the environment. -/
def userDirectory? (lookUp : String → Option String) : Option Path :=
  match (lookUp "XDG_CONFIG_HOME").filter fun directory => Path.isAbsolute directory with
  -- A relative directory is as good as none, and an empty one is relative.
  | some directory => some directory
  | none => ((lookUp "HOME").filter (· ≠ "")).map fun home => Path.join home ".config"

def searchPaths (root : Path) (lookUp : String → Option String) : List Path :=
  Path.join root projectFile :: ((userDirectory? lookUp).map (Path.join · userFile)).toList

/-! ## Contents -/

/-- What is found at a place. -/
inductive Found
  /-- The test for existence fails: nothing is there, or what is there cannot be looked at. -/
  | nothing
  | unreadable (reason : String)
  | bytes (bytes : List UInt8)
  deriving DecidableEq, Repr

def notText : String := "stream did not contain valid UTF-8"

/-- The configuration in the bytes of a file. -/
def decode (path : Path) (bytes : List UInt8) : Except ConfigError BuildConfig :=
  match Utf8.decode? bytes with
  | none => .error (.unreadable path notText)
  | some text =>
    match (Toml.parse? text).bind (BuildConfig.ofData? .toml) with
    | none => .error (.malformed path)
    | some config => .ok config

def load (look : Path → Found) : List Path → Except ConfigError BuildConfig
  | [] => .ok {}
  | path :: paths =>
    match look path with
    -- Only a file that is not there lets the next one have its say.
    | .nothing => load look paths
    | .unreadable reason => .error (.unreadable path reason)
    | .bytes bytes => decode path bytes

end ConfigFile

end Buildwatch
