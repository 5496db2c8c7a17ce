import Joinery.Config.Document
import Joinery.Config.Load
import Joinery.Toml.Printer
import Joinery.Toml.Reader

/-!
# Configuration files

A configuration is kept in a TOML file. Where there is no file the standard
configuration applies; a file that cannot be read or does not describe a
configuration is a fault, even if the environment overrides everything in it.
-/

namespace Joinery

/-- What is found where a configuration file is looked for. -/
inductive ConfigFile where
  | missing
  /-- Something that is not a readable text, such as a directory. -/
  | unreadable
  | text (contents : String)
deriving DecidableEq

namespace Config

/-- The configuration that the text of a file describes. -/
def ofText? (text : String) : Option Config := (Toml.parse? text).bind (ofJson? .toml)

/-- The text of a file for a configuration. Numbers beyond 63 bits cannot be
written. -/
def text? (config : Config) : Option String := Toml.write? config.toJson

/-- The configuration that a file and the environment make up, if it is valid. -/
def load (file : ConfigFile) (environment : Environment) : Except ServiceFault Config :=
  match file with
  | .missing => standard.finish environment
  | .unreadable => .error (.configLoadFailed "the file cannot be read")
  | .text contents =>
    match ofText? contents with
    | none => .error (.configLoadFailed "the file does not describe a configuration")
    | some config => config.finish environment

/-- The configuration that a file and the environment make up, or the standard
one where these do not make up a valid one. -/
def loadOrStandard (file : ConfigFile) (environment : Environment) : Config :=
  match load file environment with
  | .ok config => config
  | .error _ => standard

/-- The text to save for a configuration. -/
def toSave (config : Config) : Except ServiceFault String :=
  match config.text? with
  | some text => .ok text
  | none => .error (.configSaveFailed "a number does not fit")

/-- The path of a name below another path. -/
def below (path name : String) : String :=
  if path.isEmpty || path.endsWith "/" then path ++ name else path ++ "/" ++ name

/-- Where the configuration file is, if the environment tells: in the directory
for configurations, which is below the home directory unless set. -/
def defaultPath? (environment : Environment) : Option String :=
  let home := (environment "HOME").filter fun path => !path.isEmpty
  let directory := (environment "XDG_CONFIG_HOME").filter fun path => path.startsWith "/"
  (directory.or (home.map (below · ".config"))).map fun path =>
    below (below path "atelier") "atelier.toml"

end Config

end Joinery
