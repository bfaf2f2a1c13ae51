/-!
Where the settings file lives: a path given on the command line, else the one the
`VOXLINK_CONFIG` variable names (even an empty one), else `voxlink/settings.json` in the
user's configuration directory. That directory is `XDG_CONFIG_HOME` when it is an absolute
path, and otherwise `.config` in the home directory.
-/

namespace Talkback.App

/-- The environment variables that place the settings file. -/
structure Environment where
  configFile : Option String := none
  configHome : Option String := none
  home : Option String := none
  deriving DecidableEq, Repr, Inhabited

/-- `part` below `base`; below an empty base it stands alone. -/
def joinPath (base part : String) : String :=
  if base.isEmpty then part
  else if base.endsWith "/" then base ++ part
  else base ++ "/" ++ part

namespace Environment

/-- The user's configuration directory, if the environment places one. -/
def configDir (e : Environment) : Option String :=
  match e.configHome with
  | some d => if d.startsWith "/" then some d else e.home.map (joinPath · ".config")
  | none => e.home.map (joinPath · ".config")

/-- The settings file in the configuration directory, or in the current one. -/
def defaultSettingsPath (e : Environment) : String :=
  joinPath (joinPath (e.configDir.getD ".") "voxlink") "settings.json"

/-- The settings file to use, given the path from the command line, if any. -/
def settingsPath (e : Environment) (explicit : Option String) : String :=
  match explicit, e.configFile with
  | some p, _ => p
  | none, some p => p
  | none, none => e.defaultSettingsPath

end Environment

end Talkback.App
