/-!
# Where the configuration is
-/

namespace BareMetal.Settings

def inside (directory path : String) : String :=
  if directory.endsWith "/" then directory ++ path else directory ++ "/" ++ path

/-- The directory for configurations: the one set for it if that is an absolute path, else the usual
one inside the home directory. -/
def configHome (home : String) (set : Option String) : String :=
  match set with
  | some d => if d.startsWith "/" then d else inside home ".config"
  | none => inside home ".config"

def configPath (home : String) (set : Option String) : String :=
  inside (configHome home set) "maasly/config.toml"

end BareMetal.Settings
