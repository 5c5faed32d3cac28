import WindowTiling.Config.Settings

/-!
# Settings from the environment

Environment variables can stand in for settings, and give the default place of the socket. All
integer variables are read first; then assignments made elsewhere take the place of what the
variables say.
-/

namespace WindowTiling

/-- The variables of an environment. -/
abbrev Environment := Roster String Text

namespace Environment

/-- The value of a variable that is set and not empty. -/
def nonempty? (env : Environment) (name : String) : Option Text :=
  (env.find? name).bind fun s => if s.isEmpty then none else some s

/-- The variable of an integer setting, read as an integer. -/
def integer? (env : Environment) (name : String) : Except ConfigError (Option Int) :=
  match env.nonempty? name with
  | none => .ok none
  | some s =>
    match IntegerText.parse? s with
    | some n => .ok (some n)
    | none => .error (.notAnInteger name s)

/-- A directory and a file name joined by one slash, unless the directory is empty or ends in a
slash already. -/
def joinPath (directory file : Text) : Text :=
  if directory.isEmpty || directory.getLast? = some (.char '/') then directory ++ file
  else directory ++ .char '/' :: file

/-- Where the socket is unless a setting says otherwise. -/
def socketPath (env : Environment) : Text :=
  joinPath ((env.find? "XDG_RUNTIME_DIR").getD (.ofString "/tmp"))
    (Text.ofString "autotile-" ++ (env.find? "WAYLAND_DISPLAY").getD (.ofString "wayland-0") ++
      Text.ofString ".sock")

/-- The variables of the integer settings. -/
def integerVariables : List (String × String) := [
  ("AUTOTILE_GAP", "gap"), ("AUTOTILE_BORDER_WIDTH", "border_width"),
  ("AUTOTILE_TITLEBAR_HEIGHT", "titlebar_height")]

/-- What the variables assign. -/
def assignments (env : Environment) : Except ConfigError (List Assignment) := do
  let text (source name : String) : List Assignment :=
    match env.nonempty? source with
    | some t => [.value (.ofString name) (.text t)]
    | none => []
  let integers ← integerVariables.mapM fun (source, name) => do
    match ← env.integer? source with
    | some n => return [Assignment.value (.ofString name) (.int n)]
    | none => return []
  return text "AUTOTILE_MODE" "mode" ++ integers.flatten ++ text "AUTOTILE_SOCKET" "socket_path"

end Environment

namespace Config

/-- The configuration made by assignments alone; `process` gives the default socket path. -/
def build (process : Environment) (l : List Assignment) : Except ConfigError Config := do
  let settings ← Settings.assignAll {} l
  settings.check process.socketPath

/-- Names that cannot be assigned to beside an environment. -/
def reservedNames : List String := ["cls", "env"]

/-- The configuration made by the variables of `env` and then by assignments, which win. -/
def fromEnvironment (env process : Environment) (overrides : List Assignment) :
    Except ConfigError Config := do
  let refused (name : Text) : Bool := reservedNames.any name.isString
  if let some name := (overrides.map (·.name)).find? refused then
    throw (.refusedName ⟨"TilingConfig.from_env", name, .taken⟩)
  let values ← env.assignments
  build process (values ++ overrides)

end Config

end WindowTiling
