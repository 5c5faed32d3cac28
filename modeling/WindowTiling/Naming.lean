import WindowTiling.Text.CodePoint

/-!
# Values given by name

Settings and the parts of a rule are given by name. A name that nothing takes is refused, and so is
one whose value is given already by other means.
-/

namespace WindowTiling

/-- Why no value can be given under a name. -/
inductive NameFault where
  | unknown
  /-- It has its value already. -/
  | taken
  deriving DecidableEq, Repr

/-- A name that was refused, and what refused it. -/
structure NameError where
  receiver : String
  name : Text
  fault : NameFault
  deriving DecidableEq, Repr

/-- A name that is none of those that a receiver knows. The receiver itself goes by a name, too. -/
def NameError.notAmong (receiver : String) (name : Text) : NameError :=
  ⟨receiver, name, if name.isString "self" then .taken else .unknown⟩

/-- The message shows the name as it is. -/
def NameError.message (e : NameError) : Text :=
  let fault := match e.fault with
    | .unknown => "got an unexpected keyword argument"
    | .taken => "got multiple values for argument"
  Text.ofString s!"{e.receiver}() {fault} '" ++ e.name ++ Text.ofString "'"

end WindowTiling
