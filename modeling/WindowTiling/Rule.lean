import WindowTiling.Glob
import WindowTiling.Json.Printer
import WindowTiling.Naming
import WindowTiling.Text.Blank
import WindowTiling.Text.Lowercase
import WindowTiling.Window

/-!
# Window rules

A rule matches windows by glob patterns on their application and title, and sets tiling
properties. A property of a window is what the last matching rule sets it to.

A pattern may be given that is no text. It matches nothing, and it is a fault to come upon it when
a rule is matched; a rule without such patterns has none.

Main facts: `property_append` (later rules win) and `propertyFault?_eq_none` (rules whose patterns
are texts have no faults).
-/

namespace WindowTiling

/-! ## Properties -/

/-- A property that may be left open. -/
inductive Tristate where
  | unset
  | no
  | yes
  deriving DecidableEq, Repr, Inhabited

namespace Tristate

def name : Tristate → String
  | unset => "UNSET"
  | no => "FALSE"
  | yes => "TRUE"

def ofName? (s : String) : Option Tristate := [unset, no, yes].find? (·.name = s)

/-- The property a word stands for, capitals and surrounding blanks aside. -/
def ofWord? (t : Text) : Option Tristate :=
  let word := lowercase (Blank.trim t)
  if ["yes", "true", "on"].any word.isString then some yes
  else if ["no", "false", "off"].any word.isString then some no
  else if ["", "default", "unset"].any word.isString then some unset
  else none

end Tristate

/-- The properties that rules can set. -/
inductive PropertyKey where
  | fixedPosition
  | tile
  | tileDirection
  deriving DecidableEq, Repr

namespace PropertyKey

def name : PropertyKey → String
  | fixedPosition => "fixedPosition"
  | tile => "tile"
  | tileDirection => "tileDirection"

def all : List PropertyKey := [fixedPosition, tile, tileDirection]

def ofName? (name : Text) : Option PropertyKey := all.find? fun key => name.isString key.name

end PropertyKey

/-- What is wrong with a rule. -/
inductive RuleError where
  | notObject (value : Json)
  | refusedName (error : NameError)
  | propertiesNotObject (value : Json)
  | unknownProperty (key : Text)
  | invalidValue (value : Json)
  deriving Repr

def RuleError.message : RuleError → Text
  | .notObject value => .ofString
    s!"autotile.rules.WindowRule() argument after ** must be a mapping, not {value.kindName}"
  | .refusedName error => error.message
  | .propertiesNotObject value =>
    .ofString s!"'{value.kindName}' object has no attribute 'items'"
  | .unknownProperty key =>
    Text.ofString "Unknown window rule property: " ++ key ++
      Text.ofString (". Known: " ++ String.intercalate ", " (PropertyKey.all.map (·.name)))
  | .invalidValue value =>
    .ofString s!"Invalid property value: {value.shown}. Use yes/no or true/false"

/-- Read a property value: a truth value, a word for one, or nothing for an open one. -/
def Tristate.read (value : Json) : Except RuleError Tristate :=
  match value with
  | .null => .ok unset
  | .bool b => .ok (if b then yes else no)
  | .text t =>
    match ofWord? t with
    | some p => .ok p
    | none => .error (.invalidValue value)
  | _ => .error (.invalidValue value)

/-! ## Rules -/

/-- A rule: both patterns must match, and the listed properties are set. Patterns are kept as they
are given. -/
structure Rule where
  identifier : Json := .string "*"
  title : Json := .string "*"
  properties : Roster PropertyKey Tristate := []
  deriving Repr, Inhabited

namespace Rule

/-- Read the properties of a rule in their order. -/
def readProperties (members : List (Text × Json)) :
    Except RuleError (Roster PropertyKey Tristate) :=
  members.foldlM (fun properties (key, value) =>
    match PropertyKey.ofName? key with
    | none => .error (.unknownProperty key)
    | some k => (Tristate.read value).map (properties.insert k)) []

/-- The names under which the parts of a rule are given. -/
def partNames : List String := ["identifier", "title", "properties"]

/-- Refuse a name that is none of a rule's parts. -/
def checkName (name : Text) : Except RuleError Unit :=
  if partNames.any name.isString then .ok ()
  else .error (.refusedName (.notAmong "WindowRule.__init__" name))

/-- Read a rule from an object; patterns that are absent match everything. -/
def read (value : Json) : Except RuleError Rule := do
  let .object _ := value | throw (.notObject value)
  value.members.forM fun (name, _) => checkName name
  let properties ← match value.get? "properties" with
    | none => pure []
    | some (.object members) => readProperties members
    | some v => throw (.propertiesNotObject v)
  return {
    identifier := (value.get? "identifier").getD (.string "*")
    title := (value.get? "title").getD (.string "*")
    properties }

end Rule

/-! ## Matching -/

/-- A pattern that is no text was come upon. -/
structure PatternFault where
  pattern : Json
  deriving Repr

def PatternFault.message (f : PatternFault) : String :=
  match f.pattern with
  | .array _ | .object _ => s!"unhashable type: '{f.pattern.kindName}'"
  | v => s!"object of type '{v.kindName}' has no len()"

/-- The fault of a pattern, if it has one. -/
def patternFault? : Json → Option PatternFault
  | .text _ => none
  | v => some ⟨v⟩

/-- Whether a pattern matches a text. -/
def patternMatches (pattern : Json) (text : Text) : Bool :=
  (pattern.text?.map (globMatches · text)).getD false

namespace Rule

def matchesWindow (r : Rule) (w : Window) : Bool :=
  patternMatches r.identifier (w.appId.getD []) && patternMatches r.title (w.title.getD [])

/-- The fault that is come upon when the rule is matched with a window. The title is looked at only
where the application matches. -/
def matchFault? (r : Rule) (w : Window) : Option PatternFault :=
  (patternFault? r.identifier).or
    (if patternMatches r.identifier (w.appId.getD []) then patternFault? r.title else none)

/-- Match the rule with a window. -/
def tryMatch (r : Rule) (w : Window) : Except PatternFault Bool :=
  match r.matchFault? w with
  | some fault => .error fault
  | none => .ok (r.matchesWindow w)

/-- The value a rule gives to a key; a key it does not list is left open. -/
def value (r : Rule) (key : PropertyKey) : Tristate := (r.properties.find? key).getD .unset

/-- The rule decides the key for the window. -/
def Sets (r : Rule) (w : Window) (key : PropertyKey) : Prop :=
  r.value key ≠ .unset ∧ r.matchesWindow w = true

instance (r : Rule) (w : Window) (key : PropertyKey) : Decidable (r.Sets w key) :=
  inferInstanceAs (Decidable (r.value key ≠ .unset ∧ r.matchesWindow w = true))

end Rule

/-- A property of a window: what the last rule that decides it says, or open. -/
def property (rules : List Rule) (w : Window) (key : PropertyKey) : Tristate :=
  rules.foldl (fun result r => if r.Sets w key then r.value key else result) .unset

/-- A property by name; names that no rule can set are always open. -/
def propertyNamed (rules : List Rule) (w : Window) (name : Text) : Tristate :=
  ((PropertyKey.ofName? name).map (property rules w)).getD .unset

/-- The fault that is come upon when a property is looked up: that of the first rule, among those
that set the key, which has one for the window. -/
def propertyFault? (rules : List Rule) (w : Window) (key : PropertyKey) : Option PatternFault :=
  rules.findSome? fun r => if r.value key = .unset then none else r.matchFault? w

/-- Look up a property by name. -/
def tryProperty (rules : List Rule) (w : Window) (name : Text) : Except PatternFault Tristate :=
  match (PropertyKey.ofName? name).bind (propertyFault? rules w) with
  | some fault => .error fault
  | none => .ok (propertyNamed rules w name)

/-- Rules whose patterns are texts have no faults. -/
theorem propertyFault?_eq_none {rules : List Rule} (w : Window) (key : PropertyKey)
    (h : ∀ r ∈ rules, patternFault? r.identifier = none ∧ patternFault? r.title = none) :
    propertyFault? rules w key = none := by
  rw [propertyFault?, List.findSome?_eq_none_iff]
  intro r hr
  simp [Rule.matchFault?, h r hr]

theorem foldl_property (rules : List Rule) (w : Window) (key : PropertyKey) (p : Tristate) :
    rules.foldl (fun result r => if r.Sets w key then r.value key else result) p =
      if ∃ r ∈ rules, r.Sets w key then property rules w key else p := by
  induction rules generalizing p with
  | nil => simp
  | cons r rules ih =>
    simp only [property, List.foldl_cons]
    rw [ih, ih (if r.Sets w key then r.value key else .unset)]
    by_cases h : ∃ s ∈ rules, s.Sets w key
    · simp [h]
    · by_cases hr : r.Sets w key
      · simp [h, hr]
      · have h' : ¬ ∃ s ∈ r :: rules, s.Sets w key := by
          rintro ⟨s, hs, hk⟩
          rcases List.mem_cons.1 hs with rfl | hs
          · exact hr hk
          · exact h ⟨s, hs, hk⟩
        simp only [h, hr, h', if_false]

/-- Later rules win. -/
theorem property_append (rs ss : List Rule) (w : Window) (key : PropertyKey) :
    property (rs ++ ss) w key =
      if ∃ r ∈ ss, r.Sets w key then property ss w key else property rs w key := by
  rw [property, List.foldl_append]
  exact foldl_property ss w key _

end WindowTiling
