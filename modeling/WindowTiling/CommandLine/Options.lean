import WindowTiling.Command
import WindowTiling.Text.Integer
import WindowTiling.Text.Quoted

/-!
# Options

The command line takes exactly one of a group of actions, the path of the socket, and a flag for
more logging. Long options may be abbreviated as long as one option only starts that way, a value
may be attached by an equals sign, and single-letter options may be run together. An attached
double dash stands for no value at all.

All words are classified first, up to a double dash, after which nothing is an option; then the
options take effect in order. Words that belong to no option are reported last.
-/

namespace WindowTiling

/-! ## Flags -/

/-- What an option asks for. -/
inductive Flag where
  | help
  | enable
  | disable
  | toggle
  | gridMode
  | recalculate
  | status
  | state
  | serve
  | socket
  | verbose
  deriving DecidableEq, Repr

namespace Flag

/-- How an option is written. -/
def spellings : Flag → List String
  | help => ["-h", "--help"]
  | enable => ["--enable-tiling"]
  | disable => ["--disable-tiling"]
  | toggle => ["--toggle-tiling"]
  | gridMode => ["--tiling-grid-mode"]
  | recalculate => ["--recalculate-tiling"]
  | status => ["--tiling-status"]
  | state => ["--tiling-state"]
  | serve => ["--serve"]
  | socket => ["--socket"]
  | verbose => ["-v", "--verbose"]

/-- All spellings of an option, as messages name it. -/
def name (f : Flag) : String := String.intercalate "/" f.spellings

def all : List Flag :=
  [help, enable, disable, toggle, gridMode, recalculate, status, state, serve, socket, verbose]

/-- Every spelling with its flag. -/
def table : List (String × Flag) := all.flatMap fun f => f.spellings.map (·, f)

def ofSpelling? (word : Text) : Option Flag := (table.find? fun e => word.isString e.1).map (·.2)

/-- The single-letter option of a letter. -/
def ofLetter? (c : CodePoint) : Option Flag := ofSpelling? [.char '-', c]

/-- The options that stand for an action, of which exactly one is given. -/
def actions : List Flag :=
  [enable, disable, toggle, gridMode, recalculate, status, state, serve]

def takesValue : Flag → Bool
  | gridMode | socket => true
  | _ => false

end Flag

/-! ## Errors -/

/-- What is wrong with a command line. -/
inductive UsageError where
  | ambiguous (word : Text) (candidates : List String)
  | ignoredValue (flag : Flag) (value : Text)
  | missingValue (flag : Flag)
  | invalidChoice (value : Text)
  | conflict (flag other : Flag)
  | noAction
  | unrecognized (words : List Text)
  deriving Repr

namespace UsageError

/-- A message about one option. -/
def about (flag : Flag) (text : String) : Text := .ofString (s!"argument {flag.name}: " ++ text)

def message : UsageError → Text
  | ambiguous word candidates =>
    Text.ofString "ambiguous option: " ++ word ++
      Text.ofString (" could match " ++ String.intercalate ", " candidates)
  | ignoredValue flag value => about flag ("ignored explicit argument " ++ Quoted.text value)
  | missingValue flag => about flag "expected one argument"
  | invalidChoice value =>
    let choices := Switch.all.map fun s => Quoted.string s.name
    about .gridMode (s!"invalid choice: {Quoted.text value} (choose from " ++
      String.intercalate ", " choices ++ ")")
  | conflict flag other => about flag s!"not allowed with argument {other.name}"
  | noAction => .ofString
    ("one of the arguments " ++ String.intercalate " " (Flag.actions.map (·.name)) ++
      " is required")
  | unrecognized words => Text.ofString "unrecognized arguments: " ++ Text.intercalate " " words

end UsageError

/-! ## Words -/

/-- A word of the command line. -/
inductive Word where
  | plain (text : Text)
  /-- Looks like an option but is none; also the double dash. -/
  | unknown (text : Text)
  /-- An option, whether it is written with one dash only, and the text attached to it. -/
  | option (flag : Flag) (short : Bool) (attached : Option Text)
  deriving Repr

namespace Word

/-- The parts before and after the first equals sign; none without one. -/
def splitEquals? (word : Text) : Option (Text × Text) :=
  let before := word.takeWhile (· ≠ .char '=')
  match word.drop before.length with
  | [] => none
  | _ :: after => some (before, after)

/-- A negative number, which is no option. One line break may follow it. -/
def isNegativeNumber (word : Text) : Bool :=
  let isDigit (c : CodePoint) : Bool := (IntegerText.digit? c).isSome
  let number (t : Text) : Bool :=
    match t.dropWhile isDigit with
    | [] => !t.isEmpty
    | .char '.' :: rest => !rest.isEmpty && rest.all isDigit
    | _ => false
  match word with
  | .char '-' :: t => number t || (t.getLast? = some (.char '\n') && number t.dropLast)
  | _ => false

/-- A word with one dash only. -/
def isShort (word : Text) : Bool := !word.startsWith "--"

/-- The word starts some spelling. -/
def starts (word : Text) (spelling : String) : Bool := word.isPrefixOf (Text.ofString spelling)

/-- The options that a word starting with one dash may stand for, with their spellings. -/
def shortCandidates (word : Text) : List (String × Word) :=
  Flag.table.filterMap fun (spelling, flag) =>
    if Text.isString (word.take 2) spelling then
      some (spelling, .option flag true (some (word.drop 2)))
    else if starts word spelling then
      some (spelling, .option flag (isShort (Text.ofString spelling)) none)
    else none

/-- The options that a word starting with two dashes may abbreviate, with their spellings. -/
def longCandidates (word : Text) : List (String × Word) :=
  let (stem, attached) : Text × Option Text := match splitEquals? word with
    | some (stem, value) => (stem, some value)
    | none => (word, none)
  Flag.table.filterMap fun (spelling, flag) =>
    if starts stem spelling then some (spelling, .option flag false attached) else none

/-- The option that a word spells out, with or without a value. -/
def spelledOut? (word : Text) : Option Word :=
  match Flag.ofSpelling? word with
  | some flag => some (.option flag (isShort word) none)
  | none =>
    (splitEquals? word).bind fun (spelling, value) =>
      (Flag.ofSpelling? spelling).map fun flag =>
        .option flag (isShort spelling) (some value)

/-- Classify one word. -/
def classify (word : Text) : Except UsageError Word :=
  if !word.startsWith "-" || word.isString "-" then .ok (.plain word)
  else
    match spelledOut? word with
    | some w => .ok w
    | none =>
      let candidates := if isShort word then shortCandidates word else longCandidates word
      match candidates with
      | [(_, w)] => .ok w
      | _ :: _ :: _ => .error (.ambiguous word (candidates.map (·.1)))
      | [] =>
        if isNegativeNumber word || word.contains (.char ' ') then .ok (.plain word)
        else .ok (.unknown word)

/-- Classify all words. After a double dash they are all plain. -/
def classifyAll : List Text → Except UsageError (List Word)
  | [] => .ok []
  | word :: rest =>
    if word.isString "--" then .ok (.unknown word :: rest.map .plain)
    else do return (← classify word) :: (← classifyAll rest)

end Word

/-! ## Options -/

/-- The options given, and the words that belong to none. -/
structure Options where
  flags : List Flag := []
  gridMode : Option Switch := none
  socket : Option Text := none
  extras : List Text := []
  deriving Repr, Inhabited

/-- Why parsing stops. -/
inductive Stop where
  | help
  | usage (error : UsageError)
  deriving Repr

namespace Options

/-- A word that belongs to no option. -/
def addExtra (o : Options) (word : Text) : Options := { o with extras := o.extras ++ [word] }

/-- The first action given already that rules out this one. -/
def conflict? (o : Options) (flag : Flag) : Option Flag :=
  if flag ∈ Flag.actions then Flag.actions.find? fun f => f ≠ flag ∧ f ∈ o.flags else none

/-- Let an option take effect, with its value if it has one. The last value given counts, and so
does the last omission. -/
def take (o : Options) (flag : Flag) (value : Option Text) : Except Stop Options := do
  let o ← match flag, value with
    | .help, _ => throw .help
    | .gridMode, none => pure { o with gridMode := none }
    | .gridMode, some word =>
      match Switch.ofName? word with
      | some switch => pure { o with gridMode := some switch }
      | none => throw (.usage (.invalidChoice word))
    | .socket, path => pure { o with socket := path }
    | _, _ => pure o
  match o.conflict? flag with
  | some other => throw (.usage (.conflict flag other))
  | none => return { o with flags := o.flags ++ [flag] }

/-- Single-letter options run together: a first one, and the letters after it, of which there must
be some. Every letter has to be an option; what is left from the first that is none is reported as
a value of the option before it. -/
def letters (flag : Flag) : Text → Except UsageError (List Flag)
  | [] => .error (.ignoredValue flag [])
  | c :: cs =>
    match Flag.ofLetter? c with
    | none => .error (.ignoredValue flag (c :: cs))
    | some next => if cs.isEmpty then .ok [flag, next] else (letters next cs).map (flag :: ·)

/-- An attached double dash stands for no value. -/
def attachedValue (text : Text) : Option Text := if text.isString "--" then none else some text

/-- Let an option with attached text take effect. -/
def takeAttached (o : Options) (flag : Flag) (short : Bool) (text : Text) :
    Except Stop Options := do
  if flag.takesValue then o.take flag (attachedValue text)
  else if short then
    match letters flag text with
    | .error e => throw (.usage e)
    | .ok flags => flags.foldlM (fun o f => o.take f none) o
  else throw (.usage (.ignoredValue flag text))

/-- Go through classified words. -/
def takeAll (o : Options) : List Word → Except Stop Options
  | [] => .ok o
  | .plain text :: rest => takeAll (o.addExtra text) rest
  | .unknown text :: rest => takeAll (o.addExtra text) rest
  | .option flag short (some text) :: rest => do takeAll (← o.takeAttached flag short text) rest
  | .option flag _ none :: rest =>
    if flag.takesValue then
      match rest with
      | .plain value :: rest => do takeAll (← o.take flag (some value)) rest
      | _ => .error (.usage (.missingValue flag))
    else do takeAll (← o.take flag none) rest

/-- An action must be given, and no word may be left over. -/
def check (o : Options) : Except Stop Options :=
  if !o.flags.any fun f => f ∈ Flag.actions then .error (.usage .noAction)
  else if !o.extras.isEmpty then .error (.usage (.unrecognized o.extras))
  else .ok o

/-- A line for each option, and which of them stand for an action. -/
def helpText : String :=
  let line (f : Flag) : String :=
    "  " ++ String.intercalate ", " f.spellings ++ (if f.takesValue then " VALUE" else "") ++ "\n"
  "usage: autotile [options]\n\nactions, of which one is required:\n" ++
    String.join (Flag.actions.map line) ++ "\noptions:\n" ++
      String.join ((Flag.all.filter fun f => !Flag.actions.contains f).map line)

/-- Read a command line. -/
def parse (arguments : List Text) : Except Stop Options := do
  let words ← (Word.classifyAll arguments).mapError .usage
  let o ← takeAll {} words
  o.check

end Options

end WindowTiling
