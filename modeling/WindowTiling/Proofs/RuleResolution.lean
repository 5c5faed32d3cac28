import Mathlib.Data.List.Induction
import WindowTiling.Desktop

/-!
# The rule that decides

Several rules can match one window and set the same property of it, and a rule can list a property
and still leave it open.

**Theorem (`lastRule_decides`).** A property of a window is what the last of the rules says that
match the window and set the property, and it is open if there is no such rule. All other rules may
be put in, taken out and moved about at will, and these ones too as long as their order stays. What
is tiled on an output are the registered windows on it and on the visible workspace, in the order of
registration, that no flag keeps out, for which the rule that decides on a fixed position does not
ask for one, and for which the rule that decides on tiling does not forbid it.

Nothing is used about patterns but that matching is without faults, as it is where all of them are
texts (`Rule.matchedBy_matchesWindow`). What a rule matches is otherwise left to an arbitrary
predicate.
-/

namespace WindowTiling

theorem PropertyKey.ofName?_name (key : PropertyKey) : ofName? (.ofString key.name) = some key := by
  cases key <;> decide

/-! ## Rules that match and rules that decide -/

namespace Rule

/-- Matching the rule with a window never comes upon a fault and ends as `matching` says. -/
def MatchedBy (matching : Rule → Window → Bool) (r : Rule) : Prop :=
  ∀ w, r.tryMatch w = .ok (matching r w)

theorem matchedBy_matchesWindow {r : Rule} (hidentifier : patternFault? r.identifier = none)
    (htitle : patternFault? r.title = none) : r.MatchedBy matchesWindow := by
  intro w
  simp [tryMatch, matchFault?, hidentifier, htitle]

theorem MatchedBy.matchFault?_eq_none {matching : Rule → Window → Bool} {r : Rule}
    (h : r.MatchedBy matching) (w : Window) : r.matchFault? w = none := by
  have hmatch := h w
  unfold tryMatch at hmatch
  split at hmatch
  · cases hmatch
  · assumption

theorem MatchedBy.matchesWindow_eq {matching : Rule → Window → Bool} {r : Rule}
    (h : r.MatchedBy matching) (w : Window) : r.matchesWindow w = matching r w := by
  have hmatch := h w
  rw [tryMatch, h.matchFault?_eq_none w] at hmatch
  exact Except.ok.inj hmatch

/-- The value that a rule gives to a property by name; a name that no rule can set is left open. -/
def valueNamed (r : Rule) (name : Text) : Tristate :=
  ((PropertyKey.ofName? name).map r.value).getD .unset

/-- The rule matches the window and sets the property. -/
def Decides (matching : Rule → Window → Bool) (r : Rule) (w : Window) (name : Text) : Prop :=
  matching r w = true ∧ r.valueNamed name ≠ .unset

instance (matching : Rule → Window → Bool) (r : Rule) (w : Window) (name : Text) :
    Decidable (r.Decides matching w name) :=
  inferInstanceAs (Decidable (matching r w = true ∧ r.valueNamed name ≠ .unset))

theorem MatchedBy.sets_iff {matching : Rule → Window → Bool} {r : Rule} (h : r.MatchedBy matching)
    {w : Window} {name : Text} {key : PropertyKey} (hname : PropertyKey.ofName? name = some key) :
    r.Sets w key ↔ r.Decides matching w name := by
  simp only [Sets, Decides, valueNamed, hname, Option.map_some, Option.getD_some,
    h.matchesWindow_eq w, and_comm]

end Rule

/-- The rules that match a window and set a property, in their order. -/
def decidingRules (matching : Rule → Window → Bool) (rules : List Rule) (w : Window) (name : Text) :
    List Rule := rules.filter fun r => r.Decides matching w name

/-- What the last of the deciding rules says. -/
def lastDecision (matching : Rule → Window → Bool) (rules : List Rule) (w : Window) (name : Text) :
    Tristate := ((decidingRules matching rules w name).getLast?.map (·.valueNamed name)).getD .unset

variable {matching : Rule → Window → Bool} {rules : List Rule}

theorem decidingRules_insert {more : List Rule} {w : Window} {name : Text}
    (h : ∀ r ∈ more, ¬ r.Decides matching w name) (before after : List Rule) :
    decidingRules matching (before ++ more ++ after) w name =
      decidingRules matching (before ++ after) w name := by
  have hmore : decidingRules matching more w name = [] := by
    simpa [decidingRules, List.filter_eq_nil_iff] using h
  simp only [decidingRules, List.filter_append] at hmore ⊢
  rw [hmore, List.append_nil]

/-! ## Look-ups -/

/-- Of the rules that decide a property the last one does. -/
theorem property_eq_last (rules : List Rule) (w : Window) (key : PropertyKey) :
    property rules w key =
      ((rules.filter fun r => r.Sets w key).getLast?.map (·.value key)).getD .unset := by
  -- from the last rule to the first, since each rule overrides those before it
  induction rules using List.reverseRecOn with
  | nil => rfl
  | append_singleton rules r ih =>
    rw [property_append, List.filter_append]
    by_cases h : r.Sets w key
    · simp [h, property]
    · simp [h, ih]

theorem propertyFault?_of_matched (h : ∀ r ∈ rules, r.MatchedBy matching) (w : Window)
    (key : PropertyKey) : propertyFault? rules w key = none := by
  rw [propertyFault?, List.findSome?_eq_none_iff]
  intro r hr
  simp [(h r hr).matchFault?_eq_none w]

theorem property_of_matched (h : ∀ r ∈ rules, r.MatchedBy matching) (w : Window) {name : Text}
    {key : PropertyKey} (hname : PropertyKey.ofName? name = some key) :
    property rules w key = lastDecision matching rules w name := by
  have hrules : (rules.filter fun r => r.Sets w key) = decidingRules matching rules w name :=
    List.filter_congr fun r hr => decide_eq_decide.2 ((h r hr).sets_iff hname)
  have hvalue : (fun r : Rule => r.valueNamed name) = fun r => r.value key := by
    funext r
    simp [Rule.valueNamed, hname]
  rw [property_eq_last, hrules, lastDecision, hvalue]

/-- No rule decides a property that none can set. -/
theorem lastDecision_of_unknown {name : Text} (hname : PropertyKey.ofName? name = none)
    (w : Window) : lastDecision matching rules w name = .unset := by
  have hrules : decidingRules matching rules w name = [] := by
    simp [decidingRules, Rule.Decides, Rule.valueNamed, hname]
  rw [lastDecision, hrules]
  rfl

/-- **Looking up a property** of a window by name. -/
theorem tryProperty_of_matched (h : ∀ r ∈ rules, r.MatchedBy matching) (w : Window) (name : Text) :
    tryProperty rules w name = .ok (lastDecision matching rules w name) := by
  cases hname : PropertyKey.ofName? name with
  | none => simp [tryProperty, propertyNamed, hname, lastDecision_of_unknown hname w]
  | some key =>
    simp [tryProperty, propertyNamed, hname, propertyFault?_of_matched h w key,
      property_of_matched h w hname]

/-! ## What is tiled -/

namespace Desktop

/-- The window is on the output and on the visible workspace, no flag keeps it out of the tiling,
the rule that decides on a fixed position does not ask for one, and the rule that decides on tiling
does not forbid it. -/
def Admits (matching : Rule → Window → Bool) (d : Desktop) (o : OutputRef) (w : WindowRef) : Prop :=
  ((d.window w).output = some o ∧ (d.window w).workspace = some d.workspace) ∧ (d.window w).IsFree ∧
    lastDecision matching d.rules (d.window w) (.ofString "fixedPosition") ≠ .yes ∧
      lastDecision matching d.rules (d.window w) (.ofString "tile") ≠ .no

instance (matching : Rule → Window → Bool) (d : Desktop) (o : OutputRef) (w : WindowRef) :
    Decidable (d.Admits matching o w) := by
  unfold Admits
  infer_instance

/-- **Finding out what is tiled** on an output. -/
theorem tryEligible_of_matched {d : Desktop} (h : ∀ r ∈ d.rules, r.MatchedBy matching)
    (o : OutputRef) :
    d.tryEligible o = .ok (d.windows.values.filter fun w => d.Admits matching o w) := by
  have hfault : d.eligibleFault? o = none := by
    rw [eligibleFault?, List.findSome?_eq_none_iff]
    intro w _
    simp [tileableFault?, propertyFault?, propertyFault?_of_matched h]
  have hproperty (w : WindowRef) (key : PropertyKey) : d.property w key =
      lastDecision matching d.rules (d.window w) (.ofString key.name) :=
    property_of_matched h (d.window w) (PropertyKey.ofName?_name key)
  rw [tryEligible, hfault, eligible, windowsOn, List.filter_filter]
  refine congrArg Except.ok (List.filter_congr fun w _ => ?_)
  rw [← Bool.decide_and, decide_eq_decide, Tileable, hproperty, hproperty]
  exact and_comm

end Desktop

/-! ## The last rule decides -/

/-- **The last rule decides.** Where matching is without faults, a property of a window is what the
last rule says that matches it and sets the property. Rules that do not decide it change nothing
wherever they are put in or taken out, and neither does another order of the rules in which those
that decide it come in the same order. Tiled on an output are exactly the registered windows on it
and on the visible workspace, in their order, that no flag and no such rule keeps out. -/
theorem lastRule_decides (matching : Rule → Window → Bool) :
    (∀ rules : List Rule, (∀ r ∈ rules, r.MatchedBy matching) → ∀ w name,
      tryProperty rules w name = .ok (lastDecision matching rules w name)) ∧
    (∀ before more after : List Rule,
      (∀ r ∈ before ++ more ++ after, r.MatchedBy matching) → ∀ w name,
      (∀ r ∈ more, ¬ r.Decides matching w name) →
      tryProperty (before ++ more ++ after) w name = tryProperty (before ++ after) w name) ∧
    (∀ rules rules' : List Rule, (∀ r ∈ rules, r.MatchedBy matching) →
      (∀ r ∈ rules', r.MatchedBy matching) → ∀ w name,
      decidingRules matching rules w name = decidingRules matching rules' w name →
      tryProperty rules w name = tryProperty rules' w name) ∧
    ∀ d : Desktop, (∀ r ∈ d.rules, r.MatchedBy matching) → ∀ o,
      d.tryEligible o = .ok (d.windows.values.filter fun w => d.Admits matching o w) := by
  have hcongr (rules rules' : List Rule) (h : ∀ r ∈ rules, r.MatchedBy matching)
      (h' : ∀ r ∈ rules', r.MatchedBy matching) (w : Window) (name : Text)
      (heq : decidingRules matching rules w name = decidingRules matching rules' w name) :
      tryProperty rules w name = tryProperty rules' w name := by
    rw [tryProperty_of_matched h, tryProperty_of_matched h', lastDecision, lastDecision, heq]
  refine ⟨fun rules h w name => tryProperty_of_matched h w name,
    fun before more after h w name hmore => ?_, hcongr, fun d h o => d.tryEligible_of_matched h o⟩
  refine hcongr _ _ h (fun r hr => h r ?_) w name (decidingRules_insert hmore before after)
  rcases List.mem_append.1 hr with hr | hr <;> simp [hr]

/-- No window is tiled but terminals. Later rules leave tiling open, or are for other windows, or
are about something else, and may as well be missing or stand in front. Of a terminal, a browser and
a hidden terminal on one output only the first is tiled there. -/
theorem lastRule_decides_terminal :
    let tile : Text := .ofString "tile"
    let rule (identifier : String) (key : PropertyKey) (p : Tristate) : Rule :=
      { identifier := .string identifier, properties := [(key, p)] }
    let before := [rule "*" .tile .no, rule "f[a-p]ot" .tile .yes]
    let more := [rule "*" .tile .unset, rule "web*" .tile .no]
    let after := [rule "*" .tileDirection .yes]
    let window (appId : String) (minimized : Bool) : Window := {
      appId := some (.ofString appId), minimized
      output := some ⟨0⟩, workspace := some (.ofString "1") }
    let terminal := window "foot" false
    let d : Desktop := {
      windowStates := [(⟨0⟩, terminal), (⟨1⟩, window "webby" false), (⟨2⟩, window "foot" true)]
      windows := [(7, ⟨0⟩), (8, ⟨1⟩), (9, ⟨2⟩)]
      rules := before ++ more ++ after }
    (∀ r ∈ d.rules, r.MatchedBy Rule.matchesWindow) ∧
      tryProperty d.rules terminal tile = .ok .yes ∧
      (∀ r ∈ more, ¬ r.Decides Rule.matchesWindow terminal tile) ∧
      tryProperty d.rules terminal tile = tryProperty (before ++ after) terminal tile ∧
      decidingRules Rule.matchesWindow d.rules terminal tile =
        decidingRules Rule.matchesWindow (after ++ (before ++ more)) terminal tile ∧
      tryProperty d.rules terminal tile = tryProperty (after ++ (before ++ more)) terminal tile ∧
      d.tryEligible ⟨0⟩ = .ok [⟨0⟩] := by
  intro tile rule before more after window terminal d
  have htexts : ∀ r ∈ before ++ more ++ after,
      patternFault? r.identifier = none ∧ patternFault? r.title = none := by
    intro r hr
    simp only [before, more, after, List.cons_append, List.nil_append, List.mem_cons,
      List.not_mem_nil, or_false] at hr
    rcases hr with rfl | rfl | rfl | rfl | rfl <;> exact ⟨rfl, rfl⟩
  have hmatched : ∀ r ∈ before ++ more ++ after, r.MatchedBy Rule.matchesWindow := fun r hr =>
    Rule.matchedBy_matchesWindow (htexts r hr).1 (htexts r hr).2
  have hmatched' : ∀ r ∈ after ++ (before ++ more), r.MatchedBy Rule.matchesWindow := fun r hr =>
    hmatched r (List.mem_append.2 (List.mem_append.1 hr).symm)
  have hmore : ∀ r ∈ more, ¬ r.Decides Rule.matchesWindow terminal tile := by decide +kernel
  have hafter : ∀ r ∈ after, ¬ r.Decides Rule.matchesWindow terminal tile := by decide +kernel
  have horder : decidingRules Rule.matchesWindow (before ++ more ++ after) terminal tile =
      decidingRules Rule.matchesWindow (after ++ (before ++ more)) terminal tile := by
    have hback := decidingRules_insert hafter (before ++ more) []
    have hfront := decidingRules_insert hafter [] (before ++ more)
    rw [List.append_nil, List.append_nil] at hback
    exact hback.trans hfront.symm
  obtain ⟨hlookUp, hinsert, hreorder, heligible⟩ := lastRule_decides Rule.matchesWindow
  refine ⟨hmatched, (hlookUp _ hmatched terminal tile).trans (congrArg _ ?_), hmore,
    hinsert before more after hmatched terminal tile hmore, horder,
    hreorder _ _ hmatched hmatched' terminal tile horder,
    (heligible d hmatched ⟨0⟩).trans (congrArg _ ?_)⟩
  · decide +kernel
  · decide +kernel

end WindowTiling
