import Mathlib.Data.List.Basic
import WindowTiling.Config.Environment

/-!
# Assignments and the environment

A configuration is made of what the variables of the environment assign and of assignments made
elsewhere, which come later and so take the place of what the variables say.

**Theorem (`overrides_win_iff`).** The variables whose settings are assigned to elsewhere may as
well be missing from the environment just if the first of the integer variables that holds no
integer is not one of them.

All integer variables are read before any assignment is looked at, and one that holds no integer
ends the reading, even if its setting is assigned to elsewhere. The other variables are taken over
as they are and are checked only as settings. There the last assignment to a setting is the one that
counts (`assignAll_filter_append`), and whatever the one before it was, it is not looked at.
-/

namespace WindowTiling

/-! ## Assignments in a row -/

namespace Settings

/-- What an assignment that is accepted does to the settings. -/
inductive Assigns : Assignment → (Settings → Settings) → Prop
  | rules (rules : List Rule) : Assigns (.rules rules) fun s => { s with rules }
  | mode (v : Json) : Assigns (.value (.ofString "mode") v) fun s => { s with mode := v }
  | gap (v : Json) : Assigns (.value (.ofString "gap") v) fun s => { s with gap := v }
  | borderWidth (v : Json) :
    Assigns (.value (.ofString "border_width") v) fun s => { s with borderWidth := v }
  | useDecorations (v : Json) :
    Assigns (.value (.ofString "use_ssd") v) fun s => { s with useDecorations := v }
  | titlebarHeight (v : Json) :
    Assigns (.value (.ofString "titlebar_height") v) fun s => { s with titlebarHeight := v }
  | titlebarPosition (v : Json) :
    Assigns (.value (.ofString "titlebar_position") v) fun s => { s with titlebarPosition := v }
  | socketPath (v : Json) :
    Assigns (.value (.ofString "socket_path") v) fun s => { s with socketPath := v }

variable {a b : Assignment} {f g : Settings → Settings}

theorem Assigns.assign_eq (h : Assigns a f) (s : Settings) : assign s a = .ok (f s) := by
  cases h with
  | rules => rfl
  | _ => simp only [assign, Text.toString?_ofString]

/-- An assignment is accepted or refused whatever the settings are. -/
theorem assigns_or_refused (a : Assignment) :
    (∃ f, Assigns a f) ∨ ∃ e, ∀ s, assign s a = .error (.refusedName e) := by
  cases a with
  | rules rules => exact .inl ⟨_, .rules rules⟩
  | value name v =>
    by_cases h : ∃ f, Assigns (.value name v) f
    · exact .inl h
    · have hknown {word : String} (hname : name.toString? = some word)
          (hword : ∃ f, Assigns (.value (.ofString word) v) f) : False :=
        h ((Text.toString?_eq_some_iff ..).1 hname ▸ hword)
      refine .inr ⟨.notAmong "TilingConfig.__init__" name, fun s => ?_⟩
      simp only [assign]
      split
      case h_1 hname => exact (hknown hname ⟨_, .mode v⟩).elim
      case h_2 hname => exact (hknown hname ⟨_, .gap v⟩).elim
      case h_3 hname => exact (hknown hname ⟨_, .borderWidth v⟩).elim
      case h_4 hname => exact (hknown hname ⟨_, .useDecorations v⟩).elim
      case h_5 hname => exact (hknown hname ⟨_, .titlebarHeight v⟩).elim
      case h_6 hname => exact (hknown hname ⟨_, .titlebarPosition v⟩).elim
      case h_7 hname => exact (hknown hname ⟨_, .socketPath v⟩).elim
      case h_8 => rfl

theorem Assigns.override (ha : Assigns a f) (hb : Assigns b g) (h : b.name = a.name)
    (s : Settings) : g (f s) = g s := by
  cases ha <;> cases hb <;> simp_all [Assignment.name, Text.ofString_inj]

theorem Assigns.swap (ha : Assigns a f) (hb : Assigns b g) (h : b.name ≠ a.name) (s : Settings) :
    g (f s) = f (g s) := by
  cases ha <;> cases hb <;> simp_all [Assignment.name, Text.ofString_inj]

theorem assignAll_cons (h : Assigns a f) (s : Settings) (l : List Assignment) :
    assignAll s (a :: l) = assignAll (f s) l := by
  rw [assignAll, List.foldlM_cons, h.assign_eq]
  rfl

theorem assignAll_of_assigned {l : List Assignment} (ha : Assigns a f)
    (h : a.name ∈ l.map (·.name)) (s : Settings) : assignAll (f s) l = assignAll s l := by
  induction l generalizing s with
  | nil => cases h
  | cons b l ih =>
    rcases assigns_or_refused b with ⟨g, hb⟩ | ⟨e, hb⟩
    · rw [assignAll_cons hb, assignAll_cons hb]
      by_cases hname : b.name = a.name
      · rw [ha.override hb hname]
      · have hl : a.name ∈ l.map (·.name) := (List.mem_cons.1 h).resolve_left (Ne.symm hname)
        rw [ha.swap hb hname, ih hl]
    · rw [assignAll, assignAll, List.foldlM_cons, List.foldlM_cons, hb, hb]

/-- **The last assignment counts.** Of accepted assignments those may be left out to whose settings
others are made later. -/
theorem assignAll_filter_append {l : List Assignment} (hl : ∀ a ∈ l, ∃ f, Assigns a f)
    (overrides : List Assignment) (s : Settings) :
    assignAll s (l.filter (fun a => a.name ∉ overrides.map (·.name)) ++ overrides) =
      assignAll s (l ++ overrides) := by
  induction l generalizing s with
  | nil => rfl
  | cons a l ih =>
    obtain ⟨⟨f, ha⟩, hl⟩ := List.forall_mem_cons.1 hl
    rw [List.cons_append, assignAll_cons ha, ← ih hl (f s)]
    by_cases h : a.name ∈ overrides.map (·.name)
    · rw [List.filter_cons_of_neg (by simpa using h)]
      refine (assignAll_of_assigned ha ?_ s).symm
      rw [List.map_append]
      exact List.mem_append_right _ h
    · rw [List.filter_cons_of_pos (by simpa using h), List.cons_append, assignAll_cons ha]

end Settings

/-! ## What the variables assign -/

namespace Environment

/-- A variable and the setting that it stands for. -/
abbrev Variable := String × String

/-- The variables that stand for settings. -/
def settingVariables : List Variable :=
  ("AUTOTILE_MODE", "mode") :: integerVariables ++ [("AUTOTILE_SOCKET", "socket_path")]

theorem mem_settingVariables {v : Variable} (h : v ∈ integerVariables) : v ∈ settingVariables :=
  List.mem_cons_of_mem _ (List.mem_append_left _ h)

/-- No variable stands for two settings. -/
theorem eq_of_source_eq {u v : Variable} (hu : u ∈ settingVariables) (hv : v ∈ settingVariables)
    (h : u.1 = v.1) : u = v := by
  have hall : ∀ u ∈ settingVariables, ∀ v ∈ settingVariables, u.1 = v.1 → u = v := by decide
  exact hall u hu v hv h

/-- The variable holds something that is no integer. -/
def isMalformed (env : Environment) (v : Variable) : Bool :=
  (env.nonempty? v.1).any fun t => (IntegerText.parse? t).isNone

/-- The first of the integer variables that holds no integer. -/
def firstMalformed? (env : Environment) : Option Variable :=
  integerVariables.find? env.isMalformed

/-- What a variable assigns to its setting, if something can be read in it. -/
def given (env : Environment) (read : Text → Option Json) (v : Variable) : List Assignment :=
  (((env.nonempty? v.1).bind read).map (Assignment.value (.ofString v.2))).toList

/-- What the variables assign where the integer variables hold integers. -/
def allGiven (env : Environment) : List Assignment :=
  env.given (some <| .text ·) ("AUTOTILE_MODE", "mode") ++
    integerVariables.flatMap (env.given fun t => (IntegerText.parse? t).map .int) ++
    env.given (some <| .text ·) ("AUTOTILE_SOCKET", "socket_path")

/-- Reading one integer variable. -/
def readInteger (env : Environment) (v : Variable) : Except ConfigError (List Assignment) := do
  match ← env.integer? v.1 with
  | some n => return [Assignment.value (.ofString v.2) (.int n)]
  | none => return []

theorem readInteger_eq (env : Environment) (v : Variable) : env.readInteger v =
    if env.isMalformed v then .error (.notAnInteger v.1 ((env.nonempty? v.1).getD []))
    else .ok (env.given (fun t => (IntegerText.parse? t).map .int) v) := by
  unfold readInteger integer? isMalformed given
  cases env.nonempty? v.1 with
  | none => rfl
  | some t => cases h : IntegerText.parse? t <;> simp [h, bind, Except.bind, pure, Except.pure]

theorem mapM_readInteger (env : Environment) (vs : List Variable) : vs.mapM env.readInteger =
    match vs.find? env.isMalformed with
    | some v => .error (.notAnInteger v.1 ((env.nonempty? v.1).getD []))
    | none => .ok (vs.map (env.given fun t => (IntegerText.parse? t).map .int)) := by
  induction vs with
  | nil => rfl
  | cons v vs ih =>
    rw [List.mapM_cons, readInteger_eq, ih, List.find?_cons]
    cases env.isMalformed v with
    | true => rfl
    | false => cases vs.find? env.isMalformed <;> rfl

/-- **What is read from the environment**: what all its variables assign, unless an integer variable
holds no integer. -/
theorem assignments_eq (env : Environment) : env.assignments =
    match env.firstMalformed? with
    | some v => .error (.notAnInteger v.1 ((env.nonempty? v.1).getD []))
    | none => .ok env.allGiven := by
  have hread : env.assignments = (integerVariables.mapM env.readInteger).map fun integers =>
      env.given (some <| .text ·) ("AUTOTILE_MODE", "mode") ++ integers.flatten ++
        env.given (some <| .text ·) ("AUTOTILE_SOCKET", "socket_path") := by
    dsimp only [assignments, given]
    cases env.nonempty? "AUTOTILE_MODE" <;> cases env.nonempty? "AUTOTILE_SOCKET" <;> rfl
  rw [hread, mapM_readInteger, firstMalformed?, allGiven]
  cases integerVariables.find? env.isMalformed <;> rfl

theorem assigns_of_mem_allGiven {env : Environment} {a : Assignment} (h : a ∈ env.allGiven) :
    ∃ f, Settings.Assigns a f := by
  obtain ⟨v, hv, read, ha⟩ : ∃ v ∈ settingVariables, ∃ read, a ∈ env.given read v := by
    simp only [allGiven, List.mem_append, List.mem_flatMap] at h
    rcases h with (h | ⟨v, hv, h⟩) | h
    · exact ⟨_, by decide, _, h⟩
    · exact ⟨v, mem_settingVariables hv, _, h⟩
    · exact ⟨_, by decide, _, h⟩
  obtain ⟨j, -, rfl⟩ := Option.map_eq_some_iff.1 (Option.mem_toList.1 ha)
  simp only [settingVariables, integerVariables, List.cons_append, List.nil_append, List.mem_cons,
    List.not_mem_nil, or_false] at hv
  rcases hv with rfl | rfl | rfl | rfl | rfl
  exacts [⟨_, .mode j⟩, ⟨_, .gap j⟩, ⟨_, .borderWidth j⟩, ⟨_, .titlebarHeight j⟩,
    ⟨_, .socketPath j⟩]

/-! ## Leaving out variables -/

/-- The setting of the variable is assigned to. -/
def IsAssigned (l : List Assignment) (v : Variable) : Prop := .ofString v.2 ∈ l.map (·.name)

instance (l : List Assignment) (v : Variable) : Decidable (IsAssigned l v) :=
  inferInstanceAs (Decidable (.ofString v.2 ∈ l.map (·.name)))

/-- The environment without the variables whose settings are assigned to. -/
def without (env : Environment) (l : List Assignment) : Environment :=
  env.filter fun e => ¬ ∃ v ∈ settingVariables, v.1 = e.1 ∧ IsAssigned l v

theorem find?_without (env : Environment) (l : List Assignment) (name : String) :
    (env.without l).find? name =
      if ∃ v ∈ settingVariables, v.1 = name ∧ IsAssigned l v then none else env.find? name := by
  have hfind := Roster.find?_filter env
    (fun name => ¬ ∃ v ∈ settingVariables, v.1 = name ∧ IsAssigned l v) name
  rw [without, hfind]
  by_cases h : ∃ v ∈ settingVariables, v.1 = name ∧ IsAssigned l v
  · rw [if_pos h, if_neg (by simpa using h)]
  · rw [if_neg h, if_pos (by simpa using h)]

theorem nonempty?_without (env : Environment) (l : List Assignment) {v : Variable}
    (hv : v ∈ settingVariables) :
    (env.without l).nonempty? v.1 = if IsAssigned l v then none else env.nonempty? v.1 := by
  have hiff : (∃ u ∈ settingVariables, u.1 = v.1 ∧ IsAssigned l u) ↔ IsAssigned l v := by
    constructor
    · rintro ⟨u, hu, hname, h⟩
      exact eq_of_source_eq hu hv hname ▸ h
    · exact fun h => ⟨v, hv, rfl, h⟩
  rw [nonempty?, find?_without, nonempty?]
  split <;> simp_all

theorem isMalformed_without (env : Environment) (l : List Assignment) {v : Variable}
    (hv : v ∈ settingVariables) :
    (env.without l).isMalformed v = (!decide (IsAssigned l v) && env.isMalformed v) := by
  rw [isMalformed, nonempty?_without env l hv, isMalformed]
  by_cases h : IsAssigned l v <;> simp [h]

theorem given_without (env : Environment) (l : List Assignment) (read : Text → Option Json)
    {v : Variable} (hv : v ∈ settingVariables) : (env.without l).given read v =
      (env.given read v).filter fun a => a.name ∉ l.map (·.name) := by
  have hname : ∀ a ∈ env.given read v, a.name = .ofString v.2 := by
    intro a ha
    obtain ⟨j, -, rfl⟩ := Option.map_eq_some_iff.1 (Option.mem_toList.1 ha)
    rfl
  rw [given, nonempty?_without env l hv]
  by_cases h : IsAssigned l v
  · rw [if_pos h, List.filter_eq_nil_iff.2]
    · rfl
    · intro a ha
      rw [hname a ha, decide_eq_true_eq]
      exact Decidable.not_not.2 h
  · rw [if_neg h, List.filter_eq_self.2]
    · rfl
    · intro a ha
      rw [hname a ha, decide_eq_true_eq]
      exact h

theorem allGiven_without (env : Environment) (l : List Assignment) :
    (env.without l).allGiven = env.allGiven.filter fun a => a.name ∉ l.map (·.name) := by
  rw [allGiven, allGiven, List.filter_append, List.filter_append, List.filter_flatMap,
    given_without env l _ (by decide), given_without env l _ (by decide)]
  congr 2
  exact List.flatMap_congr fun v hv => given_without env l _ (mem_settingVariables hv)

/-- The default place of the socket is not up to the variables of the settings. -/
theorem socketPath_without (env : Environment) (l : List Assignment) :
    (env.without l).socketPath = env.socketPath := by
  have hother {name : String} (h : ∀ v ∈ settingVariables, v.1 ≠ name) :
      (env.without l).find? name = env.find? name := by
    rw [find?_without, if_neg]
    rintro ⟨v, hv, hname, -⟩
    exact h v hv hname
  rw [socketPath, socketPath, hother (by decide), hother (by decide)]

theorem firstMalformed?_without_of_none {env : Environment} (h : env.firstMalformed? = none)
    (l : List Assignment) : (env.without l).firstMalformed? = none := by
  rw [firstMalformed?, List.find?_eq_none] at h ⊢
  intro v hv
  simp [isMalformed_without env l (mem_settingVariables hv), h v hv]

theorem firstMalformed?_without_of_some {env : Environment} {v : Variable}
    (h : env.firstMalformed? = some v) {l : List Assignment} (hl : ¬ IsAssigned l v) :
    (env.without l).firstMalformed? = some v := by
  have hv := mem_settingVariables (List.mem_of_find?_eq_some h)
  obtain ⟨hmalformed, before, after, hlist, hbefore⟩ := List.find?_eq_some_iff_append.1 h
  refine List.find?_eq_some_iff_append.2 ⟨?_, before, after, hlist, fun u hu => ?_⟩
  · simp [isMalformed_without env l hv, hl, hmalformed]
  · have hmem : u ∈ integerVariables := hlist ▸ List.mem_append_left _ hu
    have hu : env.isMalformed u = false := by simpa using hbefore u hu
    simp [isMalformed_without env l (mem_settingVariables hmem), hu]

theorem of_firstMalformed?_without {env : Environment} {l : List Assignment}
    {v : Variable} (h : (env.without l).firstMalformed? = some v) :
    v ∈ settingVariables ∧ ¬ IsAssigned l v := by
  have hv := mem_settingVariables (List.mem_of_find?_eq_some h)
  have hmalformed := List.find?_some h
  rw [isMalformed_without env l hv] at hmalformed
  exact ⟨hv, by simp_all⟩

end Environment

/-! ## Configurations -/

namespace Config

open Environment

/-- An assignment to one of the names that are refused beside an environment. -/
def HasReserved (l : List Assignment) : Prop :=
  ∃ a ∈ l, ∃ name ∈ reservedNames, a.name = .ofString name

theorem fromEnvironment_of_reserved {l : List Assignment} (h : HasReserved l)
    (env env' process process' : Environment) :
    fromEnvironment env process l = fromEnvironment env' process' l := by
  have hsome : ((l.map (·.name)).find? fun name => reservedNames.any name.isString).isSome := by
    simpa [HasReserved, Text.isString] using h
  obtain ⟨name, hname⟩ := Option.isSome_iff_exists.1 hsome
  rw [fromEnvironment, fromEnvironment, hname]
  rfl

theorem fromEnvironment_eq {l : List Assignment} (h : ¬ HasReserved l)
    (env process : Environment) :
    fromEnvironment env process l =
      env.assignments.bind fun values => build process (values ++ l) := by
  have hnone : ((l.map (·.name)).find? fun name => reservedNames.any name.isString) = none := by
    simpa [HasReserved, Text.isString] using h
  rw [fromEnvironment, hnone]
  rfl

/-! ### What is reported of settings -/

/-- No variable is reported to hold no integer. -/
def BlamesNoVariable {α : Type} (x : Except ConfigError α) : Prop :=
  ∀ source t, x ≠ .error (.notAnInteger source t)

theorem blamesNoVariable_ok {α : Type} (a : α) : BlamesNoVariable (.ok a) := fun _ _ h => nomatch h

theorem BlamesNoVariable.bind {α β : Type} {x : Except ConfigError α}
    {f : α → Except ConfigError β} (hx : BlamesNoVariable x) (hf : ∀ a, BlamesNoVariable (f a)) :
    BlamesNoVariable (x >>= f) := by
  cases x with
  | error e => exact fun source t h => hx source t (congrArg Except.error (Except.error.inj h))
  | ok a => exact hf a

theorem blamesNoVariable_settingWord (v : Json) : BlamesNoVariable (settingWord v) := by
  cases v <;> exact fun _ _ h => nomatch h

theorem blamesNoVariable_mode (v : Json) : BlamesNoVariable (TilingMode.read v) := by
  refine (blamesNoVariable_settingWord v).bind fun word => ?_
  split
  · exact blamesNoVariable_ok _
  · split <;> exact fun _ _ h => nomatch h

theorem blamesNoVariable_position (v : Json) : BlamesNoVariable (TitlebarPosition.read v) := by
  refine (blamesNoVariable_settingWord v).bind fun word => ?_
  split <;> exact fun _ _ h => nomatch h

theorem blamesNoVariable_size (name : String) (v : Json) : BlamesNoVariable (Size.read name v) := by
  unfold Size.read
  split <;> exact fun _ _ h => nomatch h

theorem blamesNoVariable_assignAll (l : List Assignment) (s : Settings) :
    BlamesNoVariable (s.assignAll l) := by
  induction l generalizing s with
  | nil => exact blamesNoVariable_ok _
  | cons a l ih =>
    rcases Settings.assigns_or_refused a with ⟨f, ha⟩ | ⟨e, ha⟩
    · exact Settings.assignAll_cons ha s l ▸ ih (f s)
    · rw [Settings.assignAll, List.foldlM_cons, ha]
      exact fun _ _ h => nomatch h

/-- Settings are never taken for variables, whatever is wrong with them. -/
theorem blamesNoVariable_build (process : Environment) (l : List Assignment) :
    BlamesNoVariable (build process l) :=
  (blamesNoVariable_assignAll l {}).bind fun s =>
    (blamesNoVariable_mode s.mode).bind fun _ =>
    (blamesNoVariable_position s.titlebarPosition).bind fun _ =>
    (blamesNoVariable_size "gap" s.gap).bind fun _ =>
    (blamesNoVariable_size "border_width" s.borderWidth).bind fun _ =>
    (blamesNoVariable_size "titlebar_height" s.titlebarHeight).bind fun _ => blamesNoVariable_ok _

/-! ### Leaving out overridden variables -/

theorem build_without (env : Environment) {process process' : Environment}
    (hprocess : process'.socketPath = process.socketPath) (l : List Assignment) :
    build process' ((env.without l).allGiven ++ l) = build process (env.allGiven ++ l) := by
  rw [build, build, hprocess, allGiven_without,
    Settings.assignAll_filter_append fun _ => assigns_of_mem_allGiven]

theorem fromEnvironment_without_iff (env : Environment) {process process' : Environment}
    (hprocess : process'.socketPath = process.socketPath) (l : List Assignment) :
    fromEnvironment env process l = fromEnvironment (env.without l) process' l ↔
      HasReserved l ∨ ∀ v, env.firstMalformed? = some v → ¬ IsAssigned l v := by
  by_cases hreserved : HasReserved l
  · exact iff_of_true (fromEnvironment_of_reserved hreserved ..) (.inl hreserved)
  rw [fromEnvironment_eq hreserved, fromEnvironment_eq hreserved, assignments_eq, assignments_eq]
  cases hfirst : env.firstMalformed? with
  | none =>
    rw [firstMalformed?_without_of_none hfirst]
    exact iff_of_true (build_without env hprocess l).symm (.inr fun _ h => nomatch h)
  | some v =>
    have hmem := mem_settingVariables (List.mem_of_find?_eq_some hfirst)
    by_cases hv : IsAssigned l v
    · refine iff_of_false (fun heq => ?_) ?_
      · cases hrest : (env.without l).firstMalformed? with
        | none =>
          rw [hrest] at heq
          exact blamesNoVariable_build _ _ _ _ heq.symm
        | some u =>
          obtain ⟨hu, hnot⟩ := of_firstMalformed?_without hrest
          rw [hrest] at heq
          have hsource : v.1 = u.1 := (ConfigError.notAnInteger.inj (Except.error.inj heq)).1
          exact hnot (eq_of_source_eq hmem hu hsource ▸ hv)
      · rintro (h | h)
        · exact hreserved h
        · exact h v rfl hv
    · rw [firstMalformed?_without_of_some hfirst hv]
      simp only [nonempty?_without env l hmem, if_neg hv]
      exact iff_of_true rfl (.inr fun u hu => Option.some.inj hu ▸ hv)

/-- **When assignments win.** The variables whose settings are assigned to make no difference to the
configuration, nor to what is wrong with it, just if a name is refused in the first place or the
first integer variable that holds no integer, if there is one, is none of them. It is the same for
the environment of the process, which also says where the socket is by default. -/
theorem overrides_win_iff (env : Environment) (overrides : List Assignment) :
    let rest := env.without overrides
    let Wins := HasReserved overrides ∨
      ∀ v, env.firstMalformed? = some v → ¬ IsAssigned overrides v
    (∀ process, fromEnvironment env process overrides = fromEnvironment rest process overrides ↔
      Wins) ∧
    (fromEnvironment env env overrides = fromEnvironment rest rest overrides ↔ Wins) :=
  ⟨fun _ => fromEnvironment_without_iff env rfl overrides,
    fromEnvironment_without_iff env (socketPath_without env overrides) overrides⟩

/-- A gap that is assigned does not help against a variable for it that holds no integer: without
the variable there is a configuration, and with it there is none. -/
theorem malformed_gap_is_not_overridden :
    let env : Environment := [("AUTOTILE_GAP", .ofString "wide")]
    let overrides : List Assignment := [.value (.ofString "gap") (.int 2)]
    env.without overrides = [] ∧
      fromEnvironment env [] overrides =
        .error (.notAnInteger "AUTOTILE_GAP" (.ofString "wide")) ∧
      fromEnvironment (env.without overrides) [] overrides =
        .ok { gap := .number 2, socketPath := .text (.ofString "/tmp/autotile-wayland-0.sock") } :=
  ⟨rfl, rfl, rfl⟩

end Config

end WindowTiling
