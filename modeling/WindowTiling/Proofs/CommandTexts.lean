import Mathlib.Data.List.Basic
import Mathlib.Data.List.TakeWhile
import WindowTiling.Proofs.Utf8
import WindowTiling.Service.Request

/-!
# Commands as texts

Of the text of a command only the words count, so that blanks around it do not matter, and the first
word says which one it is.

**Theorem (`parse_eq_ok_iff`).** A text is read as a command just when its words, in lowercase, word
that command.

**Theorem (`commandsIn_joined`).** Commands in which no semicolon stands, joined by semicolons, are
found again one by one, except for the blanks around them. None of them is taken for one that
carries the leading word.
-/

namespace WindowTiling

/-! ## Blanks around a text -/

namespace Blank

/-- Nothing but blanks. -/
def AllBlank (t : Text) : Prop := ∀ c ∈ t, isBlank c = true

theorem AllBlank.reverse {t : Text} (h : AllBlank t) : AllBlank t.reverse :=
  fun c hc => h c (List.mem_reverse.1 hc)

theorem trimLeft_eq_nil {t : Text} (h : AllBlank t) : trimLeft t = [] :=
  List.dropWhile_eq_nil_iff.2 h

theorem trimLeft_append_left {before : Text} (h : AllBlank before) (t : Text) :
    trimLeft (before ++ t) = trimLeft t := List.dropWhile_append_of_pos h

theorem trimLeft_append (t after : Text) : trimLeft (t ++ after) =
    if (trimLeft t).isEmpty then trimLeft after else trimLeft t ++ after := List.dropWhile_append

/-- A text is what trimming leaves of it, between blanks. -/
theorem exists_eq_trim (t : Text) :
    ∃ before after, AllBlank before ∧ AllBlank after ∧ t = before ++ trim t ++ after := by
  have hleft : t.takeWhile isBlank ++ trimLeft t = t := List.takeWhile_append_dropWhile
  have hright : trim t ++ ((trimLeft t).reverse.takeWhile isBlank).reverse = trimLeft t := by
    rw [trim, trimLeft, ← List.reverse_append, List.takeWhile_append_dropWhile,
      List.reverse_reverse]
  refine ⟨t.takeWhile isBlank, ((trimLeft t).reverse.takeWhile isBlank).reverse,
    fun c hc => List.mem_takeWhile_imp hc,
    AllBlank.reverse fun c hc => List.mem_takeWhile_imp hc, ?_⟩
  rw [List.append_assoc, hright, hleft]

theorem wordsFrom_append {after : Text} (h : AllBlank after) (run t : Text) :
    wordsFrom run (t ++ after) = wordsFrom run t := by
  induction t generalizing run with
  | nil =>
    induction after generalizing run with
    | nil => rfl
    | cons c after ih =>
      have hc : isBlank c = true := h c (List.mem_cons_self ..)
      have hrest := ih (fun d hd => h d (List.mem_cons_of_mem _ hd)) []
      cases run <;> simpa [wordsFrom, hc] using hrest
  | cons c t ih => simp only [List.cons_append, wordsFrom, ih]

theorem words_append {before : Text} (h : AllBlank before) (t : Text) :
    words (before ++ t) = words t := by
  induction before with
  | nil => rfl
  | cons c before ih =>
    have hc : isBlank c = true := h c (List.mem_cons_self ..)
    have hrest := ih fun d hd => h d (List.mem_cons_of_mem _ hd)
    simpa [words, wordsFrom, hc] using hrest

theorem words_trim (t : Text) : words (trim t) = words t := by
  obtain ⟨before, after, hbefore, hafter, heq⟩ := exists_eq_trim t
  calc words (trim t) = words (trim t ++ after) := (wordsFrom_append hafter [] _).symm
    _ = words (before ++ (trim t ++ after)) := (words_append hbefore _).symm
    _ = words t := by rw [← List.append_assoc, ← heq]

theorem trim_append {after : Text} (h : AllBlank after) (t : Text) :
    trim (t ++ after) = trim t := by
  rw [trim, trim, trimLeft_append]
  split
  · next hempty => rw [trimLeft_eq_nil h, List.isEmpty_iff.1 hempty]
  · rw [List.reverse_append, trimLeft_append_left h.reverse]

theorem trim_append_left {before : Text} (h : AllBlank before) (t : Text) :
    trim (before ++ t) = trim t := by
  rw [trim, trimLeft_append_left h, trim]

theorem trim_trim (t : Text) : trim (trim t) = trim t := by
  obtain ⟨before, after, hbefore, hafter, heq⟩ := exists_eq_trim t
  calc trim (trim t) = trim (trim t ++ after) := (trim_append hafter _).symm
    _ = trim (before ++ (trim t ++ after)) := (trim_append_left hbefore _).symm
    _ = trim t := by rw [← List.append_assoc, ← heq]

end Blank

/-! ## Pieces -/

section Pieces

variable {α : Type} [DecidableEq α] {separator : α}

theorem pieces_eq_splitOn (separator : α) (as : List α) :
    pieces separator as = as.splitOn separator := by
  induction as with
  | nil => rfl
  | cons a as ih =>
    rw [List.splitOn, List.splitOnP_cons_eq_if_modifyHead, ← List.splitOn, ← ih, pieces]
    have hne := pieces_ne_nil separator as
    cases hp : pieces separator as with
    | nil => exact absurd hp hne
    | cons piece rest => simp

/-- What is cut at the separators is what stood between them. -/
theorem pieces_intersperse {ls : List (List α)} (hne : ls ≠ []) (h : ∀ l ∈ ls, separator ∉ l) :
    pieces separator (ls.intersperse [separator]).flatten = ls := by
  rw [pieces_eq_splitOn]
  exact List.splitOn_intercalate separator h hne

theorem pieces_cons_of_ne {a : α} (h : a ≠ separator) (as : List α) :
    pieces separator (a :: as) = (pieces separator as).modifyHead (a :: ·) := by
  have hne := pieces_ne_nil separator as
  rw [pieces]
  cases hp : pieces separator as with
  | nil => exact absurd hp hne
  | cons piece rest => simp [h]

theorem pieces_cons_self (as : List α) :
    pieces separator (separator :: as) = [] :: pieces separator as := by
  have hne := pieces_ne_nil separator as
  rw [pieces]
  cases hp : pieces separator as with
  | nil => exact absurd hp hne
  | cons piece rest => simp

theorem exists_pieces_append {after : List α} (h : separator ∉ after) (as : List α) :
    ∃ init last, pieces separator as = init ++ [last] ∧
      pieces separator (as ++ after) = init ++ [last ++ after] := by
  induction as with
  | nil =>
    have hone : pieces separator ([after].intersperse [separator]).flatten = [after] :=
      pieces_intersperse (List.cons_ne_nil _ _) (by simpa)
    exact ⟨[], [], rfl, by simpa using hone⟩
  | cons a as ih =>
    obtain ⟨init, last, heq, happ⟩ := ih
    rw [List.cons_append]
    by_cases ha : a = separator
    · subst ha
      exact ⟨[] :: init, last, by rw [pieces_cons_self, heq, List.cons_append],
        by rw [pieces_cons_self, happ, List.cons_append]⟩
    · rw [pieces_cons_of_ne ha, pieces_cons_of_ne ha, heq, happ]
      cases init with
      | nil => exact ⟨[], a :: last, rfl, rfl⟩
      | cons piece init => exact ⟨(a :: piece) :: init, last, rfl, rfl⟩

end Pieces

namespace Blank

variable {separator : CodePoint}

theorem map_trim_pieces_append_left {before : Text} (hb : AllBlank before)
    (h : isBlank separator = false) (t : Text) :
    (pieces separator (before ++ t)).map trim = (pieces separator t).map trim := by
  induction before with
  | nil => rfl
  | cons c before ih =>
    have hc : isBlank c = true := hb c (List.mem_cons_self ..)
    have hne : c ≠ separator := by
      rintro rfl
      simp [hc] at h
    rw [List.cons_append, pieces_cons_of_ne hne, ← ih fun d hd => hb d (List.mem_cons_of_mem _ hd)]
    have hblank : AllBlank [c] := by simpa [AllBlank] using hc
    have htrim (piece : Text) : trim (c :: piece) = trim piece := trim_append_left hblank piece
    cases pieces separator (before ++ t) with
    | nil => rfl
    | cons piece rest => simp [htrim]

theorem map_trim_pieces (h : isBlank separator = false) (t : Text) :
    (pieces separator (trim t)).map trim = (pieces separator t).map trim := by
  obtain ⟨before, after, hbefore, hafter, heq⟩ := exists_eq_trim t
  have hnot : separator ∉ after := fun hmem => by simp [hafter _ hmem] at h
  obtain ⟨init, last, hp, happ⟩ := exists_pieces_append hnot (trim t)
  calc (pieces separator (trim t)).map trim
      = (pieces separator (trim t ++ after)).map trim := by
        rw [hp, happ, List.map_append, List.map_append, List.map_singleton, List.map_singleton,
          trim_append hafter]
    _ = (pieces separator (before ++ (trim t ++ after))).map trim :=
        (map_trim_pieces_append_left hbefore h _).symm
    _ = (pieces separator t).map trim := by rw [← List.append_assoc, ← heq]

end Blank

/-! ## Words -/

namespace Command

/-- The words that make a command. Only the grid command looks at what comes after the first one. -/
inductive Worded : List Text → Command → Prop
  | status (rest : List Text) : Worded (.ofString "status" :: rest) .status
  | recalculate (rest : List Text) : Worded (.ofString "recalculate" :: rest) .recalculate
  | enable (rest : List Text) : Worded (.ofString "enable" :: rest) (.tiling .on)
  | disable (rest : List Text) : Worded (.ofString "disable" :: rest) (.tiling .off)
  | toggle (rest : List Text) : Worded (.ofString "toggle" :: rest) (.tiling .toggle)
  | gridMode (switch : Switch) :
    Worded [.ofString "grid-mode", .ofString switch.name] (.gridMode switch)

end Command

theorem Switch.ofName?_eq_some_iff (name : Text) (switch : Switch) :
    Switch.ofName? name = some switch ↔ name = .ofString switch.name := by
  constructor
  · intro h
    simpa [Text.isString] using List.find?_some h
  · rintro rfl
    cases switch <;> decide

namespace Command

theorem gridSwitch_eq_ok_iff (rest : List Text) (switch : Switch) :
    gridSwitch rest = .ok switch ↔ rest.map lowercase = [.ofString switch.name] := by
  rcases rest with _ | ⟨word, _ | ⟨next, rest⟩⟩
  · simp [gridSwitch]
  · rw [gridSwitch, List.map_singleton, List.cons.injEq, ← Switch.ofName?_eq_some_iff]
    cases Switch.ofName? (lowercase word) <;> simp
  · simp [gridSwitch]

/-- **What texts are read as commands.** -/
theorem parse_eq_ok_iff (t : Text) (c : Command) :
    parse t = .ok c ↔ Worded ((Blank.words t).map lowercase) c := by
  rw [parse]
  cases Blank.words t with
  | nil => exact ⟨fun h => by simp [ofWords] at h, fun h => by cases h⟩
  | cons word rest =>
    rw [ofWords, List.map_cons]
    constructor
    · -- What was read decides the first word, and for the grid command also the only other one.
      intro h
      split at h <;> rename_i hword
      case h_6 =>
        cases hswitch : gridSwitch rest with
        | error e => simp [hswitch, Except.map] at h
        | ok switch =>
          simp only [hswitch, Except.map, Except.ok.injEq] at h
          rw [(Text.toString?_eq_some_iff ..).1 hword, (gridSwitch_eq_ok_iff ..).1 hswitch, ← h]
          exact .gridMode switch
      case h_7 => simp at h
      all_goals
        simp only [Except.ok.injEq] at h
        rw [(Text.toString?_eq_some_iff ..).1 hword, ← h]
      case h_1 => exact .status _
      case h_2 => exact .recalculate _
      case h_3 => exact .enable _
      case h_4 => exact .disable _
      case h_5 => exact .toggle _
    · intro h
      generalize hws : lowercase word :: rest.map lowercase = ws at h
      cases h with
      | gridMode switch =>
        obtain ⟨hword, hrest⟩ := List.cons.inj hws
        rw [hword, Text.toString?_ofString]
        show (gridSwitch rest).map _ = _
        rw [(gridSwitch_eq_ok_iff rest switch).2 hrest]
        rfl
      | _ =>
        rw [(List.cons.inj hws).1, Text.toString?_ofString]
        rfl

theorem parse_trim (t : Text) : parse (Blank.trim t) = parse t := by
  rw [parse, parse, Blank.words_trim]

/-- A command never carries the leading word. -/
theorem not_prefix_of_parse {t : Text} {c : Command} (h : parse t = .ok c) :
    commandPrefix.isPrefixOf t = false := by
  by_contra hp
  rw [Bool.not_eq_false, List.isPrefixOf_iff_prefix] at hp
  obtain ⟨rest, rfl⟩ := hp
  have hwords : Blank.words (commandPrefix ++ rest) = .ofString "tiling" :: Blank.words rest := rfl
  have htiling : lowercase (.ofString "tiling") = .ofString "tiling" := by decide
  rw [parse_eq_ok_iff, hwords, List.map_cons, htiling] at h
  generalize hws : Text.ofString "tiling" :: (Blank.words rest).map lowercase = ws at h
  cases h <;> exact absurd (Text.ofString_inj.1 (List.cons.inj hws).1) (by decide)

end Command

/-! ## Commands in one text -/

theorem commandOf?_trim (part : Text) : commandOf? (Blank.trim part) = commandOf? part := by
  rw [commandOf?, commandOf?, Blank.trim_trim]

theorem commandOf?_of_parse {t : Text} {c : Command} (h : Command.parse t = .ok c) :
    commandOf? t = some (Blank.trim t) := by
  have htrim : Command.parse (Blank.trim t) = .ok c := (Command.parse_trim t).trans h
  have hne : (Blank.trim t).isEmpty = false := by
    by_contra hempty
    rw [Bool.not_eq_false, List.isEmpty_iff] at hempty
    rw [hempty] at htrim
    exact absurd htrim (by simp [Command.parse, Blank.words, Blank.wordsFrom, Command.ofWords])
  rw [commandOf?]
  simp only [hne, Command.not_prefix_of_parse htrim, Bool.false_eq_true, if_false]

/-- **Commands joined by semicolons are found again one by one.** -/
theorem commandsIn_joined {texts : List Text}
    (hread : ∀ t ∈ texts, ∃ c, Command.parse t = .ok c) (hone : ∀ t ∈ texts, .char ';' ∉ t) :
    commandsIn (Text.intercalate ";" texts) = texts.map Blank.trim := by
  rcases eq_or_ne texts [] with rfl | hne
  · rfl
  · have hpieces : pieces (.char ';') (Text.intercalate ";" texts) = texts :=
      pieces_intersperse hne hone
    have htrim : (fun part => commandOf? (Blank.trim part)) = commandOf? :=
      funext commandOf?_trim
    calc commandsIn (Text.intercalate ";" texts)
        = ((pieces (.char ';') (Blank.trim (Text.intercalate ";" texts))).map Blank.trim).filterMap
            commandOf? := by rw [commandsIn, List.filterMap_map, Function.comp_def, htrim]
      _ = texts.filterMap commandOf? := by
        rw [Blank.map_trim_pieces (by decide), hpieces, List.filterMap_map, Function.comp_def,
          htrim]
      _ = texts.map Blank.trim := by
        rw [← List.filterMap_eq_map]
        refine List.filterMap_congr fun t ht => ?_
        obtain ⟨c, hc⟩ := hread t ht
        exact commandOf?_of_parse hc

theorem payloadText_of_encodeText {t : Text} {payload : List UInt8}
    (h : Utf8.encodeText t = .ok payload) : (payloadText payload).map Text.ofChars = .ok t := by
  rw [Utf8.encodeText] at h
  cases hchars : t.toChars? with
  | none => simp [hchars] at h
  | some cs =>
    simp only [hchars, Except.ok.injEq] at h
    rw [payloadText, ← h, Utf8.decode_encode, (Text.toChars?_eq_some_iff ..).1 hchars]
    rfl

end WindowTiling
