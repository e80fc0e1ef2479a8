/-
  SlabWaste.Proofs.CommandLine.Groups
  ───────────────────────────────────
  **THE ORDER OF OPTIONS DOES NOT MATTER.**

  A command line is a sequence of groups: an option with its value, a flag, or an
  argument of its own.  A group makes the same setting in each of its spellings,
  and a value is taken as it stands, even if it looks like an option:

      Abbreviates           a long name, or enough of it
      Spells                the spellings of a setting
      scan_line             a setting for each group, in order

  What is gathered from settings is the values of each option, with the last in
  force, and which flags there are:

      Gathered.summary      what settings come to, option by option
      ofSettings_eq         that this is what is gathered
      AtMostOnce.check_eq   that their order makes no difference

  Main result: `parse_groups`.
-/
import Mathlib.Data.List.TakeWhile
import SlabWaste.CommandLine.Options

namespace SlabWaste.CommandLine

open SlabWaste.Ring

/-! ## §1. Long names. -/

/-- A long name, or a beginning of it with which no other long name begins. -/
def Abbreviates (name : String) (o : Switch) : Prop :=
  name = o.long
    ∨ name.toList <+: o.long.toList
      ∧ ∀ other : Switch, name.toList <+: other.long.toList → other = o

theorem mem_every (o : Switch) : o ∈ Switch.every := by
  cases o <;> decide

instance (name : String) (o : Switch) : Decidable (Abbreviates name o) :=
  decidable_of_iff
    (name = o.long
      ∨ name.toList <+: o.long.toList
        ∧ ∀ other ∈ Switch.every, name.toList <+: other.long.toList → other = o)
    (by simp only [Abbreviates, mem_every, true_implies])

example : Abbreviates "--rings-s" .ringsShow ∧ ¬Abbreviates "--rings" .ringsShow := by decide

/-- The name of an option has two dashes in front. -/
theorem dashes_prefix_long (o : Switch) : ['-', '-'] <+: o.long.toList := by
  cases o <;> decide

/-- There is no equals sign in it, which would end it. -/
theorem equals_notMem_long (o : Switch) : '=' ∉ o.long.toList := by
  cases o <;> decide

/-- No name of an option is the beginning of another one. -/
theorem eq_of_long_prefix_long {o other : Switch} (h : o.long.toList <+: other.long.toList) :
    other = o := by
  revert h
  cases o <;> cases other <;> decide

namespace Abbreviates

variable {name : String} {o : Switch}

/-- What abbreviates an option is a beginning of its name. -/
theorem isPrefix (h : Abbreviates name o) : name.toList <+: o.long.toList := by
  obtain rfl | ⟨hbegins, -⟩ := h
  · exact List.prefix_refl _
  · exact hbegins

/-- … and of no other one's. -/
theorem unique (h : Abbreviates name o) {other : Switch}
    (hother : name.toList <+: other.long.toList) : other = o := by
  obtain rfl | ⟨-, hunique⟩ := h
  · exact eq_of_long_prefix_long hother
  · exact hunique other hother

/-- **An abbreviation stands for its option**, and is found to be unambiguous. -/
theorem resolveLong_eq (h : Abbreviates name o) : resolveLong name = .ok o := by
  unfold resolveLong
  -- a whole name comes before any abbreviation, and is itself the beginning of one name only
  cases hfind : Switch.every.find? (·.long == name) with
  | some other =>
      have hfound : (other.long == name) = true :=
        List.find?_some (p := fun o : Switch => o.long == name) hfind
      have hlong : other.long = name := beq_iff_eq.mp hfound
      have hother : other = o := h.unique (hlong ▸ List.prefix_refl _)
      rw [hother]
  | none =>
      have hsame : ∀ other ∈ Switch.every,
          name.toList.isPrefixOf other.long.toList = decide (other = o) := by
        intro other _
        rw [Bool.eq_iff_iff, List.isPrefixOf_iff_prefix, decide_eq_true_eq]
        exact ⟨h.unique, fun hother => hother ▸ h.isPrefix⟩
      have honly : Switch.beginningWith name = [o] := by
        unfold Switch.beginningWith
        rw [List.filter_congr hsame]
        cases o <;> rfl
      simp only [honly]

/-- The name ends before the equals sign. -/
theorem equals_notMem (h : Abbreviates name o) : '=' ∉ name.toList :=
  fun hmem => equals_notMem_long o (h.isPrefix.subset hmem)

/-- There is more than the dashes, with which all long names begin. -/
theorem toList_eq (h : Abbreviates name o) : ∃ c s, name.toList = '-' :: '-' :: c :: s := by
  have hlong : 2 < name.toList.length := by
    by_contra hshort
    -- then it would be the beginning of any two of them
    have hall : ∀ other : Switch, other = o := by
      intro other
      have hdashes : name.toList <+: ['-', '-'] :=
        List.prefix_of_prefix_length_le h.isPrefix (dashes_prefix_long o) (Nat.le_of_not_lt hshort)
      exact h.unique (hdashes.trans (dashes_prefix_long other))
    exact Switch.noConfusion ((hall .help).trans (hall .input).symm)
  obtain ⟨s, hs⟩ : ['-', '-'] <+: name.toList :=
    List.prefix_of_prefix_length_le (dashes_prefix_long o) h.isPrefix (Nat.le_of_lt hlong)
  cases s with
  | nil =>
      rw [← hs] at hlong
      exact absurd hlong (by decide)
  | cons c s => exact ⟨c, s, hs.symm⟩

end Abbreviates

/-! ## §2. Single arguments. -/

/-- The name is what comes before the equals sign, as it is looked for. -/
theorem all_ne_of_notMem {name : List Char} (h : '=' ∉ name) :
    ∀ c ∈ name, (c != '=') = true :=
  fun _ hc => bne_iff_ne.mpr (ne_of_mem_of_not_mem hc h)

/-- A name alone has no value joined to it. -/
theorem splitValue_name {name : List Char} (h : '=' ∉ name) :
    splitValue name = (String.ofList name, none) := by
  unfold splitValue
  rw [List.takeWhile_eq_self_iff.mpr (all_ne_of_notMem h),
    List.dropWhile_eq_nil_iff.mpr (all_ne_of_notMem h)]

/-- The first equals sign parts the name from the value, which may hold others. -/
theorem splitValue_joined {name : List Char} (h : '=' ∉ name) (text : List Char) :
    splitValue (name ++ '=' :: text) = (String.ofList name, some (String.ofList text)) := by
  unfold splitValue
  rw [List.takeWhile_append_of_pos (all_ne_of_notMem h),
    List.dropWhile_append_of_pos (all_ne_of_notMem h),
    List.takeWhile_cons_of_neg (by decide), List.dropWhile_cons_of_neg (by decide),
    List.append_nil]

/-- The letters of options are told apart. -/
theorem ofLetter?_of_letter? {o : Switch} {x : Char} (h : o.letter? = some x) :
    Switch.ofLetter? x = some o := by
  cases o <;> cases h <;> rfl

theorem ne_help_of_takesValue {o : Switch} (h : o.takesValue = true) : o ≠ .help := by
  rintro rfl
  cases h

/-- An argument with one dash is letters. -/
theorem readArgument_letters {argument : String} {o : Switch} {x : Char} {s : List Char}
    (h : argument.toList = '-' :: x :: s) (hx : o.letter? = some x) :
    readArgument argument = readLetters (x :: s) := by
  unfold readArgument
  rw [h]
  -- no letter is a dash
  cases o <;> cases hx <;> rfl

/-- An argument with two dashes is a name, perhaps with a value joined to it. -/
theorem readArgument_long {argument : String} {c : Char} {s : List Char}
    (h : argument.toList = '-' :: '-' :: c :: s) :
    readArgument argument
      = readLong (splitValue argument.toList).1 (splitValue argument.toList).2 := by
  unfold readArgument
  rw [h]
  rfl

/-- An argument without a dash stands for itself. -/
theorem readArgument_positional {argument : String} (h : argument.toList.head? ≠ some '-') :
    readArgument argument = .ok (.complete [.positional argument]) := by
  unfold readArgument
  split
  · next hs => exact absurd (congrArg List.head? hs) h
  · next hs => exact absurd (congrArg List.head? hs) h
  · next hs => exact absurd (congrArg List.head? hs) h
  · rfl

section Name

variable {name : String} {o : Switch}

/-- A name, or enough of it, as an argument of its own. -/
theorem readArgument_name (h : Abbreviates name o) : readArgument name = readLong name none := by
  obtain ⟨c, s, hs⟩ := h.toList_eq
  rw [readArgument_long hs, splitValue_name h.equals_notMem, String.ofList_toList]

/-- A name and a value, with an equals sign between them. -/
theorem readArgument_joined (h : Abbreviates name o) (text : String) :
    readArgument (name ++ "=" ++ text) = readLong name (some text) := by
  obtain ⟨c, s, hs⟩ := h.toList_eq
  have hjoined : (name ++ "=" ++ text).toList = name.toList ++ '=' :: text.toList := by
    rw [String.toList_append, String.toList_append, List.append_assoc]
    rfl
  have hdashes : (name ++ "=" ++ text).toList = '-' :: '-' :: c :: (s ++ '=' :: text.toList) := by
    rw [hjoined, hs]
    rfl
  rw [readArgument_long hdashes, hjoined, splitValue_joined h.equals_notMem, String.ofList_toList,
    String.ofList_toList]

end Name

/-! ## §3. Groups of arguments. -/

/-- The arguments that a setting may be made with. -/
inductive Spells : Setting → List String → Prop where
  /-- A letter, and the value in the same argument. -/
  | letterJoined {o : Switch} {x : Char} {text : String} (hx : o.letter? = some x)
      (ho : o.takesValue = true) (htext : text ≠ "") :
      Spells (.value o text) [String.ofList ('-' :: x :: text.toList)]
  /-- A letter, and the value in the next argument. -/
  | letterApart {o : Switch} {x : Char} {text : String} (hx : o.letter? = some x)
      (ho : o.takesValue = true) : Spells (.value o text) [String.ofList ['-', x], text]
  /-- A name, and the value behind an equals sign. -/
  | nameJoined {o : Switch} {name text : String} (hname : Abbreviates name o)
      (ho : o.takesValue = true) : Spells (.value o text) [name ++ "=" ++ text]
  /-- A name, and the value in the next argument. -/
  | nameApart {o : Switch} {name text : String} (hname : Abbreviates name o)
      (ho : o.takesValue = true) : Spells (.value o text) [name, text]
  /-- The letter of a flag. -/
  | flagLetter {o : Switch} {x : Char} (hx : o.letter? = some x) (ho : o.takesValue = false)
      (hhelp : o ≠ .help) : Spells (.flag o) [String.ofList ['-', x]]
  /-- The name of a flag. -/
  | flagName {o : Switch} {name : String} (hname : Abbreviates name o)
      (ho : o.takesValue = false) (hhelp : o ≠ .help) : Spells (.flag o) [name]
  /-- An argument of its own. -/
  | positional {text : String} (htext : text.toList.head? ≠ some '-') :
      Spells (.positional text) [text]

/-- **A group is read as a whole, whatever comes after it.** -/
theorem Spells.scan_append {s : Setting} {arguments : List String} (h : Spells s arguments)
    (rest : List String) : scan (arguments ++ rest) = (scan rest).map (s :: ·) := by
  -- one case for each spelling: what the first argument is read as, then what `scan` does with it
  cases h with
  | @letterJoined o x text hx ho htext =>
      have hread : readArgument (String.ofList ('-' :: x :: text.toList))
          = .ok (.complete [.value o text]) := by
        have hnonempty : text.toList.isEmpty = false := by
          rw [List.isEmpty_eq_false_iff]
          exact fun hnil => htext (String.toList_eq_nil_iff.mp hnil)
        rw [readArgument_letters String.toList_ofList hx, readLetters, ofLetter?_of_letter? hx]
        simp only [ne_help_of_takesValue ho, ho, hnonempty, if_false, if_true, String.ofList_toList]
        rfl
      exact scan_complete hread rest
  | @letterApart o x text hx ho =>
      have hread : readArgument (String.ofList ['-', x])
          = .ok (.pending [] o (String.ofList ['-', x])) := by
        rw [readArgument_letters String.toList_ofList hx, readLetters, ofLetter?_of_letter? hx]
        simp only [ne_help_of_takesValue ho, ho, if_false, if_true]
        rfl
      exact scan_pending hread text rest
  | @nameJoined o name text hname ho =>
      have hread : readArgument (name ++ "=" ++ text) = .ok (.complete [.value o text]) := by
        rw [readArgument_joined hname, readLong, hname.resolveLong_eq]
        simp only [ho]
      exact scan_complete hread rest
  | @nameApart o name text hname ho =>
      have hread : readArgument name = .ok (.pending [] o o.long) := by
        rw [readArgument_name hname, readLong, hname.resolveLong_eq]
        simp only [ho]
      exact scan_pending hread text rest
  | @flagLetter o x hx ho hhelp =>
      have hread : readArgument (String.ofList ['-', x]) = .ok (.complete [.flag o]) := by
        rw [readArgument_letters String.toList_ofList hx, readLetters, ofLetter?_of_letter? hx]
        simp only [hhelp, ho, if_false]
        rfl
      exact scan_complete hread rest
  | @flagName o name hname ho hhelp =>
      have hread : readArgument name = .ok (.complete [.flag o]) := by
        rw [readArgument_name hname, readLong, hname.resolveLong_eq]
        simp only [ho, hhelp, if_false]
      exact scan_complete hread rest
  | positional htext => exact scan_complete (readArgument_positional htext) rest

/-- A setting, and arguments that make it. -/
structure Group where
  setting : Setting
  arguments : List String
  spelt : Spells setting arguments

namespace Group

/-- The settings of groups, in order. -/
def settings (groups : List Group) : List Setting := groups.map setting

/-- The command line that groups make up. -/
def line (groups : List Group) : List String := groups.flatMap arguments

end Group

/-- **Each group of a command line makes its setting.** -/
theorem scan_line (groups : List Group) :
    scan (Group.line groups) = .ok (Group.settings groups) := by
  unfold Group.line Group.settings
  induction groups with
  | nil => rfl
  | cons g groups ih =>
      rw [List.flatMap_cons, g.spelt.scan_append, ih]
      rfl

/-! ## §4. What settings come to. -/

/-- The value that a setting gives an option. -/
def Setting.value? (o : Switch) : Setting → Option String
  | .value other text => if other = o then some text else none
  | _ => none

/-- The text of an argument of its own. -/
def Setting.positional? : Setting → Option String
  | .positional text => some text
  | _ => none

/-- The values that settings give an option, in order. -/
def values (o : Switch) (settings : List Setting) : List String :=
  settings.filterMap (Setting.value? o)

/-- The arguments of their own among settings, in order. -/
def positionals (settings : List Setting) : List String :=
  settings.filterMap Setting.positional?

/-- All that settings give as input. -/
def inputs (settings : List Setting) : List String :=
  values .input settings ++ positionals settings

theorem mem_values_iff {o : Switch} {settings : List Setting} {text : String} :
    text ∈ values o settings ↔ .value o text ∈ settings := by
  unfold values
  rw [List.mem_filterMap]
  constructor
  · rintro ⟨s, hs, htext⟩
    cases s with
    | value other given =>
        unfold Setting.value? at htext
        simp only [Option.ite_none_right_eq_some, Option.some.injEq] at htext
        rw [← htext.1, ← htext.2]
        exact hs
    | flag other => cases htext
    | positional given => cases htext
  · intro hs
    exact ⟨_, hs, if_pos rfl⟩

namespace Gathered

/-- What settings come to: all that is given as input, the last value of any other option, and
which flags there are. -/
def summary (settings : List Setting) : Gathered where
  inputs := values .input settings
  positionals := CommandLine.positionals settings
  mapFile := (values .map settings).getLastD ""
  malloc := decide (.flag .malloc ∈ settings)
  cache := decide (.flag .cache ∈ settings)
  accountFile := (values .accountFile settings).getLastD ""
  ringsFile := (values .ringsFile settings).getLastD ""
  ringsShow := decide (.flag .ringsShow ∈ settings)
  measure := (values .ringsMeasure settings).getLastD "current_alloc"
  verbose := decide (.flag .verbose ∈ settings)

/-- **One more setting at the end** is added to what was gathered before. -/
theorem summary_concat (settings : List Setting) (s : Setting) :
    summary (settings ++ [s]) = (summary settings).add s := by
  unfold summary values CommandLine.positionals
  simp only [List.filterMap_append, List.mem_append, List.mem_singleton]
  cases s with
  | positional text => simp [add, Setting.value?, Setting.positional?]
  | value o text => cases o <;> simp [add, Setting.value?, Setting.positional?]
  | flag o => cases o <;> simp [add, Setting.value?, Setting.positional?]

/-- So settings may be gathered part by part. -/
theorem foldl_add_summary (before settings : List Setting) :
    settings.foldl add (summary before) = summary (before ++ settings) := by
  induction settings generalizing before with
  | nil => rw [List.foldl_nil, List.append_nil]
  | cons s settings ih =>
      rw [List.foldl_cons, ← summary_concat, ih, List.append_assoc]
      rfl

/-- **What is gathered from settings is what they come to.** -/
theorem ofSettings_eq (settings : List Setting) : ofSettings settings = summary settings :=
  foldl_add_summary [] settings

/-! ## §5. What is checked. -/

variable {g : Gathered}

/-- There is at most one input, and without any it is the default one. -/
theorem input_eq_ok_iff {file : String} :
    g.input = .ok file
      ↔ (g.inputs ++ g.positionals).length ≤ 1
        ∧ (g.inputs ++ g.positionals).headD defaultInput = file := by
  unfold input
  rcases g.inputs with - | ⟨a, - | ⟨b, others⟩⟩ <;>
    rcases g.positionals with - | ⟨c, - | ⟨d, more⟩⟩ <;> simp

/-- The complaint about several inputs does not depend on their order. -/
theorem input_of_several (h : 1 < (g.inputs ++ g.positionals).length) :
    g.input
      = .error (if g.inputs.length = 1 then .inputGivenTwice else .severalInputs) := by
  unfold input
  revert h
  rcases g.inputs with - | ⟨a, - | ⟨b, others⟩⟩ <;>
    rcases g.positionals with - | ⟨c, - | ⟨d, more⟩⟩ <;> simp

/-- At most one family is asked for, and without any it is all of them. -/
theorem family_eq_ok_iff {family : Family} :
    g.family = .ok family
      ↔ ¬(g.malloc = true ∧ g.cache = true)
        ∧ (if g.malloc then .malloc else if g.cache then .cache else .all) = family := by
  unfold Gathered.family
  cases g.malloc <;> cases g.cache <;> simp

/-- The measure of a chart has to be one of those there are. -/
theorem chart_eq_ok_iff {m : Measure} : g.chart = .ok m ↔ m.name = g.measure := by
  unfold chart
  constructor
  · intro h
    cases hfind : Measure.ofName? g.measure with
    | none =>
        rw [hfind] at h
        cases h
    | some found =>
        rw [hfind] at h
        injection h with h
        rw [← h]
        exact beq_iff_eq.mp (List.find?_some (p := fun m : Measure => m.name == g.measure) hfind)
  · intro h
    rw [← h]
    cases m <;> rfl

end Gathered

/-! ## §6. The order of what is given. -/

/-- There is but one order of one thing. -/
theorem eq_of_perm_of_length_le_one {xs ys : List String} (h : xs.Perm ys)
    (hone : ys.length ≤ 1) : xs = ys := by
  match ys, hone with
  | [], _ => exact h.eq_nil
  | [_], _ => exact List.perm_singleton.mp h

/-- What is given as input may come in any order, even if there is too much of it. -/
theorem Gathered.check_of_perm {g : Gathered} {inputs positionals : List String}
    (hinputs : inputs.Perm g.inputs) (hpositionals : positionals.Perm g.positionals) :
    ({ g with inputs, positionals } : Gathered).check = g.check := by
  by_cases hone : (g.inputs ++ g.positionals).length ≤ 1
  · have hlengths := List.length_append ▸ hone
    rw [eq_of_perm_of_length_le_one hinputs (by omega),
      eq_of_perm_of_length_le_one hpositionals (by omega)]
  · have hseveral : 1 < (g.inputs ++ g.positionals).length := Nat.lt_of_not_le hone
    have hothers : 1 < (inputs ++ positionals).length := by
      rw [(hinputs.append hpositionals).length_eq]
      exact hseveral
    have hother : ({ g with inputs, positionals } : Gathered).input = _ := input_of_several hothers
    unfold check
    rw [input_of_several hseveral, hother, hinputs.length_eq]
    rfl

/-- Options that hold one value are given at most once. -/
def AtMostOnce (settings : List Setting) : Prop :=
  ∀ o ∈ [Switch.map, .accountFile, .ringsFile, .ringsMeasure], (values o settings).length ≤ 1

instance (settings : List Setting) : Decidable (AtMostOnce settings) :=
  inferInstanceAs (Decidable (∀ o ∈ [Switch.map, .accountFile, .ringsFile, .ringsMeasure],
    (values o settings).length ≤ 1))

namespace AtMostOnce

variable {settings others : List Setting}

/-- An option that is given once has the same value in any order of the settings. -/
theorem values_eq (honce : AtMostOnce settings) (h : settings.Perm others) {o : Switch}
    (ho : o ∈ [Switch.map, .accountFile, .ringsFile, .ringsMeasure]) :
    values o others = values o settings :=
  eq_of_perm_of_length_le_one (h.symm.filterMap _) (honce o ho)

/-- **The order of settings makes no difference**, neither to the options nor to the complaint. -/
theorem check_eq (honce : AtMostOnce settings) (h : settings.Perm others) :
    (Gathered.summary others).check = (Gathered.summary settings).check := by
  -- of inputs only there may be several
  have hsame : Gathered.summary others
      = { Gathered.summary settings with
          inputs := values .input others, positionals := positionals others } := by
    unfold Gathered.summary
    simp only [honce.values_eq h (o := .map) (by decide),
      honce.values_eq h (o := .accountFile) (by decide),
      honce.values_eq h (o := .ringsFile) (by decide),
      honce.values_eq h (o := .ringsMeasure) (by decide), h.mem_iff]
  rw [hsame]
  exact Gathered.check_of_perm (h.symm.filterMap _) (h.symm.filterMap _)

end AtMostOnce

/-! ## §7. Command lines. -/

section Settings

variable {settings : List Setting}

/-- Settings that do not fit together, or that ask for a measure that there is not. -/
def Unfit (settings : List Setting) : Prop :=
  1 < (inputs settings).length
    ∨ (.flag .malloc ∈ settings ∧ .flag .cache ∈ settings)
    ∨ ∃ text, .value .ringsMeasure text ∈ settings ∧ ∀ m : Measure, m.name ≠ text

/-- The family that flags ask for. -/
def familyAsked (settings : List Setting) : Family :=
  if .flag .malloc ∈ settings then .malloc
  else if .flag .cache ∈ settings then .cache
  else .all

/-- The measure that is gathered is one there is just if no other was asked for. -/
theorem exists_measure_iff (honce : AtMostOnce settings) :
    (∃ m : Measure, m.name = (Gathered.summary settings).measure)
      ↔ ¬∃ text, .value .ringsMeasure text ∈ settings ∧ ∀ m : Measure, m.name ≠ text := by
  have hlength := honce .ringsMeasure (by decide)
  unfold Gathered.summary
  simp only [← mem_values_iff]
  match values .ringsMeasure settings, hlength with
  | [], _ => simpa using ⟨Measure.current, rfl⟩
  | [text], _ => simp

/-- The family that is gathered is the one that was asked for. -/
theorem family_summary_iff {family : Family} :
    (Gathered.summary settings).family = .ok family
      ↔ ¬(.flag .malloc ∈ settings ∧ .flag .cache ∈ settings)
        ∧ familyAsked settings = family := by
  rw [Gathered.family_eq_ok_iff]
  unfold Gathered.summary familyAsked
  simp only [decide_eq_true_eq]

/-- What comes through the check says what was asked for, with its defaults filled in. -/
theorem check_summary_of_ok {options : Options}
    (h : (Gathered.summary settings).check = .ok options) :
    options.toGathered = .summary settings
      ∧ options.inputFile = (inputs settings).headD defaultInput
      ∧ options.family = familyAsked settings := by
  obtain ⟨hgathered, hinput, hfamily, -⟩ := Gathered.check_eq_ok_iff.mp h
  exact ⟨hgathered, (Gathered.input_eq_ok_iff.mp hinput).2.symm,
    (family_summary_iff.mp hfamily).2.symm⟩

/-- **Settings are refused just when they are unfit.** -/
theorem exists_options_iff (honce : AtMostOnce settings) :
    (∃ options, (Gathered.summary settings).check = .ok options) ↔ ¬Unfit settings := by
  unfold Unfit
  rw [not_or, not_or, ← exists_measure_iff honce, Nat.not_lt]
  constructor
  · rintro ⟨options, hcheck⟩
    obtain ⟨-, hinput, hfamily, hchart⟩ := Gathered.check_eq_ok_iff.mp hcheck
    exact ⟨(Gathered.input_eq_ok_iff.mp hinput).1, (family_summary_iff.mp hfamily).1,
      _, Gathered.chart_eq_ok_iff.mp hchart⟩
  · rintro ⟨hinput, hfamily, m, hm⟩
    refine ⟨{ Gathered.summary settings with
        inputFile := (inputs settings).headD defaultInput
        family := familyAsked settings
        chart := m }, Gathered.check_eq_ok_iff.mpr ⟨rfl, ?_, ?_, ?_⟩⟩
    · exact Gathered.input_eq_ok_iff.mpr ⟨hinput, rfl⟩
    · exact family_summary_iff.mpr ⟨hfamily, rfl⟩
    · exact Gathered.chart_eq_ok_iff.mpr hm

end Settings

/-- **A line of groups is read as their settings**, which are then checked. -/
theorem parse_line (groups : List Group) :
    parse (Group.line groups)
      = (Gathered.summary (Group.settings groups)).check.mapError .usage := by
  unfold parse
  rw [scan_line, ← Gathered.ofSettings_eq]
  rfl

/-- **The order of options does not matter.**  Of a command line that is made up of groups, with at
most one value for each option that holds one:
* it is refused, with exit code 2, just when there is more than one input, both families are asked
  for, or the measure is none that there is;
* otherwise it makes options, with the one input, the family and the values that were given;
* the same groups in another order, and each in any of its spellings, make the same options or
  the same complaint. -/
theorem parse_groups {groups others : List Group} (honce : AtMostOnce (Group.settings groups))
    (hothers : (Group.settings groups).Perm (Group.settings others)) :
    ((∃ stop, parse (Group.line groups) = .error stop ∧ stop.code = 2)
        ↔ Unfit (Group.settings groups))
      ∧ (¬Unfit (Group.settings groups) → ∃ options, parse (Group.line groups) = .ok options
          ∧ options.toGathered = .summary (Group.settings groups)
          ∧ options.inputFile = (inputs (Group.settings groups)).headD defaultInput
          ∧ options.family = familyAsked (Group.settings groups))
      ∧ parse (Group.line others) = parse (Group.line groups) := by
  -- both lines are read as settings, and the settings are checked by what they come to
  rw [parse_line, parse_line, honce.check_eq hothers]
  have hexists := exists_options_iff honce
  cases hcheck : (Gathered.summary (Group.settings groups)).check with
  | error fault =>
      have hunfit : Unfit (Group.settings groups) := by
        by_contra hfit
        obtain ⟨options, hok⟩ := hexists.mpr hfit
        rw [hcheck] at hok
        cases hok
      exact ⟨⟨fun _ => hunfit, fun _ => ⟨.usage fault, rfl, rfl⟩⟩, fun hfit => absurd hunfit hfit,
        rfl⟩
  | ok options =>
      have hfit := hexists.mp ⟨options, hcheck⟩
      refine ⟨⟨?_, fun hunfit => absurd hunfit hfit⟩, ?_, rfl⟩
      · rintro ⟨stop, hstop, -⟩
        cases hstop
      · intro _
        exact ⟨options, rfl, check_summary_of_ok hcheck⟩

/-- Values that look like options. -/
def lookalikes : List Group :=
  [ ⟨.value .input "-h", ["-i-h"], @Spells.letterJoined .input 'i' "-h" rfl rfl (by decide)⟩,
    ⟨.value .accountFile "--", ["--ac=--"],
      @Spells.nameJoined .accountFile "--ac" "--" (by decide) rfl⟩,
    ⟨.flag .malloc, ["--mal"], .flagName (by decide) rfl (by decide)⟩,
    ⟨.value .ringsMeasure "waste", ["-a", "waste"],
      @Spells.letterApart .ringsMeasure 'a' "waste" rfl rfl⟩ ]

/-- The same groups in another order and other spellings. -/
def lookalikesRespelt : List Group :=
  [ ⟨.value .ringsMeasure "waste", ["--rings-attr=waste"],
      @Spells.nameJoined .ringsMeasure "--rings-attr" "waste" (by decide) rfl⟩,
    ⟨.flag .malloc, ["--malloc"], .flagName (by decide) rfl (by decide)⟩,
    ⟨.value .input "-h", ["--input", "-h"], .nameApart (by decide) rfl⟩,
    ⟨.value .accountFile "--", ["-c", "--"],
      @Spells.letterApart .accountFile 'c' "--" rfl rfl⟩ ]

/-- Nothing of it is taken for a call for help, or for the end of the options. -/
theorem parse_groups_lookalikes :
    AtMostOnce (Group.settings lookalikes)
      ∧ (Group.settings lookalikes).Perm (Group.settings lookalikesRespelt)
      ∧ ∃ options,
          parse ["-i-h", "--ac=--", "--mal", "-a", "waste"] = .ok options
            ∧ parse ["--rings-attr=waste", "--malloc", "--input", "-h", "-c", "--"] = .ok options
            ∧ options.inputFile = "-h"
            ∧ options.accountFile = "--"
            ∧ options.family = .malloc := by
  have honce : AtMostOnce (Group.settings lookalikes) := by decide
  have horder : (Group.settings lookalikes).Perm (Group.settings lookalikesRespelt) := by decide
  have hfit : ¬Unfit (Group.settings lookalikes) := by
    -- neither two inputs, nor both families, nor an unknown measure
    rintro (hseveral | hboth | ⟨text, htext, hnone⟩)
    · exact absurd hseveral (by decide)
    · exact absurd hboth (by decide)
    · have hwaste : text = "waste" := List.mem_singleton.mp (mem_values_iff.mpr htext)
      exact hnone .waste hwaste.symm
  obtain ⟨-, hoptions, hrespelt⟩ := parse_groups honce horder
  obtain ⟨options, hparse, hgathered, hinput, hfamily⟩ := hoptions hfit
  refine ⟨honce, horder, options, hparse, hrespelt.trans hparse, hinput, ?_, hfamily⟩
  rw [hgathered]
  rfl

end SlabWaste.CommandLine
