/-
  SlabWaste.Proofs.CommandLine.Characters
  ───────────────────────────────────────
  **NOTHING IS MADE UP.**

  The values of options are pieces of arguments, so whatever holds of the
  characters of all arguments holds of theirs, and of those of the paths that a
  run is asked to use:

      clean_scan          settings
      paths_of_parse      the paths of the map and of the trace
-/
import SlabWaste.CommandLine.Options

namespace SlabWaste

namespace CommandLine

variable {p : Char → Prop}

/-! ## §1. Arguments. -/

/-- All characters of a text have a property. -/
def Throughout (p : Char → Prop) (s : String) : Prop := ∀ c ∈ s.toList, p c

/-- What holds of all characters of a list holds throughout the text made of them. -/
theorem throughout_ofList {s : List Char} : Throughout p (String.ofList s) ↔ ∀ c ∈ s, p c := by
  unfold Throughout
  rw [String.toList_ofList]

/-- The text of a setting. -/
def Setting.text : Setting → String
  | .flag _ => ""
  | .value _ text => text
  | .positional text => text

/-- The settings of a reading. -/
def Reading.settings : Reading → List Setting
  | .complete settings => settings
  | .pending settings _ _ => settings
  | .endOfOptions => []

/-- All texts that settings give have the property throughout. -/
def Clean (p : Char → Prop) (settings : List Setting) : Prop :=
  ∀ s ∈ settings, Throughout p s.text

theorem clean_nil : Clean p [] := fun _ hs => nomatch hs

/-- Settings are clean if the first is and the others are. -/
theorem clean_cons {s : Setting} {settings : List Setting} :
    Clean p (s :: settings) ↔ Throughout p s.text ∧ Clean p settings := List.forall_mem_cons

theorem clean_append {xs ys : List Setting} : Clean p (xs ++ ys) ↔ Clean p xs ∧ Clean p ys :=
  List.forall_mem_append

/-- A switch without a value carries no text. -/
theorem throughout_flag (o : Switch) : Throughout p (Setting.flag o).text := fun c hc => by
  cases hc

/-- A long option carries at most the value that was joined to it. -/
theorem clean_readLong {name : String} {joined : Option String} {reading : Reading}
    (hjoined : ∀ text ∈ joined, Throughout p text) (h : readLong name joined = .ok reading) :
    Clean p reading.settings := by
  unfold readLong at h
  cases hname : resolveLong name with
  | error fault =>
      rw [hname] at h
      cases h
  | ok o =>
      rw [hname] at h
      simp only at h
      -- the only text it may take is the joined one, which a flag does not take
      cases htakes : o.takesValue with
      | true =>
          cases joined with
          | some text =>
              rw [htakes] at h
              injection h with h
              rw [← h]
              exact clean_cons.mpr ⟨hjoined text rfl, clean_nil⟩
          | none =>
              rw [htakes] at h
              injection h with h
              rw [← h]
              exact clean_nil
      | false =>
          cases joined with
          | some text =>
              rw [htakes] at h
              cases h
          | none =>
              rw [htakes] at h
              simp only at h
              split at h
              · cases h
              · injection h with h
                rw [← h]
                exact clean_cons.mpr ⟨throughout_flag o, clean_nil⟩

/-- One more clean setting in front leaves a reading clean. -/
theorem clean_withSetting {s : Setting} (hs : Throughout p s.text) {reading : Reading}
    (h : Clean p reading.settings) : Clean p (reading.withSetting s).settings := by
  cases reading with
  | complete settings => exact clean_cons.mpr ⟨hs, h⟩
  | pending settings o spelling => exact clean_cons.mpr ⟨hs, h⟩
  | endOfOptions => exact h

/-- Of letters in one argument, the last option takes what is left of them as its value. -/
theorem clean_readLetters {letters : List Char} {reading : Reading} (hletters : ∀ c ∈ letters, p c)
    (h : readLetters letters = .ok reading) : Clean p reading.settings := by
  induction letters generalizing reading with
  | nil =>
      injection h with h
      rw [← h]
      exact clean_nil
  | cons c rest ih =>
      rw [List.forall_mem_cons] at hletters
      unfold readLetters at h
      cases hc : Switch.ofLetter? c with
      | none =>
          rw [hc] at h
          cases h
      | some o =>
          rw [hc] at h
          simp only at h
          -- help, an option that takes the rest as its value, or a flag before more letters
          split at h
          · cases h
          split at h
          · split at h
            · injection h with h
              rw [← h]
              exact clean_nil
            · injection h with h
              rw [← h]
              exact clean_cons.mpr ⟨throughout_ofList.mpr hletters.2, clean_nil⟩
          · obtain ⟨later, hlater, rfl⟩ := map_eq_ok h
            exact clean_withSetting (throughout_flag o) (ih hletters.2 hlater)

/-- A value that is split off a long option is a piece of its argument. -/
theorem throughout_splitValue {s : List Char} (hs : ∀ c ∈ s, p c) :
    ∀ text ∈ (splitValue s).2, Throughout p text := by
  intro text htext
  unfold splitValue at htext
  cases hrest : s.dropWhile (· != '=') with
  | nil =>
      rw [hrest] at htext
      cases htext
  | cons c value =>
      rw [hrest] at htext
      injection htext with htext
      rw [← htext, throughout_ofList]
      intro x hx
      apply hs x
      apply (List.dropWhile_sublist _).subset
      rw [hrest]
      exact List.mem_cons_of_mem c hx

/-- **An argument yields no characters but its own**, in whichever of its forms it is read. -/
theorem clean_readArgument {argument : String} {reading : Reading}
    (hargument : Throughout p argument) (h : readArgument argument = .ok reading) :
    Clean p reading.settings := by
  unfold readArgument at h
  -- the end of the options, a long option, letters, or a text of its own
  split at h
  · injection h with h
    rw [← h]
    exact clean_nil
  · next s hno hs =>
      have hlong : readLong (splitValue ('-' :: '-' :: s)).1 (splitValue ('-' :: '-' :: s)).2
          = .ok reading := h
      refine clean_readLong (throughout_splitValue ?_) hlong
      rw [← hs]
      exact hargument
  · next c s hnoEnd hnoLong hs =>
      unfold Throughout at hargument
      rw [hs, List.forall_mem_cons] at hargument
      exact clean_readLetters hargument.2 h
  · injection h with h
    rw [← h]
    exact clean_cons.mpr ⟨hargument, clean_nil⟩

/-! ## §2. The whole command line. -/

/-- **The texts of settings are pieces of the arguments.** -/
theorem clean_scan {argv : List String} {settings : List Setting}
    (hargv : ∀ argument ∈ argv, Throughout p argument) (h : scan argv = .ok settings) :
    Clean p settings := by
  induction argv using scan.induct generalizing settings with
  | case1 =>
      injection h with h
      rw [← h]
      exact clean_nil
  | case2 argument rest stop hread =>
      rw [scan, hread] at h
      cases h
  | case3 argument rest hread =>
      -- what follows the end of the options is taken as it stands
      rw [scan, hread] at h
      injection h with h
      rw [← h]
      exact List.forall_mem_map.mpr (List.forall_mem_cons.mp hargv).2
  | case4 argument rest own hread ih =>
      rw [List.forall_mem_cons] at hargv
      rw [scan, hread] at h
      obtain ⟨later, hlater, rfl⟩ := map_eq_ok h
      exact clean_append.mpr ⟨clean_readArgument hargv.1 hread, ih hargv.2 hlater⟩
  | case5 argument own o spelling hread =>
      rw [scan, hread] at h
      cases h
  | case6 argument own o spelling hread value rest ih =>
      rw [List.forall_mem_cons, List.forall_mem_cons] at hargv
      rw [scan, hread] at h
      obtain ⟨later, hlater, rfl⟩ := map_eq_ok h
      exact clean_append.mpr ⟨clean_readArgument hargv.1 hread,
        clean_cons.mpr ⟨hargv.2.1, ih hargv.2.2 hlater⟩⟩

/-! ## §3. The options of a run. -/

/-- The texts that were gathered as paths of the trace and of the map have the property
throughout. -/
structure Gathered.Clean (p : Char → Prop) (g : Gathered) : Prop where
  inputs : ∀ path ∈ g.inputs, Throughout p path
  positionals : ∀ path ∈ g.positionals, Throughout p path
  mapFile : Throughout p g.mapFile

/-- To begin with there are only the defaults, … -/
theorem Gathered.clean_nothing : ({} : Gathered).Clean p where
  inputs _ h := nomatch h
  positionals _ h := nomatch h
  mapFile _ h := nomatch h

/-- … to which a clean setting adds its own text, … -/
theorem Gathered.Clean.add {g : Gathered} (h : g.Clean p) {s : Setting} (hs : Throughout p s.text) :
    (g.add s).Clean p := by
  cases s with
  | flag o => cases o <;> exact ⟨h.inputs, h.positionals, h.mapFile⟩
  | positional text =>
      refine ⟨h.inputs, ?_, h.mapFile⟩
      exact List.forall_mem_append.mpr ⟨h.positionals, List.forall_mem_singleton.mpr hs⟩
  | value o text =>
      cases o with
      | input =>
          refine ⟨?_, h.positionals, h.mapFile⟩
          exact List.forall_mem_append.mpr ⟨h.inputs, List.forall_mem_singleton.mpr hs⟩
      | map => exact ⟨h.inputs, h.positionals, hs⟩
      | _ => exact ⟨h.inputs, h.positionals, h.mapFile⟩

/-- … and so do any number of them. -/
theorem Gathered.Clean.foldl {g : Gathered} (h : g.Clean p) {settings : List Setting}
    (hsettings : CommandLine.Clean p settings) : (settings.foldl Gathered.add g).Clean p := by
  induction settings generalizing g with
  | nil => exact h
  | cons s settings ih =>
      rw [clean_cons] at hsettings
      exact ih (h.add hsettings.1) hsettings.2

/-- An input is the default one, or a path that was given. -/
theorem Gathered.Clean.input {g : Gathered} (h : g.Clean p) {path : String}
    (hpath : g.input = .ok path) : path = defaultInput ∨ Throughout p path := by
  unfold Gathered.input at hpath
  split at hpath
  · cases hpath
  · cases hpath
  · cases hpath
  · next file hinputs _ =>
      injection hpath with hpath
      rw [← hpath]
      exact Or.inr (h.inputs file (by rw [hinputs]; exact List.mem_singleton_self file))
  · next file _ hpositionals =>
      injection hpath with hpath
      rw [← hpath]
      exact Or.inr (h.positionals file (by rw [hpositionals]; exact List.mem_singleton_self file))
  · injection hpath with hpath
    exact Or.inl hpath.symm

/-- **The paths of the map and of the trace are pieces of the arguments**, unless the trace is the
one that is read if none is named. -/
theorem paths_of_parse {argv : List String} {options : Options}
    (hargv : ∀ argument ∈ argv, Throughout p argument) (h : parse argv = .ok options) :
    Throughout p options.mapFile
      ∧ (options.inputFile = defaultInput ∨ Throughout p options.inputFile) := by
  unfold parse at h
  obtain ⟨settings, hscan, h⟩ := bind_eq_ok h
  cases hcheck : (Gathered.ofSettings settings).check with
  | error fault =>
      rw [hcheck] at h
      cases h
  | ok found =>
      rw [hcheck] at h
      injection h with h
      subst h
      have hclean : (Gathered.ofSettings settings).Clean p :=
        Gathered.clean_nothing.foldl (clean_scan hargv hscan)
      obtain ⟨hgathered, hinput, -, -⟩ := Gathered.check_eq_ok_iff.mp hcheck
      refine ⟨?_, hclean.input hinput⟩
      rw [hgathered]
      exact hclean.mapFile

end CommandLine

end SlabWaste
