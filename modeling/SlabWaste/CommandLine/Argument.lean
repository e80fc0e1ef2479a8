/-
  SlabWaste.CommandLine.Argument
  ──────────────────────────────
  **ARGUMENTS OF THE COMMAND LINE.**

  An option has a long name and mostly a letter.  The long name may be shortened
  as long as it fits one option only, and takes its value after an equals sign or
  from the next argument.  Letters may share a dash; the first that takes a value
  takes the rest of the argument, or the next one.  After -- all is positional,
  and a dash alone is positional too.

      scan argv      the settings that the arguments make, in order

  Arguments are read from the left, and the first that asks for help or is wrong
  ends the reading.
-/

namespace SlabWaste.CommandLine

/-! ## §1. Options. -/

/-- An option. -/
inductive Switch where
  | help
  | input
  | map
  | malloc
  | cache
  | accountFile
  | ringsFile
  | ringsShow
  | ringsMeasure
  | verbose
  deriving DecidableEq, Repr

namespace Switch

/-- The options. -/
def every : List Switch :=
  [ .help, .input, .map, .malloc, .cache, .accountFile, .ringsFile, .ringsShow, .ringsMeasure,
    .verbose ]

/-- The long name of an option, with its dashes. -/
def long : Switch → String
  | .help => "--help"
  | .input => "--input"
  | .map => "--map"
  | .malloc => "--malloc"
  | .cache => "--cache"
  | .accountFile => "--account-file"
  | .ringsFile => "--rings-file"
  | .ringsShow => "--rings-show"
  | .ringsMeasure => "--rings-attr"
  | .verbose => "--verbose"

/-- The letter of an option. -/
def letter? : Switch → Option Char
  | .help => some 'h'
  | .input => some 'i'
  | .map => some 'm'
  | .accountFile => some 'c'
  | .ringsFile => some 'r'
  | .ringsMeasure => some 'a'
  | .verbose => some 'v'
  | .malloc | .cache | .ringsShow => none

/-- The option takes a value. -/
def takesValue : Switch → Bool
  | .input | .map | .accountFile | .ringsFile | .ringsMeasure => true
  | _ => false

/-- The option of a letter. -/
def ofLetter? (c : Char) : Option Switch := every.find? (·.letter? == some c)

/-- The options whose long name begins with a text. -/
def beginningWith (s : String) : List Switch :=
  every.filter fun o => s.toList.isPrefixOf o.long.toList

end Switch

/-! ## §2. Faults. -/

/-- What is wrong with a command line. -/
inductive UsageFault where
  | noSuchOption (name : String)
  | ambiguous (name : String) (candidates : List String)
  | needsValue (name : String)
  | takesNoValue (name : String)
  | severalInputs
  | inputGivenTwice
  | familyGivenTwice
  | unknownMeasure (name : String)
  deriving DecidableEq, Repr

/-- What the user is told. -/
def UsageFault.message : UsageFault → String
  | .noSuchOption name => s!"no such option: {name}"
  | .ambiguous name candidates =>
      s!"ambiguous option: {name} (" ++ ", ".intercalate candidates ++ "?)"
  | .needsValue name => s!"{name} option requires 1 argument"
  | .takesNoValue name => s!"{name} option does not take a value"
  | .severalInputs => "Only one input for mem"
  | .inputGivenTwice => "Input given both with -i and as an argument"
  | .familyGivenTwice => "--malloc and --cache are mutually exclusive"
  | .unknownMeasure name => s!"{name} is not a valid --rings-attr option"

/-- Why there is nothing to run. -/
inductive Stop where
  | help
  | usage (fault : UsageFault)
  deriving DecidableEq, Repr

/-! ## §3. Single arguments. -/

/-- One setting that the command line makes. -/
inductive Setting where
  | flag (option : Switch)
  | value (option : Switch) (text : String)
  | positional (text : String)
  deriving DecidableEq, Repr

/-- What one argument comes to. -/
inductive Reading where
  /-- All that it sets. -/
  | complete (settings : List Setting)
  /-- What it sets, and an option, as it is spelt, whose value comes next. -/
  | pending (settings : List Setting) (option : Switch) (spelling : String)
  /-- The end of the options. -/
  | endOfOptions
  deriving DecidableEq, Repr

/-- A setting in front of what a reading sets. -/
def Reading.withSetting (s : Setting) : Reading → Reading
  | .complete settings => .complete (s :: settings)
  | .pending settings option spelling => .pending (s :: settings) option spelling
  | .endOfOptions => .endOfOptions

/-- The option that a long name or the beginning of one stands for. -/
def resolveLong (name : String) : Except UsageFault Switch :=
  match Switch.every.find? (·.long == name) with
  | some o => .ok o
  | none =>
      match Switch.beginningWith name with
      | [] => .error (.noSuchOption name)
      | [o] => .ok o
      | several =>
          .error (.ambiguous name ((several.map Switch.long).mergeSort fun a b => decide (a ≤ b)))

/-- Read a long option, given by its name and the value joined to it. -/
def readLong (name : String) (joined : Option String) : Except Stop Reading :=
  match resolveLong name with
  | .error fault => .error (.usage fault)
  | .ok o =>
      match o.takesValue, joined with
      | true, some text => .ok (.complete [.value o text])
      | true, none => .ok (.pending [] o o.long)
      | false, some _ => .error (.usage (.takesNoValue o.long))
      | false, none => if o = .help then .error .help else .ok (.complete [.flag o])

/-- Read letters that share a dash. -/
def readLetters : List Char → Except Stop Reading
  | [] => .ok (.complete [])
  | c :: rest =>
      match Switch.ofLetter? c with
      | none => .error (.usage (.noSuchOption (String.ofList ['-', c])))
      | some o =>
          if o = .help then .error .help
          else if o.takesValue then
            if rest.isEmpty then .ok (.pending [] o (String.ofList ['-', c]))
            else .ok (.complete [.value o (String.ofList rest)])
          else (readLetters rest).map (.withSetting (.flag o))

/-- Split a text at its first equals sign. -/
def splitValue (s : List Char) : String × Option String :=
  let name := String.ofList (s.takeWhile (· != '='))
  match s.dropWhile (· != '=') with
  | [] => (name, none)
  | _ :: text => (name, some (String.ofList text))

/-- Read one argument. -/
def readArgument (argument : String) : Except Stop Reading :=
  match argument.toList with
  | ['-', '-'] => .ok .endOfOptions
  | '-' :: '-' :: s =>
      let (name, joined) := splitValue ('-' :: '-' :: s)
      readLong name joined
  | '-' :: c :: s => readLetters (c :: s)
  | _ => .ok (.complete [.positional argument])

/-! ## §4. The whole command line. -/

/-- The settings that arguments make, in order. -/
def scan : List String → Except Stop (List Setting)
  | [] => .ok []
  | argument :: rest =>
      match readArgument argument with
      | .error stop => .error stop
      | .ok .endOfOptions => .ok (rest.map .positional)
      | .ok (.complete settings) => (scan rest).map (settings ++ ·)
      | .ok (.pending settings option spelling) =>
          match rest with
          | [] => .error (.usage (.needsValue spelling))
          | text :: rest => (scan rest).map fun later => settings ++ .value option text :: later

theorem scan_complete {argument : String} {settings : List Setting}
    (h : readArgument argument = .ok (.complete settings)) (rest : List String) :
    scan (argument :: rest) = (scan rest).map (settings ++ ·) := by
  rw [scan, h]

theorem scan_pending {argument spelling : String} {option : Switch}
    (h : readArgument argument = .ok (.pending [] option spelling)) (text : String)
    (rest : List String) :
    scan (argument :: text :: rest) = (scan rest).map (.value option text :: ·) := by
  rw [scan, h]
  rfl

end SlabWaste.CommandLine
