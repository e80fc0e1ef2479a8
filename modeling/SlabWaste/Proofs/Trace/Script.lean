/-
  SlabWaste.Proofs.Trace.Script
  ─────────────────────────────
  **TRACES WRITTEN FROM A SCRIPT.**

  A script says what happened: events, each with its CPU, its time and all that
  its line tells of it.  Its lines have the form in which the kernel prints them,

      bash-1402  [CPU] ....  TIME: NAME: call_site=… ptr=… …

  and a reader finds in each of them what the script said:

      line_eq              the line as a layout
      record_layout        the record that is kept
      interpret_record     the event
      load_script          the reader of a whole file
-/
import SlabWaste.Proofs.Event.Reading
import SlabWaste.Proofs.Text.Encoding
import SlabWaste.Proofs.Trace.Layout
import SlabWaste.Trace.Reader

namespace SlabWaste.Trace

open SlabWaste.Text

/-! ## §1. Items. -/

/-- What happened to a piece of memory. -/
inductive Action where
  | allocate (site : String) (requested granted : Nat)
  | release
  deriving DecidableEq, Repr

namespace Action

def kind : Action → Kind
  | .allocate _ _ _ => .alloc
  | .release => .free

/-- The call site has no blanks, and the numbers are short enough to be read. -/
def Written : Action → Prop
  | .allocate site requested granted =>
      Without isBlank site.toList ∧ Numeral.Short requested ∧ Numeral.Short granted
  | .release => True

instance : (a : Action) → Decidable a.Written
  | .allocate _ _ _ => inferInstanceAs (Decidable (_ ∧ _ ∧ _))
  | .release => inferInstanceAs (Decidable True)

end Action

/-- What a script says of one event, such that it can be written in a line. -/
structure Item where
  name : String
  cpu : Nat
  stamp : Stamp
  address : Nat
  action : Action
  /-- The name is that of an event that does just this. -/
  named : Family.all.kind? name = some action.kind
  cpu_short : Numeral.Short cpu
  stamp_written : stamp.Written
  action_written : action.Written

namespace Item

/-- The time as it is read. -/
def time (e : Item) : Binary64 := e.stamp.toBinary64

/-- The event. -/
def event (e : Item) : Event :=
  match e.action with
  | .allocate site requested granted => .allocate e.address (.text site) ⟨granted, requested⟩
  | .release => .release e.address

/-! ## §2. Lines. -/

/-- The fields of the line. -/
def fields (e : Item) : Fields :=
  match e.action with
  | .allocate site requested granted =>
      [("call_site", site), ("ptr", String.ofList (Nat.toDigits 16 e.address)),
        ("bytes_req", String.ofList (Nat.toDigits 10 requested)),
        ("bytes_alloc", String.ofList (Nat.toDigits 10 granted)), ("gfp_flags", "GFP_KERNEL")]
  | .release =>
      [("call_site", "ffffffff811a3000"), ("ptr", String.ofList (Nat.toDigits 16 e.address))]

theorem fields_allocate {e : Item} {site : String} {requested granted : Nat}
    (h : e.action = .allocate site requested granted) :
    e.fields = [("call_site", site), ("ptr", String.ofList (Nat.toDigits 16 e.address)),
      ("bytes_req", String.ofList (Nat.toDigits 10 requested)),
      ("bytes_alloc", String.ofList (Nat.toDigits 10 granted)), ("gfp_flags", "GFP_KERNEL")] := by
  unfold fields
  rw [h]

theorem fields_release {e : Item} (h : e.action = .release) :
    e.fields = [("call_site", "ffffffff811a3000"),
      ("ptr", String.ofList (Nat.toDigits 16 e.address))] := by
  unfold fields
  rw [h]

/-- The CPU, in three digits at least. -/
def cpuText (e : Item) : List Char :=
  List.replicate (3 - (Nat.toDigits 10 e.cpu).length) '0' ++ Nat.toDigits 10 e.cpu

/-- The name and the fields. -/
def body (e : Item) : List Char := e.name.toList ++ ": ".toList ++ fieldText e.fields

/-- The line. -/
def line (e : Item) : List Char :=
  "            bash-1402  [".toList ++ e.cpuText ++ "] ....  ".toList ++ e.stamp.text
    ++ ": ".toList ++ e.body ++ ['\n']

/-- An item at one of ten full seconds and on one of ten CPUs. -/
def atSecond (second cpu address : Nat) (action : Action) (written : action.Written) : Item where
  name := match action with
    | .allocate _ _ _ => "kmalloc"
    | .release => "kfree"
  cpu := cpu % 10
  stamp := ⟨[second % 10], [0, 0, 0, 0, 0, 0]⟩
  address := address
  action := action
  named := by cases action <;> rfl
  cpu_short := by
    have hdigits : ∀ d < 10, Numeral.Short d := by decide
    exact hdigits _ (Nat.mod_lt _ (by decide))
  stamp_written := by
    have hsecond : second % 10 < 10 := Nat.mod_lt _ (by decide)
    exact ⟨by simp, by simpa using hsecond, by simp, by simp⟩
  action_written := written

example :
    (atSecond 2 1 0x2000 (.allocate "__d_alloc+0x22/0x1a0" 192 192) (by decide)).line
      = ("            bash-1402  [001] ....  2.000000: kmalloc: call_site=__d_alloc+0x22/0x1a0 "
        ++ "ptr=2000 bytes_req=192 bytes_alloc=192 gfp_flags=GFP_KERNEL\n").toList := by
  decide +kernel

/-! ## §3. The pieces of a line. -/

/-- The names of events are words. -/
theorem name_word (e : Item) :
    e.name.toList ≠ [] ∧ Within isWord e.name.toList ∧ Without isBlank e.name.toList := by
  have hwords : ∀ x ∈ Family.all.events, x.1.toList ≠ []
      ∧ Within isWord x.1.toList ∧ Without isBlank x.1.toList := by decide
  exact hwords _ (Family.mem_events_of_kind? e.named)

/-- The digits of the CPU, with the zeros in front of them. -/
def cpuDigits (e : Item) : List Nat :=
  List.replicate (3 - (Nat.toDigits 10 e.cpu).length) 0 ++ Numeral.digitValues .ten e.cpu

/-- The CPU is written in digits. -/
theorem cpuText_eq_digitText (e : Item) : e.cpuText = digitText e.cpuDigits := by
  have hdigits : Nat.toDigits 10 e.cpu = digitText (Numeral.digitValues .ten e.cpu) :=
    Numeral.toDigits_eq_digitText .ten e.cpu
  unfold cpuText cpuDigits
  rw [digitText_append, ← hdigits]
  simp [digitText, Nat.digitChar]

theorem cpuDigits_ne_nil (e : Item) : e.cpuDigits ≠ [] := by
  unfold cpuDigits
  simp [Numeral.digitValues_ne_nil]

theorem cpuDigits_lt (e : Item) : ∀ d ∈ e.cpuDigits, d < 10 := by
  intro d hd
  rcases List.mem_append.mp hd with hd | hd
  · rw [List.eq_of_mem_replicate hd]
    decide
  · exact Numeral.digitValues_lt .ten e.cpu d hd

/-- The zeros in front make up three digits at most. -/
theorem length_cpuDigits_le (e : Item) : e.cpuDigits.length ≤ Numeral.digitLimit := by
  have hcpu := e.cpu_short.length_digitValues_le
  have hlimit : 3 ≤ Numeral.digitLimit := by decide
  have htext : (Nat.toDigits 10 e.cpu).length = (Numeral.digitValues .ten e.cpu).length := by
    rw [show Nat.toDigits 10 e.cpu = _ from Numeral.toDigits_eq_digitText .ten e.cpu]
    simp [digitText]
  unfold cpuDigits
  rw [List.length_append, List.length_replicate]
  omega

/-- Zeros in front do not change the number. -/
theorem value_cpuDigits (e : Item) : Numeral.value .ten e.cpuDigits = e.cpu := by
  unfold cpuDigits
  rw [Numeral.value_replicate_zero_append, Numeral.value_digitValues]

/-- Every key is a word, and no value has a blank. -/
theorem fields_written (e : Item) :
    ∀ f ∈ e.fields, f.1.toList ≠ [] ∧ Within isWord f.1.toList
      ∧ Without isBlank f.2.toList := by
  -- numbers are written in digits, and the other values are texts without blanks
  have hdecimal : ∀ n, Without isBlank (String.ofList (Nat.toDigits 10 n)).toList := by
    intro n
    rw [String.toList_ofList]
    exact Numeral.isBlank_toDigits .ten n
  have hptr : Without isBlank (String.ofList (Nat.toDigits 16 e.address)).toList := by
    rw [String.toList_ofList]
    exact Numeral.isBlank_toDigits .sixteen e.address
  have hwritten := e.action_written
  unfold fields
  cases haction : e.action with
  | allocate site requested granted =>
      rw [haction] at hwritten
      obtain ⟨hsite, -, -⟩ := hwritten
      simp only [List.forall_mem_cons]
      exact ⟨⟨by decide, by decide, hsite⟩, ⟨by decide, by decide, hptr⟩,
        ⟨by decide, by decide, hdecimal requested⟩, ⟨by decide, by decide, hdecimal granted⟩,
        ⟨by decide, by decide, by decide⟩, by simp⟩
  | release =>
      simp only [List.forall_mem_cons]
      exact ⟨⟨by decide, by decide, by decide⟩, ⟨by decide, by decide, hptr⟩, by simp⟩

theorem fields_ne_nil (e : Item) : e.fields ≠ [] := by
  unfold fields
  cases e.action with
  | allocate site requested granted => exact List.cons_ne_nil _ _
  | release => exact List.cons_ne_nil _ _

theorem nodup_keys (e : Item) : (e.fields.map (·.1)).Nodup := by
  unfold fields
  cases e.action with
  | allocate site requested granted =>
      show ["call_site", "ptr", "bytes_req", "bytes_alloc", "gfp_flags"].Nodup
      decide
  | release =>
      show ["call_site", "ptr"].Nodup
      decide

/-! ## §4. The line is read as written. -/

/-- An item is written in one line. -/
theorem isLine_line (e : Item) : IsLine e.line := by
  have hdigits : Inline e.cpuText := by
    apply inline_of_without
    rw [cpuText_eq_digitText]
    intro c hc
    obtain ⟨d, hd, rfl⟩ := List.mem_map.mp hc
    exact (digitChar_class (e.cpuDigits_lt d hd)).2.1
  have hstamp : Inline e.stamp.text := e.stamp_written.inline_text
  have hopen : Inline "            bash-1402  [".toList := by decide
  have hclose : Inline "] ....  ".toList := by decide
  have hcolon : Inline ": ".toList := by decide
  have hname : Inline e.name.toList := inline_of_without e.name_word.2.2
  have hfields : Inline (fieldText e.fields) :=
    inline_fieldText fun f hf => (e.fields_written f hf).2
  have hbody : Inline e.body := inline_append (inline_append hname hcolon) hfields
  refine ⟨_, rfl, ?_⟩
  exact inline_append (inline_append (inline_append (inline_append (inline_append hopen hdigits)
    hclose) hstamp) hcolon) hbody

/-- A field behind a blank. -/
def assignment (f : String × String) (h : f.1.toList ≠ [] ∧ Within isWord f.1.toList
    ∧ Without isBlank f.2.toList) : Assignment where
  gap := .space
  key := ⟨f.1.toList, h.1, h.2.1⟩
  value := f.2.toList
  value_token := h.2.2

/-- The fields, each behind a blank. -/
theorem flatMap_text_assignment {fs : List (String × String)} (hne : fs ≠ [])
    (h : ∀ x ∈ fs, x.1.toList ≠ [] ∧ Within isWord x.1.toList ∧ Without isBlank x.2.toList) :
    (fs.pmap assignment h).flatMap Assignment.text = ' ' :: fieldText fs := by
  induction fs with
  | nil => exact absurd rfl hne
  | cons f fs ih =>
      cases fs with
      | nil =>
          show (' ' :: (f.1.toList ++ '=' :: f.2.toList)) ++ [] = _
          rw [List.append_nil]
          rfl
      | cons g gs =>
          have hrest := ih (List.cons_ne_nil g gs) fun x hx => h x (List.mem_cons_of_mem f hx)
          rw [List.pmap_cons, List.flatMap_cons, hrest]
          show (' ' :: (f.1.toList ++ '=' :: f.2.toList)) ++ _
            = ' ' :: (f.1.toList ++ '=' :: (f.2.toList ++ ' ' :: fieldText (g :: gs)))
          simp

/-- As assignments they say what they say as fields. -/
theorem map_pair_assignment (fs : List (String × String))
    (h : ∀ x ∈ fs, x.1.toList ≠ [] ∧ Within isWord x.1.toList ∧ Without isBlank x.2.toList) :
    (fs.pmap assignment h).map Assignment.pair = fs := by
  rw [List.map_pmap]
  have hpair : ∀ (f : String × String) (hf : _), (assignment f hf).pair = f := by
    intro f hf
    show (String.ofList f.1.toList, String.ofList f.2.toList) = f
    rw [String.ofList_toList, String.ofList_toList]
  simp only [hpair, List.pmap_eq_map, List.map_id']

/-- What stands at each place of the line. -/
def layout (e : Item) : Layout where
  indent := List.replicate 12 ' '
  task := "bash".toList
  pid := ⟨"1402".toList, by decide, by decide⟩
  gap := ⟨[' ', ' '], by decide, by decide⟩
  group := none
  cpu := .ofValues e.cpuDigits e.cpuDigits_ne_nil e.cpuDigits_lt
  space := .space
  flags := [⟨⟨"....".toList, by decide, by decide⟩, ⟨[' ', ' '], by decide, by decide⟩,
    not_beginsWithTime (by decide)⟩]
  whole := .ofValues e.stamp.whole e.stamp_written.whole_ne e.stamp_written.whole_lt
  fraction := .ofValues e.stamp.fraction e.stamp_written.fraction_ne e.stamp_written.fraction_lt
  pause := [' ']
  system := none
  event := ⟨e.name.toList, e.name_word.1, e.name_word.2.1⟩
  assignments := e.fields.pmap assignment e.fields_written
  trail := []

/-- The text of the fields in the layout. -/
theorem fieldsText_layout (e : Item) : e.layout.fieldsText = ' ' :: fieldText e.fields := by
  show (e.fields.pmap assignment e.fields_written).flatMap Assignment.text ++ [] = _
  rw [List.append_nil, flatMap_text_assignment e.fields_ne_nil]

/-- **The line is one of a layout that readers know**, … -/
theorem line_eq (e : Item) : e.line = e.layout.line ++ ['\n'] := by
  have hbody : e.layout.body = e.body := by
    show [] ++ (e.name.toList ++ ':' :: e.layout.fieldsText) = _
    rw [fieldsText_layout]
    unfold body
    simp
  unfold line Layout.line Layout.located Layout.timed Stamp.text
  rw [hbody, cpuText_eq_digitText]
  simp only [List.append_assoc, List.cons_append]
  rfl

/-- … and it is written as it should be. -/
theorem layout_written (e : Item) : e.layout.Written where
  indent_blank := (by decide : Within isBlank (List.replicate 12 ' '))
  task_ne := (by decide : "bash".toList ≠ [])
  task_start := (by decide : Ends isBlank "bash".toList)
  task_end := (by decide : Ends isBlank "bash".toList.reverse)
  task_bracket := (by decide : '[' ∉ "bash".toList)
  pid_short := (by decide : "1402".toList.length ≤ Numeral.digitLimit)
  cpu_short := by
    show (digitText e.cpuDigits).length ≤ _
    unfold digitText
    rw [List.length_map]
    exact e.length_cpuDigits_le
  pause_blank := (by decide : Within isBlank [' '])
  trail_blank := (by decide : Within isBlank [])
  fields_apart := by
    intro hnil
    exact absurd (List.pmap_eq_nil_iff.mp hnil) e.fields_ne_nil
  no_header := (by decide : some ' ' ≠ some '#')
  one_line := by
    obtain ⟨body, hline, hinline⟩ := e.isLine_line
    rw [line_eq] at hline
    intro hmem
    rw [List.append_cancel_right hline] at hmem
    exact (hinline _ hmem).1 rfl

/-! ## §5. Records and events. -/

/-- The record that is kept of the line, at a place in the file. -/
def record (e : Item) (seq : Nat) : Record where
  event := e.name
  fields := e.fields
  cpu := e.cpu
  timestamp := e.time
  task := "bash"
  pid := 1402
  seq := seq

/-- **A reader finds in a line what the script said.** -/
theorem record_layout (e : Item) (seq : Nat) : e.layout.record seq = e.record seq := by
  have hevent : String.ofList e.layout.event.text = e.name := String.ofList_toList
  have hfields : Fields.ofAssignments (e.layout.assignments.map Assignment.pair) = e.fields := by
    show Fields.ofAssignments ((e.fields.pmap assignment e.fields_written).map _) = _
    rw [map_pair_assignment, Fields.ofAssignments_of_nodup e.nodup_keys]
  have hcpu : number e.layout.cpu = e.cpu := by
    show Numeral.value .ten ((digitText e.cpuDigits).filterMap digitValue?) = _
    rw [filterMap_digitValue?_digitText e.cpuDigits_lt, value_cpuDigits]
  have hstamp : Stamp.ofPieces e.layout.whole e.layout.fraction = e.stamp := by
    show (⟨(digitText e.stamp.whole).filterMap digitValue?,
      (digitText e.stamp.fraction).filterMap digitValue?⟩ : Stamp) = _
    rw [filterMap_digitValue?_digitText e.stamp_written.whole_lt,
      filterMap_digitValue?_digitText e.stamp_written.fraction_lt]
  unfold Layout.record
  rw [hevent, hfields, hcpu, hstamp]
  rfl

/-- **The record is read as the event of the script.** -/
theorem interpret_record (e : Item) (seq : Nat) :
    interpret .all (e.record seq).toRawEvent = .event e.event := by
  have hwritten := e.action_written
  have haddress := readAddress_hexadecimal e.address
  -- the fields that the kind asks for are there, each written from the number it is read as
  have hunderstand : (e.record seq).toRawEvent.understand e.action.kind = .ok e.event := by
    cases haction : e.action with
    | allocate site requested granted =>
        rw [haction] at hwritten
        obtain ⟨-, hrequested, hgranted⟩ := hwritten
        have hevent : e.event = .allocate e.address (.text site) ⟨granted, requested⟩ := by
          unfold event
          rw [haction]
        rw [hevent]
        have hfields : (e.record seq).fields = _ := fields_allocate haction
        refine RawEvent.understand_alloc ?_ haddress ?_ ?_ (Numeral.read_decimal hrequested) ?_
          (Numeral.read_decimal hgranted)
        all_goals
          rw [hfields]
          rfl
    | release =>
        have hevent : e.event = .release e.address := by
          unfold event
          rw [haction]
        rw [hevent]
        have hfields : (e.record seq).fields = _ := fields_release haction
        refine RawEvent.understand_free ?_ haddress
        rw [hfields]
        rfl
  exact interpret_of_understand e.named hunderstand

end Item

/-! ## §6. Whole files. -/

/-- The records of the lines of a script, from a place in the file on. -/
def placed : Nat → List Item → List Record
  | _, [] => []
  | n, e :: es => e.record n :: placed (n + 1) es

/-- A reader keeps the record of the line. -/
theorem step_line {r : Reader} (hkeeps : r.keeps = Family.all.eventNames) (e : Item) :
    r.step (.ofText e.line)
      = ({ r with seen := r.seen + 1, kept := e.record r.seen :: r.kept },
          .ok (some (e.record r.seen))) := by
  have hkept : r.keeps.contains (String.ofList e.layout.event.text) = true := by
    show r.keeps.contains (String.ofList e.name.toList) = true
    rw [String.ofList_toList, hkeeps, List.contains_iff_mem]
    exact Family.mem_eventNames_of_kind? e.named
  rw [e.line_eq, Layout.step_line e.layout_written (Or.inr rfl), if_pos hkept, e.record_layout]

/-- **A reader keeps the records of all lines**, in the order of the file. -/
theorem steps_lines {r : Reader} (hkeeps : r.keeps = Family.all.eventNames) (es : List Item) :
    r.steps (es.map fun e => .ofText e.line)
      = ({ r with seen := r.seen + es.length, kept := (placed r.seen es).reverse ++ r.kept },
          none) := by
  induction es generalizing r with
  | nil => rfl
  | cons e es ih =>
      rw [List.map_cons, Reader.steps, step_line hkeeps e]
      show Reader.steps { r with seen := r.seen + 1, kept := e.record r.seen :: r.kept } _ = _
      rw [ih (r := { r with seen := r.seen + 1, kept := e.record r.seen :: r.kept }) hkeeps]
      simp only [placed, List.reverse_cons, List.append_assoc, List.singleton_append,
        List.length_cons, Nat.add_assoc, Nat.add_comm 1]

/-- The reader of a script. -/
def scriptRead (es : List Item) : Reader where
  keeps := Family.all.eventNames
  seen := es.length
  kept := (placed 0 es).reverse

/-- In the file, the records stand as in the script. -/
theorem inFileOrder_scriptRead (es : List Item) : (scriptRead es).inFileOrder = placed 0 es :=
  List.reverse_reverse _

/-- A file that is put together from lines has just these. -/
theorem linesOf_encode {ls : List (List Char)} (h : ∀ line ∈ ls, IsLine line) :
    linesOf (Utf8.encode ls.flatten) = ls.map Line.ofText := by
  unfold linesOf
  rw [Utf8.decodeLossy_encode, lines_flatten h]

/-- The items of a script are written in lines. -/
theorem isLine_of_mem {es : List Item} {line : List Char} (h : line ∈ es.map Item.line) :
    IsLine line := by
  obtain ⟨e, -, rfl⟩ := List.mem_map.mp h
  exact e.isLine_line

/-- **A file that is written from a script is read**, and its records are those of the script. -/
theorem load_script {fs : FileSystem} {path : String} {es : List Item} (hne : es ≠ [])
    (hread : fs.read path = .ok (Utf8.encode (es.flatMap Item.line))) :
    load fs path Family.all.eventNames = .ok (scriptRead es) := by
  have hlines : linesOf (Utf8.encode (es.flatMap Item.line))
      = es.map fun e => .ofText e.line := by
    rw [List.flatMap_def, linesOf_encode fun line hline => isLine_of_mem hline, List.map_map,
      Function.comp_def]
  have hsteps : Reader.steps { keeps := Family.all.eventNames }
      (linesOf (Utf8.encode (es.flatMap Item.line))) = (scriptRead es, none) := by
    rw [hlines, steps_lines rfl]
    simp [scriptRead]
  have hseen : (scriptRead es).seen ≠ 0 := by
    show es.length ≠ 0
    simpa using hne
  -- the first byte is that of a blank
  have hbinary : binaryMark.isPrefixOf (Utf8.encode (es.flatMap Item.line)) = false := by
    cases es with
    | nil => exact absurd rfl hne
    | cons e es =>
        rw [List.flatMap_cons, e.line_eq]
        rfl
  exact load_eq_ok_iff.mpr ⟨_, hread, hbinary, hsteps, hseen⟩

end SlabWaste.Trace
