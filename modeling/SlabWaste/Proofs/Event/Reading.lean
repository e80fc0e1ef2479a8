/-
  SlabWaste.Proofs.Event.Reading
  ──────────────────────────────
  **EVENTS ARE READ FROM THEIR FIELDS.**

      ofAssignments_of_nodup    assignments to different keys are the fields
      lookup_ofAssignments      of those to one key the last one counts
      readAddress_hexadecimal   an address in hexadecimal reads as itself
      understand_alloc          what an allocation says
      understand_free           what a release says
-/
import Mathlib.Data.List.Induction
import Mathlib.Data.List.Nodup
import SlabWaste.Event.Record
import SlabWaste.Proofs.Number.Printed

namespace SlabWaste

/-! ## §1. Names. -/

/-- A name that has a kind is one of the family's, with this kind. -/
theorem Family.mem_events_of_kind? {family : Family} {name : String} {kind : Kind}
    (h : family.kind? name = some kind) : (name, kind) ∈ family.events := by
  obtain ⟨before, after, hevents, -⟩ := List.lookup_eq_some_iff.mp h
  rw [hevents]
  simp

theorem Family.mem_eventNames_of_kind? {family : Family} {name : String} {kind : Kind}
    (h : family.kind? name = some kind) : name ∈ family.eventNames :=
  List.mem_map.mpr ⟨(name, kind), Family.mem_events_of_kind? h, rfl⟩

/-! ## §2. Fields. -/

namespace Fields

/-- A new key joins at the end. -/
theorem set_of_not_mem {key value : String} {fields : Fields}
    (h : key ∉ fields.map (·.1)) : set key value fields = fields ++ [(key, value)] := by
  induction fields with
  | nil => rfl
  | cons f rest ih =>
      simp only [List.map_cons, List.mem_cons, not_or] at h
      show (if f.1 = key then (key, value) :: rest else f :: set key value rest) = _
      rw [if_neg fun he => h.1 he.symm, ih h.2]
      rfl

/-- Keys that are new and differ from each other stand in the order in which they came. -/
theorem foldl_set_of_nodup {xs : List (String × String)} (fields : Fields)
    (h : ((fields ++ xs).map (·.1)).Nodup) :
    xs.foldl (fun fields x => set x.1 x.2 fields) fields = fields ++ xs := by
  induction xs generalizing fields with
  | nil => simp
  | cons x xs ih =>
      have hnew : x.1 ∉ fields.map (·.1) := by
        intro hmem
        rw [List.map_append, List.nodup_append] at h
        exact h.2.2 x.1 hmem x.1 (by simp) rfl
      rw [List.foldl_cons, set_of_not_mem hnew, ih (fields ++ [(x.1, x.2)]) (by simpa using h)]
      simp

/-- Assignments to different keys are fields as they stand. -/
theorem ofAssignments_of_nodup {xs : List (String × String)} (h : (xs.map (·.1)).Nodup) :
    ofAssignments xs = xs :=
  foldl_set_of_nodup [] h

theorem lookup_cons_eq (x : String) (f : String × String) (fields : List (String × String)) :
    (f :: fields).lookup x = if x = f.1 then some f.2 else fields.lookup x := by
  obtain ⟨key, value⟩ := f
  rw [List.lookup_cons]
  by_cases h : x = key
  · rw [if_pos h, beq_iff_eq.mpr h]
  · rw [if_neg h, beq_false_of_ne h]

/-- A key that is set has its new value, and the others keep theirs. -/
theorem lookup_set (key value : String) (fields : Fields) (x : String) :
    (set key value fields).lookup x = if x = key then some value else fields.lookup x := by
  induction fields with
  | nil => exact lookup_cons_eq x (key, value) []
  | cons f rest ih =>
      show (if f.1 = key then (key, value) :: rest else f :: set key value rest).lookup x = _
      -- either this is the field that is replaced, or it stays and the key is looked for further on
      by_cases hf : f.1 = key
      · rw [if_pos hf, lookup_cons_eq, lookup_cons_eq, hf]
        by_cases hx : x = key
        · rw [if_pos hx, if_pos hx]
        · rw [if_neg hx, if_neg hx, if_neg hx]
      · rw [if_neg hf, lookup_cons_eq, lookup_cons_eq, ih]
        by_cases hx : x = f.1
        · have hkey : x ≠ key := fun heq => hf (hx.symm.trans heq)
          rw [if_pos hx, if_neg hkey, if_pos hx]
        · rw [if_neg hx, if_neg hx]

/-- Setting a field leaves the keys as they are, but for a new one at the end. -/
theorem map_fst_set (key value : String) (fields : Fields) :
    (set key value fields).map (·.1)
      = if key ∈ fields.map (·.1) then fields.map (·.1) else fields.map (·.1) ++ [key] := by
  by_cases hkey : key ∈ fields.map (·.1)
  · rw [if_pos hkey]
    induction fields with
    | nil => cases hkey
    | cons f rest ih =>
        show ((if f.1 = key then (key, value) :: rest else f :: set key value rest)).map (·.1) = _
        by_cases hf : f.1 = key
        · rw [if_pos hf, List.map_cons, List.map_cons, hf]
        · rw [if_neg hf, List.map_cons, List.map_cons]
          rcases List.mem_cons.mp hkey with heq | hmem
          · exact absurd heq.symm hf
          · rw [ih hmem]
  · rw [if_neg hkey, set_of_not_mem hkey, List.map_append]
    rfl

/-- Setting a key twice does not list it twice. -/
theorem nodup_set (key value : String) {fields : Fields} (h : (fields.map (·.1)).Nodup) :
    ((set key value fields).map (·.1)).Nodup := by
  rw [map_fst_set]
  split
  · exact h
  · next hkey =>
      rw [List.nodup_append]
      refine ⟨h, List.nodup_singleton _, ?_⟩
      intro a ha b hb heq
      rw [heq, List.mem_singleton.mp hb] at ha
      exact hkey ha

/-- Of several assignments to a key the last one counts. -/
theorem lookup_ofAssignments (xs : List (String × String)) (key : String) :
    (ofAssignments xs).lookup key = xs.reverse.lookup key := by
  induction xs using List.reverseRecOn with
  | nil => rfl
  | append_singleton xs x ih =>
      have hset : ofAssignments (xs ++ [x]) = set x.1 x.2 (ofAssignments xs) := by
        unfold ofAssignments
        rw [List.foldl_append]
        rfl
      rw [hset, lookup_set, ih, List.reverse_append, List.reverse_singleton,
        List.singleton_append, lookup_cons_eq]

/-- **No key is listed twice**, however often a line assigns it. -/
theorem nodup_ofAssignments (xs : List (String × String)) :
    ((ofAssignments xs).map (·.1)).Nodup := by
  have hall : ∀ fields : Fields, (fields.map (·.1)).Nodup →
      ((xs.foldl (fun fields x => set x.1 x.2 fields) fields).map (·.1)).Nodup := by
    induction xs with
    | nil => exact fun _ h => h
    | cons x xs ih => exact fun fields h => ih _ (nodup_set x.1 x.2 h)
  exact hall [] List.nodup_nil

end Fields

/-! ## §3. Numbers. -/

/-- An address that is written in base sixteen is read back. -/
theorem readAddress_hexadecimal (n : Nat) :
    readAddress (String.ofList (Nat.toDigits 16 n)) = .ok n := by
  -- the spelling of the null address has a character that is no digit
  have hnull : String.ofList (Nat.toDigits 16 n) ≠ "(null)" := by
    intro heq
    have hparen : '(' ∈ Nat.toDigits 16 n := by
      rw [← String.toList_ofList (l := Nat.toDigits 16 n), heq]
      decide
    rw [show Nat.toDigits 16 n = Text.digitText (Numeral.digitValues .sixteen n) from
      Numeral.toDigits_eq_digitText .sixteen n] at hparen
    obtain ⟨d, hd, hdparen⟩ := List.mem_map.mp hparen
    have hlt : d < 16 := Numeral.digitValues_lt .sixteen n d hd
    exact Numeral.digitChar_ne hlt (by decide) hdparen
  unfold readAddress
  rw [if_neg hnull]
  exact Numeral.read_hexadecimal n

namespace RawEvent

/-- A field that is there and can be read is a number. -/
theorem number_of_lookup {raw : RawEvent} {key s : String} {n : Int}
    {read : String → Except Numeral.Fault Int} (hfield : raw.fields.lookup key = some s)
    (hread : read s = .ok n) : raw.number key read = .ok n := by
  unfold number field
  rw [hfield]
  show (read s).mapError Malformed.notNumber = _
  rw [hread]
  rfl

/-! ## §4. Events. -/

/-- An allocation is understood from its four fields, wherever they stand. -/
theorem understand_alloc {raw : RawEvent} {ptr site req alloc : String}
    {address requested granted : Int}
    (hptr : raw.fields.lookup "ptr" = some ptr) (haddress : readAddress ptr = .ok address)
    (hsite : raw.fields.lookup "call_site" = some site)
    (hreq : raw.fields.lookup "bytes_req" = some req)
    (hrequested : Numeral.read .ten req = .ok requested)
    (halloc : raw.fields.lookup "bytes_alloc" = some alloc)
    (hgranted : Numeral.read .ten alloc = .ok granted) :
    raw.understand .alloc = .ok (.allocate address (.text site) ⟨granted, requested⟩) := by
  have h₁ := number_of_lookup hptr haddress
  have h₂ : raw.field "call_site" = .ok site := by
    unfold field
    rw [hsite]
  have h₃ := number_of_lookup hreq hrequested
  have h₄ := number_of_lookup halloc hgranted
  unfold understand
  simp only [h₁, h₂, h₃, h₄, bind, Except.bind]

/-- A release is understood from its address. -/
theorem understand_free {raw : RawEvent} {ptr : String} {address : Int}
    (hptr : raw.fields.lookup "ptr" = some ptr) (haddress : readAddress ptr = .ok address) :
    raw.understand .free = .ok (.release address) := by
  have h := number_of_lookup hptr haddress
  unfold understand
  simp only [h, bind, Except.bind]

end RawEvent

/-- What is understood of a record of a known kind is its event. -/
theorem interpret_of_understand {family : Family} {raw : RawEvent} {kind : Kind} {e : Event}
    (hkind : family.kind? raw.event = some kind) (hunderstand : raw.understand kind = .ok e) :
    interpret family raw = .event e := by
  unfold interpret
  simp only [hkind, hunderstand]

end SlabWaste
