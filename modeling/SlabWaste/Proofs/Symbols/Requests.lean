/-
  SlabWaste.Proofs.Symbols.Requests
  ─────────────────────────────────
  **A MEMO SERVES AS ITS LAST TABLE WOULD.**

  A memo is asked to load maps, to look up addresses and to name callers, in any
  order.  Beside it stands a table that remembers nothing: it changes when a map
  is loaded, and searches its symbols anew for every question.  Nobody can tell
  the two apart.

      load_eq_ok_iff         which maps can be loaded
      replies_eq             all replies are those of the bare table
      lookup_after           what the memo says of an address after any requests
-/
import SlabWaste.Proofs.Symbols.Answers
import SlabWaste.Proofs.Symbols.Search
import SlabWaste.Proofs.Text.Decoding
import SlabWaste.Symbols.Load

namespace SlabWaste.Symbols

open SlabWaste.Text

/-! ## §1. Loading. -/

/-- Bytes make a table just if they are a text, and then it is that of the text. -/
theorem Table.ofBytes?_eq_some_iff {bytes : List UInt8} {table : Table} :
    ofBytes? bytes = some table ↔ ∃ text, bytes = Utf8.encode text ∧ table = ofText text := by
  unfold ofBytes?
  rw [Option.map_eq_some_iff]
  constructor
  · rintro ⟨text, htext, rfl⟩
    exact ⟨text, Utf8.encode_of_decode? htext, rfl⟩
  · rintro ⟨text, hbytes, rfl⟩
    exact ⟨text, Utf8.decode?_eq_some_iff.mpr hbytes, rfl⟩

/-- A map can be loaded if its file can be read and is the encoding of a text. -/
theorem load_eq_ok_iff {fs : FileSystem} {path : String} {table : Table} :
    load fs path = .ok table
      ↔ ∃ text, fs.read path = .ok (Utf8.encode text) ∧ table = .ofText text := by
  unfold load
  cases hread : fs.read path with
  | error why => simp
  | ok bytes =>
      -- a table comes of these bytes just when they are the encoding of a text
      have hbytes := @Table.ofBytes?_eq_some_iff bytes
      cases hfound : Table.ofBytes? bytes with
      | none =>
          simp only [hfound, Except.ok.injEq]
          constructor
          · intro h
            cases h
          · intro h
            rw [hbytes.mpr h] at hfound
            cases hfound
      | some found =>
          simp only [hfound, Except.ok.injEq]
          rw [← hbytes, hfound, Option.some.injEq]

/-- A table that was loaded is in order. -/
theorem sorted_of_load {fs : FileSystem} {path : String} {table : Table}
    (h : load fs path = .ok table) : table.Sorted := by
  obtain ⟨text, -, rfl⟩ := load_eq_ok_iff.mp h
  exact Table.sorted_ofSymbols _

/-! ## §2. Requests. -/

/-- What can be asked of a symbol table. -/
inductive Request where
  /-- Put another map in its place. -/
  | load (fs : FileSystem) (path : String)
  | lookup (address : Int)
  | find (site : CallSite)

/-- What comes back. -/
inductive Reply where
  | loaded (result : Except Fault Unit)
  | symbol (name : Option String)
  | caller (name : String)

/-- The reply of a memo, and the memo after it. -/
def Memo.serve (m : Memo) : Request → Reply × Memo
  | .load fs path => (.loaded (m.reload fs path).1, (m.reload fs path).2)
  | .lookup a => (.symbol (m.lookup a).1, (m.lookup a).2)
  | .find site => (.caller (m.caller site).1, (m.caller site).2)

/-- The memo after one request after the other. -/
def Memo.after (m : Memo) (qs : List Request) : Memo := qs.foldl (fun m q => (m.serve q).2) m

/-- The replies of a memo to one request after the other. -/
def Memo.replies (m : Memo) : List Request → List Reply
  | [] => []
  | q :: qs => (m.serve q).1 :: replies (m.serve q).2 qs

/-- The reply of a table that is searched anew, and the table after it: another one only if a map
was loaded. -/
def Table.serve (t : Table) : Request → Reply × Table
  | .load fs path =>
      match load fs path with
      | .ok table => (.loaded (.ok ()), table)
      | .error fault => (.loaded (.error fault), t)
  | .lookup a => (.symbol (t.lookup a), t)
  | .find site => (.caller (t.caller site), t)

/-- The table of the last map that was loaded. -/
def Table.after (t : Table) (qs : List Request) : Table := qs.foldl (fun t q => (t.serve q).2) t

/-- The replies of a table to one request after the other. -/
def Table.replies (t : Table) : List Request → List Reply
  | [] => []
  | q :: qs => (t.serve q).1 :: replies (t.serve q).2 qs

/-! ## §3. Serving. -/

/-- Another map makes a new start, with nothing remembered. -/
theorem Memo.reload_of_ok {fs : FileSystem} {path : String} {table : Table}
    (h : Symbols.load fs path = .ok table) (m : Memo) :
    m.reload fs path = (.ok (), .fresh table) := by
  unfold reload
  rw [h]

/-- A map that cannot be loaded leaves all as it is. -/
theorem Memo.reload_of_error {fs : FileSystem} {path : String} {fault : Fault}
    (h : Symbols.load fs path = .error fault) (m : Memo) :
    m.reload fs path = (.error fault, m) := by
  unfold reload
  rw [h]

/-- To load a map replaces the table, … -/
theorem Table.serve_load_of_ok {fs : FileSystem} {path : String} {table : Table}
    (h : Symbols.load fs path = .ok table) (t : Table) :
    t.serve (.load fs path) = (.loaded (.ok ()), table) := by
  unfold serve
  simp only [h]

/-- … and a map that cannot be loaded leaves it as it is. -/
theorem Table.serve_load_of_error {fs : FileSystem} {path : String} {fault : Fault}
    (h : Symbols.load fs path = .error fault) (t : Table) :
    t.serve (.load fs path) = (.loaded (.error fault), t) := by
  unfold serve
  simp only [h]

/-- One request: the memo replies as its table would, stays sound, and has the table that the bare
one then is. -/
theorem Memo.Sound.serve {m : Memo} (h : m.Sound) (q : Request) :
    (m.serve q).1 = (m.table.serve q).1 ∧ (m.serve q).2.Sound
      ∧ (m.serve q).2.table = (m.table.serve q).2 := by
  -- a load begins with nothing remembered or changes nothing, an answer is the table's own
  cases q with
  | load fs path =>
      show Reply.loaded (m.reload fs path).1 = _ ∧ (m.reload fs path).2.Sound
        ∧ (m.reload fs path).2.table = _
      cases hload : Symbols.load fs path with
      | ok table =>
          rw [m.reload_of_ok hload, Table.serve_load_of_ok hload]
          exact ⟨rfl, sound_fresh table, rfl⟩
      | error fault =>
          rw [m.reload_of_error hload, Table.serve_load_of_error hload]
          exact ⟨rfl, h, rfl⟩
  | lookup a => exact ⟨congrArg Reply.symbol (h.lookup_fst a), h.lookup_snd a, m.table_lookup_snd a⟩
  | find site =>
      exact ⟨congrArg Reply.caller (h.caller_fst site), h.caller_snd site,
        m.table_caller_snd site⟩

/-- After any requests a sound memo is sound, with the table that the bare one then is. -/
theorem Memo.Sound.after {m : Memo} (h : m.Sound) (qs : List Request) :
    (m.after qs).Sound ∧ (m.after qs).table = m.table.after qs := by
  induction qs generalizing m with
  | nil => exact ⟨h, rfl⟩
  | cons q qs ih =>
      obtain ⟨-, hsound, htable⟩ := h.serve q
      obtain ⟨hsound', htable'⟩ := ih hsound
      refine ⟨hsound', ?_⟩
      show ((m.serve q).2.after qs).table = (m.table.serve q).2.after qs
      rw [htable', htable]

/-- **What is remembered is never seen**: all replies are those of the bare table. -/
theorem Memo.Sound.replies_eq {m : Memo} (h : m.Sound) (qs : List Request) :
    m.replies qs = m.table.replies qs := by
  induction qs generalizing m with
  | nil => rfl
  | cons q qs ih =>
      obtain ⟨hreply, hsound, htable⟩ := h.serve q
      show (m.serve q).1 :: (m.serve q).2.replies qs
        = (m.table.serve q).1 :: (m.table.serve q).2.replies qs
      rw [hreply, ih hsound, htable]

/-- Every table that comes to be used is in order. -/
theorem Table.Sorted.after {t : Table} (h : t.Sorted) (qs : List Request) :
    (t.after qs).Sorted := by
  induction qs generalizing t with
  | nil => exact h
  | cons q qs ih =>
      apply ih
      show (t.serve q).2.Sorted
      cases q with
      | load fs path =>
          cases hload : Symbols.load fs path with
          | ok table =>
              rw [Table.serve_load_of_ok hload]
              exact sorted_of_load hload
          | error fault =>
              rw [Table.serve_load_of_error hload]
              exact h
      | lookup a => exact h
      | find site => exact h

/-! ## §4. Whatever was asked before. -/

/-- **What a memo says after any requests**, loads that failed among them:
* its replies to what is asked next are those of the last table loaded, searched anew;
* an address gets no name just when that table has no symbol, or the address lies below its least
  address or above its greatest;
* any other address gets the name of the symbol closest to it, the greatest name if there are
  several;
* a map that is the encoding of a text is loaded, and with it nothing is remembered yet;
* a map whose file cannot be read, or is no such encoding, is not loaded, and the memo stays as it
  is, with all it remembers. -/
theorem Memo.lookup_after (before : List Request) :
    let m := ({} : Memo).after before
    let t := ({} : Table).after before
    m.table = t ∧ (∀ later, m.replies later = t.replies later)
      ∧ (∀ a, (m.lookup a).1 = none ↔ t.Outside a)
      ∧ (∀ a name, (m.lookup a).1 = some name
          ↔ ¬ t.Outside a ∧ ∃ s, t.Closest a s ∧ s.name = name)
      ∧ (∀ fs path text, fs.read path = .ok (Utf8.encode text) →
          m.reload fs path = (.ok (), .fresh (.ofText text)))
      ∧ ∀ fs path, (∀ text, fs.read path ≠ .ok (Utf8.encode text)) →
          ∃ fault, m.reload fs path = (.error fault, m) := by
  intro m t
  have hstart : ({} : Memo).Sound := sound_fresh {}
  obtain ⟨hsound, htable⟩ := hstart.after before
  have hsorted : t.Sorted := Table.sorted_empty.after before
  -- what is remembered never shows, so the rest is about the table
  have hlookup : ∀ a, (m.lookup a).1 = t.lookup a := by
    intro a
    rw [hsound.lookup_fst]
    exact congrArg (Table.lookup · a) htable
  refine ⟨htable, ?_, ?_, ?_, ?_, ?_⟩
  · intro later
    rw [hsound.replies_eq]
    exact congrArg (Table.replies · later) htable
  · intro a
    rw [hlookup, hsorted.lookup_eq_none_iff]
  · intro a name
    rw [hlookup, hsorted.lookup_eq_some_iff]
  · intro fs path text hread
    exact m.reload_of_ok (load_eq_ok_iff.mpr ⟨text, hread, rfl⟩)
  · intro fs path hread
    cases hload : Symbols.load fs path with
    | ok table =>
        obtain ⟨text, htext, -⟩ := load_eq_ok_iff.mp hload
        exact absurd htext (hread text)
    | error fault => exact ⟨fault, m.reload_of_error hload⟩

/-- A map with two names for one address. -/
def twoNames : List Char :=
  "1010 T sys_read\n1000 t .sys_open\n1010 t sys_creat\n1020 W end\n".toList

/-- The map, and any other file, which is not text. -/
def twoNamesFile : FileSystem where
  read path := if path = "System.map" then .ok (Utf8.encode twoNames) else .ok [0x31, 0xFF]
  refusal? _ := none

/-- Of two names at one address the greater one is given, and below the first symbol there is none.
A load that fails leaves the answers as they are. -/
theorem Memo.lookup_twoNames :
    let m := ({} : Memo).after [.load twoNamesFile "System.map", .lookup 0x1015]
    (m.lookup 0x1015).1 = some "sys_read" ∧ (m.lookup 0xFFF).1 = none
      ∧ ∃ fault, m.reload twoNamesFile "core" = (.error fault, m) := by
  intro m
  obtain ⟨-, -, hnone, hsome, -, hfail⟩ :=
    Memo.lookup_after [.load twoNamesFile "System.map", .lookup 0x1015]
  have hload : load twoNamesFile "System.map" = .ok (.ofText twoNames) :=
    load_eq_ok_iff.mpr ⟨twoNames, rfl, rfl⟩
  have hlines : (lines twoNames).filterMap Symbol.ofLine?
      = [⟨0x1010, "sys_read"⟩, ⟨0x1000, "sys_open"⟩, ⟨0x1010, "sys_creat"⟩, ⟨0x1020, "end"⟩] := by
    decide +kernel
  -- the sorted table is not evaluated, since only its members are asked for
  have hmem : ∀ s, s ∈ (({} : Table).after
      [.load twoNamesFile "System.map", .lookup 0x1015]).symbols
      ↔ s ∈ (lines twoNames).filterMap Symbol.ofLine? := by
    intro s
    show s ∈ (({} : Table).serve (.load twoNamesFile "System.map")).2.symbols ↔ _
    rw [Table.serve_load_of_ok hload]
    exact Table.mem_ofSymbols
  rw [hlines] at hmem
  refine ⟨(hsome _ _).mpr ⟨?_, ⟨0x1010, "sys_read"⟩, ⟨?_, by decide, ?_⟩, rfl⟩, ?_, ?_⟩
  · rintro (hempty | habove | hbelow)
    · have hfirst := (hmem ⟨0x1010, "sys_read"⟩).mpr (by simp)
      rw [hempty] at hfirst
      simp at hfirst
    · exact absurd (habove _ ((hmem ⟨0x1010, "sys_read"⟩).mpr (by simp))) (by decide)
    · exact absurd (hbelow _ ((hmem ⟨0x1020, "end"⟩).mpr (by simp))) (by decide)
  · exact (hmem _).mpr (by simp)
  · intro u hu
    rw [hmem] at hu
    revert u
    decide
  · rw [hnone]
    refine Or.inr (Or.inl fun s hs => ?_)
    rw [hmem] at hs
    revert s
    decide
  · apply hfail
    intro text htext
    injection htext with htext
    have hdecode := Utf8.decode?_eq_some_iff.mpr htext
    rw [show Utf8.decode? [0x31, 0xFF] = none by decide] at hdecode
    cases hdecode

end SlabWaste.Symbols
