/-
  SlabWaste.Proofs.Symbols.Listing
  ────────────────────────────────
  **WHICH SYMBOLS A MAP LISTS.**

      ADDRESS TYPE NAME …

  A line of a map lists a symbol if it has these three words, its address is a
  hexadecimal number and its type marks code.  The types that mark code are the
  letters t, T, w and W, and also the runs of them that stand together in this
  order:

      ofLine?_eq_some_iff     the lines that list a symbol, and which
      Table.eq_ofSymbols      the one table of some symbols

  A table has one symbol for each such line, by address and then by name, and the
  order of the lines is nothing to it.

  Main result: `load_listed`.
-/
import Mathlib.Data.List.Infix
import SlabWaste.Proofs.Symbols.Requests
import SlabWaste.Proofs.Text.Words

namespace SlabWaste.Symbols

open SlabWaste.Text

/-! ## §1. Types. -/

/-- To appear in a text is to be a part of it without gaps. -/
theorem appearsIn_iff {s t : List Char} : appearsIn s t = true ↔ s <:+: t := by
  induction t with
  | nil =>
      unfold appearsIn
      rw [List.infix_nil, List.isEmpty_iff]
  | cons c t ih =>
      unfold appearsIn
      rw [Bool.or_eq_true, ih, List.isPrefixOf_iff_prefix, List.infix_cons_iff]

/-- The letters that mark code. -/
def codeLetters : List (List Char) := codeTypes.map fun c => [c]

/-- The runs of several of these letters that are taken for a type as well. -/
def codeRuns : List (List Char) :=
  ["tT", "Tw", "wW", "tTw", "TwW", "tTwW"].map String.toList

/-- A type is a letter that marks code, or a run of such letters. -/
theorem appearsIn_codeTypes_iff {type : List Char} (hne : type ≠ []) :
    appearsIn type codeTypes = true ↔ type ∈ codeLetters ++ codeRuns := by
  constructor
  · intro h
    obtain ⟨tail, hprefix, hsuffix⟩ := List.infix_iff_prefix_suffix.mp (appearsIn_iff.mp h)
    -- what stands together in four letters begins one of their five tails
    have hevery : ∀ tail ∈ codeTypes.tails, ∀ type ∈ tail.inits,
        type = [] ∨ type ∈ codeLetters ++ codeRuns := by decide +kernel
    have htype := hevery tail ((List.mem_tails _ _).mpr hsuffix) type
      ((List.mem_inits _ _).mpr hprefix)
    exact htype.resolve_left hne
  · have hevery : ∀ type ∈ codeLetters ++ codeRuns, appearsIn type codeTypes = true := by
      decide +kernel
    exact hevery type

/-! ## §2. Lines. -/

/-- What stands at each place of a line with three words. -/
structure EntryLayout where
  indent : List Char
  address : Piece (!isBlank ·)
  gap : Piece isBlank
  type : Piece (!isBlank ·)
  space : Piece isBlank
  name : Piece (!isBlank ·)
  rest : List Char
  indent_blank : Within isBlank indent
  /-- The name is the whole of the third word. -/
  rest_ends : Ends (!isBlank ·) rest

namespace EntryLayout

/-- The line. -/
def line (e : EntryLayout) : List Char :=
  e.indent ++ (e.address.text ++ (e.gap.text ++ (e.type.text ++ (e.space.text ++ (e.name.text
    ++ e.rest)))))

/-- The symbol of the line, for its address as a number. -/
def symbol (e : EntryLayout) (address : Int) : Symbol :=
  ⟨address, String.ofList (dropDot e.name.text)⟩

/-- The words of an entry are its address, its type, its name, and what follows. -/
theorem words_line (e : EntryLayout) :
    words e.line = e.address.text :: e.type.text :: e.name.text :: words e.rest := by
  have hblank : ∀ c, isBlank c = true → (!isBlank c) = false := fun c hc => by simp [hc]
  unfold line
  rw [words_blanks_append e.indent_blank, words_piece_append _ (e.gap.ends hblank _),
    words_blanks_append e.gap.within, words_piece_append _ (e.space.ends hblank _),
    words_blanks_append e.space.within, words_piece_append _ e.rest_ends]

end EntryLayout

/-- Between two words there is a blank. -/
theorem ne_nil_of_ends {indent rest : List Char} {piece : Piece (!isBlank ·)}
    (h : Ends (!isBlank ·) (indent ++ (piece.text ++ rest))) : indent ≠ [] := by
  rintro rfl
  obtain ⟨text, hne, hwithin⟩ := piece
  cases text with
  | nil => exact hne rfl
  | cons c text =>
      -- the character would be a blank, and part of a word
      have hblank : (!isBlank c) = false := ends_cons.mp h
      have hc : (!isBlank c) = true := hwithin c List.mem_cons_self
      rw [hc] at hblank
      cases hblank

/-- The lines with three words are those that are laid out so. -/
theorem exists_entryLayout {line address type name : List Char} {others : List (List Char)}
    (h : words line = address :: type :: name :: others) :
    ∃ e : EntryLayout, line = e.line ∧ e.address.text = address ∧ e.type.text = type
      ∧ e.name.text = name := by
  obtain ⟨indent, first, _, hindent, rfl, hfirst, rfl, htwo⟩ := words_eq_cons_iff.mp h
  obtain ⟨gap, second, _, hgap, rfl, hsecond, rfl, hone⟩ := words_eq_cons_iff.mp htwo.symm
  obtain ⟨space, third, rest, hspace, rfl, hrest, rfl, -⟩ := words_eq_cons_iff.mp hone.symm
  exact ⟨⟨indent, first, ⟨gap, ne_nil_of_ends hfirst, hgap⟩, second,
    ⟨space, ne_nil_of_ends hsecond, hspace⟩, third, rest, hindent, hrest⟩, rfl, rfl, rfl, rfl⟩

/-- The line lists a symbol, its type being one of these. -/
inductive Lists (types : List (List Char)) (line : List Char) : Symbol → Prop where
  | mk {e : EntryLayout} {address : Int} (hline : line = e.line) (htype : e.type.text ∈ types)
      (haddress : Numeral.read .sixteen (String.ofList e.address.text) = .ok address) :
      Lists types line (e.symbol address)

/-- **The lines that list a symbol**, and the symbol that they list. -/
theorem ofLine?_eq_some_iff {line : List Char} {s : Symbol} :
    Symbol.ofLine? line = some s ↔ Lists (codeLetters ++ codeRuns) line s := by
  constructor
  · intro h
    unfold Symbol.ofLine? at h
    -- an address, a type and a name are there, then the type is one of code, then the address is
    -- read
    split at h
    · next address type name others hwords =>
        split at h
        · next htype =>
            obtain ⟨e, hline, rfl, rfl, rfl⟩ := exists_entryLayout hwords
            split at h
            · next a haddress =>
                injection h with h
                rw [← h]
                exact .mk hline ((appearsIn_codeTypes_iff e.type.ne).mp htype) haddress
            · cases h
        · cases h
    · cases h
  · intro h
    cases h with
    | @mk e address hline htype haddress =>
        unfold Symbol.ofLine?
        rw [hline, e.words_line]
        simp only [if_pos ((appearsIn_codeTypes_iff e.type.ne).mpr htype), haddress]
        rfl

/-- A line is listed for some types or others if it is for one of the two. -/
theorem lists_append_iff {types others : List (List Char)} {line : List Char} {s : Symbol} :
    Lists (types ++ others) line s ↔ Lists types line s ∨ Lists others line s := by
  constructor
  · rintro ⟨hline, htype, haddress⟩
    rcases List.mem_append.mp htype with htype | htype
    · exact Or.inl (.mk hline htype haddress)
    · exact Or.inr (.mk hline htype haddress)
  · rintro (⟨hline, htype, haddress⟩ | ⟨hline, htype, haddress⟩)
    · exact .mk hline (List.mem_append_left others htype) haddress
    · exact .mk hline (List.mem_append_right types htype) haddress

/-- The second word of a line that lists a symbol is its type. -/
theorem Lists.type {types : List (List Char)} {line : List Char} {s : Symbol}
    (h : Lists types line s) : ∃ type ∈ types, (words line)[1]? = some type := by
  cases h with
  | @mk e address hline htype haddress =>
      refine ⟨e.type.text, htype, ?_⟩
      rw [hline, e.words_line]
      rfl

/-! ## §3. Tables. -/

/-- Different symbols have different places. -/
theorem Symbol.le_antisymm {s u : Symbol} (hsu : s.le u = true) (hus : u.le s = true) : s = u := by
  obtain ⟨address, name⟩ := s
  obtain ⟨address', name'⟩ := u
  rw [Symbol.le_iff] at hsu hus
  simp only at hsu hus
  have haddress : address = address' := by omega
  subst haddress
  have hname := (hsu.resolve_left (Int.lt_irrefl _)).2
  have hother := (hus.resolve_left (Int.lt_irrefl _)).2
  rw [String.le_antisymm hname hother]

namespace Table

variable {symbols others sorted : List Symbol}

/-- A table has the symbols that it was made of, and no others. -/
theorem perm_ofSymbols (symbols : List Symbol) :
    (ofSymbols symbols).symbols.toList.Perm symbols := by
  unfold ofSymbols
  rw [List.toList_toArray]
  exact List.mergeSort_perm _ _

/-- **Symbols have one order**: any list of them that is in order is that of their table. -/
theorem eq_ofSymbols (hsorted : sorted.Pairwise fun s u => s.le u = true)
    (hperm : sorted.Perm symbols) : sorted = (ofSymbols symbols).symbols.toList :=
  List.Perm.eq_of_pairwise (fun _ _ _ _ => Symbol.le_antisymm) hsorted (sorted_ofSymbols symbols)
    (hperm.trans (perm_ofSymbols symbols).symm)

/-- In whichever order symbols come, they make the same table. -/
theorem ofSymbols_of_perm (h : others.Perm symbols) : ofSymbols others = ofSymbols symbols := by
  have hsame := eq_ofSymbols (sorted_ofSymbols others) ((perm_ofSymbols others).trans h)
  exact congrArg Table.mk (Array.toList_inj.mp hsame)

end Table

/-! ## §4. Maps in another order. -/

/-- A line without its line end. -/
def withoutEnd (line : List Char) : List Char :=
  if line.getLast? = some '\n' then line.dropLast else line

/-- The end of a line is no part of its words. -/
theorem words_withoutEnd (line : List Char) : words (withoutEnd line) = words line := by
  unfold withoutEnd
  split
  · next hlast =>
      have hline := List.dropLast_append_getLast? '\n' hlast
      have hend : Within isBlank ['\n'] := by decide
      rw [← words_append_blanks hend, hline]
  · rfl

/-- A symbol is listed by the words of its line. -/
theorem ofLine?_withoutEnd (line : List Char) :
    Symbol.ofLine? (withoutEnd line) = Symbol.ofLine? line := by
  unfold Symbol.ofLine?
  rw [words_withoutEnd]

/-- The lines of one text are those of another in some order, whichever is the last. -/
def Reordered (moved text : List Char) : Prop :=
  ((lines moved).map withoutEnd).Perm ((lines text).map withoutEnd)

instance (moved text : List Char) : Decidable (Reordered moved text) :=
  inferInstanceAs (Decidable (List.Perm _ _))

/-- **A map may have its lines in any order.** -/
theorem ofText_of_reordered {moved text : List Char} (h : Reordered moved text) :
    Table.ofText moved = Table.ofText text := by
  have hlisted : ∀ text, (lines text).filterMap Symbol.ofLine?
      = ((lines text).map withoutEnd).filterMap Symbol.ofLine? := by
    intro text
    rw [List.filterMap_map]
    congr 1
    funext line
    exact (ofLine?_withoutEnd line).symm
  unfold Table.ofText
  apply Table.ofSymbols_of_perm
  rw [hlisted, hlisted]
  exact h.filterMap _

/-- **A table has just the symbols that the lines of its map list.**  A map that is a text is
loaded, and its table is the one list, by address and then by name, of a symbol for each line that
lists one: an address that is a hexadecimal number, a type that marks code, and a name, less one
leading full stop.  If no type is a run of several letters, the types are the letters t, T, w and
W.  A map with the same lines in another order has the same table. -/
theorem load_listed {fs : FileSystem} {path : String} {text : List Char}
    (hread : fs.read path = .ok (Utf8.encode text)) :
    let listed := (lines text).filterMap Symbol.ofLine?
    ∃ table, load fs path = .ok table
      ∧ (∀ line s, Symbol.ofLine? line = some s ↔ Lists (codeLetters ++ codeRuns) line s)
      ∧ table.Sorted ∧ table.symbols.toList.Perm listed
      ∧ (∀ sorted : List Symbol, sorted.Pairwise (fun s u => s.le u = true) → sorted.Perm listed →
          sorted = table.symbols.toList)
      ∧ ((∀ line ∈ lines text, ∀ s, ¬ Lists codeRuns line s) →
          ∀ line ∈ lines text, ∀ s, Symbol.ofLine? line = some s ↔ Lists codeLetters line s)
      ∧ ∀ other moved, fs.read other = .ok (Utf8.encode moved) → Reordered moved text →
          load fs other = .ok table := by
  intro listed
  refine ⟨.ofText text, load_eq_ok_iff.mpr ⟨text, hread, rfl⟩, fun _ _ => ofLine?_eq_some_iff,
    Table.sorted_ofSymbols listed, Table.perm_ofSymbols listed,
    fun sorted hsorted hperm => Table.eq_ofSymbols hsorted hperm, fun hnone line hline s => ?_,
    fun other moved hother hmoved => ?_⟩
  · rw [ofLine?_eq_some_iff, lists_append_iff]
    exact or_iff_left (hnone line hline s)
  · exact load_eq_ok_iff.mpr ⟨moved, hother, (ofText_of_reordered hmoved).symm⟩

/-- A map with symbols out of order, one of them with words after its name, and lines that list
none: of another type, without a name, with an address that is no number. -/
def mixedMap : List Char :=
  "2000 T vfree\n 1000 t .kmalloc\t[slab]\n3000 D table\n4000 W\nzz w none\n1000 w kfree".toList

/-- The same lines, the last of them first. -/
def movedMap : List Char :=
  "1000 w kfree\nzz w none\n4000 W\n3000 D table\r\n 1000 t .kmalloc\t[slab]\n2000 T vfree\n".toList

/-- A file system with both maps. -/
def mixedMaps : FileSystem where
  read path := .ok (Utf8.encode (if path = "moved" then movedMap else mixedMap))
  refusal? _ := none

/-- Three of the lines list a symbol, in either order of the lines. -/
theorem load_mixedMap :
    let table : Table := ⟨#[⟨0x1000, "kfree"⟩, ⟨0x1000, "kmalloc"⟩, ⟨0x2000, "vfree"⟩]⟩
    load mixedMaps "map" = .ok table ∧ load mixedMaps "moved" = .ok table := by
  intro table
  have hread : mixedMaps.read "map" = .ok (Utf8.encode mixedMap) := rfl
  have hother : mixedMaps.read "moved" = .ok (Utf8.encode movedMap) := rfl
  obtain ⟨loaded, hload, -, -, -, honly, -, hmoved⟩ := load_listed hread
  have hsorted : table.symbols.toList.Pairwise fun s u => s.le u = true := by decide +kernel
  have hlisted : table.symbols.toList.Perm ((lines mixedMap).filterMap Symbol.ofLine?) := by
    decide +kernel
  have htable : table = loaded :=
    congrArg Table.mk (Array.toList_inj.mp (honly _ hsorted hlisted))
  have hreordered : Reordered movedMap mixedMap := by decide +kernel
  rw [htable]
  exact ⟨hload, hmoved "moved" movedMap hother hreordered⟩

/-- A map whose one line has a run of two letters for a type. -/
def runMap : List Char := "1000 tT foo\n".toList

/-- A file system in which every path leads to it. -/
def runMaps : FileSystem where
  read _ := .ok (Utf8.encode runMap)
  refusal? _ := none

/-- **A run of letters is taken for a type as well**: the table of this map is not empty, though no
line of it lists a symbol whose type is one of the letters. -/
theorem load_runMap :
    load runMaps "System.map" = .ok ⟨#[⟨0x1000, "foo"⟩]⟩
      ∧ ¬ ∃ line ∈ lines runMap, ∃ s, Lists codeLetters line s := by
  constructor
  · have hone : Table.ofText runMap = Table.ofSymbols [⟨0x1000, "foo"⟩] :=
      congrArg Table.ofSymbols (by decide +kernel)
    apply load_eq_ok_iff.mpr
    refine ⟨runMap, rfl, ?_⟩
    rw [hone]
    unfold Table.ofSymbols
    rw [List.mergeSort_singleton]
  · rintro ⟨line, hline, s, hs⟩
    obtain ⟨type, htype, hword⟩ := hs.type
    have hnone : ∀ line ∈ lines runMap, ∀ type ∈ codeLetters, (words line)[1]? ≠ some type := by
      decide +kernel
    exact hnone line hline type htype hword

end SlabWaste.Symbols
