import CodeMarkup.Lexer
import CodeMarkup.Proofs.Text.Lines
import Mathlib.Data.List.TakeWhile

/-!
The lines of a source and those that a lexer keeps. The empty lines at either end are dropped, and
the lines in between come one after the other, so each line that is kept has the same distance from
its place in the source. The lines keep their places if no line feed stands in front, or nothing but
line feeds.
-/

namespace CodeMarkup

/-- The characters of a source with line feeds for line breaks and without a byte order mark. -/
def sourceChars (source : String) : List Char :=
  unifyBreaks (dropMark source.toList)

/-- The lines of a source; what follows the last line break is one as well. -/
def sourceLines (source : String) : List String :=
  (Text.cut '\n' (sourceChars source)).map String.ofList

/-- The lines of a source that a lexer keeps. -/
def keptLines (source : String) : List String :=
  (Text.cut '\n' (stripBreaks (sourceChars source))).map String.ofList

/-- The number of line feeds in front of a source. -/
def leadingBreaks (source : String) : Nat :=
  ((sourceChars source).takeWhile (· == '\n')).length

/-! ### Line feeds at the ends -/

theorem takeWhile_newline_eq_replicate (cs : List Char) :
    cs.takeWhile (· == '\n') = List.replicate (cs.takeWhile (· == '\n')).length '\n' := by
  refine List.eq_replicate_iff.mpr ⟨rfl, fun c hc => ?_⟩
  simpa using List.mem_takeWhile_imp hc

theorem dropWhile_eq_stripBreaks_append (cs : List Char) :
    ∃ m, cs.dropWhile (· == '\n') = stripBreaks cs ++ List.replicate m '\n' := by
  generalize hrest : cs.dropWhile (· == '\n') = rest
  refine ⟨(rest.reverse.takeWhile (· == '\n')).length, ?_⟩
  have hends := List.takeWhile_append_dropWhile (p := (· == '\n')) (l := rest.reverse)
  have hreverse := congrArg List.reverse hends
  rw [List.reverse_append, List.reverse_reverse, takeWhile_newline_eq_replicate,
    List.reverse_replicate] at hreverse
  rw [stripBreaks, hrest, hreverse]

/-- A text is what is left of it between line feeds. -/
theorem eq_append_stripBreaks_append (cs : List Char) :
    ∃ m, cs = List.replicate (cs.takeWhile (· == '\n')).length '\n' ++ stripBreaks cs ++
      List.replicate m '\n' := by
  obtain ⟨m, hm⟩ := dropWhile_eq_stripBreaks_append cs
  refine ⟨m, ?_⟩
  rw [List.append_assoc, ← hm, ← takeWhile_newline_eq_replicate, List.takeWhile_append_dropWhile]

theorem head?_stripBreaks_ne (cs : List Char) : (stripBreaks cs).head? ≠ some '\n' := by
  obtain ⟨m, hm⟩ := dropWhile_eq_stripBreaks_append cs
  intro hhead
  obtain ⟨tail, htail⟩ := List.head?_eq_some_iff.mp hhead
  have hfirst := List.head?_dropWhile_not (· == '\n') cs
  rw [hm, htail] at hfirst
  simp at hfirst

theorem stripBreaks_eq_nil_iff {cs : List Char} : stripBreaks cs = [] ↔ ∀ c ∈ cs, c = '\n' := by
  constructor
  · intro h c hc
    obtain ⟨m, hm⟩ := eq_append_stripBreaks_append cs
    rw [hm, h, List.append_nil, List.mem_append] at hc
    exact hc.elim List.eq_of_mem_replicate List.eq_of_mem_replicate
  · intro h
    have hall : cs.dropWhile (· == '\n') = [] :=
      List.dropWhile_eq_nil_iff.mpr fun c hc => by simpa using h c hc
    rw [stripBreaks, hall]
    rfl

/-! ### Lines -/

theorem keptLines_ne_nil (source : String) : keptLines source ≠ [] := by
  simp [keptLines, Text.cut_ne_nil]

/-- The lines of a source are those that are kept, between empty ones. -/
theorem sourceLines_eq (source : String) :
    ∃ m, sourceLines source = List.replicate (leadingBreaks source) "" ++ keptLines source ++
      List.replicate m "" := by
  obtain ⟨m, hm⟩ := eq_append_stripBreaks_append (sourceChars source)
  refine ⟨m, ?_⟩
  rw [sourceLines, hm, Text.cut_append_replicate, Text.cut_replicate_append, List.map_append,
    List.map_append, List.map_replicate, List.map_replicate]
  rfl

theorem getElem?_keptLines {source : String} {k : Nat} (h : k < (keptLines source).length) :
    (keptLines source)[k]? = (sourceLines source)[leadingBreaks source + k]? := by
  obtain ⟨m, hm⟩ := sourceLines_eq source
  rw [hm, List.append_assoc, List.getElem?_append_right (by simp), List.length_replicate,
    Nat.add_sub_cancel_left, List.getElem?_append_left h]

theorem head?_keptLines_iff {source : String} :
    (keptLines source).head? = some "" ↔ ∀ c ∈ sourceChars source, c = '\n' := by
  rw [← stripBreaks_eq_nil_iff, keptLines, List.head?_map]
  have hcut : (Text.cut '\n' (stripBreaks (sourceChars source))).head? = some [] ↔
      stripBreaks (sourceChars source) = [] := by
    rw [Text.head?_cut_eq_nil_iff, or_iff_left (head?_stripBreaks_ne _)]
  rw [← hcut]
  cases (Text.cut '\n' (stripBreaks (sourceChars source))).head? <;> simp

/-- The lines that are kept have the places that they have in the source if no line feed stands in
front of them, or if there is nothing else. -/
theorem keptLines_inPlace_iff (source : String) :
    (∀ k < (keptLines source).length, (keptLines source)[k]? = (sourceLines source)[k]?) ↔
      leadingBreaks source = 0 ∨ ∀ c ∈ sourceChars source, c = '\n' := by
  obtain ⟨m, hm⟩ := sourceLines_eq source
  have hpos := List.length_pos_iff.mpr (keptLines_ne_nil source)
  rw [← head?_keptLines_iff]
  constructor
  · intro h
    by_cases hzero : leadingBreaks source = 0
    · exact .inl hzero
    · obtain ⟨n, hn⟩ := Nat.exists_eq_succ_of_ne_zero hzero
      have hfirst := h 0 hpos
      rw [hm, hn, List.replicate_succ] at hfirst
      refine .inr ?_
      rw [List.head?_eq_getElem?, hfirst]
      rfl
  · rintro (hzero | hhead) k hk
    · rw [getElem?_keptLines hk, hzero, Nat.zero_add]
    · have hlines : keptLines source = [""] := by
        rw [keptLines, stripBreaks_eq_nil_iff.mpr (head?_keptLines_iff.mp hhead)]
        rfl
      rw [hlines, List.length_singleton, Nat.lt_one_iff] at hk
      rw [hk, hm, hlines]
      cases leadingBreaks source <;> rfl

/-- What a lexer makes of a source is its lines, each with a line feed at its end. -/
theorem pieces_prepareSource (source : String) :
    Text.pieces '\n' (prepareSource source) = keptLines source ++ [""] := by
  rw [Text.pieces, prepareSource, String.toList_ofList, Text.cut_append_sep, List.map_append]
  rfl

end CodeMarkup
