import CodeMarkup.Call
import CodeMarkup.Proofs.Formatter.Construction

/-!
The layout of a call. A layout that is given with a call does what it would do as an option, and
both layouts put their frame around the same gutter and the same code. A value that is no layout is
refused before any token is taken.
-/

namespace CodeMarkup

/-- The chunks of a frame, in the order in which they are written. -/
def Frame.chunks (frame : Frame) : List String :=
  [frame.gridOpen, frame.gutterOpen, frame.gutterClose, frame.codeOpen, frame.codeClose,
    frame.gridClose]

/-- The options with a layout and with line numbers. -/
def Options.numberedIn (o : Options) (l : Layout) : Options :=
  { o with layout := l, lineNumbers := true }

namespace Formatter

/-- The formatter with a layout and with line numbers. -/
def numberedIn (f : Formatter) (l : Layout) : Formatter :=
  { f with options := f.options.numberedIn l }

/-- The places of the frame among the chunks of a numbered layout. -/
def framePlaces (f : Formatter) : List Nat :=
  [0, 1, 3, 4, 8, 9].map (· + if f.options.wrap then 1 else 0)

variable {f : Formatter} {l : Layout} {p : Progress} {tokens : List Token}

/-! ### Given with a call or configured -/

theorem ofOptions_numberedIn {o : Options} (h : ofOptions o = .ok f) (l : Layout) :
    ofOptions (o.numberedIn l) = .ok (f.numberedIn l) := by
  obtain ⟨rfl, hnewline⟩ := ofOptions_eq_ok_iff.mp h
  exact ofOptions_eq_ok_iff.mpr ⟨rfl, hnewline⟩

/-- The layout and the line numbers among the options play no part once a layout is chosen. -/
theorem buffered_numberedIn (f : Formatter) (l m : Layout) (p : Progress) (tokens : List Token) :
    (f.numberedIn m).buffered l p tokens = f.buffered l p tokens := rfl

theorem stream_numberedIn (f : Formatter) (l : Layout) (p : Progress) (tokens : List Token) :
    (f.numberedIn l).stream p tokens = f.buffered l p tokens := by
  have hnumbers : (f.numberedIn l).options.lineNumbers = true := rfl
  rw [stream, if_pos hnumbers]
  exact f.buffered_numberedIn l l p tokens

theorem chooseLayout_name (f : Formatter) (l : Layout) :
    f.chooseLayout (.text l.name) = .ok l := by
  cases l <;> rfl

theorem chooseLayout_eq_error {v : Value} (hnull : v ≠ .null)
    (hname : ∀ l : Layout, v ≠ .text l.name) : f.chooseLayout v = .error ⟨v⟩ := by
  have hnone : Layout.ofValue? v = none := by
    apply Option.eq_none_iff_forall_ne_some.mpr
    intro l hl
    exact hname l (Layout.ofValue?_eq_some_iff.mp hl)
  cases v with
  | null => exact absurd rfl hnull
  | _ => simp only [chooseLayout, hnone]

/-! ### The frames -/

theorem getElem?_numbered_frame (f : Formatter) (l : Layout) (gutter code : String) :
    f.framePlaces.map ((f.numbered l gutter code)[·]?) = l.frame.chunks.map some := by
  unfold numbered framePlaces
  cases f.options.wrap <;> rfl

/-- The two layouts have other chunks at the places of their frames and the same ones elsewhere. -/
theorem getElem?_numbered_eq_iff (f : Formatter) (gutter code : String) (i : Nat) :
    (f.numbered .table gutter code)[i]? = (f.numbered .div gutter code)[i]? ↔
      i ∉ f.framePlaces := by
  unfold numbered framePlaces
  cases f.options.wrap with
  | false =>
    rcases i with _ | _ | _ | _ | _ | _ | _ | _ | _ | _ | i
    all_goals simp [Layout.frame]
  | true =>
    rcases i with _ | _ | _ | _ | _ | _ | _ | _ | _ | _ | _ | _ | i
    all_goals simp [Layout.frame]

theorem length_numbered (f : Formatter) (l m : Layout) (gutter code : String) :
    (f.numbered l gutter code).length = (f.numbered m gutter code).length := by
  simp [numbered]

/-- Which layout it is does not matter to the end of a run. -/
theorem ends_buffered (f : Formatter) (l m : Layout) (p : Progress) (tokens : List Token) :
    (f.buffered l p tokens).failure = (f.buffered m p tokens).failure ∧
      (f.buffered l p tokens).last.pulled = (f.buffered m p tokens).last.pulled ∧
      (f.buffered l p tokens).last.taxonomy = (f.buffered m p tokens).last.taxonomy := by
  cases hrun : (Run.ofTokens f.options.spanRules p tokens).failure with
  | some e =>
    rw [buffered_of_error (l := l) hrun, buffered_of_error (l := m) hrun]
    exact ⟨rfl, rfl, rfl⟩
  | none =>
    by_cases hfits : f.options.NumbersFit (lineCount tokens)
    · rw [buffered_of_fits (l := l) hrun hfits, buffered_of_fits (l := m) hrun hfits]
      exact ⟨rfl, rfl, rfl⟩
    · obtain ⟨e, he⟩ := exists_numbers_of_not_fits hfits
      rw [buffered_of_numbers (l := l) hrun he, buffered_of_numbers (l := m) hrun he]
      exact ⟨rfl, rfl, rfl⟩

theorem chunks_buffered_of_error {e : RunFailure} (h : (f.buffered l p tokens).failure = some e) :
    (f.buffered l p tokens).chunks = [] := by
  rcases f.buffered_cases l p tokens with ⟨e, -, he⟩ | ⟨e, he⟩ | hnone
  · rw [he]
    rfl
  · rw [he]
    rfl
  · rw [hnone] at h
    cases h

/-- What the layouts of one stream have in common. -/
structure SameInside (f : Formatter) (table div : Run) : Prop where
  failure : table.failure = div.failure
  pulled : table.last.pulled = div.last.pulled
  taxonomy : table.last.taxonomy = div.last.taxonomy
  length : table.chunks.length = div.chunks.length
  elsewhere : ∀ i, i ∉ f.framePlaces → table.chunks[i]? = div.chunks[i]?
  gutter : (Layout.table.gutterCell table.chunks)[1]? = (Layout.div.gutterCell div.chunks)[1]?
  code : (Layout.table.codeCell table.chunks)[2]? = (Layout.div.codeCell div.chunks)[2]?

theorem sameInside_buffered (f : Formatter) (p : Progress) (tokens : List Token) :
    f.SameInside (f.buffered .table p tokens) (f.buffered .div p tokens) := by
  obtain ⟨hfailure, hpulled, htaxonomy⟩ := f.ends_buffered .table .div p tokens
  cases h : (f.buffered .table p tokens).failure with
  | some e =>
    have htable := chunks_buffered_of_error h
    have hdiv := chunks_buffered_of_error (hfailure.symm.trans h)
    have hsame : (f.buffered .table p tokens).chunks = (f.buffered .div p tokens).chunks :=
      htable.trans hdiv.symm
    refine ⟨hfailure, hpulled, htaxonomy, congrArg _ hsame, ?_, ?_, ?_⟩
    · intro i _
      rw [hsame]
    · rw [htable, hdiv]
      rfl
    · rw [htable, hdiv]
      rfl
  | none =>
    have htable := chunks_buffered h
    have hdiv := chunks_buffered (hfailure.symm.trans h)
    refine ⟨hfailure, hpulled, htaxonomy, ?_, ?_, ?_, ?_⟩
    · rw [htable, hdiv, f.length_numbered .table .div]
    · intro i hi
      rw [htable, hdiv]
      exact (f.getElem?_numbered_eq_iff _ _ i).mpr hi
    · rw [htable, hdiv, gutterCell_numbered, gutterCell_numbered]
      rfl
    · rw [htable, hdiv, codeCell_numbered, codeCell_numbered]
      rfl

/-- The chunks of a layout at the places of the frame are those of its own frame. -/
theorem frame_of_buffered (h : (f.buffered l p tokens).failure = none) :
    f.framePlaces.map ((f.buffered l p tokens).chunks[·]?) = l.frame.chunks.map some := by
  rw [chunks_buffered h]
  exact f.getElem?_numbered_frame l _ _

/-! ### Calls -/

open Instance (new)

theorem perform_numbered_name (i : Instance) (s : Session) (l : Layout) (tokens : List Token) :
    i.perform s ⟨.numbered (.text l.name), tokens⟩ =
      (.ofChunks (i.formatter.buffered l s.begin tokens), i,
        (i.formatter.buffered l s.begin tokens).last.toSession) := by
  simp only [Instance.perform, chooseLayout_name]

/-- A layout that is given with a call does what it does as an option, in a formatter that has line
numbers, and without one the configured layout counts. The two layouts of a stream have chunks at
the same places, and all but those of the frames are the same. Any other value is refused, and then
nothing has changed. -/
theorem layout_of_call {o : Options} (hf : ofOptions o = .ok f) :
    (∀ l, ∃ g, ofOptions { o with layout := l, lineNumbers := true } = .ok g ∧
      ∀ encoding s tokens, ∃ answer after,
        Instance.perform ⟨f, encoding⟩ s ⟨.numbered (.text l.name), tokens⟩ =
          (answer, ⟨f, encoding⟩, after) ∧
        Instance.perform ⟨g, encoding⟩ s ⟨.numbered .null, tokens⟩ =
          (answer, ⟨g, encoding⟩, after) ∧
        Instance.perform ⟨g, encoding⟩ s ⟨.stream, tokens⟩ = (answer, ⟨g, encoding⟩, after)) ∧
    (∀ encoding s tokens, Instance.perform ⟨f, encoding⟩ s ⟨.numbered .null, tokens⟩ =
      Instance.perform ⟨f, encoding⟩ s ⟨.numbered (.text o.layout.name), tokens⟩) ∧
    (∀ p tokens, f.SameInside (f.buffered .table p tokens) (f.buffered .div p tokens) ∧
      ((f.buffered .table p tokens).failure = none →
        (∀ i, (f.buffered .table p tokens).chunks[i]? = (f.buffered .div p tokens).chunks[i]? ↔
          i ∉ f.framePlaces) ∧
        ∀ l, f.framePlaces.map ((f.buffered l p tokens).chunks[·]?) =
          l.frame.chunks.map some)) ∧
    ∀ v, v ≠ .null → (∀ l : Layout, v ≠ .text l.name) → ∀ (i : Instance) s tokens,
      i.perform s ⟨.numbered v, tokens⟩ = ({ failure := some (.layout ⟨v⟩) }, i, s) := by
  obtain ⟨rfl, -⟩ := ofOptions_eq_ok_iff.mp hf
  refine ⟨fun l => ⟨f.numberedIn l, ofOptions_numberedIn hf l, ?_⟩, ?_, ?_, ?_⟩
  · intro encoding s tokens
    refine ⟨_, _, perform_numbered_name ⟨f, encoding⟩ s l tokens, rfl, ?_⟩
    have hstream := f.stream_numberedIn l s.begin tokens
    simp only [Instance.perform, hstream]
  · intro encoding s tokens
    rw [perform_numbered_name]
    rfl
  · intro p tokens
    have hmade (l : Layout) (h : (f.buffered .table p tokens).failure = none) :
        (f.buffered l p tokens).failure = none := (f.ends_buffered l .table p tokens).1.trans h
    refine ⟨f.sameInside_buffered p tokens, ?_⟩
    intro h
    constructor
    · intro i
      rw [chunks_buffered h, chunks_buffered (hmade .div h)]
      exact f.getElem?_numbered_eq_iff _ _ i
    · intro l
      exact frame_of_buffered (hmade l h)
  · intro v hnull hname i s tokens
    simp only [Instance.perform, chooseLayout_eq_error hnull hname]

theorem layout_of_call_standard :
    ofOptions {} = .ok standard ∧
      (∃ g, ofOptions { layout := .div, lineNumbers := true } = .ok g ∧
        ∃ answer after,
          (new standard).perform {} ⟨.numbered (.text "div"), blankTokens "x"⟩ =
            (answer, new standard, after) ∧
          (new g).perform {} ⟨.stream, blankTokens "x"⟩ = (answer, new g, after)) ∧
      (∀ i, (standard.buffered .table {} (blankTokens "x")).chunks[i]? =
          (standard.buffered .div {} (blankTokens "x")).chunks[i]? ↔
        i ∉ [1, 2, 4, 5, 9, 10]) ∧
      (new standard).perform {} ⟨.numbered (.text "grid"), blankTokens "x"⟩ =
        ({ failure := some (.layout ⟨.text "grid"⟩) }, new standard, {}) := by
  obtain ⟨hcall, -, hinside, hrefused⟩ := layout_of_call ofOptions_default
  obtain ⟨g, hg, hsame⟩ := hcall .div
  obtain ⟨answer, after, hnumbered, -, hstream⟩ := hsame "" {} (blankTokens "x")
  have hmade := failure_buffered_standard .table {} "x" (by decide +kernel)
  refine ⟨ofOptions_default, ⟨g, hg, answer, after, hnumbered, hstream⟩,
    ((hinside {} (blankTokens "x")).2 hmade).1, ?_⟩
  apply hrefused (.text "grid") (by simp)
  intro l
  cases l <;> simp [Layout.name]

end Formatter

end CodeMarkup
