import CodeMarkup.Proofs.Formatter.Construction
import CodeMarkup.Proofs.Formatter.LineNumbers
import CodeMarkup.Proofs.Run.Growth

/-!
Pages of one source. A stream that ends with a line break can be followed by another one: the code
of the two together is the code of the one and then that of the other, and the line numbers go on
where those of the first stop. Flat markup can be continued after every stream, up to the first
token without markup.
-/

namespace CodeMarkup

/-- Every token of a stream has its kind itself, not a path to it. -/
def GivenAsKinds (tokens : List Token) : Prop :=
  ∀ token ∈ tokens, ∃ k, token.kind = .kind k

/-! ### Runs one after the other -/

namespace Run

variable {rules : SpanRules} {p q : Progress} {tokens more : List Token}

/-- A run and, unless it failed, another one after it. -/
def andThen (r r' : Run) : Run :=
  match r.failure with
  | none => { r' with emissions := r.emissions ++ r'.emissions }
  | some _ => r

theorem andThen_of_ok {r : Run} (h : r.failure = none) (r' : Run) :
    r.andThen r' = { r' with emissions := r.emissions ++ r'.emissions } := by
  simp only [andThen, h]

theorem andThen_of_error {r : Run} {e : RunFailure} (h : r.failure = some e) (r' : Run) :
    r.andThen r' = r := by
  simp only [andThen, h]

theorem cons_andThen (m : Emission) (r r' : Run) :
    (r.cons m).andThen r' = (r.andThen r').cons m := by
  cases h : r.failure with
  | none =>
    have hcons : (r.cons m).failure = none := h
    rw [andThen_of_ok hcons, andThen_of_ok h]
    rfl
  | some e =>
    have hcons : (r.cons m).failure = some e := h
    rw [andThen_of_error hcons, andThen_of_error h]

theorem chunks_andThen {r : Run} (h : r.failure = none) (r' : Run) :
    (r.andThen r').chunks = r.chunks ++ r'.chunks := by
  rw [andThen_of_ok h, chunks, chunks, chunks, List.map_append]

theorem ofTokens_append (rules : SpanRules) (p : Progress) (tokens more : List Token) :
    ofTokens rules p (tokens ++ more) =
      (ofTokens rules p tokens).andThen (ofTokens rules (ofTokens rules p tokens).last more) := by
  induction tokens generalizing p with
  | nil => rfl
  | cons token tokens ih =>
    cases h : rules.render (token.kind.register p.taxonomy) token with
    | ok chunk =>
      rw [List.cons_append, ofTokens_cons_of_ok h, ofTokens_cons_of_ok h, cons_andThen, ih]
      rfl
    | error failure =>
      rw [List.cons_append, ofTokens_cons_of_error h, ofTokens_cons_of_error h]
      rfl

/-- What is made of tokens that have their kinds themselves is the same whatever kinds exist. -/
theorem ofTokens_of_givenAsKinds (rules : SpanRules) (h : GivenAsKinds tokens) (p q : Progress) :
    (ofTokens rules p tokens).failure = (ofTokens rules q tokens).failure ∧
      (ofTokens rules p tokens).chunks = (ofTokens rules q tokens).chunks := by
  induction tokens generalizing p q with
  | nil => exact ⟨rfl, rfl⟩
  | cons token tokens ih =>
    obtain ⟨⟨k, hk⟩, hrest⟩ := List.forall_mem_cons.mp h
    have hrender (t : Taxonomy) : rules.render t token = rules.renderKind k token.text := by
      rw [SpanRules.render, hk]
      rfl
    cases hmarkup : rules.renderKind k token.text with
    | ok chunk =>
      have hp := (hrender (token.kind.register p.taxonomy)).trans hmarkup
      have hq := (hrender (token.kind.register q.taxonomy)).trans hmarkup
      obtain ⟨hfailure, hchunks⟩ := ih hrest (p.advance (token.kind.register p.taxonomy) 1)
        (q.advance (token.kind.register q.taxonomy) 1)
      rw [ofTokens_cons_of_ok hp, ofTokens_cons_of_ok hq, chunks_cons, chunks_cons, hchunks]
      exact ⟨hfailure, rfl⟩
    | error failure =>
      have hp := (hrender (token.kind.register p.taxonomy)).trans hmarkup
      have hq := (hrender (token.kind.register q.taxonomy)).trans hmarkup
      rw [ofTokens_cons_of_error hp, ofTokens_cons_of_error hq]
      exact ⟨rfl, rfl⟩

/-- The tokens of a stream come after those in front of it as they come alone, or they get farther,
since more kinds exist then. -/
theorem ofTokens_after (rules : SpanRules) (p : Progress) (tokens more : List Token) :
    (ofTokens rules p more).chunks <+:
        (ofTokens rules (ofTokens rules p tokens).last more).chunks ∧
      ((ofTokens rules p more).failure = none →
        (ofTokens rules (ofTokens rules p tokens).last more).chunks =
          (ofTokens rules p more).chunks) := by
  have hkeeps := (keeps_ofTokens rules p.taxonomy.subset_refl tokens).last
  rcases rules.renders_or_stopsAt p.taxonomy more with
    ⟨chunks, t, hrenders⟩ | ⟨before, chunks, t, bad, failure, hstops⟩
  · obtain ⟨t', hrenders'⟩ := hrenders.mono hkeeps
    rw [(ofTokens_of_renders hrenders).2.1, (ofTokens_of_renders hrenders').2.1]
    exact ⟨List.prefix_rfl, fun _ => rfl⟩
  · obtain ⟨hfailure, hchunks, -⟩ := ofTokens_of_stopsAt hstops
    obtain ⟨⟨after, rfl⟩, hrenders, -⟩ := hstops
    obtain ⟨t', hrenders'⟩ := hrenders.mono hkeeps
    rw [hchunks]
    refine ⟨chunks_ofTokens_append hrenders' (bad :: after), ?_⟩
    intro hnone
    rw [hfailure] at hnone
    cases hnone

end Run

/-! ### Lines of two streams -/

section

variable {tokens more : List Token}

theorem endsInNewline_append (tokens : List Token) (h : more ≠ []) :
    endsInNewline (tokens ++ more) = endsInNewline more := by
  obtain ⟨last, hlast⟩ := Option.ne_none_iff_exists'.mp (mt List.getLast?_eq_none_iff.mp h)
  rw [endsInNewline, endsInNewline, List.getLast?_append, hlast, Option.some_or]

theorem sourceText_append (tokens more : List Token) :
    sourceText (tokens ++ more) = sourceText tokens ++ sourceText more := by
  rw [sourceText, List.map_append, String.join_append]
  rfl

theorem lineCount_append (htokens : endsInNewline tokens = true) (hmore : more ≠ []) :
    lineCount (tokens ++ more) = lineCount tokens + lineCount more := by
  have hends := endsInNewline_append tokens hmore
  simp only [lineCount_eq, hends, htokens, sourceText_append, String.toList_append,
    List.count_append, ↓reduceIte]
  omega

end

namespace Options

/-- The options with another first line number. -/
def startingAt (o : Options) (start : Int) : Options :=
  { o with startLine := start }

variable {o : Options} {start : Int} {m n : Nat}

theorem numbersFit_add (o : Options) (start : Int) (m n : Nat) :
    (o.startingAt start).NumbersFit (m + n) ↔
      (o.startingAt start).NumbersFit m ∧ (o.startingAt (start + m)).NumbersFit n := by
  simp only [NumbersFit, startingAt, Gutter.range_append, List.forall_mem_append]

theorem lineNumbering_add (hm : 1 ≤ m) (hn : 1 ≤ n) :
    (o.startingAt start).lineNumbering (m + n) =
      (o.startingAt start).lineNumbering m ++ "\n" ++
        (o.startingAt (start + m)).lineNumbering n := by
  have hne (first : Int) {count : Nat} (h : 1 ≤ count) :
      (Gutter.range first count).map toString ≠ [] := by
    intro hnil
    have hlength := congrArg List.length hnil
    rw [List.length_map, Gutter.length_range, List.length_nil] at hlength
    omega
  simp only [lineNumbering, startingAt, Gutter.range_append, List.map_append]
  exact String.intercalate_append_of_ne_nil (hne start hm) (hne (start + m) hn)

end Options

namespace Formatter

/-- The formatter with another first line number. -/
def startingAt (f : Formatter) (start : Int) : Formatter :=
  { f with options := f.options.startingAt start }

variable {f : Formatter} {l : Layout} {p q r : Progress} {start : Int} {tokens more : List Token}

theorem ofOptions_startingAt {o : Options} (h : ofOptions o = .ok f) (start : Int) :
    ofOptions (o.startingAt start) = .ok (f.startingAt start) := by
  obtain ⟨rfl, hnewline⟩ := ofOptions_eq_ok_iff.mp h
  exact ofOptions_eq_ok_iff.mpr ⟨rfl, hnewline⟩

/-! ### Numbered layouts -/

theorem failure_append_eq_none_iff (rules : SpanRules) (htokens : GivenAsKinds tokens)
    (hmore : GivenAsKinds more) :
    (Run.ofTokens rules r (tokens ++ more)).failure = none ↔
      (Run.ofTokens rules p tokens).failure = none ∧
        (Run.ofTokens rules q more).failure = none := by
  rw [Run.ofTokens_append, (Run.ofTokens_of_givenAsKinds rules htokens p r).1,
    (Run.ofTokens_of_givenAsKinds rules hmore q (Run.ofTokens rules r tokens).last).1]
  cases h : (Run.ofTokens rules r tokens).failure with
  | none => simp [Run.andThen_of_ok h]
  | some e => simp [Run.andThen_of_error h, h]

theorem buffered_append_eq_none_iff (start : Int) (htokens : GivenAsKinds tokens)
    (hmore : GivenAsKinds more) (hends : endsInNewline tokens = true) (hne : more ≠ []) :
    ((f.startingAt start).buffered l r (tokens ++ more)).failure = none ↔
      ((f.startingAt start).buffered l p tokens).failure = none ∧
        ((f.startingAt (start + lineCount tokens)).buffered l q more).failure = none := by
  have hrun := failure_append_eq_none_iff (p := p) (q := q) (r := r) f.options.spanRules htokens
    hmore
  have hfits := f.options.numbersFit_add start (lineCount tokens) (lineCount more)
  rw [failure_buffered_eq_none_iff, failure_buffered_eq_none_iff, failure_buffered_eq_none_iff,
    lineCount_append hends hne]
  show (Run.ofTokens f.options.spanRules r _).failure = none ∧
      (f.options.startingAt start).NumbersFit _ ↔ _
  rw [hrun, hfits]
  exact and_and_and_comm

theorem closedCode_append (hends : endsInNewline tokens = true) (hne : more ≠ [])
    (chunks rest : List String) :
    f.closedCode (tokens ++ more) (chunks ++ rest) =
      f.closedCode tokens chunks ++ f.closedCode more rest := by
  simp only [closedCode, endsInNewline_append tokens hne, hends, ↓reduceIte, String.join_append,
    String.append_empty, String.append_assoc]

theorem code_of_buffered (h : (f.buffered l p tokens).failure = none) :
    (l.codeCell (f.buffered l p tokens).chunks)[2]? =
      some (f.closedCode tokens (Run.ofTokens f.options.spanRules p tokens).chunks) := by
  rw [chunks_buffered h, codeCell_numbered]
  rfl

/-- The code of two streams is that of the one and then that of the other. -/
theorem code_append (htokens : GivenAsKinds tokens) (hmore : GivenAsKinds more)
    (hends : endsInNewline tokens = true) (hne : more ≠ [])
    (hfirst : ((f.startingAt start).buffered l p tokens).failure = none)
    (hsecond : ((f.startingAt (start + lineCount tokens)).buffered l q more).failure = none)
    (hboth : ((f.startingAt start).buffered l r (tokens ++ more)).failure = none) :
    ∃ code rest,
      (l.codeCell ((f.startingAt start).buffered l p tokens).chunks)[2]? = some code ∧
      (l.codeCell ((f.startingAt (start + lineCount tokens)).buffered l q more).chunks)[2]? =
        some rest ∧
      (l.codeCell ((f.startingAt start).buffered l r (tokens ++ more)).chunks)[2]? =
        some (code ++ rest) := by
  refine ⟨_, _, code_of_buffered hfirst, code_of_buffered hsecond, ?_⟩
  obtain ⟨hrun, -⟩ := failure_buffered_eq_none_iff.mp hfirst
  obtain ⟨hfailure, hchunks⟩ :=
    Run.ofTokens_of_givenAsKinds f.options.spanRules htokens p r
  obtain ⟨-, hrest⟩ := Run.ofTokens_of_givenAsKinds f.options.spanRules hmore q
    (Run.ofTokens f.options.spanRules r tokens).last
  have happend : (Run.ofTokens f.options.spanRules r (tokens ++ more)).chunks =
      (Run.ofTokens f.options.spanRules p tokens).chunks ++
        (Run.ofTokens f.options.spanRules q more).chunks := by
    rw [Run.ofTokens_append, Run.chunks_andThen (hfailure.symm.trans hrun), hchunks, hrest]
  have hclosed := closedCode_append (f := f.startingAt start) hends hne
    (Run.ofTokens f.options.spanRules p tokens).chunks
    (Run.ofTokens f.options.spanRules q more).chunks
  rw [← happend] at hclosed
  rw [code_of_buffered hboth]
  exact congrArg some hclosed

/-- The numbers of two streams are those of the one and then those of the other. -/
theorem numbers_append (hends : endsInNewline tokens = true) (hne : more ≠ [])
    (hfirst : ((f.startingAt start).buffered l p tokens).failure = none)
    (hsecond : ((f.startingAt (start + lineCount tokens)).buffered l q more).failure = none)
    (hboth : ((f.startingAt start).buffered l r (tokens ++ more)).failure = none) :
    Markup.plainText (String.join
        (l.gutterCell ((f.startingAt start).buffered l r (tokens ++ more)).chunks)) =
      Markup.plainText (String.join
          (l.gutterCell ((f.startingAt start).buffered l p tokens).chunks)) ++ "\n" ++
        Markup.plainText (String.join (l.gutterCell
          ((f.startingAt (start + lineCount tokens)).buffered l q more).chunks)) := by
  rw [plainText_gutterCell hfirst, plainText_gutterCell hsecond, plainText_gutterCell hboth,
    lineCount_append hends hne]
  exact Options.lineNumbering_add (lineCount_pos tokens) (lineCount_pos more)

/-! ### Flat markup -/

theorem flat_eq_ofTokens (hwrap : f.options.wrap = false) (p : Progress) (tokens : List Token) :
    f.flat p tokens = Run.ofTokens f.options.spanRules p tokens := by
  simp [flat, hwrap]

theorem flat_append (hwrap : f.options.wrap = false) (p : Progress) (tokens more : List Token) :
    f.flat p (tokens ++ more) = (f.flat p tokens).andThen (f.flat (f.flat p tokens).last more) := by
  simp only [flat_eq_ofTokens hwrap]
  exact Run.ofTokens_append f.options.spanRules p tokens more

theorem chunks_flat_append (hwrap : f.options.wrap = false) {p : Progress} {tokens : List Token}
    (h : (f.flat p tokens).failure = none) (more : List Token) :
    (f.flat p tokens).chunks ++ (f.flat p more).chunks <+: (f.flat p (tokens ++ more)).chunks ∧
      ((f.flat p more).failure = none →
        (f.flat p (tokens ++ more)).chunks =
          (f.flat p tokens).chunks ++ (f.flat p more).chunks) ∧
      (GivenAsKinds more → ∀ q,
        (f.flat p (tokens ++ more)).chunks =
          (f.flat p tokens).chunks ++ (f.flat q more).chunks) := by
  obtain ⟨hfront, hall⟩ := Run.ofTokens_after f.options.spanRules p tokens more
  rw [flat_append hwrap, Run.chunks_andThen h]
  simp only [flat_eq_ofTokens hwrap]
  refine ⟨(List.prefix_append_right_inj _).mpr hfront, ?_, ?_⟩
  · intro hmore
    rw [hall hmore]
  · intro hmore q
    rw [(Run.ofTokens_of_givenAsKinds _ hmore _ q).2]

/-- A numbered layout of two streams, of which the first ends with a line break, is made exactly if
both pages are, the second one with the number after the last of the first; then it has the code and
the numbers of the one and then those of the other. Flat markup without a wrapper has the chunks of
the one and then those of the other, up to the first token without markup. -/
theorem buffered_of_pages {o : Options} (hf : ofOptions o = .ok f) :
    (∀ start, ofOptions (o.startingAt start) = .ok (f.startingAt start)) ∧
    (∀ start l p q r tokens more first second both,
      first = (f.startingAt start).buffered l p tokens →
      second = (f.startingAt (start + lineCount tokens)).buffered l q more →
      both = (f.startingAt start).buffered l r (tokens ++ more) →
      GivenAsKinds tokens → GivenAsKinds more → endsInNewline tokens = true → more ≠ [] →
      (both.failure = none ↔ first.failure = none ∧ second.failure = none) ∧
      ((Run.ofTokens o.spanRules p tokens).failure = none →
        (Run.ofTokens o.spanRules q more).failure = none →
        (both.failure = none ↔
          (o.startingAt start).NumbersFit (lineCount tokens + lineCount more))) ∧
      (both.failure = none →
        (∃ code rest, (l.codeCell first.chunks)[2]? = some code ∧
          (l.codeCell second.chunks)[2]? = some rest ∧
          (l.codeCell both.chunks)[2]? = some (code ++ rest)) ∧
        Markup.plainText (String.join (l.gutterCell both.chunks)) =
          Markup.plainText (String.join (l.gutterCell first.chunks)) ++ "\n" ++
            Markup.plainText (String.join (l.gutterCell second.chunks)))) ∧
    (o.wrap = false → ∀ p tokens more,
      f.flat p (tokens ++ more) = (f.flat p tokens).andThen (f.flat (f.flat p tokens).last more) ∧
      (∀ e, (f.flat p tokens).failure = some e →
        f.flat p (tokens ++ more) = f.flat p tokens) ∧
      ((f.flat p tokens).failure = none →
        (f.flat p tokens).chunks ++ (f.flat p more).chunks <+:
            (f.flat p (tokens ++ more)).chunks ∧
          ((f.flat p more).failure = none →
            (f.flat p (tokens ++ more)).chunks =
              (f.flat p tokens).chunks ++ (f.flat p more).chunks) ∧
          (GivenAsKinds more → ∀ q,
            (f.flat p (tokens ++ more)).chunks =
              (f.flat p tokens).chunks ++ (f.flat q more).chunks))) := by
  obtain ⟨rfl, -⟩ := ofOptions_eq_ok_iff.mp hf
  refine ⟨ofOptions_startingAt hf, ?_, ?_⟩
  · rintro start l p q r tokens more first second both rfl rfl rfl htokens hmore hends hne
    have hiff := buffered_append_eq_none_iff (f := f) (l := l) (p := p) (q := q) (r := r) start
      htokens hmore hends hne
    refine ⟨hiff, ?_, ?_⟩
    · intro hrun hrun'
      have hrun'' := (failure_append_eq_none_iff (r := r) _ htokens hmore).mpr ⟨hrun, hrun'⟩
      rw [failure_buffered_eq_none_iff, lineCount_append hends hne]
      exact and_iff_right hrun''
    · intro hboth
      obtain ⟨hfirst, hsecond⟩ := hiff.mp hboth
      exact ⟨code_append htokens hmore hends hne hfirst hsecond hboth,
        numbers_append hends hne hfirst hsecond hboth⟩
  · intro hwrap p tokens more
    refine ⟨flat_append hwrap p tokens more, ?_, ?_⟩
    · intro e he
      rw [flat_append hwrap, Run.andThen_of_error he]
    · intro h
      exact chunks_flat_append hwrap h more

theorem givenAsKinds_blankTokens (text : String) : GivenAsKinds (blankTokens text) := by
  intro token h
  obtain rfl := List.mem_singleton.mp h
  exact ⟨.whitespace, rfl⟩

/-- The formatter with the default options but for the wrapper. -/
def unwrapped : Formatter :=
  ⟨{ wrap := false }, standard.trailingNewline⟩

theorem ofOptions_unwrapped : ofOptions { wrap := false } = .ok unwrapped :=
  ofOptions_eq_ok_iff.mpr ⟨rfl, renderKind_standard "\n"⟩

theorem buffered_of_pages_unwrapped :
    ofOptions { wrap := false } = .ok unwrapped ∧
    (∀ first second both,
      first = (unwrapped.startingAt (-1)).buffered .div {} (blankTokens "a\n\n") →
      second = (unwrapped.startingAt 1).buffered .div {} (blankTokens "b") →
      both = (unwrapped.startingAt (-1)).buffered .div {}
        (blankTokens "a\n\n" ++ blankTokens "b") →
      both.failure = none ∧
        Markup.plainText (String.join (Layout.div.gutterCell both.chunks)) =
          Markup.plainText (String.join (Layout.div.gutterCell first.chunks)) ++ "\n" ++
            Markup.plainText (String.join (Layout.div.gutterCell second.chunks))) ∧
    (unwrapped.flat {} (blankTokens "a" ++ blankTokens "b")).chunks =
      (unwrapped.flat {} (blankTokens "a")).chunks ++
        (unwrapped.flat {} (blankTokens "b")).chunks := by
  have hrun (text : String) :
      (Run.ofTokens unwrapped.options.spanRules {} (blankTokens text)).failure = none :=
    failure_standard {} text
  obtain ⟨-, hpages, hflat⟩ := buffered_of_pages ofOptions_unwrapped
  refine ⟨ofOptions_unwrapped, ?_, ?_⟩
  · intro first second both hfirst hsecond hboth
    have hlines : lineCount (blankTokens "a\n\n") = 2 ∧ lineCount (blankTokens "b") = 1 := by
      decide +kernel
    have hnext : second = (unwrapped.startingAt (-1 + lineCount (blankTokens "a\n\n"))).buffered
        .div {} (blankTokens "b") := by
      rw [hsecond, hlines.1]
      rfl
    obtain ⟨-, hfits, hmade⟩ := hpages (-1) .div {} {} {} _ _ first second both hfirst hnext hboth
      (givenAsKinds_blankTokens _) (givenAsKinds_blankTokens _) (by decide +kernel) (by decide)
    have hsuccess : both.failure = none := by
      refine (hfits (hrun _) (hrun _)).mpr (Options.numbersFit_of_le ?_)
      rw [hlines.1, hlines.2]
      exact le_numberBound (by decide)
    exact ⟨hsuccess, (hmade hsuccess).2⟩
  · have hone (text : String) : (unwrapped.flat {} (blankTokens text)).failure = none := by
      rw [failure_flat, hrun]
    exact ((hflat rfl {} (blankTokens "a") (blankTokens "b")).2.2 (hone _)).2.1 (hone _)

/-- Two pages are made that start at the greatest number that is written, but not the first with the
second after it. -/
theorem joined_pages_fail :
    (numberedLast.buffered .table {} (blankTokens "x\n")).failure = none ∧
      (numberedLast.buffered .table {} (blankTokens "y\n")).failure = none ∧
      endsInNewline (blankTokens "x\n") = true ∧
      ∃ n, (numberedLast.buffered .table {} (blankTokens "x\n" ++ blankTokens "y\n")).failure =
        some (.lineNumber n) := by
  have hrun (text : String) :
      (Run.ofTokens numberedLast.options.spanRules {} (blankTokens text)).failure = none :=
    failure_standard {} text
  have hone : numberedLast.options.NumbersFit 1 := by
    rw [Options.numbersFit_one_iff, numberedLast]
    have hpos : 1 ≤ Gutter.numberBound := le_numberBound (by decide)
    simp only
    omega
  have htwo : ¬ numberedLast.options.NumbersFit 2 := by
    refine Options.not_numbersFit_of_le (i := 1) (by decide) ?_
    rw [numberedLast]
    simp only
    omega
  have hlines : lineCount (blankTokens "x\n") = 1 ∧ lineCount (blankTokens "y\n") = 1 ∧
      lineCount (blankTokens "x\n" ++ blankTokens "y\n") = 2 := by
    decide +kernel
  have hboth := (failure_append_eq_none_iff (p := {}) (q := {}) (r := {}) _
    (givenAsKinds_blankTokens _) (givenAsKinds_blankTokens _)).mpr ⟨hrun "x\n", hrun "y\n"⟩
  obtain ⟨n, hn⟩ := buffered_of_not_fits (f := numberedLast) (l := .table) hboth
    (by rwa [hlines.2.2])
  refine ⟨failure_buffered_eq_none_iff.mpr ⟨hrun _, by rwa [hlines.1]⟩,
    failure_buffered_eq_none_iff.mpr ⟨hrun _, by rwa [hlines.2.1]⟩, by decide +kernel, n, ?_⟩
  rw [hn]
  rfl

end Formatter

end CodeMarkup
