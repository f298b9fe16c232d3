import CodeMarkup.Proofs.Formatter.Agreement
import CodeMarkup.Proofs.Span.Failure

/-!
Formatters as they are made. Settings make a formatter exactly if they give options under which a
line break can be rendered, because one may have to be added to numbered code. Once that is found
out a formatter has no failure of its own left, except that it may come to a line number with too
many digits.
-/

namespace CodeMarkup

/-- A failure names the first token of a stream that has no markup: its text, and its kind as given
or as it resolves at that moment. -/
def RunFailure.NamesToken (r : SpanRules) (t : Taxonomy) (tokens : List Token) (e : RunFailure) :
    Prop :=
  ∃ before chunks t' bad failure, r.StopsAt t tokens before chunks t' bad failure ∧
    e = .span failure ∧ failure.About (bad.kind.register t') bad

/-- A kind has a short name exactly if one is listed for it or for one of its ancestors. -/
theorem ShortNames.exists_find?_iff {names : ShortNames} {k : Kind} :
    (∃ name, names.find? k = some name) ↔ ∃ j ∈ k.lineage, ∃ name, names.own? j = some name := by
  rw [← Option.isSome_iff_exists, find?, Kind.nearest?, List.findSome?_isSome_iff]
  simp only [Option.isSome_iff_exists]

theorem Kind.lineage_whitespace :
    Kind.whitespace.lineage = [.whitespace, root.child "Text", root] := rfl

namespace Options

/-- White space can be rendered exactly if it is listed, itself or under an ancestor, and the theme
has rules for it unless its name is empty. -/
theorem canRender_whitespace_iff {o : Options} :
    o.spanRules.CanRender .whitespace ↔
      (∃ k ∈ [Kind.whitespace, Kind.root.child "Text", .root],
        ∃ name, o.shortNames.own? k = some name) ∧
      ∀ name theme, o.shortNames.find? .whitespace = some name → o.theme = some theme →
        name ≠ "" → (theme.declarations? .whitespace).isSome := by
  rw [← Kind.lineage_whitespace, ← ShortNames.exists_find?_iff]
  constructor
  · rintro ⟨name, hname, htheme⟩
    refine ⟨⟨name, hname⟩, fun name' theme hname' => ?_⟩
    obtain rfl := Option.some.inj (hname.symm.trans hname')
    exact htheme theme
  · rintro ⟨⟨name, hname⟩, htheme⟩
    exact ⟨name, hname, fun theme => htheme name theme hname⟩

theorem numbersFit_one_iff {o : Options} :
    o.NumbersFit 1 ↔ o.startLine.natAbs < Gutter.numberBound := by
  simp [NumbersFit, Gutter.range]

theorem not_numbersFit_of_le {o : Options} {lines i : Nat} (hi : i < lines)
    (h : Gutter.numberBound ≤ (o.startLine + i).natAbs) : ¬ o.NumbersFit lines := by
  intro hfit
  have hmem : o.startLine + i ∈ Gutter.range o.startLine lines := by
    rw [Gutter.mem_range]
    omega
  have hlt := hfit _ hmem
  omega

end Options

namespace Formatter

variable {given : List (String × Setting)} {s : Session} {f : Formatter} {l : Layout}
  {p : Progress} {tokens : List Token}

/-! ### Construction -/

theorem ofOptions_eq_ok_iff {o : Options} :
    ofOptions o = .ok f ↔
      f.options = o ∧ o.spanRules.renderKind .whitespace "\n" = .ok f.trailingNewline := by
  refine ⟨of_ofOptions, ?_⟩
  rintro ⟨rfl, hnewline⟩
  rw [ofOptions, hnewline]
  rfl

theorem exists_ofOptions_iff {o : Options} :
    (∃ f, ofOptions o = .ok f) ↔ o.spanRules.CanRender .whitespace := by
  rw [← SpanRules.renderKind_isOk_iff "\n"]
  constructor
  · rintro ⟨f, hf⟩
    exact ⟨f.trailingNewline, (ofOptions_eq_ok_iff.mp hf).2⟩
  · rintro ⟨newline, hnewline⟩
    exact ⟨⟨o, newline⟩, ofOptions_eq_ok_iff.mpr ⟨rfl, hnewline⟩⟩

theorem ofArguments_eq (hrecord : recordKey ∉ given.map Prod.fst)
    (hown : ownKey ∉ given.map Prod.fst) : ofArguments given s = ofSettings given s := by
  have hsettings : given.filter (·.1 ≠ recordKey) = given := by
    refine List.filter_eq_self.mpr fun e he => ?_
    have hne : e.1 ≠ recordKey := by
      rintro heq
      exact hrecord (heq ▸ List.mem_map_of_mem he)
    simpa using hne
  have hnone : valueAt? ownKey given = none := valueAt?_eq_none_iff.mpr hown
  have hnone' : valueAt? recordKey given = none := valueAt?_eq_none_iff.mpr hrecord
  simp only [ofArguments, hsettings, hnone, hnone']
  rfl

/-- Settings make a formatter through the options that they give. -/
theorem ofSettings_eq_ok_iff :
    (ofSettings given s).1 = .ok f ↔
      ∃ o, Options.ofSettings s.taxonomy given = .ok o ∧ ofOptions o = .ok f := by
  unfold ofSettings build
  cases Options.ofSettings s.taxonomy given with
  | error issues => simp
  | ok o => cases hf : ofOptions o <;> simp [hf]

theorem ofSettings_eq_error {e : ConfigurationError} (h : (ofSettings given s).1 = .error e) :
    (∃ issues, e = .invalid issues ∧ Options.ofSettings s.taxonomy given = .error issues) ∨
      ∃ o failure, Options.ofSettings s.taxonomy given = .ok o ∧ e = .trailingNewline failure ∧
        failure.unknownKind = ⟨.kind .whitespace, some "\n"⟩ := by
  unfold ofSettings build at h
  cases hoptions : Options.ofSettings s.taxonomy given with
  | error issues =>
    rw [hoptions] at h
    exact .inl ⟨issues, (Except.error.inj h).symm, rfl⟩
  | ok o =>
    rw [hoptions] at h
    cases hnewline : o.spanRules.renderKind .whitespace "\n" with
    | ok newline => simp [ofOptions, hnewline, Except.map] at h
    | error failure =>
      simp only [ofOptions, hnewline, Except.map] at h
      exact .inr ⟨o, failure, rfl, (Except.error.inj h).symm,
        SpanRules.unknownKind_of_renderKind hnewline⟩

theorem ofRecord_nil {o : Options} (h : ofOptions o = .ok f) (s : Session) :
    ofRecord o [] s = (.ok f, s) := by
  simp [ofRecord, build, h]

/-! ### Failures of a formatter -/

theorem namesToken_of_flat {e : RunFailure} (h : (f.flat p tokens).failure = some e) :
    e.NamesToken f.options.spanRules p.taxonomy tokens := by
  obtain ⟨before, chunks, t, bad, failure, hstops, rfl, -, -⟩ := flat_of_error h
  have habout := SpanRules.about_of_render hstops.fails
  exact ⟨before, chunks, t, bad, failure, hstops, rfl, habout⟩

theorem namesToken_or_of_buffered {e : RunFailure} (h : (f.buffered l p tokens).failure = some e) :
    e.NamesToken f.options.spanRules p.taxonomy tokens ∨
      ∃ n, e = .lineNumber n ∧ ¬ f.options.NumbersFit (lineCount tokens) := by
  cases hflat : (f.flat p tokens).failure with
  | some e' =>
    rw [buffered_of_flat_of_error hflat] at h
    obtain rfl := Option.some.inj h
    exact .inl (namesToken_of_flat hflat)
  | none =>
    have hfits : ¬ f.options.NumbersFit (lineCount tokens) := by
      intro hfits
      rw [(failure_buffered_iff_flat f l p tokens).mpr ⟨hflat, hfits⟩] at h
      cases h
    obtain ⟨n, hn, -⟩ := buffered_of_flat_of_not_fits (l := l) hflat hfits
    rw [hn] at h
    exact .inr ⟨n, (Option.some.inj h).symm, hfits⟩

theorem stream_eq_or (f : Formatter) (p : Progress) (tokens : List Token) :
    f.stream p tokens = f.flat p tokens ∨
      f.stream p tokens = f.buffered f.options.layout p tokens := by
  unfold stream
  split
  · exact .inr rfl
  · exact .inl rfl

theorem failure_flat_nil (f : Formatter) (p : Progress) : (f.flat p []).failure = none := by
  rw [failure_flat]
  rfl

theorem failure_buffered_nil_iff (f : Formatter) (l : Layout) (p : Progress) :
    (f.buffered l p []).failure = none ↔ f.options.startLine.natAbs < Gutter.numberBound := by
  have hlines : lineCount [] = 1 := rfl
  rw [failure_buffered_iff_flat, hlines, Options.numbersFit_one_iff]
  exact and_iff_right (failure_flat_nil f p)

/-- Settings make a formatter exactly if they give options under which a line break can be rendered,
and otherwise it is reported which of the two fails. The options alone make the same formatter. What
it fails with is a token of its stream or a line number with too many digits, and without a token
there is one line number. -/
theorem ofArguments_complete (hrecord : recordKey ∉ given.map Prod.fst)
    (hown : ownKey ∉ given.map Prod.fst) (s : Session) :
    ((∃ f, (ofArguments given s).1 = .ok f) ↔
      ∃ o, Options.ofSettings s.taxonomy given = .ok o ∧
        (∃ k ∈ [Kind.whitespace, Kind.root.child "Text", .root],
          ∃ name, o.shortNames.own? k = some name) ∧
        ∀ name theme, o.shortNames.find? .whitespace = some name → o.theme = some theme →
          name ≠ "" → (theme.declarations? .whitespace).isSome) ∧
    (∀ e, (ofArguments given s).1 = .error e →
      (∃ issues, e = .invalid issues ∧ Options.ofSettings s.taxonomy given = .error issues) ∨
        ∃ o failure, Options.ofSettings s.taxonomy given = .ok o ∧ e = .trailingNewline failure ∧
          failure.unknownKind = ⟨.kind .whitespace, some "\n"⟩) ∧
    ∀ f, (ofArguments given s).1 = .ok f →
      ∃ o, Options.ofSettings s.taxonomy given = .ok o ∧
        (∀ s', ofRecord o [] s' = (.ok f, s')) ∧
        (∀ p tokens run e,
          (run = f.stream p tokens ∨ run = f.flat p tokens ∨ ∃ l, run = f.buffered l p tokens) →
          run.failure = some e →
          e.NamesToken o.spanRules p.taxonomy tokens ∨
            ∃ n, e = .lineNumber n ∧ ¬ o.NumbersFit (lineCount tokens)) ∧
        (∀ p, (f.flat p []).failure = none) ∧
        ∀ l p, (f.buffered l p []).failure = none ↔ o.startLine.natAbs < Gutter.numberBound := by
  rw [ofArguments_eq hrecord hown]
  refine ⟨?_, fun e => ofSettings_eq_error, fun f hok => ?_⟩
  · constructor
    · rintro ⟨f, hf⟩
      obtain ⟨o, hoptions, hf⟩ := ofSettings_eq_ok_iff.mp hf
      have hcan := exists_ofOptions_iff.mp ⟨f, hf⟩
      exact ⟨o, hoptions, Options.canRender_whitespace_iff.mp hcan⟩
    · rintro ⟨o, hoptions, hrender⟩
      have hcan := Options.canRender_whitespace_iff.mpr hrender
      obtain ⟨f, hf⟩ := exists_ofOptions_iff.mpr hcan
      exact ⟨f, ofSettings_eq_ok_iff.mpr ⟨o, hoptions, hf⟩⟩
  · obtain ⟨o, hoptions, hf⟩ := ofSettings_eq_ok_iff.mp hok
    obtain ⟨rfl, -⟩ := of_ofOptions hf
    refine ⟨_, hoptions, ofRecord_nil hf, ?_, failure_flat_nil f, failure_buffered_nil_iff f⟩
    intro p tokens run e hrun hfailure
    rcases hrun with rfl | rfl | ⟨l, rfl⟩
    · rcases stream_eq_or f p tokens with hstream | hstream
      · rw [hstream] at hfailure
        exact .inl (namesToken_of_flat hfailure)
      · rw [hstream] at hfailure
        exact namesToken_or_of_buffered hfailure
    · exact .inl (namesToken_of_flat hfailure)
    · exact namesToken_or_of_buffered hfailure

/-- Settings of short names that list white space under one of its ancestors alone. -/
def ancestorSettings : List (String × Setting) :=
  [("shortNames", .mapping [(.kind (Kind.root.child "Text"), .text "t")])]

theorem ofArguments_complete_ancestor :
    recordKey ∉ ancestorSettings.map Prod.fst ∧ ownKey ∉ ancestorSettings.map Prod.fst ∧
      ∃ f, (ofArguments ancestorSettings {}).1 = .ok f ∧
        ∀ l p, (f.buffered l p []).failure = none := by
  have hrecord : recordKey ∉ ancestorSettings.map Prod.fst := by decide
  have hown : ownKey ∉ ancestorSettings.map Prod.fst := by decide
  obtain ⟨hmakes, -, hmade⟩ := ofArguments_complete hrecord hown {}
  have hok : ∃ f, (ofArguments ancestorSettings {}).1 = .ok f := by
    refine hmakes.mpr ⟨_, rfl, ⟨Kind.root.child "Text", by simp, "t", rfl⟩, ?_⟩
    rintro name theme - hnone
    cases hnone
  obtain ⟨f, hf⟩ := hok
  obtain ⟨o, hoptions, -, -, -, hempty⟩ := hmade f hf
  have hstart : o.startLine = 1 := by
    obtain rfl := Except.ok.inj hoptions
    rfl
  refine ⟨hrecord, hown, f, hf, fun l p => (hempty l p).mpr ?_⟩
  rw [hstart]
  exact Nat.lt_of_lt_of_le (by decide) (le_numberBound (Nat.le_refl 10))

/-- Settings for numbers that start at the greatest one that is written. -/
def lastNumberSettings : List (String × Setting) :=
  [("line_numbers", .value (.bool true)),
    ("start_line", .value (.int ((Gutter.numberBound : Int) - 1)))]

/-- A formatter that is made without complaint fails with the number of a second line, though the
token of the two lines has markup. -/
theorem second_number_fails :
    (ofArguments lastNumberSettings {}).1 = .ok numberedLast ∧
      (Run.ofTokens numberedLast.options.spanRules {} (blankTokens "x\ny")).failure = none ∧
      ∃ n, (numberedLast.stream {} (blankTokens "x\ny")).text = .error (.lineNumber n) := by
  have hmade : (ofArguments lastNumberSettings {}).1 = .ok numberedLast := by
    rw [ofArguments_eq (by decide) (by decide)]
    refine ofSettings_eq_ok_iff.mpr ⟨_, rfl, ofOptions_eq_ok_iff.mpr ⟨rfl, ?_⟩⟩
    exact renderKind_standard "\n"
  have hrun : (Run.ofTokens numberedLast.options.spanRules {} (blankTokens "x\ny")).failure =
      none := failure_standard {} "x\ny"
  have hlines : lineCount (blankTokens "x\ny") = 2 := by decide +kernel
  have hfits : ¬ numberedLast.options.NumbersFit (lineCount (blankTokens "x\ny")) := by
    rw [hlines]
    refine Options.not_numbersFit_of_le (i := 1) (by decide) ?_
    rw [numberedLast]
    simp only
    omega
  obtain ⟨n, hn⟩ := buffered_of_not_fits (f := numberedLast) (l := .table) hrun hfits
  refine ⟨hmade, hrun, n, ?_⟩
  have hnumbered : numberedLast.options.lineNumbers = true := rfl
  have hlayout : numberedLast.options.layout = .table := rfl
  rw [stream, if_pos hnumbered, hlayout, hn]
  rfl

end Formatter

end CodeMarkup
