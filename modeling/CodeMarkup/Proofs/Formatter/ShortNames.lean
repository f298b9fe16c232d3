import CodeMarkup.Proofs.Formatter.Page
import CodeMarkup.Proofs.Span.ClassName

/-!
Short names of one's own. They are the one thing that a caller gives and that is written as it is,
so how far markup can be read hangs on them: if all names of a mapping stand for themselves in an
attribute, the whole markup is balanced, and a token with a name that does not is never read back.
-/

namespace CodeMarkup

open Markup

namespace Formatter

variable {o : Options} {f : Formatter} {p : Progress} {tokens : List Token}

/-- Markup of any layout is balanced if the short names stand for themselves. -/
theorem readsAs_stream (hf : ofOptions o = .ok f) (hplain : o.spanRules.PlainNames)
    {markup : String} (h : (f.stream p tokens).text = .ok markup) :
    ∃ events, ReadsAs markup events := by
  obtain ⟨hfailure, rfl⟩ := Run.text_eq_ok_iff.mp h
  obtain ⟨rfl, -⟩ := of_ofOptions hf
  unfold stream at hfailure ⊢
  by_cases hnumbers : f.options.lineNumbers = true
  · simp only [if_pos hnumbers] at hfailure ⊢
    have hrun := (failure_buffered_eq_none_iff.mp hfailure).1
    obtain ⟨_, _, _, _, hread⟩ := read_closedCode_of_plainNames hf hplain hrun
    rw [chunks_buffered hfailure]
    exact ⟨_, readsAs_of_read (read_numbered hread) (f.options.balanced_numberedPage _ _ _)⟩
  · simp only [if_neg hnumbers] at hfailure ⊢
    have hrun := (failure_flat f p tokens).symm.trans hfailure
    obtain ⟨_, _, hread⟩ := SpanRules.read_ofTokens hplain hrun
    rw [chunks_flat_of_ok hfailure]
    exact ⟨_, readsAs_of_read (read_flatChunks hread) (f.options.balanced_flatPage _)⟩

/-- The mapping with one name, for white space. -/
def blankNames (name : String) : List (KindRef × Value) :=
  [(.kind .whitespace, .text name)]

/-- The formatter with the short names of that mapping. -/
def blankNamed (name : String) : Formatter :=
  ⟨{ shortNames := ⟨.ofList [(.whitespace, some name)]⟩ },
    SpanRules.element "class" name (escapeText "\n")⟩

theorem ofMapping_blankNames {name : String} (hne : name ≠ "") (t : Taxonomy) :
    ShortNames.ofMapping t (blankNames name) = .ok (blankNamed name).options.shortNames := by
  have hname : Value.shortName? (.text name) = some name := by
    simp [Value.shortName?, Value.isPresent, Value.plain, hne]
  have hmapping : ShortNames.ofMapping t (blankNames name) =
      .ok ⟨.ofList [(.whitespace, Value.shortName? (.text name))]⟩ := rfl
  rw [hmapping, hname]
  rfl

theorem find?_blankNamed (name : String) :
    (blankNamed name).options.shortNames.find? .whitespace = some name := by
  refine ShortNames.find?_of_own? ?_
  simp [blankNamed, ShortNames.own?, Dictionary.get?_ofList, valueAt?]

theorem renderKind_blankNamed {name : String} (hne : name ≠ "") (text : String) :
    (blankNamed name).options.spanRules.renderKind .whitespace text =
      .ok (SpanRules.element "class" name (escapeText text)) :=
  SpanRules.renderKind_of_classed rfl (find?_blankNamed name) hne

theorem ofOptions_blankNamed {name : String} (hne : name ≠ "") :
    ofOptions (blankNamed name).options = .ok (blankNamed name) := by
  rw [ofOptions, renderKind_blankNamed hne]
  rfl

/-- In class mode a tagged token reads back as its one span exactly if its short name stands for
itself in an attribute, and all markup is balanced if every name of the mapping does. -/
theorem readsAs_classed {t : Taxonomy} {es : List (KindRef × Value)} (hf : ofOptions o = .ok f)
    (hnames : ShortNames.ofMapping t es = .ok o.shortNames) (htheme : o.theme = none) :
    (∀ t' token k name markup, token.kind.resolve? t' = some k →
      o.shortNames.find? k = some name → name ≠ "" → o.spanRules.render t' token = .ok markup →
      (ReadsAs markup (Span.events ⟨some ("class", name), token.text⟩) ↔
        Inert name.toList ∧ decode name.toList = name.toList)) ∧
    ((∀ entry ∈ es, ∀ name, entry.2.shortName? = some name →
        Inert name.toList ∧ decode name.toList = name.toList) →
      ∀ p tokens markup, (f.stream p tokens).text = .ok markup →
        ∃ events, ReadsAs markup events) := by
  constructor
  · intro t' token k name markup hk hname hne hmarkup
    have hkind : o.spanRules.render t' token = o.spanRules.renderKind k token.text := by
      simp only [SpanRules.render, hk]
    rw [hkind, SpanRules.renderKind_of_classed htheme hname hne] at hmarkup
    obtain rfl := Except.ok.inj hmarkup
    rw [← SpanRules.read_classed_iff]
    exact ⟨ReadsAs.read_eq, fun h => readsAs_of_read h (Span.balanced_events _)⟩
  · intro hplain p tokens markup htext
    exact readsAs_stream hf (SpanRules.plainNames_of_mapping hnames hplain) htext

theorem readsAs_classed_apostrophe :
    ShortNames.ofMapping .standard (blankNames "it's") =
        .ok (blankNamed "it's").options.shortNames ∧
      ReadsAs (SpanRules.element "class" "it's" (escapeText "a<b"))
        (Span.events ⟨some ("class", "it's"), "a<b"⟩) ∧
      ∃ markup events, ((blankNamed "it's").stream {} (blankTokens "a")).text = .ok markup ∧
        ReadsAs markup events := by
  have hne : "it's" ≠ "" := by decide
  have hnames := ofMapping_blankNames hne .standard
  have hplain : Inert "it's".toList ∧ decode "it's".toList = "it's".toList := by
    constructor
    · simp [Inert]
    · exact decode_eq_self (by simp)
  obtain ⟨htoken, hwhole⟩ := readsAs_classed (ofOptions_blankNamed hne) hnames rfl
  have hall : ∀ entry ∈ blankNames "it's", ∀ name, entry.2.shortName? = some name →
      Inert name.toList ∧ decode name.toList = name.toList := by
    intro entry hentry name hname
    obtain rfl := List.mem_singleton.mp hentry
    obtain rfl : "it's" = name := by
      simpa [Value.shortName?, Value.isPresent, Value.plain] using hname
    exact hplain
  have hrender (text : String) (t : Taxonomy) : (blankNamed "it's").options.spanRules.render t
      ⟨.kind .whitespace, text⟩ = .ok (SpanRules.element "class" "it's" (escapeText text)) :=
    renderKind_blankNamed hne text
  have hrun : ((blankNamed "it's").stream {} (blankTokens "a")).failure = none := by
    show ((blankNamed "it's").flat {} (blankTokens "a")).failure = none
    rw [failure_flat]
    exact (Run.ofTokens_single (renderKind_blankNamed hne "a") {}).1
  have htext := Run.text_eq_ok_iff.mpr ⟨hrun, rfl⟩
  obtain ⟨events, hevents⟩ := hwhole hall {} _ _ htext
  refine ⟨hnames, ?_, _, events, htext, hevents⟩
  exact (htoken .standard ⟨.kind .whitespace, "a<b"⟩ .whitespace _ _ rfl (find?_blankNamed _) hne
    (hrender "a<b" _)).mpr hplain

/-- A name that closes its attribute and its tag opens an element, which nothing closes. -/
theorem hostile_name_opens_element :
    ShortNames.ofMapping .standard (blankNames "\"><b title=\"") =
        .ok (blankNamed "\"><b title=\"").options.shortNames ∧
      ofOptions (blankNamed "\"><b title=\"").options = .ok (blankNamed "\"><b title=\"") ∧
      ∃ markup, (blankNamed "\"><b title=\"").options.spanRules.render .standard
          ⟨.kind .whitespace, "x"⟩ = .ok markup ∧
        Markup.read markup = some [.opening "span" [("class", "")],
          .opening "b" [("title", "")], .char 'x', .closing "span"] ∧
        ∀ events, ¬ ReadsAs markup events := by
  have hne : "\"><b title=\"" ≠ "" := by decide
  have hread : Markup.read (SpanRules.element "class" "\"><b title=\"" (escapeText "x")) =
      some [.opening "span" [("class", "")], .opening "b" [("title", "")], .char 'x',
        .closing "span"] := rfl
  refine ⟨ofMapping_blankNames hne .standard, ofOptions_blankNamed hne, _,
    renderKind_blankNamed hne "x", hread, ?_⟩
  intro events h
  obtain rfl := Option.some.inj (hread.symm.trans h.read_eq)
  exact absurd h.balanced.tagCount_mod_two (by decide)

end Formatter

end CodeMarkup
