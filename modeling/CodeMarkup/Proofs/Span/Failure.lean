import CodeMarkup.Proofs.Kind.Nearest
import CodeMarkup.Proofs.Span.Reading

/-!
Tokens without markup. Three lookups have to succeed for a token: that of its kind, that of a short
name for it and, if the name is not empty, that of declarations in a theme. The first that does not
is reported, with the text of the token and with its kind, which is given as it was if it is the
kind that is not found.
-/

namespace CodeMarkup

theorem Style.isSome_declarations?_of_root {s : Style} (h : s.infos.contains .root = true)
    (k : Kind) : (s.declarations? k).isSome := by
  have hroot : s.infos.get? .root ≠ none := by
    simpa [Dictionary.contains, Option.isSome_iff_ne_none] using h
  obtain ⟨info, hinfo⟩ := Kind.exists_nearest?_of_root hroot k
  rw [declarations?, hinfo]
  rfl

namespace ShortNames

theorem exists_find?_standard (k : Kind) : ∃ name, standard.find? k = some name := by
  have hroot : standard.own? .root = some "" := own?_standard_ofDotted ""
  refine Kind.exists_nearest?_of_root ?_ k
  rw [hroot]
  exact Option.some_ne_none ""

end ShortNames

namespace SpanRules

variable {r : SpanRules} {t : Taxonomy} {token : Token} {k : Kind} {u : UnknownKind}

/-- What is missing for a token: its kind, a name that is listed for its kind or an ancestor of it,
or declarations for its kind if the nearest such name is not empty. -/
inductive Misses (r : SpanRules) (t : Taxonomy) (token : Token) : UnknownKind → Prop
  | kind : token.kind.resolve? t = none → Misses r t token ⟨token.kind, some token.text⟩
  | name {k : Kind} : token.kind.resolve? t = some k →
      (∀ j, j.path <+: k.path → r.names.own? j = none) →
      Misses r t token ⟨.kind k, some token.text⟩
  | declarations {k j : Kind} {name : String} {theme : Theme} :
      token.kind.resolve? t = some k → k.Nearest r.names.own? j name → name ≠ "" →
      r.theme = some theme → theme.declarations? k = none →
      Misses r t token ⟨.kind k, some token.text⟩

/-- The rules with another theme, or without one. -/
def withTheme (r : SpanRules) (theme : Option Theme) : SpanRules :=
  { r with theme := theme }

theorem render_of_resolve? (h : token.kind.resolve? t = some k) :
    r.render t token = r.renderKind k token.text := by
  simp only [render, h]

theorem misses_of_render {failure : SpanFailure} (h : r.render t token = .error failure) :
    r.Misses t token failure.unknownKind := by
  cases hk : token.kind.resolve? t with
  | none =>
    simp only [render, hk] at h
    obtain rfl := Except.error.inj h
    exact .kind hk
  | some k =>
    rw [render_of_resolve? hk, renderKind] at h
    split at h
    · next hname =>
      obtain rfl := Except.error.inj h
      exact .name hk (ShortNames.find?_eq_none_iff.mp hname)
    · next name hname =>
      obtain ⟨j, hnearest⟩ := ShortNames.find?_eq_some_iff.mp hname
      split at h
      · cases h
      · next theme htheme =>
        split at h
        · cases h
        · next hne =>
          split at h
          · next hdeclarations =>
            obtain rfl := Except.error.inj h
            exact .declarations hk hnearest hne htheme hdeclarations
          · cases h

theorem Misses.exists_render (h : r.Misses t token u) :
    ∃ failure, r.render t token = .error failure ∧ failure.unknownKind = u := by
  cases h with
  | kind hk =>
    refine ⟨.unresolved token.kind token.text, ?_, rfl⟩
    simp only [render, hk]
  | @name k hk hnone =>
    have hname := ShortNames.find?_eq_none_iff.mpr hnone
    refine ⟨.unnamed k token.text, ?_, rfl⟩
    simp only [render_of_resolve? hk, renderKind, hname]
  | @declarations k j name theme hk hnearest hne htheme hdeclarations =>
    have hname := ShortNames.find?_eq_some_iff.mpr ⟨j, hnearest⟩
    refine ⟨.unstyled k token.text, ?_, rfl⟩
    simp only [render_of_resolve? hk, renderKind, hname, htheme, hne, hdeclarations, ↓reduceIte]

theorem renderKind_of_empty (h : r.names.find? k = some "") (theme : Option Theme)
    (text : String) :
    (r.withTheme theme).renderKind k text =
      .ok (if theme.isSome then escapeAll text else escapeText text) := by
  cases theme <;> simp [renderKind, withTheme, h]

/-- Whether a kind can be rendered: it has a short name, and a theme that is asked about it has
rules for it. No theme is asked where the name is empty. -/
def CanRender (r : SpanRules) (k : Kind) : Prop :=
  ∃ name, r.names.find? k = some name ∧
    ∀ theme, r.theme = some theme → name ≠ "" → (theme.declarations? k).isSome

theorem renderKind_isOk_iff (text : String) :
    (∃ markup, r.renderKind k text = .ok markup) ↔ r.CanRender k := by
  unfold renderKind CanRender
  cases hname : r.names.find? k with
  | none => simp
  | some name =>
    cases htheme : r.theme with
    | none => simp
    | some theme =>
      by_cases hempty : name = ""
      · simp [hempty]
      · cases hdeclarations : theme.declarations? k <;> simp [hempty, hdeclarations]

theorem exists_resolve?_of_render {markup : String} (h : r.render t token = .ok markup) :
    ∃ k, token.kind.resolve? t = some k := by
  unfold render at h
  split at h
  · cases h
  · next k hk => exact ⟨k, hk⟩

/-- A token has no markup exactly if something is missing for it, and this is what is reported. A
theme is not asked where the nearest name is empty. A theme made of a style that lists the root has
declarations for all kinds: it never makes a token fail, and with the standard names no token of a
kind that exists does. -/
theorem render_error_iff (r : SpanRules) (t : Taxonomy) (token : Token) :
    (∀ u, (∃ failure, r.render t token = .error failure ∧ failure.unknownKind = u) ↔
      r.Misses t token u) ∧
    (∀ k j, token.kind.resolve? t = some k → k.Nearest r.names.own? j "" → ∀ theme,
      (r.withTheme theme).render t token =
        .ok (if theme.isSome then escapeAll token.text else escapeText token.text)) ∧
    (r.names = .standard →
      (∀ theme, r.theme = some theme → ∃ s, theme = .style s ∧ s.infos.contains .root = true) →
      (∃ k, token.kind.resolve? t = some k) → ∃ markup, r.render t token = .ok markup) ∧
    ∀ s : Style, s.infos.contains .root = true →
      (∃ markup, (r.withTheme none).render t token = .ok markup) →
      ∃ markup, (r.withTheme (some (.style s))).render t token = .ok markup := by
  refine ⟨fun u => ?_, fun k j hk hnearest theme => ?_, ?_, ?_⟩
  · constructor
    · rintro ⟨failure, hfailure, rfl⟩
      exact misses_of_render hfailure
    · exact Misses.exists_render
  · rw [render_of_resolve? hk]
    exact renderKind_of_empty (ShortNames.find?_eq_some_iff.mpr ⟨j, hnearest⟩) theme token.text
  · rintro hnames htheme ⟨k, hk⟩
    obtain ⟨name, hname⟩ := ShortNames.exists_find?_standard k
    rw [render_of_resolve? hk, renderKind_isOk_iff]
    refine ⟨name, hnames ▸ hname, fun theme hr _ => ?_⟩
    obtain ⟨s, rfl, hroot⟩ := htheme theme hr
    exact s.isSome_declarations?_of_root hroot k
  · rintro s hroot ⟨markup, hmarkup⟩
    obtain ⟨k, hk⟩ := exists_resolve?_of_render hmarkup
    rw [render_of_resolve? hk] at hmarkup
    obtain ⟨name, hname, -⟩ := (renderKind_isOk_iff token.text).mp ⟨markup, hmarkup⟩
    rw [render_of_resolve? hk, renderKind_isOk_iff]
    refine ⟨name, hname, fun theme hr _ => ?_⟩
    obtain rfl : .style s = theme := Option.some.inj hr
    exact s.isSome_declarations?_of_root hroot k

/-- Names for keywords and for texts that are not tagged, and a theme without any declarations. -/
def keywordRules : SpanRules where
  names := ⟨.ofList [(Kind.root.child "Keyword", some "k"), (Kind.root.child "Text", some "")]⟩
  theme := some (.resolver fun _ => none)

theorem render_error_iff_keywordRules :
    (∃ failure, keywordRules.render .standard ⟨.value .null, "x"⟩ = .error failure ∧
      failure.unknownKind = ⟨.value .null, some "x"⟩) ∧
    (∃ failure, keywordRules.render .standard ⟨.kind (Kind.root.child "Name"), "x"⟩ =
      .error failure ∧ failure.unknownKind = ⟨.kind (Kind.root.child "Name"), some "x"⟩) ∧
    (∃ failure, keywordRules.render .standard
        ⟨.kind ((Kind.root.child "Keyword").child "Made"), "x"⟩ = .error failure ∧
      failure.unknownKind = ⟨.kind ((Kind.root.child "Keyword").child "Made"), some "x"⟩) ∧
    keywordRules.render .standard ⟨.kind ((Kind.root.child "Text").child "Made"), "<"⟩ =
      .ok "&lt;" := by
  have hname : ∀ j, j.path <+: (Kind.root.child "Name").path →
      keywordRules.names.own? j = none := ShortNames.find?_eq_none_iff.mp rfl
  have hkeyword : ((Kind.root.child "Keyword").child "Made").Nearest keywordRules.names.own?
      (Kind.root.child "Keyword") "k" :=
    (Kind.nearest_self (f := keywordRules.names.own?) rfl).child rfl
  have htext : ((Kind.root.child "Text").child "Made").Nearest keywordRules.names.own?
      (Kind.root.child "Text") "" :=
    (Kind.nearest_self (f := keywordRules.names.own?) rfl).child rfl
  refine ⟨((render_error_iff keywordRules _ _).1 _).mpr (.kind rfl),
    ((render_error_iff keywordRules _ _).1 _).mpr (.name rfl hname),
    ((render_error_iff keywordRules _ _).1 _).mpr
      (.declarations rfl hkeyword (by decide) rfl rfl), ?_⟩
  exact (render_error_iff keywordRules .standard
    ⟨.kind ((Kind.root.child "Text").child "Made"), "<"⟩).2.1 _ _ rfl htext keywordRules.theme

end SpanRules

end CodeMarkup
