import CodeMarkup.Proofs.Markup.Element
import CodeMarkup.Span

/-!
Tokens as a reader of their markup meets them: a text or one `span` element around it. Everything
but short names is escaped, so this holds for every theme, and for short names that stand for
themselves in an attribute. The short names of the standard kinds do.
-/

namespace CodeMarkup

open Markup

/-- A token as it is meant to be read: its text and, if it is tagged, the attribute of its span. -/
structure Span where
  mark : Option (String × String)
  text : String
  deriving DecidableEq, Repr

/-- The events of a token: an element if it is tagged, its text alone otherwise. -/
def Span.events (s : Span) : List Event :=
  match s.mark with
  | none => Markup.text s.text
  | some mark => element "span" [mark] (Markup.text s.text)

theorem Span.balanced_events (s : Span) : Balanced s.events := by
  unfold Span.events
  split
  · exact balanced_text s.text
  · exact balanced_element _ _ (balanced_text s.text)

@[simp] theorem Span.characters_events (s : Span) : characters s.events = s.text.toList := by
  unfold Span.events
  split <;> simp

namespace SpanRules

/-- The attribute that tokens of a kind are shown with. An empty short name stands for none, and a
theme puts its declarations in place of the short name. -/
inductive Shows (r : SpanRules) (k : Kind) : Option (String × String) → Prop
  | untagged : r.names.find? k = some "" → Shows r k none
  | classed {name : String} :
      r.theme = none → r.names.find? k = some name → name ≠ "" → Shows r k (some ("class", name))
  | styled {theme : Theme} {name : String} {declarations : List String} :
      r.theme = some theme → r.names.find? k = some name → name ≠ "" →
      theme.declarations? k = some declarations →
      Shows r k (some ("style", ";".intercalate declarations))

/-- The spans that a stream of tokens is shown as, where each token given by a kind adds that kind
to the taxonomy. -/
inductive ShowsAll (r : SpanRules) : Taxonomy → List Token → List Span → Prop
  | nil {t : Taxonomy} : ShowsAll r t [] []
  | cons {t : Taxonomy} {token : Token} {tokens : List Token} {k : Kind} {spans : List Span}
      {mark : Option (String × String)} :
      token.kind.resolve? (token.kind.register t) = some k → Shows r k mark →
      ShowsAll r (token.kind.register t) tokens spans →
      ShowsAll r t (token :: tokens) (⟨mark, token.text⟩ :: spans)

/-- Every short name that is written as a class stands for itself inside an attribute. -/
def PlainNames (r : SpanRules) : Prop :=
  r.theme = none → ∀ k name, r.names.find? k = some name →
    Inert name.toList ∧ decode name.toList = name.toList

theorem renderKind_of_classed {r : SpanRules} {k : Kind} {name text : String}
    (htheme : r.theme = none) (hname : r.names.find? k = some name) (hne : name ≠ "") :
    r.renderKind k text = .ok (element "class" name (escapeText text)) := by
  simp only [renderKind, htheme, hname, hne, ↓reduceIte]

theorem renderKind_of_untagged {r : SpanRules} {k : Kind} {text : String}
    (htheme : r.theme = none) (hname : r.names.find? k = some "") :
    r.renderKind k text = .ok (escapeText text) := by
  simp only [renderKind, htheme, hname, ↓reduceIte]

theorem read_span {label value content : String} {events : List Event}
    (hlabel : isName label.toList = true) (hvalue : Inert value.toList)
    (hcontent : Markup.read content = some events) :
    Markup.read (element label value content) =
      some (Markup.element "span" [(label, String.ofList (decode value.toList))] events) := by
  have hopening : Markup.read ("<" ++ "span" ++ " " ++ label ++ "=\"" ++ value ++ "\">") = _ :=
    read_opening rfl hlabel hvalue
  have hclosing : Markup.read "</span>" = some [.closing "span"] := by rfl
  exact read_element hopening hcontent hclosing

theorem read_renderKind {r : SpanRules} (hr : r.PlainNames) {k : Kind} {text markup : String}
    (h : r.renderKind k text = .ok markup) :
    ∃ mark, r.Shows k mark ∧
      Markup.read markup = some (Span.events ⟨mark, text⟩) := by
  unfold renderKind at h
  split at h
  · cases h
  · next name hname =>
    split at h
    · next htheme =>
      by_cases hempty : name = ""
      · rw [if_pos hempty] at h
        cases h
        exact ⟨none, .untagged (hempty ▸ hname), read_escapeText text⟩
      · rw [if_neg hempty] at h
        cases h
        obtain ⟨hinert, hdecode⟩ := hr htheme k name hname
        refine ⟨_, .classed htheme hname hempty, ?_⟩
        rw [read_span rfl hinert (read_escapeText text), hdecode, String.ofList_toList]
        rfl
    · next theme htheme =>
      by_cases hempty : name = ""
      · rw [if_pos hempty] at h
        cases h
        exact ⟨none, .untagged (hempty ▸ hname), read_escapeAll text⟩
      · rw [if_neg hempty] at h
        split at h
        · cases h
        · next declarations hdeclarations =>
          cases h
          refine ⟨_, .styled htheme hname hempty hdeclarations, ?_⟩
          rw [read_span rfl (inert_escapeAll _) (read_escapeAll text), decode_escapeAll,
            String.ofList_toList]
          rfl

theorem read_render {r : SpanRules} (hr : r.PlainNames) {t : Taxonomy} {token : Token}
    {markup : String} (h : r.render t token = .ok markup) :
    ∃ k mark, token.kind.resolve? t = some k ∧ r.Shows k mark ∧
      Markup.read markup = some (Span.events ⟨mark, token.text⟩) := by
  unfold render at h
  split at h
  · cases h
  · next k hk =>
    obtain ⟨mark, hshows, hread⟩ := read_renderKind hr h
    exact ⟨k, mark, hk, hshows, hread⟩

end SpanRules

/-! ### The standard short names -/

namespace ShortNames

theorem own?_standard (k : Kind) :
    standard.own? k =
      (valueAt? k (standardPaths.reverse.map fun e => (Kind.ofDotted e.1, some e.2))).join := by
  rw [own?, standard, Dictionary.get?_ofList, Kind.standard, List.map_map, ← List.map_reverse]
  rfl

theorem own?_standard_ofDotted (path : String) :
    standard.own? (.ofDotted path) = valueAt? path standardPaths.reverse := by
  rw [own?_standard, valueAt?_map some Kind.ofDotted_injective]
  cases valueAt? path standardPaths.reverse <;> rfl

/-- The short name of a kind that has one of its own is that one. -/
theorem find?_of_own? {names : ShortNames} {k : Kind} {name : String}
    (h : names.own? k = some name) : names.find? k = some name := by
  unfold find?
  cases k with
  | root => simp [Kind.nearest?, Kind.lineage, h]
  | child parent segment =>
    rw [Kind.nearest?_child, h]
    rfl

theorem find?_standard_ofDotted {path name : String}
    (h : valueAt? path standardPaths.reverse = some name) :
    standard.find? (.ofDotted path) = some name :=
  find?_of_own? ((own?_standard_ofDotted path).trans h)

theorem mem_standardPaths_of_find? {k : Kind} {name : String} (h : standard.find? k = some name) :
    ∃ path, (path, name) ∈ standardPaths := by
  obtain ⟨j, -, hj⟩ := List.exists_of_findSome?_eq_some h
  rw [own?_standard, Option.join_eq_some_iff] at hj
  obtain ⟨⟨path, _⟩, hpath, hentry⟩ := List.mem_map.mp (mem_of_valueAt? hj)
  simp only [Prod.mk.injEq, Option.some.injEq] at hentry
  obtain ⟨-, rfl⟩ := hentry
  exact ⟨path, List.mem_reverse.mp hpath⟩

end ShortNames

theorem isAlphanum_of_mem_standardPaths {path name : String} (h : (path, name) ∈ standardPaths)
    {c : Char} (hc : c ∈ name.toList) : c.isAlphanum = true := by
  have hall : (standardPaths.all fun e => e.2.toList.all Char.isAlphanum) = true := by
    decide +kernel
  exact List.all_eq_true.mp (List.all_eq_true.mp hall _ h) c hc

theorem SpanRules.plainNames_of {r : SpanRules} (h : r.theme.isSome ∨ r.names = .standard) :
    r.PlainNames := by
  intro htheme k name hname
  rcases h with h | h
  · simp [htheme] at h
  · rw [h] at hname
    obtain ⟨path, hpath⟩ := ShortNames.mem_standardPaths_of_find? hname
    have halnum : ∀ c ∈ name.toList, c.isAlphanum = true := fun c hc =>
      isAlphanum_of_mem_standardPaths hpath hc
    have hamp : '&' ∉ name.toList := fun hc => absurd (halnum _ hc) (by decide)
    exact ⟨inert_of_all halnum (by decide) (by decide) (by decide), decode_eq_self hamp⟩

end CodeMarkup
