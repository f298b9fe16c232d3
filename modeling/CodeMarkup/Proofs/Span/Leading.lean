import CodeMarkup.Proofs.Markup.Displayed
import CodeMarkup.Proofs.Run.Stream
import CodeMarkup.Proofs.Span.Reading

/-!
What the markup of tokens starts with. A tagged token starts with its tag whatever its short name
is, and escaping leaves a line feed where it is, so a line feed comes first exactly if the first
text that is shown starts with one and is not tagged.
-/

namespace CodeMarkup

open Markup

/-- Markup starts with nothing, with a line feed or with something else, as what is read of it
does. -/
structure StartsAlike (cs : List Char) (events : List Event) : Prop where
  empty : cs = [] ↔ events = []
  feed : cs.head? = some '\n' ↔ events.head? = some (.char '\n')

theorem StartsAlike.append {cs ds : List Char} {events more : List Event}
    (h : StartsAlike cs events) (hd : StartsAlike ds more) :
    StartsAlike (cs ++ ds) (events ++ more) := by
  cases cs with
  | nil =>
    obtain rfl := h.empty.mp rfl
    exact hd
  | cons c cs =>
    cases events with
    | nil => exact absurd (h.empty.mpr rfl) (by simp)
    | cons event events => exact ⟨by simp, by simpa using h.feed⟩

theorem startsAlike_escapeChar (quotes : Bool) (c : Char) :
    StartsAlike (escapeChar quotes c) [.char c] := by
  refine ⟨by simp [escapeChar_ne_nil], ?_⟩
  by_cases hc : c = '\n'
  · simp [hc, escapeChar]
  · have hhead : (escapeChar quotes c).head? ≠ some '\n' := by
      unfold escapeChar
      repeat' split
      all_goals simp [hc]
    simp [hhead, hc]

theorem startsAlike_escapeChars (quotes : Bool) (cs : List Char) :
    StartsAlike (escapeChars quotes cs) (cs.map .char) := by
  induction cs with
  | nil => exact ⟨by simp, by simp⟩
  | cons c cs ih => exact (startsAlike_escapeChar quotes c).append ih

theorem startsAlike_element (label value content : String) (mark : String × String)
    (events : List Event) :
    StartsAlike (SpanRules.element label value content).toList
      (Markup.element "span" [mark] events) := by
  have hhead : (SpanRules.element label value content).toList.head? = some '<' := by
    simp [SpanRules.element]
  refine ⟨?_, ?_⟩
  · constructor
    · intro h
      simp [h] at hhead
    · intro h
      simp [Markup.element] at h
  · simp [hhead, Markup.element]

namespace SpanRules

variable {r : SpanRules} {k : Kind} {text markup : String} {t t' : Taxonomy} {tokens : List Token}
  {chunks : List String} {spans : List Span}

theorem exists_shows (h : r.renderKind k text = .ok markup) : ∃ mark, r.Shows k mark := by
  unfold renderKind at h
  split at h
  · cases h
  · next name hname =>
    by_cases hempty : name = ""
    · exact ⟨none, .untagged (hempty ▸ hname)⟩
    · split at h
      · next htheme => exact ⟨_, .classed htheme hname hempty⟩
      · next theme htheme =>
        rw [if_neg hempty] at h
        split at h
        · cases h
        · next hdeclarations => exact ⟨_, .styled htheme hname hempty hdeclarations⟩

theorem exists_showsAll (h : r.Renders t tokens chunks t') :
    ∃ spans, r.ShowsAll t tokens spans := by
  induction h with
  | nil => exact ⟨[], .nil⟩
  | cons hchunk _ ih =>
    obtain ⟨spans, hall⟩ := ih
    unfold render at hchunk
    split at hchunk
    · cases hchunk
    · next k hk =>
      obtain ⟨mark, hmark⟩ := exists_shows hchunk
      exact ⟨_, .cons hk hmark hall⟩

theorem Shows.startsAlike {mark : Option (String × String)} (h : r.Shows k mark)
    (hmarkup : r.renderKind k text = .ok markup) :
    StartsAlike markup.toList (Span.events ⟨mark, text⟩) := by
  have hescaped (quotes : Bool) :
      StartsAlike (String.ofList (escapeChars quotes text.toList)).toList
        (Span.events ⟨none, text⟩) := by
    rw [String.toList_ofList]
    exact startsAlike_escapeChars quotes text.toList
  cases h with
  | untagged hname =>
    cases htheme : r.theme with
    | none =>
      obtain rfl : escapeText text = markup := by simpa [renderKind, hname, htheme] using hmarkup
      exact hescaped false
    | some theme =>
      obtain rfl : escapeAll text = markup := by simpa [renderKind, hname, htheme] using hmarkup
      exact hescaped true
  | classed htheme hname hne =>
    rw [renderKind_of_classed htheme hname hne] at hmarkup
    obtain rfl := Except.ok.inj hmarkup
    exact startsAlike_element _ _ _ _ _
  | styled htheme hname hne hdeclarations =>
    simp only [renderKind, htheme, hname, hne, hdeclarations, ↓reduceIte] at hmarkup
    obtain rfl := Except.ok.inj hmarkup
    exact startsAlike_element _ _ _ _ _

theorem ShowsAll.startsAlike (h : r.ShowsAll t tokens spans) (hr : r.Renders t tokens chunks t') :
    StartsAlike (String.join chunks).toList (spans.flatMap Span.events) := by
  induction h generalizing chunks with
  | nil =>
    cases hr
    exact ⟨by simp, by simp⟩
  | cons hk hshows _ ih =>
    cases hr with
    | cons hchunk hchunks =>
      simp only [render, hk] at hchunk
      rw [String.join_cons, String.toList_append, List.flatMap_cons]
      exact (hshows.startsAlike hchunk).append (ih hchunks)

end SpanRules

/-- Spans show a line feed before anything else: it starts a text that is not tagged, and what comes
before this text is empty and not tagged either. -/
def LeadsWithFeed (spans : List Span) : Prop :=
  ∃ before text after, spans = before ++ ⟨none, text⟩ :: after ∧
    (∀ span ∈ before, span = ⟨none, ""⟩) ∧ text.toList.head? = some '\n'

theorem head?_flatMap_events {spans : List Span} :
    (spans.flatMap Span.events).head? = some (.char '\n') ↔ LeadsWithFeed spans := by
  constructor
  · intro h
    induction spans with
    | nil => simp at h
    | cons span spans ih =>
      obtain ⟨mark, text⟩ := span
      cases mark with
      | some mark => simp [Span.events, element] at h
      | none =>
        by_cases hempty : text = ""
        · subst hempty
          obtain ⟨before, text, after, rfl, hbefore, hfeed⟩ := ih h
          exact ⟨⟨none, ""⟩ :: before, text, after, rfl, by simpa using hbefore, hfeed⟩
        · obtain ⟨c, cs, htext⟩ := List.exists_cons_of_ne_nil fun h =>
            hempty (String.toList_eq_nil_iff.mp h)
          have hfeed : c = '\n' := by simpa [Span.events, Markup.text, htext] using h
          exact ⟨[], text, spans, rfl, by simp, by simp [htext, hfeed]⟩
  · rintro ⟨before, text, after, rfl, hbefore, hfeed⟩
    have hnone : before.flatMap Span.events = [] := by
      refine List.flatMap_eq_nil_iff.mpr fun span hspan => ?_
      rw [hbefore span hspan]
      rfl
    rw [List.flatMap_append, hnone, List.nil_append, List.flatMap_cons]
    simp [Span.events, Markup.text, hfeed]

theorem opensPre_text (s : String) : ∀ event ∈ Markup.text s, event.opensPre = false := by
  intro event hevent
  obtain ⟨c, -, rfl⟩ := List.mem_map.mp hevent
  rfl

theorem opensPre_flatMap_events (spans : List Span) :
    ∀ event ∈ spans.flatMap Span.events, event.opensPre = false := by
  intro event hevent
  obtain ⟨span, -, hspan⟩ := List.mem_flatMap.mp hevent
  unfold Span.events at hspan
  split at hspan
  · exact opensPre_text _ _ hspan
  · simp only [element, List.mem_cons, List.mem_append, List.not_mem_nil, or_false] at hspan
    rcases hspan with rfl | h | rfl
    · rfl
    · exact opensPre_text _ _ h
    · rfl

end CodeMarkup
