import CodeMarkup.Proofs.Span.Reading

/-!
Short names as classes. A short name is the one value that is written into an attribute as it is, so
a tagged token reads as its span exactly if the name stands for itself there: it must not hold a
character that delimits a tag or an attribute, nor the text of an entity. The short names of a
mapping are among those that it lists.
-/

namespace CodeMarkup

open Markup

namespace Markup

theorem tagQuotes_append {inside : Bool} {cs : List Char} (h : ∀ c ∈ cs, c ≠ '<' ∧ c ≠ '>')
    (ds : List Char) :
    tagQuotes inside (cs ++ ds) = (if inside then cs.count '"' else 0) + tagQuotes inside ds := by
  induction cs with
  | nil => simp
  | cons c cs ih =>
    obtain ⟨hlt, hgt⟩ := h c List.mem_cons_self
    have hrest := ih fun d hd => h d (List.mem_cons_of_mem _ hd)
    rw [List.cons_append, tagQuotes, if_neg hlt, if_neg hgt, hrest, List.count_cons]
    cases inside with
    | false => simp
    | true =>
      by_cases hc : c = '"'
      · simp [hc]
        omega
      · simp [hc]

@[simp] theorem tagCount_append (events more : List Event) :
    tagCount (events ++ more) = tagCount events + tagCount more := by
  induction events with
  | nil => simp [tagCount]
  | cons event events ih => cases event <;> simp [tagCount, ih, Nat.add_right_comm]

@[simp] theorem attributeCount_append (events more : List Event) :
    attributeCount (events ++ more) = attributeCount events + attributeCount more := by
  induction events with
  | nil => simp [attributeCount]
  | cons event events ih => simp [attributeCount, ih, Nat.add_assoc]

theorem counts_text (s : String) : tagCount (text s) = 0 ∧ attributeCount (text s) = 0 := by
  unfold text
  induction s.toList with
  | nil => exact ⟨rfl, rfl⟩
  | cons c cs ih => exact ⟨ih.1, by simpa [attributeCount, Event.attributeCount] using ih.2⟩

theorem Balanced.tagCount_mod_two {events : List Event} (h : Balanced events) :
    tagCount events % 2 = 0 := by
  induction h with
  | nil => rfl
  | char c _ ih => exact ih
  | element name attributes _ _ ihcontent ih =>
    simp only [Markup.element, List.cons_append, tagCount, tagCount_append]
    omega

/-- Escaped text has no angle brackets of its own. -/
theorem count_escapeText (s : String) :
    (escapeText s).toList.count '<' = 0 ∧ (escapeText s).toList.count '>' = 0 := by
  have hdelimits := delimits_readFrom (read_escapeText s)
  have hopening := hdelimits.opening
  have hclosing := hdelimits.closing
  rw [← text, (counts_text s).1] at hopening hclosing
  exact ⟨by simpa [Mode.openTags] using hopening, hclosing⟩

end Markup

namespace SpanRules

/-- A reader that meets the one span of a token has found no delimiter in its short name. -/
theorem inert_of_read_classed {name text : String}
    (h : Markup.read (element "class" name (escapeText text)) =
      some (Span.events ⟨some ("class", name), text⟩)) : Inert name.toList := by
  obtain ⟨hopening, hclosing, hquotes⟩ := delimits_readFrom h
  have htags : tagCount (Span.events ⟨some ("class", name), text⟩) = 2 := by
    simp [Span.events, Markup.element, tagCount, (counts_text text).1]
  have hattributes : attributeCount (Span.events ⟨some ("class", name), text⟩) = 1 := by
    simp [Span.events, Markup.element, attributeCount, Event.attributeCount, (counts_text text).2]
  have hmarkup : (element "class" name (escapeText text)).toList =
      "<span class=\"".toList ++ (name.toList ++ ("\">".toList ++
        ((escapeText text).toList ++ "</span>".toList))) := by
    simp [element]
  obtain ⟨hlt, hgt⟩ := count_escapeText text
  rw [htags, hmarkup] at hopening hclosing
  rw [hattributes, hmarkup] at hquotes
  have hlt' : name.toList.count '<' = 0 := by
    simpa [hlt, Mode.openTags] using hopening
  have hgt' : name.toList.count '>' = 0 := by
    simpa [hgt] using hclosing
  have hangles : ∀ c ∈ name.toList, c ≠ '<' ∧ c ≠ '>' := by
    intro c hc
    constructor
    · rintro rfl
      exact List.count_eq_zero.mp hlt' hc
    · rintro rfl
      exact List.count_eq_zero.mp hgt' hc
  -- The two quotation marks around the name are all that there may be.
  have hquotes' : 1 + (name.toList.count '"' +
      (1 + tagQuotes false ((escapeText text).toList ++ "</span>".toList))) = 2 := by
    simpa [Mode.quotes, tagQuotes, tagQuotes_append hangles] using hquotes
  have hquote : name.toList.count '"' = 0 := by omega
  intro c hc
  refine ⟨(hangles c hc).1, (hangles c hc).2, ?_⟩
  rintro rfl
  exact List.count_eq_zero.mp hquote hc

/-- A tagged token in class mode reads as its span exactly if its short name stands for itself in an
attribute. -/
theorem read_classed_iff {name text : String} :
    Markup.read (element "class" name (escapeText text)) =
        some (Span.events ⟨some ("class", name), text⟩) ↔
      Inert name.toList ∧ decode name.toList = name.toList := by
  have hspan : Inert name.toList → Markup.read (element "class" name (escapeText text)) =
      some (Span.events ⟨some ("class", String.ofList (decode name.toList)), text⟩) := fun hinert =>
    read_span rfl hinert (read_escapeText text)
  constructor
  · intro h
    have hinert := inert_of_read_classed h
    rw [hspan hinert] at h
    have hname : String.ofList (decode name.toList) = name := by
      simpa [Span.events, Markup.element] using h
    refine ⟨hinert, ?_⟩
    rw [← String.toList_inj, String.toList_ofList] at hname
    exact hname
  · rintro ⟨hinert, hdecode⟩
    rw [hspan hinert, hdecode, String.ofList_toList]

end SpanRules

/-! ### Names from a mapping -/

namespace ShortNames

theorem get?_extend {t : Taxonomy} {d d' : Dictionary Kind (Option String)}
    {es : List (KindRef × Value)} {k : Kind} {name : Option String} (h : extend t d es = .ok d')
    (hk : d'.get? k = some name) :
    d.get? k = some name ∨ ∃ entry ∈ es, entry.2.shortName? = name := by
  induction es generalizing d with
  | nil =>
    cases h
    exact .inl hk
  | cons entry es ih =>
    obtain ⟨r, v⟩ := entry
    cases hr : r.resolve t with
    | error e => simp [extend, hr, bind, Except.bind] at h
    | ok j =>
      have hrest : extend t (d.put j v.shortName?) es = .ok d' := by
        simpa [extend, hr, bind, Except.bind] using h
      rcases ih hrest with hput | ⟨entry, hentry, hname⟩
      · rw [Dictionary.get?_put] at hput
        split at hput
        · exact .inr ⟨(r, v), List.mem_cons_self, Option.some.inj hput⟩
        · exact .inl hput
      · exact .inr ⟨entry, List.mem_cons_of_mem _ hentry, hname⟩

/-- Every short name that a lookup finds is the name of an entry of the mapping. -/
theorem mem_of_find? {t : Taxonomy} {s : ShortNames} {es : List (KindRef × Value)} {k : Kind}
    {name : String} (h : ofMapping t es = .ok s) (hk : s.find? k = some name) :
    ∃ entry ∈ es, entry.2.shortName? = some name := by
  obtain ⟨j, -, hj⟩ := List.exists_of_findSome?_eq_some hk
  rw [own?, Option.join_eq_some_iff] at hj
  cases hextend : extend t .empty es with
  | error e => simp [ofMapping, hextend, Except.map] at h
  | ok d =>
    obtain rfl : ShortNames.mk d = s := by simpa [ofMapping, hextend, Except.map] using h
    rcases get?_extend hextend hj with hnone | hentry
    · cases hnone
    · exact hentry

end ShortNames

/-- A mapping whose names all stand for themselves in an attribute gives rules of which the same
holds. -/
theorem SpanRules.plainNames_of_mapping {r : SpanRules} {t : Taxonomy}
    {es : List (KindRef × Value)} (h : ShortNames.ofMapping t es = .ok r.names)
    (hplain : ∀ entry ∈ es, ∀ name, entry.2.shortName? = some name →
      Inert name.toList ∧ decode name.toList = name.toList) : r.PlainNames := by
  intro _ k name hname
  obtain ⟨entry, hentry, hvalue⟩ := ShortNames.mem_of_find? h hname
  exact hplain entry hentry name hvalue

end CodeMarkup
