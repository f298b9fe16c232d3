import CodeMarkup.Proofs.Markup.Reader

/-!
What a successful reading says about markup. The characters that the reader meets between the tags
are its plain text, and each of its angle brackets, and each quotation mark inside a tag, delimits a
tag or an attribute that was read. Both follow from what one character does to the reader.
-/

namespace CodeMarkup.Markup

/-! ### Agreement with the plain text -/

/-- The plain text that is still to come for a reader, if the tag that it is in ends. -/
def remaining : Mode → List Char → Option (List Char)
  | .text, cs => some (decode (deleteTags cs))
  | .entity seen, cs => some (decode ('&' :: (seen.reverse ++ deleteTags cs)))
  | .tag _, cs => (afterTag? cs).map decode

theorem decode_entity {name : List Char} {c : Char} (h : entity? name = some c)
    (rest : List Char) : decode ('&' :: (name ++ ';' :: rest)) = c :: decode rest := by
  unfold entity? at h
  split at h
  all_goals first | (obtain rfl := Option.some.inj h; rfl) | cases h

theorem char?_of_tag? {inside : List Char} {event : Event} (h : tag? inside = some event) :
    event.char? = none := by
  unfold tag? at h
  split at h
  · split at h
    · obtain rfl := Option.some.inj h; rfl
    · cases h
  · simp only at h
    split at h
    · cases h
    · obtain ⟨_, -, rfl⟩ := Option.map_eq_some_iff.mp h; rfl

/-- A character that is read adds to the plain text what the event that it completes stands for. -/
theorem remaining_step {m m' : Mode} {c : Char} {event : Option Event} {cs rest : List Char}
    (h : step m c = some (m', event)) (hr : remaining m' cs = some rest) :
    remaining m (c :: cs) = some (characters event.toList ++ rest) := by
  cases m with
  | text =>
    simp only [step] at h
    split at h
    · next hc =>
      cases h
      obtain ⟨d, hd, rfl⟩ := Option.map_eq_some_iff.mp hr
      simp [remaining, deleteTags, hc, hd, characters]
    · next hlt =>
      split at h
      · next hamp =>
        cases h
        obtain rfl := Option.some.inj hr
        simp [remaining, deleteTags, hamp, characters]
      · next hamp =>
        split at h
        · cases h
        · cases h
          obtain rfl := Option.some.inj hr
          simp [remaining, deleteTags, hlt, decode_cons hamp, characters, Event.char?]
  | entity seen =>
    simp only [step] at h
    split at h
    · next hc =>
      obtain ⟨d, hd, he⟩ := Option.map_eq_some_iff.mp h
      cases he
      obtain rfl := Option.some.inj hr
      simp [remaining, deleteTags, hc, decode_entity hd, characters, Event.char?]
    · split at h
      · cases h
      · next hc =>
        cases h
        obtain rfl := Option.some.inj hr
        simp only [not_or] at hc
        simp [remaining, deleteTags, hc.1, characters]
  | tag seen =>
    simp only [step] at h
    split at h
    · next hc =>
      obtain ⟨e, he, hm⟩ := Option.map_eq_some_iff.mp h
      cases hm
      obtain rfl := Option.some.inj hr
      simp [remaining, afterTag?, hc, characters, char?_of_tag? he]
    · next hgt =>
      split at h
      · cases h
      · cases h
        obtain ⟨d, hd, rfl⟩ := Option.map_eq_some_iff.mp hr
        simp [remaining, afterTag?, hgt, hd, characters]

theorem remaining_readFrom {m : Mode} {cs : List Char} {events : List Event}
    (h : readFrom m cs = some events) : remaining m cs = some (characters events) := by
  induction cs generalizing m events with
  | nil =>
    obtain ⟨rfl, rfl⟩ : m = .text ∧ [] = events := by simpa [readFrom] using h
    rfl
  | cons c cs ih =>
    obtain ⟨m', event, more, hstep, hmore, rfl⟩ := readFrom_cons_eq_some.mp h
    rw [remaining_step hstep (ih hmore), characters, characters, characters, List.filterMap_append]

/-- What the reader meets between the tags is the plain text of the markup. -/
theorem plainText_of_read {markup : String} {events : List Event} (h : read markup = some events) :
    plainText markup = String.ofList (characters events) := by
  rw [plainText, Option.some.inj (remaining_readFrom h)]

theorem plainText_escapeChars (quotes : Bool) (s : String) :
    plainText (String.ofList (escapeChars quotes s.toList)) = s := by
  have hread : read (String.ofList (escapeChars quotes s.toList)) =
      some (s.toList.map .char) := by
    rw [read, String.toList_ofList, readFrom_escapeChars]
  have hchars : characters (s.toList.map .char) = s.toList := by
    simp [characters, List.filterMap_map, Function.comp_def, Event.char?]
  rw [plainText_of_read hread, hchars, String.ofList_toList]

/-! ### Delimiters -/

/-- The number of attributes of an event. -/
def Event.attributeCount : Event → Nat
  | opening _ attributes => attributes.length
  | _ => 0

/-- The number of tags. -/
def tagCount : List Event → Nat
  | [] => 0
  | .char _ :: events => tagCount events
  | _ :: events => tagCount events + 1

/-- The number of attributes of all tags. -/
def attributeCount : List Event → Nat
  | [] => 0
  | event :: events => event.attributeCount + attributeCount events

/-- The quotation marks inside tags. -/
def tagQuotes : Bool → List Char → Nat
  | _, [] => 0
  | inside, c :: cs =>
    if c = '<' then tagQuotes true cs
    else if c = '>' then tagQuotes false cs
    else (if inside ∧ c = '"' then 1 else 0) + tagQuotes inside cs

theorem length_of_attributes? {pieces : List (List Char)} {attributes : List (String × String)}
    (h : attributes? pieces = some attributes) : pieces.length = 2 * attributes.length + 1 := by
  induction pieces using attributes?.induct generalizing attributes with
  | case1 => obtain rfl := Option.some.inj h; rfl
  | case2 front value pieces ih =>
    simp only [attributes?, Option.bind_eq_bind, Option.bind_eq_some_iff] at h
    obtain ⟨label, -, more, hmore, hattributes⟩ := h
    obtain rfl := Option.some.inj hattributes
    simp [ih hmore]
    omega
  | case3 => simp_all [attributes?]

theorem count_quote_eq_zero {cs : List Char} (h : cs.all Char.isAlpha = true) :
    cs.count '"' = 0 := by
  refine List.count_eq_zero.mpr fun hmem => ?_
  exact absurd (List.all_eq_true.mp h _ hmem) (by decide)

theorem quotes_of_tag? {inside : List Char} {event : Event} (h : tag? inside = some event) :
    inside.count '"' = 2 * event.attributeCount := by
  unfold tag? at h
  split at h
  · split at h
    · next name hname =>
      obtain rfl := Option.some.inj h
      simp only [isName, Bool.and_eq_true] at hname
      simp [count_quote_eq_zero hname.2, Event.attributeCount]
    · cases h
  · simp only at h
    split at h
    · cases h
    · obtain ⟨attributes, hattributes, rfl⟩ := Option.map_eq_some_iff.mp h
      have hlength := length_of_attributes? hattributes
      rw [Text.length_cut] at hlength
      have hname : (inside.takeWhile Char.isAlpha).count '"' = 0 :=
        count_quote_eq_zero List.all_takeWhile
      calc
        inside.count '"' =
            (inside.takeWhile Char.isAlpha ++ inside.dropWhile Char.isAlpha).count '"' := by
          rw [List.takeWhile_append_dropWhile]
        _ = (inside.dropWhile Char.isAlpha).count '"' := by
          rw [List.count_append, hname, Nat.zero_add]
        _ = 2 * attributes.length := by omega

theorem tagCount_of_tag? {inside : List Char} {event : Event} (h : tag? inside = some event)
    (events : List Event) : tagCount (event :: events) = tagCount events + 1 := by
  have hchar := char?_of_tag? h
  cases event with
  | char c => simp [Event.char?] at hchar
  | opening => rfl
  | closing => rfl

/-- The tags that a reader is in. -/
def Mode.openTags : Mode → Nat
  | tag _ => 1
  | _ => 0

/-- The quotation marks in the tag that a reader is in. -/
def Mode.quotes : Mode → Nat
  | tag seen => seen.count '"'
  | _ => 0

/-- Each angle bracket still to come, and each quotation mark of a tag, belongs to an event. -/
structure Delimits (m : Mode) (cs : List Char) (events : List Event) : Prop where
  opening : m.openTags + cs.count '<' = tagCount events
  closing : cs.count '>' = tagCount events
  quotes : m.quotes + tagQuotes (m.openTags = 1) cs = 2 * attributeCount events

theorem Delimits.step {m m' : Mode} {c : Char} {event : Option Event} {cs : List Char}
    {events : List Event} (h : step m c = some (m', event)) (hd : Delimits m' cs events) :
    Delimits m (c :: cs) (event.toList ++ events) := by
  obtain ⟨hopening, hclosing, hquotes⟩ := hd
  cases m with
  | text =>
    simp only [Markup.step] at h
    split at h
    · next hc =>
      cases h
      constructor <;> simp_all [Mode.openTags, Mode.quotes, tagQuotes]
      omega
    · next hlt =>
      split at h
      · next hamp =>
        cases h
        constructor <;> simp_all [Mode.openTags, Mode.quotes, tagQuotes]
      · split at h
        · cases h
        · next hgt =>
          cases h
          constructor <;>
            simp_all [Mode.openTags, Mode.quotes, tagQuotes, tagCount, attributeCount,
              Event.attributeCount]
  | entity seen =>
    simp only [Markup.step] at h
    split at h
    · next hc =>
      obtain ⟨d, -, he⟩ := Option.map_eq_some_iff.mp h
      cases he
      constructor <;>
        simp_all [Mode.openTags, Mode.quotes, tagQuotes, tagCount, attributeCount,
          Event.attributeCount]
    · split at h
      · cases h
      · next hc =>
        cases h
        constructor <;> simp_all [Mode.openTags, Mode.quotes, tagQuotes]
  | tag seen =>
    simp only [Markup.step] at h
    split at h
    · next hc =>
      obtain ⟨e, he, hm⟩ := Option.map_eq_some_iff.mp h
      cases hm
      have hq := quotes_of_tag? he
      rw [List.count_reverse] at hq
      have htags : tagCount (e :: events) = tagCount events + 1 := tagCount_of_tag? he events
      constructor <;>
        simp_all [Mode.openTags, Mode.quotes, tagQuotes, attributeCount]
      all_goals omega
    · next hgt =>
      split at h
      · cases h
      · next hlt =>
        -- A quotation mark moves from what is to come to what has been seen of the tag.
        cases h
        rw [Mode.quotes, List.count_cons] at hquotes
        refine ⟨?_, ?_, ?_⟩
        · simpa [Mode.openTags, hlt] using hopening
        · simpa [hgt] using hclosing
        · simp only [Mode.quotes, Mode.openTags, tagQuotes, hlt, hgt, ↓reduceIte, decide_true,
            true_and, Option.toList_none, List.nil_append, beq_iff_eq] at hquotes ⊢
          omega

theorem delimits_readFrom {m : Mode} {cs : List Char} {events : List Event}
    (h : readFrom m cs = some events) : Delimits m cs events := by
  induction cs generalizing m events with
  | nil =>
    obtain ⟨rfl, rfl⟩ : m = .text ∧ [] = events := by simpa [readFrom] using h
    exact ⟨rfl, rfl, rfl⟩
  | cons c cs ih =>
    obtain ⟨m', event, more, hstep, hmore, rfl⟩ := readFrom_cons_eq_some.mp h
    exact (ih hmore).step hstep

end CodeMarkup.Markup
