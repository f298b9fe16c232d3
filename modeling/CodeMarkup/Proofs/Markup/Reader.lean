import CodeMarkup.Proofs.Markup.PlainText
import CodeMarkup.Text.Pieces

/-!
A strict reader of markup. It meets tags, with their attributes, and the characters between them,
with entities decoded. An angle bracket or an ampersand that stands for itself is refused, and so is
a tag with anything but a name and quoted attributes in it. Markup may be read in parts.
-/

namespace CodeMarkup.Markup

/-- What a reader of markup meets: a tag, or a character of the text between two tags. -/
inductive Event where
  | opening (name : String) (attributes : List (String × String))
  | closing (name : String)
  | char (c : Char)
  deriving DecidableEq, Repr

namespace Event

/-- The character of an event that is no tag. -/
def char? : Event → Option Char
  | char c => some c
  | _ => none

end Event

/-- The text between the tags. -/
def characters (events : List Event) : List Char :=
  events.filterMap Event.char?

/-- The character that the name of an entity stands for. -/
def entity? : List Char → Option Char
  | ['a', 'm', 'p'] => some '&'
  | ['l', 't'] => some '<'
  | ['g', 't'] => some '>'
  | ['q', 'u', 'o', 't'] => some '"'
  | ['#', 'x', '2', '7'] => some '\''
  | _ => none

/-- Whether characters are the name of an element or an attribute. -/
def isName (cs : List Char) : Bool :=
  !cs.isEmpty && cs.all Char.isAlpha

/-- The name of an attribute, from what stands between the value before it and its own. -/
def label? : List Char → Option String
  | ' ' :: cs => match Text.cutFirst? '=' cs with
    | some (name, []) => if isName name then some (String.ofList name) else none
    | _ => none
  | _ => none

/-- The attributes of a tag, from the pieces between its quotation marks. -/
def attributes? : List (List Char) → Option (List (String × String))
  | [[]] => some []
  | front :: value :: pieces => do
    let label ← label? front
    let more ← attributes? pieces
    return (label, String.ofList (decode value)) :: more
  | _ => none

/-- The tag with the given characters between its angle brackets. -/
def tag? : List Char → Option Event
  | '/' :: name => if isName name then some (.closing (String.ofList name)) else none
  | cs =>
    let name := cs.takeWhile Char.isAlpha
    if name = [] then none
    else
      (attributes? (Text.cut '"' (cs.dropWhile Char.isAlpha))).map (.opening (String.ofList name))

/-- Where a reader is: between tags, in an entity or in a tag. Of these it keeps what it has seen,
the last character first. -/
inductive Mode where
  | text
  | entity (seen : List Char)
  | tag (seen : List Char)
  deriving DecidableEq, Repr

/-- Reads one character, which may complete an event. -/
def step : Mode → Char → Option (Mode × Option Event)
  | .text, c =>
    if c = '<' then some (.tag [], none)
    else if c = '&' then some (.entity [], none)
    else if c = '>' then none
    else some (.text, some (.char c))
  | .entity seen, c =>
    if c = ';' then (entity? seen.reverse).map fun d => (.text, some (.char d))
    else if c = '<' ∨ c = '>' ∨ c = '&' then none
    else some (.entity (c :: seen), none)
  | .tag seen, c =>
    if c = '>' then (tag? seen.reverse).map fun event => (.text, some event)
    else if c = '<' then none
    else some (.tag (c :: seen), none)

/-- Reads characters to the end, which has to lie outside of entities and tags. -/
def readFrom : Mode → List Char → Option (List Event)
  | m, [] => if m = .text then some [] else none
  | m, c :: cs => (step m c).bind fun next => (readFrom next.1 cs).map (next.2.toList ++ ·)

/-- Reads markup. -/
def read (markup : String) : Option (List Event) :=
  readFrom .text markup.toList

/-! ### Reading in parts -/

theorem readFrom_cons_eq_some {m : Mode} {c : Char} {cs : List Char} {events : List Event} :
    readFrom m (c :: cs) = some events ↔
      ∃ m' event more, step m c = some (m', event) ∧ readFrom m' cs = some more ∧
        event.toList ++ more = events := by
  simp [readFrom, Option.bind_eq_some_iff]

/-- What has been read stays read, whatever follows it. -/
theorem readFrom_append {m : Mode} {cs : List Char} {events : List Event}
    (h : readFrom m cs = some events) (rest : List Char) :
    readFrom m (cs ++ rest) = (readFrom .text rest).map (events ++ ·) := by
  induction cs generalizing m events with
  | nil =>
    obtain ⟨rfl, rfl⟩ : m = .text ∧ [] = events := by simpa [readFrom] using h
    simp
  | cons c cs ih =>
    obtain ⟨m', event, more, hstep, hmore, rfl⟩ := readFrom_cons_eq_some.mp h
    rw [List.cons_append, readFrom, hstep, Option.bind_some, ih hmore, Option.map_map]
    congr 1
    funext events
    simp

theorem read_append {s t : String} {events more : List Event} (hs : read s = some events)
    (ht : read t = some more) : read (s ++ t) = some (events ++ more) := by
  rw [read, String.toList_append, readFrom_append hs, ← read, ht, Option.map_some]

/-! ### Escaped text -/

theorem readFrom_escapeChar (quotes : Bool) (c : Char) :
    readFrom .text (escapeChar quotes c) = some [.char c] := by
  unfold escapeChar
  split
  · next h => subst h; rfl
  split
  · next h => subst h; rfl
  split
  · next h => subst h; rfl
  split
  · next h => obtain ⟨-, rfl⟩ := h; rfl
  split
  · next h => obtain ⟨-, rfl⟩ := h; rfl
  · next hamp hlt hgt _ _ => simp [readFrom, step, hamp, hlt, hgt]

theorem readFrom_escapeChars (quotes : Bool) (cs : List Char) :
    readFrom .text (escapeChars quotes cs) = some (cs.map .char) := by
  induction cs with
  | nil => rfl
  | cons c cs ih =>
    rw [escapeChars_cons, readFrom_append (readFrom_escapeChar quotes c), ih]
    rfl

theorem lt_notMem_escapeChars (quotes : Bool) (cs : List Char) : '<' ∉ escapeChars quotes cs := by
  intro hmem
  obtain ⟨c, -, hc⟩ := List.mem_flatMap.mp hmem
  unfold escapeChar at hc
  repeat' split at hc
  all_goals simp_all [eq_comm]

theorem read_escapeText (s : String) : read (escapeText s) = some (s.toList.map .char) := by
  rw [read, escapeText, String.toList_ofList, readFrom_escapeChars]

theorem read_escapeAll (s : String) : read (escapeAll s) = some (s.toList.map .char) := by
  rw [read, escapeAll, String.toList_ofList, readFrom_escapeChars]

/-! ### Tags -/

/-- Characters that delimit no tag, and nothing inside one. -/
def Inert (cs : List Char) : Prop :=
  ∀ c ∈ cs, c ≠ '<' ∧ c ≠ '>' ∧ c ≠ '"'

theorem inert_of_all {admits : Char → Bool} {cs : List Char} (h : ∀ c ∈ cs, admits c = true)
    (hlt : admits '<' = false) (hgt : admits '>' = false) (hquote : admits '"' = false) :
    Inert cs := by
  intro c hc
  have hadmits := h c hc
  refine ⟨?_, ?_, ?_⟩ <;> rintro rfl <;> simp_all

theorem inert_of_isName {cs : List Char} (h : isName cs = true) : Inert cs := by
  simp only [isName, Bool.and_eq_true, List.all_eq_true] at h
  exact inert_of_all h.2 (by decide) (by decide) (by decide)

theorem inert_escapeChar (c : Char) : Inert (escapeChar true c) := by
  unfold escapeChar
  repeat' split
  all_goals simp_all [Inert]

theorem inert_escapeChars (cs : List Char) : Inert (escapeChars true cs) := by
  intro d hd
  obtain ⟨c, -, hc⟩ := List.mem_flatMap.mp hd
  exact inert_escapeChar c d hc

theorem readFrom_tag {seen inside : List Char} (h : ∀ c ∈ inside, c ≠ '<' ∧ c ≠ '>') :
    readFrom (.tag seen) (inside ++ ['>']) = (tag? (seen.reverse ++ inside)).map ([·]) := by
  induction inside generalizing seen with
  | nil => cases ht : tag? seen.reverse <;> simp [readFrom, step, ht]
  | cons c inside ih =>
    have hc := h c List.mem_cons_self
    have hrest : readFrom (.tag (c :: seen)) (inside ++ ['>']) = _ :=
      ih fun d hd => h d (List.mem_cons_of_mem _ hd)
    simp [readFrom, step, hc.1, hc.2, hrest, Function.comp_def]

theorem attributes?_single {label value : List Char} (hlabel : isName label = true) :
    attributes? [' ' :: (label ++ ['=']), value, []] =
      some [(String.ofList label, String.ofList (decode value))] := by
  have hcut : Text.cutFirst? '=' (label ++ ['=']) = some (label, []) := by
    refine Text.cutFirst?_eq_some_iff.mpr ⟨fun h => ?_, rfl⟩
    simp only [isName, Bool.and_eq_true, List.all_eq_true] at hlabel
    exact absurd (hlabel.2 _ h) (by decide)
  simp [attributes?, label?, hcut, hlabel]

theorem tag?_name_append {name rest : List Char} (hname : isName name = true)
    (hrest : ∀ c ∈ rest.head?, c.isAlpha = false) :
    tag? (name ++ rest) =
      (attributes? (Text.cut '"' rest)).map (.opening (String.ofList name)) := by
  have halpha : ∀ c ∈ name, c.isAlpha = true := by
    simp only [isName, Bool.and_eq_true, List.all_eq_true] at hname
    exact hname.2
  have hend : rest.takeWhile Char.isAlpha = [] ∧ rest.dropWhile Char.isAlpha = rest := by
    cases rest with
    | nil => exact ⟨rfl, rfl⟩
    | cons c rest => simp [hrest c rfl]
  have htake : (name ++ rest).takeWhile Char.isAlpha = name := by
    rw [List.takeWhile_append_of_pos halpha, hend.1, List.append_nil]
  have hdrop : (name ++ rest).dropWhile Char.isAlpha = rest := by
    rw [List.dropWhile_append_of_pos halpha, hend.2]
  cases name with
  | nil => simp [isName] at hname
  | cons c name =>
    have hc : c ≠ '/' := by
      rintro rfl
      exact absurd (halpha _ List.mem_cons_self) (by decide)
    rw [List.cons_append, tag?.eq_2 _ (by simp [hc]), ← List.cons_append, htake, hdrop]
    simp

theorem cut_attribute {label value : List Char} (hlabel : isName label = true)
    (hvalue : '"' ∉ value) :
    Text.cut '"' (' ' :: (label ++ '=' :: '"' :: (value ++ ['"']))) =
      [' ' :: (label ++ ['=']), value, []] := by
  have hfront : '"' ∉ ' ' :: (label ++ ['=']) := fun h => by
    simp only [List.mem_cons, List.mem_append, List.not_mem_nil, or_false] at h
    rcases h with h | h | h
    · exact absurd h (by decide)
    · exact (inert_of_isName hlabel _ h).2.2 rfl
    · exact absurd h (by decide)
  have hcut := Text.cut_append_cons hfront (value ++ ['"'])
  rw [Text.cut_append_cons hvalue] at hcut
  simpa [Text.cut] using hcut

theorem readFrom_bare {name : List Char} (hname : isName name = true) :
    readFrom .text ('<' :: (name ++ ['>'])) = some [.opening (String.ofList name) []] := by
  have htag : readFrom (.tag []) (name ++ ['>']) = _ :=
    readFrom_tag fun c hc => ⟨(inert_of_isName hname c hc).1, (inert_of_isName hname c hc).2.1⟩
  have hname' : tag? name = some (.opening (String.ofList name) []) := by
    have hend : ∀ c ∈ ([] : List Char).head?, c.isAlpha = false := by simp
    simpa [Text.cut, attributes?] using tag?_name_append hname hend
  have hstart : step .text '<' = some (.tag [], none) := rfl
  rw [readFrom, hstart, Option.bind_some, htag, List.reverse_nil, List.nil_append, hname']
  rfl

theorem readFrom_opening {name label value : List Char} (hname : isName name = true)
    (hlabel : isName label = true) (hvalue : Inert value) :
    readFrom .text ('<' :: (name ++ ' ' :: (label ++ '=' :: '"' :: (value ++ ['"', '>'])))) =
      some [.opening (String.ofList name)
        [(String.ofList label, String.ofList (decode value))]] := by
  have hinside : ∀ c ∈ name ++ ' ' :: (label ++ '=' :: '"' :: (value ++ ['"'])),
      c ≠ '<' ∧ c ≠ '>' := fun c hc => by
    have hn := inert_of_isName hname c
    have hl := inert_of_isName hlabel c
    have hv := hvalue c
    simp only [List.mem_append, List.mem_cons, List.not_mem_nil, or_false] at hc
    rcases hc with h | rfl | h | rfl | rfl | h | rfl
    · exact ⟨(hn h).1, (hn h).2.1⟩
    · decide
    · exact ⟨(hl h).1, (hl h).2.1⟩
    · decide
    · decide
    · exact ⟨(hv h).1, (hv h).2.1⟩
    · decide
  have htag : readFrom (.tag []) _ = _ := readFrom_tag hinside
  rw [List.reverse_nil, List.nil_append, tag?_name_append hname (by simp),
    cut_attribute hlabel fun h => (hvalue _ h).2.2 rfl, attributes?_single hlabel] at htag
  have hstart : step .text '<' = some (.tag [], none) := rfl
  rw [readFrom, hstart, Option.bind_some]
  simpa using htag

end CodeMarkup.Markup
