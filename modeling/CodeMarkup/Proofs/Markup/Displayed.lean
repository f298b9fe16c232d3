import CodeMarkup.Proofs.Markup.Element

/-!
Text as pages display it. A reader of pages drops a line feed that comes directly after the tag of a
`pre` element, whatever wrote it there, so such an element displays its text except for that line
feed. The reader goes by the first thing after the tag alone: a tag in between keeps the line feed.
-/

namespace CodeMarkup.Markup

/-- Whether a line feed directly after an event is dropped. -/
def Event.opensPre : Event → Bool
  | .opening name _ => name = "pre"
  | _ => false

/-- The characters that are displayed, where a line feed that comes first is dropped if `fresh`. -/
def displayedFrom : (fresh : Bool) → List Event → List Char
  | _, [] => []
  | fresh, .char c :: events =>
    if fresh ∧ c = '\n' then displayedFrom false events else c :: displayedFrom false events
  | _, event :: events => displayedFrom event.opensPre events

/-- The characters that are displayed. -/
def displayed (events : List Event) : List Char :=
  displayedFrom false events

/-- The line feed that events start with, if they do. -/
def leadingFeed (events : List Event) : List Char :=
  if events.head? = some (.char '\n') then ['\n'] else []

/-- The number of lines that characters are displayed on. A line feed at the end starts no line. -/
def lineTotal (cs : List Char) : Nat :=
  cs.count '\n' + if cs = [] ∨ cs.getLast? = some '\n' then 0 else 1

theorem displayedFrom_append {events : List Event} (h : ∀ event ∈ events, event.opensPre = false)
    (more : List Event) :
    displayedFrom false (events ++ more) = characters events ++ displayedFrom false more := by
  induction events with
  | nil => rfl
  | cons event events ih =>
    have hrest := ih fun e he => h e (List.mem_cons_of_mem _ he)
    have hevent := h event List.mem_cons_self
    cases event with
    | char c => simp [displayedFrom, characters, Event.char?, hrest]
    | opening name attributes =>
      rw [List.cons_append, displayedFrom, hevent, hrest]
      · rfl
      · simp
    | closing name =>
      rw [List.cons_append, displayedFrom, hevent, hrest]
      · rfl
      · simp

/-- Where a line feed in front is dropped, the text is the line feed and what is displayed. -/
theorem leadingFeed_append_displayedFrom {events : List Event}
    (h : ∀ event ∈ events, event.opensPre = false) {more : List Event}
    (hmore : displayedFrom true more = displayedFrom false more) :
    leadingFeed events ++ displayedFrom true (events ++ more) =
      characters events ++ displayedFrom false more := by
  rw [← displayedFrom_append h]
  cases events with
  | nil => simpa [leadingFeed] using hmore
  | cons event events =>
    cases event with
    | char c =>
      by_cases hc : c = '\n'
      · simp [leadingFeed, displayedFrom, hc]
      · simp [leadingFeed, displayedFrom, hc]
    | opening name attributes => simp [leadingFeed, displayedFrom]
    | closing name => simp [leadingFeed, displayedFrom]

/-- A `pre` element in another one displays its text, except for a line feed in front. -/
theorem leadingFeed_append_displayed {content : List Event}
    (h : ∀ event ∈ content, event.opensPre = false) (name : String)
    (attributes marks : List (String × String)) :
    leadingFeed content ++ displayed (element name attributes (element "pre" marks content)) =
      characters content := by
  have hopen : displayed (element name attributes (element "pre" marks content)) =
      displayedFrom true (content ++ [.closing "pre", .closing name]) := by
    simp [displayed, element, displayedFrom, Event.opensPre]
  rw [hopen, leadingFeed_append_displayedFrom h rfl]
  simp [displayedFrom]

/-- Of a text with a line feed at its end, dropping the one in front takes a line away. -/
theorem lineTotal_append {events : List Event} {cs : List Char}
    (h : (leadingFeed events ++ cs).getLast? = some '\n') :
    lineTotal cs + (leadingFeed events).length = (leadingFeed events ++ cs).count '\n' := by
  have hend : cs = [] ∨ cs.getLast? = some '\n' := by
    cases cs with
    | nil => exact .inl rfl
    | cons c cs => exact .inr (by simpa [List.getLast?_append] using h)
  rw [lineTotal, if_pos hend, List.count_append, Nat.add_zero, Nat.add_comm]
  congr 1
  unfold leadingFeed
  split <;> rfl

end CodeMarkup.Markup
