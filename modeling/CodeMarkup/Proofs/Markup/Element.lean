import CodeMarkup.Proofs.Markup.Reading

/-!
Texts and elements as a reader meets them, and balanced lists of events, in which every opening tag
has a closing tag of its own and elements are nested. An element with one attribute reads as one
whatever its escaped value is.
-/

namespace CodeMarkup.Markup

/-- The events of a text. -/
def text (s : String) : List Event :=
  s.toList.map .char

/-- The events of an element. -/
def element (name : String) (attributes : List (String × String)) (content : List Event) :
    List Event :=
  .opening name attributes :: (content ++ [.closing name])

/-- Lists of events in which tags come in pairs around balanced content. -/
inductive Balanced : List Event → Prop
  | nil : Balanced []
  | char (c : Char) {events : List Event} : Balanced events → Balanced (.char c :: events)
  | element (name : String) (attributes : List (String × String)) {content events : List Event} :
      Balanced content → Balanced events → Balanced (element name attributes content ++ events)

theorem Balanced.append {events more : List Event} (he : Balanced events) (hm : Balanced more) :
    Balanced (events ++ more) := by
  induction he with
  | nil => exact hm
  | char c _ ih => exact .char c ih
  | element name attributes hcontent _ _ ih =>
    rw [List.append_assoc]
    exact .element name attributes hcontent ih

theorem balanced_text (s : String) : Balanced (text s) := by
  unfold text
  induction s.toList with
  | nil => exact .nil
  | cons c cs ih => exact .char c ih

theorem balanced_element {content : List Event} (name : String)
    (attributes : List (String × String)) (h : Balanced content) :
    Balanced (element name attributes content) := by
  simpa using Balanced.element name attributes h .nil

@[simp] theorem characters_append (events more : List Event) :
    characters (events ++ more) = characters events ++ characters more :=
  List.filterMap_append

@[simp] theorem characters_text (s : String) : characters (text s) = s.toList := by
  simp [characters, text, List.filterMap_map, Function.comp_def, Event.char?]

@[simp] theorem characters_element (name : String) (attributes : List (String × String))
    (content : List Event) : characters (element name attributes content) = characters content := by
  have hopening : (Event.opening name attributes).char? = none := rfl
  have hclosing : (Event.closing name).char? = none := rfl
  simp [characters, element, hopening, hclosing]

/-- Markup reads as balanced events, and delimits nothing else: each of its angle brackets is an end
of a tag among them, and each quotation mark inside a tag an end of the value of an attribute. -/
structure ReadsAs (markup : String) (events : List Event) : Prop where
  read_eq : read markup = some events
  balanced : Balanced events
  opening : markup.toList.count '<' = tagCount events
  closing : markup.toList.count '>' = tagCount events
  quotes : tagQuotes false markup.toList = 2 * attributeCount events

theorem readsAs_of_read {markup : String} {events : List Event} (h : read markup = some events)
    (hb : Balanced events) : ReadsAs markup events := by
  obtain ⟨hopening, hclosing, hquotes⟩ := delimits_readFrom h
  exact ⟨h, hb, by simpa [Mode.openTags] using hopening, hclosing,
    by simpa [Mode.openTags, Mode.quotes] using hquotes⟩

/-! ### Elements in markup -/

theorem read_bare {name : String} (hname : isName name.toList = true) :
    read ("<" ++ name ++ ">") = some [.opening name []] := by
  have h := readFrom_bare hname
  rw [String.ofList_toList] at h
  rw [read, ← h]
  simp

theorem read_opening {name label value : String} (hname : isName name.toList = true)
    (hlabel : isName label.toList = true) (hvalue : Inert value.toList) :
    read ("<" ++ name ++ " " ++ label ++ "=\"" ++ value ++ "\">") =
      some [.opening name [(label, String.ofList (decode value.toList))]] := by
  have h := readFrom_opening hname hlabel hvalue
  rw [String.ofList_toList, String.ofList_toList] at h
  rw [read, ← h]
  simp

theorem inert_escapeAll (s : String) : Inert (escapeAll s).toList := by
  rw [escapeAll, String.toList_ofList]
  exact inert_escapeChars s.toList

theorem decode_escapeAll (s : String) : decode (escapeAll s).toList = s.toList := by
  rw [escapeAll, String.toList_ofList]
  simpa [decode] using decode_escapeChars true s.toList []

theorem read_element {name opening closing content : String}
    {attributes : List (String × String)} {events : List Event}
    (hopening : read opening = some [.opening name attributes])
    (hcontent : read content = some events) (hclosing : read closing = some [.closing name]) :
    read (opening ++ content ++ closing) = some (element name attributes events) := by
  rw [read_append (read_append hopening hcontent) hclosing]
  rfl

end CodeMarkup.Markup
