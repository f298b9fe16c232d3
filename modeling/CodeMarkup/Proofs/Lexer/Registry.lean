import CodeMarkup.Lexer.Registry

/-!
The tables of a registry. Each is made of pairs of a key and a lexer, of which the first for a key
stays in its place, so that looking for a key in a table finds what looking through all pairs does.
The lookup of a file name is therefore two searches of the registry: for a lexer with a glob that
asks for the extension alone, and for a lexer with any glob that matches.
-/

namespace CodeMarkup

/-! ### Tables in which the first entry of a key stays -/

namespace Dictionary

variable {α β : Type} [DecidableEq α]

theorem putEntry_of_notMem {a : α} {b : β} {es : List (α × β)} (h : a ∉ es.map Prod.fst) :
    putEntry a b es = es ++ [(a, b)] := by
  induction es with
  | nil => rfl
  | cons e es ih =>
    simp only [List.map_cons, List.mem_cons, not_or] at h
    rw [putEntry, if_neg (Ne.symm h.1), ih h.2, List.cons_append]

/-- An entry is added at the end, unless its key is there. -/
theorem entries_putNew (d : Dictionary α β) (a : α) (b : β) :
    (d.putNew a b).entries =
      d.entries ++ if a ∈ d.entries.map Prod.fst then [] else [(a, b)] := by
  by_cases h : a ∈ d.entries.map Prod.fst
  · have hcontains : d.contains a = true := by
      obtain ⟨v, hv⟩ := exists_valueAt? h
      exact Option.isSome_iff_exists.mpr ⟨v, hv⟩
    rw [putNew, if_pos hcontains, if_pos h, List.append_nil]
  · have hcontains : ¬ d.contains a = true := by
      simp [contains, get?, valueAt?_eq_none_iff.mpr h]
    rw [putNew, if_neg hcontains, if_neg h]
    exact putEntry_of_notMem h

/-- The dictionary of the entries of a list in which the first of a key counts. -/
def ofFirst (es : List (α × β)) : Dictionary α β :=
  es.foldl (fun d e => d.putNew e.1 e.2) empty

theorem find?_putNew (d : Dictionary α β) (a : α) (b : β) (p : α → Bool) :
    (d.putNew a b).entries.find? (fun e => p e.1) =
      (d.entries ++ [(a, b)]).find? fun e => p e.1 := by
  rw [entries_putNew]
  split
  · next h =>
    -- The entry that is left out would not be found: one with its key comes before it.
    rw [List.append_nil, List.find?_append, List.find?_singleton]
    split
    · next hp =>
      obtain ⟨e, he, rfl⟩ := List.mem_map.mp h
      have hsome : (d.entries.find? fun e => p e.1).isSome := List.find?_isSome.mpr ⟨e, he, hp⟩
      rw [Option.or_of_isSome hsome]
    · rw [Option.or_none]
  · rfl

/-- What is found in the dictionary is what is found in the list. -/
theorem find?_ofFirst (es : List (α × β)) (p : α → Bool) :
    (ofFirst es).entries.find? (fun e => p e.1) = es.find? fun e => p e.1 := by
  have hfold : ∀ d : Dictionary α β,
      (es.foldl (fun d e => d.putNew e.1 e.2) d).entries.find? (fun e => p e.1) =
        (d.entries ++ es).find? fun e => p e.1 := by
    induction es with
    | nil => intro d; rw [List.foldl_nil, List.append_nil]
    | cons e es ih =>
      intro d
      rw [List.foldl_cons, ih, List.find?_append, find?_putNew, ← List.find?_append,
        List.append_assoc, List.singleton_append]
  exact hfold empty

theorem get?_eq_find? (d : Dictionary α β) (a : α) :
    d.get? a = (d.entries.find? fun e => e.1 = a).map Prod.snd := by
  have hvalue : ∀ es : List (α × β),
      valueAt? a es = (es.find? fun e => e.1 = a).map Prod.snd := by
    intro es
    induction es with
    | nil => rfl
    | cons e es ih =>
      rw [valueAt?, List.find?_cons]
      by_cases h : e.1 = a <;> simp [h, ih]
  exact hvalue d.entries

end Dictionary

/-! ### The first lexer with a glob of some kind -/

/-- Whether a lexer that goes by a name has a glob with a property. -/
def LexerEntry.Has (e : LexerEntry) (p : String → Bool) : Prop :=
  e.aliases ≠ [] ∧ ∃ glob ∈ e.globs, p glob = true

namespace Registry

variable {registry : Registry} {p : String → Bool} {a : String}

/-- The first of the lexers that have a name and a glob with a property goes by the name `a` first
of all. -/
def FirstWith (registry : Registry) (p : String → Bool) (a : String) : Prop :=
  ∃ before e after, registry = before ++ e :: after ∧ e.Has p ∧ e.aliases.head? = some a ∧
    ∀ e' ∈ before, ¬ e'.Has p

/-- The name of a lexer if it has one and a glob with a property. -/
def nameWith? (p : String → Bool) (e : LexerEntry) : Option String :=
  if e.globs.any p then e.aliases.head? else none

/-- The first of the names of the first lexer that has one and a glob with a property. -/
def firstWith? (registry : Registry) (p : String → Bool) : Option String :=
  registry.findSome? (nameWith? p)

theorem nameWith?_eq_none_iff {e : LexerEntry} : nameWith? p e = none ↔ ¬ e.Has p := by
  rw [nameWith?, LexerEntry.Has, ← List.any_eq_true]
  cases e.globs.any p <;> simp

theorem nameWith?_eq_some_iff {e : LexerEntry} :
    nameWith? p e = some a ↔ e.Has p ∧ e.aliases.head? = some a := by
  by_cases h : e.Has p
  · rw [nameWith?, if_pos (List.any_eq_true.mpr h.2), and_iff_right h]
  · simp [nameWith?_eq_none_iff.mpr h, h]

theorem firstWith?_eq_none_iff :
    registry.firstWith? p = none ↔ ∀ e ∈ registry, ¬ e.Has p := by
  simp only [firstWith?, List.findSome?_eq_none_iff, nameWith?_eq_none_iff]

theorem firstWith?_eq_some_iff : registry.firstWith? p = some a ↔ registry.FirstWith p a := by
  rw [firstWith?, List.findSome?_eq_some_iff, FirstWith]
  simp only [nameWith?_eq_some_iff, nameWith?_eq_none_iff, and_assoc]

theorem firstWith?_append (before after : Registry) (p : String → Bool) :
    firstWith? (before ++ after) p = (before.firstWith? p).or (after.firstWith? p) :=
  List.findSome?_append

end Registry

/-! ### The pairs that make the tables -/

/-- The globs of a lexer that goes by a name, in lower case, each with the first name. -/
def LexerEntry.globPairs (e : LexerEntry) : List (String × String) :=
  match e.aliases with
  | [] => []
  | lexer :: _ => e.globs.map fun glob => (Text.lower glob, lexer)

/-- The extensions that globs ask for which ask for nothing else. -/
def extensionPairs (pairs : List (String × String)) : List (String × String) :=
  pairs.filterMap fun pair => (plainExtension? pair.1).map (·, pair.2)

theorem find?_extensionPairs (pairs : List (String × String)) (extension : String) :
    ((extensionPairs pairs).find? fun e => e.1 = extension).map Prod.snd =
      (pairs.find? fun e => plainExtension? e.1 = some extension).map Prod.snd := by
  induction pairs with
  | nil => rfl
  | cons pair pairs ih =>
    rw [extensionPairs, List.filterMap_cons, List.find?_cons, ← extensionPairs]
    cases hplain : plainExtension? pair.1 with
    | none => simpa using ih
    | some found => by_cases h : found = extension <;> simp [h, ih]

namespace Registry

/-- The pairs of all lexers of a registry. -/
def globPairs (registry : Registry) : List (String × String) :=
  registry.flatMap LexerEntry.globPairs

theorem find?_globPairs_entry (e : LexerEntry) (p : String → Bool) :
    (e.globPairs.find? fun pair => p pair.1).map Prod.snd =
      nameWith? (fun glob => p (Text.lower glob)) e := by
  rw [LexerEntry.globPairs, nameWith?]
  cases e.aliases with
  | nil => simp
  | cons lexer others =>
    induction e.globs with
    | nil => rfl
    | cons glob globs ih =>
      simp only [List.map_cons, List.find?_cons, List.any_cons] at ih ⊢
      by_cases h : p (Text.lower glob) = true
      · simp [h]
      · simpa [h] using ih

theorem find?_globPairs (registry : Registry) (p : String → Bool) :
    (registry.globPairs.find? fun pair => p pair.1).map Prod.snd =
      registry.firstWith? fun glob => p (Text.lower glob) := by
  rw [globPairs, List.find?_flatMap, List.map_findSome?, firstWith?]
  exact congrArg (List.findSome? · registry) (funext fun e => find?_globPairs_entry e p)

end Registry

namespace FilenameRules

/-- The rules once a glob in lower case has been added with a lexer. -/
def addPair (rules : FilenameRules) (pair : String × String) : FilenameRules :=
  { byPattern := rules.byPattern.putNew pair.1 pair.2
    byExtension := match (plainExtension? pair.1).map (·, pair.2) with
      | some e => rules.byExtension.putNew e.1 e.2
      | none => rules.byExtension }

theorem add_eq_addPair (rules : FilenameRules) (lexer glob : String) :
    rules.add lexer glob = rules.addPair (Text.lower glob, lexer) := by
  rw [add, addPair]
  cases plainExtension? (Text.lower glob) <;> rfl

theorem addEntry_eq_foldl (rules : FilenameRules) (e : LexerEntry) :
    rules.addEntry e = e.globPairs.foldl addPair rules := by
  rw [addEntry, LexerEntry.globPairs]
  cases e.aliases with
  | nil => rfl
  | cons lexer others => simp only [List.foldl_map, add_eq_addPair]

theorem ofRegistry_eq_foldl (registry : Registry) :
    ofRegistry registry = registry.globPairs.foldl addPair ⟨.empty, .empty⟩ := by
  simp only [ofRegistry, Registry.globPairs, List.foldl_flatMap, ← addEntry_eq_foldl]

theorem byPattern_ofRegistry (registry : Registry) :
    (ofRegistry registry).byPattern = .ofFirst registry.globPairs := by
  rw [ofRegistry_eq_foldl, Dictionary.ofFirst]
  exact (List.foldl_hom byPattern fun _ _ => rfl).symm

theorem byExtension_ofRegistry (registry : Registry) :
    (ofRegistry registry).byExtension = .ofFirst (extensionPairs registry.globPairs) := by
  rw [ofRegistry_eq_foldl, Dictionary.ofFirst, extensionPairs, List.foldl_filterMap]
  refine (List.foldl_hom byExtension fun rules pair => ?_).symm
  rw [addPair]
  cases plainExtension? pair.1 <;> rfl

end FilenameRules

/-! ### The two searches of a lookup -/

/-- Whether a character stands for other characters in a glob. -/
def isSpecial (c : Char) : Bool :=
  c == '*' || c == '?' || c == '['

/-- Whether a glob, in lower case, asks for the extension of a name and for nothing else: what
follows its star and dot is what follows the last dot of the name, and none of it is special. -/
def asksForExtension (name glob : String) : Bool :=
  match Text.afterLast? '.' name.toList with
  | some extension =>
    (Text.lower glob).toList == '*' :: '.' :: extension && !extension.any isSpecial
  | none => false

/-- Whether a glob, in lower case, matches a name. -/
def globMatches (name glob : String) : Bool :=
  Glob.isMatch (Text.lower glob) name

theorem plainExtension?_eq_some_iff {glob : String} {extension : List Char} :
    plainExtension? glob = some (String.ofList extension) ↔
      glob.toList = '*' :: '.' :: extension ∧ extension.any isSpecial = false := by
  rw [plainExtension?]
  split
  · next found hglob =>
    change (if found.any isSpecial then none else some (String.ofList found)) = _ ↔ _
    rw [hglob, List.cons_inj_right, List.cons_inj_right]
    cases h : found.any isSpecial with
    | true =>
      refine ⟨nofun, ?_⟩
      rintro ⟨rfl, hplain⟩
      exact absurd h (Bool.not_eq_true _ ▸ hplain)
    | false =>
      rw [if_neg Bool.false_ne_true, Option.some.injEq, String.ofList_inj]
      exact ⟨fun heq => ⟨heq, heq ▸ h⟩, And.left⟩
  · next hglob => exact ⟨nofun, fun h => absurd h.1 (hglob extension)⟩

theorem asksForExtension_of_some {name : String} {extension : List Char}
    (h : Text.afterLast? '.' name.toList = some extension) :
    asksForExtension name =
      fun glob => plainExtension? (Text.lower glob) = some (String.ofList extension) := by
  funext glob
  simp only [asksForExtension, h]
  rw [Bool.eq_iff_iff, decide_eq_true_iff, plainExtension?_eq_some_iff]
  simp

namespace FilenameRules

theorem byPattern_find? (registry : Registry) (name : String) :
    ((ofRegistry registry).byPattern.entries.find? fun e => Glob.isMatch e.1 name).map Prod.snd =
      registry.firstWith? (globMatches name) := by
  rw [byPattern_ofRegistry, Dictionary.find?_ofFirst _ fun glob => Glob.isMatch glob name]
  exact registry.find?_globPairs fun glob => Glob.isMatch glob name

theorem byExtension_get? (registry : Registry) (name : String) :
    ((Text.afterLast? '.' name.toList).bind fun extension =>
        (ofRegistry registry).byExtension.get? (String.ofList extension)) =
      registry.firstWith? (asksForExtension name) := by
  cases hname : Text.afterLast? '.' name.toList with
  | none =>
    refine (Registry.firstWith?_eq_none_iff.mpr fun e _ he => ?_).symm
    obtain ⟨glob, -, hglob⟩ := he.2
    simp [asksForExtension, hname] at hglob
  | some extension =>
    rw [Option.bind_some, byExtension_ofRegistry, Dictionary.get?_eq_find?,
      Dictionary.find?_ofFirst _ fun key => key = String.ofList extension,
      find?_extensionPairs, asksForExtension_of_some hname]
    exact registry.find?_globPairs fun glob => plainExtension? glob = some (.ofList extension)

theorem lexerFor?_ofRegistry (registry : Registry) (name : String) :
    (ofRegistry registry).lexerFor? name =
      (registry.firstWith? (asksForExtension name)).or
        (registry.firstWith? (globMatches name)) := by
  rw [← byExtension_get?, ← byPattern_find?, lexerFor?]
  cases hname : Text.afterLast? '.' name.toList with
  | none => rfl
  | some extension =>
    cases hget : (ofRegistry registry).byExtension.get? (String.ofList extension) <;>
      simp [hget]

/-- The lookup of a file in the tables of a registry is a search of the registry itself in two
stages. The first looks for a lexer with a glob that is a star, a dot and the text after the last
dot of the name; if there is none, the second looks for a lexer with any glob that matches. In both
the first lexer of the registry counts which goes by a name, and the name of the file is compared in
lower case. -/
theorem lexerForPath?_ofRegistry (registry : Registry) (path : String) :
    let name := Text.lower (baseName path)
    (∀ a, (ofRegistry registry).lexerForPath? path = some a ↔
      registry.FirstWith (asksForExtension name) a ∨
        (∀ e ∈ registry, ¬ e.Has (asksForExtension name)) ∧
          registry.FirstWith (globMatches name) a) ∧
    ((ofRegistry registry).lexerForPath? path = none ↔
      ∀ e ∈ registry, ¬ e.Has (asksForExtension name) ∧ ¬ e.Has (globMatches name)) := by
  intro name
  rw [lexerForPath?, lexerFor?_ofRegistry]
  refine ⟨fun a => ?_, ?_⟩
  · rw [Option.or_eq_some_iff, Registry.firstWith?_eq_some_iff, Registry.firstWith?_eq_none_iff,
      Registry.firstWith?_eq_some_iff]
  · rw [Option.or_eq_none_iff, Registry.firstWith?_eq_none_iff, Registry.firstWith?_eq_none_iff]
    constructor
    · exact fun h e he => ⟨h.1 e he, h.2 e he⟩
    · exact fun h => ⟨fun e he => (h e he).1, fun e he => (h e he).2⟩

end FilenameRules

end CodeMarkup
