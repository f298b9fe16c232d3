import CodeMarkup.Proofs.Lexer.Registry

/-!
Extensions before other globs. A glob that asks for an extension alone matches every name with this
extension, so a file finds a lexer in the tables exactly if some glob matches its name. But such a
glob is looked for first: it overtakes the globs of other lexers that match too and were registered
before.
-/

namespace CodeMarkup

/-! ### What a glob for an extension matches -/

namespace Glob

theorem partsWith_of_plain {cs : List Char} (h : cs.any isSpecial = false) {fuel : Nat}
    (hfuel : cs.length ≤ fuel) : partsWith fuel cs = cs.map .char := by
  induction cs generalizing fuel with
  | nil => cases fuel <;> rfl
  | cons c cs ih =>
    obtain ⟨fuel, rfl⟩ : ∃ n, fuel = n + 1 := ⟨fuel - 1, by simp at hfuel; omega⟩
    rw [List.any_cons, Bool.or_eq_false_iff] at h
    have hne : c ≠ '*' ∧ c ≠ '?' ∧ c ≠ '[' := by
      simpa [isSpecial, and_assoc] using h.1
    rw [partsWith, ih h.2 (by simpa using hfuel), List.map_cons]
    · exact hne.1
    · exact hne.2.1
    · exact hne.2.2

theorem matchParts_chars (cs name : List Char) :
    matchParts (cs.map .char) name = true ↔ name = cs := by
  induction cs generalizing name with
  | nil => cases name <;> simp [matchParts]
  | cons c cs ih =>
    cases name with
    | nil => simp [matchParts]
    | cons d ds => simp [matchParts, Part.holds, ih]

theorem isMatch_plain {glob name : String} {extension : List Char}
    (hglob : glob.toList = '*' :: '.' :: extension) (hplain : extension.any isSpecial = false) :
    isMatch glob name = true ↔ ∃ before, name.toList = before ++ '.' :: extension := by
  have hparts : parts glob.toList = .star :: ('.' :: extension).map .char := by
    have hdot : ('.' :: extension).any isSpecial = false := by simpa [isSpecial] using hplain
    rw [parts, hglob, List.length_cons, partsWith, partsWith_of_plain hdot (Nat.le_refl _)]
  rw [isMatch, search_eq, hparts, matchParts, List.any_eq_true]
  simp only [matchParts_chars, mem_ends_iff]
  constructor
  · rintro ⟨_, ⟨before, hname⟩, rfl⟩
    exact ⟨before, hname⟩
  · rintro ⟨before, hname⟩
    exact ⟨_, ⟨before, hname⟩, rfl⟩

end Glob

theorem globMatches_of_asksForExtension {name glob : String}
    (h : asksForExtension name glob = true) : globMatches name glob = true := by
  rw [asksForExtension] at h
  split at h
  · next extension hname =>
    rw [Bool.and_eq_true, beq_iff_eq, Bool.not_eq_true'] at h
    exact (Glob.isMatch_plain h.1 h.2).mpr (Text.afterLast?_eq_some_iff.mp hname).2
  · cases h

theorem LexerEntry.Has.of_asksForExtension {e : LexerEntry} {name : String}
    (h : e.Has (asksForExtension name)) : e.Has (globMatches name) := by
  obtain ⟨hname, glob, hmem, hglob⟩ := h
  exact ⟨hname, glob, hmem, globMatches_of_asksForExtension hglob⟩

/-! ### Lexers that are overtaken -/

namespace Registry

variable {registry : Registry} {name a b : String}

/-- The first lexer with a glob for the extension of a name goes by `a`, but before it a lexer is
registered that goes by another name `b` and has a glob that matches, the first one to do so. -/
def Overtakes (registry : Registry) (name a b : String) : Prop :=
  ∃ before e after, registry = before ++ e :: after ∧
    (e.Has (asksForExtension name) ∧ e.aliases.head? = some a ∧
      ∀ e' ∈ before, ¬ e'.Has (asksForExtension name)) ∧
    FirstWith before (globMatches name) b ∧ a ≠ b

theorem overtakes_iff : registry.Overtakes name a b ↔
    registry.firstWith? (asksForExtension name) = some a ∧
      registry.firstWith? (globMatches name) = some b ∧ a ≠ b := by
  constructor
  · rintro ⟨before, e, after, hregistry, hfirst, hbefore, hne⟩
    refine ⟨firstWith?_eq_some_iff.mpr ⟨before, e, after, hregistry, hfirst⟩, ?_, hne⟩
    rw [hregistry, firstWith?_append, firstWith?_eq_some_iff.mpr hbefore, Option.some_or]
  · rintro ⟨hasks, hmatches, hne⟩
    obtain ⟨before, e, after, rfl, hfirst⟩ := firstWith?_eq_some_iff.mp hasks
    refine ⟨before, e, after, rfl, hfirst, firstWith?_eq_some_iff.mp ?_, hne⟩
    have he : nameWith? (globMatches name) e = some a :=
      nameWith?_eq_some_iff.mpr ⟨hfirst.1.of_asksForExtension, hfirst.2.1⟩
    rw [firstWith?_append] at hmatches
    cases hbefore : firstWith? before (globMatches name) with
    | some c => rwa [hbefore, Option.some_or] at hmatches
    | none =>
      rw [hbefore, Option.none_or, firstWith?, List.findSome?_cons, he] at hmatches
      exact absurd (Option.some.inj hmatches) hne

end Registry

namespace FilenameRules

/-- A file finds no lexer exactly if no glob of a lexer that goes by a name matches the name of the
file. Where globs match, the file finds the first lexer registered with such a glob, unless another
lexer registered later overtakes it with a glob for the extension alone: then it finds the other. -/
theorem lexerForPath?_eq_scan_iff (registry : Registry) (path : String) :
    let name := Text.lower (baseName path)
    let found := (ofRegistry registry).lexerForPath? path
    (found = none ↔ ∀ e ∈ registry, ¬ e.Has (globMatches name)) ∧
    ∀ b, registry.FirstWith (globMatches name) b →
      (found = some b ↔ ∀ a, ¬ registry.Overtakes name a b) ∧
      ∀ a, found = some a ∧ a ≠ b ↔ registry.Overtakes name a b := by
  intro name found
  have hfound : found = (registry.firstWith? (asksForExtension name)).or
      (registry.firstWith? (globMatches name)) := lexerFor?_ofRegistry registry name
  refine ⟨?_, fun b hb => ?_⟩
  · rw [hfound, Option.or_eq_none_iff, Registry.firstWith?_eq_none_iff,
      Registry.firstWith?_eq_none_iff, and_iff_right_iff_imp]
    exact fun h e he hasks => h e he hasks.of_asksForExtension
  · have hscan := Registry.firstWith?_eq_some_iff.mpr hb
    simp only [Registry.overtakes_iff, hfound, hscan]
    cases registry.firstWith? (asksForExtension name) with
    | none => simp
    | some c => simp [eq_comm]

/-- A lexer with the whole name of a file among its globs, and one with the extension of that name,
as the standard ones have them. -/
def buildsAndTexts : Registry := [
  ⟨["cmake"], ["*.cmake", "CMakeLists.txt"]⟩,
  ⟨["text"], ["*.txt"]⟩]

theorem buildsAndTexts_firstWith :
    buildsAndTexts.FirstWith (globMatches "cmakelists.txt") "cmake" :=
  Registry.firstWith?_eq_some_iff.mp (by decide +kernel)

theorem buildsAndTexts_overtakes :
    buildsAndTexts.Overtakes "cmakelists.txt" "text" "cmake" :=
  Registry.overtakes_iff.mpr ⟨by decide +kernel, by decide +kernel, by decide⟩

theorem lexerForPath?_eq_scan_iff_cmake :
    buildsAndTexts.FirstWith (globMatches "cmakelists.txt") "cmake" ∧
      buildsAndTexts.Overtakes "cmakelists.txt" "text" "cmake" ∧
      (ofRegistry buildsAndTexts).lexerForPath? "src/CMakeLists.txt" = some "text" := by
  have hname : Text.lower (baseName "src/CMakeLists.txt") = "cmakelists.txt" := by decide +kernel
  have hfound := (lexerForPath?_eq_scan_iff buildsAndTexts "src/CMakeLists.txt").2 "cmake"
  rw [hname] at hfound
  have htext := ((hfound buildsAndTexts_firstWith).2 "text").mpr buildsAndTexts_overtakes
  exact ⟨buildsAndTexts_firstWith, buildsAndTexts_overtakes, htext.1⟩

/-- A file does not always find the first lexer with a glob that matches its name. -/
theorem extension_overtakes_name :
    ¬ ∀ (registry : Registry) (path b : String),
      registry.FirstWith (globMatches (Text.lower (baseName path))) b →
        (ofRegistry registry).lexerForPath? path = some b := by
  intro hfirst
  have hname : Text.lower (baseName "CMakeLists.txt") = "cmakelists.txt" := by decide +kernel
  have hcmake := hfirst buildsAndTexts "CMakeLists.txt" "cmake"
    (hname ▸ buildsAndTexts_firstWith)
  have htext : (ofRegistry buildsAndTexts).lexerForPath? "CMakeLists.txt" = some "text" := by
    decide +kernel
  rw [hcmake] at htext
  exact absurd htext (by decide)

end FilenameRules

end CodeMarkup
