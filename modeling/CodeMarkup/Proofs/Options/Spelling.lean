import CodeMarkup.Proofs.Options.Issues
import Mathlib.Data.List.Nodup
import Mathlib.Data.List.Perm.Basic

/-!
Keys of settings. Neither their order nor which spelling of an option is used makes a difference,
except that an issue is reported under the key that was used and that unknown keys are reported in
the order given. Two spellings of one option are never both accepted: the first one counts for the
option and the other one for nothing.
-/

namespace CodeMarkup

/-- The settings with one key spelled in another way. -/
def respell (key key' : String) (given : List (String × Setting)) : List (String × Setting) :=
  given.map fun e => (if e.1 = key then key' else e.1, e.2)

/-- The issue, reported under another key if it is about the key that is spelled differently. -/
def Issue.respell (key key' : String) (i : Issue) : Issue :=
  if i.key = key then { i with key := key' } else i

namespace Options

variable {t : Taxonomy} {given given' : List (String × Setting)} {key key' : String} {s : Setting}

/-! ### The keys that are reported -/

theorem mem_usedKeys_iff : key ∈ usedKeys given ↔ ∃ f s, Field.find? f given = some (key, s) := by
  simp [usedKeys, Field.mem_all]

theorem mem_fieldIssues_iff {i : Issue} :
    i ∈ fieldIssues t given ↔
      ∃ f : Field, f.find? given = some (i.key, i.input) ∧
        f.problem? t i.input = some i.problem := by
  rw [fieldIssues, List.mem_filterMap]
  constructor
  · rintro ⟨f, -, hissue⟩
    obtain ⟨⟨key, s⟩, hfind, hproblem⟩ := Option.bind_eq_some_iff.mp hissue
    obtain ⟨p, hp, rfl⟩ := Option.map_eq_some_iff.mp hproblem
    exact ⟨f, hfind, hp⟩
  · rintro ⟨f, hfind, hproblem⟩
    exact ⟨f, f.mem_all, by simp [Field.issue?, hfind, hproblem]⟩

theorem mem_unknownKeys_iff {i : Issue} :
    i ∈ unknownKeys given ↔
      (i.key, i.input) ∈ given ∧ i.problem = .unknownKey ∧ i.key ∉ usedKeys given := by
  simp only [unknownKeys, List.mem_map, List.mem_filter, decide_eq_true_eq]
  constructor
  · rintro ⟨⟨key, s⟩, ⟨hmem, hused⟩, rfl⟩
    exact ⟨hmem, rfl, hused⟩
  · rintro ⟨hmem, hproblem, hused⟩
    refine ⟨(i.key, i.input), ⟨hmem, hused⟩, ?_⟩
    rw [← hproblem]

/-- The keys that count for options are distinct, because a key is a spelling of one option. -/
theorem nodup_usedKeys (given : List (String × Setting)) : (usedKeys given).Nodup := by
  refine List.Nodup.filterMap ?_ Field.nodup_all
  intro f g key hf hg
  obtain ⟨e, he, rfl⟩ := Option.map_eq_some_iff.mp hf
  obtain ⟨e', he', hkey⟩ := Option.map_eq_some_iff.mp hg
  have hmem : e'.1 ∈ g.spellings := Field.mem_spellings_of_find? he'
  exact Field.eq_of_mem_spellings (Field.mem_spellings_of_find? he) (hkey ▸ hmem)

theorem sublist_fieldIssues (t : Taxonomy) (given : List (String × Setting)) :
    ((fieldIssues t given).map Issue.key).Sublist (usedKeys given) := by
  unfold fieldIssues usedKeys
  induction Field.all with
  | nil => exact List.Sublist.slnil
  | cons f fs ih =>
    rw [List.filterMap_cons, List.filterMap_cons]
    cases hfind : f.find? given with
    | none => simpa [Field.issue?, hfind] using ih
    | some e =>
      cases hproblem : f.problem? t e.2 with
      | none => simpa [Field.issue?, hfind, hproblem] using ih.cons e.1
      | some p => simpa [Field.issue?, hfind, hproblem] using ih.cons_cons e.1

theorem sublist_unknownKeys (given : List (String × Setting)) :
    ((unknownKeys given).map fun i => (i.key, i.input)).Sublist given := by
  rw [unknownKeys, List.map_map]
  have hentries : ((fun i : Issue => (i.key, i.input)) ∘
      fun e : String × Setting => (⟨e.1, .unknownKey, e.2⟩ : Issue)) = id := rfl
  rw [hentries, List.map_id]
  exact List.filter_sublist

/-- No key is reported twice. -/
theorem nodup_allIssues (t : Taxonomy) (h : (given.map Prod.fst).Nodup) :
    ((allIssues t given).map Issue.key).Nodup := by
  have hunknown : ((unknownKeys given).map Issue.key).Sublist (given.map Prod.fst) := by
    simpa [Function.comp_def] using (sublist_unknownKeys given).map Prod.fst
  rw [allIssues, List.map_append, List.nodup_append]
  refine ⟨(sublist_fieldIssues t given).nodup (nodup_usedKeys given), hunknown.nodup h, ?_⟩
  rintro key hfield _ hkey rfl
  obtain ⟨i, hi, rfl⟩ := List.mem_map.mp hkey
  exact (mem_unknownKeys_iff.mp hi).2.2 ((sublist_fieldIssues t given).subset hfield)

/-! ### Order -/

theorem find?_perm (hperm : given.Perm given') (h : (given.map Prod.fst).Nodup) (f : Field) :
    f.find? given = f.find? given' :=
  Field.find?_congr fun k _ => valueAt?_perm hperm h k

theorem fieldIssues_perm (t : Taxonomy) (hperm : given.Perm given')
    (h : (given.map Prod.fst).Nodup) : fieldIssues t given = fieldIssues t given' := by
  unfold fieldIssues Field.issue?
  simp only [find?_perm hperm h]

theorem unknownKeys_perm (hperm : given.Perm given') (h : (given.map Prod.fst).Nodup) :
    (unknownKeys given).Perm (unknownKeys given') := by
  have hused : usedKeys given = usedKeys given' := by
    unfold usedKeys
    simp only [find?_perm hperm h]
  unfold unknownKeys
  rw [hused]
  exact (hperm.filter _).map _

/-- Options that are read stay the same as long as each of them has the same setting. -/
theorem Reads.of_setting?_eq {o : Options} (h : Reads t given o)
    (hsetting : ∀ f : Field, f.setting? given = f.setting? given')
    (hunknown : unknownKeys given' = []) : Reads t given' o where
  wrapperClass := Field.check_of_setting?_eq (hsetting _) h.wrapperClass
  layout := Field.check_of_setting?_eq (hsetting _) h.layout
  lineNumbers := Field.check_of_setting?_eq (hsetting _) h.lineNumbers
  startLine := Field.check_of_setting?_eq (hsetting _) h.startLine
  theme := Field.check_of_setting?_eq (hsetting _) h.theme
  wrap := Field.check_of_setting?_eq (hsetting _) h.wrap
  shortNames := Field.check_of_setting?_eq (hsetting _) h.shortNames
  unknown := hunknown

theorem ofSettings_perm_of_ok {o : Options} (hperm : given.Perm given')
    (h : (given.map Prod.fst).Nodup) (hok : ofSettings t given = .ok o) :
    ofSettings t given' = .ok o := by
  have hreads := ofSettings_eq_ok_iff.mp hok
  have hunknown : unknownKeys given' = [] := by
    have hperm' := unknownKeys_perm hperm h
    rw [hreads.unknown] at hperm'
    exact hperm'.symm.eq_nil
  have hsetting (f : Field) : f.setting? given = f.setting? given' := by
    rw [Field.setting?, Field.setting?, find?_perm hperm h]
  exact ofSettings_eq_ok_iff.mpr (hreads.of_setting?_eq hsetting hunknown)

theorem ofSettings_perm_of_error {issues : List Issue} (hperm : given.Perm given')
    (h : (given.map Prod.fst).Nodup) (herror : ofSettings t given = .error issues) :
    ofSettings t given' = .error (fieldIssues t given ++ unknownKeys given') := by
  obtain ⟨rfl, hne⟩ := ofSettings_eq_error_iff.mp herror
  refine ofSettings_eq_error_iff.mpr ⟨by rw [allIssues, fieldIssues_perm t hperm h], ?_⟩
  intro hnil
  obtain ⟨hfields, hunknown⟩ := List.append_eq_nil_iff.mp hnil
  have hperm' := unknownKeys_perm hperm h
  rw [hunknown] at hperm'
  exact hne (List.append_eq_nil_iff.mpr ⟨hfields, hperm'.eq_nil⟩)

/-! ### Spelling -/

/-- An option is given under one spelling at most. -/
def OnlyUnder (given : List (String × Setting)) (f : Field) (key : String) : Prop :=
  ∀ k ∈ f.spellings, k ∈ given.map Prod.fst → k = key

section Respell

variable {f : Field} (hkey : key ∈ f.spellings) (hkey' : key' ∈ f.spellings)
  (honly : OnlyUnder given f key)

include hkey honly

theorem find?_of_onlyUnder : f.find? given = (valueAt? key given).map (key, ·) := by
  cases hvalue : valueAt? key given with
  | none =>
    refine Field.find?_eq_none_iff.mpr fun k hk => ?_
    rw [valueAt?_eq_none_iff]
    intro hmem
    rw [honly k hk hmem] at hmem
    exact valueAt?_eq_none_iff.mp hvalue hmem
  | some s =>
    obtain ⟨k, v, hfind⟩ := Field.exists_find? hkey hvalue
    have hk := Field.valueAt?_of_find? hfind
    obtain rfl : k = key := honly k (Field.mem_spellings_of_find? hfind)
      (List.mem_map_of_mem (mem_of_valueAt? hk))
    rw [hk] at hvalue
    rw [hfind, Option.some.inj hvalue, Option.map_some]

theorem mem_usedKeys_of_onlyUnder (hmem : key ∈ given.map Prod.fst) : key ∈ usedKeys given := by
  obtain ⟨s, hs⟩ := exists_valueAt? hmem
  refine mem_usedKeys_iff.mpr ⟨f, s, ?_⟩
  rw [find?_of_onlyUnder hkey honly, hs, Option.map_some]

theorem ne_of_notMem_usedKeys {k : String} (hmem : k ∈ given.map Prod.fst)
    (hunused : k ∉ usedKeys given) : k ≠ key := by
  rintro rfl
  exact hunused (mem_usedKeys_of_onlyUnder hkey honly hmem)

include hkey'

omit hkey in
/-- A spelling that is replaced is looked up under the new key, and other keys as before. -/
theorem valueAt?_respell (k : String) :
    valueAt? k (respell key key' given) =
      if k = key' then valueAt? key given else if k = key then none else valueAt? k given := by
  have hfree : key' ∈ given.map Prod.fst → key' = key := honly key' hkey'
  clear honly hkey'
  induction given with
  | nil => simp [respell, valueAt?]
  | cons e es ih =>
    have hrest := ih fun hmem => hfree (List.mem_cons_of_mem _ hmem)
    have hhead : e.1 = key' → key' = key := fun he => hfree (by simp [he])
    rw [respell] at hrest ⊢
    rw [List.map_cons, valueAt?, hrest]
    by_cases hold : e.1 = key
    · by_cases hk : k = key'
      · simp [hold, hk, valueAt?]
      · simp only [hold, ↓reduceIte, Ne.symm hk, hk]
        by_cases hsame : k = key
        · simp [hsame]
        · simp [hsame, valueAt?, hold, Ne.symm hsame]
    · simp only [hold, ↓reduceIte, valueAt?]
      by_cases hk : e.1 = k
      · subst hk
        have hne : e.1 ≠ key' := fun he => hold (he.trans (hhead he))
        simp [hne, hold]
      · simp [hk]

omit hkey hkey' in
theorem onlyUnder_respell : OnlyUnder (respell key key' given) f key' := by
  intro k hk hmem
  obtain ⟨_, hentry, rfl⟩ := List.mem_map.mp hmem
  obtain ⟨e, he, rfl⟩ := List.mem_map.mp hentry
  dsimp only at hk ⊢
  split
  · rfl
  · next hne =>
    rw [if_neg hne] at hk
    exact absurd (honly _ hk (List.mem_map_of_mem he)) hne

omit hkey in
theorem find?_respell : f.find? (respell key key' given) = (valueAt? key given).map (key', ·) := by
  rw [find?_of_onlyUnder hkey' (onlyUnder_respell honly), valueAt?_respell hkey' honly, if_pos rfl]

theorem find?_respell_of_ne {g : Field} (hne : g ≠ f) :
    g.find? (respell key key' given) = g.find? given := by
  refine Field.find?_congr fun k hk => ?_
  have hother : k ≠ key := by
    rintro rfl
    exact hne (Field.eq_of_mem_spellings hk hkey)
  have hother' : k ≠ key' := by
    rintro rfl
    exact hne (Field.eq_of_mem_spellings hk hkey')
  rw [valueAt?_respell hkey' honly, if_neg hother', if_neg hother]

theorem setting?_respell (g : Field) :
    g.setting? (respell key key' given) = g.setting? given := by
  by_cases hg : g = f
  · subst hg
    rw [Field.setting?, Field.setting?, find?_respell hkey' honly, find?_of_onlyUnder hkey honly,
      Option.map_map, Option.map_map]
    rfl
  · rw [Field.setting?, Field.setting?, find?_respell_of_ne hkey hkey' honly hg]

theorem issue?_respell (t : Taxonomy) (g : Field) :
    g.issue? t (respell key key' given) = (g.issue? t given).map (Issue.respell key key') := by
  by_cases hg : g = f
  · subst hg
    rw [Field.issue?, Field.issue?, find?_respell hkey' honly, find?_of_onlyUnder hkey honly]
    cases valueAt? key given with
    | none => rfl
    | some s => cases hproblem : g.problem? t s <;> simp [hproblem, Issue.respell]
  · rw [Field.issue?, Field.issue?, find?_respell_of_ne hkey hkey' honly hg]
    cases hfind : g.find? given with
    | none => rfl
    | some e =>
      have hne : e.1 ≠ key := by
        rintro rfl
        exact hg (Field.eq_of_mem_spellings (Field.mem_spellings_of_find? hfind) hkey)
      cases hproblem : g.problem? t e.2 <;> simp [hproblem, Issue.respell, hne]

theorem fieldIssues_respell (t : Taxonomy) :
    fieldIssues t (respell key key' given) =
      (fieldIssues t given).map (Issue.respell key key') := by
  unfold fieldIssues
  rw [List.map_filterMap]
  exact List.filterMap_congr fun g _ => issue?_respell hkey hkey' honly t g

/-- The key of an entry counts after the change exactly if it did before. -/
theorem mem_usedKeys_respell {e : String × Setting} (he : e ∈ given) :
    (if e.1 = key then key' else e.1) ∈ usedKeys (respell key key' given) ↔
      e.1 ∈ usedKeys given := by
  have hmem : e.1 ∈ given.map Prod.fst := List.mem_map_of_mem he
  by_cases hold : e.1 = key
  · have hmem' : key' ∈ (respell key key' given).map Prod.fst :=
      List.mem_map.mpr ⟨_, List.mem_map_of_mem he, if_pos hold⟩
    have hused := mem_usedKeys_of_onlyUnder hkey' (onlyUnder_respell honly) hmem'
    have hused' := mem_usedKeys_of_onlyUnder hkey honly (hold ▸ hmem)
    rw [if_pos hold, hold]
    exact ⟨fun _ => hused', fun _ => hused⟩
  · rw [if_neg hold, mem_usedKeys_iff, mem_usedKeys_iff]
    -- The entry has another key, so what it counts for, if anything, is another option.
    have hother (g : Field) (s : Setting) :
        g.find? (respell key key' given) = some (e.1, s) ↔ g.find? given = some (e.1, s) := by
      by_cases hg : g = f
      · subst hg
        have habsent : e.1 ∉ g.spellings := fun h => hold (honly _ h hmem)
        constructor
        · intro h
          exact absurd (Field.mem_spellings_of_find? h) habsent
        · intro h
          exact absurd (Field.mem_spellings_of_find? h) habsent
      · rw [find?_respell_of_ne hkey hkey' honly hg]
    simp only [hother]

theorem unknownKeys_respell : unknownKeys (respell key key' given) = unknownKeys given := by
  have hkept : (given.filter fun e =>
        (if e.1 = key then key' else e.1) ∉ usedKeys (respell key key' given)) =
      given.filter (·.1 ∉ usedKeys given) :=
    List.filter_congr fun e he => by simp only [mem_usedKeys_respell hkey hkey' honly he]
  unfold unknownKeys
  rw [respell, List.filter_map, List.map_map]
  refine Eq.trans (congrArg _ hkept) (List.map_congr_left fun e he => ?_)
  obtain ⟨hmem, hunused⟩ := List.mem_filter.mp he
  -- The key that is spelled differently counts for its option, so it is not among these.
  have hne := ne_of_notMem_usedKeys hkey honly (List.mem_map_of_mem hmem) (by simpa using hunused)
  simp [hne]

theorem ofSettings_respell (t : Taxonomy) :
    ofSettings t (respell key key' given) =
      (ofSettings t given).mapError (List.map (Issue.respell key key')) := by
  have hunknown := unknownKeys_respell hkey hkey' honly
  cases h : ofSettings t given with
  | ok o =>
    have hreads := ofSettings_eq_ok_iff.mp h
    refine ofSettings_eq_ok_iff.mpr (hreads.of_setting?_eq ?_ (hunknown.trans hreads.unknown))
    intro g
    exact (setting?_respell hkey hkey' honly g).symm
  | error issues =>
    obtain ⟨rfl, hne⟩ := ofSettings_eq_error_iff.mp h
    have hsame : (unknownKeys given).map (Issue.respell key key') = unknownKeys given := by
      refine (List.map_congr_left fun i hi => ?_).trans (List.map_id _)
      obtain ⟨hmem, -, hunused⟩ := mem_unknownKeys_iff.mp hi
      exact if_neg (ne_of_notMem_usedKeys hkey honly (List.mem_map_of_mem hmem) hunused)
    refine ofSettings_eq_error_iff.mpr ⟨?_, by simpa using hne⟩
    rw [allIssues, allIssues, fieldIssues_respell hkey hkey' honly, hunknown, List.map_append,
      hsame]

end Respell

/-! ### Several spellings -/

/-- Of several spellings of an option the first one counts, and the others are unknown keys. -/
theorem mem_allIssues_of_find? {f : Field} {first : String}
    (hfind : f.find? given = some (first, s)) {i : Issue} (hi : i.key ∈ f.spellings) :
    i ∈ allIssues t given ↔
      (i.key = first ∧ i.input = s ∧ f.problem? t s = some i.problem) ∨
        (i.key ≠ first ∧ (i.key, i.input) ∈ given ∧ i.problem = .unknownKey) := by
  have hused : i.key ∈ usedKeys given ↔ i.key = first := by
    rw [mem_usedKeys_iff]
    constructor
    · rintro ⟨g, v, hg⟩
      obtain rfl := Field.eq_of_mem_spellings (Field.mem_spellings_of_find? hg) hi
      rw [hfind] at hg
      exact (Prod.mk.inj (Option.some.inj hg)).1.symm
    · rintro rfl
      exact ⟨f, s, hfind⟩
  rw [allIssues, List.mem_append, mem_fieldIssues_iff, mem_unknownKeys_iff, hused]
  constructor
  · rintro (⟨g, hg, hproblem⟩ | ⟨hmem, hproblem, hne⟩)
    · obtain rfl := Field.eq_of_mem_spellings (Field.mem_spellings_of_find? hg) hi
      rw [hfind] at hg
      obtain ⟨hkey, hinput⟩ := Prod.mk.inj (Option.some.inj hg)
      exact .inl ⟨hkey.symm, hinput.symm, hinput ▸ hproblem⟩
    · exact .inr ⟨hne, hmem, hproblem⟩
  · rintro (⟨rfl, rfl, hproblem⟩ | ⟨hne, hmem, hproblem⟩)
    · exact .inl ⟨f, hfind, hproblem⟩
    · exact .inr ⟨hmem, hproblem, hne⟩

/-- Settings with two spellings of an option give no options: one of the two is not the first one,
and so it is reported. -/
theorem allIssues_ne_nil_of_find? {f : Field} {first : String}
    (hfind : f.find? given = some (first, s)) (hkey : key ∈ f.spellings)
    (hkey' : key' ∈ f.spellings) (hne : key ≠ key') (hmem : key ∈ given.map Prod.fst)
    (hmem' : key' ∈ given.map Prod.fst) : allIssues t given ≠ [] := by
  have hother : ∃ k ∈ f.spellings, k ∈ given.map Prod.fst ∧ k ≠ first := by
    by_cases hk : key = first
    · exact ⟨key', hkey', hmem', fun hk' => hne (hk.trans hk'.symm)⟩
    · exact ⟨key, hkey, hmem, hk⟩
  obtain ⟨k, hk, hkmem, hkne⟩ := hother
  obtain ⟨⟨_, v⟩, hentry, rfl⟩ := List.mem_map.mp hkmem
  have hreported : (⟨_, .unknownKey, v⟩ : Issue) ∈ allIssues t given :=
    (mem_allIssues_of_find? hfind hk).mpr (.inr ⟨hkne, hentry, rfl⟩)
  exact List.ne_nil_of_mem hreported

/-- The order of keys does not matter but for that in which unknown keys are reported, and the
spelling of an option not but for the key that is reported. An option that is given under several
spellings is read under the first of them, and the others are unknown keys. Every option that cannot
be read and every unknown key has one issue, and there are no others. -/
theorem ofSettings_spelling (t : Taxonomy) {given : List (String × Setting)}
    (h : (given.map Prod.fst).Nodup) :
    (∀ given', given.Perm given' →
      (∀ o, ofSettings t given = .ok o → ofSettings t given' = .ok o) ∧
      ∀ issues, ofSettings t given = .error issues →
        issues = fieldIssues t given ++ unknownKeys given ∧
          ofSettings t given' = .error (fieldIssues t given ++ unknownKeys given')) ∧
    (∀ (f : Field) key key', key ∈ f.spellings → key' ∈ f.spellings →
      (∀ k ∈ f.spellings, k ∈ given.map Prod.fst → k = key) →
      ofSettings t (respell key key' given) =
        (ofSettings t given).mapError (List.map (Issue.respell key key'))) ∧
    (∀ (f : Field) key key', key ∈ f.spellings → key' ∈ f.spellings → key ≠ key' →
      key ∈ given.map Prod.fst → key' ∈ given.map Prod.fst →
      ∃ before first after s issues, f.spellings = before ++ first :: after ∧
        (∀ k ∈ before, k ∉ given.map Prod.fst) ∧ (first, s) ∈ given ∧
        ofSettings t given = .error issues ∧
        ∀ i : Issue, i.key ∈ f.spellings →
          (i ∈ issues ↔
            (i.key = first ∧ i.input = s ∧ f.problem? t s = some i.problem) ∨
              (i.key ≠ first ∧ (i.key, i.input) ∈ given ∧ i.problem = .unknownKey))) ∧
    ∀ issues, ofSettings t given = .error issues →
      (issues.map Issue.key).Nodup ∧
      (∀ i : Issue, i ∈ issues ↔
        (∃ f : Field, f.find? given = some (i.key, i.input) ∧
          f.problem? t i.input = some i.problem) ∨
        ((i.key, i.input) ∈ given ∧ i.problem = .unknownKey ∧ i.key ∉ usedKeys given)) ∧
      ((unknownKeys given).map fun i => (i.key, i.input)).Sublist given := by
  refine ⟨?_, ?_, ?_, ?_⟩
  · intro given' hperm
    refine ⟨fun o hok => ofSettings_perm_of_ok hperm h hok, fun issues herror => ?_⟩
    exact ⟨(ofSettings_eq_error_iff.mp herror).1, ofSettings_perm_of_error hperm h herror⟩
  · intro f key key' hkey hkey' honly
    exact ofSettings_respell hkey hkey' honly t
  · intro f key key' hkey hkey' hne hmem hmem'
    obtain ⟨s', hvalue⟩ := exists_valueAt? hmem
    obtain ⟨first, s, hfind⟩ := Field.exists_find? hkey hvalue
    obtain ⟨before, after, hspellings, hfirst, hbefore⟩ := Field.find?_eq_some_iff.mp hfind
    have hreported : allIssues t given ≠ [] :=
      allIssues_ne_nil_of_find? hfind hkey hkey' hne hmem hmem'
    refine ⟨before, first, after, s, allIssues t given, hspellings, ?_, mem_of_valueAt? hfirst,
      ofSettings_eq_error_iff.mpr ⟨rfl, hreported⟩, fun i hi => mem_allIssues_of_find? hfind hi⟩
    intro k hk
    exact valueAt?_eq_none_iff.mp (hbefore k hk)
  · intro issues herror
    obtain ⟨rfl, -⟩ := ofSettings_eq_error_iff.mp herror
    refine ⟨nodup_allIssues t h, fun i => ?_, sublist_unknownKeys given⟩
    rw [allIssues, List.mem_append, mem_fieldIssues_iff, mem_unknownKeys_iff]

/-- Settings of which one has an unknown key and another one a spelling that does not come first. -/
def aliasedSettings : List (String × Setting) :=
  [("colour", .value .null), ("css_class", .value (.int 3)), ("lineNumbers", .value (.bool true))]

theorem ofSettings_spelling_aliased :
    (aliasedSettings.map Prod.fst).Nodup ∧
      ofSettings .rootOnly (respell "css_class" "wrapper_class" aliasedSettings) =
        .error [⟨"wrapper_class", .notText, .value (.int 3)⟩,
          ⟨"colour", .unknownKey, .value .null⟩] := by
  have hdistinct : (aliasedSettings.map Prod.fst).Nodup := by decide
  have hspelling := (ofSettings_spelling .rootOnly hdistinct).2.1 .wrapperClass "css_class"
    "wrapper_class" (by decide) (by decide) (by decide)
  refine ⟨hdistinct, ?_⟩
  rw [hspelling]
  rfl

end Options

end CodeMarkup
