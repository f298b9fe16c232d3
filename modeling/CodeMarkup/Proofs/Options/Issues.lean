import CodeMarkup.Options
import Mathlib.Data.List.Basic

/-!
Everything that is wrong with settings. An option is looked up under its spellings, and what is
found is read on its own, so each option has at most one issue; each key that counts for no option
has one as well. Settings give options exactly if there is no issue at all, and otherwise the list
of all issues in a fixed order.
-/

namespace CodeMarkup

/-- The problem of a reading that failed. -/
def problemOf {β : Type} : Except Problem β → Option Problem
  | .ok _ => none
  | .error p => some p

namespace Field

/-- What is wrong with a setting for an option, if anything is. -/
def problem? (t : Taxonomy) : Field → Setting → Option Problem
  | wrapperClass, s => problemOf s.toText
  | layout, s => problemOf s.toLayout
  | lineNumbers, s => problemOf s.toBool
  | startLine, s => problemOf s.toInt
  | theme, s => problemOf s.toTheme
  | wrap, s => problemOf s.toBool
  | shortNames, s => problemOf (s.toNames t)

/-- The issue of an option, if it is given and cannot be read. -/
def issue? (t : Taxonomy) (given : List (String × Setting)) (f : Field) : Option Issue :=
  (f.find? given).bind fun (key, s) => (f.problem? t s).map (⟨key, ·, s⟩)

/-- The setting that counts for an option, whatever its spelling. -/
def setting? (f : Field) (given : List (String × Setting)) : Option Setting :=
  (f.find? given).map Prod.snd

theorem mem_all (f : Field) : f ∈ all := by
  cases f <;> simp [all]

theorem nodup_all : all.Nodup := by
  decide

/-- A key is a spelling of one option at most. -/
theorem eq_of_mem_spellings {f g : Field} {key : String} (hf : key ∈ f.spellings)
    (hg : key ∈ g.spellings) : f = g := by
  have hdisjoint : ∀ f ∈ all, ∀ g ∈ all, ∀ key ∈ f.spellings, key ∈ g.spellings → f = g := by
    decide
  exact hdisjoint f f.mem_all g g.mem_all key hf hg

section Lookup

variable {f : Field} {given : List (String × Setting)} {key : String} {s : Setting}

/-- What counts for an option is given under the first of its spellings that is given at all. -/
theorem find?_eq_some_iff :
    f.find? given = some (key, s) ↔
      ∃ before after, f.spellings = before ++ key :: after ∧ valueAt? key given = some s ∧
        ∀ k ∈ before, valueAt? k given = none := by
  unfold find?
  rw [List.findSome?_eq_some_iff]
  constructor
  · rintro ⟨before, k, after, hspellings, hk, hbefore⟩
    obtain ⟨v, hv, hpair⟩ := Option.map_eq_some_iff.mp hk
    obtain ⟨rfl, rfl⟩ := Prod.mk.inj hpair
    exact ⟨before, after, hspellings, hv, fun k hk => by simpa using hbefore k hk⟩
  · rintro ⟨before, after, hspellings, hkey, hbefore⟩
    exact ⟨before, key, after, hspellings, by simp [hkey], fun k hk => by simp [hbefore k hk]⟩

theorem find?_eq_none_iff :
    f.find? given = none ↔ ∀ k ∈ f.spellings, valueAt? k given = none := by
  simp [find?]

theorem mem_spellings_of_find? (h : f.find? given = some (key, s)) : key ∈ f.spellings := by
  obtain ⟨before, after, hspellings, -⟩ := find?_eq_some_iff.mp h
  simp [hspellings]

theorem valueAt?_of_find? (h : f.find? given = some (key, s)) : valueAt? key given = some s := by
  obtain ⟨-, -, -, hvalue, -⟩ := find?_eq_some_iff.mp h
  exact hvalue

/-- An option that is given is found, under one of its spellings. -/
theorem exists_find? (hkey : key ∈ f.spellings) (h : valueAt? key given = some s) :
    ∃ k v, f.find? given = some (k, v) := by
  cases hfind : f.find? given with
  | some e => exact ⟨e.1, e.2, rfl⟩
  | none =>
    rw [find?_eq_none_iff.mp hfind key hkey] at h
    cases h

theorem find?_congr {given' : List (String × Setting)}
    (h : ∀ k ∈ f.spellings, valueAt? k given = valueAt? k given') :
    f.find? given = f.find? given' := by
  unfold find?
  generalize f.spellings = spellings at h
  induction spellings with
  | nil => rfl
  | cons k ks ih =>
    rw [List.findSome?_cons, List.findSome?_cons, h k List.mem_cons_self,
      ih fun k' hk' => h k' (List.mem_cons_of_mem _ hk')]

theorem check_of_setting?_eq {β : Type} {given' : List (String × Setting)} {default v : β}
    {read : Setting → Except Problem β} (h : f.setting? given = f.setting? given')
    (hcheck : f.check given default read = .ok v) : f.check given' default read = .ok v := by
  unfold setting? at h
  unfold check at hcheck ⊢
  cases hfind : f.find? given with
  | none =>
    rw [hfind, Option.map_none, eq_comm, Option.map_eq_none_iff] at h
    rw [hfind] at hcheck
    rw [h]
    exact hcheck
  | some e =>
    rw [hfind, Option.map_some, eq_comm, Option.map_eq_some_iff] at h
    obtain ⟨e', hfind', hsetting⟩ := h
    rw [hfind] at hcheck
    rw [hfind']
    simp only [hsetting] at hcheck ⊢
    cases hread : read e.2 with
    | error p => simp [hread, Except.mapError] at hcheck
    | ok w => simpa [hread, Except.mapError] using hcheck

/-- What one reading makes of the settings, another makes that reads as much. -/
theorem check_mono {β : Type} {default v : β} {read read' : Setting → Except Problem β}
    (h : ∀ s v, read s = .ok v → read' s = .ok v) (hcheck : f.check given default read = .ok v) :
    f.check given default read' = .ok v := by
  unfold check at hcheck ⊢
  cases hfind : f.find? given with
  | none =>
    rw [hfind] at hcheck
    exact hcheck
  | some e =>
    simp only [hfind] at hcheck ⊢
    cases hread : read e.2 with
    | error p => simp [hread, Except.mapError] at hcheck
    | ok w =>
      rw [hread] at hcheck
      rw [h e.2 w hread]
      exact hcheck

theorem issueOf_check {β : Type} {t : Taxonomy} {read : Setting → Except Problem β}
    (hread : ∀ s, problemOf (read s) = f.problem? t s) (given : List (String × Setting))
    (default : β) :
    Options.issueOf (f.check given default read) = (f.issue? t given).toList := by
  unfold check issue?
  cases hfind : f.find? given with
  | none => rfl
  | some e =>
    simp only [Option.bind_some, ← hread]
    cases read e.2 <;> rfl

end Lookup

end Field

namespace Options

/-- The issues of the options, in the fixed order. -/
def fieldIssues (t : Taxonomy) (given : List (String × Setting)) : List Issue :=
  Field.all.filterMap (Field.issue? t given)

/-- All issues of settings. -/
def allIssues (t : Taxonomy) (given : List (String × Setting)) : List Issue :=
  fieldIssues t given ++ unknownKeys given

theorem issueOf_eq_nil_iff {β : Type} {e : Except Issue β} :
    issueOf e = [] ↔ ∃ v, e = .ok v := by
  cases e <;> simp [issueOf]

variable {t : Taxonomy} {given : List (String × Setting)}

/-- The options that settings give, once each of them has been read. -/
structure Reads (t : Taxonomy) (given : List (String × Setting)) (o : Options) : Prop where
  wrapperClass : Field.wrapperClass.check given (some "highlight") Setting.toText =
    .ok o.wrapperClass
  layout : Field.layout.check given .table Setting.toLayout = .ok o.layout
  lineNumbers : Field.lineNumbers.check given false Setting.toBool = .ok o.lineNumbers
  startLine : Field.startLine.check given 1 Setting.toInt = .ok o.startLine
  theme : Field.theme.check given none Setting.toTheme = .ok o.theme
  wrap : Field.wrap.check given true Setting.toBool = .ok o.wrap
  shortNames : Field.shortNames.check given .standard (Setting.toNames t) = .ok o.shortNames
  unknown : unknownKeys given = []

theorem fieldIssues_eq (t : Taxonomy) (given : List (String × Setting)) :
    fieldIssues t given =
      issueOf (Field.wrapperClass.check given (some "highlight") Setting.toText) ++
      issueOf (Field.layout.check given .table Setting.toLayout) ++
      issueOf (Field.lineNumbers.check given false Setting.toBool) ++
      issueOf (Field.startLine.check given 1 Setting.toInt) ++
      issueOf (Field.theme.check given none Setting.toTheme) ++
      issueOf (Field.wrap.check given true Setting.toBool) ++
      issueOf (Field.shortNames.check given .standard (Setting.toNames t)) := by
  have hflat : fieldIssues t given = Field.all.flatMap fun f => (f.issue? t given).toList :=
    List.filterMap_eq_flatMap_toList _ _
  rw [hflat, Field.issueOf_check (t := t) fun _ => rfl, Field.issueOf_check (t := t) fun _ => rfl,
    Field.issueOf_check (t := t) fun _ => rfl, Field.issueOf_check (t := t) fun _ => rfl,
    Field.issueOf_check (t := t) fun _ => rfl, Field.issueOf_check (t := t) fun _ => rfl,
    Field.issueOf_check (t := t) fun _ => rfl]
  simp [Field.all]

theorem ofSettings_eq_ok_iff {o : Options} : ofSettings t given = .ok o ↔ Reads t given o := by
  dsimp only [ofSettings]
  constructor
  · intro h
    split at h
    · next hclass hlayout hnumbers hstart htheme hwrap hnames hunknown =>
      obtain rfl := Except.ok.inj h
      exact ⟨hclass, hlayout, hnumbers, hstart, htheme, hwrap, hnames, hunknown⟩
    · cases h
  · intro h
    simp only [h.wrapperClass, h.layout, h.lineNumbers, h.startLine, h.theme, h.wrap,
      h.shortNames, h.unknown]

theorem ofSettings_eq_error_iff {issues : List Issue} :
    ofSettings t given = .error issues ↔ issues = allIssues t given ∧ issues ≠ [] := by
  rw [allIssues, fieldIssues_eq]
  dsimp only [ofSettings]
  split
  · next hclass hlayout hnumbers hstart htheme hwrap hnames hunknown =>
    rw [hclass, hlayout, hnumbers, hstart, htheme, hwrap, hnames, hunknown]
    simp [issueOf]
  · next hfail =>
    rw [Except.error.injEq, eq_comm, iff_self_and]
    rintro rfl hnil
    simp only [List.append_eq_nil_iff, issueOf_eq_nil_iff] at hnil
    obtain ⟨⟨⟨⟨⟨⟨⟨⟨_, hclass⟩, _, hlayout⟩, _, hnumbers⟩, _, hstart⟩, _, htheme⟩, _, hwrap⟩,
      _, hnames⟩, hunknown⟩ := hnil
    exact hfail _ _ _ _ _ _ _ hclass hlayout hnumbers hstart htheme hwrap hnames hunknown

end Options

end CodeMarkup
