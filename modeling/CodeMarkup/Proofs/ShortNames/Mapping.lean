import Mathlib.Data.Finset.Card
import CodeMarkup.Proofs.Kind.Nearest

/-!
Short names from a mapping. Keys that resolve to one kind are one entry, with the value of the last
of them, and a lookup finds the name of the longest prefix of a path that has one. The order of a
mapping matters only among keys that resolve to one kind.
-/

namespace CodeMarkup

namespace Dictionary

variable {α β : Type} [DecidableEq α]

theorem contains_eq_true_iff {d : Dictionary α β} {a : α} :
    d.contains a = true ↔ ∃ b, d.get? a = some b :=
  Option.isSome_iff_exists

theorem mem_keys_ofList {es : List (α × β)} {a : α} :
    a ∈ (ofList es).entries.map Prod.fst ↔ a ∈ es.map Prod.fst := by
  have hget := get?_ofList es a
  have hkeys : valueAt? a (ofList es).entries = none ↔ valueAt? a es.reverse = none := by
    rw [← hget, get?]
  rw [valueAt?_eq_none_iff, valueAt?_eq_none_iff, List.map_reverse, List.mem_reverse] at hkeys
  exact not_iff_not.mp hkeys

/-- There are as many entries as there are keys that differ. -/
theorem size_ofList (es : List (α × β)) : (ofList es).size = (es.map Prod.fst).toFinset.card := by
  have hkeys : ((ofList es).entries.map Prod.fst).toFinset = (es.map Prod.fst).toFinset := by
    ext a
    rw [List.mem_toFinset, List.mem_toFinset, mem_keys_ofList]
  rw [← hkeys, List.toFinset_card_of_nodup (ofList es).nodup, List.length_map, size]

theorem get?_ofList_perm {es fs : List (α × β)} (hperm : es.Perm fs)
    (h : (es.map Prod.fst).Nodup) (a : α) : (ofList es).get? a = (ofList fs).get? a := by
  have hreverse : es.reverse.Perm fs.reverse :=
    (es.reverse_perm.trans hperm).trans fs.reverse_perm.symm
  have hnodup : (es.reverse.map Prod.fst).Nodup := by
    rw [List.map_reverse, List.nodup_reverse]
    exact h
  rw [get?_ofList, get?_ofList, valueAt?_perm hreverse hnodup]

end Dictionary

namespace ShortNames

variable {t : Taxonomy} {es es' : List (KindRef × Value)} {names names' : ShortNames} {j k : Kind}
  {v : Value} {u : UnknownKind} {name : String}

/-- Of the entries whose keys resolve to `k` the last one has the value `v`. -/
def Lists (t : Taxonomy) (es : List (KindRef × Value)) (k : Kind) (v : Value) : Prop :=
  ∃ before r after, es = before ++ (r, v) :: after ∧ r.resolve? t = some k ∧
    ∀ e ∈ after, e.1.resolve? t ≠ some k

/-- The kinds that keys resolve to, with the names that they are given. -/
def resolved (t : Taxonomy) (es : List (KindRef × Value)) : List (Kind × Option String) :=
  es.filterMap fun e => (e.1.resolve? t).map (·, e.2.shortName?)

theorem map_fst_resolved (t : Taxonomy) (es : List (KindRef × Value)) :
    (resolved t es).map Prod.fst = es.filterMap (·.1.resolve? t) := by
  simp [resolved, List.map_filterMap, Function.comp_def]

/-! ### Keys that do not resolve -/

theorem extend_eq (t : Taxonomy) (d : Dictionary Kind (Option String))
    (es : List (KindRef × Value)) :
    extend t d es = match es.find? fun e => e.1.resolve? t = none with
      | some e => .error ⟨e.1, none⟩
      | none => .ok ((resolved t es).foldl (fun d e => d.put e.1 e.2) d) := by
  induction es generalizing d with
  | nil => rfl
  | cons e es ih =>
    obtain ⟨r, v⟩ := e
    rw [extend]
    cases hr : r.resolve? t with
    | none => simp [KindRef.resolve, hr, bind, Except.bind]
    | some k =>
      have hresolved : resolved t ((r, v) :: es) = (k, v.shortName?) :: resolved t es := by
        simp [resolved, hr]
      simp [KindRef.resolve, hr, bind, Except.bind, ih, hresolved]

theorem ofMapping_eq (t : Taxonomy) (es : List (KindRef × Value)) :
    ofMapping t es = match es.find? fun e => e.1.resolve? t = none with
      | some e => .error ⟨e.1, none⟩
      | none => .ok ⟨.ofList (resolved t es)⟩ := by
  rw [ofMapping, extend_eq]
  cases es.find? fun e => e.1.resolve? t = none <;> rfl

theorem ofMapping_eq_error_iff :
    ofMapping t es = .error u ↔ ∃ before e after, es = before ++ e :: after ∧
      (∀ e' ∈ before, e'.1.resolve? t ≠ none) ∧ e.1.resolve? t = none ∧ u = ⟨e.1, none⟩ := by
  have hfirst (e : KindRef × Value) :
      (es.find? fun e => e.1.resolve? t = none) = some e ↔ ∃ before after,
        es = before ++ e :: after ∧ (∀ e' ∈ before, e'.1.resolve? t ≠ none) ∧
          e.1.resolve? t = none := by
    rw [List.find?_eq_some_iff_append]
    simp only [decide_eq_true_eq]
    constructor
    · rintro ⟨hnone, before, after, hes, hbefore⟩
      exact ⟨before, after, hes, by simpa using hbefore, hnone⟩
    · rintro ⟨before, after, hes, hbefore, hnone⟩
      exact ⟨hnone, before, after, hes, by simpa using hbefore⟩
  rw [ofMapping_eq]
  constructor
  · intro h
    split at h
    · next e he =>
      obtain ⟨before, after, hes, hbefore, hnone⟩ := (hfirst e).mp he
      exact ⟨before, e, after, hes, hbefore, hnone, (Except.error.inj h).symm⟩
    · cases h
  · rintro ⟨before, e, after, hes, hbefore, hnone, rfl⟩
    rw [(hfirst e).mpr ⟨before, after, hes, hbefore, hnone⟩]

theorem ofMapping_eq_ok_iff :
    ofMapping t es = .ok names ↔
      (∀ e ∈ es, e.1.resolve? t ≠ none) ∧ names = ⟨.ofList (resolved t es)⟩ := by
  have hnone : (es.find? fun e => e.1.resolve? t = none) = none ↔
      ∀ e ∈ es, e.1.resolve? t ≠ none := by
    simp
  rw [ofMapping_eq, ← hnone]
  split
  · next e he => simp [he]
  · next he => rw [Except.ok.injEq, eq_comm, and_iff_right he]

/-! ### Lookups -/

theorem get?_resolved (t : Taxonomy) (es : List (KindRef × Value)) (k : Kind) :
    (Dictionary.ofList (resolved t es)).get? k =
      (es.reverse.find? fun e => e.1.resolve? t = some k).map (·.2.shortName?) := by
  have hfirst : ∀ es : List (KindRef × Value), valueAt? k (resolved t es) =
      (es.find? fun e => e.1.resolve? t = some k).map (·.2.shortName?) := by
    intro es
    induction es with
    | nil => rfl
    | cons e es ih =>
      rw [resolved, List.filterMap_cons, ← resolved, List.find?_cons]
      cases hr : e.1.resolve? t with
      | none => simpa using ih
      | some j => by_cases hj : j = k <;> simp [valueAt?, hj, ih]
  rw [Dictionary.get?_ofList, resolved, ← List.filterMap_reverse]
  exact hfirst es.reverse

theorem lists_iff :
    Lists t es k v ↔
      ∃ r, (es.reverse.find? fun e => e.1.resolve? t = some k) = some (r, v) := by
  simp only [List.find?_eq_some_iff_append, decide_eq_true_eq]
  constructor
  · rintro ⟨before, r, after, rfl, hr, hafter⟩
    exact ⟨r, hr, after.reverse, before.reverse, by simp, by simpa using hafter⟩
  · rintro ⟨r, hr, after, before, hes, hafter⟩
    refine ⟨before.reverse, r, after.reverse, ?_, hr, by simpa using hafter⟩
    rw [← List.reverse_inj, hes]
    simp

theorem get?_eq_some_iff {given : Option String} (h : ofMapping t es = .ok names) :
    names.names.get? k = some given ↔ ∃ v, Lists t es k v ∧ v.shortName? = given := by
  obtain ⟨-, rfl⟩ := ofMapping_eq_ok_iff.mp h
  rw [get?_resolved, Option.map_eq_some_iff]
  constructor
  · rintro ⟨⟨r, v⟩, hfind, rfl⟩
    exact ⟨v, lists_iff.mpr ⟨r, hfind⟩, rfl⟩
  · rintro ⟨v, hlists, rfl⟩
    obtain ⟨r, hfind⟩ := lists_iff.mp hlists
    exact ⟨(r, v), hfind, rfl⟩

theorem own?_eq_some_iff (h : ofMapping t es = .ok names) :
    names.own? k = some name ↔ ∃ v, Lists t es k v ∧ v.shortName? = some name := by
  rw [own?, Option.join_eq_some_iff, get?_eq_some_iff h]

theorem contains_iff (h : ofMapping t es = .ok names) :
    names.contains (.kind k) = .ok true ↔ ∃ v, Lists t es k v := by
  have hcontains : names.contains (.kind k) = .ok (names.names.contains k) := rfl
  rw [hcontains, Except.ok.injEq, Dictionary.contains_eq_true_iff]
  simp only [get?_eq_some_iff h]
  constructor
  · rintro ⟨_, v, hlists, -⟩
    exact ⟨v, hlists⟩
  · rintro ⟨v, hlists⟩
    exact ⟨_, v, hlists, rfl⟩

theorem shortName?_eq_none_iff : v.shortName? = none ↔ v = .null := by
  cases v <;> simp [Value.shortName?]

theorem own?_eq_none_iff (h : ofMapping t es = .ok names) :
    names.own? k = none ↔ ∀ v, Lists t es k v → v = .null := by
  rw [Option.eq_none_iff_forall_ne_some]
  simp only [ne_eq, own?_eq_some_iff h, ← shortName?_eq_none_iff]
  constructor
  · intro hnone v hlists
    refine Option.eq_none_iff_forall_ne_some.mpr fun name hname => ?_
    exact hnone name ⟨v, hlists, hname⟩
  · rintro hnone name ⟨v, hlists, hname⟩
    rw [hnone v hlists] at hname
    cases hname

theorem nearest_iff (h : ofMapping t es = .ok names) :
    k.Nearest names.own? j name ↔ j.path <+: k.path ∧
      (∃ v, Lists t es j v ∧ v.shortName? = some name) ∧
      ∀ i w, i.path <+: k.path → Lists t es i w → w ≠ .null → i.path.length ≤ j.path.length := by
  have hown (i : Kind) : names.own? i ≠ none ↔ ∃ w, Lists t es i w ∧ w ≠ .null := by
    simp only [ne_eq, own?_eq_none_iff h, not_forall, exists_prop]
  constructor
  · rintro ⟨habove, hvalue, hlongest⟩
    refine ⟨habove, (own?_eq_some_iff h).mp hvalue, fun i w hi hlists hw => ?_⟩
    exact hlongest i hi ((hown i).mpr ⟨w, hlists, hw⟩)
  · rintro ⟨habove, hvalue, hlongest⟩
    refine ⟨habove, (own?_eq_some_iff h).mpr hvalue, fun i hi hne => ?_⟩
    obtain ⟨w, hlists, hw⟩ := (hown i).mp hne
    exact hlongest i w hi hlists hw

theorem find?_of_lists (h : ofMapping t es = .ok names) (hlists : Lists t es k v)
    (hv : v ≠ .null) : names.find? k = v.shortName? := by
  obtain ⟨name, hname⟩ := Option.ne_none_iff_exists'.mp fun hnone =>
    hv (shortName?_eq_none_iff.mp hnone)
  have hown := (own?_eq_some_iff h).mpr ⟨v, hlists, hname⟩
  rw [hname, find?_eq_some_iff]
  exact ⟨k, Kind.nearest_self hown⟩

/-- A kind that is listed without a name is looked up like its parent. -/
theorem find?_of_lists_null {segment : String} (h : ofMapping t es = .ok names)
    (hlists : Lists t es (k.child segment) .null) :
    names.find? (k.child segment) = names.find? k := by
  have hget := (get?_eq_some_iff h).mpr ⟨.null, hlists, rfl⟩
  have hown : names.own? (k.child segment) = none := by
    rw [own?, hget]
    rfl
  rw [find?, Kind.nearest?_child, hown, Option.none_or, find?]

theorem size_ofMapping (h : ofMapping t es = .ok names) :
    names.size = (es.filterMap (·.1.resolve? t)).toFinset.card := by
  obtain ⟨-, rfl⟩ := ofMapping_eq_ok_iff.mp h
  rw [size, Dictionary.size_ofList, map_fst_resolved]

/-- Entries for kinds that differ give the same lookups in any order. -/
theorem ofMapping_perm (h : ofMapping t es = .ok names) (hperm : es.Perm es')
    (hnodup : (es.filterMap (·.1.resolve? t)).Nodup) :
    ∃ names', ofMapping t es' = .ok names' ∧ ∀ k, names'.find? k = names.find? k := by
  obtain ⟨hall, rfl⟩ := ofMapping_eq_ok_iff.mp h
  have hall' : ∀ e ∈ es', e.1.resolve? t ≠ none := fun e he => hall e (hperm.mem_iff.mpr he)
  refine ⟨_, ofMapping_eq_ok_iff.mpr ⟨hall', rfl⟩, fun k => ?_⟩
  rw [← map_fst_resolved] at hnodup
  have hresolved : (resolved t es).Perm (resolved t es') := hperm.filterMap _
  have hown : (ShortNames.mk (.ofList (resolved t es'))).own? =
      (ShortNames.mk (.ofList (resolved t es))).own? := by
    funext j
    simp only [own?, Dictionary.get?_ofList_perm hresolved hnodup]
  rw [find?, find?, hown]

/-- A mapping gives short names exactly if all of its keys resolve, and otherwise the first that
does not is reported. A kind has the name of the longest prefix of its path that is listed with one,
where of the keys that resolve to one kind the last counts: a name that is empty ends the search,
and a value of null does not, though the kind is listed. -/
theorem ofMapping_lookup (t : Taxonomy) (es : List (KindRef × Value)) :
    ((∃ names, ofMapping t es = .ok names) ↔ ∀ e ∈ es, e.1.resolve? t ≠ none) ∧
    (∀ u, ofMapping t es = .error u ↔ ∃ before e after, es = before ++ e :: after ∧
      (∀ e' ∈ before, e'.1.resolve? t ≠ none) ∧ e.1.resolve? t = none ∧ u = ⟨e.1, none⟩) ∧
    ∀ names, ofMapping t es = .ok names →
      (∀ k name, names.find? k = some name ↔ ∃ j, j.path <+: k.path ∧
        (∃ v, Lists t es j v ∧ v.shortName? = some name) ∧
        ∀ i w, i.path <+: k.path → Lists t es i w → w ≠ .null →
          i.path.length ≤ j.path.length) ∧
      (∀ k, names.find? k = none ↔ ∀ j v, j.path <+: k.path → Lists t es j v → v = .null) ∧
      (∀ k v, Lists t es k v → v ≠ .null → names.find? k = v.shortName?) ∧
      (∀ k segment, Lists t es (k.child segment) .null →
        names.find? (k.child segment) = names.find? k) ∧
      (∀ k, names.contains (.kind k) = .ok true ↔ ∃ v, Lists t es k v) ∧
      names.size = (es.filterMap (·.1.resolve? t)).toFinset.card ∧
      ∀ es', es.Perm es' → (es.filterMap (·.1.resolve? t)).Nodup →
        ∃ names', ofMapping t es' = .ok names' ∧ ∀ k, names'.find? k = names.find? k := by
  refine ⟨?_, fun u => ofMapping_eq_error_iff, fun names h => ⟨fun k name => ?_, fun k => ?_,
    fun k v => find?_of_lists h, fun k segment => find?_of_lists_null h, fun k => contains_iff h,
    size_ofMapping h, fun es' => ofMapping_perm h⟩⟩
  · simp only [ofMapping_eq_ok_iff, exists_and_left, exists_eq, and_true]
  · rw [find?_eq_some_iff]
    simp only [nearest_iff h]
  · rw [find?_eq_none_iff]
    simp only [own?_eq_none_iff h]
    constructor
    · exact fun hnone j v hj => hnone j hj v
    · exact fun hnone j hj v => hnone j v hj

/-- A mapping that names keywords, leaves the root untagged and takes the name of keywords back. -/
def overwrittenNames : List (KindRef × Value) := [
  (.path "Keyword", .text "k"),
  (.path "Token", .text ""),
  (.kind (Kind.root.child "Keyword"), .null)]

/-- The taxonomy of keywords alone. -/
def keywordsOnly : Taxonomy :=
  Taxonomy.rootOnly.declare (Kind.root.child "Keyword")

theorem ofMapping_lookup_overwritten :
    ∃ names, ofMapping keywordsOnly overwrittenNames = .ok names ∧
      names.find? (Kind.root.child "Keyword") = some "" ∧
      names.contains (.kind (Kind.root.child "Keyword")) = .ok true ∧ names.size = 2 := by
  obtain ⟨hmakes, -, hmade⟩ := ofMapping_lookup keywordsOnly overwrittenNames
  have hall : ∀ e ∈ overwrittenNames, e.1.resolve? keywordsOnly ≠ none := by decide +kernel
  have hroot : Lists keywordsOnly overwrittenNames .root (.text "") :=
    ⟨[(.path "Keyword", .text "k")], _, [(.kind (Kind.root.child "Keyword"), .null)], rfl,
      by decide +kernel, by decide⟩
  have hkeyword : Lists keywordsOnly overwrittenNames (Kind.root.child "Keyword") .null :=
    ⟨[(.path "Keyword", .text "k"), (.path "Token", .text "")], _, [], rfl, rfl, by simp⟩
  obtain ⟨names, hnames⟩ := hmakes.mpr hall
  obtain ⟨-, -, hlisted, hnull, hcontains, hsize, -⟩ := hmade names hnames
  refine ⟨names, hnames, ?_, (hcontains _).mpr ⟨.null, hkeyword⟩, ?_⟩
  · rw [hnull _ _ hkeyword, hlisted _ _ hroot nofun]
    rfl
  · rw [hsize]
    decide +kernel

end ShortNames

end CodeMarkup
