import CodeMarkup.Proofs.Kind.Nearest
import CodeMarkup.Proofs.Value.Plain
import CodeMarkup.Theme

/-!
Declarations of a style. Each attribute of a look that is present makes one declaration, in a fixed
order, and each declares a property of its own. So the declarations tell which attributes are
present and, where colours are texts, which colours they are, and they tell nothing else. A kind has
the look of the longest prefix of its path that a style lists, even if nothing is declared there.
-/

namespace CodeMarkup

namespace StyleInfo

/-- What a look is made of. -/
inductive Attribute where
  | color
  | background
  | bold
  | italic
  | underline
  | border
  deriving DecidableEq, Repr

/-- The description of a look by named values. -/
abbrev Fields := List (String × Value)

namespace Attribute

/-- The attributes in the order of their declarations. -/
def all : List Attribute :=
  [color, background, bold, italic, underline, border]

def isColor : Attribute → Bool
  | color | background | border => true
  | bold | italic | underline => false

/-- The name of the field for an attribute. -/
def key : Attribute → String
  | color => "color"
  | background => "bgcolor"
  | bold => "bold"
  | italic => "italic"
  | underline => "underline"
  | border => "border"

/-- The property that an attribute declares. -/
def property : Attribute → String
  | color => "color"
  | background => "background-color"
  | bold => "font-weight"
  | italic => "font-style"
  | underline => "text-decoration"
  | border => "border"

/-- What the property is set to for a value of the attribute. -/
def setting (v : Value) : Attribute → String
  | color | background => "#" ++ v.plain
  | bold => "bold"
  | italic => "italic"
  | underline => "underline"
  | border => "1px solid #" ++ v.plain

def value (fields : Fields) (a : Attribute) : Value :=
  field fields a.key

def isIn (fields : Fields) (a : Attribute) : Bool :=
  (a.value fields).isPresent

def declaration (fields : Fields) (a : Attribute) : String :=
  a.property ++ ": " ++ a.setting (a.value fields)

theorem mem_all (a : Attribute) : a ∈ all := by
  cases a <;> decide

theorem property_injective {a b : Attribute} (h : a.property = b.property) : a = b := by
  revert h
  cases a <;> cases b <;> decide

theorem colon_notMem_property (a : Attribute) : ':' ∉ a.property.toList := by
  cases a <;> decide

end Attribute

open Attribute

variable {f g : Fields}

/-! ### The declarations of the attributes that are present -/

theorem colorOf_bne_empty (v : Value) : (colorOf v != "") = v.isPresent := by
  unfold colorOf
  cases h : v.isPresent with
  | true => simpa using v.plain_ne_empty h
  | false => rfl

theorem declare_colorOf (v : Value) (start : String) :
    declare (colorOf v != "") (start ++ colorOf v) = declare v.isPresent (start ++ v.plain) := by
  rw [colorOf_bne_empty, colorOf]
  cases v.isPresent <;> rfl

theorem flatMap_declare {α : Type} (p : α → Bool) (text : α → String) (as : List α) :
    as.flatMap (fun a => declare (p a) (text a)) = (as.filter p).map text := by
  induction as with
  | nil => rfl
  | cons a as ih =>
    rw [List.flatMap_cons, ih, List.filter_cons]
    cases p a <;> rfl

theorem declarations_ofFields (fields : Fields) :
    (ofFields fields).declarations = (all.filter (isIn fields)).map (declaration fields) := by
  rw [← flatMap_declare]
  unfold declarations ofFields
  simp [declare_colorOf, all, declaration, property, setting, isIn, value, key,
    ← String.append_assoc]

/-! ### What the declarations tell -/

/-- The property that a declaration is about: what stands in front of its colon. -/
def declared? (declaration : String) : Option (List Char) :=
  (Text.cutFirst? ':' declaration.toList).map Prod.fst

theorem declared?_declaration (fields : Fields) (a : Attribute) :
    declared? (declaration fields a) = some a.property.toList := by
  have hcut : Text.cutFirst? ':' (declaration fields a).toList =
      some (a.property.toList, ' ' :: (a.setting (a.value fields)).toList) := by
    refine Text.cutFirst?_eq_some_iff.mpr ⟨a.colon_notMem_property, ?_⟩
    simp [declaration]
  rw [declared?, hcut]
  rfl

theorem filter_isIn_of_eq (h : (ofFields f).declarations = (ofFields g).declarations) :
    all.filter (isIn f) = all.filter (isIn g) := by
  have hproperties := congrArg (List.map declared?) h
  simp only [declarations_ofFields, List.map_map, Function.comp_def,
    declared?_declaration] at hproperties
  refine (List.map_inj_right fun a b hab => ?_).mp hproperties
  exact property_injective (String.toList_inj.mp (Option.some.inj hab))

theorem isIn_eq_of_eq (h : (ofFields f).declarations = (ofFields g).declarations)
    (a : Attribute) : isIn f a = isIn g a := by
  have hmem : a ∈ all.filter (isIn f) ↔ a ∈ all.filter (isIn g) := by
    rw [filter_isIn_of_eq h]
  simpa [mem_all, ← Bool.eq_iff_iff] using hmem

/-- Two descriptions have the same attributes, and those that are colours have the same values. -/
def Agree (f g : Fields) : Prop :=
  ∀ a, isIn f a = isIn g a ∧ (a.isColor = true → isIn f a = true → a.value f = a.value g)

/-- Every colour that is present is a text. -/
def HasTextColors (fields : Fields) : Prop :=
  ∀ a, a.isColor = true → isIn fields a = true → ∃ s, a.value fields = .text s

theorem Agree.declarations_eq (h : Agree f g) :
    (ofFields f).declarations = (ofFields g).declarations := by
  have hfilter : all.filter (isIn f) = all.filter (isIn g) :=
    List.filter_congr fun a _ => (h a).1
  rw [declarations_ofFields, declarations_ofFields, ← hfilter]
  refine List.map_congr_left fun a ha => ?_
  have hin : isIn f a = true := (List.mem_filter.mp ha).2
  cases hcolor : a.isColor with
  | true => rw [declaration, declaration, (h a).2 hcolor hin]
  | false =>
    cases a with
    | bold | italic | underline => rfl
    | color | background | border => cases hcolor

theorem declaration_eq_of_eq (h : (ofFields f).declarations = (ofFields g).declarations)
    {a : Attribute} (ha : isIn f a = true) : declaration f a = declaration g a := by
  have hmap := h
  rw [declarations_ofFields, declarations_ofFields, ← filter_isIn_of_eq h] at hmap
  exact List.map_inj_left.mp hmap a (List.mem_filter.mpr ⟨a.mem_all, ha⟩)

theorem plain_eq_of_setting_eq {a : Attribute} (hcolor : a.isColor = true) {v w : Value}
    (h : a.setting v = a.setting w) : v.plain = w.plain := by
  cases a with
  | color | background | border => simpa only [setting, String.append_right_inj] using h
  | bold | italic | underline => cases hcolor

theorem agree_of_declarations_eq (hf : HasTextColors f) (hg : HasTextColors g)
    (h : (ofFields f).declarations = (ofFields g).declarations) : Agree f g := by
  refine fun a => ⟨isIn_eq_of_eq h a, fun hcolor hin => ?_⟩
  obtain ⟨s, hs⟩ := hf a hcolor hin
  obtain ⟨t, ht⟩ := hg a hcolor (isIn_eq_of_eq h a ▸ hin)
  have hsetting : a.setting (a.value f) = a.setting (a.value g) := by
    simpa [declaration] using declaration_eq_of_eq h hin
  have hplain := plain_eq_of_setting_eq hcolor hsetting
  rw [hs, ht] at hplain ⊢
  exact congrArg Value.text hplain

theorem declarations_eq_nil (h : ∀ a, isIn f a = false) : (ofFields f).declarations = [] := by
  rw [declarations_ofFields, List.filter_eq_nil_iff.mpr fun a _ => by simp [h a], List.map_nil]

end StyleInfo

/-! ### The look of a kind -/

namespace Style

open StyleInfo

variable {s : Style} {k : Kind} {ds : List String}

/-- The style whose looks are described by fields. -/
def ofFields (name : String) (looks : List (Kind × Fields)) : Style :=
  ofInfos name (looks.map fun e => (e.1, .ofFields e.2))

/-- The description of a kind: of two, the later counts. -/
def described? (looks : List (Kind × Fields)) (k : Kind) : Option Fields :=
  valueAt? k looks.reverse

theorem declarations?_eq_some_iff :
    s.declarations? k = some ds ↔ ∃ j i, k.Nearest s.infos.get? j i ∧ i.declarations = ds := by
  rw [declarations?, Option.map_eq_some_iff]
  simp only [Kind.nearest?_eq_some_iff]
  constructor
  · rintro ⟨i, ⟨j, hj⟩, hds⟩
    exact ⟨j, i, hj, hds⟩
  · rintro ⟨j, i, hj, hds⟩
    exact ⟨i, ⟨j, hj⟩, hds⟩

theorem declarations?_eq_none_iff :
    s.declarations? k = none ↔ ∀ j, j.path <+: k.path → s.infos.get? j = none := by
  rw [declarations?, Option.map_eq_none_iff, Kind.nearest?_eq_none_iff]

theorem get?_ofFields (name : String) (looks : List (Kind × Fields)) (k : Kind) :
    (ofFields name looks).infos.get? k = (described? looks k).map StyleInfo.ofFields := by
  have hmap := valueAt?_map StyleInfo.ofFields (f := id) (fun _ _ h => h) k looks.reverse
  rw [ofFields, ofInfos, Dictionary.get?_ofList, ← List.map_reverse, described?]
  exact hmap

end Style

namespace Theme

open StyleInfo StyleInfo.Attribute

/-- A style gives a kind the declarations of the longest prefix of its path that it lists, or none
if it lists no prefix. A look that declares nothing ends the search. The declarations of a look
stand in one order, one for each attribute that is present, so that looks which agree in what is
present and in their colours have the same declarations, and looks whose colours are texts have the
same ones only then. -/
theorem declarations_of_style :
    (∀ (s : Style) (k : Kind),
      (∀ ds, (style s).declarations? k = some ds ↔
        ∃ j i, k.Nearest s.infos.get? j i ∧ i.declarations = ds) ∧
      ((style s).declarations? k = none ↔ ∀ j, j.path <+: k.path → s.infos.get? j = none)) ∧
    (∀ (name : String) (looks : List (Kind × Fields)) (k : Kind),
      (Style.ofFields name looks).infos.get? k =
        (Style.described? looks k).map StyleInfo.ofFields ∧
      ∀ fields, Style.described? looks k = some fields → (∀ a, isIn fields a = false) →
        (style (.ofFields name looks)).declarations? k = some []) ∧
    (∀ fields, (ofFields fields).declarations =
      (all.filter (isIn fields)).map (declaration fields)) ∧
    (∀ f g, Agree f g → (ofFields f).declarations = (ofFields g).declarations) ∧
    (∀ f g, HasTextColors f → HasTextColors g →
      (ofFields f).declarations = (ofFields g).declarations → Agree f g) := by
  refine ⟨fun s k => ⟨fun ds => Style.declarations?_eq_some_iff, Style.declarations?_eq_none_iff⟩,
    fun name looks k => ⟨Style.get?_ofFields name looks k, fun fields hfields hblank => ?_⟩,
    declarations_ofFields, fun f g => Agree.declarations_eq, fun f g => agree_of_declarations_eq⟩
  have hlisted : (Style.ofFields name looks).infos.get? k = some (StyleInfo.ofFields fields) := by
    rw [Style.get?_ofFields, hfields, Option.map_some]
  exact Style.declarations?_eq_some_iff.mpr
    ⟨k, _, Kind.nearest_self hlisted, declarations_eq_nil hblank⟩

/-- All kinds are green, but nothing is declared for keywords. -/
def quietKeywords : List (Kind × Fields) := [
  (.root, [("color", .text "008000"), ("bold", .bool true)]),
  (Kind.root.child "Keyword", [("color", .null), ("bold", .bool false)])]

theorem declarations_of_style_quietKeywords :
    (style (.ofFields "Quiet" quietKeywords)).declarations? (Kind.root.child "Keyword") =
      some [] ∧
    (style (.ofFields "Quiet" quietKeywords)).declarations? (Kind.root.child "Name") =
      some ["color: #008000", "font-weight: bold"] ∧
    Agree [("color", .text "008000"), ("bold", .bool true)]
      [("color", .text "008000"), ("bold", .int 1)] := by
  obtain ⟨hlookup, hlooks, hdeclarations, -, hagree⟩ := declarations_of_style
  have hgreen (bold : Value) : HasTextColors [("color", .text "008000"), ("bold", bold)] := by
    intro a hcolor hin
    cases a with
    | color => exact ⟨_, rfl⟩
    | background | border => cases hin
    | bold | italic | underline => cases hcolor
  have hnearest : (Kind.root.child "Name").Nearest
      (Style.ofFields "Quiet" quietKeywords).infos.get? .root
      (StyleInfo.ofFields [("color", .text "008000"), ("bold", .bool true)]) := by
    refine ⟨List.nil_prefix, rfl, fun i hi hlisted => ?_⟩
    rcases Kind.prefix_child_iff.mp hi with rfl | hi
    · exact absurd rfl hlisted
    · exact hi.length_le
  refine ⟨?_, ?_, hagree _ _ (hgreen _) (hgreen _) ?_⟩
  · exact (hlooks "Quiet" quietKeywords (Kind.root.child "Keyword")).2 _ rfl fun a => by
      cases a <;> rfl
  · refine ((hlookup _ _).1 _).mpr ⟨_, _, hnearest, ?_⟩
    rw [hdeclarations]
    decide
  · rw [hdeclarations, hdeclarations]
    decide

end Theme

end CodeMarkup
