import CodeMarkup.Value

/-!
Layouts of numbered code: a gutter cell in front of a code cell, as a table of one row or as boxes
that are displayed as one.
-/

namespace CodeMarkup

/-- How the gutter and the code are placed beside each other. -/
inductive Layout where
  | table
  | div
  deriving DecidableEq, Repr

/-- The markup around the gutter and the code. -/
structure Frame where
  gridOpen : String
  gutterOpen : String
  gutterClose : String
  codeOpen : String
  codeClose : String
  gridClose : String
  deriving DecidableEq, Repr

namespace Layout

def name : Layout → String
  | table => "table"
  | div => "div"

def ofValue? : Value → Option Layout
  | .text "table" => some table
  | .text "div" => some div
  | _ => none

theorem ofValue?_eq_some_iff {v : Value} {l : Layout} :
    ofValue? v = some l ↔ v = .text l.name := by
  constructor
  · intro h
    unfold ofValue? at h
    split at h
    · obtain rfl := Option.some.inj h; rfl
    · obtain rfl := Option.some.inj h; rfl
    · cases h
  · rintro rfl
    cases l <;> rfl

def frame : Layout → Frame
  | table =>
    { gridOpen := "<table style=\"border-spacing: 0\"><tbody><tr>"
      gutterOpen := "<td class=\"gutter gl\" style=\"text-align: right\">"
      gutterClose := "</td>"
      codeOpen := "<td class=\"code\">"
      codeClose := "</td>"
      gridClose := "</tr></tbody></table>\n" }
  | div =>
    { gridOpen :=
        "<div style=\"display: table; border-spacing: 0\"><div style=\"display: table-row\">"
      gutterOpen := "<div class=\"gutter gl\" style=\"display: table-cell; text-align: right\">"
      gutterClose := "</div>"
      codeOpen := "<div style=\"display: table-cell;\" class=\"code\">"
      codeClose := "</div>"
      gridClose := "</div></div>\n" }

end Layout

end CodeMarkup
