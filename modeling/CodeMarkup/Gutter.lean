/-!
Line numbers beside code. The number of lines is counted over the texts of the tokens as they come:
a text that ends without a line break, and no text at all, still take up a last line. A number with
too many digits is not written, and then there are no line numbers at all.
-/

namespace CodeMarkup

/-- The line breaks seen so far and the last text. -/
structure LineCount where
  newlines : Nat := 0
  last : String := ""
  deriving DecidableEq, Repr

namespace LineCount

def feed (c : LineCount) (text : String) : LineCount :=
  ⟨c.newlines + text.toList.count '\n', text⟩

/-- Whether a line break is missing at the end. -/
def needsNewline (c : LineCount) : Bool :=
  c.last.toList.getLast? != some '\n'

def lines (c : LineCount) : Nat :=
  c.newlines + if c.needsNewline then 1 else 0

def feedAll (c : LineCount) (texts : List String) : LineCount :=
  texts.foldl feed c

theorem newlines_feedAll (c : LineCount) (texts : List String) :
    (c.feedAll texts).newlines = c.newlines + (texts.flatMap String.toList).count '\n' := by
  induction texts generalizing c with
  | nil => rfl
  | cons t ts ih =>
    rw [show c.feedAll (t :: ts) = (c.feed t).feedAll ts from rfl, ih]
    simp only [feed, List.flatMap_cons, List.count_append, Nat.add_assoc]

theorem last_feedAll (c : LineCount) (texts : List String) :
    (c.feedAll texts).last = texts.getLast?.getD c.last := by
  induction texts generalizing c with
  | nil => rfl
  | cons t ts ih =>
    rw [show c.feedAll (t :: ts) = (c.feed t).feedAll ts from rfl, ih]
    cases ts with
    | nil => rfl
    | cons u us => simp [List.getLast?_cons]

end LineCount

def countLines (texts : List String) : Nat :=
  (LineCount.feedAll {} texts).lines

theorem countLines_eq (texts : List String) :
    countLines texts = (texts.flatMap String.toList).count '\n' +
      if (LineCount.feedAll {} texts).needsNewline then 1 else 0 := by
  rw [countLines, LineCount.lines, LineCount.newlines_feedAll, Nat.zero_add]

/-- The most digits of a number that is written. -/
def Gutter.digitLimit : Nat := 4300

/-- A number with too many digits to be written. -/
structure LongNumber where
  number : Int
  deriving DecidableEq, Repr

def LongNumber.message (_ : LongNumber) : String :=
  "Exceeds the limit (" ++ toString Gutter.digitLimit ++
    " digits) for integer string conversion; use sys.set_int_max_str_digits() to increase the limit"

namespace Gutter

/-- `count` integers from `start` on. -/
def range (start : Int) : Nat → List Int
  | 0 => []
  | count + 1 => start :: range (start + 1) count

/-- The least number with too many digits. -/
def numberBound : Nat := Nat.pow 10 digitLimit

/-- Whether a number has too many digits; its sign does not count. -/
def isTooLong (n : Int) : Bool :=
  numberBound ≤ n.natAbs

/-- The line numbers, with line breaks between them; there are none if the count is not positive. -/
def numbers (start count : Int) : Except LongNumber String :=
  let ns := range start count.toNat
  match ns.find? isTooLong with
  | some n => .error ⟨n⟩
  | none => .ok ("\n".intercalate (ns.map toString))

def block (start count : Int) : Except LongNumber String :=
  (numbers start count).map fun s => "<pre class=\"lineno\">" ++ s ++ "</pre>"

theorem numbers_eq_ok {start count : Int}
    (h : ∀ n ∈ range start count.toNat, n.natAbs < numberBound) :
    numbers start count = .ok ("\n".intercalate ((range start count.toNat).map toString)) := by
  have : (range start count.toNat).find? isTooLong = none := by
    simpa [isTooLong] using h
  simp only [numbers, this]

theorem numbers_eq_error {start count : Int}
    (h : ∃ n ∈ range start count.toNat, numberBound ≤ n.natAbs) :
    ∃ e, numbers start count = .error e := by
  have : ((range start count.toNat).find? isTooLong).isSome := by
    obtain ⟨n, hn, hlong⟩ := h
    exact List.find?_isSome.mpr ⟨n, hn, by simpa [isTooLong] using hlong⟩
  obtain ⟨n, hn⟩ := Option.isSome_iff_exists.mp this
  exact ⟨⟨n⟩, by simp only [numbers, hn]⟩

theorem length_range (start : Int) (count : Nat) : (range start count).length = count := by
  induction count generalizing start with
  | zero => rfl
  | succ n ih => simp [range, ih]

theorem getElem?_range (start : Int) (count i : Nat) :
    (range start count)[i]? = if i < count then some (start + i) else none := by
  induction count generalizing start i with
  | zero => simp [range]
  | succ n ih =>
    cases i with
    | zero => simp [range]
    | succ i =>
      rw [range, List.getElem?_cons_succ, ih]
      simp only [Nat.add_lt_add_iff_right, Int.natCast_add, Int.add_comm i 1, Int.add_assoc,
        Int.natCast_one]

theorem range_eq_map (start : Int) (count : Nat) :
    range start count = (List.range count).map fun i : Nat => start + i := by
  refine List.ext_getElem? fun i => ?_
  rw [getElem?_range, List.getElem?_map]
  by_cases h : i < count
  · simp [h]
  · simp [h]

theorem mem_range {start n : Int} {count : Nat} :
    n ∈ range start count ↔ start ≤ n ∧ n < start + count := by
  induction count generalizing start with
  | zero => simp [range]
  | succ m ih =>
    rw [range, List.mem_cons, ih]
    omega

theorem range_append (start : Int) (m n : Nat) :
    range start (m + n) = range start m ++ range (start + m) n := by
  induction m generalizing start with
  | zero => simp [range]
  | succ m ih =>
    rw [Nat.succ_add, range, range, ih, List.cons_append]
    congr 3
    omega

end Gutter

end CodeMarkup
