import CodeMarkup.Text.Pieces
import CodeMarkup.Text.Quoted

/-!
Character encodings. Three of them begin with a byte order mark, and two of them have bytes only for
part of the characters.
-/

namespace CodeMarkup.Text

inductive Encoding where
  | utf8
  | utf8Signed
  | ascii
  | latin1
  | utf16
  | utf16le
  | utf16be
  | utf32
  deriving DecidableEq, Repr

/-- The first run of adjacent characters in a text that the encoding has no bytes for. -/
structure Unencodable where
  encoding : Encoding
  position : Nat
  chars : List Char
  deriving DecidableEq, Repr

namespace Encoding

/-- The proper name of an encoding, in lower case and with underscores between its words. -/
def name : Encoding → String
  | utf8 => "utf_8"
  | utf8Signed => "utf_8_sig"
  | ascii => "ascii"
  | latin1 => "latin_1"
  | utf16 => "utf_16"
  | utf16le => "utf_16_le"
  | utf16be => "utf_16_be"
  | utf32 => "utf_32"

/-- The other names of an encoding, in the same form. -/
def aliases : Encoding → List String
  | utf8 => ["utf8", "u8", "utf", "cp65001", "utf8_ucs2", "utf8_ucs4"]
  | utf8Signed => []
  | ascii => ["us_ascii", "646", "us", "iso646_us", "iso_646.irv_1991", "iso_ir_6",
      "ansi_x3.4_1968", "ansi_x3.4_1986", "ansi_x3_4_1968", "cp367", "csascii", "ibm367"]
  | latin1 => ["latin1", "latin", "l1", "iso_8859_1", "iso8859_1", "iso8859", "8859", "cp819",
      "csisolatin1", "ibm819", "iso_8859_1_1987", "iso_ir_100"]
  | utf16 => ["utf16", "u16"]
  | utf16le => ["utf_16le", "unicodelittleunmarked"]
  | utf16be => ["utf_16be", "unicodebigunmarked"]
  | utf32 => ["utf32", "u32"]

def all : List Encoding := [utf8, utf8Signed, ascii, latin1, utf16, utf16le, utf16be, utf32]

/-- The words of a name: the runs of letters, digits and dots, in lower case. -/
def nameWords (cs : List Char) : List (List Char) :=
  let spaced := cs.map fun c => if c.isAlphanum || c == '.' then c.toLower else ' '
  (cut ' ' spaced).filter (· ≠ [])

/-- Whether an encoding goes by a name in lower case. In other names than the proper one dots may
stand for underscores. -/
def goesBy (e : Encoding) (name : String) : Bool :=
  name = e.name || name ∈ e.aliases ||
    String.ofList (name.toList.map fun c => if c = '.' then '_' else c) ∈ e.aliases

/-- The encoding of a given name. Case does not matter, and any characters other than letters,
digits and dots only part the words of a name. -/
def named? (name : String) : Option Encoding :=
  let words := (nameWords name.toList).map String.ofList
  all.find? (·.goesBy ("_".intercalate words))

def label : Encoding → String
  | latin1 => "latin-1"
  | e => e.name

/-- The number of characters, counted from the first code point, for which there are bytes. -/
def limit : Encoding → Nat
  | ascii => 0x80
  | latin1 => 0x100
  | _ => 0x110000

/-- The mark at the beginning of encoded text. -/
def mark : Encoding → List UInt8
  | utf8Signed => [0xef, 0xbb, 0xbf]
  | utf16 => [0xff, 0xfe]
  | utf32 => [0xff, 0xfe, 0, 0]
  | _ => []

/-- The UTF-8 sequence of a code point. -/
def utf8Bytes (n : Nat) : List UInt8 :=
  let tail (unit : Nat) : UInt8 := .ofNat (0x80 + n / unit % 0x40)
  if n < 0x80 then [.ofNat n]
  else if n < 0x800 then [.ofNat (0xc0 + n / 0x40), tail 1]
  else if n < 0x10000 then [.ofNat (0xe0 + n / 0x1000), tail 0x40, tail 1]
  else [.ofNat (0xf0 + n / 0x40000), tail 0x1000, tail 0x40, tail 1]

/-- The UTF-16 units of a code point. -/
def utf16Units (n : Nat) : List Nat :=
  if n < 0x10000 then [n]
  else [0xd800 + (n - 0x10000) / 0x400, 0xdc00 + (n - 0x10000) % 0x400]

/-- The two bytes of a unit, the less significant first. -/
def unitBytes (u : Nat) : List UInt8 :=
  [.ofNat (u % 0x100), .ofNat (u / 0x100)]

/-- The bytes of a character below the limit of the encoding. -/
def charBytes (e : Encoding) (c : Char) : List UInt8 :=
  let n := c.toNat
  match e with
  | utf8 | utf8Signed => utf8Bytes n
  | ascii | latin1 => [.ofNat n]
  | utf16 | utf16le => (utf16Units n).flatMap unitBytes
  | utf16be => (utf16Units n).flatMap fun u => (unitBytes u).reverse
  | utf32 => unitBytes (n % 0x10000) ++ unitBytes (n / 0x10000)

def covers (e : Encoding) (c : Char) : Bool :=
  c.toNat < e.limit

/-- The bytes of a text without a mark, if there are bytes for all its characters. -/
def encode (e : Encoding) (cs : List Char) : Except Unencodable (List UInt8) :=
  if cs.all e.covers then .ok (cs.flatMap e.charBytes)
  else
    let rest := cs.dropWhile e.covers
    .error ⟨e, (cs.takeWhile e.covers).length, rest.takeWhile fun c => !e.covers c⟩

theorem encode_eq_ok_iff {e : Encoding} {cs : List Char} {bytes : List UInt8} :
    e.encode cs = .ok bytes ↔ (∀ c ∈ cs, e.covers c = true) ∧ cs.flatMap e.charBytes = bytes := by
  unfold encode
  split
  · rename_i h
    simp only [Except.ok.injEq]
    exact ⟨fun hb => ⟨List.all_eq_true.mp h, hb⟩, fun hb => hb.2⟩
  · rename_i h
    simp only [reduceCtorEq, false_iff, not_and]
    exact fun hall => absurd (List.all_eq_true.mpr hall) h

end Encoding

def Unencodable.message (u : Unencodable) : String :=
  let what := match u.chars with
    | [c] =>
      "character '" ++ String.ofList (codePointEscape c) ++ "' in position " ++ toString u.position
    | cs =>
      let last := u.position + cs.length - 1
      "characters in position " ++ toString u.position ++ "-" ++ toString last
  "'" ++ u.encoding.label ++ "' codec can't encode " ++ what ++ ": ordinal not in range(" ++
    toString u.encoding.limit ++ ")"

end CodeMarkup.Text
