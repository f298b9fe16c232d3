import CodeMarkup.Text.Encoding

/-!
Texts in an encoding. The bytes of joined texts are the joined bytes of the texts, so a text may be
encoded in parts as long as the mark is written once. Only two encodings leave characters out, and
neither of them has a mark.
-/

namespace CodeMarkup.Text

namespace Encoding

variable {e : Encoding}

/-- The bytes of a text without a mark. -/
def bytes (e : Encoding) (s : String) : List UInt8 :=
  s.toList.flatMap e.charBytes

/-- Whether an encoding has bytes for all characters of a text. -/
def Encodable (e : Encoding) (s : String) : Prop :=
  ∀ c ∈ s.toList, e.covers c = true

instance (e : Encoding) (s : String) : Decidable (e.Encodable s) :=
  inferInstanceAs (Decidable (∀ c ∈ s.toList, e.covers c = true))

/-- The bytes of a whole text with the mark of the encoding in front. -/
def encodeMarked (e : Encoding) (s : String) : Except Unencodable (List UInt8) :=
  (e.encode s.toList).map (e.mark ++ ·)

theorem bytes_append (s t : String) : e.bytes (s ++ t) = e.bytes s ++ e.bytes t := by
  rw [bytes, String.toList_append, List.flatMap_append, bytes, bytes]

theorem bytes_join (chunks : List String) :
    e.bytes (String.join chunks) = chunks.flatMap e.bytes := by
  induction chunks with
  | nil => rfl
  | cons chunk chunks ih => rw [String.join_cons, bytes_append, ih, List.flatMap_cons]

theorem encode_of_encodable {s : String} (h : e.Encodable s) :
    e.encode s.toList = .ok (e.bytes s) :=
  encode_eq_ok_iff.mpr ⟨h, rfl⟩

theorem encodable_join {chunks : List String} (h : ∀ chunk ∈ chunks, e.Encodable chunk) :
    e.Encodable (String.join chunks) := by
  intro c hc
  rw [String.toList_join, List.mem_flatMap] at hc
  obtain ⟨chunk, hchunk, hc⟩ := hc
  exact h chunk hchunk c hc

theorem encodeMarked_of_encodable {s : String} (h : e.Encodable s) :
    e.encodeMarked s = .ok (e.mark ++ e.bytes s) := by
  rw [encodeMarked, encode_of_encodable h]
  rfl

/-- Every encoding covers the characters that all of them begin with. -/
theorem encodable_of_ascii {s : String} (h : s.toList.all (·.toNat < 0x80) = true) :
    e.Encodable s := by
  have hlimit : 0x80 ≤ e.limit := by cases e <;> decide
  intro c hc
  have hascii : c.toNat < 0x80 := by simpa using List.all_eq_true.mp h c hc
  rw [covers, decide_eq_true_eq]
  omega

theorem encodable_of_total (hascii : e ≠ ascii) (hlatin : e ≠ latin1) (s : String) :
    e.Encodable s := by
  have hlimit : e.limit = 0x110000 := by cases e <;> simp_all [limit]
  intro c _
  have hvalid := c.valid
  simp only [UInt32.isValidChar, Nat.isValidChar] at hvalid
  have hnat : c.toNat = c.val.toNat := rfl
  rw [covers, hlimit, decide_eq_true_eq]
  omega

/-- Only two encodings have no bytes for some characters. -/
theorem partial_of_error {s : String} {u : Unencodable} (h : e.encode s.toList = .error u) :
    e = ascii ∨ e = latin1 := by
  by_cases hascii : e = ascii
  · exact .inl hascii
  by_cases hlatin : e = latin1
  · exact .inr hlatin
  rw [encode_of_encodable (encodable_of_total hascii hlatin s)] at h
  cases h

theorem mark_of_partial (h : e = ascii ∨ e = latin1) : e.mark = [] := by
  rcases h with rfl | rfl <;> rfl

/-- The mark is the byte order mark as a character of the encoding. -/
theorem mark_eq (e : Encoding) :
    e.mark = if e = utf8Signed ∨ e = utf16 ∨ e = utf32 then e.charBytes '\ufeff' else [] := by
  cases e <;> decide

/-! ### UTF-8 -/

theorem utf8Bytes_eq (c : Char) : utf8Bytes c.toNat = String.utf8EncodeChar c := by
  have hvalid := c.valid
  simp only [UInt32.isValidChar, Nat.isValidChar] at hvalid
  have hnat : c.toNat = c.val.toNat := rfl
  unfold utf8Bytes String.utf8EncodeChar
  rw [hnat]
  generalize c.val.toNat = n at hvalid
  -- Each byte after the first has the same form; the first one keeps all bits that are left.
  have htail : ∀ low : Nat, 0x80 + low = low + 128 := Nat.add_comm 0x80
  by_cases h1 : n < 0x80
  · rw [if_pos h1, if_pos (by omega)]
  by_cases h2 : n < 0x800
  · rw [if_neg h1, if_pos h2, if_neg (by omega), if_pos (by omega),
      show 0xc0 + n / 0x40 = n / 64 % 32 + 192 by omega]
    simp only [htail, Nat.div_one]
  by_cases h3 : n < 0x10000
  · rw [if_neg h1, if_neg h2, if_pos h3, if_neg (by omega), if_neg (by omega), if_pos (by omega),
      show 0xe0 + n / 0x1000 = n / 4096 % 16 + 224 by omega]
    simp only [htail, Nat.div_one]
  · rw [if_neg h1, if_neg h2, if_neg h3, if_neg (by omega), if_neg (by omega), if_neg (by omega),
      show 0xf0 + n / 0x40000 = n / 262144 % 8 + 240 by omega]
    simp only [htail, Nat.div_one]

/-- The bytes of a text in UTF-8 are those that make up the text itself. -/
theorem bytes_utf8 (s : String) : utf8.bytes s = s.toUTF8.data.toList := by
  have hchars : utf8.bytes s = s.toList.flatMap String.utf8EncodeChar := by
    rw [bytes]
    congr 1
    funext c
    exact utf8Bytes_eq c
  have hencode : s.toUTF8 = s.toList.utf8Encode := by
    rw [String.toUTF8, ← String.toByteArray_ofList, String.ofList_toList]
  rw [hchars, hencode]
  simp [List.utf8Encode]

/-! ### Chunks -/

/-- The bytes of chunks that are written one after the other, the first one together with a mark. -/
def markedBytes (e : Encoding) (mark : List UInt8) (chunks : List String) : List UInt8 :=
  if chunks = [] then [] else mark ++ e.bytes (String.join chunks)

@[simp] theorem markedBytes_nil (mark : List UInt8) : e.markedBytes mark [] = [] := rfl

theorem markedBytes_cons (mark : List UInt8) (chunk : String) (chunks : List String) :
    e.markedBytes mark (chunk :: chunks) = mark ++ e.bytes chunk ++ e.markedBytes [] chunks := by
  have hrest : e.markedBytes [] chunks = e.bytes (String.join chunks) := by
    cases chunks <;> rfl
  rw [hrest, markedBytes, if_neg (List.cons_ne_nil _ _), String.join_cons, bytes_append,
    List.append_assoc]

theorem markedBytes_of_partial (h : e = ascii ∨ e = latin1) (chunks : List String) :
    e.markedBytes e.mark chunks = chunks.flatMap e.bytes := by
  rw [mark_of_partial h, ← bytes_join]
  cases chunks <;> rfl

/-- The first chunk that cannot be encoded is `late`; those in front of it are `good`. -/
structure StopsAt (e : Encoding) (chunks good : List String) (late : String) (u : Unencodable) :
    Prop where
  split : ∃ more, chunks = good ++ late :: more
  encodable : ∀ chunk ∈ good, e.Encodable chunk
  fails : e.encode late.toList = .error u

end Encoding

end CodeMarkup.Text
