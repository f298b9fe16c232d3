import CodeMarkup.Proofs.Text.Encoding
import CodeMarkup.Text.Utf8

/-!
What can be read as UTF-8. Reading undoes encoding, and nothing else than the bytes of a text can be
read: a first byte and the range of the second one leave only the shortest sequences, and none for a
number that is no character.
-/

namespace CodeMarkup.Text

open Encoding (utf8Bytes)

variable {b : UInt8} {bs rest : List UInt8} {bits taken low high more n position fuel : Nat}
  {c : Char} {cs : List Char}

theorem utf8Tail_zero_eq_ok_iff :
    utf8Tail bits taken low high 0 bs = .ok (n, rest) ↔ n = bits ∧ bs = rest := by
  rw [utf8Tail, Except.ok.injEq, Prod.mk.injEq, eq_comm]

theorem utf8Tail_succ_eq_ok_iff :
    utf8Tail bits taken low high (more + 1) bs = .ok (n, rest) ↔
      ∃ b bs', bs = b :: bs' ∧ low ≤ b.toNat ∧ b.toNat ≤ high ∧
        utf8Tail (64 * bits + (b.toNat - 0x80)) (taken + 1) 0x80 0xbf more bs' =
          .ok (n, rest) := by
  cases bs with
  | nil => simp [utf8Tail]
  | cons b bs =>
    rw [utf8Tail]
    split
    · next h =>
      constructor
      · exact fun htail => ⟨b, bs, rfl, h.1, h.2, htail⟩
      · rintro ⟨_, _, heq, -, -, htail⟩
        obtain ⟨rfl, rfl⟩ := List.cons.inj heq
        exact htail
    · next h =>
      constructor
      · intro htail
        cases htail
      · rintro ⟨_, _, heq, hlow, hhigh, -⟩
        obtain ⟨rfl, rfl⟩ := List.cons.inj heq
        exact absurd ⟨hlow, hhigh⟩ h

/-! ### Sequences as they are read -/

theorem utf8Bytes_ascii (h : b.toNat < 0x80) : utf8Bytes b.toNat = [b] := by
  rw [utf8Bytes, if_pos h, UInt8.ofNat_toNat]

theorem utf8Bytes_two {b1 : UInt8} (hb : 0xc2 ≤ b.toNat ∧ b.toNat ≤ 0xdf)
    (h1 : 0x80 ≤ b1.toNat ∧ b1.toNat ≤ 0xbf) :
    utf8Bytes (64 * (b.toNat - 0xc0) + (b1.toNat - 0x80)) = [b, b1] := by
  rw [utf8Bytes, if_neg (by omega), if_pos (by omega)]
  simp only [List.cons.injEq, UInt8.ofNat_eq_iff_mod_eq_toNat, and_true]
  omega

theorem utf8Bytes_three {b1 b2 : UInt8} (hb : 0xe0 ≤ b.toNat ∧ b.toNat ≤ 0xef)
    (h1 : 0x80 ≤ b1.toNat ∧ b1.toNat ≤ 0xbf) (h2 : 0x80 ≤ b2.toNat ∧ b2.toNat ≤ 0xbf)
    (hmin : b.toNat = 0xe0 → 0xa0 ≤ b1.toNat) :
    utf8Bytes (64 * (64 * (b.toNat - 0xe0) + (b1.toNat - 0x80)) + (b2.toNat - 0x80)) =
      [b, b1, b2] := by
  rw [utf8Bytes, if_neg (by omega), if_neg (by omega), if_pos (by omega)]
  simp only [List.cons.injEq, UInt8.ofNat_eq_iff_mod_eq_toNat, and_true]
  omega

theorem utf8Bytes_four {b1 b2 b3 : UInt8} (hb : 0xf0 ≤ b.toNat ∧ b.toNat ≤ 0xf4)
    (h1 : 0x80 ≤ b1.toNat ∧ b1.toNat ≤ 0xbf) (h2 : 0x80 ≤ b2.toNat ∧ b2.toNat ≤ 0xbf)
    (h3 : 0x80 ≤ b3.toNat ∧ b3.toNat ≤ 0xbf) (hmin : b.toNat = 0xf0 → 0x90 ≤ b1.toNat) :
    utf8Bytes (64 * (64 * (64 * (b.toNat - 0xf0) + (b1.toNat - 0x80)) + (b2.toNat - 0x80)) +
      (b3.toNat - 0x80)) = [b, b1, b2, b3] := by
  rw [utf8Bytes, if_neg (by omega), if_neg (by omega), if_neg (by omega)]
  simp only [List.cons.injEq, UInt8.ofNat_eq_iff_mod_eq_toNat, and_true]
  omega

theorem toNat_ofNat_of_isValidChar (h : n.isValidChar) : (Char.ofNat n).toNat = n := by
  rw [Char.ofNat, dif_pos h]
  rfl

/-- A first byte leaves the second one its range, but for four of them, with which the whole range
would have sequences that are too long or stand for no character. -/
theorem utf8Lead?_eq_some_iff :
    utf8Lead? b = some (bits, more, low, high) ↔
      (0xc2 ≤ b.toNat ∧ b.toNat ≤ 0xdf ∧ bits = b.toNat - 0xc0 ∧ more = 1 ∧
        low = 0x80 ∧ high = 0xbf) ∨
      (0xe0 ≤ b.toNat ∧ b.toNat ≤ 0xef ∧ bits = b.toNat - 0xe0 ∧ more = 2 ∧
        (b.toNat = 0xe0 ∧ low = 0xa0 ∨ b.toNat ≠ 0xe0 ∧ low = 0x80) ∧
        (b.toNat = 0xed ∧ high = 0x9f ∨ b.toNat ≠ 0xed ∧ high = 0xbf)) ∨
      (0xf0 ≤ b.toNat ∧ b.toNat ≤ 0xf4 ∧ bits = b.toNat - 0xf0 ∧ more = 3 ∧
        (b.toNat = 0xf0 ∧ low = 0x90 ∨ b.toNat ≠ 0xf0 ∧ low = 0x80) ∧
        (b.toNat = 0xf4 ∧ high = 0x8f ∨ b.toNat ≠ 0xf4 ∧ high = 0xbf)) := by
  unfold utf8Lead?
  dsimp only
  generalize b.toNat = m
  iterate 7
    split
    · simp only [Option.some.injEq, Prod.mk.injEq]
      omega
  simp only [reduceCtorEq, false_iff]
  omega

theorem utf8Bytes_of_utf8Char (h : utf8Char position b bs = .ok (c, rest)) :
    b :: bs = utf8Bytes c.toNat ++ rest := by
  unfold utf8Char at h
  split at h
  · next hascii =>
    obtain ⟨rfl, rfl⟩ := Prod.mk.inj (Except.ok.inj h)
    rw [toNat_ofNat_of_isValidChar (.inl (by omega)), utf8Bytes_ascii hascii, List.singleton_append]
  · split at h
    · cases h
    · next bits more low high hlead =>
      split at h
      · next n rest' htail =>
        obtain ⟨rfl, rfl⟩ := Prod.mk.inj (Except.ok.inj h)
        rcases utf8Lead?_eq_some_iff.mp hlead with ⟨hlow, hhigh, hbits, hmore, hsecond⟩ |
          ⟨hlow, hhigh, hbits, hmore, hsecond⟩ | ⟨hlow, hhigh, hbits, hmore, hsecond⟩
        all_goals
          rw [hbits, hmore] at htail
          simp only [utf8Tail_succ_eq_ok_iff, utf8Tail_zero_eq_ok_iff] at htail
        · obtain ⟨b1, _, rfl, h1, h1', hn, rfl⟩ := htail
          rw [hn, toNat_ofNat_of_isValidChar (.inl (by omega)),
            utf8Bytes_two ⟨hlow, hhigh⟩ (by omega)]
          rfl
        · obtain ⟨b1, _, rfl, h1, h1', b2, _, rfl, h2, h2', hn, rfl⟩ := htail
          rw [hn, toNat_ofNat_of_isValidChar (by unfold Nat.isValidChar; omega),
            utf8Bytes_three ⟨hlow, hhigh⟩ (by omega) ⟨h2, h2'⟩ (by omega)]
          rfl
        · obtain ⟨b1, _, rfl, h1, h1', b2, _, rfl, h2, h2', b3, _, rfl, h3, h3', hn, rfl⟩ := htail
          rw [hn, toNat_ofNat_of_isValidChar (by unfold Nat.isValidChar; omega),
            utf8Bytes_four ⟨hlow, hhigh⟩ (by omega) ⟨h2, h2'⟩ ⟨h3, h3'⟩ (by omega)]
          rfl
      · cases h

/-! ### Sequences as they are written -/

theorem utf8Char_of_tail (hb : 0x80 ≤ b.toNat) (hlead : utf8Lead? b = some (bits, more, low, high))
    (htail : utf8Tail bits 1 low high more bs = .ok (c.toNat, rest)) :
    utf8Char position b bs = .ok (c, rest) := by
  rw [utf8Char, if_neg (Nat.not_lt.mpr hb)]
  simp only [hlead, htail, Char.ofNat_toNat]

/-- A further byte of a sequence gives six bits. -/
theorem utf8Tail_ofNat {k : Nat} (hk : k < 0x40) (hlow : low ≤ 0x80 + k) (hhigh : 0x80 + k ≤ high)
    (htail : utf8Tail (64 * bits + k) (taken + 1) 0x80 0xbf more bs = .ok (n, rest)) :
    utf8Tail bits taken low high (more + 1) (.ofNat (0x80 + k) :: bs) = .ok (n, rest) := by
  have hbyte : (UInt8.ofNat (0x80 + k)).toNat = 0x80 + k := UInt8.toNat_ofNat_of_lt' (by
    rw [UInt8.size]
    omega)
  refine utf8Tail_succ_eq_ok_iff.mpr ⟨_, bs, rfl, ?_, ?_, ?_⟩
  · rw [hbyte]
    exact hlow
  · rw [hbyte]
    exact hhigh
  · rw [hbyte, Nat.add_sub_cancel_left]
    exact htail

theorem utf8Tail_end (taken low high : Nat) (rest : List UInt8) (h : bits = n) :
    utf8Tail bits taken low high 0 rest = .ok (n, rest) :=
  utf8Tail_zero_eq_ok_iff.mpr ⟨h.symm, rfl⟩

theorem toNat_ofNat_byte {m : Nat} (h : m < 0x100) : (UInt8.ofNat m).toNat = m :=
  UInt8.toNat_ofNat_of_lt' h

theorem utf8Char_two (position : Nat) (rest : List UInt8) (h : 0x80 ≤ c.toNat)
    (h' : c.toNat < 0x800) :
    utf8Char position (.ofNat (0xc0 + c.toNat / 0x40))
      (.ofNat (0x80 + c.toNat % 0x40) :: rest) = .ok (c, rest) := by
  have hb := toNat_ofNat_byte (show 0xc0 + c.toNat / 0x40 < 0x100 by omega)
  have hlead : utf8Lead? (.ofNat (0xc0 + c.toNat / 0x40)) =
      some (c.toNat / 0x40, 1, 0x80, 0xbf) := by
    rw [utf8Lead?_eq_some_iff, hb]
    omega
  refine utf8Char_of_tail (by omega) hlead ?_
  refine utf8Tail_ofNat (by omega) (by omega) (by omega) ?_
  exact utf8Tail_end _ _ _ rest (by omega)

theorem utf8Char_three (position : Nat) (rest : List UInt8) (h : 0x800 ≤ c.toNat)
    (h' : c.toNat < 0x10000) :
    utf8Char position (.ofNat (0xe0 + c.toNat / 0x1000))
      (.ofNat (0x80 + c.toNat / 0x40 % 0x40) :: .ofNat (0x80 + c.toNat % 0x40) :: rest) =
        .ok (c, rest) := by
  have hvalid : c.toNat < 0xd800 ∨ 0xdfff < c.toNat ∧ c.toNat < 0x110000 := c.valid
  have hb := toNat_ofNat_byte (show 0xe0 + c.toNat / 0x1000 < 0x100 by omega)
  obtain ⟨low, high, hlead, hlow, hhigh⟩ : ∃ low high,
      utf8Lead? (.ofNat (0xe0 + c.toNat / 0x1000)) = some (c.toNat / 0x1000, 2, low, high) ∧
        low ≤ 0x80 + c.toNat / 0x40 % 0x40 ∧ 0x80 + c.toNat / 0x40 % 0x40 ≤ high := by
    simp only [utf8Lead?_eq_some_iff, hb, true_and]
    by_cases h0 : c.toNat / 0x1000 = 0
    · exact ⟨0xa0, 0xbf, by omega⟩
    by_cases hd : c.toNat / 0x1000 = 0xd
    · exact ⟨0x80, 0x9f, by omega⟩
    · exact ⟨0x80, 0xbf, by omega⟩
  refine utf8Char_of_tail (by omega) hlead ?_
  refine utf8Tail_ofNat (by omega) hlow hhigh ?_
  refine utf8Tail_ofNat (by omega) (by omega) (by omega) ?_
  exact utf8Tail_end _ _ _ rest (by omega)

theorem utf8Char_four (position : Nat) (rest : List UInt8) (h : 0x10000 ≤ c.toNat) :
    utf8Char position (.ofNat (0xf0 + c.toNat / 0x40000))
      (.ofNat (0x80 + c.toNat / 0x1000 % 0x40) :: .ofNat (0x80 + c.toNat / 0x40 % 0x40) ::
        .ofNat (0x80 + c.toNat % 0x40) :: rest) = .ok (c, rest) := by
  have hvalid : c.toNat < 0xd800 ∨ 0xdfff < c.toNat ∧ c.toNat < 0x110000 := c.valid
  have hb := toNat_ofNat_byte (show 0xf0 + c.toNat / 0x40000 < 0x100 by omega)
  obtain ⟨low, high, hlead, hlow, hhigh⟩ : ∃ low high,
      utf8Lead? (.ofNat (0xf0 + c.toNat / 0x40000)) = some (c.toNat / 0x40000, 3, low, high) ∧
        low ≤ 0x80 + c.toNat / 0x1000 % 0x40 ∧ 0x80 + c.toNat / 0x1000 % 0x40 ≤ high := by
    simp only [utf8Lead?_eq_some_iff, hb, true_and]
    by_cases h0 : c.toNat / 0x40000 = 0
    · exact ⟨0x90, 0xbf, by omega⟩
    by_cases h4 : c.toNat / 0x40000 = 4
    · exact ⟨0x80, 0x8f, by omega⟩
    · exact ⟨0x80, 0xbf, by omega⟩
  refine utf8Char_of_tail (by omega) hlead ?_
  refine utf8Tail_ofNat (by omega) hlow hhigh ?_
  refine utf8Tail_ofNat (by omega) (by omega) (by omega) ?_
  refine utf8Tail_ofNat (by omega) (by omega) (by omega) ?_
  exact utf8Tail_end _ _ _ rest (by omega)

theorem utf8Char_utf8Bytes (position : Nat) (c : Char) (rest : List UInt8) :
    ∃ b bs, utf8Bytes c.toNat = b :: bs ∧ utf8Char position b (bs ++ rest) = .ok (c, rest) := by
  unfold utf8Bytes
  by_cases h1 : c.toNat < 0x80
  · refine ⟨_, [], if_pos h1, ?_⟩
    rw [utf8Char, toNat_ofNat_byte (by omega), if_pos h1, Char.ofNat_toNat, List.nil_append]
  by_cases h2 : c.toNat < 0x800
  · rw [if_neg h1, if_pos h2]
    refine ⟨_, _, rfl, ?_⟩
    simp only [Nat.div_one]
    exact utf8Char_two position rest (by omega) h2
  by_cases h3 : c.toNat < 0x10000
  · rw [if_neg h1, if_neg h2, if_pos h3]
    refine ⟨_, _, rfl, ?_⟩
    simp only [Nat.div_one]
    exact utf8Char_three position rest (by omega) h3
  · rw [if_neg h1, if_neg h2, if_neg h3]
    refine ⟨_, _, rfl, ?_⟩
    simp only [Nat.div_one]
    exact utf8Char_four position rest (by omega)

theorem utf8Char_eq_ok_iff :
    utf8Char position b bs = .ok (c, rest) ↔ b :: bs = utf8Bytes c.toNat ++ rest := by
  refine ⟨utf8Bytes_of_utf8Char, fun h => ?_⟩
  obtain ⟨b', bs', hbytes, hread⟩ := utf8Char_utf8Bytes position c rest
  rw [hbytes, List.cons_append] at h
  obtain ⟨rfl, rfl⟩ := List.cons.inj h
  exact hread

/-! ### Texts -/

/-- Exactly the bytes of characters are read as these characters. -/
theorem utf8Chars_eq_ok_iff (h : bs.length ≤ fuel) :
    utf8Chars position fuel bs = .ok cs ↔ bs = cs.flatMap (utf8Bytes ·.toNat) := by
  have hne (c : Char) : utf8Bytes c.toNat ≠ [] := by
    obtain ⟨b, bs, hbytes, -⟩ := utf8Char_utf8Bytes 0 c []
    rw [hbytes]
    exact List.cons_ne_nil b bs
  induction fuel generalizing position bs cs with
  | zero =>
    obtain rfl := List.length_eq_zero_iff.mp (Nat.le_zero.mp h)
    cases cs <;> simp [utf8Chars, hne]
  | succ fuel ih =>
    cases bs with
    | nil => cases cs <;> simp [utf8Chars, hne]
    | cons b bs =>
      have hrest {c : Char} {rest : List UInt8} (hchar : b :: bs = utf8Bytes c.toNat ++ rest) :
          rest.length ≤ fuel := by
        have hlength := congrArg List.length hchar
        have hpos := List.length_pos_iff.mpr (hne c)
        simp only [List.length_cons, List.length_append] at hlength h
        omega
      rw [utf8Chars]
      constructor
      · intro hchars
        cases hchar : utf8Char position b bs with
        | error e =>
          rw [hchar] at hchars
          cases hchars
        | ok read =>
          obtain ⟨c, rest⟩ := read
          have hbytes := utf8Char_eq_ok_iff.mp hchar
          cases htail : utf8Chars (position + c.utf8Size) fuel rest with
          | error e => simp [hchar, htail, bind, Except.bind] at hchars
          | ok cs' =>
            obtain rfl : c :: cs' = cs := by
              simpa [hchar, htail, bind, Except.bind, pure, Except.pure] using hchars
            rw [hbytes, List.flatMap_cons, ← (ih (hrest hbytes)).mp htail]
      · intro hbytes
        cases cs with
        | nil => cases hbytes
        | cons c cs =>
          rw [List.flatMap_cons] at hbytes
          have htail : utf8Chars (position + c.utf8Size) fuel (cs.flatMap (utf8Bytes ·.toNat)) =
              .ok cs := (ih (hrest hbytes)).mpr rfl
          rw [utf8Char_eq_ok_iff.mpr hbytes]
          simp [htail, bind, Except.bind, pure, Except.pure]

/-- Bytes can be read exactly if they are those of a text, and then the text is read. -/
theorem decodeUtf8_eq_ok_iff :
    decodeUtf8 bs = .ok cs ↔ bs = (String.ofList cs).toUTF8.data.toList := by
  rw [decodeUtf8, utf8Chars_eq_ok_iff (Nat.le_refl _), ← Encoding.bytes_utf8, Encoding.bytes,
    String.toList_ofList]
  rfl

end CodeMarkup.Text
