import ServiceTopology.Text.Utf8

/-!
# Decoding encoded texts

The UTF-8 encoding of a text is decoded to that text, and no other bytes are decoded. The first byte of an
encoded character announces how many bytes follow it, and their bits make up the code point again; the narrower
ranges after some first bytes exclude exactly what no encoder produces.

A text without carriage returns keeps its line ends.
-/

namespace ServiceTopology.Text

/-! ## First bytes -/

/-- A code point below 0x80 is its own first byte, and its only one. -/
theorem utf8Lead?_one {n : Nat} (h : n ≤ 0x7F) : utf8Lead? (UInt8.ofNat n) = some ⟨0, n, 0, 0⟩ := by
  have hbyte : (UInt8.ofNat n).toNat = n := UInt8.toNat_ofNat_of_lt (Nat.lt_of_le_of_lt h (by decide))
  simp only [utf8Lead?, hbyte]
  rw [if_pos (by omega)]

/-- The first of two bytes carries five bits; fewer than two bits would be an overlong form. -/
theorem utf8Lead?_two {n : Nat} (hlow : 2 ≤ n) (hhigh : n < 0x20) :
    utf8Lead? (UInt8.ofNat (n + 0xC0)) = some ⟨1, n, 0x80, 0xBF⟩ := by
  have hbyte : (UInt8.ofNat (n + 0xC0)).toNat = n + 0xC0 :=
    UInt8.toNat_ofNat_of_lt (Nat.lt_trans (Nat.add_lt_add_right hhigh 0xC0) (by decide))
  simp only [utf8Lead?, hbyte, Nat.add_sub_cancel]
  rw [if_neg (by omega), if_neg (by omega), if_pos (by omega)]

/-- The first of three bytes carries four bits; overlong forms and surrogates are kept out by the range of
the second byte. -/
theorem utf8Lead?_three {n : Nat} (h : n < 0x10) :
    utf8Lead? (UInt8.ofNat (n + 0xE0)) =
      some ⟨2, n, if n = 0 then 0xA0 else 0x80, if n = 0xD then 0x9F else 0xBF⟩ := by
  have hbyte : (UInt8.ofNat (n + 0xE0)).toNat = n + 0xE0 :=
    UInt8.toNat_ofNat_of_lt (Nat.lt_trans (Nat.add_lt_add_right h 0xE0) (by decide))
  by_cases hzero : n = 0
  · rw [hzero]
    rfl
  by_cases hsurrogate : n = 0xD
  · rw [hsurrogate]
    rfl
  · simp only [utf8Lead?, hbyte, Nat.add_sub_cancel]
    rw [if_neg (by omega), if_neg (by omega), if_neg (by omega), if_neg (by omega), if_neg (by omega),
      if_pos (by omega), if_neg hzero, if_neg hsurrogate]

/-- The first of four bytes carries three bits; overlong forms and code points beyond the last one are kept
out by the range of the second byte. -/
theorem utf8Lead?_four {n : Nat} (h : n ≤ 4) :
    utf8Lead? (UInt8.ofNat (n + 0xF0)) =
      some ⟨3, n, if n = 0 then 0x90 else 0x80, if n = 4 then 0x8F else 0xBF⟩ := by
  obtain rfl | rfl | rfl | rfl | rfl : n = 0 ∨ n = 1 ∨ n = 2 ∨ n = 3 ∨ n = 4 := by omega
  all_goals rfl

/-! ## Characters and texts -/

/-- A continuation byte in its range adds six bits. -/
theorem continuationBits_cons {count low high bits n point : Nat} {rest : List UInt8}
    (hn : n < 0x40) (hlow : low ≤ n + 0x80) (hhigh : n + 0x80 ≤ high)
    (hrest : continuationBits count 0x80 0xBF (bits * 64 + n) rest = .ok point) :
    continuationBits (count + 1) low high bits (UInt8.ofNat (n + 0x80) :: rest) = .ok point := by
  have hbyte : (UInt8.ofNat (n + 0x80)).toNat = n + 0x80 :=
    UInt8.toNat_ofNat_of_lt (Nat.lt_trans (Nat.add_lt_add_right hn 0x80) (by decide))
  rw [continuationBits, hbyte, if_pos (by rw [decide_eq_true hlow, decide_eq_true hhigh]; rfl),
    Nat.add_sub_cancel, hrest]
  rfl

/-- The first byte of an encoded character announces the others, which complete its code point. -/
theorem utf8EncodeChar_eq_cons (c : Char) :
    ∃ first others lead, String.utf8EncodeChar c = first :: others ∧ utf8Lead? first = some lead ∧
      lead.continuations = others.length ∧
      ∀ rest, continuationBits lead.continuations lead.low lead.high lead.bits (others ++ rest) =
        .ok c.toNat := by
  have hvalid : c.toNat < 0xD800 ∨ 0xDFFF < c.toNat ∧ c.toNat < 0x110000 := c.valid
  have hval : c.val.toNat = c.toNat := rfl
  simp only [String.utf8EncodeChar, hval]
  generalize c.toNat = n at hvalid
  -- The encoder decides on the number of bytes; every range below follows from its bounds on the code point.
  split
  case isTrue hone => exact ⟨_, _, _, rfl, utf8Lead?_one hone, rfl, fun rest => rfl⟩
  split
  case isTrue htwo =>
    refine ⟨_, _, _, rfl, utf8Lead?_two (n := n / 64 % 0x20) (by omega) (by omega), rfl, fun rest => ?_⟩
    refine continuationBits_cons (by omega) ?_ ?_ (congrArg Except.ok ?_)
    all_goals dsimp only; omega
  split
  case isTrue hthree =>
    refine ⟨_, _, _, rfl, utf8Lead?_three (n := n / 4096 % 0x10) (by omega), rfl, fun rest => ?_⟩
    refine continuationBits_cons (by omega) ?_ ?_
      (continuationBits_cons (by omega) (by omega) (by omega) (congrArg Except.ok ?_))
    · dsimp only
      split <;> omega
    · dsimp only
      split <;> omega
    · dsimp only
      omega
  case isFalse hfour =>
    refine ⟨_, _, _, rfl, utf8Lead?_four (n := n / 262144 % 0x08) (by omega), rfl, fun rest => ?_⟩
    refine continuationBits_cons (by omega) ?_ ?_
      (continuationBits_cons (by omega) (by omega) (by omega)
        (continuationBits_cons (by omega) (by omega) (by omega) (congrArg Except.ok ?_)))
    · dsimp only
      split <;> omega
    · dsimp only
      split <;> omega
    · dsimp only
      omega

/-- Bytes that belong to a sequence already read are dropped. -/
theorem decodeUtf8From_length (bytes rest : List UInt8) (position : Nat) :
    decodeUtf8From bytes.length position (bytes ++ rest) =
      decodeUtf8From 0 (position + bytes.length) rest := by
  induction bytes generalizing position with
  | nil => rfl
  | cons byte bytes ih =>
    rw [List.length_cons, List.cons_append, decodeUtf8From, ih, Nat.add_assoc, Nat.add_comm 1]

/-- An encoded text is decoded from any position on. -/
theorem decodeUtf8From_encode (text : List Char) (position : Nat) :
    decodeUtf8From 0 position (text.flatMap String.utf8EncodeChar) = .ok text := by
  induction text generalizing position with
  | nil => rfl
  | cons c text ih =>
    obtain ⟨first, others, lead, hbytes, hlead, hlength, hbits⟩ := utf8EncodeChar_eq_cons c
    rw [List.flatMap_cons, hbytes, List.cons_append, decodeUtf8From, hlead]
    simp only [hbits]
    rw [hlength, decodeUtf8From_length, ih]
    exact congrArg (fun d => Except.ok (d :: text)) (Char.ofNat_toNat c)

/-- The encoding of a text is decoded to that text. -/
theorem decodeUtf8_encode (text : List Char) :
    decodeUtf8 (text.flatMap String.utf8EncodeChar) = .ok text :=
  decodeUtf8From_encode text 0

/-! ## Decoded bytes -/

/-- A first byte announces a sequence of one to four bytes and carries the bits of an encoded character. -/
theorem utf8Lead?_eq_some {byte : UInt8} {lead : Utf8Lead} (h : utf8Lead? byte = some lead) :
    (∃ n, n ≤ 0x7F ∧ byte = UInt8.ofNat n ∧ lead = ⟨0, n, 0, 0⟩) ∨
      (∃ n, 2 ≤ n ∧ n < 0x20 ∧ byte = UInt8.ofNat (n + 0xC0) ∧ lead = ⟨1, n, 0x80, 0xBF⟩) ∨
      (∃ n, n < 0x10 ∧ byte = UInt8.ofNat (n + 0xE0) ∧
        lead = ⟨2, n, if n = 0 then 0xA0 else 0x80, if n = 0xD then 0x9F else 0xBF⟩) ∨
      ∃ n, n ≤ 4 ∧ byte = UInt8.ofNat (n + 0xF0) ∧
        lead = ⟨3, n, if n = 0 then 0x90 else 0x80, if n = 4 then 0x8F else 0xBF⟩ := by
  have hself : UInt8.ofNat byte.toNat = byte := UInt8.ofNat_toNat
  generalize hb : byte.toNat = b at hself
  by_cases hone : b ≤ 0x7F
  · have hlead := utf8Lead?_one hone
    rw [hself, h] at hlead
    exact .inl ⟨b, hone, hself.symm, Option.some.inj hlead⟩
  by_cases htwo : 0xC2 ≤ b ∧ b < 0xE0
  · have hsum : b - 0xC0 + 0xC0 = b := by omega
    have hlead := utf8Lead?_two (n := b - 0xC0) (by omega) (by omega)
    rw [hsum, hself, h] at hlead
    exact .inr (.inl ⟨b - 0xC0, by omega, by omega, by rw [hsum, hself], Option.some.inj hlead⟩)
  by_cases hthree : 0xE0 ≤ b ∧ b < 0xF0
  · have hsum : b - 0xE0 + 0xE0 = b := by omega
    have hlead := utf8Lead?_three (n := b - 0xE0) (by omega)
    rw [hsum, hself, h] at hlead
    exact .inr (.inr (.inl ⟨b - 0xE0, by omega, by rw [hsum, hself], Option.some.inj hlead⟩))
  by_cases hfour : 0xF0 ≤ b ∧ b ≤ 0xF4
  · have hsum : b - 0xF0 + 0xF0 = b := by omega
    have hlead := utf8Lead?_four (n := b - 0xF0) (by omega)
    rw [hsum, hself, h] at hlead
    exact .inr (.inr (.inr ⟨b - 0xF0, by omega, by rw [hsum, hself], Option.some.inj hlead⟩))
  · simp only [utf8Lead?, hb] at h
    obtain hstray | hbeyond : b < 0xC2 ∨ 0xF4 < b := by omega
    · rw [if_neg (by omega), if_pos hstray] at h
      cases h
    · rw [if_neg (by omega), if_neg (by omega), if_neg (by omega), if_neg (by omega), if_neg (by omega),
        if_neg (by omega), if_neg (by omega), if_neg (by omega), if_neg (by omega)] at h
      cases h

/-- A continuation byte that was read lies in its range and adds six bits. -/
theorem of_continuationBits {count low high bits point : Nat} {bytes : List UInt8} (hlow : 0x80 ≤ low)
    (h : continuationBits (count + 1) low high bits bytes = .ok point) :
    ∃ n tail, bytes = UInt8.ofNat (n + 0x80) :: tail ∧ low ≤ n + 0x80 ∧ n + 0x80 ≤ high ∧
      continuationBits count 0x80 0xBF (bits * 64 + n) tail = .ok point := by
  cases bytes with
  | nil => cases h
  | cons byte tail =>
    rw [continuationBits] at h
    split at h
    · rename_i hrange
      rw [Bool.and_eq_true, decide_eq_true_eq, decide_eq_true_eq] at hrange
      have hsum : byte.toNat - 0x80 + 0x80 = byte.toNat := by omega
      refine ⟨byte.toNat - 0x80, tail, by rw [hsum, UInt8.ofNat_toNat], by omega, by omega, ?_⟩
      cases hrest : continuationBits count 0x80 0xBF (bits * 64 + (byte.toNat - 0x80)) tail with
      | error fault =>
        rw [hrest] at h
        cases h
      | ok read =>
        rw [hrest] at h
        cases h
        rfl
    · cases h

/-- A code point outside the surrogates is that of its character. -/
theorem toNat_ofNat {point : Nat} (h : point.isValidChar) : (Char.ofNat point).val.toNat = point := by
  rw [Char.ofNat, dif_pos h]
  rfl

/-- A sequence that was read is the encoding of the character with the code point. -/
theorem encode_of_sequence {byte : UInt8} {lead : Utf8Lead} {bytes : List UInt8} {point : Nat}
    (hlead : utf8Lead? byte = some lead)
    (hbits : continuationBits lead.continuations lead.low lead.high lead.bits bytes = .ok point) :
    ∃ others tail, bytes = others ++ tail ∧ others.length = lead.continuations ∧
      String.utf8EncodeChar (Char.ofNat point) = byte :: others := by
  obtain ⟨n, hn, rfl, rfl⟩ | ⟨n, hlow, hhigh, rfl, rfl⟩ | ⟨n, hn, rfl, rfl⟩ | ⟨n, hn, rfl, rfl⟩ :=
    utf8Lead?_eq_some hlead
  · cases hbits
    have hpoint : (Char.ofNat n).val.toNat = n := toNat_ofNat (.inl (by omega))
    refine ⟨[], bytes, rfl, rfl, ?_⟩
    simp only [String.utf8EncodeChar, hpoint, if_pos hn]
  · obtain ⟨m, tail, rfl, hm, hm', hdone⟩ := of_continuationBits (Nat.le_refl _) hbits
    cases hdone
    dsimp only at hm hm' ⊢
    have hpoint : (Char.ofNat (n * 64 + m)).val.toNat = n * 64 + m := toNat_ofNat (.inl (by omega))
    have hfirst : (n * 64 + m) / 64 % 0x20 = n := by omega
    have hsecond : (n * 64 + m) % 0x40 = m := by omega
    refine ⟨[_], tail, rfl, rfl, ?_⟩
    simp only [String.utf8EncodeChar, hpoint]
    rw [if_neg (by omega), if_pos (by omega), hfirst, hsecond]
  · obtain ⟨m, middle, rfl, hm, hm', hbits⟩ := of_continuationBits (by dsimp only; split <;> decide) hbits
    obtain ⟨k, tail, rfl, hk, hk', hdone⟩ := of_continuationBits (Nat.le_refl _) hbits
    cases hdone
    dsimp only at hm hm' ⊢
    -- The range of the second byte keeps overlong forms and surrogates out.
    have hoverlong : n = 0 → 0x20 ≤ m := fun hzero => by rw [if_pos hzero] at hm; omega
    have hsurrogate : n = 0xD → m < 0x20 := fun hlast => by rw [if_pos hlast] at hm'; omega
    have hm : m < 0x40 := by split at hm' <;> omega
    have hpoint : (Char.ofNat ((n * 64 + m) * 64 + k)).val.toNat = (n * 64 + m) * 64 + k :=
      toNat_ofNat (by unfold Nat.isValidChar; omega)
    have hfirst : ((n * 64 + m) * 64 + k) / 4096 % 0x10 = n := by omega
    have hsecond : ((n * 64 + m) * 64 + k) / 64 % 0x40 = m := by omega
    have hthird : ((n * 64 + m) * 64 + k) % 0x40 = k := by omega
    refine ⟨[_, _], tail, rfl, rfl, ?_⟩
    simp only [String.utf8EncodeChar, hpoint]
    rw [if_neg (by omega), if_neg (by omega), if_pos (by omega), hfirst, hsecond, hthird]
  · obtain ⟨m, second, rfl, hm, hm', hbits⟩ := of_continuationBits (by dsimp only; split <;> decide) hbits
    obtain ⟨k, third, rfl, hk, hk', hbits⟩ := of_continuationBits (Nat.le_refl _) hbits
    obtain ⟨j, tail, rfl, hj, hj', hdone⟩ := of_continuationBits (Nat.le_refl _) hbits
    cases hdone
    dsimp only at hm hm' ⊢
    -- The range of the second byte keeps overlong forms and code points beyond the last one out.
    have hoverlong : n = 0 → 0x10 ≤ m := fun hzero => by rw [if_pos hzero] at hm; omega
    have hbeyond : n = 4 → m < 0x10 := fun hlast => by rw [if_pos hlast] at hm'; omega
    have hm : m < 0x40 := by split at hm' <;> omega
    have hpoint : (Char.ofNat (((n * 64 + m) * 64 + k) * 64 + j)).val.toNat =
        ((n * 64 + m) * 64 + k) * 64 + j := toNat_ofNat (by unfold Nat.isValidChar; omega)
    have hfirst : (((n * 64 + m) * 64 + k) * 64 + j) / 262144 % 0x08 = n := by omega
    have hsecond : (((n * 64 + m) * 64 + k) * 64 + j) / 4096 % 0x40 = m := by omega
    have hthird : (((n * 64 + m) * 64 + k) * 64 + j) / 64 % 0x40 = k := by omega
    have hfourth : (((n * 64 + m) * 64 + k) * 64 + j) % 0x40 = j := by omega
    refine ⟨[_, _, _], tail, rfl, rfl, ?_⟩
    simp only [String.utf8EncodeChar, hpoint]
    rw [if_neg (by omega), if_neg (by omega), if_neg (by omega), hfirst, hsecond, hthird, hfourth]

/-- Bytes that are decoded from any position on are the encoding of the decoded text. -/
theorem encode_of_decodeUtf8From {bytes : List UInt8} {text : List Char} {position : Nat}
    (h : decodeUtf8From 0 position bytes = .ok text) : bytes = text.flatMap String.utf8EncodeChar := by
  induction hsize : bytes.length using Nat.strongRecOn generalizing bytes text position with
  | ind size ih =>
    cases bytes with
    | nil =>
      cases h
      rfl
    | cons byte rest =>
      rw [decodeUtf8From] at h
      split at h
      · cases h
      · rename_i lead hlead
        split at h
        · cases h
        · rename_i point hbits
          obtain ⟨others, tail, rfl, hlength, hencode⟩ := encode_of_sequence hlead hbits
          rw [← hlength, decodeUtf8From_length] at h
          cases htail : decodeUtf8From 0 (position + 1 + others.length) tail with
          | error error =>
            rw [htail] at h
            cases h
          | ok decoded =>
            rw [htail] at h
            cases h
            have hshorter : tail.length < size := by
              rw [← hsize, List.length_cons, List.length_append]
              omega
            have hrest := ih tail.length hshorter htail rfl
            rw [List.flatMap_cons, hencode, ← hrest]
            rfl

/-- Exactly the encodings of texts are decoded. -/
theorem decodeUtf8_eq_ok_iff {bytes : List UInt8} {text : List Char} :
    decodeUtf8 bytes = .ok text ↔ bytes = text.flatMap String.utf8EncodeChar := by
  constructor
  · exact encode_of_decodeUtf8From
  · rintro rfl
    exact decodeUtf8_encode text

/-! ## Line ends -/

/-- A text without carriage returns keeps its line ends. -/
theorem unifyLineEnds_eq_self {text : List Char} (h : ∀ c ∈ text, c ≠ '\r') : unifyLineEnds text = text := by
  induction text with
  | nil => rfl
  | cons c rest ih =>
    have hrest := ih fun d hd => h d (List.mem_cons_of_mem c hd)
    have hc : c ≠ '\r' := h c List.mem_cons_self
    rw [unifyLineEnds.eq_3 c rest (fun _ heq _ => hc heq) hc, hrest]

end ServiceTopology.Text
