import AtomicKv.Text.Utf8

/-!
# Strict reading of UTF-8

Writing a text and reading it strictly are inverse to each other, on every text and on every
byte string: a byte string reads as a text exactly when it is what the text is written as
(`decode_eq_ok_iff`). Lossy reading undoes writing as well (`lossy_encode`). Between the two
stands the grammar of shortest forms (`Spells`), which the pieces of a byte string are shown to
follow without a look at how it is encoded.
-/
namespace AtomicKv.Utf8

theorem toNat_ofNat_of_valid {n : Nat} (valid : n.isValidChar) : (Char.ofNat n).toNat = n := by
  unfold Char.ofNat
  rw [dif_pos valid]
  rfl

/-- A byte that a character of two bytes begins with. -/
theorem lead?_two {b : UInt8} (low : 0xC2 ≤ b.toNat) (high : b.toNat ≤ 0xDF) :
    lead? b = some ⟨b.toNat - 0xC0, 0x80, 0xBF, 0⟩ := by
  simp only [lead?, UInt8.lt_iff_toNat_lt, UInt8.reduceToNat]
  rw [if_neg (by omega), if_pos (by omega)]

/-- A byte that a character of three bytes begins with. The range of the second byte is
narrower behind the first such byte, which would be overlong, and behind the one that leads
to the surrogates. -/
theorem lead?_three {b : UInt8} (low : 0xE0 ≤ b.toNat) (high : b.toNat ≤ 0xEF) :
    lead? b = some ⟨b.toNat - 0xE0, if b.toNat = 0xE0 then 0xA0 else 0x80,
      if b.toNat = 0xED then 0x9F else 0xBF, 1⟩ := by
  simp only [lead?, UInt8.lt_iff_toNat_lt, ← UInt8.toNat_inj, UInt8.reduceToNat]
  rw [if_neg (by omega), if_neg (by omega)]
  by_cases first : b.toNat = 0xE0
  · simp [first]
  · by_cases surrogates : b.toNat = 0xED
    · simp [surrogates]
    · rw [if_neg first, if_neg surrogates, if_pos (by omega), if_neg first, if_neg surrogates]

/-- A byte that a character of four bytes begins with, with the second byte narrowed at both
ends of the range. -/
theorem lead?_four {b : UInt8} (low : 0xF0 ≤ b.toNat) (high : b.toNat ≤ 0xF4) :
    lead? b = some ⟨b.toNat - 0xF0, if b.toNat = 0xF0 then 0x90 else 0x80,
      if b.toNat = 0xF4 then 0x8F else 0xBF, 2⟩ := by
  simp only [lead?, UInt8.lt_iff_toNat_lt, ← UInt8.toNat_inj, UInt8.reduceToNat]
  rw [if_neg (by omega), if_neg (by omega), if_neg (by omega), if_neg (by omega),
    if_neg (by omega)]
  by_cases first : b.toNat = 0xF0
  · simp [first]
  · by_cases last : b.toNat = 0xF4
    · simp [last]
    · rw [if_neg first, if_pos (by omega), if_neg first, if_neg last]

/-- No other byte past ASCII begins a character. -/
theorem lead?_none {b : UInt8} (outside : b.toNat < 0xC2 ∨ 0xF4 < b.toNat) : lead? b = none := by
  simp only [lead?, UInt8.lt_iff_toNat_lt, ← UInt8.toNat_inj, UInt8.reduceToNat]
  by_cases low : b.toNat < 0xC2
  · rw [if_pos low]
  · rw [if_neg low, if_neg (by omega), if_neg (by omega), if_neg (by omega), if_neg (by omega),
      if_neg (by omega), if_neg (by omega), if_neg (by omega)]

def IsTail (b : UInt8) : Prop := 0x80 ≤ b.toNat ∧ b.toNat ≤ 0xBF

theorem not_tail_iff {b : UInt8} : (b < 0x80 ∨ 0xBF < b) ↔ ¬ IsTail b := by
  simp only [IsTail, UInt8.lt_iff_toNat_lt, UInt8.reduceToNat]
  omega

theorem continuation_cons {bits width more : Nat} {b : UInt8} {rest : Bytes} (tail : IsTail b) :
    continuation bits width (more + 1) (b :: rest) =
      continuation (bits * 64 + (b.toNat - 0x80)) (width + 1) more rest := by
  rw [continuation, if_neg (fun out => not_tail_iff.mp out tail)]

/-- A continuation that completes a character takes as many continuation bytes as it needs. -/
theorem continuation_eq_char {bits width more : Nat} {rest : Bytes} {c : Char}
    (h : continuation bits width (more + 1) rest = .char c) :
    ∃ b rest', rest = b :: rest' ∧ IsTail b ∧
      continuation (bits * 64 + (b.toNat - 0x80)) (width + 1) more rest' = .char c := by
  cases rest with
  | nil => cases h
  | cons b rest' =>
    rw [continuation] at h
    split at h
    · cases h
    · rename_i inside
      exact ⟨b, rest', rfl, Classical.not_not.mp (mt not_tail_iff.mpr inside), h⟩

/-- The bytes that spell a code point in its shortest form, a lead byte and up to three more. -/
inductive Spells (n : Nat) : Bytes → Prop where
  | one {a : UInt8} (value : n = a.toNat) (ascii : a.toNat < 0x80) : Spells n [a]
  | two {a b : UInt8} (value : n = (a.toNat - 0xC0) * 64 + (b.toNat - 0x80))
      (low : 0xC2 ≤ a.toNat) (high : a.toNat ≤ 0xDF) (tail : IsTail b) : Spells n [a, b]
  | three {a b c : UInt8}
      (value : n = ((a.toNat - 0xE0) * 64 + (b.toNat - 0x80)) * 64 + (c.toNat - 0x80))
      (low : 0xE0 ≤ a.toNat) (high : a.toNat ≤ 0xEF) (tail : IsTail b) (tail' : IsTail c)
      (shortest : a.toNat = 0xE0 → 0xA0 ≤ b.toNat)
      (no_surrogate : a.toNat = 0xED → b.toNat ≤ 0x9F) : Spells n [a, b, c]
  | four {a b c d : UInt8}
      (value : n = (((a.toNat - 0xF0) * 64 + (b.toNat - 0x80)) * 64 + (c.toNat - 0x80)) * 64
        + (d.toNat - 0x80))
      (low : 0xF0 ≤ a.toNat) (high : a.toNat ≤ 0xF4) (tail : IsTail b) (tail' : IsTail c)
      (tail'' : IsTail d) (shortest : a.toNat = 0xF0 → 0x90 ≤ b.toNat)
      (in_range : a.toNat = 0xF4 → b.toNat ≤ 0x8F) : Spells n [a, b, c, d]

/-- Only code points of characters are spelled. -/
theorem Spells.valid {n : Nat} {bs : Bytes} (h : Spells n bs) : n.isValidChar := by
  simp only [Nat.isValidChar]
  cases h with
  | one value ascii => omega
  | two value low high tail =>
    simp only [IsTail] at tail
    omega
  | three value low high tail tail' shortest no_surrogate =>
    simp only [IsTail] at tail tail'
    omega
  | four value low high tail tail' tail'' shortest in_range =>
    simp only [IsTail] at tail tail' tail''
    omega

/-- A character is written as the bytes that spell its code point. -/
theorem Spells.encodeChar {c : Char} {bs : Bytes} (h : Spells c.toNat bs) :
    String.utf8EncodeChar c = bs := by
  have code : c.val.toNat = c.toNat := rfl
  simp only [String.utf8EncodeChar, code]
  generalize c.toNat = n at h
  cases h with
  | one value ascii =>
    rw [if_pos (by omega), value, UInt8.ofNat_toNat]
  | two value low high tail =>
    simp only [IsTail] at tail
    rw [if_neg (by omega), if_pos (by omega)]
    simp only [List.cons.injEq, ← UInt8.toNat_inj, UInt8.toNat_ofNat', and_true]
    omega
  | three value low high tail tail' shortest no_surrogate =>
    simp only [IsTail] at tail tail'
    rw [if_neg (by omega), if_neg (by omega), if_pos (by omega)]
    simp only [List.cons.injEq, ← UInt8.toNat_inj, UInt8.toNat_ofNat', and_true]
    omega
  | four value low high tail tail' tail'' shortest in_range =>
    simp only [IsTail] at tail tail' tail''
    rw [if_neg (by omega), if_neg (by omega), if_neg (by omega)]
    simp only [List.cons.injEq, ← UInt8.toNat_inj, UInt8.toNat_ofNat', and_true]
    omega

/-- What is written for a character spells its code point. -/
theorem spells_encodeChar (c : Char) : Spells c.toNat (String.utf8EncodeChar c) := by
  have code : c.val.toNat = c.toNat := rfl
  have valid : c.toNat.isValidChar := c.valid
  simp only [String.utf8EncodeChar, code]
  generalize c.toNat = n at valid
  simp only [Nat.isValidChar] at valid
  split
  · apply Spells.one <;> rw [UInt8.toNat_ofNat'] <;> omega
  · split
    · apply Spells.two <;> simp only [IsTail, UInt8.toNat_ofNat'] <;> omega
    · split
      · apply Spells.three <;> simp only [IsTail, UInt8.toNat_ofNat'] <;> omega
      · apply Spells.four <;> simp only [IsTail, UInt8.toNat_ofNat'] <;> omega

/-- Behind a lead byte, a second byte in its range leaves the rest to the continuation. -/
theorem piece_lead {b second : UInt8} {rest : Bytes} {l : Lead} (past : 0x80 ≤ b.toNat)
    (lead : lead? b = some l) (low : l.low.toNat ≤ second.toNat)
    (high : second.toNat ≤ l.high.toNat) :
    piece b (second :: rest) =
      continuation (l.bits * 64 + (second.toNat - 0x80)) 2 l.more rest := by
  simp only [piece, UInt8.lt_iff_toNat_lt, UInt8.reduceToNat]
  rw [if_neg (by omega), lead]
  exact if_neg (by omega)

/-- A spelled character is the piece at the head of whatever begins with its bytes. -/
theorem piece_of_spells {n : Nat} {b : UInt8} {tail : Bytes} (rest : Bytes)
    (h : Spells n (b :: tail)) : piece b (tail ++ rest) = .char (Char.ofNat n) := by
  cases h with
  | one value ascii => rw [piece, if_pos (UInt8.lt_iff_toNat_lt.mpr ascii), value]
  | two value low high tail =>
    have within := tail
    simp only [IsTail] at within
    rw [List.cons_append, piece_lead (by omega) (lead?_two low high) within.1 within.2,
      continuation, value]
  | three value low high tail tail' shortest no_surrogate =>
    have within := tail
    simp only [IsTail] at within
    rw [List.cons_append, piece_lead (by omega) (lead?_three low high)
      (by dsimp only; split <;> simp only [UInt8.reduceToNat] <;> omega)
      (by dsimp only; split <;> simp only [UInt8.reduceToNat] <;> omega)]
    rw [List.cons_append, continuation_cons tail', continuation, value]
  | four value low high tail tail' tail'' shortest in_range =>
    have within := tail
    simp only [IsTail] at within
    rw [List.cons_append, piece_lead (by omega) (lead?_four low high)
      (by dsimp only; split <;> simp only [UInt8.reduceToNat] <;> omega)
      (by dsimp only; split <;> simp only [UInt8.reduceToNat] <;> omega)]
    rw [List.cons_append, List.cons_append, continuation_cons tail', continuation_cons tail'',
      continuation, value]

/-- A piece behind a lead byte that is a character has its second byte in range. -/
theorem lead_of_piece {b : UInt8} {rest : Bytes} {c : Char} (past : 0x80 ≤ b.toNat)
    (h : piece b rest = .char c) :
    ∃ l second rest', lead? b = some l ∧ rest = second :: rest' ∧
      l.low.toNat ≤ second.toNat ∧ second.toNat ≤ l.high.toNat ∧
      continuation (l.bits * 64 + (second.toNat - 0x80)) 2 l.more rest' = .char c := by
  rw [piece, if_neg (by rw [UInt8.lt_iff_toNat_lt]; exact Nat.not_lt.mpr past)] at h
  split at h
  · cases h
  · rename_i l lead
    cases rest with
    | nil => cases h
    | cons second rest' =>
      simp only [UInt8.lt_iff_toNat_lt] at h
      split at h
      · cases h
      · exact ⟨l, second, rest', lead, rfl, by omega, by omega, h⟩

/-- A piece that is a character is spelled by the bytes it is the piece of. -/
theorem spells_of_piece {b : UInt8} {rest : Bytes} {c : Char} (h : piece b rest = .char c) :
    ∃ n bs rest', b :: rest = bs ++ rest' ∧ Spells n bs ∧ c = Char.ofNat n := by
  by_cases ascii : b.toNat < 0x80
  · rw [piece, if_pos (UInt8.lt_iff_toNat_lt.mpr ascii), Piece.char.injEq] at h
    exact ⟨b.toNat, [b], rest, rfl, .one rfl ascii, h.symm⟩
  · obtain ⟨l, second, rest', lead, rfl, low, high, more⟩ := lead_of_piece (by omega) h
    by_cases outside : b.toNat < 0xC2 ∨ 0xF4 < b.toNat
    · rw [lead?_none outside] at lead
      cases lead
    by_cases two : b.toNat ≤ 0xDF
    · rw [lead?_two (by omega) two, Option.some.injEq] at lead
      subst lead
      simp only [continuation, Piece.char.injEq] at more
      exact ⟨_, [b, second], rest', rfl, .two rfl (by omega) two ⟨low, high⟩, more.symm⟩
    by_cases three : b.toNat ≤ 0xEF
    · rw [lead?_three (by omega) three, Option.some.injEq] at lead
      subst lead
      dsimp only at low high more
      obtain ⟨third, rest, rfl, tail, more⟩ := continuation_eq_char more
      simp only [continuation, Piece.char.injEq] at more
      refine ⟨_, [b, second, third], rest, rfl,
        .three rfl (by omega) three ?_ tail ?_ ?_, more.symm⟩
      · rw [IsTail]
        split at low <;> split at high <;> simp only [UInt8.reduceToNat] at low high <;> omega
      · intro first
        rwa [if_pos first] at low
      · intro surrogates
        rwa [if_pos surrogates] at high
    · rw [lead?_four (by omega) (by omega), Option.some.injEq] at lead
      subst lead
      dsimp only at low high more
      obtain ⟨third, rest, rfl, tail, more⟩ := continuation_eq_char more
      obtain ⟨fourth, rest, rfl, tail', more⟩ := continuation_eq_char more
      simp only [continuation, Piece.char.injEq] at more
      refine ⟨_, [b, second, third, fourth], rest, rfl,
        .four rfl (by omega) (by omega) ?_ tail tail' ?_ ?_, more.symm⟩
      · rw [IsTail]
        split at low <;> split at high <;> simp only [UInt8.reduceToNat] at low high <;> omega
      · intro first
        rwa [if_pos first] at low
      · intro last
        rwa [if_pos last] at high

/-- A byte string has a character for its first piece exactly when it begins with what is
written for that character. -/
theorem piece_eq_char_iff {b : UInt8} {rest : Bytes} {c : Char} :
    piece b rest = .char c ↔ String.utf8EncodeChar c <+: b :: rest := by
  constructor
  · intro h
    obtain ⟨n, bs, rest', split, spelled, rfl⟩ := spells_of_piece h
    rw [← toNat_ofNat_of_valid spelled.valid] at spelled
    exact ⟨rest', by rw [spelled.encodeChar, split]⟩
  · intro h
    obtain ⟨rest', split⟩ := h
    have spelled := spells_encodeChar c
    cases written : String.utf8EncodeChar c with
    | nil => exact absurd written String.utf8EncodeChar_ne_nil
    | cons first tail =>
      rw [written] at split spelled
      rw [List.cons_append, List.cons.injEq] at split
      obtain ⟨rfl, rfl⟩ := split
      rw [piece_of_spells rest' spelled, Char.ofNat_toNat]

/-- Pieces found earlier stand in front and change nothing else. -/
theorem piecesFrom_append (found more : List Piece) (bs : Bytes) :
    piecesFrom (found ++ more) bs = more.reverse ++ piecesFrom found bs := by
  fun_induction piecesFrom found bs with
  | case1 found => rw [piecesFrom, List.reverse_append]
  | case2 found b rest next ih => rw [piecesFrom]; exact ih

theorem pieces_nil : pieces [] = [] := by
  rw [pieces, piecesFrom, List.reverse_nil]

theorem pieces_cons (b : UInt8) (rest : Bytes) :
    pieces (b :: rest) = piece b rest :: pieces (rest.drop ((piece b rest).width - 1)) := by
  rw [pieces, piecesFrom]
  exact piecesFrom_append [] [piece b rest] _

/-- A character that is written in front of a byte string is one more piece of it. -/
theorem pieces_encodeChar_append (c : Char) (rest : Bytes) :
    pieces (String.utf8EncodeChar c ++ rest) = .char c :: pieces rest := by
  cases written : String.utf8EncodeChar c with
  | nil => exact absurd written String.utf8EncodeChar_ne_nil
  | cons b tail =>
    have first : piece b (tail ++ rest) = .char c :=
      piece_eq_char_iff.mpr ⟨rest, by rw [written, List.cons_append]⟩
    have size : c.utf8Size - 1 = tail.length := by
      rw [← String.length_utf8EncodeChar, written, List.length_cons, Nat.add_sub_cancel]
    rw [List.cons_append, pieces_cons, first, Piece.width, size, List.drop_left]

/-- The pieces of a byte string are some characters and no others exactly when these are what
it is written as. -/
theorem pieces_eq_chars_iff {bs : Bytes} {cs : List Char} :
    pieces bs = cs.map .char ↔ bs = cs.flatMap String.utf8EncodeChar := by
  constructor
  · intro h
    induction cs generalizing bs with
    | nil =>
      cases bs with
      | nil => rfl
      | cons b rest =>
        rw [pieces_cons] at h
        cases h
    | cons c cs ih =>
      cases bs with
      | nil =>
        rw [pieces_nil] at h
        cases h
      | cons b rest =>
        have first : piece b rest = .char c := by
          rw [pieces_cons, List.map_cons, List.cons.injEq] at h
          exact h.1
        obtain ⟨rest', split⟩ := piece_eq_char_iff.mp first
        rw [← split, pieces_encodeChar_append, List.map_cons, List.cons.injEq] at h
        rw [← split, ih h.2, List.flatMap_cons]
  · rintro rfl
    induction cs with
    | nil => exact pieces_nil
    | cons c cs ih => rw [List.flatMap_cons, pieces_encodeChar_append, ih, List.map_cons]

theorem encode_eq (text : String) : encode text = text.toList.flatMap String.utf8EncodeChar := by
  have spelled : text = String.ofList text.toList := String.ofList_toList.symm
  rw [encode, String.toUTF8_eq_toByteArray]
  conv => lhs; rw [spelled]
  rw [String.toByteArray_ofList, List.utf8Encode, List.toList_data_toByteArray]

/-- There is no fault among pieces that are all characters, and only among those. -/
theorem firstFault_eq_none_iff {index : Nat} {found : List Piece} :
    firstFault index found = none ↔ ∃ cs : List Char, found = cs.map .char := by
  induction found generalizing index with
  | nil => simp [firstFault]
  | cons p found ih =>
    cases p with
    | char c =>
      rw [firstFault, ih]
      constructor
      · intro h
        obtain ⟨cs, rfl⟩ := h
        exact ⟨c :: cs, rfl⟩
      · intro h
        obtain ⟨cs, h⟩ := h
        cases cs with
        | nil => cases h
        | cons d cs => exact ⟨cs, (List.cons.inj h).2⟩
    | broken width =>
      simp only [firstFault, reduceCtorEq, false_iff]
      intro h
      obtain ⟨cs, h⟩ := h
      cases cs <;> cases h
    | unfinished width =>
      simp only [firstFault, reduceCtorEq, false_iff]
      intro h
      obtain ⟨cs, h⟩ := h
      cases cs <;> cases h

theorem shown_chars (cs : List Char) : (cs.map Piece.char).map Piece.shown = cs := by
  rw [List.map_map]
  exact List.map_id cs

/-- Strict reading accepts exactly what writing produces. -/
theorem decode_eq_ok_iff {bs : Bytes} {text : String} :
    decode bs = .ok text ↔ bs = encode text := by
  rw [encode_eq, ← pieces_eq_chars_iff, decode]
  constructor
  · intro h
    split at h
    · cases h
    · rename_i no_fault
      obtain ⟨cs, chars⟩ := firstFault_eq_none_iff.mp no_fault
      rw [chars, shown_chars, Except.ok.injEq] at h
      rw [chars, ← h, String.toList_ofList]
  · intro chars
    have no_fault : firstFault 0 (pieces bs) = none := firstFault_eq_none_iff.mpr ⟨_, chars⟩
    simp only [no_fault]
    rw [chars, shown_chars, String.ofList_toList]

/-- Lossy reading loses nothing of what a text is written as. -/
theorem lossy_encode (text : String) : lossy (encode text) = text := by
  have chars : pieces (encode text) = text.toList.map .char :=
    pieces_eq_chars_iff.mpr (encode_eq text)
  rw [lossy, chars, shown_chars, String.ofList_toList]

end AtomicKv.Utf8
