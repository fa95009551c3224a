import GridWalk.Text.Utf8
import Mathlib.Algebra.Group.Nat.Defs

/-!
# `GridWalk.Proofs.Text.Utf8`: what was encoded is decoded

The decoder takes byte after byte. A lead byte tells how many bytes follow and bounds the second
one, and the bounds leave out what no character is encoded to. So the bytes of a character lead the
decoder from between two characters to between two characters, with that character read. A byte
order mark in front is dropped. It is the encoding of a character itself, so a text that starts with
this character is not the same without it.

* `lead?_three` and `lead?_four`: the lead bytes with bounds of their own.
* `foldlM_step_encodeChar`: one character.
* `decode_encode`: a whole text.
* `decodeMarked_encode` and `decodeMarked_mark_append`: a text without a mark, and with one.
-/

set_option autoImplicit false

namespace GridWalk.Text.Utf8

/-- The bytes of a text. -/
def encode (text : String) : List UInt8 :=
  text.toUTF8.data.toList

/-- The bytes of a text are those of its characters. -/
theorem encode_eq_flatMap (text : String) :
    encode text = text.toList.flatMap String.utf8EncodeChar := by
  show text.toByteArray.data.toList = _
  rw [← String.utf8Encode_toList, List.utf8Encode, List.data_toByteArray]

/-! ### The bytes after the lead byte -/

/-- The last `n` bytes of a character of several bytes: six bits of the code point each. -/
def tail (v : Nat) : Nat → List UInt8
  | 0 => []
  | n + 1 => UInt8.ofNat (v / 64 ^ n % 64 + 128) :: tail v n

/-- A byte that is taken is followed by the others. -/
theorem foldlM_step_cons {s s' : State} {byte : UInt8} {bytes : List UInt8}
    (h : step s byte = .ok s') : (byte :: bytes).foldlM step s = bytes.foldlM step s' := by
  rw [List.foldlM_cons, h]
  rfl

/-- A byte between two characters must be a lead byte. -/
theorem step_lead {done : Array Char} {byte : UInt8} {p : Pending}
    (h : lead? byte.toNat = some p) :
    step ⟨done, none⟩ byte = .ok (State.put ⟨done, none⟩ p) := by
  simp only [step, h]

/-- A byte within the bounds gives six more bits. -/
theorem step_next {done : Array Char} {p : Pending} {bits : Nat} (hbits : bits < 64)
    (hlow : p.low ≤ bits + 128) (hhigh : bits + 128 ≤ p.high) :
    step ⟨done, some p⟩ (UInt8.ofNat (bits + 128))
      = .ok (State.put ⟨done, some p⟩ ⟨p.value * 64 + bits, p.missing - 1, 0x80, 0xBF⟩) := by
  have hbyte : (UInt8.ofNat (bits + 128)).toNat = bits + 128 :=
    UInt8.toNat_ofNat_of_lt' (show bits + 128 < 256 by omega)
  have hmod : (bits + 128) % 64 = bits := by omega
  simp only [step, hbyte, hlow, hhigh, and_self, if_true, hmod]

/-- The bytes after a lead byte complete the character. Only the first of them can have bounds of
its own. -/
theorem foldlM_step_tail (done : Array Char) (v n : Nat) {low high : Nat}
    (hlow : low ≤ v / 64 ^ n % 64 + 128) (hhigh : v / 64 ^ n % 64 + 128 ≤ high) :
    (tail v (n + 1)).foldlM step ⟨done, some ⟨v / 64 ^ (n + 1), n + 1, low, high⟩⟩
      = .ok ⟨done.push (Char.ofNat v), none⟩ := by
  have hbits (k : Nat) : v / 64 ^ k % 64 < 64 := Nat.mod_lt _ (by decide)
  -- The bits so far and six more are the bits of a code point that is cut off one byte later.
  have hvalue (k : Nat) : v / 64 ^ (k + 1) * 64 + v / 64 ^ k % 64 = v / 64 ^ k := by
    rw [Nat.pow_succ, ← Nat.div_div_eq_div_mul, Nat.mul_comm]
    exact Nat.div_add_mod _ 64
  induction n generalizing low high with
  | zero =>
    rw [tail, foldlM_step_cons (step_next (hbits 0) hlow hhigh)]
    dsimp only
    rw [hvalue 0]
    simp [tail, State.put]
    rfl
  | succ n ih =>
    rw [tail, foldlM_step_cons (step_next (hbits (n + 1)) hlow hhigh)]
    dsimp only
    rw [hvalue (n + 1)]
    exact ih (by omega) (by have := hbits n; omega)

/-! ### Lead bytes -/

/-- The lead byte of two. -/
theorem lead?_two {v : Nat} (hlow : 0x80 ≤ v) (hhigh : v < 0x800) :
    lead? (v / 64 + 192) = some ⟨v / 64, 1, 0x80, 0xBF⟩ := by
  have hbits : v / 64 + 192 - 0xC0 = v / 64 := Nat.add_sub_cancel ..
  unfold lead?
  rw [if_neg (by omega), if_neg (by omega), if_pos (by omega), hbits]

/-- The lead byte of three. The second byte of a code point that needs them is within the bounds. -/
theorem lead?_three {v : Nat} (hlow : 0x800 ≤ v) (hhigh : v < 0x10000)
    (hvalid : v < 0xD800 ∨ 0xDFFF < v) :
    ∃ low high, lead? (v / 4096 + 224) = some ⟨v / 4096, 2, low, high⟩ ∧
      low ≤ v / 64 % 64 + 128 ∧ v / 64 % 64 + 128 ≤ high := by
  by_cases hzero : v / 4096 = 0
  · -- Smaller second bytes would be for overlong forms.
    exact ⟨0xA0, 0xBF, by rw [hzero]; rfl, by omega, by omega⟩
  · by_cases hsurrogate : v / 4096 = 13
    · -- Larger second bytes would be for surrogates.
      exact ⟨0x80, 0x9F, by rw [hsurrogate]; rfl, by omega, by omega⟩
    · have hbits : v / 4096 + 224 - 0xE0 = v / 4096 := Nat.add_sub_cancel ..
      refine ⟨0x80, 0xBF, ?_, by omega, by omega⟩
      unfold lead?
      rw [if_neg (by omega), if_neg (by omega), if_neg (by omega), if_neg (by omega),
        if_neg (by omega), if_pos (by omega), hbits]

/-- The lead byte of four. The second byte of a code point that needs them is within the bounds. -/
theorem lead?_four {v : Nat} (hlow : 0x10000 ≤ v) (hhigh : v < 0x110000) :
    ∃ low high, lead? (v / 262144 + 240) = some ⟨v / 262144, 3, low, high⟩ ∧
      low ≤ v / 4096 % 64 + 128 ∧ v / 4096 % 64 + 128 ≤ high := by
  by_cases hzero : v / 262144 = 0
  · -- Smaller second bytes would be for overlong forms.
    exact ⟨0x90, 0xBF, by rw [hzero]; rfl, by omega, by omega⟩
  · by_cases hlast : v / 262144 = 4
    · -- Larger second bytes would lead past the last code point.
      exact ⟨0x80, 0x8F, by rw [hlast]; rfl, by omega, by omega⟩
    · have hbits : v / 262144 + 240 - 0xF0 = v / 262144 := Nat.add_sub_cancel ..
      refine ⟨0x80, 0xBF, ?_, by omega, by omega⟩
      unfold lead?
      rw [if_neg (by omega), if_neg (by omega), if_neg (by omega), if_neg (by omega),
        if_neg (by omega), if_neg (by omega), if_neg (by omega), if_pos (by omega), hbits]

/-! ### Characters and texts -/

/-- The bytes of a character: a lead byte and as many others as the code point needs. -/
theorem encodeChar_eq (c : Char) :
    String.utf8EncodeChar c =
      if c.toNat ≤ 0x7F then [UInt8.ofNat c.toNat]
      else if c.toNat ≤ 0x7FF then UInt8.ofNat (c.toNat / 64 + 192) :: tail c.toNat 1
      else if c.toNat ≤ 0xFFFF then UInt8.ofNat (c.toNat / 4096 + 224) :: tail c.toNat 2
      else UInt8.ofNat (c.toNat / 262144 + 240) :: tail c.toNat 3 := by
  have hvalid : c.toNat < 0xD800 ∨ (0xDFFF < c.toNat ∧ c.toNat < 0x110000) := c.valid
  simp only [String.utf8EncodeChar, Char.toNat_val, tail, Nat.reducePow, Nat.div_one]
  by_cases hone : c.toNat ≤ 0x7F
  · rw [if_pos hone, if_pos hone]
  · rw [if_neg hone, if_neg hone]
    by_cases htwo : c.toNat ≤ 0x7FF
    · rw [if_pos htwo, if_pos htwo, Nat.mod_eq_of_lt (a := c.toNat / 64) (by omega)]
    · rw [if_neg htwo, if_neg htwo]
      by_cases hthree : c.toNat ≤ 0xFFFF
      · rw [if_pos hthree, if_pos hthree, Nat.mod_eq_of_lt (a := c.toNat / 4096) (by omega)]
      · rw [if_neg hthree, if_neg hthree, Nat.mod_eq_of_lt (a := c.toNat / 262144) (by omega)]

/-- A lead byte and the bytes after it are read as a character. -/
theorem foldlM_step_lead_tail (done : Array Char) (c : Char) {b n low high : Nat} (hb : b < 256)
    (hlead : lead? b = some ⟨c.toNat / 64 ^ (n + 1), n + 1, low, high⟩)
    (hlow : low ≤ c.toNat / 64 ^ n % 64 + 128) (hhigh : c.toNat / 64 ^ n % 64 + 128 ≤ high) :
    (UInt8.ofNat b :: tail c.toNat (n + 1)).foldlM step ⟨done, none⟩
      = .ok ⟨done.push c, none⟩ := by
  have hbyte : (UInt8.ofNat b).toNat = b := UInt8.toNat_ofNat_of_lt' hb
  have htail := foldlM_step_tail done c.toNat n hlow hhigh
  rw [Char.ofNat_toNat] at htail
  rw [foldlM_step_cons (step_lead (hbyte.symm ▸ hlead))]
  exact htail

/-- The bytes of a character make the decoder read it. -/
theorem foldlM_step_encodeChar (done : Array Char) (c : Char) :
    (String.utf8EncodeChar c).foldlM step ⟨done, none⟩ = .ok ⟨done.push c, none⟩ := by
  have hvalid : c.toNat < 0xD800 ∨ (0xDFFF < c.toNat ∧ c.toNat < 0x110000) := c.valid
  rw [encodeChar_eq]
  split
  · next hone =>
    have hbyte : (UInt8.ofNat c.toNat).toNat = c.toNat :=
      UInt8.toNat_ofNat_of_lt' (show c.toNat < 256 by omega)
    have hlead : lead? (UInt8.ofNat c.toNat).toNat = some ⟨c.toNat, 0, 0, 0⟩ := by
      rw [hbyte]
      exact if_pos (by omega)
    rw [foldlM_step_cons (step_lead hlead), State.put, if_pos rfl, Char.ofNat_toNat]
    rfl
  · split
    · have hlead := lead?_two (v := c.toNat) (by omega) (by omega)
      have hsecond := Nat.mod_lt c.toNat (show 0 < 64 by decide)
      exact foldlM_step_lead_tail done c (n := 0) (by omega) hlead (by omega) (by omega)
    · split
      · obtain ⟨low, high, hlead, hlow, hhigh⟩ :=
          lead?_three (v := c.toNat) (by omega) (by omega) (by omega)
        exact foldlM_step_lead_tail done c (n := 1) (by omega) hlead hlow hhigh
      · obtain ⟨low, high, hlead, hlow, hhigh⟩ :=
          lead?_four (v := c.toNat) (by omega) (by omega)
        exact foldlM_step_lead_tail done c (n := 2) (by omega) hlead hlow hhigh

/-- The bytes of characters make the decoder read all of them. -/
theorem foldlM_step_encode (done : Array Char) (cs : List Char) :
    (cs.flatMap String.utf8EncodeChar).foldlM step ⟨done, none⟩
      = .ok ⟨done ++ cs, none⟩ := by
  induction cs generalizing done with
  | nil => rfl
  | cons c cs ih =>
    rw [List.flatMap_cons, List.foldlM_append, foldlM_step_encodeChar]
    show (cs.flatMap String.utf8EncodeChar).foldlM step ⟨done.push c, none⟩ = _
    rw [ih]
    simp

/-- A text that was encoded is decoded to itself. -/
theorem decode_encode (text : String) : decode (encode text) = .ok text := by
  unfold decode
  rw [encode_eq_flatMap, foldlM_step_encode]
  show Except.ok (String.ofList (#[] ++ text.toList : Array Char).toList) = _
  simp

/-! ### The byte order mark -/

/-- The character whose bytes are the mark. -/
def markChar : Char := '\uFEFF'

/-- No other character has these bytes. -/
theorem eq_markChar {c : Char} (h : String.utf8EncodeChar c = mark) : c = markChar := by
  have hread : mark.foldlM step ⟨#[], none⟩ = .ok ⟨#[c], none⟩ := by
    rw [← h]
    exact foldlM_step_encodeChar #[] c
  have hmark : mark.foldlM step ⟨#[], none⟩ = .ok ⟨#[markChar], none⟩ :=
    foldlM_step_encodeChar #[] markChar
  rw [hmark] at hread
  cases hread
  rfl

/-- A character has a lead byte. It has three bytes if it starts as the mark does. -/
theorem exists_encodeChar_eq_cons (c : Char) :
    ∃ b rest, String.utf8EncodeChar c = b :: rest ∧ (b = 0xEF → rest.length = 2) := by
  have hvalid : c.toNat < 0xD800 ∨ (0xDFFF < c.toNat ∧ c.toNat < 0x110000) := c.valid
  have hmark {n : Nat} (hn : n < 256) (h : UInt8.ofNat n = 0xEF) : n = 0xEF := by
    rw [← UInt8.toNat_ofNat_of_lt' hn, h]
    rfl
  rw [encodeChar_eq]
  split
  · refine ⟨_, _, rfl, fun h => ?_⟩
    have hb := hmark (by omega) h
    omega
  · split
    · refine ⟨_, _, rfl, fun h => ?_⟩
      have hb := hmark (by omega) h
      omega
    · split
      · exact ⟨_, _, rfl, fun _ => rfl⟩
      · refine ⟨_, _, rfl, fun h => ?_⟩
        have hb := hmark (by omega) h
        omega

/-- A character whose bytes start the mark, or start with it, is the one of the mark. -/
theorem eq_markChar_of_comparable {c : Char}
    (h : String.utf8EncodeChar c <+: mark ∨ mark <+: String.utf8EncodeChar c) : c = markChar := by
  obtain ⟨b, rest, hbytes, hlength⟩ := exists_encodeChar_eq_cons c
  rw [hbytes] at h
  have hb : b = 0xEF := by
    rcases h with h | h
    · exact (List.cons_prefix_cons.mp h).1
    · exact (List.cons_prefix_cons.mp h).1.symm
  have hsame : (b :: rest).length = mark.length := by
    rw [List.length_cons, hlength hb]
    rfl
  refine eq_markChar (hbytes.trans ?_)
  rcases h with h | h
  · exact h.eq_of_length hsame
  · exact (h.eq_of_length hsame.symm).symm

/-- A text without the character of the mark in front is not taken for marked. -/
theorem unmarked_encode {text : String} (h : text.toList.head? ≠ some markChar) :
    unmarked (encode text) = encode text := by
  rw [encode_eq_flatMap]
  cases htext : text.toList with
  | nil => rfl
  | cons c cs =>
    have hc : c ≠ markChar := by
      rw [htext] at h
      exact fun heq => h (congrArg some heq)
    have hfirst : String.utf8EncodeChar c <+: (c :: cs).flatMap String.utf8EncodeChar :=
      List.prefix_append _ _
    have hshort : ¬(c :: cs).flatMap String.utf8EncodeChar <+: mark :=
      fun hprefix => hc (eq_markChar_of_comparable (.inl (hfirst.trans hprefix)))
    have hlong : ¬mark <+: (c :: cs).flatMap String.utf8EncodeChar :=
      fun hprefix => hc (eq_markChar_of_comparable (List.prefix_or_prefix_of_prefix hfirst hprefix))
    rw [unmarked, if_neg (mt List.isPrefixOf_iff_prefix.mp hshort),
      if_neg (mt List.isPrefixOf_iff_prefix.mp hlong)]

/-- A mark in front is taken away. -/
theorem unmarked_mark_append (bytes : List UInt8) : unmarked (mark ++ bytes) = bytes := by
  have hmarked : mark.isPrefixOf (mark ++ bytes) = true :=
    List.isPrefixOf_iff_prefix.mpr (List.prefix_append mark bytes)
  unfold unmarked
  by_cases hshort : (mark ++ bytes).isPrefixOf mark = true
  · -- Nothing stands behind a mark that is no longer than the mark.
    have hlength := (List.isPrefixOf_iff_prefix.mp hshort).length_le
    rw [List.length_append] at hlength
    have hnil : bytes = [] := List.length_eq_zero_iff.mp (by omega)
    rw [if_pos hshort, hnil]
  · rw [if_neg hshort, if_pos hmarked, List.drop_left]

/-- A text without the character of the mark in front is read from its bytes. -/
theorem decodeMarked_encode {text : String} (h : text.toList.head? ≠ some markChar) :
    decodeMarked (encode text) = .ok text := by
  rw [decodeMarked, unmarked_encode h, decode_encode]

/-- Any text is read from its bytes behind a mark. -/
theorem decodeMarked_mark_append (text : String) :
    decodeMarked (mark ++ encode text) = .ok text := by
  rw [decodeMarked, unmarked_mark_append, decode_encode]

end GridWalk.Text.Utf8
