import Mathlib.Data.List.Basic
import SourcePrologue.Text.Utf8

/-!
# Bytes and texts

Reading bytes and writing the text again gives the same bytes, valid or not:

* **`decode_cons`** — how reading goes on: one glyph, whose bytes are the ones that are gone;
* **`encode_decode`** — so every file is written as it was read;
* **`decode_append_ascii`** — an ASCII byte belongs to no longer sequence, so what stands before it
  and what stands behind it are read by themselves.

The other way round a text may change: stray bytes next to each other may make a character.
`recode` is the text that a written text is read as, and a text is **decoded** (`IsDecoded`) if that
is the text itself. What has been read is decoded (`isDecoded_decode`), and so is its end from any
glyph on (`IsDecoded.of_suffix`) and every piece between ASCII characters (`isDecoded_append_ascii`).
-/

namespace SourcePrologue.Utf8

/-! ### Sequences -/

theorem isTail_iff {b : UInt8} : isTail b = true ↔ 0x80 ≤ b.toNat ∧ b.toNat ≤ 0xBF := by
  simp [isTail, UInt8.le_iff_toNat_le]

theorem ofNat_eq {n : Nat} {b : UInt8} (h : n = b.toNat) : UInt8.ofNat n = b := by
  rw [h, UInt8.ofNat_toNat]

theorem toNat_ofNat {n : Nat} (h : n < 0xD800 ∨ 0xDFFF < n ∧ n < 0x110000) :
    (Char.ofNat n).toNat = n := by
  have hvalid : n.isValidChar := h
  rw [show Char.ofNat n = Char.ofNatAux n hvalid from dif_pos hvalid]
  rfl

theorem encodeChar_one {lead : UInt8} (h : lead.toNat < 0x80) :
    encodeChar (Char.ofNat lead.toNat) = [lead] := by
  have hn := toNat_ofNat (n := lead.toNat) (Or.inl (by omega))
  simp only [encodeChar, hn]
  rw [if_pos h, ofNat_eq rfl]

theorem encodeChar_two {lead b : UInt8} (hlead : 0xC2 ≤ lead.toNat ∧ lead.toNat < 0xE0)
    (hb : isTail b = true) :
    encodeChar (Char.ofNat (lead.toNat % 32 * 64 + payload b)) = [lead, b] := by
  rw [isTail_iff] at hb
  rw [payload]
  have hn := toNat_ofNat (n := lead.toNat % 32 * 64 + b.toNat % 64) (Or.inl (by omega))
  simp only [encodeChar, hn]
  rw [if_neg (by omega), if_pos (by omega), ofNat_eq (b := lead) (by omega),
    ofNat_eq (b := b) (by omega)]

theorem encodeChar_three {lead b c : UInt8} (hlead : 0xE0 ≤ lead.toNat ∧ lead.toNat < 0xF0)
    (hb : isTail b = true) (hc : isTail c = true) {n : Nat}
    (hn : n = (lead.toNat % 16 * 64 + payload b) * 64 + payload c) (hmin : 0x800 ≤ n)
    (hvalid : n < 0xD800 ∨ 0xDFFF < n) : encodeChar (Char.ofNat n) = [lead, b, c] := by
  rw [isTail_iff] at hb hc
  rw [payload, payload] at hn
  have hchar := toNat_ofNat (n := n) (by omega)
  simp only [encodeChar, hchar]
  rw [if_neg (by omega), if_neg (by omega), if_pos (by omega), ofNat_eq (b := lead) (by omega),
    ofNat_eq (b := b) (by omega), ofNat_eq (b := c) (by omega)]

theorem encodeChar_four {lead b c d : UInt8} (hlead : 0xF0 ≤ lead.toNat ∧ lead.toNat < 0xF5)
    (hb : isTail b = true) (hc : isTail c = true) (hd : isTail d = true) {n : Nat}
    (hn : n = ((lead.toNat % 8 * 64 + payload b) * 64 + payload c) * 64 + payload d)
    (hmin : 0x10000 ≤ n) (hmax : n ≤ 0x10FFFF) :
    encodeChar (Char.ofNat n) = [lead, b, c, d] := by
  rw [isTail_iff] at hb hc hd
  rw [payload, payload, payload] at hn
  have hchar := toNat_ofNat (n := n) (by omega)
  simp only [encodeChar, hchar]
  rw [if_neg (by omega), if_neg (by omega), if_neg (by omega), ofNat_eq (b := lead) (by omega),
    ofNat_eq (b := b) (by omega), ofNat_eq (b := c) (by omega), ofNat_eq (b := d) (by omega)]

/-- **A sequence is the bytes of its character.** -/
theorem encodeChar_of_sequence? {lead : UInt8} {bytes : List UInt8} {c : Char} {k : Nat}
    (h : sequence? lead bytes = some (c, k)) :
    encodeChar c = lead :: bytes.take k ∧ k ≤ bytes.length := by
  simp only [sequence?, UInt8.lt_iff_toNat_lt, UInt8.reduceToNat] at h
  split at h
  · next hlead =>
    obtain ⟨rfl, rfl⟩ := Prod.mk.inj (Option.some.inj h)
    exact ⟨encodeChar_one hlead, by simp⟩
  · split at h
    · simp at h
    · split at h
      · split at h
        · split at h
          · next hb =>
            obtain ⟨rfl, rfl⟩ := Prod.mk.inj (Option.some.inj h)
            exact ⟨encodeChar_two (by omega) hb, by simp⟩
          · simp at h
        · simp at h
      · split at h
        · split at h
          · split at h
            · next hcond =>
              simp only [Bool.and_eq_true, Bool.or_eq_true, decide_eq_true_eq] at hcond
              obtain ⟨⟨⟨hb, hc⟩, hmin⟩, hvalid⟩ := hcond
              obtain ⟨rfl, rfl⟩ := Prod.mk.inj (Option.some.inj h)
              exact ⟨encodeChar_three (by omega) hb hc rfl hmin hvalid, by simp⟩
            · simp at h
          · simp at h
        · split at h
          · split at h
            · split at h
              · next hcond =>
                simp only [Bool.and_eq_true, decide_eq_true_eq] at hcond
                obtain ⟨⟨⟨⟨hb, hc⟩, hd⟩, hmin⟩, hmax⟩ := hcond
                obtain ⟨rfl, rfl⟩ := Prod.mk.inj (Option.some.inj h)
                exact ⟨encodeChar_four (by omega) hb hc hd rfl hmin hmax, by simp⟩
              · simp at h
            · simp at h
          · simp at h

theorem sequence?_of_ascii {lead : UInt8} (h : lead.toNat < 0x80) (bytes : List UInt8) :
    sequence? lead bytes = some (Char.ofNat lead.toNat, 0) := by
  have hlead : lead < 0x80 := UInt8.lt_iff_toNat_lt.2 h
  simp [sequence?, hlead]

/-- A sequence does not reach over an ASCII byte. -/
theorem sequence?_append_ascii {a : UInt8} (ha : a.toNat < 0x80) (lead : UInt8)
    (u v : List UInt8) : sequence? lead (u ++ a :: v) = sequence? lead u := by
  have htail : isTail a = false := by
    rw [← Bool.not_eq_true, isTail_iff]
    omega
  rcases u with - | ⟨b, - | ⟨c, - | ⟨d, u⟩⟩⟩
  · rcases v with - | ⟨x, - | ⟨y, v⟩⟩ <;> simp [sequence?, htail]
  · rcases v with - | ⟨x, v⟩ <;> simp [sequence?, htail]
  · simp [sequence?, htail]
  · simp [sequence?]

/-! ### Reading glyph by glyph -/

theorem encode_cons (g : Glyph) (t : Text) : encode (g :: t) = encodeGlyph g ++ encode t := rfl

theorem encode_append (s t : Text) : encode (s ++ t) = encode s ++ encode t := List.flatMap_append

theorem decode_of_some {lead : UInt8} {bytes : List UInt8} {c : Char} {k : Nat}
    (h : sequence? lead bytes = some (c, k)) :
    decode (lead :: bytes) = .char c :: decode (bytes.drop k) := by
  rw [decode, decodeAfter, h]
  exact congrArg _ (decodeAfter_eq_drop k bytes)

theorem decode_of_none {lead : UInt8} {bytes : List UInt8} (h : sequence? lead bytes = none) :
    decode (lead :: bytes) = .stray (Fin.ofNat 128 lead.toNat) :: decode bytes := by
  rw [decode, decodeAfter, h]
  rfl

/-- **Reading goes on glyph by glyph**: the bytes of the glyph are the ones that are gone. -/
theorem decode_cons (lead : UInt8) (bytes : List UInt8) : ∃ g rest,
    lead :: bytes = encodeGlyph g ++ rest ∧ rest.length ≤ bytes.length ∧
      decode (lead :: bytes) = g :: decode rest := by
  cases h : sequence? lead bytes with
  | some found =>
    obtain ⟨c, k⟩ := found
    refine ⟨.char c, bytes.drop k, ?_, ?_, decode_of_some h⟩
    · rw [encodeGlyph, (encodeChar_of_sequence? h).1, List.cons_append, List.take_append_drop]
    · rw [List.length_drop]
      omega
  | none =>
    have hhigh : 0x80 ≤ lead.toNat := by
      by_contra hlow
      rw [sequence?_of_ascii (by omega)] at h
      simp at h
    have hlead := lead.toNat_lt
    refine ⟨_, bytes, ?_, Nat.le_refl _, decode_of_none h⟩
    rw [encodeGlyph, Fin.val_ofNat, ofNat_eq (b := lead) (by omega), List.singleton_append]

/-- **Bytes are written as they were read.** -/
theorem encode_decode : ∀ bytes : List UInt8, encode (decode bytes) = bytes
  | [] => rfl
  | lead :: bytes => by
    obtain ⟨g, rest, hbytes, hlength, hdecode⟩ := decode_cons lead bytes
    rw [hdecode, encode_cons, encode_decode rest, hbytes]
termination_by bytes => bytes.length
decreasing_by
  rw [List.length_cons]
  omega

theorem decode_ascii_cons {a : UInt8} (ha : a.toNat < 0x80) (bytes : List UInt8) :
    decode (a :: bytes) = .char (Char.ofNat a.toNat) :: decode bytes :=
  decode_of_some (sequence?_of_ascii ha bytes)

/-- **An ASCII byte is read by itself**, and so is what stands before and behind it. -/
theorem decode_append_ascii {a : UInt8} (ha : a.toNat < 0x80) (v : List UInt8) :
    ∀ u : List UInt8, decode (u ++ a :: v) =
      decode u ++ .char (Char.ofNat a.toNat) :: decode v
  | [] => decode_ascii_cons ha v
  | lead :: u => by
    have hsequence := sequence?_append_ascii ha lead u v
    rw [List.cons_append]
    cases h : sequence? lead u with
    | none =>
      rw [decode_of_none h, decode_of_none (hsequence.trans h), decode_append_ascii ha v u]
      rfl
    | some found =>
      obtain ⟨c, k⟩ := found
      -- the sequence ends before the ASCII byte
      have hk := (encodeChar_of_sequence? h).2
      rw [decode_of_some h, decode_of_some (hsequence.trans h), List.drop_append_of_le_length hk,
        decode_append_ascii ha v (u.drop k)]
      rfl
termination_by u => u.length
decreasing_by
  · simp
  · rw [List.length_drop, List.length_cons]
    omega

/-! ### Writing and reading again -/

/-- The text that a text is read as once it has been written. -/
def recode (t : Text) : Text := decode (encode t)

/-- A text that has been **read**, or could have been: it is read as it is written. -/
def IsDecoded (t : Text) : Prop := recode t = t

/-- The glyphs of ASCII characters. -/
theorem encodeGlyph_ascii {c : Char} (hc : c.toNat < 0x80) :
    encodeGlyph (.char c) = [.ofNat c.toNat] := by
  simp only [encodeGlyph, encodeChar]
  rw [if_pos hc]

theorem toNat_ascii {c : Char} (hc : c.toNat < 0x80) : (UInt8.ofNat c.toNat).toNat = c.toNat := by
  rw [UInt8.toNat_ofNat']
  omega

/-- **An ASCII character stays where it is**, and the texts beside it are read by themselves. -/
theorem recode_append_ascii {c : Char} (hc : c.toNat < 0x80) (s t : Text) :
    recode (s ++ .char c :: t) = recode s ++ .char c :: recode t := by
  have hbyte := toNat_ascii hc
  rw [recode, encode_append, encode_cons, encodeGlyph_ascii hc, List.singleton_append,
    decode_append_ascii (by omega), hbyte, Char.ofNat_toNat]
  rfl

theorem recode_cons_ascii {c : Char} (hc : c.toNat < 0x80) (t : Text) :
    recode (.char c :: t) = .char c :: recode t :=
  recode_append_ascii hc [] t

theorem isDecoded_nil : IsDecoded [] := rfl

/-- What has been read is decoded. -/
theorem isDecoded_decode (bytes : List UInt8) : IsDecoded (decode bytes) := by
  rw [IsDecoded, recode, encode_decode]

/-- No glyph is written without bytes. -/
theorem encodeGlyph_ne_nil (g : Glyph) : encodeGlyph g ≠ [] := by
  cases g with
  | stray high => simp [encodeGlyph]
  | char c =>
    simp only [encodeGlyph, encodeChar]
    split
    · simp
    · split
      · simp
      · split <;> simp

theorem IsDecoded.tail {g : Glyph} {t : Text} (h : IsDecoded (g :: t)) : IsDecoded t := by
  obtain ⟨lead, bytes, hbytes⟩ := List.exists_cons_of_ne_nil
    (List.append_ne_nil_of_left_ne_nil (encodeGlyph_ne_nil g) (encode t))
  obtain ⟨g', rest, hsplit, -, hdecode⟩ := decode_cons lead bytes
  rw [IsDecoded, recode, encode_cons, hbytes, hdecode, List.cons.injEq] at h
  obtain ⟨rfl, hrest⟩ := h
  have hsame : rest = encode t := by
    rw [← hbytes] at hsplit
    exact (List.append_cancel_left hsplit).symm
  rw [IsDecoded, recode, ← hsame, hrest]

theorem IsDecoded.of_suffix {s t : Text} (hst : s <:+ t) (h : IsDecoded t) : IsDecoded s := by
  obtain ⟨r, rfl⟩ := hst
  induction r with
  | nil => exact h
  | cons g r ih => exact ih h.tail

/-- **A text is decoded piece by piece** between its ASCII characters. -/
theorem isDecoded_append_ascii {c : Char} (hc : c.toNat < 0x80) {s t : Text} :
    IsDecoded (s ++ .char c :: t) ↔ IsDecoded s ∧ IsDecoded t := by
  constructor
  · intro h
    have ht : IsDecoded t := (h.of_suffix (List.suffix_append s _)).tail
    rw [IsDecoded, recode_append_ascii hc, ht] at h
    exact ⟨List.append_cancel_right h, ht⟩
  · intro h
    rw [IsDecoded, recode_append_ascii hc, h.1, h.2]

/-! ### ASCII characters among bytes -/

theorem toNat_lt (c : Char) : c.toNat < 0x110000 := by
  rcases c.valid with h | h
  · exact Nat.lt_trans h (by decide)
  · exact h.2

/-- The bytes of a character beyond ASCII are all beyond ASCII. -/
theorem le_of_mem_encodeChar {c : Char} (hc : 0x80 ≤ c.toNat) {b : UInt8}
    (h : b ∈ encodeChar c) : 0x80 ≤ b.toNat := by
  have hbyte : ∀ n : Nat, 0x80 ≤ n → n < 0x100 → 0x80 ≤ (UInt8.ofNat n).toNat := by
    intro n hlow hhigh
    rw [UInt8.toNat_ofNat']
    omega
  have hlt := toNat_lt c
  simp only [encodeChar] at h
  rw [if_neg (by omega)] at h
  split at h
  · simp only [List.mem_cons, List.not_mem_nil, or_false] at h
    rcases h with rfl | rfl <;> exact hbyte _ (by omega) (by omega)
  · split at h
    · simp only [List.mem_cons, List.not_mem_nil, or_false] at h
      rcases h with rfl | rfl | rfl <;> exact hbyte _ (by omega) (by omega)
    · simp only [List.mem_cons, List.not_mem_nil, or_false] at h
      rcases h with rfl | rfl | rfl | rfl <;> exact hbyte _ (by omega) (by omega)

/-- A byte below 128 is an ASCII character and nothing else. -/
theorem eq_ascii_of_mem {g : Glyph} {b : UInt8} (h : b ∈ encodeGlyph g) (hb : b.toNat < 0x80) :
    ∃ c : Char, g = .char c ∧ c.toNat = b.toNat := by
  cases g with
  | stray high =>
    have hhigh := high.isLt
    rw [encodeGlyph, List.mem_singleton] at h
    rw [h, UInt8.toNat_ofNat'] at hb
    omega
  | char c =>
    have hc : c.toNat < 0x80 := by
      by_contra hc
      have hlow := le_of_mem_encodeChar (c := c) (by omega) h
      omega
    rw [encodeGlyph_ascii hc, List.mem_singleton] at h
    exact ⟨c, rfl, by rw [h, toNat_ascii hc]⟩

theorem mem_encodeGlyph_ascii {c : Char} (hc : c.toNat < 0x80) {g : Glyph} :
    UInt8.ofNat c.toNat ∈ encodeGlyph g ↔ g = .char c := by
  constructor
  · intro h
    obtain ⟨d, rfl, hd⟩ := eq_ascii_of_mem h (by rw [toNat_ascii hc]; exact hc)
    rw [toNat_ascii hc, Char.toNat_inj] at hd
    rw [hd]
  · rintro rfl
    rw [encodeGlyph_ascii hc, List.mem_singleton]

/-- The ASCII characters of a text are those bytes below 128. -/
theorem mem_encode_ascii {c : Char} (hc : c.toNat < 0x80) {t : Text} :
    UInt8.ofNat c.toNat ∈ encode t ↔ .char c ∈ t := by
  rw [encode, List.mem_flatMap]
  constructor
  · intro h
    obtain ⟨g, hg, hb⟩ := h
    rwa [← (mem_encodeGlyph_ascii hc).1 hb]
  · intro h
    exact ⟨_, h, (mem_encodeGlyph_ascii hc).2 rfl⟩

theorem head?_encode_ascii {c : Char} (hc : c.toNat < 0x80) {t : Text} :
    (encode t).head? = some (UInt8.ofNat c.toNat) ↔ t.head? = some (.char c) := by
  cases t with
  | nil => simp [encode]
  | cons g t =>
    obtain ⟨b, bytes, hbytes⟩ := List.exists_cons_of_ne_nil (encodeGlyph_ne_nil g)
    rw [encode_cons, hbytes, List.cons_append, List.head?_cons, List.head?_cons, Option.some.injEq,
      Option.some.injEq]
    constructor
    · intro hb
      rw [← mem_encodeGlyph_ascii hc, hbytes, hb]
      exact List.mem_cons_self
    · rintro rfl
      rw [encodeGlyph_ascii hc] at hbytes
      exact (List.cons.inj hbytes).1.symm

theorem getLast?_encode_ascii {c : Char} (hc : c.toNat < 0x80) {t : Text} :
    (encode t).getLast? = some (UInt8.ofNat c.toNat) ↔ t.getLast? = some (.char c) := by
  rcases List.eq_nil_or_concat' t with rfl | ⟨s, g, rfl⟩
  · simp [encode]
  · have hglyph : encode (s ++ [g]) = encode s ++ encodeGlyph g := by
      rw [encode_append, encode_cons]
      exact congrArg _ (List.append_nil _)
    rw [hglyph, List.getLast?_append_of_ne_nil _ (encodeGlyph_ne_nil g), List.getLast?_concat,
      Option.some.injEq]
    constructor
    · intro hb
      exact (mem_encodeGlyph_ascii hc).1 (List.mem_of_getLast? hb)
    · rintro rfl
      rw [encodeGlyph_ascii hc]
      rfl

/-- What is written is what was written before, once it has been read. -/
theorem encode_recode (t : Text) : encode (recode t) = encode t := encode_decode (encode t)

theorem head?_recode_ascii {c : Char} (hc : c.toNat < 0x80) {t : Text} :
    (recode t).head? = some (.char c) ↔ t.head? = some (.char c) := by
  rw [← head?_encode_ascii hc, ← head?_encode_ascii hc, encode_recode]

/-- Writing and reading makes no ASCII character and loses none. -/
theorem mem_recode_ascii {c : Char} (hc : c.toNat < 0x80) {t : Text} :
    .char c ∈ recode t ↔ .char c ∈ t := by
  rw [← mem_encode_ascii hc, ← mem_encode_ascii hc, encode_recode]

end SourcePrologue.Utf8
