import Mathlib.Data.List.Basic
import SourcePrologue.Text.Lines

/-!
# Words

The words of a text and the text of words are inverse to each other as long as the words have
glyphs and none of these is blank:

* **`words_append_blank`** — words split at a blank, from which the rest follows;
* **`words_cons`** — where the first word begins;
* **`mem_words`** — what a word is made of;
* **`words_unwords`** — words that were written with single spaces are read back;
* **`collapse`** — a text with single spaces for its white space, which has the same words.
-/

namespace SourcePrologue.Text

/-- A word: a text with glyphs none of which is blank. -/
def IsSolid (w : Text) : Prop := w ≠ [] ∧ ∀ g ∈ w, g.isBlank = false

instance (w : Text) : Decidable (IsSolid w) :=
  inferInstanceAs (Decidable (w ≠ [] ∧ ∀ g ∈ w, g.isBlank = false))

theorem splitOn_eq_singleton {p : Glyph → Bool} {t : Text} (h : ∀ g ∈ t, p g = false) :
    splitOn p t = [t] := by
  induction t with
  | nil => rfl
  | cons g t ih =>
    rw [splitOn, h g List.mem_cons_self, ih fun x hx => h x (List.mem_cons_of_mem g hx)]
    simp

theorem splitOn_cons_of_neg {p : Glyph → Bool} {g : Glyph} (h : p g = false) (t : Text) :
    ∃ piece pieces, splitOn p t = piece :: pieces ∧
      splitOn p (g :: t) = (g :: piece) :: pieces := by
  obtain ⟨piece, pieces, hs⟩ := List.exists_cons_of_ne_nil (splitOn_ne_nil p t)
  exact ⟨piece, pieces, hs, by rw [splitOn, hs]; simp [h]⟩

/-- A piece holds no separator and nothing that is not in the text. -/
theorem mem_splitOn {p : Glyph → Bool} {t piece : Text} (h : piece ∈ splitOn p t) :
    ∀ g ∈ piece, p g = false ∧ g ∈ t := by
  induction t generalizing piece with
  | nil =>
    rw [splitOn, List.mem_singleton] at h
    simp [h]
  | cons g t ih =>
    by_cases hg : p g = true
    · rw [splitOn, if_pos hg, List.mem_cons] at h
      rcases h with rfl | h
      · simp
      · intro x hx
        exact ⟨(ih h x hx).1, List.mem_cons_of_mem g (ih h x hx).2⟩
    · rw [Bool.not_eq_true] at hg
      obtain ⟨first, pieces, hs, hcons⟩ := splitOn_cons_of_neg hg t
      rw [hcons, List.mem_cons] at h
      intro x hx
      rcases h with rfl | h
      · rcases List.mem_cons.1 hx with rfl | hx
        · exact ⟨hg, List.mem_cons_self⟩
        · have := ih (hs ▸ List.mem_cons_self) x hx
          exact ⟨this.1, List.mem_cons_of_mem g this.2⟩
      · have := ih (hs ▸ List.mem_cons_of_mem first h) x hx
        exact ⟨this.1, List.mem_cons_of_mem g this.2⟩

theorem mem_words {t w : Text} (h : w ∈ words t) : IsSolid w ∧ ∀ g ∈ w, g ∈ t := by
  obtain ⟨hw, hne⟩ := List.mem_filter.1 h
  refine ⟨⟨?_, fun g hg => (mem_splitOn hw g hg).1⟩, fun g hg => (mem_splitOn hw g hg).2⟩
  rintro rfl
  simp at hne

theorem words_of_isSolid {w : Text} (h : IsSolid w) : words w = [w] := by
  rw [words, splitOn_eq_singleton h.2]
  simp [h.1]

/-- **Words split at a blank.** -/
theorem words_append_blank {w : Text} (hw : IsSolid w) {g : Glyph} (hg : g.isBlank = true)
    (t : Text) : words (w ++ g :: t) = w :: words t := by
  rw [words, splitOn_append_cons hw.2 hg, List.filter_cons, if_pos (by simp [hw.1])]
  rfl

/-- A text that does not begin with a blank begins with its first word. -/
theorem words_cons {g : Glyph} (hg : g.isBlank = false) (t : Text) :
    ∃ piece rest, words (g :: t) = (g :: piece) :: rest := by
  obtain ⟨piece, pieces, -, hsplit⟩ := splitOn_cons_of_neg (p := Glyph.isBlank) hg t
  refine ⟨piece, pieces.filter (!·.isEmpty), ?_⟩
  rw [words, hsplit]
  rfl

theorem words_cons_of_isBlank {g : Glyph} (hg : g.isBlank = true) (t : Text) :
    words (g :: t) = words t := by
  rw [words, splitOn, if_pos hg]
  rfl

/-- Only blank texts have no word. -/
theorem words_eq_nil_iff {t : Text} : words t = [] ↔ t.isBlank = true := by
  induction t with
  | nil => exact iff_of_true rfl rfl
  | cons g t ih =>
    by_cases hg : g.isBlank = true
    · rw [words_cons_of_isBlank hg, ih, isBlank, isBlank, List.all_cons, hg, Bool.true_and]
    · rw [Bool.not_eq_true] at hg
      obtain ⟨piece, rest, hwords⟩ := words_cons hg t
      rw [hwords, isBlank, List.all_cons, hg]
      exact iff_of_false (List.cons_ne_nil _ _) Bool.false_ne_true

theorem splitOn_append {p : Glyph → Bool} {g : Glyph} (hg : p g = true) (s t : Text) :
    splitOn p (s ++ g :: t) = splitOn p s ++ splitOn p t := by
  induction s with
  | nil => simp [splitOn, hg]
  | cons a s ih =>
    rw [List.cons_append]
    by_cases ha : p a = true
    · rw [splitOn, splitOn, if_pos ha, if_pos ha, ih, List.cons_append]
    · rw [Bool.not_eq_true] at ha
      obtain ⟨piece, pieces, hs, hcons⟩ := splitOn_cons_of_neg ha s
      rw [hcons, splitOn, ih, hs]
      simp [ha]

/-- The words before a blank and the words behind it. -/
theorem words_append {g : Glyph} (hg : g.isBlank = true) (s t : Text) :
    words (s ++ g :: t) = words s ++ words t := by
  rw [words, splitOn_append hg, List.filter_append]
  rfl

theorem length_le_of_mem_splitOn {p : Glyph → Bool} {t piece : Text} (h : piece ∈ splitOn p t) :
    piece.length ≤ t.length := by
  induction t generalizing piece with
  | nil =>
    rw [splitOn, List.mem_singleton] at h
    simp [h]
  | cons g t ih =>
    rw [List.length_cons]
    by_cases hg : p g = true
    · rw [splitOn, if_pos hg, List.mem_cons] at h
      rcases h with rfl | h
      · exact Nat.zero_le _
      · exact Nat.le_succ_of_le (ih h)
    · rw [Bool.not_eq_true] at hg
      obtain ⟨first, pieces, hs, hcons⟩ := splitOn_cons_of_neg hg t
      rw [hcons, List.mem_cons] at h
      rcases h with rfl | h
      · exact Nat.succ_le_succ (ih (hs ▸ List.mem_cons_self))
      · exact Nat.le_succ_of_le (ih (hs ▸ List.mem_cons_of_mem first h))

/-- A word is no longer than the text it stands in. -/
theorem length_le_of_mem_words {t w : Text} (h : w ∈ words t) : w.length ≤ t.length :=
  length_le_of_mem_splitOn (List.mem_filter.1 h).1

theorem unwords_cons_cons (w v : Text) (ws : List Text) :
    unwords (w :: v :: ws) = w ++ .char ' ' :: unwords (v :: ws) := by
  simp [unwords, join, ofChar]

theorem unwords_ne_nil : ∀ {ws : List Text}, ws ≠ [] → (∀ w ∈ ws, w ≠ []) → unwords ws ≠ []
  | [], h, _ => absurd rfl h
  | [w], _, hne => hne w List.mem_cons_self
  | w :: v :: ws, _, _ => by
    rw [unwords_cons_cons]
    simp

/-- Texts in two rows, the second of which goes on after a space. -/
theorem unwords_append : ∀ {ws vs : List Text}, ws ≠ [] → vs ≠ [] →
    unwords (ws ++ vs) = unwords ws ++ .char ' ' :: unwords vs
  | [], _, h, _ => absurd rfl h
  | [w], v :: vs, _, _ => unwords_cons_cons w v vs
  | [w], [], _, h => absurd rfl h
  | w :: u :: ws, vs, _, h => by
    have hrest : unwords (u :: ws ++ vs) = unwords (u :: ws) ++ .char ' ' :: unwords vs :=
      unwords_append (List.cons_ne_nil u ws) h
    rw [List.cons_append, List.cons_append, unwords_cons_cons, ← List.cons_append, hrest,
      unwords_cons_cons, List.append_assoc, List.cons_append]

/-- Groups of words, each written with single spaces, and then in a row. -/
theorem unwords_map_unwords : ∀ {groups : List (List Text)}, (∀ group ∈ groups, group ≠ []) →
    unwords (groups.map unwords) = unwords groups.flatten
  | [], _ => rfl
  | [group], _ => by
    rw [List.flatten_singleton]
    rfl
  | group :: next :: groups, hne => by
    have hrest := unwords_map_unwords fun g hg => hne g (List.mem_cons_of_mem group hg)
    have hnext : (next :: groups).flatten ≠ [] := fun hnil =>
      hne next (by simp) (List.flatten_eq_nil_iff.1 hnil next List.mem_cons_self)
    have hflat : (group :: next :: groups).flatten = group ++ (next :: groups).flatten := rfl
    rw [hflat, unwords_append (hne group List.mem_cons_self) hnext, ← hrest]
    exact unwords_cons_cons _ _ _

/-- The words of texts in a row are those of the texts. -/
theorem words_unwords_eq_flatMap : ∀ ts : List Text, words (unwords ts) = ts.flatMap words
  | [] => rfl
  | [t] => (List.flatMap_singleton words t).symm
  | t :: u :: ts => by
    have hspace : (Glyph.char ' ').isBlank = true := by decide
    rw [unwords_cons_cons, words_append hspace, words_unwords_eq_flatMap (u :: ts)]
    rfl

/-- **Written words are read back.** -/
theorem words_unwords : ∀ {ws : List Text}, (∀ w ∈ ws, IsSolid w) → words (unwords ws) = ws
  | [], _ => rfl
  | [w], h => words_of_isSolid (h w List.mem_cons_self)
  | w :: v :: ws, h => by
    have hspace : (Glyph.char ' ').isBlank = true := by decide
    rw [unwords_cons_cons, words_append_blank (h w List.mem_cons_self) hspace,
      words_unwords fun u hu => h u (List.mem_cons_of_mem w hu)]

/-- A text with a single space for each run of white space, and none at its ends. -/
def collapse (t : Text) : Text := unwords t.words

theorem words_collapse (t : Text) : (collapse t).words = t.words :=
  words_unwords fun _ hw => (mem_words hw).1

/-- The glyphs of texts in a row are those of the texts and of the separators between them. -/
theorem mem_join {separator : Text} : ∀ {ts : List Text} {g : Glyph}, g ∈ join separator ts →
    g ∈ separator ∨ ∃ t ∈ ts, g ∈ t
  | [], g, h => by simp [join] at h
  | [t], g, h => Or.inr ⟨t, List.mem_cons_self, h⟩
  | t :: u :: ts, g, h => by
    rw [join, List.mem_append, List.mem_append] at h
    · rcases h with (h | h) | h
      · exact Or.inr ⟨t, List.mem_cons_self, h⟩
      · exact Or.inl h
      · rcases mem_join h with h | ⟨v, hv, hg⟩
        · exact Or.inl h
        · exact Or.inr ⟨v, List.mem_cons_of_mem t hv, hg⟩
    · exact List.cons_ne_nil u ts

/-- The glyphs of written words are those of the words and the spaces between them. -/
theorem mem_unwords {ws : List Text} {g : Glyph} (h : g ∈ unwords ws) :
    g = .char ' ' ∨ ∃ w ∈ ws, g ∈ w :=
  (mem_join h).imp_left List.mem_singleton.1

theorem length_join_le {c : Char} {n : Nat} : ∀ {ts : List Text}, (∀ t ∈ ts, t.length ≤ n) →
    (join (ofChar c) ts).length ≤ (n + 1) * ts.length
  | [], _ => Nat.zero_le _
  | [t], h => by
    have ht := h t List.mem_cons_self
    rw [List.length_singleton, Nat.mul_one]
    exact Nat.le_succ_of_le ht
  | t :: u :: ts, h => by
    obtain ⟨ht, hrest⟩ := List.forall_mem_cons.1 h
    have hlength := length_join_le (c := c) hrest
    have hseparator : (ofChar c).length = 1 := rfl
    rw [join, List.length_append, List.length_append, List.length_cons (a := t), Nat.mul_succ]
    · omega
    · exact List.cons_ne_nil u ts

/-- **Texts without the separator between them are taken apart again.** -/
theorem splitOn_join {c : Char} : ∀ {ts : List Text}, ts ≠ [] → (∀ t ∈ ts, Glyph.char c ∉ t) →
    splitOn (· == .char c) (join (ofChar c) ts) = ts
  | [], h, _ => absurd rfl h
  | [t], _, hts => by
    apply splitOn_eq_singleton
    intro g hg
    rw [beq_eq_false_iff_ne]
    rintro rfl
    exact hts t List.mem_cons_self hg
  | t :: u :: ts, _, hts => by
    obtain ⟨ht, hrest⟩ := List.forall_mem_cons.1 hts
    have hpieces := splitOn_join (List.cons_ne_nil u ts) hrest
    have hpiece : ∀ g ∈ t, (g == Glyph.char c) = false := by
      intro g hg
      rw [beq_eq_false_iff_ne]
      rintro rfl
      exact ht hg
    rw [join, ofChar, List.append_assoc, List.singleton_append,
      splitOn_append_cons hpiece (beq_self_eq_true _)]
    · exact congrArg (t :: ·) hpieces
    · exact List.cons_ne_nil u ts

/-- Written words end as the last of them does. -/
theorem getLast?_unwords : ∀ {ws : List Text}, (∀ w ∈ ws, w ≠ []) →
    ∀ g, (unwords ws).getLast? = some g → ∃ w ∈ ws, w.getLast? = some g
  | [], _, g, h => by simp [unwords, join] at h
  | [w], _, g, h => ⟨w, List.mem_cons_self, h⟩
  | w :: v :: ws, hne, g, h => by
    have hrest : unwords (v :: ws) ≠ [] := by
      cases ws with
      | nil => exact hne v (by simp)
      | cons u ws => rw [unwords_cons_cons]; simp
    rw [unwords_cons_cons, List.getLast?_append_of_ne_nil w (by simp),
      List.getLast?_cons_of_ne_nil hrest] at h
    obtain ⟨u, hu, hg⟩ := getLast?_unwords (fun u hu => hne u (List.mem_cons_of_mem w hu)) g h
    exact ⟨u, List.mem_cons_of_mem w hu, hg⟩

end SourcePrologue.Text
