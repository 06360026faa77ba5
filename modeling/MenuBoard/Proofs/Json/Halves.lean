import MenuBoard.Json.Reader
import MenuBoard.Proofs.Except

/-!
Characters that are written as escapes.

An escape gives the code of a character, or half of one, and then the escape behind it gives the other half. Nothing keeps a
text from writing a half alone. No character has such a code, so the reader puts another one in its place, and what is read
is not what was sent.

`NoLoneHalf` says of a text that each of its escapes is for a character. A string in such a text is read as what it spells
(`spells_of_textBody`): `Spells` says what that is without the reader, and leaves nothing to be replaced.
-/

namespace MenuBoard.Json

/-- The digits behind `\u` are the code of a character, or one half of it, with the other half in the escape that follows. -/
inductive Encodes : (digits : List Char) → (c : Char) → (rest : List Char) → Prop where
  | alone {digits rest : List Char} {c : Char} (hcode : hex4? digits = some (c.toNat, rest)) : Encodes digits c rest
  | pair {digits more rest : List Char} {c : Char} {high low : Nat} (hhigh : hex4? digits = some (high, '\\' :: 'u' :: more))
    (hlow : hex4? more = some (low, rest)) (first : 0xd800 ≤ high ∧ high < 0xdc00) (second : 0xdc00 ≤ low ∧ low < 0xe000)
    (hcode : c.toNat = 0x10000 + (high - 0xd800) * 0x400 + (low - 0xdc00)) : Encodes digits c rest

/-- Every code that the text escapes is that of a character. -/
inductive NoLoneHalf : (text : List Char) → Prop where
  | nil : NoLoneHalf []
  | plain {c : Char} {text : List Char} (hc : c ≠ '\\') (h : NoLoneHalf text) : NoLoneHalf (c :: text)
  | short {c : Char} {text : List Char} (hc : c ≠ 'u') (h : NoLoneHalf text) : NoLoneHalf ('\\' :: c :: text)
  | code {digits rest : List Char} {c : Char} (hc : Encodes digits c rest) (h : NoLoneHalf rest) :
    NoLoneHalf ('\\' :: 'u' :: digits)

/-- A text up to the closing quote spells these characters, and this is left behind the quote. -/
inductive Spells : (text chars rest : List Char) → Prop where
  | close (rest : List Char) : Spells ('"' :: rest) [] rest
  | plain {c : Char} {text chars rest : List Char} (hc : c ≠ '"' ∧ c ≠ '\\') (h : Spells text chars rest) :
    Spells (c :: text) (c :: chars) rest
  | short {c d : Char} {text chars rest : List Char} (hc : shortEscape? c = some d) (h : Spells text chars rest) :
    Spells ('\\' :: c :: text) (d :: chars) rest
  | code {digits text chars rest : List Char} {c : Char} (hc : Encodes digits c text) (h : Spells text chars rest) :
    Spells ('\\' :: 'u' :: digits) (c :: chars) rest

theorem noLoneHalf_of_all {text : List Char} (h : text.all (· != '\\') = true) : NoLoneHalf text := by
  induction text with
  | nil => exact .nil
  | cons c text ih =>
    rw [List.all_cons, Bool.and_eq_true] at h
    exact .plain (bne_iff_ne.1 h.1) (ih h.2)

theorem length_of_hex4? {digits rest : List Char} {n : Nat} (h : hex4? digits = some (n, rest)) :
    digits.length = rest.length + 4 := by
  unfold hex4? at h
  split at h
  · simp only [bind, Option.bind_eq_some_iff, pure, Option.some.injEq, Prod.mk.injEq] at h
    obtain ⟨-, -, -, -, -, -, -, -, -, rfl⟩ := h
    rfl
  · cases h

/-- No character has the code of a half. -/
theorem toNat_not_half (c : Char) : ¬ (0xd800 ≤ c.toNat ∧ c.toNat < 0xe000) := by
  have hvalid : c.toNat < 0xd800 ∨ 0xdfff < c.toNat ∧ c.toNat < 0x110000 := c.valid
  omega

section Reading

variable {digits text rest : List Char} {c : Char}

theorem Encodes.unicodeEscape_eq (h : Encodes digits c text) (htext : text ≠ []) (atEscape : List Char) :
    unicodeEscape atEscape digits = .ok (c, text) := by
  have hpos : 0 < text.length := List.length_pos_iff.2 htext
  cases h with
  | alone hcode =>
    have hlength := length_of_hex4? hcode
    have hhalf := toNat_not_half c
    unfold unicodeEscape
    rw [if_neg (by omega), hcode]
    simp only
    rw [if_neg (by omega), if_neg (by omega), Char.ofNat_toNat]
  | pair hhigh hlow first second hcode =>
    have hlength := length_of_hex4? hhigh
    have hmore := length_of_hex4? hlow
    simp only [List.length_cons] at hlength
    unfold unicodeEscape
    rw [if_neg (by omega), hhigh]
    simp only [if_pos first]
    rw [if_neg (by omega), hlow]
    simp only [if_pos second, ← hcode, Char.ofNat_toNat]

/-- Right behind four digits a text is not at its end, for it is not closed. -/
theorem textBody_code_ne_ok (h : digits.length = 4) (opening rounds : Nat) (done : List Char) (s : String) :
    textBody opening rounds done ('\\' :: 'u' :: digits) ≠ .ok (s, rest) := by
  intro hread
  cases rounds with
  | zero => cases hread
  | succ rounds =>
    unfold textBody at hread
    obtain ⟨_, hescape, -⟩ := bind_eq_ok.1 hread
    unfold unicodeEscape at hescape
    rw [if_pos (by omega)] at hescape
    cases hescape

theorem Encodes.textBody_eq (h : Encodes digits c text) {opening rounds : Nat} {done : List Char} {s : String}
    (hread : textBody opening (rounds + 1) done ('\\' :: 'u' :: digits) = .ok (s, rest)) :
    textBody opening rounds (c :: done) text = .ok (s, rest) := by
  unfold textBody at hread
  obtain ⟨⟨d, left⟩, hescape, hread⟩ := bind_eq_ok.1 hread
  by_cases htext : text = []
  · -- the first half of a pair would be replaced then, and the second one is at the end
    subst htext
    cases h with
    | alone hcode =>
      have hlength : digits.length = 4 := length_of_hex4? hcode
      unfold unicodeEscape at hescape
      rw [if_pos (by omega)] at hescape
      cases hescape
    | pair hhigh hlow first second hcode =>
      have hlength := length_of_hex4? hhigh
      have hmore := length_of_hex4? hlow
      simp only [List.length_cons, List.length_nil] at hlength hmore
      unfold unicodeEscape at hescape
      rw [if_neg (by omega), hhigh] at hescape
      simp only [if_pos first] at hescape
      rw [if_pos (by omega)] at hescape
      cases hescape
      exact absurd hread (textBody_code_ne_ok hmore _ _ _ _)
  · rw [h.unicodeEscape_eq htext] at hescape
    cases hescape
    exact hread

theorem textBody_short {c : Char} (hc : c ≠ 'u') {opening rounds : Nat} {done : List Char} {s : String}
    (hread : textBody opening (rounds + 1) done ('\\' :: c :: text) = .ok (s, rest)) :
    ∃ d, shortEscape? c = some d ∧ textBody opening rounds (d :: done) text = .ok (s, rest) := by
  unfold textBody at hread
  split at hread
  · cases hread
  · next heq => cases heq
  · cases hread
  · next heq => exact absurd (List.cons.inj (List.cons.inj heq).2).1 hc
  · next heq =>
    cases heq
    split at hread
    · next d hshort => exact ⟨d, hshort, hread⟩
    · cases hread
  · next hescape heq =>
    cases heq
    exact (hescape _ _ rfl rfl).elim

theorem textBody_plain {c : Char} (hc : c ≠ '"' ∧ c ≠ '\\') {opening rounds : Nat} {done : List Char} {s : String}
    (hread : textBody opening (rounds + 1) done (c :: text) = .ok (s, rest)) :
    textBody opening rounds (c :: done) text = .ok (s, rest) := by
  unfold textBody at hread
  split at hread
  · cases hread
  · next heq => exact absurd (List.cons.inj heq).1 hc.1
  · next heq => exact absurd (List.cons.inj heq).1 hc.2
  · next heq => exact absurd (List.cons.inj heq).1 hc.2
  · next heq => exact absurd (List.cons.inj heq).1 hc.2
  · next heq =>
    cases heq
    split at hread
    · cases hread
    · exact hread

/-- **A string is read as what it spells**, in a text without a lone half, and there is none in what is left of the text. -/
theorem spells_of_textBody {opening rounds : Nat} {done : List Char} {s : String} (htext : NoLoneHalf text)
    (hread : textBody opening rounds done text = .ok (s, rest)) :
    NoLoneHalf rest ∧ ∃ chars, s = String.ofList (done.reverse ++ chars) ∧ Spells text chars rest := by
  induction rounds generalizing done text with
  | zero => cases hread
  | succ rounds ih =>
    cases htext with
    | nil => cases hread
    | @plain c left hc hleft =>
      by_cases hquote : c = '"'
      · subst hquote
        cases hread
        exact ⟨hleft, [], by simp, .close rest⟩
      · obtain ⟨hrest, chars, rfl, hspells⟩ := ih hleft (textBody_plain ⟨hquote, hc⟩ hread)
        exact ⟨hrest, c :: chars, by simp, .plain ⟨hquote, hc⟩ hspells⟩
    | short hc hleft =>
      obtain ⟨d, hshort, hread⟩ := textBody_short hc hread
      obtain ⟨hrest, chars, rfl, hspells⟩ := ih hleft hread
      exact ⟨hrest, d :: chars, by simp, .short hshort hspells⟩
    | @code digits left c hc hleft =>
      obtain ⟨hrest, chars, rfl, hspells⟩ := ih hleft (hc.textBody_eq hread)
      exact ⟨hrest, c :: chars, by simp, .code hc hspells⟩

end Reading

end MenuBoard.Json
