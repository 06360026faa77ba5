/-!
Blanks and white space.

Between the words of a phrase only spaces and tabs are blank (`isBlank`). White space of a text at large (`isSpace`) has
twenty-nine members. `words` cuts a text at white space, `trim` takes it off both ends, and `pieces` cuts at any kind of
separator; a cut loses nothing but the separators (`pieces_append_cons`).
-/

namespace MenuBoard.Text

/-- insignificant between the words of a phrase: a space or a tab -/
def isBlank (c : Char) : Bool := c == ' ' || c == '\t'

/-- white space of any script, and the four separators U+001C to U+001F -/
def isSpace (c : Char) : Bool :=
  let n := c.toNat
  (0x09 ≤ n && n ≤ 0x0d) || (0x1c ≤ n && n ≤ 0x20) || n == 0x85 || n == 0xa0 || n == 0x1680 ||
    (0x2000 ≤ n && n ≤ 0x200a) || n == 0x2028 || n == 0x2029 || n == 0x202f || n == 0x205f || n == 0x3000

/-- the text after its leading spaces and tabs -/
def dropBlanks (text : List Char) : List Char := text.dropWhile isBlank

/-- the text without the characters at its two ends that satisfy `p` -/
def trimBy (p : Char → Bool) (text : List Char) : List Char :=
  ((text.dropWhile p).reverse.dropWhile p).reverse

/-- the text without white space at its two ends -/
def trim (text : List Char) : List Char := trimBy isSpace text

/-- the pieces between the characters that satisfy `p`, empty ones included -/
def pieces (p : Char → Bool) : List Char → List (List Char)
  | [] => [[]]
  | c :: cs =>
    if p c then [] :: pieces p cs
    else match pieces p cs with
      | [] => [[c]]
      | w :: ws => (c :: w) :: ws

/-- the runs of characters between white space -/
def words (text : List Char) : List (List Char) := (pieces isSpace text).filter fun w => !w.isEmpty

theorem isSpace_of_isBlank {c : Char} (h : isBlank c = true) : isSpace c = true := by
  simp only [isBlank, Bool.or_eq_true, beq_iff_eq] at h
  rcases h with rfl | rfl <;> decide

theorem pieces_ne_nil (p : Char → Bool) (cs : List Char) : pieces p cs ≠ [] := by
  induction cs with
  | nil => simp [pieces]
  | cons c cs ih =>
    unfold pieces
    split
    · simp
    · cases hp : pieces p cs <;> simp

theorem not_mem_of_mem_pieces {p : Char → Bool} {cs w : List Char} (h : w ∈ pieces p cs) : ∀ c ∈ w, p c = false := by
  induction cs generalizing w with
  | nil => simp [pieces] at h; simp [h]
  | cons c cs ih =>
    unfold pieces at h
    split at h
    · rcases List.mem_cons.1 h with rfl | h
      · simp
      · exact ih h
    · next hc =>
      cases hp : pieces p cs with
      | nil => exact absurd hp (pieces_ne_nil p cs)
      | cons w' ws =>
        rw [hp] at h ih
        rcases List.mem_cons.1 h with rfl | h
        · rintro d hd
          rcases List.mem_cons.1 hd with rfl | hd
          · simpa using hc
          · exact ih (List.mem_cons_self ..) d hd
        · exact ih (List.mem_cons_of_mem _ h)

theorem exists_mem_pieces {p : Char → Bool} {c : Char} (hc : p c = false) {text : List Char} (h : c ∈ text) :
    ∃ w ∈ pieces p text, c ∈ w := by
  induction text with
  | nil => cases h
  | cons d text ih =>
    by_cases hd : p d = true
    · have htext : c ∈ text := by
        rcases List.mem_cons.1 h with rfl | htext
        · rw [hc] at hd
          cases hd
        · exact htext
      obtain ⟨w, hw, hmem⟩ := ih htext
      refine ⟨w, ?_, hmem⟩
      rw [pieces, if_pos hd]
      exact List.mem_cons_of_mem _ hw
    · cases hp : pieces p text with
      | nil => exact absurd hp (pieces_ne_nil p text)
      | cons first ws =>
        rw [pieces, if_neg hd, hp]
        rcases List.mem_cons.1 h with rfl | htext
        · exact ⟨c :: first, List.mem_cons_self, List.mem_cons_self⟩
        · obtain ⟨w, hw, hmem⟩ := ih htext
          rw [hp] at hw
          rcases List.mem_cons.1 hw with rfl | hw
          · exact ⟨d :: w, List.mem_cons_self, List.mem_cons_of_mem d hmem⟩
          · exact ⟨w, List.mem_cons_of_mem _ hw, hmem⟩

/-- A separator cuts a text in two, whatever stands around it. -/
theorem pieces_append_cons {p : Char → Bool} {c : Char} (hc : p c = true) (a b : List Char) :
    pieces p (a ++ c :: b) = pieces p a ++ pieces p b := by
  induction a with
  | nil => simp [pieces, hc]
  | cons d a ih =>
    simp only [List.cons_append, pieces, ih]
    split
    · rfl
    · cases hp : pieces p a with
      | nil => exact absurd hp (pieces_ne_nil p a)
      | cons w ws => rfl

theorem pieces_append {p : Char → Bool} {a b w : List Char} {ws : List (List Char)} (ha : ∀ c ∈ a, p c = false)
    (hb : pieces p b = w :: ws) : pieces p (a ++ b) = (a ++ w) :: ws := by
  induction a with
  | nil => exact hb
  | cons c a ih =>
    rw [List.cons_append, pieces, ha c List.mem_cons_self, ih fun d hd => ha d (List.mem_cons_of_mem c hd)]
    rfl

/-- A text without a separator is one piece. -/
theorem pieces_eq_singleton {p : Char → Bool} {cs : List Char} (h : ∀ c ∈ cs, p c = false) : pieces p cs = [cs] := by
  have hone := pieces_append (b := []) h rfl
  simpa using hone

end MenuBoard.Text
