import MenuBoard.Proofs.Phrase.Concatenation
import MenuBoard.Proofs.Phrase.Reach

/-!
The part of a rejected phrase that can be read.

`ReadsUpTo` follows the readers clause by clause up to where they are stuck. The clauses before that are those of the text
before it, read by itself (`ReadsUpTo.exists_front`). And no text that the phrase begins with and that can be read by itself
is longer, if it ends in no word's middle (`ReadsUpTo.length_le`): where it has another clause the readers read the same
one, and the last one they read as far at least. So a rejected phrase has a greatest part that can be read, `CompletePart`,
and it ends where the readers are stuck (`exists_completePart`).
-/

namespace MenuBoard.Phrase

open MenuBoard.Text

/-! ## Cuts -/

/-- No word goes over the cut between two texts. -/
def CutsNoWord (front back : List Char) : Prop := EndsInWord front → atWordEnd back = true

theorem CutsNoWord.of_append {front back left : List Char} (h : CutsNoWord (front ++ back) left) :
    CutsNoWord back left := fun hback => h (hback.append front)

theorem atWordEnd_of_append {front back : List Char} (h : atWordEnd (front ++ back) = true) : atWordEnd front = true := by
  cases front with
  | nil => rfl
  | cons c front => exact h

/-- A word may end behind a clause and its blanks, if the cut behind them cuts no word. -/
theorem atWordEnd_of_cutsNoWord {front gap left : List Char} (hfront : EndsInWord front) (hgap : Blank gap)
    (h : CutsNoWord (front ++ gap) left) : atWordEnd (gap ++ left) = true := by
  by_cases hne : gap = []
  · subst hne
    rw [List.append_nil] at h
    exact h hfront
  · exact atWordEnd_blank_append hgap hne left

theorem SpellsClauses.firstWord_append_mem {contents : List Content} {text left : List Char}
    (h : SpellsClauses contents text) (hcut : CutsNoWord text left) : firstWord (text ++ left) ∈ openings := by
  cases h with
  | last hclause hgap _ =>
    rw [List.append_assoc]
    exact alternative_readContent.opens hclause (atWordEnd_of_cutsNoWord hclause.endsInWord hgap hcut)
  | cons hclause hne hgap _ _ =>
    rw [List.append_assoc, List.append_assoc]
    exact alternative_readContent.opens hclause (atWordEnd_blank_append hgap hne _)

/-- What is read to its end may follow a clause, and no blanks are dropped before it. -/
theorem firstWord_mem_followers {start : Nat} {text : List Char} {clauses : List Clause}
    (h : clausesFrom start text = .ok clauses) : firstWord text ∈ followers ∧ dropBlanks text = text := by
  rcases spellsClauses_of_clausesFrom h with ⟨rfl, -⟩ | hspells
  · exact ⟨List.mem_cons_self, rfl⟩
  · exact ⟨List.mem_cons_of_mem _ hspells.firstWord_mem, hspells.dropBlanks_eq⟩

/-! ## Reading up to where the readers are stuck -/

/-- the clauses read from a text that begins `start` characters into the phrase, and what is left behind them -/
inductive ReadsUpTo : (start : Nat) → (text : List Char) → List Clause → (left : List Char) → Prop
  | here {start : Nat} {text : List Char} : ReadsUpTo start text [] text
  | clause {start : Nat} {text rest left : List Char} {content : Content} {clauses : List Clause}
      (hread : readContent text = .ok (content, rest))
      (hmore : ReadsUpTo (start + (text.length - rest.length)) rest clauses left) :
      ReadsUpTo start text (⟨content, start, start + (text.length - rest.length)⟩ :: clauses) left

theorem exists_readsUpTo {start : Nat} {text : List Char} {stops : List Stop} (h : clausesFrom start text = .error stops) :
    ∃ clauses left, ReadsUpTo start text clauses left ∧ left ≠ [] ∧ readContent left = .error stops := by
  fun_induction clausesFrom start text with
  | case1 => cases h
  | case2 start text hempty stops' hread =>
    obtain rfl := Except.error.inj h
    exact ⟨[], text, .here, fun hnil => hempty (List.isEmpty_iff.2 hnil), hread⟩
  | case3 start text hempty content rest hread stop stops' hmore ih =>
    obtain rfl := Except.error.inj h
    obtain ⟨clauses, left, hreads, hne, hstuck⟩ := ih hmore
    exact ⟨_, left, .clause hread hreads, hne, hstuck⟩
  | case4 => cases h

section Reading

variable {start : Nat} {text left : List Char} {clauses : List Clause}

theorem ReadsUpTo.length_left_le (h : ReadsUpTo start text clauses left) : left.length ≤ text.length := by
  induction h with
  | here => exact le_rfl
  | clause hread _ ih => exact ih.trans (readContent_shorter hread).le

theorem ReadsUpTo.stop_eq (h : ReadsUpTo start text clauses left) :
    (clauses.getLast?.map Clause.stop).getD start = start + (text.length - left.length) := by
  induction h with
  | here => simp
  | @clause start text rest left content clauses hread hmore ih =>
    have hrest := readContent_shorter hread
    have hleft := hmore.length_left_le
    have hlast : ((⟨content, start, start + (text.length - rest.length)⟩ :: clauses : List Clause).getLast?.map
        Clause.stop).getD start = (clauses.getLast?.map Clause.stop).getD (start + (text.length - rest.length)) := by
      rw [List.getLast?_cons]
      cases clauses.getLast? <;> rfl
    rw [hlast, ih]
    omega

/-- **The clauses before the readers are stuck are those of the text before it**, read by itself. -/
theorem ReadsUpTo.exists_front (h : ReadsUpTo start text clauses left) : ∃ front, text = front ++ left ∧
    clausesFrom start front = .ok clauses ∧ CutsNoWord front left := by
  induction h with
  | here => exact ⟨[], rfl, clausesFrom_nil _, fun hends => absurd hends (not_endsInWord_of_blank blank_nil)⟩
  | @clause start text rest left content clauses hread _ ih =>
    obtain ⟨front, rfl, hfront, hcut⟩ := ih
    obtain ⟨head, tail, rfl, hclause, hend, hrest⟩ := alternative_readContent.sound hread
    obtain ⟨gap, htail, hgap⟩ := exists_blank_append_dropBlanks tail
    rw [← hrest] at htail
    subst htail
    -- the same clause is read if nothing but the other clauses stands behind it
    obtain ⟨hfollow, hdrop⟩ := firstWord_mem_followers hfront
    have hend' : atWordEnd (gap ++ front) = true := by
      rw [← List.append_assoc] at hend
      exact atWordEnd_of_append hend
    have hread' : readContent (head ++ (gap ++ front)) = .ok (content, front) := by
      have hcomplete := alternative_readContent.complete hclause hend'
        (by rwa [firstWord_blank_append hgap])
      rwa [dropBlanks_blank_append hgap, hdrop] at hcomplete
    have hlength : (head ++ (gap ++ (front ++ left))).length - (front ++ left).length =
        (head ++ (gap ++ front)).length - front.length := by
      simp only [List.length_append]
      omega
    refine ⟨head ++ (gap ++ front), by simp, ?_, ?_⟩
    · rw [hlength] at hfront ⊢
      exact clausesFrom_eq_ok hread' hfront
    · intro hends
      by_cases hnil : front = []
      · -- then the clause is the last one, and a word may end behind its blanks
        subst hnil
        by_cases hgapnil : gap = []
        · subst hgapnil
          exact hend
        · rw [List.append_nil] at hends
          exact absurd (hends.of_append hgapnil) (not_endsInWord_of_blank hgap)
      · exact hcut ((hends.of_append (by simp [hnil])).of_append hnil)

theorem ReadsUpTo.after_clause {rest : List Char} {content : Content} {stops : List Stop}
    (h : ReadsUpTo start text clauses left) (hstuck : readContent left = .error stops)
    (hread : readContent text = .ok (content, rest)) :
    ∃ more, ReadsUpTo (start + (text.length - rest.length)) rest more left := by
  cases h with
  | here =>
    rw [hread] at hstuck
    cases hstuck
  | clause hread' hmore =>
    rw [hread] at hread'
    obtain ⟨-, rfl⟩ := Prod.mk.inj (Except.ok.inj hread')
    exact ⟨_, hmore⟩

theorem ReadsUpTo.length_le {contents : List Content} {body left' : List Char} {stops : List Stop}
    (hspells : SpellsClauses contents body) (hcut : CutsNoWord body left') (h : ReadsUpTo start (body ++ left') clauses left)
    (hstuck : readContent left = .error stops) : left.length ≤ left'.length := by
  induction hspells generalizing start clauses with
  | @last content clause gap hclause hgap _ =>
    -- something is read that reaches as far as the last clause
    obtain ⟨other, rest, hread, hle⟩ :=
      reaches_readContent hclause (atWordEnd_of_cutsNoWord hclause.endsInWord hgap hcut)
    rw [← List.append_assoc] at hread
    rw [dropBlanks_blank_append hgap] at hle
    obtain ⟨more, hmore⟩ := h.after_clause hstuck hread
    exact hmore.length_left_le.trans (hle.trans (length_dropBlanks left'))
  | @cons content clause gap rest contents hclause hne hgap _ hrest ih =>
    -- this clause is read, as one that could follow it stands behind it
    have hcut' : CutsNoWord rest left' := hcut.of_append.of_append
    have hread : readContent (clause ++ (gap ++ rest) ++ left') = .ok (content, rest ++ left') := by
      obtain ⟨c, cs, rfl, hc⟩ := hrest.exists_cons
      have hfollow : firstWord (gap ++ (c :: cs ++ left')) ∈ followers := by
        rw [firstWord_blank_append hgap]
        exact List.mem_cons_of_mem _ (hrest.firstWord_append_mem hcut')
      have hcomplete := alternative_readContent.complete hclause (atWordEnd_blank_append hgap hne _) hfollow
      rw [dropBlanks_blank_append hgap, List.cons_append, dropBlanks_cons (isBlank_of_isWordChar hc)] at hcomplete
      simpa using hcomplete
    obtain ⟨more, hmore⟩ := h.after_clause hstuck hread
    exact ih hcut' hmore

end Reading

/-! ## The complete part -/

/-- The greatest part of a phrase that it begins with and that can be read by itself, no word being cut; the clauses of this
part, which are those that are read from the phrase as well; and what is left of the phrase. The part ends where its last
clause does, or with the blanks before the first word. -/
structure CompletePart (front left : List Char) (clauses : List Clause) : Prop where
  read : tokenize front = .ok clauses
  reads : ReadsUpTo ((front ++ left).length - (dropBlanks (front ++ left)).length) (dropBlanks (front ++ left)) clauses left
  cut : CutsNoWord front left
  greatest : ∀ front' left' clauses', front' ++ left' = front ++ left → tokenize front' = .ok clauses' →
    CutsNoWord front' left' → front'.length ≤ front.length
  stop : front.length =
    (clauses.getLast?.map Clause.stop).getD ((front ++ left).length - (dropBlanks (front ++ left)).length)

theorem tokenize_eq_error {phrase : List Char} {r : Rejection} : tokenize phrase = .error r ↔
    ∃ stops, clausesFrom (phrase.length - (dropBlanks phrase).length) (dropBlanks phrase) = .error stops ∧
      Rejection.ofStops phrase.length stops = r := by
  simp only [tokenize]
  generalize clausesFrom (phrase.length - (dropBlanks phrase).length) (dropBlanks phrase) = read
  cases read <;> simp

/-- What can be read by itself at the head of a phrase leaves no less of it than the readers do. -/
theorem ReadsUpTo.length_le_of_tokenize {start : Nat} {phrase left front' left' : List Char}
    {clauses clauses' : List Clause} {stops : List Stop} (h : ReadsUpTo start (dropBlanks phrase) clauses left)
    (hstuck : readContent left = .error stops) (hphrase : front' ++ left' = phrase)
    (hread : tokenize front' = .ok clauses') (hcut : CutsNoWord front' left') : left.length ≤ left'.length := by
  subst hphrase
  rcases spellsPhrase_of_tokenize hread with ⟨-, hblank⟩ | ⟨lead, body, rfl, hlead, hbody⟩
  · rw [dropBlanks_blank_append hblank] at h
    exact h.length_left_le.trans (length_dropBlanks left')
  · obtain ⟨c, cs, rfl, hc⟩ := hbody.exists_cons
    rw [List.append_assoc, dropBlanks_blank_append hlead, List.cons_append,
      dropBlanks_cons (isBlank_of_isWordChar hc)] at h
    exact ReadsUpTo.length_le hbody hcut.of_append h hstuck

/-- **A rejected phrase has a complete part, and behind it the readers are stuck.** -/
theorem exists_completePart {phrase : List Char} {r : Rejection} (h : tokenize phrase = .error r) :
    ∃ front left clauses stops, phrase = front ++ left ∧ CompletePart front left clauses ∧ left ≠ [] ∧
      readContent left = .error stops ∧ Rejection.ofStops phrase.length stops = r := by
  obtain ⟨stops, hstops, hr⟩ := tokenize_eq_error.1 h
  obtain ⟨clauses, left, hreads, hne, hstuck⟩ := exists_readsUpTo hstops
  obtain ⟨front, hbody, hfront, hcut⟩ := hreads.exists_front
  obtain ⟨lead, hlead, hblank⟩ := exists_blank_append_dropBlanks phrase
  have hphrase : phrase = lead ++ front ++ left := by rw [List.append_assoc, ← hbody, ← hlead]
  have hlength : phrase.length - (dropBlanks phrase).length = lead.length := by
    have hsum := congrArg List.length hlead
    rw [List.length_append] at hsum
    omega
  refine ⟨lead ++ front, left, clauses, stops, hphrase, ?_, hne, hstuck, hr⟩
  constructor
  case read =>
    rw [hlength] at hfront
    rw [tokenize_eq_ok, dropBlanks_blank_append hblank, (firstWord_mem_followers hfront).2, List.length_append,
      Nat.add_sub_cancel]
    exact hfront
  case reads =>
    rw [← hphrase]
    exact hreads
  case cut =>
    intro hends
    by_cases hnil : front = []
    · rw [hnil, List.append_nil] at hends
      exact absurd hends (not_endsInWord_of_blank hblank)
    · exact hcut (hends.of_append hnil)
  case greatest =>
    intro front' left' clauses' hsame hread' hcut'
    have hle := hreads.length_le_of_tokenize hstuck (hsame.trans hphrase.symm) hread' hcut'
    have hsum := congrArg List.length hsame
    rw [List.length_append, List.length_append] at hsum
    omega
  case stop =>
    have hstop := hreads.stop_eq
    rw [← hphrase, hstop, hlength, hbody, List.length_append, List.length_append]
    omega

end MenuBoard.Phrase
