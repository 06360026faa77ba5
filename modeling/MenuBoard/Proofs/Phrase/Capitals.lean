import Mathlib.Data.List.Chain
import MenuBoard.Proofs.Phrase.Stuck
import MenuBoard.Proofs.Text.Capitals

/-!
Phrases in capitals.

Capitals make no difference to a phrase, but for the sharp s: in capitals it is two letters, and only one of the four names
that are written with it is known in this form too. That one is `liebigstraße` by itself, directly behind `at`. So a phrase
that is read is read in capitals exactly if no sharp s is typed in another place (`SharpBehindAt`), and then it is read as the
same; otherwise it is rejected in capitals (`tokenize_upper`). `mensa_liebigstrasse_is_rejected` is such a phrase.
-/

namespace MenuBoard.Phrase

open MenuBoard.Text MenuBoard.Calendar

/-- Every word that is typed with a sharp s stands directly behind `at`. -/
def SharpBehindAt (text : List Char) : Prop :=
  (typedWords text).IsChain fun before word => sharpS ∈ word → SameText "at".toList before

instance (text : List Char) : Decidable (SharpBehindAt text) :=
  inferInstanceAs (Decidable ((typedWords text).IsChain fun before word => sharpS ∈ word → SameText "at".toList before))

/-! ## Words in capitals -/

theorem upper_of_blank {gap : List Char} (h : Blank gap) : upper gap = gap :=
  upper_eq_self fun c hc => upperChar_of_isBlank (h c hc)

theorem map_caseKey_upper {text : List Char} (h : ∀ c ∈ text, (upperChar c).map caseKey = [caseKey c]) :
    (upper text).map caseKey = text.map caseKey := by
  induction text with
  | nil => rfl
  | cons c text ih =>
    rw [upper_cons, List.map_append, h c List.mem_cons_self, ih fun d hd => h d (List.mem_cons_of_mem c hd)]
    rfl

section Word

variable {word text : List Char}

/-- A word that has no sharp s is not typed with one. -/
theorem SameText.not_mem_sharpS (hplain : caseKey sharpS ∉ word.map caseKey) (h : SameText word text) :
    sharpS ∉ text := fun hmem => hplain (h ▸ List.mem_map_of_mem hmem)

/-- A word in capitals is the same word, if it is typed without a sharp s. -/
theorem SameText.capitals (hword : ∀ c ∈ word, c ∈ alphabet) (hsharp : sharpS ∉ text) (h : SameText word text) :
    SameText word (upper text) := by
  have hkeys : (upper text).map caseKey = text.map caseKey := by
    apply map_caseKey_upper
    intro c hc
    obtain ⟨l, hl, hkey⟩ := h.exists_letter hc
    apply map_caseKey_upperChar (hword l hl) hkey
    rintro rfl
    exact hsharp hc
  exact Eq.trans h hkeys.symm

/-- A sharp s that is typed for a letter of a word becomes two letters in capitals. -/
theorem SameText.capitals_of_sharpS {before behind : List Char} (hbefore : ∀ c ∈ before, c ∈ alphabet)
    (hbehind : ∀ c ∈ behind, c ∈ alphabet)
    (hplain : caseKey sharpS ∉ before.map caseKey ∧ caseKey sharpS ∉ behind.map caseKey)
    (h : SameText (before ++ sharpS :: behind) text) (hsharp : sharpS ∈ text) :
    SameText (before ++ 's' :: 's' :: behind) (upper text) := by
  obtain ⟨front, back, rfl, hfront, hback⟩ := sameText_append_iff.1 h
  cases back with
  | nil => cases hback
  | cons c back =>
    have hrest : SameText behind back := (List.cons.inj hback).2
    have hfrontPlain := hfront.not_mem_sharpS hplain.1
    have hbackPlain := hrest.not_mem_sharpS hplain.2
    -- the only place that is left for it
    obtain rfl : sharpS = c := by simpa [hfrontPlain, hbackPlain] using hsharp
    rw [upper_append, upper_cons, upperChar_sharpS]
    have htwo : SameText ['s', 's'] ['S', 'S'] := by decide
    exact (hfront.capitals hbefore hfrontPlain).append (htwo.append (hrest.capitals hbehind hbackPlain))

end Word

/-! ## Spellings in capitals -/

section Spelling

variable {form : List (List Char)} {text : List Char}

/-- Words in a row that have no sharp s are typed without one. -/
theorem SpellsWords.not_mem_sharpS (hform : Lettered form) (hplain : ∀ word ∈ keys form, caseKey sharpS ∉ word)
    (h : SpellsWords form text) : sharpS ∉ text := by
  intro hmem
  obtain ⟨typed, htyped, hsharp⟩ := exists_mem_typedWords (by decide) hmem
  have hkey : typed.map caseKey ∈ keys form := by
    rw [← h.wordKeys_eq hform, wordKeys_eq_keys]
    exact List.mem_map_of_mem htyped
  exact hplain _ hkey (List.mem_map_of_mem hsharp)

theorem SpellsWords.capitals (hform : Lettered form) (hsharp : sharpS ∉ text) (h : SpellsWords form text) :
    SpellsWords form (upper text) := by
  induction form generalizing text with
  | nil =>
    obtain rfl : text = [] := h
    rfl
  | cons word form ih =>
    obtain ⟨-, hword⟩ := hform word List.mem_cons_self
    cases form with
    | nil => exact SameText.capitals hword hsharp h
    | cons next more =>
      obtain ⟨head, gap, tail, rfl, hhead, hne, hgap, htail⟩ := h
      simp only [List.mem_append, not_or] at hsharp
      rw [upper_append, upper_append, upper_of_blank hgap]
      exact ⟨_, gap, _, rfl, hhead.capitals hword hsharp.1, hne, hgap, ih hform.tail hsharp.2.2 htail⟩

theorem Vocabulary.Spells.capitals {α : Type} {v : Vocabulary α} (hv : WellOrdered (v.forms.map Prod.fst)) {a : α}
    (hsharp : sharpS ∉ text) (h : v.Spells a text) : v.Spells a (upper text) := by
  obtain ⟨form, hmem, hwords⟩ := Vocabulary.spells_iff.1 h
  have hform := (hv.lettered form (List.mem_map_of_mem hmem)).2
  exact Vocabulary.spells_iff.2 ⟨form, hmem, hwords.capitals hform hsharp⟩

/-- The word has no sharp s, and is no street whose sharp s became two letters. -/
def PlainWord (word : List Nat) : Prop :=
  caseKey sharpS ∉ word ∧ word ≠ "strasse".toList.map caseKey ∧ word ≠ "liebigstrasse".toList.map caseKey

instance (word : List Nat) : Decidable (PlainWord word) := inferInstanceAs (Decidable
  (caseKey sharpS ∉ word ∧ word ≠ "strasse".toList.map caseKey ∧ word ≠ "liebigstrasse".toList.map caseKey))

/-- All words of the vocabulary are plain. -/
def Vocabulary.Plain {α : Type} (v : Vocabulary α) : Prop :=
  ∀ form ∈ v.forms.map Prod.fst, ∀ word ∈ keys form, PlainWord word

instance {α : Type} (v : Vocabulary α) : Decidable v.Plain :=
  inferInstanceAs (Decidable (∀ form ∈ v.forms.map Prod.fst, ∀ word ∈ keys form, PlainWord word))

/-- Only canteens are called after streets. -/
theorem names_plain : dateWords.Plain ∧ weekdayNames.Plain ∧ excludeNames.Plain := by decide +kernel

theorem openings_plain : ∀ word ∈ openings, PlainWord word := by decide +kernel

theorem restrictionNames_plain : restrictionNames.Plain := by
  intro form hform word hword
  obtain ⟨opening, hopening, hkeys⟩ := List.mem_map.1 (restrictionNames_keys form hform)
  rw [← hkeys] at hword
  obtain rfl := List.mem_singleton.1 hword
  exact openings_plain word hopening

/-- An entry of a plain vocabulary is the same in capitals. -/
theorem Vocabulary.Spells.capitals_of_plain {α : Type} {v : Vocabulary α} (hv : WellOrdered (v.forms.map Prod.fst))
    (hplain : v.Plain) {a : α} (h : v.Spells a text) : v.Spells a (upper text) := by
  obtain ⟨form, hmem, hwords⟩ := Vocabulary.spells_iff.1 h
  have hfst : form ∈ v.forms.map Prod.fst := List.mem_map_of_mem hmem
  exact h.capitals hv (hwords.not_mem_sharpS (hv.lettered form hfst).2 fun word hword => (hplain form hfst word hword).1)

/-- A date has no capitals. -/
theorem SpellsDay.capitals {day : Day} (h : SpellsDay day text) : upper text = text := by
  apply upper_eq_self
  intro c hc
  rcases h.hyphen_or_digit c hc with rfl | ⟨d, hd⟩
  · decide
  · exact upperChar_of_digit hd

theorem SpellsDate.capitals {choice : DateChoice} (h : SpellsDate choice text) : SpellsDate choice (upper text) := by
  rcases h with hword | ⟨day, rfl, hday⟩ | hweekday
  · exact .inl (hword.capitals_of_plain dateWords_wellOrdered names_plain.1)
  · refine .inr (.inl ⟨day, rfl, ?_⟩)
    rw [hday.capitals]
    exact hday
  · exact .inr (.inr (hweekday.capitals_of_plain weekdayNames_wellOrdered names_plain.2.1))

theorem openers_openings : ∀ k ∈ openers, k.literal.toList.map caseKey ∈ openings := by
  intro k hk
  simp only [openers, List.mem_cons, List.not_mem_nil, or_false] at hk
  rcases hk with rfl | rfl | rfl <;> simp [openings, atWord, noWord, onWord]

theorem spellsAfter_capitals {opener : Keyword} (hopener : opener ∈ openers) {Argument : List Char → Prop} {text : List Char}
    (hargument : ∀ {head gap tail}, text = head ++ (gap ++ tail) → gap ≠ [] → Blank gap → Argument tail →
      Argument (upper tail)) (h : SpellsAfter opener Argument text) : SpellsAfter opener Argument (upper text) := by
  obtain ⟨head, gap, tail, rfl, hhead, hne, hgap, htail⟩ := h
  obtain ⟨hforms, hword⟩ := openers_forms opener hopener
  have hplain := (openings_plain _ (openers_openings opener hopener)).1
  have hsame := (spells_opener hforms).1 hhead
  have hcapitals := hsame.capitals (hword _ List.mem_cons_self).2 (hsame.not_mem_sharpS hplain)
  rw [upper_append, upper_append, upper_of_blank hgap]
  exact ⟨_, gap, _, rfl, (spells_opener hforms).2 hcapitals, hne, hgap, hargument rfl hne hgap htail⟩

end Spelling

/-! ## Clauses in capitals -/

/-- A canteen whose name begins with a word with a sharp s is known without it as well. -/
theorem canteenNames_sharpS : ∀ entry ∈ canteenNames.forms, ∀ first ∈ (keys entry.1).head?, caseKey sharpS ∈ first →
    entry.1 = ["liebigstraße".toList] ∧ (["liebigstrasse".toList], entry.2) ∈ canteenNames.forms := by decide +kernel

/-- Behind `at`, a name that is typed with a sharp s has it in its first word. -/
theorem first_of_sharpS {form : List (List Char)} {text : List Char} (hmem : form ∈ canteenNames.forms.map Prod.fst)
    (h : SpellsWords form text) (hbehind : SharpBehindAt text) (hsharp : sharpS ∈ text) :
    ∃ first ∈ (keys form).head?, caseKey sharpS ∈ first := by
  have hkeys : keys (typedWords text) = keys form := h.wordKeys_eq (canteenNames_wellOrdered.lettered form hmem).2
  obtain ⟨word, hword, hin⟩ := exists_mem_typedWords (by decide) hsharp
  obtain ⟨front, back, hsplit⟩ := List.append_of_mem hword
  rcases List.eq_nil_or_concat front with rfl | ⟨front, before, rfl⟩
  · have hhead : (keys form).head? = some (word.map caseKey) := by
      rw [← hkeys, hsplit]
      rfl
    exact ⟨_, hhead, List.mem_map_of_mem hin⟩
  · -- otherwise `at` stands in the name
    have hpair : typedWords text = front ++ before :: word :: back := by rw [hsplit]; simp
    have hat : before.map caseKey = "at".toList.map caseKey :=
      Eq.symm (List.isChain_iff_forall_rel_of_append_cons_cons.1 hbehind hpair hin)
    have hname : before.map caseKey ∈ keys form := by
      rw [← hkeys, hpair]
      exact List.mem_map_of_mem (by simp)
    have hopening : "at".toList.map caseKey ∈ openings := openers_openings atWord List.mem_cons_self
    exact absurd (hat ▸ hopening) (canteenNames_inner form hmem _ hname)

/-- what stands before the sharp s in the names of streets -/
def streets : List (List Char) := ["stra".toList, "liebigstra".toList]

theorem streets_plain : Lettered ("e".toList :: streets) ∧ ∀ word ∈ "e".toList :: streets,
    caseKey sharpS ∉ word.map caseKey := by decide +kernel

/-- A street that is typed with a sharp s is another word in capitals. -/
theorem street_capitals {before text : List Char} (hbefore : before ∈ streets)
    (h : SameText (before ++ sharpS :: "e".toList) text) (hsharp : sharpS ∈ text) :
    SameText (before ++ 's' :: 's' :: "e".toList) (upper text) := by
  obtain ⟨hletters, hplain⟩ := streets_plain
  have hmem : before ∈ "e".toList :: streets := List.mem_cons_of_mem _ hbefore
  exact h.capitals_of_sharpS (hletters _ hmem).2 (hletters _ List.mem_cons_self).2
    ⟨hplain _ hmem, hplain _ List.mem_cons_self⟩ hsharp

theorem spellsCanteen_capitals {canteen : Canteen} {text : List Char} (h : canteenNames.Spells canteen text)
    (hbehind : SharpBehindAt text) : canteenNames.Spells canteen (upper text) := by
  by_cases hsharp : sharpS ∈ text
  · obtain ⟨form, hmem, hwords⟩ := Vocabulary.spells_iff.1 h
    obtain ⟨first, hfirst, hin⟩ := first_of_sharpS (List.mem_map_of_mem hmem) hwords hbehind hsharp
    obtain ⟨rfl, hentry⟩ : form = ["liebigstraße".toList] ∧ _ := canteenNames_sharpS _ hmem first hfirst hin
    have hcapitals : SpellsWords ["liebigstrasse".toList] (upper text) :=
      street_capitals (List.mem_cons_of_mem _ List.mem_cons_self) hwords hsharp
    exact Vocabulary.spells_iff.2 ⟨_, hentry, hcapitals⟩
  · exact h.capitals canteenNames_wellOrdered hsharp

theorem SpellsClause.capitals {content : Content} {text : List Char} (h : SpellsClause content text)
    (hbehind : SharpBehindAt text) : SpellsClause content (upper text) := by
  cases content with
  | location canteen =>
    refine spellsAfter_capitals (by simp [openers]) ?_ h
    intro head gap tail htext hne hgap hcanteen
    refine spellsCanteen_capitals hcanteen ?_
    rw [SharpBehindAt, htext, typedWords_append hne hgap] at hbehind
    exact hbehind.right_of_append
  | exclude ingredient =>
    exact spellsAfter_capitals (by simp [openers])
      (fun _ _ _ h => h.capitals_of_plain excludeNames_wellOrdered names_plain.2.2) h
  | date choice =>
    exact spellsAfter_capitals (by simp [openers]) (fun _ _ _ h => h.capitals) h
  | restriction diet =>
    exact Vocabulary.Spells.capitals_of_plain restrictionNames_wellOrdered restrictionNames_plain h

theorem SpellsClauses.capitals {contents : List Content} {text : List Char} (h : SpellsClauses contents text)
    (hbehind : SharpBehindAt text) : SpellsClauses contents (upper text) := by
  induction h with
  | @last content clause gap hclause hgap hend =>
    rw [SharpBehindAt, typedWords_append_blank hgap] at hbehind
    rw [upper_append, upper_of_blank hgap]
    exact .last (hclause.capitals hbehind) hgap hend
  | @cons content clause gap rest contents hclause hne hgap _ _ ih =>
    rw [SharpBehindAt, typedWords_append hne hgap] at hbehind
    rw [upper_append, upper_append, upper_of_blank hgap]
    exact .cons (hclause.capitals hbehind.left_of_append) hne hgap (atWordEnd_blank_append hgap hne _)
      (ih hbehind.right_of_append)

theorem SpellsPhrase.capitals {contents : List Content} {phrase : List Char} (h : SpellsPhrase contents phrase)
    (hbehind : SharpBehindAt phrase) : SpellsPhrase contents (upper phrase) := by
  rcases h with ⟨rfl, hblank⟩ | ⟨lead, body, rfl, hlead, hbody⟩
  · rw [upper_of_blank hblank]
    exact .inl ⟨rfl, hblank⟩
  · rw [SharpBehindAt, typedWords_blank_append hlead] at hbehind
    rw [upper_append, upper_of_blank hlead]
    exact .inr ⟨lead, _, rfl, hlead, hbody.capitals hbehind⟩

/-! ## What is rejected in capitals -/

/-- The places in a phrase of a word with a sharp s, and of the words that these become in capitals: a street is no name, and
the one that is stands behind `at`. -/
structure Street (before word : List Nat) : Prop where
  sharp : caseKey sharpS ∈ word → word = "straße".toList.map caseKey ∨ word = "liebigstraße".toList.map caseKey ∧
    (before = "at".toList.map caseKey ∨ before = "mensa".toList.map caseKey)
  plain : word ≠ "strasse".toList.map caseKey
  name : word = "liebigstrasse".toList.map caseKey → before = "at".toList.map caseKey

instance (before word : List Nat) : Decidable (Street before word) :=
  decidable_of_iff ((caseKey sharpS ∈ word → word = "straße".toList.map caseKey ∨
      word = "liebigstraße".toList.map caseKey ∧
        (before = "at".toList.map caseKey ∨ before = "mensa".toList.map caseKey)) ∧
    word ≠ "strasse".toList.map caseKey ∧ (word = "liebigstrasse".toList.map caseKey → before = "at".toList.map caseKey))
    ⟨fun h => ⟨h.1, h.2.1, h.2.2⟩, fun h => ⟨h.sharp, h.plain, h.name⟩⟩

theorem canteenNames_streets : ∀ form ∈ canteenNames.forms.map Prod.fst,
    ("at".toList.map caseKey :: keys form).IsChain Street := by decide +kernel

theorem PlainWord.street {word : List Nat} (h : PlainWord word) (before : List Nat) : Street before word :=
  ⟨fun hin => absurd hin h.1, h.2.1, fun heq => absurd heq h.2.2⟩

theorem isChain_street_of_plain {words : List (List Nat)} (h : ∀ word ∈ words, PlainWord word) (opener : List Nat) :
    (opener :: words).IsChain Street := by
  induction words generalizing opener with
  | nil => exact .singleton opener
  | cons word words ih =>
    exact .cons_cons ((h word List.mem_cons_self).street opener)
      (ih (fun next hnext => h next (List.mem_cons_of_mem word hnext)) word)

section Streets

variable {text : List Char}

theorem Vocabulary.Spells.streets_of_plain {α : Type} {v : Vocabulary α} (hv : WellOrdered (v.forms.map Prod.fst))
    (hplain : v.Plain) {a : α} (h : v.Spells a text) (opener : List Nat) : (opener :: wordKeys text).IsChain Street := by
  obtain ⟨form, hmem, hwords⟩ := h.wordKeys_eq hv
  rw [hwords]
  exact isChain_street_of_plain (hplain form hmem) opener

/-- A date is no street, as it begins with a digit and has no letters. -/
theorem SpellsDay.street {day : Day} (h : SpellsDay day text) (before : List Nat) : Street before (text.map caseKey) := by
  have hword : ∀ {l : Char} {ls : List Char}, l ∈ alphabet → text.map caseKey ≠ (l :: ls).map caseKey := by
    intro l ls hl heq
    apply h.head?_ne hl
    rw [heq]
    rfl
  refine ⟨fun hsharp => ?_, hword (by decide), fun heq => absurd heq (hword (by decide))⟩
  obtain ⟨c, hc, hkey⟩ := List.mem_map.1 hsharp
  rcases h.hyphen_or_digit c hc with rfl | ⟨d, hd⟩
  · exact absurd (isWordChar_of_alphabet (by decide) hkey.symm) (by decide)
  · rw [digitValue?_of_alphabet (by decide) hkey.symm] at hd
    cases hd

theorem SpellsDate.streets {choice : DateChoice} (h : SpellsDate choice text) :
    ("on".toList.map caseKey :: wordKeys text).IsChain Street := by
  rcases h with hword | ⟨day, -, hday⟩ | hweekday
  · exact hword.streets_of_plain dateWords_wellOrdered names_plain.1 _
  · rw [hday.wordKeys_eq]
    exact List.isChain_pair.2 (hday.street _)
  · exact hweekday.streets_of_plain weekdayNames_wellOrdered names_plain.2.1 _

theorem streets_after {opener : Keyword} (hopener : opener ∈ openers) {Argument : List Char → Prop}
    (hargument : ∀ {text}, Argument text → (opener.literal.toList.map caseKey :: wordKeys text).IsChain Street)
    (h : SpellsAfter opener Argument text) : (wordKeys text).IsChain Street := by
  obtain ⟨head, gap, tail, rfl, hhead, hne, hgap, htail⟩ := h
  obtain ⟨hforms, hword⟩ := openers_forms opener hopener
  have hspells : SpellsWords [opener.literal.toList] head := (spells_opener hforms).1 hhead
  have hfirst : wordKeys head = [opener.literal.toList.map caseKey] := hspells.wordKeys_eq hword
  rw [wordKeys_append hne hgap, hfirst]
  exact hargument htail

theorem SpellsClause.streets {content : Content} (h : SpellsClause content text) : (wordKeys text).IsChain Street := by
  cases content with
  | location canteen =>
    refine streets_after (by simp [openers]) (fun hcanteen => ?_) h
    obtain ⟨form, hmem, hwords⟩ := hcanteen.wordKeys_eq canteenNames_wellOrdered
    rw [hwords]
    exact canteenNames_streets form hmem
  | exclude ingredient =>
    exact streets_after (by simp [openers])
      (fun h => h.streets_of_plain excludeNames_wellOrdered names_plain.2.2 _) h
  | date choice => exact streets_after (by simp [openers]) SpellsDate.streets h
  | restriction diet =>
    obtain ⟨form, hmem, hwords⟩ := Vocabulary.Spells.wordKeys_eq restrictionNames_wellOrdered h
    obtain ⟨word, -, hkeys⟩ := List.mem_map.1 (restrictionNames_keys form hmem)
    rw [hwords, ← hkeys]
    exact List.isChain_singleton word

/-- The words with a sharp s of a row of clauses, and what they become in capitals, stand in their places. -/
theorem SpellsClauses.streets {contents : List Content} (h : SpellsClauses contents text) :
    (wordKeys text).IsChain Street := by
  induction h with
  | last hclause hgap _ =>
    rw [wordKeys_append_blank hgap]
    exact hclause.streets
  | cons hclause hne hgap _ hrest ih =>
    rw [wordKeys_append hne hgap]
    refine List.isChain_append.2 ⟨hclause.streets, ih, fun before _ word hword => ?_⟩
    exact (openings_plain word (hrest.spellsPhrase.opensNext word hword)).street before

theorem SpellsPhrase.streets {contents : List Content} (h : SpellsPhrase contents text) : (wordKeys text).IsChain Street := by
  rcases h with ⟨-, hblank⟩ | ⟨lead, body, rfl, hlead, hbody⟩
  · rw [wordKeys_of_blank hblank]
    exact List.isChain_nil
  · rw [wordKeys_blank_append hlead]
    exact hbody.streets

end Streets

/-! ## Phrases in capitals -/

theorem typedWords_upper (text : List Char) : typedWords (upper text) = (typedWords text).map upper := by
  unfold typedWords
  rw [pieces_upper, List.filter_map]
  refine congrArg (List.map upper) (List.filter_congr fun word hword => ?_)
  have hnil := upper_eq_nil (not_mem_of_mem_pieces hword)
  rw [Function.comp_apply, Bool.eq_iff_iff]
  simp [hnil]

/-- If a phrase is read in capitals as well, its sharp s stand behind `at`. -/
theorem sharpBehindAt_of_capitals {contents contents' : List Content} {phrase : List Char}
    (h : SpellsPhrase contents phrase) (hcapitals : SpellsPhrase contents' (upper phrase)) : SharpBehindAt phrase := by
  have hstreets := (List.isChain_map _).1 h.streets
  have hcapitalStreets := hcapitals.streets
  rw [wordKeys_eq_keys, typedWords_upper, keys, List.isChain_map, List.isChain_map] at hcapitalStreets
  refine List.isChain_iff_forall_rel_of_append_cons_cons.2 fun before word front back hsplit hsharp => ?_
  have hstreet := List.isChain_iff_forall_rel_of_append_cons_cons.1 hstreets hsplit
  have hcapital := List.isChain_iff_forall_rel_of_append_cons_cons.1 hcapitalStreets hsplit
  rcases hstreet.sharp (List.mem_map_of_mem hsharp) with hword | ⟨hword, hat | hmensa⟩
  · -- a street in capitals is no name
    have htyped : SameText ("stra".toList ++ sharpS :: "e".toList) word := hword.symm
    have hstrasse := street_capitals (by decide) htyped hsharp
    exact absurd (Eq.symm hstrasse) hcapital.plain
  · exact hat.symm
  · -- the name in capitals stands behind `at` only
    have htyped : SameText ("liebigstra".toList ++ sharpS :: "e".toList) word := hword.symm
    have hliebigstrasse := street_capitals (by decide) htyped hsharp
    have hat := hcapital.name (Eq.symm hliebigstrasse)
    have hletters : Lettered ["mensa".toList] ∧ caseKey sharpS ∉ "mensa".toList.map caseKey := by decide +kernel
    have hmensa : SameText "mensa".toList before := hmensa.symm
    have hbefore := hmensa.capitals (hletters.1 _ List.mem_cons_self).2 (hmensa.not_mem_sharpS hletters.2)
    exact absurd (congrArg List.length (Eq.trans hbefore hat)) (by decide)

/-- **A phrase in capitals**: it is read as the same, if every word that is typed with a sharp s stands directly behind `at`,
and it is rejected if one stands elsewhere. -/
theorem tokenize_upper {phrase : List Char} {clauses : List Clause} (h : tokenize phrase = .ok clauses) :
    (SharpBehindAt phrase → ∃ clauses', tokenize (upper phrase) = .ok clauses' ∧
      clauses'.map (·.content) = clauses.map (·.content)) ∧
    (¬ SharpBehindAt phrase → ∃ r, tokenize (upper phrase) = .error r) := by
  have hspells := spellsPhrase_of_tokenize h
  constructor
  · intro hbehind
    exact exists_tokenize (hspells.capitals hbehind)
  · intro helsewhere
    cases hread : tokenize (upper phrase) with
    | error r => exact ⟨r, rfl⟩
    | ok clauses' => exact absurd (sharpBehindAt_of_capitals hspells (spellsPhrase_of_tokenize hread)) helsewhere

/-- A day and a street name that are read in capitals. -/
theorem liebigstrasse_in_capitals :
    ∃ clauses, tokenize "on mon at liebigstraße".toList = .ok clauses ∧ SharpBehindAt "on mon at liebigstraße".toList ∧
      upper "on mon at liebigstraße".toList = "ON MON AT LIEBIGSTRASSE".toList ∧
      ∃ clauses', tokenize (upper "on mon at liebigstraße".toList) = .ok clauses' ∧
        clauses'.map (·.content) = clauses.map (·.content) := by
  have hrun : tokenize "on mon at liebigstraße".toList =
        .ok [⟨.date (.weekday ⟨0, by decide⟩), 0, 7⟩, ⟨.location .liebigstrasse, 7, 22⟩] ∧
      SharpBehindAt "on mon at liebigstraße".toList ∧
      upper "on mon at liebigstraße".toList = "ON MON AT LIEBIGSTRASSE".toList := by decide +kernel
  obtain ⟨hread, hbehind, hcapitals⟩ := hrun
  exact ⟨_, hread, hbehind, hcapitals, (tokenize_upper hread).1 hbehind⟩

/-- The same canteen by its whole name, which is rejected in capitals. -/
theorem mensa_liebigstrasse_is_rejected :
    tokenize "at mensa liebigstraße".toList = .ok [⟨.location .liebigstrasse, 0, 21⟩] ∧
      upper "at mensa liebigstraße".toList = "AT MENSA LIEBIGSTRASSE".toList ∧
      tokenize (upper "at mensa liebigstraße".toList) = .error ⟨3, ["canteen name"]⟩ := by
  decide +kernel

end MenuBoard.Phrase
