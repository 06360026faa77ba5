import MenuBoard.Proofs.Calendar.Gregorian
import MenuBoard.Proofs.Phrase.FirstWord

/-!
Readers that recognise exactly their part of the grammar, although they take the first alternative that fits.

`Recognizes reader Spells`: what the reader reads is spelled, and what is spelled is read where a clause may follow.
It holds of a vocabulary whose forms are well ordered (`recognizes_readWord`), and is kept by an opener before its
argument (`recognizes_readAfter`) and by a choice between alternatives that begin with different words
(`Alternative.choice`). So it holds of days (`recognizes_readDate`) and of clauses (`alternative_readContent`).
-/

namespace MenuBoard.Phrase

open MenuBoard.Text MenuBoard.Calendar

/-! ## Entries of a vocabulary -/

theorem Vocabulary.mem_forms {α : Type} {v : Vocabulary α} {form : List (List Char)} {a : α} :
    (form, a) ∈ v.forms ↔ ∃ k, (k, a) ∈ v.entries ∧ form ∈ k.forms := by
  unfold Vocabulary.forms
  rw [List.mem_flatMap]
  constructor
  · rintro ⟨⟨k, b⟩, hk, hmem⟩
    obtain ⟨form', hform, heq⟩ := List.mem_map.1 hmem
    cases heq
    exact ⟨k, hk, hform⟩
  · rintro ⟨k, hk, hform⟩
    exact ⟨(k, a), hk, List.mem_map_of_mem hform⟩

theorem Vocabulary.spells_iff {α : Type} {v : Vocabulary α} {a : α} {text : List Char} :
    v.Spells a text ↔ ∃ form, (form, a) ∈ v.forms ∧ SpellsWords form text := by
  constructor
  · rintro ⟨k, hk, hspells⟩
    obtain ⟨form, hform, hwords⟩ := Keyword.spells_iff.1 hspells
    exact ⟨form, Vocabulary.mem_forms.2 ⟨k, hk, hform⟩, hwords⟩
  · rintro ⟨form, hmem, hwords⟩
    obtain ⟨k, hk, hform⟩ := Vocabulary.mem_forms.1 hmem
    exact ⟨k, hk, Keyword.spells_iff.2 ⟨form, hform, hwords⟩⟩

/-- Where an entry of a vocabulary is read, a spelling of a form of it stands and a word may end. -/
theorem matchForm?_eq_some {α : Type} {v : Vocabulary α} {entry : List (List Char) × α} (h : entry ∈ v.forms)
    {text rest : List Char} {a : α} : matchForm? text entry = some (a, rest) ↔ ∃ head tail, text = head ++ tail ∧
      SpellsWords entry.1 head ∧ atWordEnd tail = true ∧ entry.2 = a ∧ dropBlanks tail = rest := by
  obtain ⟨k, -, hform⟩ := Vocabulary.mem_forms.1 h
  have hsep := Keyword.separable hform
  unfold matchForm?
  rw [Option.map_eq_some_iff]
  constructor
  · rintro ⟨tail, htail, heq⟩
    obtain ⟨head, rfl, hwords, hend⟩ := (readForm?_eq_some hsep).1 htail
    exact ⟨head, tail, rfl, hwords, hend, congrArg Prod.fst heq, congrArg Prod.snd heq⟩
  · rintro ⟨head, tail, rfl, hwords, hend, rfl, rfl⟩
    exact ⟨tail, (readForm?_eq_some hsep).2 ⟨head, rfl, hwords, hend⟩, rfl⟩

/-- The first of several alternatives succeeds if those before it exclude each other with it. -/
theorem findSome?_of_pairwise {α β : Type} {R : α → α → Prop} {f : α → Option β} {l : List α} {x : α} {y : β}
    (hl : l.Pairwise R) (hx : x ∈ l) (hy : f x = some y) (hR : ∀ z ∈ l, R z x → f z = none) :
    l.findSome? f = some y := by
  induction l with
  | nil => cases hx
  | cons z l ih =>
    rw [List.findSome?_cons]
    rw [List.pairwise_cons] at hl
    rcases List.mem_cons.1 hx with rfl | hmem
    · rw [hy]
    · rw [hR z List.mem_cons_self (hl.1 x hmem)]
      exact ih hl.2 hmem (fun w hw => hR w (List.mem_cons_of_mem z hw))

/-! ## Readers -/

/-- A reader takes exactly what is spelled, up to a place where a word may end, and the blanks behind it. It need take
it only where nothing or another clause follows. -/
structure Recognizes {α : Type} (reader : List Char → Reading α) (Spells : α → List Char → Prop) : Prop where
  sound : ∀ {text rest a}, reader text = .ok (a, rest) →
    ∃ head tail, text = head ++ tail ∧ Spells a head ∧ atWordEnd tail = true ∧ rest = dropBlanks tail
  complete : ∀ {head tail a}, Spells a head → atWordEnd tail = true → firstWord tail ∈ followers →
    reader (head ++ tail) = .ok (a, dropBlanks tail)
  starts : ∀ {head a}, Spells a head → ∃ c cs, head = c :: cs ∧ isWordChar c = true

/-- every spelling begins with one of the words -/
def OpensWith {α : Type} (Spells : α → List Char → Prop) (words : List (List Nat)) : Prop :=
  ∀ ⦃head tail a⦄, Spells a head → atWordEnd tail = true → firstWord (head ++ tail) ∈ words

section Word

variable {α : Type} {v : Vocabulary α}

theorem Vocabulary.Spells.exists_letter (hv : WellOrdered (v.forms.map Prod.fst)) {a : α} {text : List Char}
    (h : v.Spells a text) : ∃ c cs, text = c :: cs ∧ isWordChar c = true ∧ digitValue? c = none := by
  obtain ⟨form, hmem, hwords⟩ := Vocabulary.spells_iff.1 h
  obtain ⟨hne, hlet⟩ := hv.lettered form (List.mem_map_of_mem hmem)
  obtain ⟨word, more, rfl⟩ := List.exists_cons_of_ne_nil hne
  obtain ⟨hword, halpha⟩ := hlet word List.mem_cons_self
  obtain ⟨l, ls, rfl⟩ := List.exists_cons_of_ne_nil hword
  obtain ⟨head, tail, rfl, hsame⟩ := hwords.exists_head
  cases head with
  | nil => cases hsame
  | cons c cs =>
    have hkey : caseKey l = caseKey c := (List.cons.inj hsame).1
    have hl := halpha l List.mem_cons_self
    exact ⟨c, cs ++ tail, rfl, isWordChar_of_alphabet hl hkey, digitValue?_of_alphabet hl hkey⟩

theorem opensWith_vocabulary (hv : WellOrdered (v.forms.map Prod.fst)) :
    OpensWith v.Spells ((v.forms.map Prod.fst).filterMap fun form => (keys form).head?) := by
  intro head tail a h hend
  obtain ⟨form, hmem, hwords⟩ := Vocabulary.spells_iff.1 h
  have hfst : form ∈ v.forms.map Prod.fst := List.mem_map_of_mem hmem
  obtain ⟨hne, hlet⟩ := hv.lettered form hfst
  obtain ⟨word, more, rfl⟩ := List.exists_cons_of_ne_nil hne
  rw [hwords.firstWord_eq hlet hend]
  exact List.mem_filterMap.2 ⟨_, hfst, rfl⟩

theorem recognizes_readWord (hv : WellOrdered (v.forms.map Prod.fst)) (name : String) :
    Recognizes (readWord v name) v.Spells where
  sound := by
    intro text rest a h
    rw [readWord_eq_ok, Vocabulary.match?_eq_findSome?] at h
    obtain ⟨entry, hentry, hread⟩ := List.exists_of_findSome?_eq_some h
    obtain ⟨head, tail, rfl, hwords, hend, rfl, rfl⟩ := (matchForm?_eq_some hentry).1 hread
    exact ⟨head, tail, rfl, Vocabulary.spells_iff.2 ⟨entry.1, hentry, hwords⟩, hend, rfl⟩
  complete := by
    intro head tail a h hend hfollow
    obtain ⟨form, hmem, hwords⟩ := Vocabulary.spells_iff.1 h
    have hlet : ∀ e ∈ v.forms, Lettered e.1 := fun e he => (hv.lettered e.1 (List.mem_map_of_mem he)).2
    rw [readWord_eq_ok, Vocabulary.match?_eq_findSome?]
    refine findSome?_of_pairwise (List.pairwise_map.1 hv.unshadowed) hmem
      ((matchForm?_eq_some hmem).2 ⟨head, tail, rfl, hwords, hend, rfl, rfl⟩) ?_
    rintro earlier hearlier ⟨hshorter, hlonger⟩
    refine Option.eq_none_iff_forall_ne_some.2 fun found hfound => ?_
    obtain ⟨head', tail', heq, hwords', hend', -, -⟩ := (matchForm?_eq_some hearlier).1 hfound
    rcases prefix_of_spellsWords (hlet earlier hearlier) (hlet _ hmem) hwords' hwords hend' hend
      (congrArg dropBlanks heq.symm) with hprefix | hprefix
    · exact hshorter hprefix
    · exact hlonger _ hfollow hprefix
  starts := by
    intro head a h
    obtain ⟨c, cs, rfl, hc, -⟩ := h.exists_letter hv
    exact ⟨c, cs, rfl, hc⟩

end Word

section After

variable {α : Type} {opener : Keyword} {word : List Char} {argument : List Char → Reading α}
  {Spells : α → List Char → Prop}

theorem spells_opener (hforms : opener.forms = [[word]]) {text : List Char} : opener.Spells text ↔ SameText word text := by
  rw [Keyword.spells_iff, hforms]
  simp [SpellsWords]

theorem opensWith_after (hforms : opener.forms = [[word]]) (hword : Lettered [word]) :
    OpensWith (fun a => SpellsAfter opener (Spells a)) [word.map caseKey] := by
  rintro head tail a ⟨first, gap, arg, rfl, hfirst, hne, hgap, -⟩ -
  obtain ⟨hnil, halpha⟩ := hword word List.mem_cons_self
  rw [List.append_assoc, List.append_assoc,
    firstWord_append hnil halpha ((spells_opener hforms).1 hfirst) (atWordEnd_blank_append hgap hne _)]
  exact List.mem_singleton_self _

/-- A keyword stands at the head of a text as a word of its own, and behind it and its blanks stands the rest. -/
def Keyword.StandsAt (k : Keyword) (text rest : List Char) : Prop :=
  ∃ head tail, text = head ++ tail ∧ k.Spells head ∧ atWordEnd tail = true ∧ rest = dropBlanks tail

theorem match?_eq_some_iff (hforms : opener.forms = [[word]]) {text rest : List Char} :
    opener.match? text = some rest ↔ opener.StandsAt text rest := by
  have hsep : Separable [word] := fun w hw => by cases hw
  have hread : opener.match? text = (readForm? [word] text).map dropBlanks := by
    rw [Keyword.match?_eq_findSome?, hforms, List.findSome?_singleton]
  rw [hread, Option.map_eq_some_iff]
  constructor
  · rintro ⟨tail, htail, rfl⟩
    obtain ⟨head, rfl, hhead, hend⟩ := (readForm?_eq_some hsep).1 htail
    exact ⟨head, tail, rfl, (spells_opener hforms).2 hhead, hend, rfl⟩
  · rintro ⟨head, tail, rfl, hhead, hend, rfl⟩
    exact ⟨tail, (readForm?_eq_some hsep).2 ⟨head, rfl, (spells_opener hforms).1 hhead, hend⟩, rfl⟩

theorem match?_before_argument (hforms : opener.forms = [[word]]) {first gap arg : List Char} (hfirst : opener.Spells first)
    (hne : gap ≠ []) (hgap : Blank gap) (harg : ∃ c cs, arg = c :: cs ∧ isWordChar c = true) (tail : List Char) :
    opener.match? (first ++ (gap ++ arg) ++ tail) = some (arg ++ tail) := by
  obtain ⟨c, cs, rfl, hc⟩ := harg
  have hdrop : dropBlanks (gap ++ (c :: cs ++ tail)) = c :: cs ++ tail := by
    rw [dropBlanks_blank_append hgap]
    exact dropBlanks_cons (isBlank_of_isWordChar hc) _
  exact (match?_eq_some_iff hforms).2
    ⟨first, gap ++ (c :: cs ++ tail), by simp, hfirst, atWordEnd_blank_append hgap hne _, hdrop.symm⟩

/-- An opener of one word and its argument are read as they are spelled. -/
theorem recognizes_readAfter (hforms : opener.forms = [[word]]) (hword : Lettered [word]) (h : Recognizes argument Spells) :
    Recognizes (readAfter opener argument) (fun a => SpellsAfter opener (Spells a)) where
  sound := by
    intro text rest a hread
    unfold readAfter at hread
    split at hread
    · next t ht =>
      obtain ⟨first, back, rfl, hfirst, hend, rfl⟩ := (match?_eq_some_iff hforms).1 ht
      obtain ⟨arg, tail, harg, hspells, hend', rfl⟩ := h.sound hread
      obtain ⟨gap, hgap, hblank⟩ := exists_blank_append_dropBlanks back
      refine ⟨first ++ (gap ++ arg), tail, ?_, ⟨first, gap, arg, rfl, hfirst, ?_, hblank, hspells⟩, hend', rfl⟩
      · rw [hgap, harg]
        simp
      · -- without a blank the opener would go on into its argument
        rintro rfl
        obtain ⟨c, cs, rfl, hc⟩ := h.starts hspells
        rw [hgap, harg] at hend
        simp [atWordEnd, hc] at hend
    · cases hread
  complete := by
    rintro head tail a ⟨first, gap, arg, rfl, hfirst, hne, hgap, hspells⟩ hend hfollow
    unfold readAfter
    rw [match?_before_argument hforms hfirst hne hgap (h.starts hspells)]
    exact h.complete hspells hend hfollow
  starts := by
    rintro head a ⟨first, gap, arg, rfl, hfirst, -, -, -⟩
    obtain ⟨hnil, halpha⟩ := hword word List.mem_cons_self
    obtain ⟨c, cs, rfl, hc⟩ := ((spells_opener hforms).1 hfirst).exists_cons hnil halpha
    exact ⟨c, _, rfl, hc⟩

end After

/-! ## Days -/

/-- A vocabulary reads nothing where another one's entry stands, if their first words differ. -/
theorem match?_eq_none_of_spells {α β : Type} {v : Vocabulary α} {w : Vocabulary β}
    (hv : WellOrdered (v.forms.map Prod.fst)) (hw : WellOrdered (w.forms.map Prod.fst))
    (hdiff : ∀ word ∈ (v.forms.map Prod.fst).filterMap fun form => (keys form).head?,
      word ∉ (w.forms.map Prod.fst).filterMap fun form => (keys form).head?)
    {head tail : List Char} {b : β} (h : w.Spells b head) (hend : atWordEnd tail = true) :
    v.match? (head ++ tail) = none := by
  refine Option.eq_none_iff_forall_ne_some.2 fun found hfound => ?_
  obtain ⟨a, rest⟩ := found
  obtain ⟨head', tail', heq, hspells, hend', -⟩ := (recognizes_readWord hv "").sound (readWord_eq_ok.2 hfound)
  have hin := opensWith_vocabulary hv hspells hend'
  rw [← heq] at hin
  exact hdiff _ hin (opensWith_vocabulary hw h hend)

theorem writtenDate?_eq_none {c : Char} (hc : digitValue? c = none) (text : List Char) :
    writtenDate? (c :: text) = none := by
  simp [writtenDate?, digits?, hc]

theorem dateWords_weekdayNames_differ : ∀ word ∈ (dateWords.forms.map Prod.fst).filterMap fun form => (keys form).head?,
    word ∉ (weekdayNames.forms.map Prod.fst).filterMap fun form => (keys form).head? := by decide +kernel

/-- A written date names a day exactly if it spells the day, up to a place where a word may end. -/
theorem writtenDate?_spellsDay {text rest : List Char} {day : Day} :
    (∃ year month n, writtenDate? text = some ((year, month, n), rest) ∧ Day.ofDate? year month n = some day) ↔
      ∃ head, text = head ++ rest ∧ SpellsDay day head ∧ atWordEnd rest = true := by
  constructor
  · rintro ⟨year, month, n, hwritten, hday⟩
    obtain ⟨y, m, d, rfl, hy, hm, hd, hend⟩ := writtenDate?_eq_some.1 hwritten
    obtain ⟨hdate, hbears⟩ := Day.ofDate?_eq_some_iff.1 hday
    exact ⟨y ++ '-' :: (m ++ '-' :: d), by simp, ⟨year, month, n, y, m, d, rfl, hy, hm, hd, hdate, hbears⟩, hend⟩
  · rintro ⟨head, rfl, ⟨year, month, n, y, m, d, rfl, hy, hm, hd, hdate, hbears⟩, hend⟩
    have hwritten : writtenDate? (y ++ '-' :: (m ++ '-' :: d) ++ rest) = some ((year, month, n), rest) :=
      writtenDate?_eq_some.2 ⟨y, m, d, by simp, hy, hm, hd, hend⟩
    exact ⟨year, month, n, hwritten, Day.ofDate?_eq_some_iff.2 ⟨hdate, hbears⟩⟩

theorem match?_eq_none_of_spellsDay {day : Day} {head : List Char} (h : SpellsDay day head) (tail : List Char) :
    dateWords.match? (head ++ tail) = none := by
  refine Option.eq_none_iff_forall_ne_some.2 fun found hfound => ?_
  obtain ⟨word, rest, heq, hspells, -⟩ :=
    (recognizes_readWord dateWords_wellOrdered "").sound (readWord_eq_ok.2 hfound)
  obtain ⟨c, cs, rfl, -, hletter⟩ := hspells.exists_letter dateWords_wellOrdered
  obtain ⟨c', cs', d, rfl, hdigit⟩ := h.exists_cons
  obtain ⟨rfl, -⟩ := List.cons.inj heq
  rw [hletter] at hdigit
  cases hdigit

section Date

variable {head tail : List Char}

theorem readDate_of_word {text : List Char} {found : DateChoice × List Char} (h : dateWords.match? text = some found) :
    readDate text = .ok found := by
  unfold readDate
  rw [h]

theorem readDate_of_day {day : Day} (hday : SpellsDay day head) (hend : atWordEnd tail = true) :
    readDate (head ++ tail) = .ok (.explicit day, dropBlanks tail) := by
  obtain ⟨year, month, n, hwritten, hof⟩ := writtenDate?_spellsDay.2 ⟨head, rfl, hday, hend⟩
  unfold readDate
  rw [match?_eq_none_of_spellsDay hday, hwritten]
  simp only [hof]

/-- Where a weekday is spelled, there is no other word for a day, and no written date. -/
theorem readDate_of_weekday {choice : DateChoice} (hweekday : weekdayNames.Spells choice head)
    (hend : atWordEnd tail = true) : readDate (head ++ tail) =
      readWord weekdayNames "today, tomorrow, yyyy-mm-dd or a weekday" (head ++ tail) := by
  have hnone := match?_eq_none_of_spells dateWords_wellOrdered weekdayNames_wellOrdered
    dateWords_weekdayNames_differ hweekday hend
  obtain ⟨c, cs, rfl, -, hletter⟩ := hweekday.exists_letter weekdayNames_wellOrdered
  unfold readDate
  rw [hnone, List.cons_append, writtenDate?_eq_none hletter]

end Date

theorem recognizes_readDate : Recognizes readDate SpellsDate where
  sound := by
    intro text rest choice h
    unfold readDate at h
    split at h
    · next found hfound =>
      obtain rfl := Except.ok.inj h
      obtain ⟨head, tail, heq, hspells, hend, hrest⟩ :=
        (recognizes_readWord dateWords_wellOrdered "").sound (readWord_eq_ok.2 hfound)
      exact ⟨head, tail, heq, .inl hspells, hend, hrest⟩
    · split at h
      · next year month n tail hwritten =>
        split at h
        · next day hday =>
          obtain ⟨rfl, rfl⟩ := Prod.mk.inj (Except.ok.inj h)
          obtain ⟨head, heq, hspells, hend⟩ := writtenDate?_spellsDay.1 ⟨year, month, n, hwritten, hday⟩
          exact ⟨head, tail, heq, .inr (.inl ⟨day, rfl, hspells⟩), hend, rfl⟩
        · cases h
      · obtain ⟨head, tail, heq, hspells, hend, hrest⟩ := (recognizes_readWord weekdayNames_wellOrdered _).sound h
        exact ⟨head, tail, heq, .inr (.inr hspells), hend, hrest⟩
  complete := by
    rintro head tail choice (hword | ⟨day, rfl, hday⟩ | hweekday) hend hfollow
    · have hread := (recognizes_readWord dateWords_wellOrdered "").complete hword hend hfollow
      exact readDate_of_word (readWord_eq_ok.1 hread)
    · exact readDate_of_day hday hend
    · rw [readDate_of_weekday hweekday hend]
      exact (recognizes_readWord weekdayNames_wellOrdered _).complete hweekday hend hfollow
  starts := by
    rintro head choice (hword | ⟨day, rfl, hday⟩ | hweekday)
    · exact (recognizes_readWord dateWords_wellOrdered "").starts hword
    · obtain ⟨c, cs, d, rfl, hdigit⟩ := hday.exists_cons
      exact ⟨c, cs, rfl, isWordChar_of_digitValue? hdigit⟩
    · exact (recognizes_readWord weekdayNames_wellOrdered "").starts hweekday

/-! ## Clauses -/

/-- an alternative of a choice: what it reads begins with one of the words -/
structure Alternative {α : Type} (reader : List Char → Reading α) (Spells : α → List Char → Prop)
    (words : List (List Nat)) : Prop extends Recognizes reader Spells where
  opens : OpensWith Spells words

section Choice

variable {α β : Type} {reader : List Char → Reading α} {Spells : α → List Char → Prop} {words : List (List Nat)}

theorem Alternative.map (h : Alternative reader Spells words) (f : α → β) :
    Alternative (fun text => Reading.map f (reader text)) (fun b text => ∃ a, f a = b ∧ Spells a text) words where
  sound := by
    intro text rest b hread
    obtain ⟨a, ha, rfl⟩ := Reading.map_eq_ok.1 hread
    obtain ⟨head, tail, heq, hspells, hend, hrest⟩ := h.sound ha
    exact ⟨head, tail, heq, ⟨a, rfl, hspells⟩, hend, hrest⟩
  complete := by
    rintro head tail b ⟨a, rfl, hspells⟩ hend hfollow
    exact Reading.map_eq_ok.2 ⟨a, h.complete hspells hend hfollow, rfl⟩
  starts := by
    rintro head b ⟨a, -, hspells⟩
    exact h.starts hspells
  opens := by
    rintro head tail b ⟨a, -, hspells⟩ hend
    exact h.opens hspells hend

theorem alternative_none : Alternative (firstOf ([] : List (List Char → Reading α))) (fun _ _ => False) [] where
  sound := fun h => by cases h
  complete := fun h => h.elim
  starts := fun h => h.elim
  opens := fun _ _ _ h => h.elim

theorem firstOf_of_first {others : List (List Char → Reading α)} {text : List Char} {found : α × List Char}
    (h : reader text = .ok found) : firstOf (reader :: others) text = .ok found := by
  unfold firstOf
  rw [h]

/-- Where one of the other alternatives is spelled, the first one does not read: it would begin with the same word. -/
theorem Alternative.firstOf_of_others {others : List (List Char → Reading α)} {Others : α → List Char → Prop}
    {more : List (List Nat)} (h : Alternative reader Spells words) (hopens : OpensWith Others more)
    (hdiff : ∀ word ∈ words, word ∉ more) {head tail : List Char} {a : α} (hspells : Others a head)
    (hend : atWordEnd tail = true) {found : α × List Char} (hread : firstOf others (head ++ tail) = .ok found) :
    firstOf (reader :: others) (head ++ tail) = .ok found := by
  unfold firstOf
  split
  · next first hfirst =>
    obtain ⟨head', tail', heq, hspells', hend', -⟩ := h.sound hfirst
    have hin := h.opens hspells' hend'
    rw [← heq] at hin
    exact absurd (hopens hspells hend) (hdiff _ hin)
  · rw [hread]

/-- A choice reads what one of its alternatives spells, if they begin with different words. -/
theorem Alternative.choice {others : List (List Char → Reading α)} {Others : α → List Char → Prop}
    {more : List (List Nat)} (h : Alternative reader Spells words) (hothers : Alternative (firstOf others) Others more)
    (hdiff : ∀ word ∈ words, word ∉ more) :
    Alternative (firstOf (reader :: others)) (fun a text => Spells a text ∨ Others a text) (words ++ more) where
  sound := by
    intro text rest a hread
    unfold firstOf at hread
    split at hread
    · next found hfound =>
      obtain rfl := Except.ok.inj hread
      obtain ⟨head, tail, heq, hspells, hend, hrest⟩ := h.sound hfound
      exact ⟨head, tail, heq, .inl hspells, hend, hrest⟩
    · split at hread
      · next found hfound =>
        obtain rfl := Except.ok.inj hread
        obtain ⟨head, tail, heq, hspells, hend, hrest⟩ := hothers.sound hfound
        exact ⟨head, tail, heq, .inr hspells, hend, hrest⟩
      · cases hread
  complete := by
    rintro head tail a (hspells | hspells) hend hfollow
    · exact firstOf_of_first (h.complete hspells hend hfollow)
    · exact h.firstOf_of_others hothers.opens hdiff hspells hend (hothers.complete hspells hend hfollow)
  starts := by
    rintro head a (hspells | hspells)
    · exact h.starts hspells
    · exact hothers.starts hspells
  opens := by
    rintro head tail a (hspells | hspells) hend
    · exact List.mem_append_left _ (h.opens hspells hend)
    · exact List.mem_append_right _ (hothers.opens hspells hend)

end Choice

theorem atWord_forms : atWord.forms = [["at".toList]] := by decide +kernel
theorem noWord_forms : noWord.forms = [["no".toList]] := by decide +kernel
theorem onWord_forms : onWord.forms = [["on".toList]] := by decide +kernel

theorem alternative_readAfter {α : Type} {opener : Keyword} {word : List Char} {argument : List Char → Reading α}
    {Spells : α → List Char → Prop} (hforms : opener.forms = [[word]]) (hword : Lettered [word])
    (h : Recognizes argument Spells) :
    Alternative (readAfter opener argument) (fun a => SpellsAfter opener (Spells a)) [word.map caseKey] :=
  { recognizes_readAfter hforms hword h with opens := opensWith_after hforms hword }

theorem spellsClause_eq : SpellsClause = fun content text =>
    (∃ canteen, .location canteen = content ∧ SpellsAfter atWord (canteenNames.Spells canteen) text) ∨
      (∃ ingredient, .exclude ingredient = content ∧ SpellsAfter noWord (excludeNames.Spells ingredient) text) ∨
      (∃ choice, .date choice = content ∧ SpellsAfter onWord (SpellsDate choice) text) ∨
      (∃ diet, .restriction diet = content ∧ restrictionNames.Spells diet text) ∨ False := by
  funext content text
  cases content <;> simp [SpellsClause]

/-- the words that a diet may begin with -/
def dietWords : List (List Nat) := (restrictionNames.forms.map Prod.fst).filterMap fun form => (keys form).head?

/-- A clause begins with an opener or with a diet, and no two of them are the same. -/
theorem openings_eq : openings =
    ["at".toList.map caseKey] ++ (["no".toList.map caseKey] ++ (["on".toList.map caseKey] ++ (dietWords ++ []))) := by
  decide +kernel

theorem openings_nodup : openings.Nodup := by decide +kernel

/-- **Clauses are read as they are spelled**, in spite of the order of the alternatives, and begin with one of the words
that may open them. -/
theorem alternative_readContent : Alternative readContent SpellsClause openings := by
  have hdistinct := openings_nodup
  rw [openings_eq, List.nodup_append, List.nodup_append, List.nodup_append] at hdistinct
  obtain ⟨-, ⟨-, ⟨-, -, hon⟩, hno⟩, hat⟩ := hdistinct
  have hcanteen := recognizes_readWord canteenNames_wellOrdered canteenNames.name
  have hingredient := recognizes_readWord excludeNames_wellOrdered excludeNames.name
  have hdiet : Alternative (readWord restrictionNames restrictionNames.name) restrictionNames.Spells dietWords :=
    { recognizes_readWord restrictionNames_wellOrdered _ with opens := opensWith_vocabulary restrictionNames_wellOrdered }
  -- from the last alternative to the first, each before those that the order puts behind it
  have h1 := (hdiet.map Content.restriction).choice alternative_none (by simp)
  have h2 := ((alternative_readAfter onWord_forms (by decide +kernel) recognizes_readDate).map Content.date).choice h1
    fun word hword hmem => hon word hword word hmem rfl
  have h3 := ((alternative_readAfter noWord_forms (by decide +kernel) hingredient).map Content.exclude).choice h2
    fun word hword hmem => hno word hword word hmem rfl
  have h4 := ((alternative_readAfter atWord_forms (by decide +kernel) hcanteen).map Content.location).choice h3
    fun word hword hmem => hat word hword word hmem rfl
  rw [openings_eq, spellsClause_eq]
  exact h4

end MenuBoard.Phrase
