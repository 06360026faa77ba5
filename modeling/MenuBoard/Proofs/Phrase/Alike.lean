import MenuBoard.Proofs.Phrase.Stuck

/-!
Texts that the readers cannot tell apart.

A reader sees some traits of a character, and of a run of blanks only that something stands behind it. `shape` is what it
sees of a text, and texts with the same shape are `Alike`. What a reader leaves of alike texts is alike again, whether it
stops before the blanks or behind them, so every reader does the same on both: keywords (`Alike.match?`), dates
(`Alike.writtenDate?`), clauses (`respects_readContent`) and whole phrases (`tokenize_of_alike`), those that are rejected
included.
-/

namespace MenuBoard.Phrase

open MenuBoard.Text MenuBoard.Calendar

/-! ## Shapes -/

/-- what a reader sees of a character that is no blank -/
structure Traits where
  key : Nat
  wordChar : Bool
  digit : Option Nat
  hyphen : Bool
  deriving DecidableEq, Repr

def traits (c : Char) : Traits := ⟨caseKey c, isWordChar c, digitValue? c, c == '-'⟩

/-- a shape with a blank before it, if there is none and if it is not empty -/
def gapBefore : List (Option Traits) → List (Option Traits)
  | [] => []
  | none :: shape => none :: shape
  | some t :: shape => none :: some t :: shape

/-- what a reader sees of a text: the traits of its characters, and once for every run of blanks inside that it is there -/
def shape : List Char → List (Option Traits)
  | [] => []
  | c :: text => if isBlank c then gapBefore (shape text) else some (traits c) :: shape text

/-- The readers cannot tell two texts apart. -/
def Alike (a b : List Char) : Prop := shape a = shape b

/-- nothing or a blank comes first -/
def AtGap (text : List Char) : Prop := ∀ c ∈ text.head?, isBlank c = true

section Shape

variable {c : Char} {a b text : List Char}

theorem shape_blank_cons (h : isBlank c = true) (text : List Char) : shape (c :: text) = gapBefore (shape text) := if_pos h

theorem shape_cons (h : isBlank c = false) (text : List Char) : shape (c :: text) = some (traits c) :: shape text := by
  simp [shape, h]

theorem gapBefore_gapBefore (s : List (Option Traits)) : gapBefore (gapBefore s) = gapBefore s := by
  rcases s with _ | ⟨_ | t, s⟩ <;> rfl

theorem dropWhile_gapBefore (s : List (Option Traits)) :
    (gapBefore s).dropWhile Option.isNone = s.dropWhile Option.isNone := by
  rcases s with _ | ⟨_ | t, s⟩ <;> rfl

/-- A shape that begins with traits is that of a text which begins with a character that has them. -/
theorem exists_cons_of_shape {t : Traits} {s : List (Option Traits)} (h : shape text = some t :: s) :
    ∃ c cs, text = c :: cs ∧ isBlank c = false ∧ traits c = t ∧ shape cs = s := by
  cases text with
  | nil => cases h
  | cons c cs =>
    by_cases hc : isBlank c = true
    · -- before a blank there is nothing, or the mark of the blank
      rw [shape_blank_cons hc] at h
      rcases hs : shape cs with _ | ⟨_ | t', s'⟩ <;> rw [hs] at h <;> cases h
    · have hc : isBlank c = false := by simpa using hc
      rw [shape_cons hc] at h
      obtain ⟨ht, hs⟩ := List.cons.inj h
      exact ⟨c, cs, rfl, hc, Option.some.inj ht, hs⟩

theorem atGap_of_shape (h : ∀ t s, shape text ≠ some t :: s) : AtGap text := by
  intro c hc
  cases text with
  | nil => cases hc
  | cons d cs =>
    obtain rfl : d = c := Option.some.inj hc
    by_contra hd
    exact h _ _ (shape_cons (by simpa using hd) cs)

theorem shape_of_blank {gap : List Char} (h : Blank gap) : shape gap = [] := by
  induction gap with
  | nil => rfl
  | cons c gap ih =>
    rw [shape_blank_cons (h c List.mem_cons_self), ih fun d hd => h d (List.mem_cons_of_mem c hd)]
    rfl

/-- Blanks at the end do not show. -/
theorem shape_append_blank (text : List Char) {gap : List Char} (h : Blank gap) : shape (text ++ gap) = shape text := by
  induction text with
  | nil => exact shape_of_blank h
  | cons c text ih => rw [List.cons_append, shape, shape, ih]

theorem shape_dropBlanks (text : List Char) : shape (dropBlanks text) = (shape text).dropWhile Option.isNone := by
  induction text with
  | nil => rfl
  | cons c text ih =>
    by_cases hc : isBlank c = true
    · have hdrop : dropBlanks (c :: text) = dropBlanks text := List.dropWhile_cons_of_pos hc
      rw [hdrop, ih, shape_blank_cons hc, dropWhile_gapBefore]
    · have hc : isBlank c = false := by simpa using hc
      rw [dropBlanks_cons hc, shape_cons hc]
      rfl

end Shape

/-! ## Alike texts -/

namespace Alike

variable {a b : List Char}

theorem symm (h : Alike a b) : Alike b a := Eq.symm h

theorem dropBlanks (h : Alike a b) : Alike (dropBlanks a) (dropBlanks b) := by
  have h : shape a = shape b := h
  unfold Alike
  rw [shape_dropBlanks, shape_dropBlanks, h]

/-- What alike texts may begin with: characters of the same traits, and alike texts behind them, or nothing but gaps. -/
inductive Heads : List Char → List Char → Prop
  | char {c d : Char} {a b : List Char} (hc : isBlank c = false) (hd : isBlank d = false) (hsame : traits c = traits d)
      (h : Alike a b) : Heads (c :: a) (d :: b)
  | gap {a b : List Char} (ha : AtGap a) (hb : AtGap b) (h : Alike a b) : Heads a b

theorem heads (h : Alike a b) : Heads a b := by
  by_cases hchar : ∃ t s, shape a = some t :: s
  · obtain ⟨t, s, ha⟩ := hchar
    obtain ⟨c, cs, rfl, hc, htc, hcs⟩ := exists_cons_of_shape ha
    obtain ⟨d, ds, rfl, hd, htd, hds⟩ := exists_cons_of_shape (h.symm.trans ha)
    exact .char hc hd (htc.trans htd.symm) (hcs.trans hds.symm)
  · have hno : ∀ t s, shape a ≠ some t :: s := fun t s hs => hchar ⟨t, s, hs⟩
    exact .gap (atGap_of_shape hno) (atGap_of_shape fun t s hs => hno t s (Eq.trans h hs)) h

end Alike

/-! ## Before a gap -/

section AtGap

variable {text : List Char}

theorem AtGap.eq_nil_or (h : AtGap text) : text = [] ∨ ∃ c cs, text = c :: cs ∧ isBlank c = true := by
  cases text with
  | nil => exact .inl rfl
  | cons c cs => exact .inr ⟨c, cs, rfl, h c rfl⟩

theorem AtGap.atWordEnd (h : AtGap text) : atWordEnd text = true := by
  rcases h.eq_nil_or with rfl | ⟨c, cs, rfl, hc⟩
  · rfl
  · rw [atWordEnd_cons, isWordChar_of_isBlank hc]
    rfl

/-- No word of letters begins at a gap. -/
theorem AtGap.stripWord? {w : Char} {word : List Char} (h : AtGap text) (hw : w ∈ alphabet) :
    stripWord? (w :: word) text = none := by
  rcases h.eq_nil_or with rfl | ⟨c, cs, rfl, hc⟩
  · rfl
  · refine if_neg fun hsame => ?_
    have hword := isWordChar_of_alphabet hw (beq_iff_eq.1 hsame)
    rw [isWordChar_of_isBlank hc] at hword
    cases hword

/-- Nor does a number. -/
theorem AtGap.digits? {count value : Nat} (h : AtGap text) : digits? (count + 1) value text = none := by
  rcases h.eq_nil_or with rfl | ⟨c, cs, rfl, hc⟩
  · rfl
  · cases hdigit : digitValue? c with
    | none => simp [Phrase.digits?, hdigit]
    | some d =>
      have hword := isWordChar_of_digitValue? hdigit
      rw [isWordChar_of_isBlank hc] at hword
      cases hword

theorem AtGap.hyphen? (h : AtGap text) : hyphen? text = none := by
  rcases h.eq_nil_or with rfl | ⟨c, cs, rfl, hc⟩
  · rfl
  · refine Option.eq_none_iff_forall_ne_some.2 fun rest hrest => ?_
    obtain ⟨rfl, -⟩ := List.cons.inj (hyphen?_eq_some.1 hrest)
    cases hc

/-- Where more words are to come it makes no difference whether a blank is asked for before them: at the end of a text there
is neither the blank nor the word. -/
theorem AtGap.afterWords? {word : List Char} {more : List (List Char)} (h : AtGap text) (hne : word ≠ []) :
    (afterBlanks? text).bind (afterWords? (word :: more)) = afterWords? (word :: more) (dropBlanks text) := by
  rcases h.eq_nil_or with rfl | ⟨c, cs, rfl, hc⟩
  · obtain ⟨w, ws, rfl⟩ := List.exists_cons_of_ne_nil hne
    cases more <;> rfl
  · have hblanks : afterBlanks? (c :: cs) = some (dropBlanks cs) := if_pos hc
    have hdrop : dropBlanks (c :: cs) = dropBlanks cs := List.dropWhile_cons_of_pos hc
    rw [hblanks, hdrop, Option.bind_some]

end AtGap

/-! ## Words -/

theorem option_rel_bind {α β : Type} {R : α → α → Prop} {S : β → β → Prop} {x y : Option α} {f g : α → Option β}
    (h : Option.Rel R x y) (hf : ∀ a b, R a b → Option.Rel S (f a) (g b)) : Option.Rel S (x.bind f) (y.bind g) := by
  cases h with
  | none => exact .none
  | some hab => exact hf _ _ hab

theorem option_rel_map {α β : Type} {R : α → α → Prop} {S : β → β → Prop} {x y : Option α} {f g : α → β}
    (h : Option.Rel R x y) (hf : ∀ a b, R a b → S (f a) (g b)) : Option.Rel S (x.map f) (y.map g) := by
  cases h with
  | none => exact .none
  | some hab => exact .some (hf _ _ hab)

/-- the same value, and alike texts behind it -/
def AlikeBehind {α : Type} (x y : α × List Char) : Prop := x.1 = y.1 ∧ Alike x.2 y.2

/-- Two readers find the same, or both find nothing. -/
theorem alikeBehind_cases {α : Type} {x y : Option (α × List Char)} (h : Option.Rel AlikeBehind x y) :
    x = none ∧ y = none ∨ ∃ a s t, x = some (a, s) ∧ y = some (a, t) ∧ Alike s t := by
  cases h with
  | none => exact .inl ⟨rfl, rfl⟩
  | @some p q hpq =>
    obtain ⟨a, s⟩ := p
    obtain ⟨_, t⟩ := q
    obtain ⟨rfl, hst⟩ := hpq
    exact .inr ⟨a, s, t, rfl, rfl, hst⟩

namespace Alike

variable {a b : List Char}

theorem atWordEnd_eq (h : Alike a b) : atWordEnd a = atWordEnd b := by
  cases h.heads with
  | char _ _ hsame _ =>
    rw [atWordEnd_cons, atWordEnd_cons]
    exact congrArg (fun t => !t.wordChar) hsame
  | gap ha hb _ => rw [ha.atWordEnd, hb.atWordEnd]

theorem ending? (h : Alike a b) : Option.Rel Alike (ending? a) (ending? b) := by
  unfold Phrase.ending?
  rw [h.atWordEnd_eq]
  split
  · exact .some h
  · exact .none

theorem stripWord? {word : List Char} (hword : ∀ c ∈ word, c ∈ alphabet) (h : Alike a b) :
    Option.Rel Alike (stripWord? word a) (stripWord? word b) := by
  induction word generalizing a b with
  | nil => exact .some h
  | cons w word ih =>
    have hw := hword w List.mem_cons_self
    cases h.heads with
    | gap ha hb _ =>
      rw [ha.stripWord? hw, hb.stripWord? hw]
      exact .none
    | @char c d _ _ _ _ hsame hrest =>
      have hkey : caseKey c = caseKey d := congrArg Traits.key hsame
      have hfits : sameIgnoringCase w c = sameIgnoringCase w d := congrArg (caseKey w == ·) hkey
      simp only [Text.stripWord?, hfits]
      by_cases hwd : sameIgnoringCase w d = true
      · rw [if_pos hwd, if_pos hwd]
        exact ih (fun c hc => hword c (List.mem_cons_of_mem w hc)) hrest
      · rw [if_neg hwd, if_neg hwd]
        exact .none

theorem afterWords? {form : List (List Char)} (hform : Lettered form) (h : Alike a b) :
    Option.Rel Alike (afterWords? form a) (afterWords? form b) := by
  induction form generalizing a b with
  | nil => exact .some h
  | cons word form ih =>
    obtain ⟨-, hword⟩ := hform word List.mem_cons_self
    have hstrip := stripWord? hword h
    cases form with
    | nil => exact hstrip
    | cons next more =>
      obtain ⟨hne, -⟩ := hform.tail next List.mem_cons_self
      simp only [Phrase.afterWords?, Option.bind_eq_bind]
      refine option_rel_bind hstrip fun s t hst => ?_
      cases hst.heads with
      | char hc hd _ _ =>
        simp only [afterBlanks?, hc, hd]
        exact .none
      | gap hs ht _ =>
        rw [hs.afterWords? hne, ht.afterWords? hne]
        exact ih hform.tail hst.dropBlanks

theorem readForm? {form : List (List Char)} (hform : Lettered form) (h : Alike a b) :
    Option.Rel Alike (readForm? form a) (readForm? form b) :=
  option_rel_bind (h.afterWords? hform) fun _ _ hst => hst.ending?

theorem matchForm? {α : Type} {entry : List (List Char) × α} (hform : Lettered entry.1) (h : Alike a b) :
    Option.Rel AlikeBehind (matchForm? a entry) (matchForm? b entry) :=
  option_rel_map (h.readForm? hform) fun _ _ hst => ⟨rfl, hst.dropBlanks⟩

/-- A vocabulary finds the same in alike texts. -/
theorem match? {α : Type} {v : Vocabulary α} (hv : WellOrdered (v.forms.map Prod.fst)) (h : Alike a b) :
    Option.Rel AlikeBehind (v.match? a) (v.match? b) := by
  have hforms : ∀ entry ∈ v.forms, Lettered entry.1 := fun entry he => (hv.lettered _ (List.mem_map_of_mem he)).2
  rw [Vocabulary.match?_eq_findSome?, Vocabulary.match?_eq_findSome?]
  revert hforms
  induction v.forms with
  | nil => exact fun _ => .none
  | cons entry entries ih =>
    intro hforms
    have hfirst := h.matchForm? (hforms entry List.mem_cons_self)
    have hothers := ih fun e he => hforms e (List.mem_cons_of_mem entry he)
    rw [List.findSome?_cons, List.findSome?_cons]
    rcases alikeBehind_cases hfirst with ⟨hno, hno'⟩ | ⟨value, s, t, hfound, hfound', hst⟩
    · rw [hno, hno']
      exact hothers
    · rw [hfound, hfound']
      exact .some ⟨rfl, hst⟩

/-- An opener stands before alike texts, or at neither place. -/
theorem opener {k : Keyword} (hk : k ∈ openers) (h : Alike a b) :
    k.match? a = none ∧ k.match? b = none ∨ ∃ s t, k.match? a = some s ∧ k.match? b = some t ∧ Alike s t := by
  obtain ⟨hforms, hletters⟩ := openers_forms k hk
  have hread := h.readForm? hletters
  rw [Keyword.match?_eq_findSome?, Keyword.match?_eq_findSome?, hforms, List.findSome?_singleton,
    List.findSome?_singleton]
  revert hread
  generalize Phrase.readForm? [k.literal.toList] a = x
  generalize Phrase.readForm? [k.literal.toList] b = y
  intro hread
  cases hread with
  | none => exact .inl ⟨rfl, rfl⟩
  | some hst => exact .inr ⟨_, _, rfl, rfl, hst.dropBlanks⟩

/-! ## Dates -/

theorem digits? {count value : Nat} (h : Alike a b) :
    Option.Rel AlikeBehind (digits? count value a) (digits? count value b) := by
  induction count generalizing value a b with
  | zero => exact .some ⟨rfl, h⟩
  | succ count ih =>
    cases h.heads with
    | gap ha hb _ =>
      rw [ha.digits?, hb.digits?]
      exact .none
    | @char c d _ _ _ _ hsame hrest =>
      have hdigit : digitValue? c = digitValue? d := congrArg Traits.digit hsame
      simp only [Phrase.digits?, hdigit]
      split
      · exact ih hrest
      · exact .none

theorem hyphen? (h : Alike a b) : Option.Rel Alike (hyphen? a) (hyphen? b) := by
  cases h.heads with
  | gap ha hb _ =>
    rw [ha.hyphen?, hb.hyphen?]
    exact .none
  | @char c d _ _ _ _ hsame hrest =>
    have hhyphen : (c == '-') = (d == '-') := congrArg Traits.hyphen hsame
    by_cases hc : c = '-'
    · have hd : d = '-' := by simpa [hc] using hhyphen
      rw [hc, hd]
      exact .some hrest
    · have hd : d ≠ '-' := by
        rintro rfl
        exact hc (by simpa using hhyphen)
      simp [Phrase.hyphen?, hc, hd]

theorem writtenDate? (h : Alike a b) : Option.Rel AlikeBehind (writtenDate? a) (writtenDate? b) := by
  unfold Phrase.writtenDate?
  simp only [Option.bind_eq_bind, Option.pure_def]
  refine option_rel_bind h.digits? fun ⟨year, s1⟩ ⟨_, t1⟩ ⟨hyear, h1⟩ => ?_
  obtain rfl : year = _ := hyear
  refine option_rel_bind h1.hyphen? fun s2 t2 h2 => ?_
  refine option_rel_bind h2.digits? fun ⟨month, s3⟩ ⟨_, t3⟩ ⟨hmonth, h3⟩ => ?_
  obtain rfl : month = _ := hmonth
  refine option_rel_bind h3.hyphen? fun s4 t4 h4 => ?_
  refine option_rel_bind h4.digits? fun ⟨day, s5⟩ ⟨_, t5⟩ ⟨hday, h5⟩ => ?_
  obtain rfl : day = _ := hday
  exact option_rel_bind h5.ending? fun s6 t6 h6 => .some ⟨rfl, h6⟩

/-- A date that the calendar does not have is no better in other blanks. -/
theorem noSuchDay (h : Alike a b) (hno : NoSuchDay a) : NoSuchDay b := by
  obtain ⟨year, month, n, rest, hwritten, hday⟩ := noSuchDay_iff.1 hno
  rcases alikeBehind_cases h.writtenDate? with ⟨hnone, -⟩ | ⟨_, _, rest', hsome, hsome', -⟩
  · rw [hwritten] at hnone
    cases hnone
  · rw [hwritten] at hsome
    cases hsome
    exact noSuchDay_iff.2 ⟨year, month, n, rest', hsome', hday⟩

end Alike

/-! ## Clauses -/

/-- Two readings give the same and leave alike texts, or both fail. -/
inductive AlikeReadings {α : Type} : Reading α → Reading α → Prop
  | ok {a : α} {s t : List Char} (h : Alike s t) : AlikeReadings (.ok (a, s)) (.ok (a, t))
  | error {stops stops' : List Stop} : AlikeReadings (.error stops) (.error stops')

/-- A reader does the same on alike texts. -/
def Respects {α : Type} (reader : List Char → Reading α) : Prop :=
  ∀ ⦃a b⦄, Alike a b → AlikeReadings (reader a) (reader b)

theorem AlikeReadings.exists_of_ok {α : Type} {x y : Reading α} {a : α} {s : List Char} (h : AlikeReadings x y)
    (hx : x = .ok (a, s)) : ∃ t, y = .ok (a, t) ∧ Alike s t := by
  cases h with
  | ok hst =>
    cases hx
    exact ⟨_, rfl, hst⟩
  | error => cases hx

theorem AlikeReadings.exists_of_error {α : Type} {x y : Reading α} {stops : List Stop} (h : AlikeReadings x y)
    (hx : x = .error stops) : ∃ stops', y = .error stops' := by
  cases h with
  | ok => cases hx
  | error => exact ⟨_, rfl⟩

theorem respects_readWord {α : Type} {v : Vocabulary α} (hv : WellOrdered (v.forms.map Prod.fst)) (name : String) :
    Respects (readWord v name) := by
  intro a b h
  unfold readWord
  rcases alikeBehind_cases (h.match? hv) with ⟨hno, hno'⟩ | ⟨value, s, t, hfound, hfound', hst⟩
  · rw [hno, hno']
    exact .error
  · rw [hfound, hfound']
    exact .ok hst

theorem respects_readAfter {α : Type} {k : Keyword} {argument : List Char → Reading α} (hk : k ∈ openers)
    (hargument : Respects argument) : Respects (readAfter k argument) := by
  intro a b h
  unfold readAfter
  rcases h.opener hk with ⟨hno, hno'⟩ | ⟨s, t, hstands, hstands', hst⟩
  · rw [hno, hno']
    exact .error
  · rw [hstands, hstands']
    exact hargument hst

theorem Respects.map {α β : Type} {reader : List Char → Reading α} (h : Respects reader) (f : α → β) :
    Respects fun text => Reading.map f (reader text) := by
  intro a b hab
  have hread := h hab
  simp only
  revert hread
  generalize reader a = x
  generalize reader b = y
  intro hread
  cases hread with
  | ok hst => exact .ok hst
  | error => exact .error

theorem respects_firstOf {α : Type} {alternatives : List (List Char → Reading α)}
    (h : ∀ reader ∈ alternatives, Respects reader) : Respects (firstOf alternatives) := by
  intro a b hab
  induction alternatives with
  | nil => exact .error
  | cons reader others ih =>
    have hfirst := h reader List.mem_cons_self hab
    have hothers := ih fun other ho => h other (List.mem_cons_of_mem reader ho)
    simp only [firstOf]
    revert hfirst hothers
    generalize reader a = x
    generalize reader b = y
    generalize firstOf others a = x'
    generalize firstOf others b = y'
    intro hfirst hothers
    cases hfirst with
    | ok hst => exact .ok hst
    | error =>
      cases hothers with
      | ok hst => exact .ok hst
      | error => exact .error

theorem respects_readDate : Respects readDate := by
  intro a b h
  unfold readDate
  rcases alikeBehind_cases (h.match? dateWords_wellOrdered) with ⟨hno, hno'⟩ | ⟨choice, s, t, hfound, hfound', hst⟩
  · rw [hno, hno']
    rcases alikeBehind_cases h.writtenDate? with ⟨hno, hno'⟩ | ⟨⟨year, month, n⟩, s, t, hwritten, hwritten', hst⟩
    · rw [hno, hno']
      exact respects_readWord weekdayNames_wellOrdered _ h
    · rw [hwritten, hwritten']
      simp only
      cases Day.ofDate? year month n with
      | none => exact .error
      | some day => exact .ok hst.dropBlanks
  · rw [hfound, hfound']
    exact .ok hst

theorem respects_readContent : Respects readContent := by
  refine respects_firstOf fun reader hreader => ?_
  simp only [List.mem_cons, List.not_mem_nil, or_false] at hreader
  rcases hreader with rfl | rfl | rfl | rfl
  · exact (respects_readAfter (by decide) (respects_readWord canteenNames_wellOrdered _)).map Content.location
  · exact (respects_readAfter (by decide) (respects_readWord excludeNames_wellOrdered _)).map Content.exclude
  · exact (respects_readAfter (by decide) respects_readDate).map Content.date
  · exact (respects_readWord restrictionNames_wellOrdered _).map Content.restriction

/-! ## Phrases -/

/-- No blanks stand before what a clause leaves. -/
theorem dropBlanks_of_readContent {text rest : List Char} {content : Content} (h : readContent text = .ok (content, rest)) :
    dropBlanks rest = rest := by
  obtain ⟨head, tail, -, -, -, rfl⟩ := alternative_readContent.sound h
  exact dropBlanks_dropBlanks tail

/-- Alike texts end together, if no blanks stand before them. -/
theorem Alike.eq_nil {text : List Char} (h : Alike [] text) (htext : Text.dropBlanks text = text) : text = [] := by
  have hshape : shape text = [] := h.symm
  cases text with
  | nil => rfl
  | cons c cs =>
    by_cases hc : isBlank c = true
    · have hdrop : Text.dropBlanks (c :: cs) = Text.dropBlanks cs := List.dropWhile_cons_of_pos hc
      have hlength := length_dropBlanks cs
      rw [← hdrop, htext, List.length_cons] at hlength
      omega
    · rw [shape_cons (by simpa using hc)] at hshape
      cases hshape

theorem clausesFrom_of_stuck {text : List Char} {stops : List Stop} (hne : text ≠ []) (h : readContent text = .error stops)
    (start : Nat) : clausesFrom start text = .error stops := by
  have hempty : text.isEmpty = false := by simpa using hne
  rw [clausesFrom, hempty]
  simp only [Bool.false_eq_true, if_false]
  split
  · next h' =>
    rw [h] at h'
    cases h'
    rfl
  · next h' =>
    rw [h] at h'
    cases h'

theorem clausesFrom_eq_error {start : Nat} {text rest : List Char} {content : Content} {stops : List Stop}
    (hread : readContent text = .ok (content, rest))
    (hmore : clausesFrom (start + (text.length - rest.length)) rest = .error stops) :
    clausesFrom start text = .error stops := by
  have hempty : text.isEmpty = false := by
    cases text with
    | nil => exact absurd (readContent_shorter hread) (Nat.not_lt_zero _)
    | cons c text => rfl
  rw [clausesFrom, hempty]
  simp only [Bool.false_eq_true, if_false]
  split
  · next h =>
    rw [hread] at h
    cases h
  · next h =>
    rw [hread] at h
    cases h
    rw [hmore]

/-- Clauses are read from alike texts with the same contents, up to the end of both, or up to alike texts where the readers
are stuck. -/
theorem alike_clausesFrom (start start' : Nat) {a b : List Char} (h : Alike a b) (ha : dropBlanks a = a)
    (hb : dropBlanks b = b) :
    (∃ clauses clauses', clausesFrom start a = .ok clauses ∧ clausesFrom start' b = .ok clauses' ∧
      clauses.map (·.content) = clauses'.map (·.content)) ∨
    ∃ left left' stops stops', Alike left left' ∧ clausesFrom start a = .error stops ∧
      clausesFrom start' b = .error stops' ∧ readContent left = .error stops ∧ readContent left' = .error stops' := by
  fun_induction clausesFrom start a generalizing b start' with
  | case1 start a hempty =>
    obtain rfl := List.isEmpty_iff.1 hempty
    obtain rfl := h.eq_nil hb
    exact .inl ⟨[], [], rfl, clausesFrom_nil start', rfl⟩
  | case2 start a hempty stops hstuck =>
    obtain ⟨stops', hstuck'⟩ := (respects_readContent h).exists_of_error hstuck
    have hne : b ≠ [] := by
      rintro rfl
      exact hempty (List.isEmpty_iff.2 (h.symm.eq_nil ha))
    exact .inr ⟨a, b, stops, stops', h, rfl, clausesFrom_of_stuck hne hstuck' start', hstuck, hstuck'⟩
  | case3 start a hempty content rest hread stop stops hmore =>
    rename_i ih
    obtain ⟨rest', hread', hrest⟩ := (respects_readContent h).exists_of_ok hread
    have hmore' := ih (start' + (b.length - rest'.length)) hrest (dropBlanks_of_readContent hread)
      (dropBlanks_of_readContent hread')
    rcases hmore' with ⟨_, _, hok, -⟩ | ⟨left, left', _, stops', hleft, herror, hmore', hstuck⟩
    · rw [hmore] at hok
      cases hok
    · rw [hmore] at herror
      cases herror
      exact .inr ⟨left, left', stops, stops', hleft, rfl, clausesFrom_eq_error hread' hmore', hstuck⟩
  | case4 start a hempty content rest hread stop more hmore =>
    rename_i ih
    obtain ⟨rest', hread', hrest⟩ := (respects_readContent h).exists_of_ok hread
    have hmore' := ih (start' + (b.length - rest'.length)) hrest (dropBlanks_of_readContent hread)
      (dropBlanks_of_readContent hread')
    rcases hmore' with ⟨_, clauses', hok, hclauses', hcontents⟩ | ⟨_, _, _, _, -, herror, -⟩
    · rw [hmore] at hok
      cases hok
      refine .inl ⟨_, _, rfl, clausesFrom_eq_ok hread' hclauses', ?_⟩
      rw [List.map_cons, List.map_cons, hcontents]
    · rw [hmore] at herror
      cases herror

theorem asks_cases {k : Keyword} {rest : List Char} {wanted : String} (h : Asks k rest wanted) :
    k = atWord ∧ wanted = "canteen name" ∨ k = noWord ∧ wanted = "pig, fish or alcohol" ∨
      k = onWord ∧ NoSuchDay rest ∧ wanted = "a valid yyyy-mm-dd date" ∨
      k = onWord ∧ ¬ NoSuchDay rest ∧ wanted = "today, tomorrow, yyyy-mm-dd or a weekday" := by
  cases h with
  | canteen => exact .inl ⟨rfl, rfl⟩
  | ingredient => exact .inr (.inl ⟨rfl, rfl⟩)
  | noSuchDay h => exact .inr (.inr (.inl ⟨rfl, h, rfl⟩))
  | day h => exact .inr (.inr (.inr ⟨rfl, h, rfl⟩))

theorem Asks.of_alike {k : Keyword} {rest rest' : List Char} {wanted wanted' : String} (h : Alike rest rest')
    (hasks : Asks k rest wanted) (hasks' : Asks k rest' wanted') : wanted = wanted' := by
  have hdays : NoSuchDay rest ↔ NoSuchDay rest' := ⟨h.noSuchDay, h.symm.noSuchDay⟩
  have hcases := asks_cases hasks
  have hcases' := asks_cases hasks'
  rw [hdays] at hcases
  have hno : noWord ≠ atWord ∧ onWord ≠ atWord ∧ onWord ≠ noWord := by decide
  rcases hcases with ⟨rfl, rfl⟩ | ⟨rfl, rfl⟩ | ⟨rfl, hday, rfl⟩ | ⟨rfl, hday, rfl⟩
  · simpa [hno.1.symm, hno.2.1.symm, eq_comm] using hcases'
  · simpa [hno.1, hno.2.2.symm, eq_comm] using hcases'
  · simpa [hno.2.1, hno.2.2, hday, eq_comm] using hcases'
  · simpa [hno.2.1, hno.2.2, hday, eq_comm] using hcases'

/-- Where the readers are stuck at alike texts, the same is asked for. -/
theorem expected_of_stuck {left left' : List Char} {stops stops' : List Stop} (h : Alike left left')
    (hstuck : readContent left = .error stops) (hstuck' : readContent left' = .error stops') (length length' : Nat) :
    (Rejection.ofStops length stops).expected = (Rejection.ofStops length' stops').expected := by
  obtain ⟨hargument, hclause⟩ := ofStops_of_stuck hstuck length
  obtain ⟨hargument', hclause'⟩ := ofStops_of_stuck hstuck' length'
  by_cases hstands : ∃ k ∈ openers, ∃ rest, k.StandsAt left rest
  · obtain ⟨k, hk, rest, hrest⟩ := hstands
    obtain ⟨wanted, hasks, heq⟩ := hargument k hk rest hrest
    rw [standsAt_iff hk] at hrest
    rcases h.opener hk with ⟨hno, -⟩ | ⟨_, rest', hmatch, hmatch', hsame⟩
    · rw [hrest] at hno
      cases hno
    · rw [hrest] at hmatch
      cases hmatch
      obtain ⟨wanted', hasks', heq'⟩ := hargument' k hk rest' ((standsAt_iff hk).2 hmatch')
      rw [heq, heq', hasks.of_alike hsame hasks']
  · have hnone : ∀ k ∈ openers, ∀ rest, ¬ k.StandsAt left rest := fun k hk rest hrest => hstands ⟨k, hk, rest, hrest⟩
    have hnone' : ∀ k ∈ openers, ∀ rest, ¬ k.StandsAt left' rest := by
      intro k hk rest' hrest'
      rw [standsAt_iff hk] at hrest'
      rcases h.opener hk with ⟨-, hno⟩ | ⟨rest, _, hmatch, -, -⟩
      · rw [hrest'] at hno
        cases hno
      · exact hnone k hk rest ((standsAt_iff hk).2 hmatch)
    rw [hclause hnone, hclause' hnone']

/-- **Alike phrases are read alike**: their clauses have the same contents, or both are rejected and the same is asked for. -/
theorem tokenize_of_alike {a b : List Char} (h : Alike (dropBlanks a) (dropBlanks b)) :
    (∃ clauses clauses', tokenize a = .ok clauses ∧ tokenize b = .ok clauses' ∧
      clauses.map (·.content) = clauses'.map (·.content)) ∨
    ∃ r r', tokenize a = .error r ∧ tokenize b = .error r' ∧ r.expected = r'.expected := by
  rcases alike_clausesFrom (a.length - (dropBlanks a).length) (b.length - (dropBlanks b).length) h
    (dropBlanks_dropBlanks a) (dropBlanks_dropBlanks b) with
    ⟨clauses, clauses', hread, hread', hcontents⟩ | ⟨left, left', stops, stops', hleft, hread, hread', hstuck, hstuck'⟩
  · exact .inl ⟨clauses, clauses', tokenize_eq_ok.2 hread, tokenize_eq_ok.2 hread', hcontents⟩
  · exact .inr ⟨_, _, tokenize_eq_error.2 ⟨stops, hread, rfl⟩, tokenize_eq_error.2 ⟨stops', hread', rfl⟩,
      expected_of_stuck hleft hstuck hstuck' _ _⟩

end MenuBoard.Phrase
