import MenuBoard.Numeral
import MenuBoard.Phrase.Clause
import MenuBoard.Proofs.Phrase.Spelling

/-!
The grammar of phrases, said without a reader and without an order of alternatives.

    phrase      := blanks* clause (blanks+ clause)* blanks* | blanks*
    clause      := "at" blanks+ canteen | "no" blanks+ ingredient | "on" blanks+ day | diet
    day         := word for a day | yyyy-mm-dd | weekday

A clause ends where a word may end. Nothing here says which of two readings of a phrase is meant: that there is only
one is a result about the grammar.
-/

namespace MenuBoard.Phrase

open MenuBoard.Text MenuBoard.Calendar

/-- `text` spells an entry of the vocabulary that stands for `value` -/
def Vocabulary.Spells {α : Type} (v : Vocabulary α) (value : α) (text : List Char) : Prop :=
  ∃ k, (k, value) ∈ v.entries ∧ k.Spells text

/-- an opener, at least one blank, and an argument -/
def SpellsAfter (opener : Keyword) (Argument : List Char → Prop) (text : List Char) : Prop :=
  ∃ head gap tail, text = head ++ (gap ++ tail) ∧ opener.Spells head ∧ gap ≠ [] ∧ Blank gap ∧ Argument tail

/-- `count` decimal digits of any script that stand for the number `n` -/
def SpellsNumber (count n : Nat) (text : List Char) : Prop :=
  ∃ digits : List Nat, text.map digitValue? = digits.map some ∧ digits.length = count ∧ ofDigits digits = n

/-- the date of a day, as yyyy-mm-dd -/
def SpellsDay (day : Day) (text : List Char) : Prop :=
  ∃ year month n y m d, text = y ++ '-' :: (m ++ '-' :: d) ∧ SpellsNumber 4 year y ∧ SpellsNumber 2 month m ∧
    SpellsNumber 2 n d ∧ isDate year month n = true ∧ day.date = (year, month, n)

/-- a word for a day, a date, or a weekday -/
def SpellsDate (choice : DateChoice) (text : List Char) : Prop :=
  dateWords.Spells choice text ∨ (∃ day, choice = .explicit day ∧ SpellsDay day text) ∨ weekdayNames.Spells choice text

/-- `text` spells a clause with this content -/
def SpellsClause : Content → List Char → Prop
  | .location canteen => SpellsAfter atWord (canteenNames.Spells canteen)
  | .exclude ingredient => SpellsAfter noWord (excludeNames.Spells ingredient)
  | .date choice => SpellsAfter onWord (SpellsDate choice)
  | .restriction diet => restrictionNames.Spells diet

/-- clauses with blanks between them, and perhaps behind the last one; after each a word may end -/
inductive SpellsClauses : List Content → List Char → Prop where
  | last {content : Content} {clause gap : List Char} : SpellsClause content clause → Blank gap → atWordEnd gap = true →
      SpellsClauses [content] (clause ++ gap)
  | cons {content : Content} {clause gap rest : List Char} {contents : List Content} : SpellsClause content clause →
      gap ≠ [] → Blank gap → atWordEnd (gap ++ rest) = true → SpellsClauses contents rest →
      SpellsClauses (content :: contents) (clause ++ (gap ++ rest))

/-- `phrase` spells clauses with these contents, in this order; blanks alone spell none -/
def SpellsPhrase (contents : List Content) (phrase : List Char) : Prop :=
  (contents = [] ∧ Blank phrase) ∨ ∃ lead body, phrase = lead ++ body ∧ Blank lead ∧ SpellsClauses contents body

/-! ## Written dates -/

theorem digits?_eq_some {count value n : Nat} {text rest : List Char} :
    digits? count value text = some (n, rest) ↔ ∃ (head : List Char) (digits : List Nat), text = head ++ rest ∧
      head.map digitValue? = digits.map some ∧ digits.length = count ∧ digits.foldl (fun n d => 10 * n + d) value = n := by
  induction count generalizing value text with
  | zero =>
    constructor
    · intro h
      obtain ⟨rfl, rfl⟩ := Prod.mk.inj (Option.some.inj h)
      exact ⟨[], [], rfl, rfl, rfl, rfl⟩
    · rintro ⟨head, digits, rfl, hmap, hlen, rfl⟩
      obtain rfl := List.length_eq_zero_iff.1 hlen
      obtain rfl : head = [] := List.map_eq_nil_iff.1 hmap
      rfl
  | succ count ih =>
    cases text with
    | nil =>
      constructor
      · intro h
        cases h
      · rintro ⟨head, digits, heq, hmap, hlen, -⟩
        obtain ⟨rfl, -⟩ := List.append_eq_nil_iff.1 heq.symm
        obtain rfl : digits = [] := List.map_eq_nil_iff.1 hmap.symm
        cases hlen
    | cons c text =>
      unfold digits?
      constructor
      · intro h
        split at h
        · next d hd =>
          obtain ⟨head, digits, rfl, hmap, hlen, hval⟩ := ih.1 h
          exact ⟨c :: head, d :: digits, rfl, by simp [hd, hmap], by simp [hlen], hval⟩
        · cases h
      · rintro ⟨head, digits, heq, hmap, hlen, hval⟩
        cases digits with
        | nil => cases hlen
        | cons d digits =>
          cases head with
          | nil => cases hmap
          | cons c' head =>
            obtain ⟨rfl, rfl⟩ := List.cons.inj heq
            obtain ⟨hd, hrest⟩ := List.cons.inj hmap
            rw [hd]
            exact ih.2 ⟨head, digits, rfl, hrest, Nat.succ.inj hlen, hval⟩

theorem digits?_iff_spellsNumber {count n : Nat} {text rest : List Char} :
    digits? count 0 text = some (n, rest) ↔ ∃ head, text = head ++ rest ∧ SpellsNumber count n head := by
  rw [digits?_eq_some]
  constructor
  · rintro ⟨head, digits, rfl, hmap, hlen, hval⟩
    exact ⟨head, rfl, digits, hmap, hlen, hval⟩
  · rintro ⟨head, rfl, digits, hmap, hlen, hval⟩
    exact ⟨head, digits, rfl, hmap, hlen, hval⟩

theorem hyphen?_eq_some {text rest : List Char} : hyphen? text = some rest ↔ text = '-' :: rest := by
  unfold hyphen?
  split
  · simp [eq_comm]
  · next hne =>
    constructor
    · intro h
      cases h
    · rintro rfl
      exact absurd rfl (hne rest)

/-- A written date is four digits, two and two with hyphens between, where a word may end. -/
theorem writtenDate?_eq_some {text rest : List Char} {year month n : Nat} :
    writtenDate? text = some ((year, month, n), rest) ↔ ∃ y m d, text = y ++ '-' :: (m ++ '-' :: (d ++ rest)) ∧
      SpellsNumber 4 year y ∧ SpellsNumber 2 month m ∧ SpellsNumber 2 n d ∧ atWordEnd rest = true := by
  simp only [writtenDate?, Option.bind_eq_bind, Option.bind_eq_some_iff, Option.pure_def, Option.some.injEq,
    Prod.mk.injEq]
  constructor
  · rintro ⟨⟨y, t1⟩, h1, t2, h2, ⟨m, t3⟩, h3, t4, h4, ⟨d, t5⟩, h5, t6, h6, ⟨rfl, rfl, rfl⟩, rfl⟩
    obtain ⟨y, rfl, hy⟩ := digits?_iff_spellsNumber.1 h1
    obtain rfl := hyphen?_eq_some.1 h2
    obtain ⟨m, rfl, hm⟩ := digits?_iff_spellsNumber.1 h3
    obtain rfl := hyphen?_eq_some.1 h4
    obtain ⟨d, rfl, hd⟩ := digits?_iff_spellsNumber.1 h5
    obtain ⟨rfl, hend⟩ := ending?_eq_some.1 h6
    exact ⟨y, m, d, rfl, hy, hm, hd, hend⟩
  · rintro ⟨y, m, d, rfl, hy, hm, hd, hend⟩
    exact ⟨(year, _), digits?_iff_spellsNumber.2 ⟨y, rfl, hy⟩, _, hyphen?_eq_some.2 rfl,
      (month, _), digits?_iff_spellsNumber.2 ⟨m, rfl, hm⟩, _, hyphen?_eq_some.2 rfl,
      (n, _), digits?_iff_spellsNumber.2 ⟨d, rfl, hd⟩, rest, ending?_eq_some.2 ⟨rfl, hend⟩, ⟨rfl, rfl, rfl⟩, rfl⟩

theorem SpellsNumber.exists_cons {count n : Nat} {text : List Char} (h : SpellsNumber (count + 1) n text) :
    ∃ c cs d, text = c :: cs ∧ digitValue? c = some d := by
  obtain ⟨digits, hmap, hlen, -⟩ := h
  cases digits with
  | nil => cases hlen
  | cons d digits =>
    cases text with
    | nil => cases hmap
    | cons c cs => exact ⟨c, cs, d, rfl, (List.cons.inj hmap).1⟩

/-- A written date begins with a digit. -/
theorem SpellsDay.exists_cons {day : Day} {text : List Char} (h : SpellsDay day text) :
    ∃ c cs d, text = c :: cs ∧ digitValue? c = some d := by
  obtain ⟨year, month, n, y, m, d, rfl, hy, -⟩ := h
  obtain ⟨c, cs, v, rfl, hc⟩ := hy.exists_cons
  exact ⟨c, _, v, rfl, hc⟩

end MenuBoard.Phrase
