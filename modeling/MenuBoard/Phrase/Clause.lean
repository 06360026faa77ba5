import MenuBoard.Phrase.Words
import MenuBoard.Text.Digit

/-!
Clauses, and how a phrase is cut into them.

    phrase      := clause*
    clause      := location | exclude | date | restriction
    location    := "at" canteen
    exclude     := "no" ("pig" | "fish" | "alcohol" | "booze")
    date        := "on" ("today" | "tomorrow" | yyyy-mm-dd | weekday)
    restriction := "vegan" | "vegetarian" | "veggie" | "flexible"

The readers take the rest of the phrase and hand back what they leave of it. A reader that fails says where it stopped and
what it wanted there; of several alternatives the stops furthest into the phrase are reported. `tokenize` is total because
every clause takes at least one character (`readContent_shorter`).
-/

namespace MenuBoard.Phrase

open MenuBoard.Text MenuBoard.Calendar

/-- what a clause says -/
inductive Content where
  | location (canteen : Canteen)
  | exclude (ingredient : Exclude)
  | date (choice : DateChoice)
  | restriction (diet : Restriction)
  deriving DecidableEq, Repr

/-- the name of a kind of clause -/
def Content.kindName : Content → String
  | .location _ => "location"
  | .exclude _ => "exclude"
  | .date _ => "date"
  | .restriction _ => "restriction"

/-- a clause and the part of the phrase that it takes, blanks behind it included -/
structure Clause where
  content : Content
  start : Nat
  stop : Nat
  deriving DecidableEq, Repr

/-- where a reader stopped, by what was left of the phrase, and what it wanted there -/
structure Stop where
  left : List Char
  expected : String
  deriving DecidableEq, Repr

/-- a reader's value and the rest of the phrase, or its stops -/
abbrev Reading (α : Type) := Except (List Stop) (α × List Char)

/-- a word of a vocabulary -/
def readWord {α : Type} (v : Vocabulary α) (name : String) (text : List Char) : Reading α :=
  match v.match? text with
  | some found => .ok found
  | none => .error [⟨text, name⟩]

/-- an opener and its argument -/
def readAfter {α : Type} (opener : Keyword) (argument : List Char → Reading α) (text : List Char) : Reading α :=
  match opener.match? text with
  | some rest => argument rest
  | none => .error [⟨text, s!"'{opener.literal}'"⟩]

/-- the number of a row of digits, and the text after them -/
def digits? : (count : Nat) → (value : Nat) → (text : List Char) → Option (Nat × List Char)
  | 0, value, text => some (value, text)
  | _ + 1, _, [] => none
  | count + 1, value, c :: text =>
    match digitValue? c with
    | some d => digits? count (10 * value + d) text
    | none => none

/-- the text after a hyphen -/
def hyphen? : List Char → Option (List Char)
  | '-' :: text => some text
  | _ => none

/-- year, month and day written as yyyy-mm-dd in digits of any script, and the text after them -/
def writtenDate? (text : List Char) : Option ((Nat × Nat × Nat) × List Char) := do
  let (year, text) ← digits? 4 0 text
  let text ← hyphen? text
  let (month, text) ← digits? 2 0 text
  let text ← hyphen? text
  let (day, text) ← digits? 2 0 text
  let text ← ending? text
  return ((year, month, day), text)

/-- A day: a word for it, a written date, or a weekday. A written date that the calendar does not have is no weekday. -/
def readDate (text : List Char) : Reading DateChoice :=
  match dateWords.match? text with
  | some found => .ok found
  | none =>
    match writtenDate? text with
    | some ((year, month, day), rest) =>
      match Day.ofDate? year month day with
      | some day => .ok (.explicit day, dropBlanks rest)
      | none => .error [⟨text, "a valid yyyy-mm-dd date"⟩]
    | none => readWord weekdayNames "today, tomorrow, yyyy-mm-dd or a weekday" text

/-- the content of a clause of another kind -/
def Reading.map {α β : Type} (f : α → β) : Reading α → Reading β
  | .ok (a, rest) => .ok (f a, rest)
  | .error stops => .error stops

/-- the first alternative that succeeds, or the stops of all -/
def firstOf {α : Type} : List (List Char → Reading α) → List Char → Reading α
  | [], _ => .error []
  | alternative :: others, text =>
    match alternative text with
    | .ok found => .ok found
    | .error stops =>
      match firstOf others text with
      | .ok found => .ok found
      | .error more => .error (stops ++ more)

def readLocation (text : List Char) : Reading Content :=
  Reading.map .location (readAfter atWord (readWord canteenNames canteenNames.name) text)

def readExclude (text : List Char) : Reading Content :=
  Reading.map .exclude (readAfter noWord (readWord excludeNames excludeNames.name) text)

def readDateClause (text : List Char) : Reading Content := Reading.map .date (readAfter onWord readDate text)

def readRestriction (text : List Char) : Reading Content :=
  Reading.map .restriction (readWord restrictionNames restrictionNames.name text)

/-- the clause at the head of a text -/
def readContent : List Char → Reading Content := firstOf [readLocation, readExclude, readDateClause, readRestriction]

/-- a phrase that is not made of clauses alone: where the readers got stuck, and what they wanted there -/
structure Rejection where
  position : Nat
  expected : List String
  deriving DecidableEq, Repr

/-- the stops furthest into a phrase of the given length -/
def Rejection.ofStops (length : Nat) (stops : List Stop) : Rejection :=
  let least := (stops.map (·.left.length)).min?.getD length
  { position := length - least
    expected := ((stops.filter (·.left.length == least)).map (·.expected)).eraseDups }

/-- the wording of a rejection -/
def Rejection.message (phrase : List Char) (r : Rejection) : String :=
  let found := match (words (phrase.drop r.position)).head? with
    | some word => s!"'{String.ofList word}'"
    | none => "end of input"
  let wanted := " or ".intercalate r.expected
  s!"Unexpected {found} at position {r.position}; expected {wanted}"

section Length

theorem Reading.map_eq_ok {α β : Type} {f : α → β} {r : Reading α} {b : β} {rest : List Char} :
    Reading.map f r = .ok (b, rest) ↔ ∃ a, r = .ok (a, rest) ∧ f a = b := by
  rcases r with stops | ⟨a, rest'⟩
  · constructor
    · intro h
      cases h
    · rintro ⟨_, h, _⟩
      cases h
  · constructor
    · intro h
      have hp : (f a, rest') = (b, rest) := Except.ok.inj h
      obtain ⟨hb, hr⟩ := Prod.mk.inj hp
      exact ⟨a, hr ▸ rfl, hb⟩
    · rintro ⟨a', h, hb⟩
      obtain ⟨ha, hr⟩ := Prod.mk.inj (Except.ok.inj h)
      exact congrArg Except.ok (Prod.ext ((congrArg f ha).trans hb) hr)

theorem readWord_eq_ok {α : Type} {v : Vocabulary α} {name : String} {text rest : List Char} {a : α} :
    readWord v name text = .ok (a, rest) ↔ v.match? text = some (a, rest) := by
  unfold readWord
  split <;> simp_all

theorem length_digits? {count value n : Nat} {text rest : List Char} (h : digits? count value text = some (n, rest)) :
    rest.length + count = text.length := by
  induction count generalizing value text with
  | zero => simp [digits?] at h; simp [h]
  | succ count ih =>
    cases text with
    | nil => simp [digits?] at h
    | cons c text =>
      unfold digits? at h
      split at h
      · have := ih h; simp only [List.length_cons]; omega
      · cases h

theorem length_hyphen? {text rest : List Char} (h : hyphen? text = some rest) : rest.length + 1 = text.length := by
  unfold hyphen? at h
  split at h
  · obtain rfl := Option.some.inj h; simp
  · cases h

theorem length_writtenDate? {text rest : List Char} {ymd : Nat × Nat × Nat}
    (h : writtenDate? text = some (ymd, rest)) : rest.length + 10 = text.length := by
  simp only [writtenDate?, Option.bind_eq_bind, Option.bind_eq_some_iff, Option.pure_def, Option.some.injEq,
    Prod.mk.injEq] at h
  obtain ⟨⟨y, t1⟩, h1, t2, h2, ⟨m, t3⟩, h3, t4, h4, ⟨d, t5⟩, h5, t6, h6, -, rfl⟩ := h
  obtain ⟨rfl, -⟩ := ending?_eq_some.1 h6
  have := length_digits? h1
  have := length_hyphen? h2
  have := length_digits? h3
  have := length_hyphen? h4
  have := length_digits? h5
  simp only at *
  omega

theorem readDate_le {text rest : List Char} {choice : DateChoice} (h : readDate text = .ok (choice, rest)) :
    rest.length ≤ text.length := by
  unfold readDate at h
  split at h
  · next found hm =>
    obtain rfl := Except.ok.inj h
    obtain ⟨e, -, he⟩ := Vocabulary.length_match? hm
    omega
  · split at h
    · next y m d r hw =>
      have hlen := length_writtenDate? hw
      split at h
      · cases h
        have := length_dropBlanks r
        omega
      · cases h
    · obtain ⟨e, -, he⟩ := Vocabulary.length_match? (readWord_eq_ok.1 h)
      omega

/-- An opener of two letters takes them off whatever its argument leaves. -/
theorem readAfter_shorter {α : Type} {opener : Keyword} {argument : List Char → Reading α} {text rest : List Char} {a : α}
    (hopener : opener.words.flatten.length = 2)
    (hargument : ∀ {t r : List Char} {b : α}, argument t = .ok (b, r) → r.length ≤ t.length)
    (h : readAfter opener argument text = .ok (a, rest)) : rest.length < text.length := by
  unfold readAfter at h
  split at h
  · next t ht =>
    have := Keyword.length_match? ht
    have := hargument h
    omega
  · cases h

theorem readWord_le {α : Type} {v : Vocabulary α} {name : String} {text rest : List Char} {a : α}
    (h : readWord v name text = .ok (a, rest)) : rest.length ≤ text.length := by
  obtain ⟨e, -, he⟩ := Vocabulary.length_match? (readWord_eq_ok.1 h)
  omega

theorem firstOf_eq_ok {α : Type} {alternatives : List (List Char → Reading α)} {text : List Char} {found : α × List Char}
    (h : firstOf alternatives text = .ok found) : ∃ f ∈ alternatives, f text = .ok found := by
  induction alternatives with
  | nil => cases h
  | cons f others ih =>
    unfold firstOf at h
    split at h
    · next hf => cases h; exact ⟨f, by simp, hf⟩
    · split at h
      · next ho =>
        cases h
        obtain ⟨g, hg, heq⟩ := ih ho
        exact ⟨g, by simp [hg], heq⟩
      · cases h

/-- A clause takes at least one character. -/
theorem readContent_shorter {text rest : List Char} {content : Content} (h : readContent text = .ok (content, rest)) :
    rest.length < text.length := by
  obtain ⟨f, hf, h⟩ := firstOf_eq_ok h
  simp only [List.mem_cons, List.not_mem_nil, or_false] at hf
  rcases hf with rfl | rfl | rfl | rfl <;> obtain ⟨a, ha, -⟩ := Reading.map_eq_ok.1 h
  · exact readAfter_shorter atWord_words readWord_le ha
  · exact readAfter_shorter noWord_words readWord_le ha
  · exact readAfter_shorter onWord_words readDate_le ha
  · obtain ⟨e, he, hlen⟩ := Vocabulary.length_match? (readWord_eq_ok.1 ha)
    have := restrictionNames_nonempty e he
    omega

end Length

/-- the clauses of a text that begins `start` characters into the phrase -/
def clausesFrom (start : Nat) (text : List Char) : Except (List Stop) (List Clause) :=
  if text.isEmpty then .ok []
  else
    match _h : readContent text with
    | .error stops => .error stops
    | .ok (content, rest) =>
      let stop := start + (text.length - rest.length)
      match clausesFrom stop rest with
      | .error stops => .error stops
      | .ok clauses => .ok (⟨content, start, stop⟩ :: clauses)
termination_by text.length
decreasing_by exact readContent_shorter _h

/-- Cuts a phrase into clauses, in the order they appear. -/
def tokenize (phrase : List Char) : Except Rejection (List Clause) :=
  let text := dropBlanks phrase
  match clausesFrom (phrase.length - text.length) text with
  | .ok clauses => .ok clauses
  | .error stops => .error (Rejection.ofStops phrase.length stops)

end MenuBoard.Phrase
