import MenuBoard.Text.Blank
import MenuBoard.Text.Case
import MenuBoard.Text.Quoted
import MenuBoard.Text.WordChar

/-!
Keywords of a phrase: a literal, and perhaps a fragment that may follow it (`tue` or `tuesday`, but not `tues`). The words
of a literal are separated by any run of blanks, case is ignored, and a keyword ends where a word may end.

`Keyword.match?` prefers the reading with the fragment; `length_match?` says how much of the text it leaves.
-/

namespace MenuBoard.Phrase

open MenuBoard.Text

/-- a literal and the fragment that may follow it -/
structure Keyword where
  literal : String
  suffix : String := ""
  deriving DecidableEq, Repr

/-- The text after at least one blank and all further ones. -/
def afterBlanks? : List Char → Option (List Char)
  | [] => none
  | c :: text => if isBlank c then some (dropBlanks text) else none

/-- the text after the given words, in a row and separated by blanks -/
def afterWords? : (words : List (List Char)) → (text : List Char) → Option (List Char)
  | [], text => some text
  | [word], text => stripWord? word text
  | word :: rest, text => do
    let text ← stripWord? word text
    let text ← afterBlanks? text
    afterWords? rest text

/-- the text itself, where a word may end -/
def ending? (text : List Char) : Option (List Char) := if atWordEnd text then some text else none

namespace Keyword

/-- the words of the literal -/
def words (k : Keyword) : List (List Char) := Text.words k.literal.toList

/-- the text after the reading with the fragment -/
def withSuffix? (k : Keyword) (text : List Char) : Option (List Char) :=
  if k.suffix.toList.isEmpty then none
  else do
    let text ← afterWords? k.words text
    let text ← stripWord? k.suffix.toList text
    ending? text

/-- the text after the reading without the fragment -/
def withoutSuffix? (k : Keyword) (text : List Char) : Option (List Char) := do
  let text ← afterWords? k.words text
  ending? text

/-- The text after the keyword and the blanks behind it, if it begins with the keyword. -/
def match? (k : Keyword) (text : List Char) : Option (List Char) :=
  (k.withSuffix? text <|> k.withoutSuffix? text).map dropBlanks

/-- a keyword as messages show it -/
def text (k : Keyword) : String :=
  if k.suffix.isEmpty then s!"Keyword({quoted k.literal})" else s!"Keyword({quoted k.literal}, {quoted k.suffix})"

end Keyword

theorem length_dropBlanks (text : List Char) : (dropBlanks text).length ≤ text.length := by
  unfold dropBlanks
  exact (List.dropWhile_suffix _).length_le

theorem length_afterBlanks? {text rest : List Char} (h : afterBlanks? text = some rest) : rest.length < text.length := by
  cases text with
  | nil => cases h
  | cons c text =>
    simp only [afterBlanks?] at h
    split at h
    · obtain rfl := Option.some.inj h
      have := length_dropBlanks text
      simp only [List.length_cons]; omega
    · cases h

/-- Reading words leaves less of the text by their length at least. -/
theorem length_afterWords? {words : List (List Char)} {text rest : List Char} (h : afterWords? words text = some rest) :
    rest.length + words.flatten.length ≤ text.length := by
  fun_induction afterWords? words text with
  | case1 text => obtain rfl := Option.some.inj h; simp
  | case2 text word => have := length_stripWord? h; simp; omega
  | case3 text word more _ ih =>
    simp only [Option.bind_eq_bind, Option.bind_eq_some_iff] at h
    obtain ⟨t1, h1, t2, h2, h3⟩ := h
    have := length_stripWord? h1
    have := length_afterBlanks? h2
    have := ih t2 h3
    simp only [List.flatten_cons, List.length_append]
    omega

theorem ending?_eq_some {text rest : List Char} : ending? text = some rest ↔ rest = text ∧ atWordEnd text = true := by
  unfold ending?
  constructor
  · intro h
    split at h
    · next he => exact ⟨(Option.some.inj h).symm, he⟩
    · cases h
  · rintro ⟨rfl, he⟩
    rw [if_pos he]

/-- A match leaves less of the text by the length of the literal's words at least. -/
theorem Keyword.length_match? {k : Keyword} {text rest : List Char} (h : k.match? text = some rest) :
    rest.length + k.words.flatten.length ≤ text.length := by
  obtain ⟨body, hbody, rfl⟩ := Option.map_eq_some_iff.1 h
  have hle := length_dropBlanks body
  cases hs : k.withSuffix? text with
  | some long =>
    rw [hs] at hbody
    obtain rfl := Option.some.inj hbody
    unfold withSuffix? at hs
    by_cases hempty : k.suffix.toList.isEmpty = true
    · rw [if_pos hempty] at hs; cases hs
    · rw [if_neg hempty] at hs
      simp only [Option.bind_eq_bind, Option.bind_eq_some_iff] at hs
      obtain ⟨t1, h1, t2, h2, h3⟩ := hs
      obtain ⟨rfl, -⟩ := ending?_eq_some.1 h3
      have := length_afterWords? h1
      have := length_stripWord? h2
      omega
  | none =>
    rw [hs] at hbody
    obtain ⟨t1, h1, h3⟩ := Option.bind_eq_some_iff.1 (show k.withoutSuffix? text = some body from hbody)
    obtain ⟨rfl, -⟩ := ending?_eq_some.1 h3
    have := length_afterWords? h1
    omega

end MenuBoard.Phrase
