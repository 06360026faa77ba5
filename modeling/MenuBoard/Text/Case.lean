import MenuBoard.Text.CaseTable

/-!
Letter case. Two characters are the same when case is ignored exactly if they have the same `caseKey`; nothing expands, so
`ß` is not `ss`. Writing a whole text in small or capital letters (`lower`, `upper`) may change its length.
-/

namespace MenuBoard.Text

/-- the small partner of a code point, itself if it has none -/
def lowerCode (n : Nat) : Nat :=
  if n < 0x80 then if 0x41 ≤ n ∧ n ≤ 0x5a then n + 0x20 else n
  else (lowerRuns.findSome? (·.image? n)).getD n

/-- the least of the code points that equal `n` when case is ignored, among the small ones -/
def caseCode (n : Nat) : Nat :=
  let small := lowerCode n
  if small < 0x80 then small else ((caseAliases.find? (·.1 == small)).map (·.2)).getD small

/-- what is left of a character when its case is ignored -/
def caseKey (c : Char) : Nat := caseCode c.toNat

/-- the same character up to case -/
def sameIgnoringCase (a b : Char) : Bool := caseKey a == caseKey b

/-- The code points that equal `n` when case is ignored, `n` among them. -/
def caseVariants (n : Nat) : List Nat :=
  let key := caseCode n
  let small := key :: (caseAliases.filter (·.2 == key)).map (·.1)
  let ascii := small.filterMap fun s => if 0x61 ≤ s ∧ s ≤ 0x7a then some (s - 0x20) else none
  small ++ ascii ++ small.flatMap fun s => lowerRuns.filterMap (·.source? s)

/-- `text` begins with `word` up to case; what follows it -/
def stripWord? : (word text : List Char) → Option (List Char)
  | [], text => some text
  | _ :: _, [] => none
  | w :: word, c :: text => if sameIgnoringCase w c then stripWord? word text else none

/-- `text` holds `word` somewhere, up to case -/
def occursIgnoringCase (word : List Char) : (text : List Char) → Bool
  | [] => word.isEmpty
  | c :: text => (stripWord? word (c :: text)).isSome || occursIgnoringCase word text

/-- one character in small letters; a dotted capital I keeps its dot as a mark of its own -/
def lowerChar (c : Char) : List Char :=
  if c.toNat = 0x130 then ['i', Char.ofNat 0x307] else [Char.ofNat (lowerCode c.toNat)]

/-- a text in small letters -/
def lower (text : List Char) : List Char := text.flatMap lowerChar

/-- one character in capitals -/
def upperChar (c : Char) : List Char :=
  let n := c.toNat
  if n < 0x80 then [if 0x61 ≤ n ∧ n ≤ 0x7a then Char.ofNat (n - 0x20) else c]
  else match upperExpansions.find? (·.1 == n) with
    | some (_, image) => image.map Char.ofNat
    | none => [Char.ofNat ((upperRuns.findSome? (·.image? n)).getD n)]

/-- a text in capitals -/
def upper (text : List Char) : List Char := text.flatMap upperChar

theorem length_stripWord? {word text rest : List Char} (h : stripWord? word text = some rest) :
    rest.length + word.length = text.length := by
  induction word generalizing text with
  | nil => simp [stripWord?] at h; simp [h]
  | cons w word ih =>
    cases text with
    | nil => simp [stripWord?] at h
    | cons c text =>
      unfold stripWord? at h
      split at h
      · have := ih h; simp only [List.length_cons]; omega
      · cases h

end MenuBoard.Text
