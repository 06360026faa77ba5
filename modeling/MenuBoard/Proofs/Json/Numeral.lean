import MenuBoard.Json.Reader
import MenuBoard.Proofs.Except

/-!
Numerals that break off the reading of JSON.

A text that is no JSON is refused either for its syntax or for a numeral. `IsLong` says of a refusal for a numeral that this
has more digits than may be read; no reader gives any other, so neither does the reading of a whole text
(`maxNumeralDigits_lt_of_read`).
-/

namespace MenuBoard.Json

/-- A numeral that is refused has too many digits. -/
def IsLong (refusal : Refusal) : Prop := ∀ digits, refusal = .numeral digits → maxNumeralDigits < digits

/-- a reading that gives a value, or is refused for its syntax or for a numeral that is too long -/
abbrev RefusesLong {α : Type} (result : Except Refusal α) : Prop := FailsOnly IsLong result

section Reading

variable {α : Type}

theorem refusesLong_ok (a : α) : RefusesLong (.ok a) := failsOnly_ok _ a

theorem refusesLong_syntaxFault (kind : FaultKind) (left : Nat) :
    RefusesLong (.error (.syntaxFault kind left) : Except Refusal α) :=
  failsOnly_error.2 fun _ h => by cases h

theorem refusesLong_unicodeEscape (atEscape rest : List Char) : RefusesLong (unicodeEscape atEscape rest) := by
  unfold unicodeEscape
  repeat' split
  all_goals first
    | exact refusesLong_ok _
    | exact refusesLong_syntaxFault _ _

theorem refusesLong_textBody (opening rounds : Nat) (done text : List Char) :
    RefusesLong (textBody opening rounds done text) := by
  induction rounds generalizing done text with
  | zero => exact refusesLong_syntaxFault _ _
  | succ rounds ih =>
    unfold textBody
    split
    · exact refusesLong_syntaxFault _ _
    · exact refusesLong_ok _
    · exact refusesLong_syntaxFault _ _
    · exact (refusesLong_unicodeEscape _ _).bind fun (c, rest) => ih _ _
    · split
      · exact ih _ _
      · exact refusesLong_syntaxFault _ _
    · split
      · exact refusesLong_syntaxFault _ _
      · exact ih _ _

theorem refusesLong_number (text : List Char) : RefusesLong (number text) := by
  unfold number
  simp only
  split
  · exact refusesLong_syntaxFault _ _
  · split
    · split
      · next hlong =>
        refine failsOnly_error.2 fun digits h => ?_
        obtain rfl := Refusal.numeral.inj h
        exact hlong
      · exact refusesLong_ok _
    · exact refusesLong_ok _

/-- With this fuel numerals are refused only if they are too long. -/
structure ReadsNumerals (fuel : Nat) : Prop where
  ofValue (text : List Char) : RefusesLong (value fuel text)
  ofItems (text : List Char) : RefusesLong (items fuel text)
  ofFields (text : List Char) : RefusesLong (fields fuel text)

namespace ReadsNumerals

variable {fuel : Nat}

theorem value_succ (hfuel : ReadsNumerals fuel) (text : List Char) : RefusesLong (value (fuel + 1) text) := by
  unfold value
  split
  · exact (refusesLong_textBody _ _ _ _).bind fun (s, rest) => refusesLong_ok _
  · split
    · exact refusesLong_ok _
    · exact (hfuel.ofItems _).bind fun (items, rest) => refusesLong_ok _
  · split
    · exact refusesLong_ok _
    · exact (hfuel.ofFields _).bind fun (fields, rest) => refusesLong_ok _
  · split
    · exact refusesLong_ok _
    · exact refusesLong_number _

theorem items_succ (hfuel : ReadsNumerals fuel) (text : List Char) : RefusesLong (items (fuel + 1) text) := by
  unfold items
  refine (hfuel.ofValue _).bind fun (v, rest) => ?_
  simp only
  split
  · exact refusesLong_ok _
  · exact (hfuel.ofItems _).bind fun (vs, rest) => refusesLong_ok _
  · exact refusesLong_syntaxFault _ _

theorem fields_succ (hfuel : ReadsNumerals fuel) (text : List Char) : RefusesLong (fields (fuel + 1) text) := by
  unfold fields
  split
  · refine (refusesLong_textBody _ _ _ _).bind fun (key, rest) => ?_
    simp only
    split
    · refine (hfuel.ofValue _).bind fun (v, rest) => ?_
      simp only
      split
      · exact refusesLong_ok _
      · exact (hfuel.ofFields _).bind fun (more, rest) => refusesLong_ok _
      · exact refusesLong_syntaxFault _ _
    · exact refusesLong_syntaxFault _ _
  · exact refusesLong_syntaxFault _ _

end ReadsNumerals

/-- In one induction on the fuel that values, items and fields share. -/
theorem readsNumerals (fuel : Nat) : ReadsNumerals fuel := by
  induction fuel with
  | zero =>
    constructor <;> intro text
    all_goals exact refusesLong_syntaxFault _ _
  | succ fuel ih => exact ⟨ih.value_succ, ih.items_succ, ih.fields_succ⟩

theorem refusesLong_whole (text : List Char) : RefusesLong (whole text) := by
  unfold whole
  split
  · exact refusesLong_syntaxFault _ _
  · refine ((readsNumerals _).ofValue _).bind fun (v, rest) => ?_
    simp only
    split
    · exact refusesLong_ok _
    · exact refusesLong_syntaxFault _ _

/-- Reading breaks off at a numeral only if it is too long. -/
theorem maxNumeralDigits_lt_of_read {text : List Char} {digits : Nat} (h : read text = .error (.numeral digits)) :
    maxNumeralDigits < digits := by
  unfold read at h
  split at h
  · cases h
  · next hwhole =>
    obtain rfl := ReadError.numeral.inj (Except.error.inj h)
    exact refusesLong_whole text _ hwhole _ rfl
  · cases h

end Reading

end MenuBoard.Json
