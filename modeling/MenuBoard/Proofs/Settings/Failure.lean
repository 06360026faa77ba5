import Mathlib.Data.List.Nodup
import MenuBoard.Proofs.Json.Numeral
import MenuBoard.Settings.File

/-!
Which files hold no settings.

A number, a list item or a canteen that makes no sense is left out; only a value of the wrong shape, where an object or the
items of a list are looked for, keeps settings from being read. `IsSection` follows the nesting: an object may hold
something void, and anything else than an object must be void. Every reader fails exactly if its value is flawed in this way
(`fails_bothLists`, `fails_readRules`, `fails_readFeedIds`, `fails_ofJson`), and `load_fails_iff` puts them together with
what may be wrong with the bytes of the file. The environment has no part in it but to name the file.
-/

namespace MenuBoard.Settings

open MenuBoard.Text

/-! ## Flawed values -/

/-- a value that is neither void nor an object -/
structure Misplaced (v : Json) : Prop where
  given : v.isVoid = false
  noObject : ∀ fields, v ≠ .object fields

/-- a number or a flag, void or not: there are no items in it -/
inductive HasNoItems : Json → Prop
  | int (n : Int) : HasNoItems (.int n)
  | real (x : Float) : HasNoItems (.real x)
  | flag (b : Bool) : HasNoItems (.bool b)

/-- One of the fields with these keys is there and holds a flawed value. -/
def FlawedField (keys : List String) (Flawed : Json → Prop) (fields : List (String × Json)) : Prop :=
  ∃ key ∈ keys, ∃ v, Json.field? key fields = some v ∧ Flawed v

/-- a section that is no object although it is given, or that has a flawed field -/
inductive FlawedSection (keys : List String) (Flawed : Json → Prop) : Json → Prop
  | misplaced {v : Json} (h : Misplaced v) : FlawedSection keys Flawed v
  | field {fields : List (String × Json)} (h : FlawedField keys Flawed fields) :
    FlawedSection keys Flawed (.object fields)

/-- flawed lists of one kind of pattern -/
def FlawedLists : Json → Prop := FlawedSection ["allow", "deny"] HasNoItems

/-- flawed rules -/
def FlawedRules : Json → Prop := FlawedSection ["tag", "category", "name"] FlawedLists

/-- no object, not even where nothing is given, or one with flawed rules or flawed numbers of the feed -/
inductive FlawedSettings : Json → Prop
  | noObject {v : Json} (h : ∀ fields, v ≠ .object fields) : FlawedSettings v
  | rules {fields : List (String × Json)} (h : FlawedField ["filter", "favs"] FlawedRules fields) :
    FlawedSettings (.object fields)
  | feedIds {fields : List (String × Json)} (h : FlawedField ["openmensa_ids"] Misplaced fields) :
    FlawedSettings (.object fields)

/-! ## Fields -/

section Fields

variable {v : Json} {fields : List (String × Json)} {keys : List String} {Flawed : Json → Prop}

theorem not_misplaced_null : ¬ Misplaced .null := fun h => by cases h.given

theorem not_hasNoItems_null : ¬ HasNoItems .null := fun h => by cases h

theorem not_flawedSection_null : ¬ FlawedSection keys Flawed .null := by
  rintro ⟨h⟩
  exact not_misplaced_null h

/-- A field that is missing counts as null, so it is flawed only if it is there. -/
theorem flawed_get (hnull : ¬ Flawed .null) {key : String} :
    Flawed (get key fields) ↔ ∃ v, Json.field? key fields = some v ∧ Flawed v := by
  unfold get
  cases Json.field? key fields with
  | none => exact ⟨fun h => absurd h hnull, fun ⟨_, h, _⟩ => by cases h⟩
  | some v =>
    constructor
    · exact fun h => ⟨v, rfl, h⟩
    · rintro ⟨_, h, hv⟩
      cases h
      exact hv

theorem flawedField_nil : ¬ FlawedField [] Flawed fields := fun ⟨_, h, _⟩ => by cases h

theorem flawedField_cons (hnull : ¬ Flawed .null) {key : String} :
    FlawedField (key :: keys) Flawed fields ↔ Flawed (get key fields) ∨ FlawedField keys Flawed fields := by
  simp only [FlawedField, List.mem_cons, or_and_right, exists_or, exists_eq_left, flawed_get hnull]

theorem not_flawedField_empty : ¬ FlawedField keys Flawed [] := fun ⟨_, _, _, h, _⟩ => by cases h

theorem eq_nil_of_isVoid (h : (Json.object fields).isVoid = true) : fields = [] := List.isEmpty_iff.1 h

/-- A section is read by its fields, and a void one has none. -/
theorem fails_sectionFields {α : Type} {read : List (String × Json) → Except SettingsError α}
    (hread : ∀ fields, Fails (read fields) ↔ FlawedField keys Flawed fields) :
    Fails (sectionFields v >>= read) ↔ FlawedSection keys Flawed v := by
  cases hvoid : v.isVoid with
  | true =>
    have hfields : sectionFields v = .ok [] := by simp only [sectionFields, hvoid, if_true]
    rw [hfields]
    refine (hread []).trans ⟨fun h => absurd h not_flawedField_empty, ?_⟩
    rintro (h | h)
    · rw [h.given] at hvoid
      cases hvoid
    · exact eq_nil_of_isVoid hvoid ▸ h
  | false =>
    have hfields : sectionFields v = fieldsOf v := by simp only [sectionFields, hvoid, Bool.false_eq_true, if_false]
    rw [hfields]
    cases v with
    | object fields =>
      refine (hread fields).trans ⟨.field, ?_⟩
      rintro (h | h)
      · exact absurd rfl (h.noObject fields)
      · exact h
    | null | bool | int | real | str | list =>
      exact ⟨fun _ => .misplaced ⟨hvoid, fun _ h => by cases h⟩, fun _ => fails_error _⟩

end Fields

/-! ## Readers -/

section Readers

variable {v : Json}

theorem fails_readTexts : Fails (readTexts v) ↔ HasNoItems v := by
  cases v with
  | int n => exact ⟨fun _ => .int n, fun _ => fails_error _⟩
  | real x => exact ⟨fun _ => .real x, fun _ => fails_error _⟩
  | bool b => exact ⟨fun _ => .flag b, fun _ => fails_error _⟩
  | null | str | list | object => exact ⟨fun h => absurd h (not_fails_ok _), fun h => by cases h⟩

theorem fails_bothLists : Fails (bothLists v) ↔ FlawedLists v := by
  refine fails_sectionFields fun fields => ?_
  rw [flawedField_cons not_hasNoItems_null, flawedField_cons not_hasNoItems_null, ← fails_readTexts, ← fails_readTexts]
  refine fails_bind fun allow => ?_
  exact fails_bind fun deny => iff_of_false (not_fails_ok _) flawedField_nil

theorem fails_readRules : Fails (readRules v) ↔ FlawedRules v := by
  refine fails_sectionFields fun fields => ?_
  have hnull : ¬ FlawedLists .null := not_flawedSection_null
  rw [flawedField_cons hnull, flawedField_cons hnull, flawedField_cons hnull, ← fails_bothLists, ← fails_bothLists,
    ← fails_bothLists]
  refine fails_bind fun tags => ?_
  refine fails_bind fun categories => ?_
  exact fails_bind fun names => iff_of_false (not_fails_ok _) flawedField_nil

/-- Pairs that make no sense are left out. -/
theorem fails_readFeedIds : Fails (readFeedIds v) ↔ Misplaced v := by
  cases hvoid : v.isVoid with
  | true =>
    simp only [readFeedIds, hvoid, if_true]
    refine iff_of_false (not_fails_ok _) fun h => ?_
    rw [h.given] at hvoid
    cases hvoid
  | false =>
    simp only [readFeedIds, hvoid, Bool.false_eq_true, if_false]
    cases v with
    | object pairs => exact iff_of_false (not_fails_ok _) fun h => h.noObject pairs rfl
    | null | bool | int | real | str | list =>
      exact iff_of_true (fails_error _) ⟨hvoid, fun _ h => by cases h⟩

/-- Settings are read out of any object, but for its rules and its numbers of the feed. -/
theorem fails_ofJson : Fails (ofJson v) ↔ FlawedSettings v := by
  have hobject (fields : List (String × Json)) : Fails (ofJson (.object fields)) ↔
      FlawedField ["filter", "favs"] FlawedRules fields ∨ FlawedField ["openmensa_ids"] Misplaced fields := by
    have hnull : ¬ FlawedRules .null := not_flawedSection_null
    rw [flawedField_cons hnull, flawedField_cons hnull, flawedField_cons not_misplaced_null, ← fails_readRules,
      ← fails_readRules, ← fails_readFeedIds, or_iff_left flawedField_nil, or_iff_left flawedField_nil, or_assoc]
    refine fails_bind (x := readRules (get "filter" fields)) fun filter => ?_
    refine fails_bind fun favorites => ?_
    exact (fails_bind fun ids => iff_of_false (not_fails_ok _) not_false).trans (or_iff_left not_false)
  cases v with
  | object fields =>
    rw [hobject]
    constructor
    · rintro (h | h)
      · exact .rules h
      · exact .feedIds h
    · rintro (h | h | h)
      · exact absurd rfl (h fields)
      · exact .inl h
      · exact .inr h
  | null | bool | int | real | str | list =>
    exact iff_of_true (fails_error _) (.noObject fun _ h => by cases h)

end Readers

/-! ## Files -/

/-- the bytes of a file that holds no settings: they are no text, or a numeral is too long to be read, or the value is
flawed -/
inductive Unreadable (bytes : List UInt8) : Prop
  | undecodable {error : Utf8.Error} (h : Utf8.decode bytes = .error error)
  | numeral {text : List Char} {digits : Nat} (htext : Utf8.decode bytes = .ok text)
    (h : Json.read text = .error (.numeral digits)) (hlong : maxNumeralDigits < digits)
  | flawed {text : List Char} {v : Json} (htext : Utf8.decode bytes = .ok text) (h : Json.read text = .ok v)
    (hflawed : FlawedSettings v)

/-- the bytes of a text that is no JSON -/
inductive Malformed (bytes : List UInt8) : Prop
  | mk {text : List Char} {kind : Json.FaultKind} {offset : Nat} (htext : Utf8.decode bytes = .ok text)
    (h : Json.read text = .error (.syntaxFault kind offset))

/-- the bytes of an object without fields -/
inductive Blank (bytes : List UInt8) : Prop
  | mk {text : List Char} (htext : Utf8.decode bytes = .ok text) (h : Json.read text = .ok (.object []))

section Files

variable {path : String} {bytes : List UInt8} {environment : Environment}

theorem not_flawedSettings_empty : ¬ FlawedSettings (.object []) := by
  rintro (h | h | h)
  · exact h [] rfl
  · exact not_flawedField_empty h
  · exact not_flawedField_empty h

/-- Bytes that are read as a value are unreadable for a flaw of that only. -/
theorem unreadable_iff_flawed {text : List Char} {v : Json} (htext : Utf8.decode bytes = .ok text)
    (hread : Json.read text = .ok v) : Unreadable bytes ↔ FlawedSettings v := by
  refine ⟨?_, .flawed htext hread⟩
  rintro (h | ⟨htext', h, -⟩ | ⟨htext', h, hflawed⟩)
  · cases htext.symm.trans h
  · cases htext.symm.trans htext'
    cases hread.symm.trans h
  · cases htext.symm.trans htext'
    cases hread.symm.trans h
    exact hflawed

/-- A text that is no JSON is forgiven. -/
theorem Malformed.not_unreadable (h : Malformed bytes) : ¬ Unreadable bytes := by
  obtain ⟨htext, hread⟩ := h
  rintro (h | ⟨htext', h, -⟩ | ⟨htext', h, -⟩)
  · cases htext.symm.trans h
  · cases htext.symm.trans htext'
    cases hread.symm.trans h
  · cases htext.symm.trans htext'
    cases hread.symm.trans h

theorem fileValue_of_malformed (h : Malformed bytes) :
    ∃ reason, fileValue path (some bytes) = .ok (.object [], [.settingsMalformed path reason]) := by
  obtain ⟨htext, hread⟩ := h
  simp only [fileValue, htext, hread]
  exact ⟨_, rfl⟩

theorem fileValue_of_blank (h : Blank bytes) : fileValue path (some bytes) = .ok (.object [], []) := by
  obtain ⟨htext, hread⟩ := h
  simp only [fileValue, htext, hread]

/-- Whatever a file is read as, only a flaw of that is in the way of settings. -/
theorem fails_ofFile_of_value {file : Option (List UInt8)} {v : Json} {notices : List Notice}
    (h : fileValue path file = .ok (v, notices)) : Fails (ofFile path file environment) ↔ FlawedSettings v := by
  unfold ofFile
  rw [h]
  exact (fails_bind fun _ => iff_of_false (not_fails_ok _) not_false).trans ((or_iff_left not_false).trans fails_ofJson)

theorem not_fails_ofFile_none : ¬ Fails (ofFile path none environment) := fun h =>
  not_flawedSettings_empty ((fails_ofFile_of_value rfl).1 h)

/-- A file that is read as nothing fails. -/
theorem fails_ofFile_of_error {file : Option (List UInt8)} {error : SettingsError} (h : fileValue path file = .error error) :
    Fails (ofFile path file environment) := by
  unfold ofFile
  rw [h]
  exact fails_error _

/-- A file fails by its bytes alone. -/
theorem fails_ofFile : Fails (ofFile path (some bytes) environment) ↔ Unreadable bytes := by
  cases htext : Utf8.decode bytes with
  | error error =>
    have hvalue : fileValue path (some bytes) = .error (.undecodable error) := by simp only [fileValue, htext]
    exact iff_of_true (fails_ofFile_of_error hvalue) (.undecodable htext)
  | ok text =>
    cases hread : Json.read text with
    | ok v =>
      have hvalue : fileValue path (some bytes) = .ok (v, []) := by simp only [fileValue, htext, hread]
      rw [fails_ofFile_of_value hvalue, unreadable_iff_flawed htext hread]
    | error error =>
      cases error with
      | numeral digits =>
        have hvalue : fileValue path (some bytes) = .error (.numeral digits) := by simp only [fileValue, htext, hread]
        exact iff_of_true (fails_ofFile_of_error hvalue)
          (.numeral htext hread (Json.maxNumeralDigits_lt_of_read hread))
      | syntaxFault kind offset =>
        have hmalformed : Malformed bytes := ⟨htext, hread⟩
        obtain ⟨reason, hvalue⟩ := @fileValue_of_malformed path _ hmalformed
        rw [fails_ofFile_of_value hvalue]
        exact iff_of_false not_flawedSettings_empty hmalformed.not_unreadable

/-- Where nothing is given, settings are what the environment makes of the unset ones. -/
theorem ofFile_of_empty {file : Option (List UInt8)} {notices : List Notice}
    (h : fileValue path file = .ok (.object [], notices)) :
    (ofFile path file environment).map Prod.fst = .ok (withEnvironment environment {}).1 := by
  unfold ofFile
  rw [h]
  rfl

theorem load_of_file {files : Files} {given : Option String} {file : Option (List UInt8)}
    (h : files (pathOf given environment) = file) :
    load files given environment = ofFile (pathOf given environment) file environment := by
  rw [← h]
  rfl

end Files

/-- **Which files keep settings from being read.** There are no settings exactly if the file that applies is there and is
unreadable: its bytes are no text, or a numeral in it is too long, or its value is no object, or has rules, lists or numbers
of the feed of the wrong shape. In every other case there are settings. A file that is missing, and one that is no JSON, give
the settings that an object without fields gives. The environment names the file, and nothing in it is in the way. -/
theorem load_fails_iff (files : Files) (given : Option String) (environment : Environment) :
    (Fails (load files given environment) ↔
        ∃ bytes, files (pathOf given environment) = some bytes ∧ Unreadable bytes) ∧
      ((∀ bytes, files (pathOf given environment) = some bytes → ¬ Unreadable bytes) →
        ∃ settings notices, load files given environment = .ok (settings, notices)) ∧
      ∀ files', (∃ bytes, files' (pathOf given environment) = some bytes ∧ Blank bytes) →
        (∀ bytes, files (pathOf given environment) = some bytes → Malformed bytes) →
        ∃ settings, (load files given environment).map Prod.fst = .ok settings ∧
          (load files' given environment).map Prod.fst = .ok settings := by
  have hfails : Fails (load files given environment) ↔
      ∃ bytes, files (pathOf given environment) = some bytes ∧ Unreadable bytes := by
    cases hfile : files (pathOf given environment) with
    | none =>
      rw [load_of_file hfile]
      exact iff_of_false not_fails_ofFile_none fun ⟨_, h, _⟩ => by cases h
    | some bytes =>
      rw [load_of_file hfile, fails_ofFile]
      simp only [Option.some.injEq, exists_eq_left']
  refine ⟨hfails, fun hreadable => ?_, ?_⟩
  · have hnot : ¬ Fails (load files given environment) := fun h =>
      let ⟨bytes, hfile, hbytes⟩ := hfails.1 h
      hreadable bytes hfile hbytes
    obtain ⟨⟨settings, notices⟩, h⟩ := not_fails_iff.1 hnot
    exact ⟨settings, notices, h⟩
  · rintro files' ⟨bytes', hfile', hblank⟩ hmalformed
    refine ⟨(withEnvironment environment {}).1, ?_, ?_⟩
    · cases hfile : files (pathOf given environment) with
      | none =>
        rw [load_of_file hfile]
        exact ofFile_of_empty rfl
      | some bytes =>
        rw [load_of_file hfile]
        obtain ⟨reason, hvalue⟩ := fileValue_of_malformed (hmalformed bytes hfile)
        exact ofFile_of_empty hvalue
    · rw [load_of_file hfile']
      exact ofFile_of_empty (fileValue_of_blank hblank)

/-- the text of an object whose list of denied tags is the number zero -/
def zeroDenied : List Char := ['{', '"', 'f', 'a', 'v', 's', '"', ':', '{', '"', 't', 'a', 'g', '"', ':',
  '{', '"', 'd', 'e', 'n', 'y', '"', ':', '0', '}', '}', '}']

/-- a file with that text, and one that breaks off -/
def zeroAndCut : Files
  | "zero.json" => some (zeroDenied.map fun c => UInt8.ofNat c.toNat)
  | "cut.json" => some [0x7b]
  | _ => none

/-- an environment that sets numbers to what is none -/
def senseless : Environment
  | "MENSA_ID" => some "nowhere"
  | "MENSA_CACHE_TTL" => some "often"
  | _ => none

/-- Zero is void, but no list, and so there are no settings. The environment makes no difference, where there is no file
nor where it breaks off. -/
theorem zero_holds_no_settings : Fails (load zeroAndCut (some "zero.json") senseless) ∧
    (∃ settings notices, load zeroAndCut (some "none.json") senseless = .ok (settings, notices)) ∧
    ∃ settings, (load zeroAndCut (some "cut.json") senseless).map Prod.fst = .ok settings ∧
      (load (fun _ => some [0x7b, 0x7d]) (some "cut.json") senseless).map Prod.fst = .ok settings := by
  obtain ⟨hzero, -, -⟩ := load_fails_iff zeroAndCut (some "zero.json") senseless
  obtain ⟨-, hnone, -⟩ := load_fails_iff zeroAndCut (some "none.json") senseless
  obtain ⟨-, -, hcut⟩ := load_fails_iff zeroAndCut (some "cut.json") senseless
  refine ⟨hzero.2 ⟨_, rfl, ?_⟩, hnone (fun _ h => nomatch h),
    hcut (fun _ => some [0x7b, 0x7d]) ⟨_, rfl, ?_⟩ fun _ h => ?_⟩
  · have htext : Utf8.decode (zeroDenied.map fun c => UInt8.ofNat c.toNat) = .ok zeroDenied := by rfl
    have hread : Json.read zeroDenied = .ok (.object [("favs", .object [("tag", .object [("deny", .int 0)])])]) := by rfl
    have hlists : FlawedLists (.object [("deny", .int 0)]) := .field ⟨"deny", by decide, _, rfl, .int 0⟩
    exact .flawed htext hread (.rules ⟨"favs", by decide, _, rfl, .field ⟨"tag", by decide, _, rfl, hlists⟩⟩)
  · have htext : Utf8.decode [0x7b, 0x7d] = .ok ['{', '}'] := by rfl
    exact ⟨htext, by rfl⟩
  · cases h
    have htext : Utf8.decode [0x7b] = .ok ['{'] := by rfl
    have hread : (Json.read ['{']).map (fun _ => ()) = .error (.syntaxFault .expectingName 1) := by decide +kernel
    exact ⟨htext, map_eq_error.1 hread⟩

end MenuBoard.Settings
