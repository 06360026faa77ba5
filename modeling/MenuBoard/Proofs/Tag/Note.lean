import MenuBoard.Proofs.Phrase.Spelling
import MenuBoard.Tag.Note

/-!
What notes give away.

`Speaks` says that a note has a word somewhere in it, in ASCII letters of any case. A note that has a tag's marker in
this way has the tag (`mem_ofNote`), and the tags of all notes are kept, wherever the note stands among them
(`mem_tags_splitNotes`).
-/

namespace MenuBoard

open MenuBoard.Text MenuBoard.Phrase

/-- a word of small letters stands somewhere in a note, in small or capital ASCII letters -/
def Speaks (word note : String) : Prop :=
  ∃ before found after, note.toList = before ++ (found ++ after) ∧ found.map Char.toLower = word.toList

/-! ## Case -/

/-- A character and its small ASCII partner are the same when case is ignored. -/
theorem sameText_map_toLower (text : List Char) : SameText (text.map Char.toLower) text := by
  unfold SameText
  rw [List.map_map]
  exact List.map_congr_left fun c _ => caseKey_toLower c

theorem occursIgnoringCase_append {word found : List Char} (h : SameText word found) (before after : List Char) :
    occursIgnoringCase word (before ++ (found ++ after)) = true := by
  induction before with
  | nil =>
    have hstrip : stripWord? word (found ++ after) = some after := stripWord?_eq_some.2 ⟨found, rfl, h⟩
    rw [List.nil_append]
    cases htext : found ++ after with
    | nil =>
      obtain ⟨rfl, -⟩ := List.append_eq_nil_iff.1 htext
      obtain rfl := List.map_eq_nil_iff.1 h
      rfl
    | cons c text =>
      rw [htext] at hstrip
      rw [occursIgnoringCase, hstrip]
      rfl
  | cons c before ih => rw [List.cons_append, occursIgnoringCase, ih, Bool.or_true]

/-! ## Notes -/

namespace Tag

theorem mem_ofNote {t : Tag} {marker note : String} (hmarker : marker ∈ t.markers) (h : Speaks marker note) :
    t ∈ ofNote note := by
  obtain ⟨before, found, after, hnote, hfound⟩ := h
  have hsame : SameText marker.toList found := hfound ▸ sameText_map_toLower found
  refine List.mem_filter.2 ⟨mem_all t, List.any_eq_true.2 ⟨marker, hmarker, ?_⟩⟩
  rw [hnote]
  exact occursIgnoringCase_append hsame before after

theorem tags_add (split : NoteSplit) (note : String) : (split.add note).tags = split.tags ++ ofNote note := by
  simp only [NoteSplit.add]
  cases ofNote note with
  | nil =>
    rw [List.append_nil]
    split
    · next h => cases h
    · split <;> rfl
  | cons first more => rfl

theorem mem_tags_splitNotes {notes : List String} {t : Tag} :
    t ∈ (splitNotes notes).tags ↔ ∃ note ∈ notes, t ∈ ofNote note := by
  have hfold : ∀ split : NoteSplit, t ∈ (notes.foldl NoteSplit.add split).tags ↔
      t ∈ split.tags ∨ ∃ note ∈ notes, t ∈ ofNote note := by
    induction notes with
    | nil => simp
    | cons note notes ih =>
      intro split
      rw [List.foldl_cons, ih, tags_add, List.mem_append, List.exists_mem_cons_iff, or_assoc]
  unfold splitNotes
  rw [mem_sorted, hfold]
  simp

end Tag

end MenuBoard
