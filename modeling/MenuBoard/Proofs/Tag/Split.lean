import Mathlib.Data.List.Basic
import Mathlib.Data.List.Induction
import Mathlib.Data.List.Nodup
import MenuBoard.Proofs.Tag.Note

/-!
Notes are split without loss.

A note names a tag if one of the tag's markers stands anywhere in it (`NamedIn`). These are the tags that are recognised
(`mem_ofNote_iff`), so a note with more around it names no fewer of them.

`Splits` says what notes are split into, without saying how: the tags that some note names, by number, and the notes that name
none, in the order in which they first appear (`Describes`). There is one such split at most (`Splits.unique`), and `splitNotes`
makes it (`splits_splitNotes`). Describing goes through putting lists behind each other (`Describes.append`); this is the step
of the induction on the notes, and the law for two lists as well.
-/

namespace MenuBoard.Tag

open MenuBoard.Text MenuBoard.Phrase

/-- a note names a tag: one of the tag's markers stands somewhere in it, up to case -/
def NamedIn (t : Tag) (note : String) : Prop :=
  ∃ marker ∈ t.markers, ∃ before found after, note.toList = before ++ (found ++ after) ∧ SameText marker.toList found

/-- The descriptions are the notes that name no tag, each once, in the order in which they first appear. -/
structure Describes (notes descriptions : List String) : Prop where
  members : ∀ note, note ∈ descriptions ↔ note ∈ notes ∧ ∀ t : Tag, ¬ t.NamedIn note
  ordered : descriptions.Pairwise fun a b => notes.idxOf a < notes.idxOf b

/-- A split has the tags that some note names, by number, and the other notes as descriptions. -/
structure Splits (notes : List String) (split : NoteSplit) : Prop where
  tags : ∀ t, t ∈ split.tags ↔ ∃ note ∈ notes, t.NamedIn note
  rising : split.tags.Pairwise fun a b => a.id < b.id
  describes : Describes notes split.descriptions

/-! ## One note -/

/-- A word occurs in a text exactly if some part of the text is the word, up to case. -/
theorem occursIgnoringCase_iff {word text : List Char} : occursIgnoringCase word text = true ↔
    ∃ before found after, text = before ++ (found ++ after) ∧ SameText word found := by
  constructor
  · intro h
    induction text with
    | nil =>
      obtain rfl := List.isEmpty_iff.1 h
      exact ⟨[], [], [], rfl, rfl⟩
    | cons c text ih =>
      rcases Bool.or_eq_true_iff.1 h with hhere | hlater
      · obtain ⟨after, hafter⟩ := Option.isSome_iff_exists.1 hhere
        obtain ⟨found, hfound, hsame⟩ := stripWord?_eq_some.1 hafter
        exact ⟨[], found, after, hfound, hsame⟩
      · obtain ⟨before, found, after, rfl, hsame⟩ := ih hlater
        exact ⟨c :: before, found, after, rfl, hsame⟩
  · rintro ⟨before, found, after, rfl, hsame⟩
    exact occursIgnoringCase_append hsame before after

theorem mem_ofNote_iff {t : Tag} {note : String} : t ∈ ofNote note ↔ t.NamedIn note := by
  unfold ofNote occursIn NamedIn
  simp only [List.mem_filter, mem_all, true_and, List.any_eq_true, occursIgnoringCase_iff]

theorem ofNote_eq_nil {note : String} : ofNote note = [] ↔ ∀ t : Tag, ¬ t.NamedIn note := by
  simp only [List.eq_nil_iff_forall_not_mem, mem_ofNote_iff]

/-- What stands around a note takes no tag away. -/
theorem NamedIn.around {t : Tag} {note : String} (h : t.NamedIn note) (a b : String) : t.NamedIn (a ++ note ++ b) := by
  obtain ⟨marker, hmarker, before, found, after, hnote, hsame⟩ := h
  refine ⟨marker, hmarker, a.toList ++ before, found, after ++ b.toList, ?_, hsame⟩
  simp only [String.toList_append, hnote, List.append_assoc]

theorem all_rising : all.Pairwise fun a b => a.id < b.id := by decide

theorem ofNote_rising (note : String) : (ofNote note).Pairwise fun a b => a.id < b.id := all_rising.filter _

/-! ## Splits are unique -/

theorem nodup_of_rising {α : Type} {measure : α → Nat} {l : List α} (h : l.Pairwise fun a b => measure a < measure b) :
    l.Nodup := by
  refine List.Pairwise.imp (fun {a b} hlt => ?_) h
  rintro rfl
  exact Nat.lt_irrefl _ hlt

/-- Lists that rise by the same measure and have the same members are equal. -/
theorem eq_of_rising {α : Type} {measure : α → Nat} {l l' : List α} (h : l.Pairwise fun a b => measure a < measure b)
    (h' : l'.Pairwise fun a b => measure a < measure b) (hmem : ∀ a, a ∈ l ↔ a ∈ l') : l = l' := by
  have hperm := (List.perm_ext_iff_of_nodup (nodup_of_rising h) (nodup_of_rising h')).2 hmem
  exact hperm.eq_of_pairwise (fun a b _ _ hab hba => absurd hba (Nat.lt_asymm hab)) h h'

section Splits

variable {notes more descriptions descriptions' : List String} {split split' : NoteSplit}

theorem Describes.unique (h : Describes notes descriptions) (h' : Describes notes descriptions') :
    descriptions = descriptions' :=
  eq_of_rising h.ordered h'.ordered fun note => (h.members note).trans (h'.members note).symm

theorem Splits.unique (h : Splits notes split) (h' : Splits notes split') : split = split' := by
  have htags : split.tags = split'.tags := eq_of_rising h.rising h'.rising fun t => (h.tags t).trans (h'.tags t).symm
  have hdescriptions : split.descriptions = split'.descriptions := h.describes.unique h'.describes
  cases split
  cases split'
  congr

theorem Describes.self (h : Describes notes descriptions) : Describes descriptions descriptions where
  members note := (and_iff_left_of_imp fun hnote => ((h.members note).1 hnote).2).symm
  ordered := by
    refine List.pairwise_iff_getElem.2 fun i j hi hj hij => ?_
    have hnodup := nodup_of_rising h.ordered
    rwa [hnodup.idxOf_getElem i hi, hnodup.idxOf_getElem j hj]

/-- **Lists behind each other** are described by the descriptions of the first and those of the second that are new. -/
theorem Describes.append (h : Describes notes descriptions) (h' : Describes more descriptions') :
    Describes (notes ++ more) (descriptions ++ descriptions'.filter (· ∉ descriptions)) where
  members note := by
    simp only [List.mem_append, List.mem_filter, decide_eq_true_eq, h.members, h'.members]
    tauto
  ordered := by
    have hold {note : String} (hnote : note ∈ descriptions) : (notes ++ more).idxOf note = notes.idxOf note :=
      List.idxOf_append_of_mem ((h.members note).1 hnote).1
    -- a new description is none of the first notes, as it names no tag
    have hnew {note : String} (hnote : note ∈ descriptions'.filter (· ∉ descriptions)) :
        (notes ++ more).idxOf note = notes.length + more.idxOf note := by
      obtain ⟨hmember, hfresh⟩ := List.mem_filter.1 hnote
      have hnotes : note ∉ notes := fun hin =>
        of_decide_eq_true hfresh ((h.members note).2 ⟨hin, ((h'.members note).1 hmember).2⟩)
      exact List.idxOf_append_of_notMem hnotes
    refine List.pairwise_append.2 ⟨?_, ?_, ?_⟩
    · refine h.ordered.imp_of_mem fun ha hb hlt => ?_
      rwa [hold ha, hold hb]
    · refine (h'.ordered.filter _).imp_of_mem fun ha hb hlt => ?_
      rw [hnew ha, hnew hb]
      exact Nat.add_lt_add_left hlt _
    · intro a ha b hb
      have hfirst : notes.idxOf a < notes.length := List.idxOf_lt_length_iff.2 ((h.members a).1 ha).1
      rw [hold ha, hnew hb]
      omega

end Splits

/-! ## Splitting -/

/-- what a single note gives: itself, if it names no tag -/
def describing (note : String) : List String := if ofNote note = [] then [note] else []

theorem describes_describing (note : String) : Describes [note] (describing note) := by
  unfold describing
  split
  · next hnone =>
    refine ⟨fun other => ?_, List.pairwise_singleton _ _⟩
    rw [List.mem_singleton]
    exact (and_iff_left_of_imp fun heq => heq ▸ ofNote_eq_nil.1 hnone).symm
  · next hsome =>
    refine ⟨fun other => ?_, List.Pairwise.nil⟩
    rw [List.mem_singleton]
    refine ⟨fun hmem => absurd hmem List.not_mem_nil, ?_⟩
    rintro ⟨rfl, hnone⟩
    exact absurd (ofNote_eq_nil.2 hnone) hsome

theorem descriptions_add (split : NoteSplit) (note : String) :
    (split.add note).descriptions = split.descriptions ++ (describing note).filter (· ∉ split.descriptions) := by
  unfold NoteSplit.add describing
  cases ofNote note with
  | nil => by_cases hmem : note ∈ split.descriptions <;> simp [hmem]
  | cons first others => simp

/-- The notes that name no tag are described, by induction on the notes, the last one taken first. -/
theorem describes_splitNotes (notes : List String) : Describes notes (splitNotes notes).descriptions := by
  unfold splitNotes
  induction notes using List.reverseRecOn with
  | nil => exact ⟨fun note => by simp, List.Pairwise.nil⟩
  | append_singleton notes note ih =>
    rw [List.foldl_append, List.foldl_cons, List.foldl_nil]
    simp only [descriptions_add]
    exact ih.append (describes_describing note)

theorem splits_splitNotes (notes : List String) : Splits notes (splitNotes notes) where
  tags t := by simp only [mem_tags_splitNotes, mem_ofNote_iff]
  rising := all_rising.filter _
  describes := describes_splitNotes notes

theorem splitNotes_descriptions (notes : List String) :
    splitNotes (splitNotes notes).descriptions = ⟨[], (splitNotes notes).descriptions⟩ := by
  have hdescribes := describes_splitNotes notes
  refine (splits_splitNotes _).unique ⟨fun t => ?_, List.Pairwise.nil, hdescribes.self⟩
  refine ⟨fun hmem => absurd hmem List.not_mem_nil, ?_⟩
  rintro ⟨note, hnote, hnamed⟩
  exact absurd hnamed (((hdescribes.members note).1 hnote).2 t)

theorem mem_tags_append {notes more : List String} {t : Tag} :
    t ∈ (splitNotes (notes ++ more)).tags ↔ t ∈ (splitNotes notes).tags ∨ t ∈ (splitNotes more).tags := by
  simp only [mem_tags_splitNotes, List.mem_append, or_and_right, exists_or]

theorem descriptions_append (notes more : List String) : (splitNotes (notes ++ more)).descriptions =
    (splitNotes notes).descriptions ++ (splitNotes more).descriptions.filter (· ∉ (splitNotes notes).descriptions) :=
  (describes_splitNotes _).unique ((describes_splitNotes notes).append (describes_splitNotes more))

theorem tags_of_perm {notes reordered : List String} (h : reordered.Perm notes) :
    (splitNotes reordered).tags = (splitNotes notes).tags := by
  refine eq_of_rising (splits_splitNotes _).rising (splits_splitNotes _).rising fun t => ?_
  simp only [mem_tags_splitNotes, h.mem_iff]

theorem description_or_tags {notes : List String} {note : String} (h : note ∈ notes) :
    (note ∈ (splitNotes notes).descriptions ∧ ofNote note = []) ∨
      (note ∉ (splitNotes notes).descriptions ∧ ofNote note ≠ [] ∧ ofNote note ⊆ (splitNotes notes).tags) := by
  rw [(describes_splitNotes notes).members, ← ofNote_eq_nil]
  by_cases hnone : ofNote note = []
  · exact .inl ⟨⟨h, hnone⟩, hnone⟩
  · exact .inr ⟨fun hboth => hnone hboth.2, hnone, fun t ht => mem_tags_splitNotes.2 ⟨note, h, ht⟩⟩

/-- **Notes are split without loss.** The tags of notes are those that some note names, and the descriptions are the notes that
name none, each once and in the order in which they first appear; nothing else is such a split, and no note is both. Splitting
the descriptions again gives them and no tags. Of two lists the tags are those of both, and the descriptions those of the first
and the new ones of the second. The order of the notes makes no difference to the tags. A note has the tags that it names, by
number, and none is lost by what stands around it. -/
theorem splitNotes_loses_nothing (notes : List String) :
    (∀ split, Splits notes split ↔ split = splitNotes notes) ∧
    (∀ note ∈ notes, (note ∈ (splitNotes notes).descriptions ∧ ofNote note = []) ∨
      (note ∉ (splitNotes notes).descriptions ∧ ofNote note ≠ [] ∧ ofNote note ⊆ (splitNotes notes).tags)) ∧
    splitNotes (splitNotes notes).descriptions = ⟨[], (splitNotes notes).descriptions⟩ ∧
    (∀ more : List String,
      (∀ t, t ∈ (splitNotes (notes ++ more)).tags ↔ t ∈ (splitNotes notes).tags ∨ t ∈ (splitNotes more).tags) ∧
      (splitNotes (notes ++ more)).descriptions = (splitNotes notes).descriptions ++
        (splitNotes more).descriptions.filter (· ∉ (splitNotes notes).descriptions)) ∧
    (∀ reordered : List String, reordered.Perm notes → (splitNotes reordered).tags = (splitNotes notes).tags) ∧
    ∀ note : String, (∀ t, t ∈ ofNote note ↔ t.NamedIn note) ∧ (ofNote note).Pairwise (fun a b => a.id < b.id) ∧
      ∀ a b : String, ofNote note ⊆ ofNote (a ++ note ++ b) := by
  refine ⟨fun split => ⟨fun h => h.unique (splits_splitNotes notes), ?_⟩, fun note => description_or_tags,
    splitNotes_descriptions notes, fun more => ⟨fun t => mem_tags_append, descriptions_append notes more⟩,
    fun reordered => tags_of_perm, fun note => ⟨fun t => mem_ofNote_iff, ofNote_rising note, fun a b t ht => ?_⟩⟩
  · rintro rfl
    exact splits_splitNotes notes
  · exact mem_ofNote_iff.2 ((mem_ofNote_iff.1 ht).around a b)

/-- notes as a canteen may give them: one names two tags, one is in capitals, and one that names none comes twice -/
def porkAndBread : List String := ["mit Schwein und Alkohol", "hausgemacht", "FISCH", "hausgemacht"]

/-- The repeated note is described once, before and after a list that brings it again; the other way round the tags are the
same, and the note on pork says so in a longer word. -/
theorem splitNotes_pork_and_bread :
    "hausgemacht" ∈ porkAndBread ∧ porkAndBread.reverse.Perm porkAndBread ∧ ofNote "schwein" = [.pig] ∧
      splitNotes porkAndBread = ⟨[.alcohol, .fish, .pig], ["hausgemacht"]⟩ ∧
      ("hausgemacht" ∈ (splitNotes porkAndBread).descriptions ∧ ofNote "hausgemacht" = []) ∧
      splitNotes ["hausgemacht"] = ⟨[], ["hausgemacht"]⟩ ∧
      (splitNotes (porkAndBread ++ ["mit Brot", "hausgemacht"])).descriptions = ["hausgemacht", "mit Brot"] ∧
      (splitNotes porkAndBread.reverse).tags = [.alcohol, .fish, .pig] ∧
      .pig ∈ ofNote ("Geräucherter " ++ "schwein" ++ "ebauch") := by
  have hmem : "hausgemacht" ∈ porkAndBread := by decide
  have hperm : porkAndBread.reverse.Perm porkAndBread := List.reverse_perm _
  have hpork : ofNote "schwein" = [.pig] := by decide +kernel
  have hsplit : splitNotes porkAndBread = ⟨[.alcohol, .fish, .pig], ["hausgemacht"]⟩ := by decide +kernel
  have hmore : (splitNotes ["mit Brot", "hausgemacht"]).descriptions = ["mit Brot", "hausgemacht"] := by decide +kernel
  obtain ⟨-, heither, hagain, happend, hreordered, hnotes⟩ := splitNotes_loses_nothing porkAndBread
  have hplain := heither _ hmem
  have hboth := (happend ["mit Brot", "hausgemacht"]).2
  have htags := hreordered _ hperm
  have hlonger := (hnotes "schwein").2.2 "Geräucherter " "ebauch"
  rw [hsplit] at hagain hplain hboth htags
  rw [hmore] at hboth
  refine ⟨hmem, hperm, hpork, hsplit, ?_, hagain, hboth.trans (by decide), htags, hlonger ?_⟩
  · rw [hsplit]
    exact hplain.resolve_right fun h => h.1 (by decide)
  · rw [hpork]
    exact List.mem_singleton_self _

end MenuBoard.Tag
