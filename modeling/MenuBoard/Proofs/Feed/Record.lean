import MenuBoard.Feed.Fetch
import MenuBoard.Proofs.Except
import MenuBoard.Proofs.Tag.Note

/-!
From the records of the feed to meals.

A meal has the tags of all notes of the record it is made of (`tag_of_mealOf`), and every meal that the feed gives is
made of a record in the body that it replied with (`exists_record_of_ask`).
-/

namespace MenuBoard.Form

theorem Checked.both_eq_ok {α β : Type} {f : Checked (α → β)} {x : Checked α} {b : β} :
    Checked.both f x = .ok b ↔ ∃ g a, f = .ok g ∧ x = .ok a ∧ g a = b := by
  cases f with
  | error first => cases x <;> simp [Checked.both]
  | ok g => cases x <;> simp [Checked.both]

end MenuBoard.Form

namespace MenuBoard.Feed

open MenuBoard.Calendar MenuBoard.Form

/-! ## One record -/

theorem mapM_textOf (notes : List String) : (notes.map Json.str).mapM textOf = .ok notes := by
  induction notes with
  | nil => rfl
  | cons note notes ih =>
    rw [List.map_cons, List.mapM_cons, ih]
    rfl

theorem accept_eq_ok {α : Type} {form : String} {checked : Checked α} {a : α} (h : accept form checked = .ok a) :
    checked = .ok a := by
  cases checked with
  | ok a' =>
    obtain rfl := Except.ok.inj h
    rfl
  | error issues => cases h

theorem tags_of_mealOf {fields : List (String × Json)} {meal : Meal} (h : mealOf (.object fields) = .ok meal) :
    ∃ split, notesOf fields = .ok split ∧ meal.tags = split.tags := by
  obtain ⟨fields', hfields, h⟩ := bind_eq_ok.1 h
  obtain rfl : fields = fields' := Except.ok.inj hfields
  obtain ⟨split, hsplit, h⟩ := bind_eq_ok.1 h
  obtain ⟨prices, hprices, h⟩ := bind_eq_ok.1 h
  obtain ⟨make, hmake, rfl⟩ := map_eq_ok.1 (accept_eq_ok h)
  obtain ⟨make, category, hhead, -, rfl⟩ := Checked.both_eq_ok.1 hmake
  obtain ⟨make, name, hid, -, rfl⟩ := Checked.both_eq_ok.1 hhead
  obtain ⟨id, -, rfl⟩ := map_eq_ok.1 hid
  exact ⟨split, hsplit, rfl⟩

theorem notesOf_eq_ok {fields : List (String × Json)} {notes : List String}
    (h : Json.field? "notes" fields = some (.list (notes.map .str))) : notesOf fields = .ok (Tag.splitNotes notes) := by
  have hitems : itemsOf (orElse (get "notes" fields) (.list [])) = .ok (notes.map Json.str) := by
    unfold get orElse
    rw [h]
    cases notes <;> rfl
  exact bind_eq_ok.2 ⟨notes.map Json.str, hitems, bind_eq_ok.2 ⟨notes, mapM_textOf notes, rfl⟩⟩

/-- the notes of a record are a list of texts, and one of them has the word in it -/
def RecordSpeaks (word : String) (record : Json) : Prop :=
  ∃ (fields : List (String × Json)) (notes : List String), record = .object fields ∧
    Json.field? "notes" fields = some (.list (notes.map .str)) ∧ ∃ note ∈ notes, Speaks word note

/-- A meal has a tag if a note of its record has a marker of the tag, wherever it stands. -/
theorem tag_of_mealOf {record : Json} {meal : Meal} {t : Tag} {marker : String} (hmarker : marker ∈ t.markers)
    (h : RecordSpeaks marker record) (hmeal : mealOf record = .ok meal) : t ∈ meal.tags := by
  obtain ⟨fields, notes, rfl, hfield, note, hnote, hspeaks⟩ := h
  obtain ⟨split, hsplit, htags⟩ := tags_of_mealOf hmeal
  rw [notesOf_eq_ok hfield] at hsplit
  obtain rfl := Except.ok.inj hsplit
  rw [htags]
  exact Tag.mem_tags_splitNotes.2 ⟨note, hnote, Tag.mem_ofNote hmarker hspeaks⟩

/-! ## Replies -/

/-- a record in the body of a response that the session has for some canteen and day -/
def Replies (session : Session) (record : Json) : Prop :=
  ∃ canteen day response records, session (address canteen day) = .response response ∧
    recordsOf response.body = .ok records ∧ record ∈ records

theorem exists_record_of_mealsOf {target : String} {response : Response} {meals : List Meal}
    (h : mealsOf target response = .ok meals) {meal : Meal} (hmem : meal ∈ meals) :
    ∃ records, recordsOf response.body = .ok records ∧ ∃ record ∈ records, mealOf record = .ok meal := by
  unfold mealsOf at h
  split at h
  · obtain rfl := Except.ok.inj h
    cases hmem
  · split at h
    · cases h
    · obtain ⟨records, hrecords, h⟩ := bind_eq_ok.1 h
      exact ⟨records, hrecords, exists_of_mapM_eq_ok h hmem⟩

/-- Every meal that the feed gives is made of a record in a body it replies with. -/
theorem exists_record_of_ask {session : Session} {timeout canteen : Whole} {day : Day} {meals : List Meal}
    (h : ((source session timeout).ask canteen day).meals = .ok meals) {meal : Meal} (hmem : meal ∈ meals) :
    ∃ record, Replies session record ∧ mealOf record = .ok meal := by
  have hfetch : (fetch session timeout canteen day).meals = .ok meals := mapError_eq_ok.1 h
  unfold fetch at hfetch
  simp only at hfetch
  split at hfetch
  · cases hfetch
  · next response hresponse =>
    obtain ⟨records, hrecords, record, hrecord, hmeal⟩ := exists_record_of_mealsOf hfetch hmem
    exact ⟨record, ⟨canteen, day, response, records, hresponse, hrecords, hrecord⟩, hmeal⟩

end MenuBoard.Feed
