import MenuBoard.Proofs.Settings.Cut

/-!
Lists that are joined and cut again.

Cutting at a separator and joining with it are inverse to each other on what `cut` can give: texts without the separator and
without white space at their ends (`IsItem`). A list may be written with white space around its texts and with blank parts
between them (`WrittenAs`); `cut_eq_iff` says that a text is cut into a list exactly if it is the list, written so. A separator
that is itself white space is no exception: what it adds to the white space around a text are more blank parts.
-/

namespace MenuBoard.Settings

open MenuBoard.Text

/-- the parts with the separator between them -/
def join (separator : Char) (parts : List String) : String := (String.singleton separator).intercalate parts

/-- A text that may stand in a list: not empty, without the separator, without white space at its ends. -/
structure IsItem (separator : Char) (x : String) : Prop where
  nonempty : x ≠ ""
  free : separator ∉ x.toList
  front : ∀ c ∈ x.toList.head?, isSpace c = false
  back : ∀ c ∈ x.toList.getLast?, isSpace c = false

theorem isItem_iff {separator : Char} {x : String} :
    IsItem separator x ↔ x ≠ "" ∧ separator ∉ x.toList ∧ trim x.toList = x.toList := by
  rw [trim_eq_self_iff]
  exact ⟨fun h => ⟨h.nonempty, h.free, h.front, h.back⟩, fun ⟨hne, hfree, hends⟩ => ⟨hne, hfree, hends.1, hends.2⟩⟩

instance (separator : Char) (x : String) : Decidable (IsItem separator x) := decidable_of_iff' _ isItem_iff

/-- The parts are the items in their order, with white space around them, and among them any number of parts of white space
alone. -/
inductive WrittenAs : List String → List String → Prop
  | none : WrittenAs [] []
  | blank {items parts : List String} (part : String) (hpart : ∀ c ∈ part.toList, isSpace c = true)
    (h : WrittenAs items parts) : WrittenAs items (part :: parts)
  | item {items parts : List String} (front x back : String) (hfront : ∀ c ∈ front.toList, isSpace c = true)
    (hback : ∀ c ∈ back.toList, isSpace c = true) (h : WrittenAs items parts) :
    WrittenAs (x :: items) ((front ++ x ++ back) :: parts)

section Join

variable {separator : Char}

theorem toList_join (parts : List String) :
    (join separator parts).toList = [separator].intercalate (parts.map String.toList) := by
  unfold join
  rw [String.toList_intercalate, String.toList_singleton]

/-! ## One part at a time -/

theorem cut_append_cons (a b : List Char) : cut separator (String.ofList (a ++ separator :: b)) =
    cut separator (String.ofList a) ++ cut separator (String.ofList b) := by
  have hpieces := pieces_append_cons (p := (· == separator)) (beq_self_eq_true separator) a b
  unfold cut
  rw [String.toList_ofList, String.toList_ofList, String.toList_ofList, hpieces, List.map_append, List.filter_append,
    List.map_append]

/-- **Parts that are joined are cut one by one**, even those that hold the separator. -/
theorem cut_join (parts : List String) : cut separator (join separator parts) = parts.flatMap (cut separator) := by
  rw [← String.ofList_toList (s := join separator parts), toList_join]
  induction parts with
  | nil => rfl
  | cons part parts ih =>
    rw [List.map_cons, List.flatMap_cons]
    by_cases hparts : parts = []
    · rw [hparts, List.map_nil, List.intercalate_singleton, String.ofList_toList, List.flatMap_nil, List.append_nil]
    · have hmap : parts.map String.toList ≠ [] := mt List.map_eq_nil_iff.1 hparts
      rw [List.intercalate_cons_of_ne_nil hmap, List.append_assoc, List.singleton_append, cut_append_cons, ih,
        String.ofList_toList]

theorem cut_blank {part : String} (h : ∀ c ∈ part.toList, isSpace c = true) : cut separator part = [] := by
  have htrim : trim part.toList = [] := by
    have hpad := trim_pad h (fun c (hc : c ∈ []) => nomatch hc) []
    rwa [List.append_nil, List.append_nil] at hpad
  have hfree : separator ∉ trim part.toList := by
    rw [htrim]
    exact List.not_mem_nil
  rw [cut_of_not_mem hfree, if_pos htrim]

theorem cut_item {front x back : String} (hx : IsItem separator x) (hfront : ∀ c ∈ front.toList, isSpace c = true)
    (hback : ∀ c ∈ back.toList, isSpace c = true) : cut separator (front ++ x ++ back) = [x] := by
  obtain ⟨hne, hfree, hself⟩ := isItem_iff.1 hx
  have htrim : trim (front ++ x ++ back).toList = x.toList := by
    rw [String.toList_append, String.toList_append, trim_pad hfront hback, hself]
  have hlist : x.toList ≠ [] := fun h => hne (String.toList_eq_nil_iff.1 h)
  rw [cut_of_not_mem (by rwa [htrim]), htrim, if_neg hlist, String.ofList_toList]

theorem isItem_of_mem_cut {s x : String} (h : x ∈ cut separator s) : IsItem separator x := by
  have hfree := not_mem_of_mem_cut h
  obtain ⟨part, -, hne, rfl⟩ := mem_cut.1 h
  refine isItem_iff.2 ⟨fun hempty => hne (String.ofList_eq_empty_iff.1 hempty), hfree, ?_⟩
  rw [String.toList_ofList, trim_trim]

/-! ## A list as it is written -/

theorem WrittenAs.self (items : List String) : WrittenAs items items := by
  induction items with
  | nil => exact .none
  | cons x items ih =>
    have hnone : ∀ c ∈ "".toList, isSpace c = true := fun c hc => nomatch hc
    have hwritten := WrittenAs.item "" x "" hnone hnone ih
    rwa [String.empty_append, String.append_empty] at hwritten

/-- Each part of a list as it is written gives its item, or nothing. -/
theorem WrittenAs.flatMap_cut {items parts : List String} (h : WrittenAs items parts)
    (hitems : ∀ x ∈ items, IsItem separator x) : parts.flatMap (cut separator) = items := by
  induction h with
  | none => rfl
  | blank part hpart _ ih => rw [List.flatMap_cons, cut_blank hpart, ih hitems, List.nil_append]
  | item front x back hfront hback _ ih =>
    have hx := hitems x List.mem_cons_self
    rw [List.flatMap_cons, cut_item hx hfront hback, ih fun y hy => hitems y (List.mem_cons_of_mem x hy), List.singleton_append]

theorem writtenAs_trim (parts : List (List Char)) :
    WrittenAs (((parts.map trim).filter fun w => !w.isEmpty).map String.ofList) (parts.map String.ofList) := by
  induction parts with
  | nil => exact .none
  | cons part parts ih =>
    obtain ⟨front, back, hpart, hfront, hback⟩ := exists_pad_trim part
    rw [List.map_cons, List.map_cons]
    by_cases hblank : trim part = []
    · rw [List.filter_cons_of_neg (by simp [hblank])]
      refine .blank _ (fun c hc => ?_) ih
      rw [String.toList_ofList, ← hpart, hblank, List.append_nil] at hc
      rcases List.mem_append.1 hc with hc | hc
      · exact hfront c hc
      · exact hback c hc
    · have hwritten : String.ofList part = String.ofList front ++ String.ofList (trim part) ++ String.ofList back := by
        rw [← String.ofList_append, ← String.ofList_append, hpart]
      rw [List.filter_cons_of_pos (by simp [hblank]), List.map_cons, hwritten]
      exact .item _ _ _ (by rwa [String.toList_ofList]) (by rwa [String.toList_ofList]) ih

/-- **A text is cut into a list** exactly if it is the list as it may be written. -/
theorem cut_eq_iff {s : String} {items : List String} : cut separator s = items ↔
    (∀ x ∈ items, IsItem separator x) ∧ ∃ parts, WrittenAs items parts ∧ join separator parts = s := by
  constructor
  · rintro rfl
    refine ⟨fun x hx => isItem_of_mem_cut hx, _, writtenAs_trim (pieces (· == separator) s.toList), ?_⟩
    apply String.toList_injective
    have hparts := List.map_id'' (fun _ => String.toList_ofList) (pieces (· == separator) s.toList)
    rw [toList_join, List.map_map]
    exact (congrArg _ hparts).trans (intercalate_pieces separator s.toList)
  · rintro ⟨hitems, parts, hparts, rfl⟩
    rw [cut_join, hparts.flatMap_cut hitems]

end Join

/-- **Cutting undoes joining**, whatever white space and blank parts are added, and joining keeps what a cut has given. -/
theorem cut_undoes_join (separator : Char) :
    (∀ items parts, (∀ x ∈ items, IsItem separator x) → WrittenAs items parts → cut separator (join separator parts) = items) ∧
    (∀ items, (∀ x ∈ items, IsItem separator x) → cut separator (join separator items) = items) ∧
    ∀ s, (∀ x ∈ cut separator s, IsItem separator x) ∧ cut separator (join separator (cut separator s)) = cut separator s := by
  have hwritten (items parts : List String) (hitems : ∀ x ∈ items, IsItem separator x) (hparts : WrittenAs items parts) :
      cut separator (join separator parts) = items := cut_eq_iff.2 ⟨hitems, parts, hparts, rfl⟩
  have hself (items : List String) (hitems : ∀ x ∈ items, IsItem separator x) :
      cut separator (join separator items) = items := hwritten items items hitems (WrittenAs.self items)
  have hcut (s : String) : ∀ x ∈ cut separator s, IsItem separator x := fun x hx => isItem_of_mem_cut hx
  exact ⟨hwritten, hself, fun s => ⟨hcut s, hself _ (hcut s)⟩⟩

/-- Two patterns, one of them with a comma, stand one to a line: an indented line, a line of white space and a newline at the
end change nothing. Cut at commas the first one is two. -/
theorem cut_two_patterns_in_lines : (∀ x ∈ ["beans, green", "soup"], IsItem '\n' x) ∧
    WrittenAs ["beans, green", "soup"] ["\tbeans, green ", "\u2003", "  soup\r", ""] ∧
    cut '\n' (join '\n' ["\tbeans, green ", "\u2003", "  soup\r", ""]) = ["beans, green", "soup"] ∧
    cut '\n' (join '\n' ["beans, green", "soup"]) = ["beans, green", "soup"] ∧
    cut ',' (join ',' (cut ',' "beans, green, ,\nsoup")) = ["beans", "green", "soup"] := by
  have hitems : ∀ x ∈ ["beans, green", "soup"], IsItem '\n' x := by decide +kernel
  have hspace : ∀ s ∈ ["\t", " ", "\u2003", "  ", "\r", ""], s.toList.all isSpace = true := by decide +kernel
  have hspace (s : String) (hs : s ∈ ["\t", " ", "\u2003", "  ", "\r", ""]) : ∀ c ∈ s.toList, isSpace c = true :=
    List.all_eq_true.1 (hspace s hs)
  have hwritten : WrittenAs ["beans, green", "soup"] ["\tbeans, green ", "\u2003", "  soup\r", ""] :=
    .item "\t" "beans, green" " " (hspace _ (by simp)) (hspace _ (by simp)) <| .blank "\u2003" (hspace _ (by simp)) <|
      .item "  " "soup" "\r" (hspace _ (by simp)) (hspace _ (by simp)) <| .blank "" (hspace _ (by simp)) .none
  have hcommas : cut ',' "beans, green, ,\nsoup" = ["beans", "green", "soup"] := by decide +kernel
  obtain ⟨hpadded, hplain, -⟩ := cut_undoes_join '\n'
  obtain ⟨-, -, hagain⟩ := cut_undoes_join ','
  exact ⟨hitems, hwritten, hpadded _ _ hitems hwritten, hplain _ hitems, (hagain _).2.trans hcommas⟩

end MenuBoard.Settings
