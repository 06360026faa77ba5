import Mathlib.Data.List.DropRight
import MenuBoard.Settings.Value

/-!
Cutting a text into trimmed parts.

`lists_cut` says what `cut` does without the function: the parts between separators, trimmed, without those that are white
space alone. White space at the ends of the text makes no difference (`cut_trim`), and a text without the separator is one
part (`cut_of_not_mem`). `cut_eq_cut_iff` says which texts two separators cut alike.
-/

namespace MenuBoard.Text

/-! ## White space at the ends of a text -/

theorem trim_eq (text : List Char) : trim text = (text.dropWhile isSpace).rdropWhile isSpace := rfl

/-- What white space at the ends does not change can be had from the trimmed text. -/
theorem apply_trim {β : Sort*} {f : List Char → β} (hcons : ∀ c text, isSpace c = true → f (c :: text) = f text)
    (hconcat : ∀ c text, isSpace c = true → f (text ++ [c]) = f text) (text : List Char) : f (trim text) = f text := by
  -- the back goes character by character from the end, the front from the beginning
  have hback (text : List Char) : f (text.rdropWhile isSpace) = f text := by
    induction text using List.reverseRecOn with
    | nil => rfl
    | append_singleton text c ih =>
      by_cases hc : isSpace c = true
      · rw [List.rdropWhile_concat_pos _ _ _ hc, ih, hconcat c text hc]
      · rw [List.rdropWhile_concat_neg _ _ _ hc]
  have hfront (text : List Char) : f (text.dropWhile isSpace) = f text := by
    induction text with
    | nil => rfl
    | cons c text ih =>
      by_cases hc : isSpace c = true
      · rw [List.dropWhile_cons_of_pos hc, ih, hcons c text hc]
      · rw [List.dropWhile_cons_of_neg hc]
  rw [trim_eq, hback, hfront]

theorem trim_cons {c : Char} (h : isSpace c = true) (text : List Char) : trim (c :: text) = trim text := by
  rw [trim_eq, List.dropWhile_cons_of_pos h, trim_eq]

theorem trim_concat {c : Char} (h : isSpace c = true) (text : List Char) : trim (text ++ [c]) = trim text := by
  rw [trim_eq, trim_eq, List.dropWhile_append]
  split
  · next hempty =>
    rw [List.isEmpty_iff.1 hempty, List.dropWhile_cons_of_pos h, List.dropWhile_nil]
  · exact List.rdropWhile_concat_pos _ _ _ h

theorem length_trim_le (text : List Char) : (trim text).length ≤ text.length :=
  ((List.rdropWhile_prefix isSpace _).length_le).trans (List.dropWhile_suffix isSpace).length_le

theorem trim_trim (text : List Char) : trim (trim text) = trim text :=
  apply_trim (fun _ text hc => trim_cons hc text) (fun _ text hc => trim_concat hc text) text

theorem trim_pad {front back : List Char} (hfront : ∀ c ∈ front, isSpace c = true) (hback : ∀ c ∈ back, isSpace c = true)
    (text : List Char) : trim (front ++ text ++ back) = trim text := by
  induction back using List.reverseRecOn with
  | nil =>
    rw [List.append_nil]
    induction front with
    | nil => rfl
    | cons c front ih =>
      rw [List.cons_append, trim_cons (hfront c List.mem_cons_self), ih fun d hd => hfront d (List.mem_cons_of_mem c hd)]
  | append_singleton back c ih =>
    rw [← List.append_assoc, trim_concat (hback c (List.mem_append_right _ (List.mem_singleton_self c))),
      ih fun d hd => hback d (List.mem_append_left _ hd)]

theorem exists_pad_trim (text : List Char) : ∃ front back, front ++ trim text ++ back = text ∧
    (∀ c ∈ front, isSpace c = true) ∧ ∀ c ∈ back, isSpace c = true := by
  refine ⟨text.takeWhile isSpace, (text.dropWhile isSpace).rtakeWhile isSpace, ?_, fun c hc => List.mem_takeWhile_imp hc,
    fun c hc => List.mem_rtakeWhile_imp hc⟩
  rw [trim_eq, List.append_assoc, List.rdropWhile_append_rtakeWhile, List.takeWhile_append_dropWhile]

/-- A text is trimmed if there is no white space at its ends. -/
theorem trim_eq_self_iff {text : List Char} :
    trim text = text ↔ (∀ c ∈ text.head?, isSpace c = false) ∧ ∀ c ∈ text.getLast?, isSpace c = false := by
  constructor
  · intro htrim
    -- neither end of the text is the end of a longer one
    refine ⟨fun c hc => Bool.eq_false_iff.2 fun hspace => ?_, fun c hc => Bool.eq_false_iff.2 fun hspace => ?_⟩
    · obtain ⟨rest, rfl⟩ := List.head?_eq_some_iff.1 hc
      have hlength := congrArg List.length htrim
      have hshort := length_trim_le rest
      rw [trim_cons hspace, List.length_cons] at hlength
      omega
    · obtain ⟨rest, rfl⟩ := List.getLast?_eq_some_iff.1 hc
      have hlength := congrArg List.length htrim
      have hshort := length_trim_le rest
      rw [trim_concat hspace, List.length_append, List.length_singleton] at hlength
      omega
  · rintro ⟨hhead, hlast⟩
    have hfront : text.dropWhile isSpace = text := by
      cases text with
      | nil => rfl
      | cons c text => exact List.dropWhile_cons_of_neg (Bool.eq_false_iff.1 (hhead c rfl))
    rw [trim_eq, hfront, List.rdropWhile_eq_self_iff]
    intro hne
    exact Bool.eq_false_iff.1 (hlast _ (List.getLast?_eq_some_getLast hne))

theorem mem_of_mem_trim {c : Char} {text : List Char} (h : c ∈ trim text) : c ∈ text :=
  (List.dropWhile_suffix isSpace).subset ((List.rdropWhile_prefix isSpace _).subset h)

theorem mem_trim {c : Char} (h : isSpace c = false) {text : List Char} (hmem : c ∈ text) : c ∈ trim text := by
  have hne {d : Char} (hd : isSpace d = true) : c ≠ d := by
    rintro rfl
    rw [h] at hd
    cases hd
  have hsame := apply_trim (f := (c ∈ ·)) (fun d text hd => by simp [hne hd]) (fun d text hd => by simp [hne hd]) text
  exact hsame.mpr hmem

/-! ## Pieces -/

theorem pieces_eq_splitOnP (p : Char → Bool) (text : List Char) : pieces p text = text.splitOnP p := by
  induction text with
  | nil => rfl
  | cons c text ih =>
    rw [List.splitOnP_cons_eq_if_modifyHead, ← ih, pieces]
    by_cases hc : p c = true
    · rw [if_pos hc, if_pos hc]
    · rw [if_neg hc, if_neg hc]
      cases hp : pieces p text with
      | nil => exact absurd hp (pieces_ne_nil p text)
      | cons w ws => rfl

/-- The pieces with the separator between them are the text. -/
theorem intercalate_pieces (separator : Char) (text : List Char) :
    [separator].intercalate (pieces (· == separator) text) = text := by
  rw [pieces_eq_splitOnP, ← List.splitOn_eq_splitOnP]
  exact List.intercalate_splitOn separator

/-- A character that is no separator goes to the last piece. -/
theorem pieces_concat {p : Char → Bool} {c : Char} (hc : p c = false) (text : List Char) :
    ∃ before last, pieces p text = before ++ [last] ∧ pieces p (text ++ [c]) = before ++ [last ++ [c]] := by
  induction text with
  | nil => exact ⟨[], [], rfl, pieces_eq_singleton fun d hd => List.mem_singleton.1 hd ▸ hc⟩
  | cons d text ih =>
    obtain ⟨before, last, htext, hlonger⟩ := ih
    rw [List.cons_append, pieces, pieces, htext, hlonger]
    by_cases hd : p d = true
    · rw [if_pos hd, if_pos hd]
      exact ⟨[] :: before, last, rfl, rfl⟩
    · rw [if_neg hd, if_neg hd]
      cases before with
      | nil => exact ⟨[], d :: last, rfl, rfl⟩
      | cons w ws => exact ⟨(d :: w) :: ws, last, rfl, rfl⟩

end MenuBoard.Text

namespace MenuBoard.Settings

open MenuBoard.Text

/-! ## Cutting a text -/

/-- the parts of a text between separators, trimmed, without those that are white space alone -/
def Lists (separator : Char) (s : String) (texts : List String) : Prop :=
  ∃ parts : List (List Char), [separator].intercalate parts = s.toList ∧ (∀ part ∈ parts, separator ∉ part) ∧
    texts.map String.toList = (parts.map trim).filter fun part => !part.isEmpty

section Cut

variable {separator c : Char} {text : List Char}

theorem mem_cut {s x : String} :
    x ∈ cut separator s ↔ ∃ part ∈ pieces (· == separator) s.toList, trim part ≠ [] ∧ String.ofList (trim part) = x := by
  simp [cut, and_assoc]

theorem lists_cut (separator : Char) (s : String) : Lists separator s (cut separator s) := by
  refine ⟨pieces (· == separator) s.toList, intercalate_pieces separator s.toList, fun part hpart hmem => ?_, ?_⟩
  · have hseparator := not_mem_of_mem_pieces hpart separator hmem
    simp at hseparator
  · unfold cut
    rw [List.map_map]
    exact List.map_id'' (fun _ => String.toList_ofList) _

/-- A part of white space alone is left out, and every other part is trimmed anyway. -/
theorem cut_cons (h : isSpace c = true) : cut separator (String.ofList (c :: text)) = cut separator (String.ofList text) := by
  unfold cut
  rw [String.toList_ofList, String.toList_ofList, pieces]
  by_cases hc : (c == separator) = true
  · rw [if_pos hc]
    rfl
  · rw [if_neg hc]
    cases hp : pieces (· == separator) text with
    | nil => exact absurd hp (pieces_ne_nil _ text)
    | cons w ws =>
      simp only [List.map_cons, trim_cons h]

theorem cut_concat (h : isSpace c = true) :
    cut separator (String.ofList (text ++ [c])) = cut separator (String.ofList text) := by
  unfold cut
  rw [String.toList_ofList, String.toList_ofList]
  by_cases hc : (c == separator) = true
  · have hcut : pieces (· == separator) (text ++ [c]) = pieces (· == separator) text ++ [[]] :=
      pieces_append_cons (p := (· == separator)) hc text []
    rw [hcut, List.map_append, List.filter_append, List.map_append]
    exact List.append_nil _
  · obtain ⟨before, last, htext, hlonger⟩ := pieces_concat (p := (· == separator)) (Bool.eq_false_iff.2 hc) text
    rw [htext, hlonger, List.map_append, List.map_append, List.map_singleton, List.map_singleton, trim_concat h]

theorem cut_trim (separator : Char) (s : String) : cut separator (String.ofList (trim s.toList)) = cut separator s := by
  have hsame := apply_trim (f := fun text => cut separator (String.ofList text)) (fun _ _ hc => cut_cons hc)
    (fun _ _ hc => cut_concat hc) s.toList
  rwa [String.ofList_toList] at hsame

theorem cut_of_not_mem {s : String} (h : separator ∉ trim s.toList) :
    cut separator s = if trim s.toList = [] then [] else [String.ofList (trim s.toList)] := by
  have hone : pieces (· == separator) (trim s.toList) = [trim s.toList] :=
    pieces_eq_singleton fun d hd => beq_false_of_ne fun heq => h (heq ▸ hd)
  rw [← cut_trim]
  unfold cut
  rw [String.toList_ofList, hone, List.map_singleton, trim_trim]
  by_cases hempty : trim s.toList = []
  · rw [if_pos hempty, hempty]
    rfl
  · rw [if_neg hempty, List.filter_cons_of_pos (by simp [hempty])]
    rfl

theorem not_mem_of_mem_cut {s x : String} (h : x ∈ cut separator s) : separator ∉ x.toList := by
  obtain ⟨part, hpart, -, rfl⟩ := mem_cut.1 h
  intro hmem
  rw [String.toList_ofList] at hmem
  have hseparator := not_mem_of_mem_pieces hpart separator (mem_of_mem_trim hmem)
  simp at hseparator

theorem exists_mem_cut {s : String} (hspace : isSpace c = false) (hne : c ≠ separator) (h : c ∈ s.toList) :
    ∃ x ∈ cut separator s, c ∈ x.toList := by
  obtain ⟨part, hpart, hmem⟩ := exists_mem_pieces (p := (· == separator)) (beq_false_of_ne hne) h
  have htrim := mem_trim hspace hmem
  exact ⟨_, mem_cut.2 ⟨part, hpart, List.ne_nil_of_mem htrim, rfl⟩, by rwa [String.toList_ofList]⟩

/-- **Two separators cut a text alike** exactly if the one that is no white space does not occur in it, and the other one at
most at its ends. -/
theorem cut_eq_cut_iff {other : Char} {s : String} (hspace : isSpace separator = false) (hne : separator ≠ other) :
    cut separator s = cut other s ↔ separator ∉ s.toList ∧ other ∉ trim s.toList := by
  constructor
  · intro hsame
    have hseparator : separator ∉ s.toList := by
      -- the other cut would leave it in a part, where this one leaves it in none
      intro hmem
      obtain ⟨x, hx, hin⟩ := exists_mem_cut hspace hne hmem
      rw [← hsame] at hx
      exact not_mem_of_mem_cut hx hin
    refine ⟨hseparator, fun hmem => ?_⟩
    have hwhole := cut_of_not_mem fun h => hseparator (mem_of_mem_trim h)
    rw [if_neg (List.ne_nil_of_mem hmem), hsame] at hwhole
    have hx : String.ofList (trim s.toList) ∈ cut other s := hwhole ▸ List.mem_singleton_self _
    exact not_mem_of_mem_cut hx (by rwa [String.toList_ofList])
  · rintro ⟨hseparator, hother⟩
    rw [cut_of_not_mem fun h => hseparator (mem_of_mem_trim h), cut_of_not_mem hother]

end Cut

end MenuBoard.Settings
