import Mathlib.Data.List.Induction
import Mathlib.Data.List.Nodup
import MenuBoard.Json.Reader
import MenuBoard.Proofs.Except

/-!
Pairs of a key and a value that are assigned one after the other.

A key that is assigned again keeps its place and takes the new value (`assign`). So of each key the last value is held, and keys
stand in the order in which they were first assigned (`Assigned`); `assigned_assignAll` shows it by induction on the pairs, the
last one taken first.

The fields of an object are held in this way, whatever the text says twice, and so every object that is read has each of its
keys once (`hasKeysOnce_of_read`).
-/

namespace MenuBoard

/-! ## Assigning -/

section Assign

variable {κ ν : Type} [DecidableEq κ]

/-- A repeated key keeps its first place and takes the new value. -/
def assign (key : κ) (value : ν) : List (κ × ν) → List (κ × ν)
  | [] => [(key, value)]
  | (k, v) :: rest => if k = key then (key, value) :: rest else (k, v) :: assign key value rest

/-- Assigns pairs, one after the other. -/
def assignAll (pairs : List (κ × ν)) : List (κ × ν) := pairs.foldl (fun held pair => assign pair.1 pair.2 held) []

/-- What is held after pairs were assigned: of each key the last pair, in the order of the first ones. -/
structure Assigned (pairs held : List (κ × ν)) : Prop where
  found : ∀ key, held.find? (·.1 == key) = (pairs.filter (·.1 == key)).getLast?
  order : held.map Prod.fst = (pairs.map Prod.fst).eraseDups
  distinct : (held.map Prod.fst).Nodup

theorem find?_assign (key : κ) (value : ν) (held : List (κ × ν)) (other : κ) :
    (assign key value held).find? (·.1 == other) =
      if key = other then some (key, value) else held.find? (·.1 == other) := by
  induction held with
  | nil => by_cases h : key = other <;> simp [assign, h]
  | cons pair rest ih =>
    obtain ⟨k, v⟩ := pair
    unfold assign
    by_cases hk : k = key
    · subst hk
      rw [if_pos rfl]
      by_cases h : k = other <;> simp [h]
    · rw [if_neg hk]
      by_cases h : k = other
      · subst h
        simp [Ne.symm hk]
      · simp [h, ih]

theorem map_fst_assign (key : κ) (value : ν) (held : List (κ × ν)) :
    (assign key value held).map Prod.fst =
      if key ∈ held.map Prod.fst then held.map Prod.fst else held.map Prod.fst ++ [key] := by
  induction held with
  | nil => rfl
  | cons pair rest ih =>
    obtain ⟨k, v⟩ := pair
    unfold assign
    by_cases hk : k = key
    · subst hk
      simp
    · rw [if_neg hk, List.map_cons, ih]
      by_cases hmem : key ∈ rest.map Prod.fst <;> simp [hmem, Ne.symm hk]

theorem mem_assign {key : κ} {value : ν} {held : List (κ × ν)} {pair : κ × ν} (h : pair ∈ assign key value held) :
    pair = (key, value) ∨ pair ∈ held := by
  induction held with
  | nil => exact .inl (List.mem_singleton.1 h)
  | cons first rest ih =>
    obtain ⟨k, v⟩ := first
    unfold assign at h
    split at h
    · rcases List.mem_cons.1 h with rfl | hrest
      · exact .inl rfl
      · exact .inr (List.mem_cons_of_mem _ hrest)
    · rcases List.mem_cons.1 h with rfl | hrest
      · exact .inr List.mem_cons_self
      · exact (ih hrest).imp_right (List.mem_cons_of_mem _)

theorem nodup_assign (key : κ) (value : ν) {held : List (κ × ν)} (h : (held.map Prod.fst).Nodup) :
    ((assign key value held).map Prod.fst).Nodup := by
  rw [map_fst_assign]
  split
  · exact h
  · next hnew =>
    rw [← List.concat_eq_append]
    exact h.concat hnew

/-- The first places of keys, with one more key at the end. -/
theorem eraseDups_concat (keys : List κ) (key : κ) :
    (keys ++ [key]).eraseDups = if key ∈ keys.eraseDups then keys.eraseDups else keys.eraseDups ++ [key] := by
  rw [List.eraseDups_append]
  by_cases hmem : key ∈ keys
  · simp [List.removeAll, hmem]
  · simp [List.removeAll, hmem, List.eraseDups_cons]

theorem Assigned.concat {pairs held : List (κ × ν)} (h : Assigned pairs held) (pair : κ × ν) :
    Assigned (pairs ++ [pair]) (assign pair.1 pair.2 held) where
  found key := by
    obtain ⟨k, v⟩ := pair
    rw [find?_assign, List.filter_append, List.getLast?_append, ← h.found]
    by_cases hk : k = key <;> simp [hk]
  order := by
    rw [map_fst_assign, List.map_append, List.map_cons, List.map_nil, eraseDups_concat, ← h.order]
  distinct := nodup_assign pair.1 pair.2 h.distinct

/-- **Of each key the last value is held, in the place of the first one.** -/
theorem assigned_assignAll (pairs : List (κ × ν)) : Assigned pairs (assignAll pairs) := by
  induction pairs using List.reverseRecOn with
  | nil => exact ⟨fun _ => rfl, rfl, List.nodup_nil⟩
  | append_singleton pairs pair ih =>
    unfold assignAll
    rw [List.foldl_append]
    exact ih.concat pair

theorem mem_assignAll {pairs : List (κ × ν)} {pair : κ × ν} (h : pair ∈ assignAll pairs) : pair ∈ pairs := by
  induction pairs using List.reverseRecOn with
  | nil => cases h
  | append_singleton pairs last ih =>
    unfold assignAll at h
    rw [List.foldl_append] at h
    rcases mem_assign h with rfl | hmem
    · exact List.mem_append_right _ (List.mem_singleton_self _)
    · exact List.mem_append_left _ (ih hmem)

/-- A key is held exactly if it was assigned. -/
theorem Assigned.mem_keys {pairs held : List (κ × ν)} (h : Assigned pairs held) {key : κ} :
    key ∈ held.map Prod.fst ↔ key ∈ pairs.map Prod.fst := by
  rw [h.order, List.mem_eraseDups]

end Assign

/-! ## Fields of objects -/

namespace Json

theorem setField_eq_assign (key : String) (value : Json) (held : List (String × Json)) :
    setField key value held = assign key value held := by
  induction held with
  | nil => rfl
  | cons pair rest ih =>
    obtain ⟨k, v⟩ := pair
    unfold setField assign
    by_cases hk : k = key <;> simp [hk, ih]

theorem mergeFields_eq_assignAll (fields : List (String × Json)) : mergeFields fields = assignAll fields := by
  unfold mergeFields assignAll
  simp only [setField_eq_assign]

/-- Every object in the value has each of its keys once. -/
inductive HasKeysOnce : Json → Prop where
  | null : HasKeysOnce .null
  | bool (b : Bool) : HasKeysOnce (.bool b)
  | int (n : Int) : HasKeysOnce (.int n)
  | real (x : Float) : HasKeysOnce (.real x)
  | str (s : String) : HasKeysOnce (.str s)
  | list {items : List Json} (each : ∀ v ∈ items, HasKeysOnce v) : HasKeysOnce (.list items)
  | object {fields : List (String × Json)} (once : (fields.map Prod.fst).Nodup)
      (each : ∀ field ∈ fields, HasKeysOnce field.2) : HasKeysOnce (.object fields)

theorem hasKeysOnce_mergeFields {fields : List (String × Json)} (h : ∀ field ∈ fields, HasKeysOnce field.2) :
    HasKeysOnce (.object (mergeFields fields)) := by
  rw [mergeFields_eq_assignAll]
  exact .object (assigned_assignAll fields).distinct fun field hfield => h field (mem_assignAll hfield)

theorem hasKeysOnce_literal {text rest : List Char} {v : Json} (h : literal? text = some (v, rest)) : HasKeysOnce v := by
  obtain ⟨⟨word, value⟩, hmem, hfound⟩ := List.exists_of_findSome?_eq_some h
  obtain ⟨_, -, heq⟩ := Option.map_eq_some_iff.1 hfound
  obtain rfl : value = v := congrArg Prod.fst heq
  simp only [List.mem_cons, Prod.mk.injEq, List.not_mem_nil, or_false] at hmem
  rcases hmem with ⟨-, rfl⟩ | ⟨-, rfl⟩ | ⟨-, rfl⟩ | ⟨-, rfl⟩ | ⟨-, rfl⟩ | ⟨-, rfl⟩ <;> constructor

theorem hasKeysOnce_number {text rest : List Char} {v : Json} (h : number text = .ok (v, rest)) : HasKeysOnce v := by
  unfold number at h
  simp only at h
  repeat' split at h
  all_goals first
    | cases h; constructor
    | cases h

/-- With this fuel only values are read in which every object has each of its keys once. -/
structure ReadsKeysOnce (fuel : Nat) : Prop where
  ofValue {text rest : List Char} {v : Json} : value fuel text = .ok (v, rest) → HasKeysOnce v
  ofItems {text rest : List Char} {vs : List Json} : items fuel text = .ok (vs, rest) → ∀ v ∈ vs, HasKeysOnce v
  ofFields {text rest : List Char} {found : List (String × Json)} :
    fields fuel text = .ok (found, rest) → ∀ field ∈ found, HasKeysOnce field.2

namespace ReadsKeysOnce

variable {fuel : Nat} {text rest : List Char}

theorem value_succ (hfuel : ReadsKeysOnce fuel) {v : Json} (h : value (fuel + 1) text = .ok (v, rest)) : HasKeysOnce v := by
  unfold value at h
  split at h
  · obtain ⟨⟨s, _⟩, -, h⟩ := bind_eq_ok.1 h
    cases h
    exact .str s
  · split at h
    · cases h
      exact .list (List.forall_mem_nil _)
    · obtain ⟨⟨vs, _⟩, hvs, h⟩ := bind_eq_ok.1 h
      cases h
      exact .list (hfuel.ofItems hvs)
  · split at h
    · cases h
      exact .object List.nodup_nil (List.forall_mem_nil _)
    · obtain ⟨⟨found, _⟩, hfound, h⟩ := bind_eq_ok.1 h
      cases h
      exact hasKeysOnce_mergeFields (hfuel.ofFields hfound)
  · split at h
    · next hliteral =>
      cases h
      exact hasKeysOnce_literal hliteral
    · exact hasKeysOnce_number h

theorem items_succ (hfuel : ReadsKeysOnce fuel) {vs : List Json} (h : items (fuel + 1) text = .ok (vs, rest)) :
    ∀ v ∈ vs, HasKeysOnce v := by
  unfold items at h
  obtain ⟨⟨first, _⟩, hfirst, h⟩ := bind_eq_ok.1 h
  simp only at h
  split at h
  · cases h
    exact List.forall_mem_singleton.2 (hfuel.ofValue hfirst)
  · obtain ⟨⟨more, _⟩, hmore, h⟩ := bind_eq_ok.1 h
    cases h
    exact List.forall_mem_cons.2 ⟨hfuel.ofValue hfirst, hfuel.ofItems hmore⟩
  · cases h

theorem fields_succ (hfuel : ReadsKeysOnce fuel) {found : List (String × Json)}
    (h : fields (fuel + 1) text = .ok (found, rest)) : ∀ field ∈ found, HasKeysOnce field.2 := by
  unfold fields at h
  split at h
  · obtain ⟨⟨key, _⟩, -, h⟩ := bind_eq_ok.1 h
    simp only at h
    split at h
    · obtain ⟨⟨first, _⟩, hfirst, h⟩ := bind_eq_ok.1 h
      simp only at h
      split at h
      · cases h
        exact List.forall_mem_singleton.2 (hfuel.ofValue hfirst)
      · obtain ⟨⟨more, _⟩, hmore, h⟩ := bind_eq_ok.1 h
        cases h
        exact List.forall_mem_cons.2 ⟨hfuel.ofValue hfirst, hfuel.ofFields hmore⟩
      · cases h
    · cases h
  · cases h

end ReadsKeysOnce

/-- In one induction on the fuel that values, items and fields share. -/
theorem readsKeysOnce (fuel : Nat) : ReadsKeysOnce fuel := by
  induction fuel with
  | zero =>
    constructor <;> intro text rest read h
    all_goals cases h
  | succ fuel ih => exact ⟨ih.value_succ, ih.items_succ, ih.fields_succ⟩

/-- **Every object that is read has each of its keys once.** -/
theorem hasKeysOnce_of_read {text : List Char} {v : Json} (h : read text = .ok v) : HasKeysOnce v := by
  have hwhole : whole text = .ok v := by
    unfold read at h
    split at h
    · next hwhole => rw [hwhole, Except.ok.inj h]
    · cases h
    · cases h
  unfold whole at hwhole
  split at hwhole
  · cases hwhole
  · obtain ⟨⟨found, rest⟩, hfound, hwhole⟩ := bind_eq_ok.1 hwhole
    simp only at hwhole
    split at hwhole
    · obtain rfl := Except.ok.inj hwhole
      exact (readsKeysOnce _).ofValue hfound
    · cases hwhole

end Json

end MenuBoard
