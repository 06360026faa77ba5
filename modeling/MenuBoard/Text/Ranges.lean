/-!
Sets of characters, given by their code points as rising ranges. `contains_iff` says that a look-up finds exactly the
members, as long as the ranges rise.
-/

namespace MenuBoard.Text

/-- a set of code points as inclusive ranges, the lowest first -/
abbrev Ranges := List (Nat × Nat)

/-- membership; stops at the first range that begins after the code point -/
def Ranges.contains : Ranges → Nat → Bool
  | [], _ => false
  | (lo, hi) :: rest, n => if n < lo then false else n ≤ hi || Ranges.contains rest n

/-- every range begins after the one before it has ended -/
def Ranges.Rising : Ranges → Prop
  | [] => True
  | (lo, hi) :: rest => lo ≤ hi ∧ (∀ r ∈ rest, hi < r.1) ∧ Ranges.Rising rest

theorem Ranges.contains_iff {rs : Ranges} (h : rs.Rising) (n : Nat) :
    rs.contains n = true ↔ ∃ r ∈ rs, r.1 ≤ n ∧ n ≤ r.2 := by
  induction rs with
  | nil => simp [Ranges.contains]
  | cons r rest ih =>
    obtain ⟨lo, hi⟩ := r
    obtain ⟨hle, hafter, hrest⟩ := h
    have ih := ih hrest
    unfold Ranges.contains
    split
    · next hlt =>
      simp only [Bool.false_eq_true, List.mem_cons, false_iff, not_exists, not_and]
      rintro r (rfl | hr) h1
      · simp only at h1; omega
      · have := hafter r hr; omega
    · next hge =>
      simp only [Bool.or_eq_true, decide_eq_true_eq, ih, List.mem_cons]
      constructor
      · rintro (h1 | ⟨r, hr, h2⟩)
        · exact ⟨(lo, hi), .inl rfl, by simp only; omega, h1⟩
        · exact ⟨r, .inr hr, h2⟩
      · rintro ⟨r, rfl | hr, h1, h2⟩
        · exact .inl h2
        · exact .inr ⟨r, hr, h1, h2⟩

end MenuBoard.Text
