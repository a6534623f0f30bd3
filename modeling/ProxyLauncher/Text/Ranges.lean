/-!
# Ranges of code points

A property of characters is kept as closed ranges of code points, ascending and
apart. Membership stops at the first range that lies above the code point, so
the characters that occur most, the ASCII ones, are found at once.

The check `ascending` is the invariant that makes the early stop right: for
ascending ranges `contains` is membership in one of them.  The tables of this
library are checked where they are defined.
-/

namespace ProxyLauncher.Text

/-- Closed ranges of code points, each a first and a last member. -/
abbrev Ranges := List (Nat × Nat)

namespace Ranges

/-- A code point belongs to the ranges when one of them holds it. -/
def contains : Ranges → Nat → Bool
  | [], _ => false
  | (first, last) :: rest, point =>
    if point < first then false else point ≤ last || contains rest point

/-- Every range is nonempty and ends before the next one starts. -/
def ascending : Ranges → Bool
  | [] => true
  | [(first, last)] => first ≤ last
  | (first, last) :: (next, stop) :: rest =>
    first ≤ last && last < next && ascending ((next, stop) :: rest)

@[simp]
theorem contains_nil (point : Nat) : contains [] point = false :=
  rfl

theorem contains_cons (first last : Nat) (rest : Ranges) (point : Nat) :
    contains ((first, last) :: rest) point =
      (decide (first ≤ point) && (decide (point ≤ last) || contains rest point)) := by
  by_cases below : point < first
  · have not_reached : ¬ first ≤ point := by omega
    simp [contains, below, not_reached]
  · have reached : first ≤ point := by omega
    simp [contains, below, reached]

/-- The first of ascending ranges is nonempty, and the others lie behind it. -/
theorem ascending_cons_iff {first last : Nat} {rest : Ranges} :
    ascending ((first, last) :: rest) = true ↔
      first ≤ last ∧ (∀ range ∈ rest.head?, last < range.1) ∧ ascending rest = true := by
  cases rest with
  | nil => simp [ascending]
  | cons next others => simp [ascending, and_assoc]

/-- No code point below the first of ascending ranges belongs to one of them. -/
theorem lt_of_ascending {ranges : Ranges} (ascends : ranges.ascending = true) {point : Nat}
    (below : ∀ range ∈ ranges.head?, point < range.1) : ∀ range ∈ ranges, point < range.1 := by
  induction ranges generalizing point with
  | nil => simp
  | cons range rest ih =>
    have here : point < range.1 := below range rfl
    obtain ⟨nonempty, behind, ascendsOn⟩ := ascending_cons_iff.mp ascends
    rw [List.forall_mem_cons]
    refine ⟨here, ih ascendsOn ?_⟩
    intro next isNext
    have apart := behind next isNext
    omega

/-- A code point is contained in ascending ranges exactly when it belongs to one of them. -/
theorem contains_iff {ranges : Ranges} (ascends : ranges.ascending = true) (point : Nat) :
    ranges.contains point = true ↔ ∃ range ∈ ranges, range.1 ≤ point ∧ point ≤ range.2 := by
  induction ranges with
  | nil => simp
  | cons range rest ih =>
    obtain ⟨first, last⟩ := range
    obtain ⟨nonempty, behind, ascendsOn⟩ := ascending_cons_iff.mp ascends
    have holds := ih ascendsOn
    by_cases below : point < first
    · -- The search stops here, and all later ranges lie further up.
      have further : ∀ later ∈ rest, point < later.1 := by
        apply lt_of_ascending ascendsOn
        intro next isNext
        have apart := behind next isNext
        omega
      have stops : contains ((first, last) :: rest) point = false := by simp [contains, below]
      rw [stops]
      constructor
      · intro found
        cases found
      · rintro ⟨range, member, reached, _⟩
        rcases List.mem_cons.mp member with rfl | later
        · exact absurd below (Nat.not_lt.mpr reached)
        · exact absurd (further range later) (Nat.not_lt.mpr reached)
    · have reached : first ≤ point := Nat.not_lt.mp below
      rw [contains_cons]
      simp [reached, holds]

end Ranges

end ProxyLauncher.Text
