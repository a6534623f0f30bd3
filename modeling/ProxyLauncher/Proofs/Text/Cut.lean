/-!
# Cutting at the last mark

Where a part without a mark stands behind a mark, the two sides of the mark can
be told apart again, whatever the front holds: the mark is the last one.
-/

namespace ProxyLauncher.Text

/-- Cuts a text at the last occurrence of a mark. -/
def cutAtLast? (mark : Char) : List Char → Option (List Char × List Char)
  | [] => none
  | first :: rest =>
      match cutAtLast? mark rest with
      | some (front, back) => some (first :: front, back)
      | none => if first = mark then some ([], rest) else none

variable {mark : Char}

theorem cutAtLast?_eq_none {text : List Char} (clean : mark ∉ text) :
    cutAtLast? mark text = none := by
  induction text with
  | nil => rfl
  | cons first rest ih =>
      simp only [List.mem_cons, not_or] at clean
      rw [cutAtLast?, ih clean.2]
      exact if_neg (Ne.symm clean.1)

/-- What stands behind a mark, and has none, is cut off there. -/
theorem cutAtLast?_append (front : List Char) {back : List Char} (clean : mark ∉ back) :
    cutAtLast? mark (front ++ mark :: back) = some (front, back) := by
  induction front with
  | nil =>
      rw [List.nil_append, cutAtLast?, cutAtLast?_eq_none clean]
      exact if_pos rfl
  | cons first front ih => rw [List.cons_append, cutAtLast?, ih]

/-- So the two sides of the last mark are determined by the whole. -/
theorem append_mark_inj {front other back rest : List Char} (clean : mark ∉ back)
    (restClean : mark ∉ rest) (same : front ++ mark :: back = other ++ mark :: rest) :
    front = other ∧ back = rest := by
  have cut := cutAtLast?_append front clean
  rw [same, cutAtLast?_append other restClean] at cut
  simpa [eq_comm] using cut

end ProxyLauncher.Text
