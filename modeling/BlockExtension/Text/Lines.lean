/-!
# Lines of a text

A line ends at a line feed, and a carriage return directly before that line
feed belongs to the line's end. A carriage return anywhere else is an ordinary
character. What follows the last line feed is a line of its own unless it is
empty, so a final line feed adds no line.

## Main results

* `noLineFeed_of_mem_lines`: no line holds a line feed.
-/

namespace BlockExtension.Text

/--
The lines of a text, without their ends. A carriage return belongs to the end only directly
before a line feed.
-/
def lines : List Char → List (List Char)
  | [] => []
  | '\n' :: rest => [] :: lines rest
  | '\r' :: '\n' :: rest => [] :: lines rest
  | c :: rest =>
      match lines rest with
      | [] => [[c]]
      | line :: more => (c :: line) :: more

/-- A character that is no line feed and starts no line end joins the first line. -/
theorem lines_cons {c : Char} {rest : List Char} (hfeed : c ≠ '\n')
    (hreturn : c = '\r' → ∀ more, rest ≠ '\n' :: more) :
    lines (c :: rest) =
      match lines rest with
      | [] => [[c]]
      | line :: more => (c :: line) :: more := by
  rw [lines.eq_def]
  split <;> simp_all

/-- No line holds a line feed. -/
theorem noLineFeed_of_mem_lines {text line : List Char} (h : line ∈ lines text) :
    '\n' ∉ line := by
  fun_induction lines text generalizing line with
  | case1 => simp at h
  | case2 rest ih =>
      rcases List.mem_cons.1 h with rfl | h
      · simp
      · exact ih h
  | case3 rest ih =>
      rcases List.mem_cons.1 h with rfl | h
      · simp
      · exact ih h
  | case4 c rest hfeed hreturn hrest ih =>
      rw [List.mem_singleton] at h
      subst h
      simpa using fun hc => hfeed hc.symm
  | case5 c rest hfeed hreturn first more hrest ih =>
      rw [hrest] at ih
      rcases List.mem_cons.1 h with rfl | h
      · have := @ih first (by simp)
        simp only [List.mem_cons, not_or]
        exact ⟨fun hc => hfeed hc.symm, this⟩
      · exact ih (by simp [h])

end BlockExtension.Text
