/-
**Line ends as files hold them.**

A text file may end its lines with a line feed, a carriage return, or both; reading gives a line
feed for each of them.
-/

import FeedFilter.Text.Basic

namespace FeedFilter.Text

/-- Turns each carriage return, and each carriage return with its line feed, into a line feed. -/
def unifyNewlines : Text → Text
  | [] => []
  | '\r' :: '\n' :: rest => '\n' :: unifyNewlines rest
  | '\r' :: rest => '\n' :: unifyNewlines rest
  | c :: rest => c :: unifyNewlines rest

/-- A text without carriage returns is read as it stands. -/
theorem unifyNewlines_eq_self {text : Text} (plain : '\r' ∉ text) : unifyNewlines text = text := by
  induction text with
  | nil => rfl
  | cons c rest ih =>
    simp only [List.mem_cons, not_or] at plain
    rw [unifyNewlines.eq_def]
    split <;> simp_all

end FeedFilter.Text
