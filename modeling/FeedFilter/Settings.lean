/-
**Settings of a filter.**
-/

import FeedFilter.Text.Basic

namespace FeedFilter

/-- What the user has chosen. Whether posts are marked or removed does not matter for a decision. -/
structure Settings where
  filterPatterns : Text := []
  hideSuggested : Bool := false
  hideContentCredentials : Bool := false
  highlightMode : Bool := false
deriving DecidableEq, Repr, Inhabited

end FeedFilter
