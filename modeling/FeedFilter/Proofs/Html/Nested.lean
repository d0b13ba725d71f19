/-
**A pass over entries inside entries.**

The entries of a page are listed once, before the pass, and an outer one comes before those in it.
To hide an entry removes all that is in it. An entry in it that is still to come has then neither
words nor a reactor; only a filter without directives does not ask for them. So a pass comes to its
end exactly if there are no directives, or if no entry is in another one that is hidden.

* `Page.isBuried`: whether an entry is in one that is decided to be hidden.
* `Engine.decision_of_gone`: what is decided of an entry that is gone.
* `listed_ordered`, `exists_hidden_before`, `exists_first_buried`: an entry that hides others with
  it comes before them, and one of those it hides is the first.
* `pairwise_spared`: of entries that are not buried, none is touched by the removal of another.
* `find?_of_buried`: an entry is gone with the one around it.
* `run_unburied`, `run_buried`, `run_withoutDirectives`: how a pass ends.
* `run_completes_iff`: when a pass comes to its end.
-/

import FeedFilter.Proofs.Html.Hiding

namespace FeedFilter

/-! ### Entries that are gone -/

namespace Engine

/-- **An entry that is gone is left alone where there are no directives**, and cannot be judged
where there are some. -/
theorem decision_of_gone {settings : Settings}
    (free : Document.breakdown? settings.filterPatterns = none) :
    decision settings ⟨.error .gone, .error .gone, false, false⟩
      = if (Document.directives settings.filterPatterns).isEmpty then .ok .nothing
        else .error .gone := by
  rw [decision, decide_new_eq, free]
  cases Document.directives settings.filterPatterns with
  | nil =>
    simp only [decideWith, decideByFlags, flagged, List.map_nil, Pattern.evaluate,
      Pattern.evaluateFirst]
    cases settings.hideContentCredentials <;> cases settings.hideSuggested <;> rfl
  | cons directive rest =>
    simp only [decideWith, List.map_cons, Pattern.evaluate, Pattern.evaluateFirst,
      Directive.pattern]
    cases directive.keeps <;> cases directive.byReactor <;> rfl

/-- A filter without directives decides on every entry, even on one that is gone. -/
theorem decision_withoutDirectives {settings : Settings}
    (free : Document.breakdown? settings.filterPatterns = none)
    (undirected : Document.directives settings.filterPatterns = []) (entry : Entry) :
    ∃ decided, decision settings entry = .ok decided := by
  rw [decision, decide_new_eq, free, undirected]
  exact decideByFlags_succeeds settings entry

end Engine

namespace Processor

variable {State Index : Type} {feed : Feed State Index}

/-- Where entries are hidden, a pass comes to its end if every entry is decided. -/
theorem visitAll_ends {settings : Settings}
    (decides : ∀ entry, ∃ decided, Engine.decision settings entry = .ok decided)
    {indices : List Index} {progress : Progress State} (honest : progress.engine.IsHonest)
    (same : progress.engine.settings = settings) :
    (visitAll feed false indices progress).2 = .ok () := by
  induction indices generalizing progress with
  | nil => rfl
  | cons index rest ih =>
    obtain ⟨decided, found⟩ := decides (feed.view progress.state index)
    obtain ⟨done, -⟩ := visit_hides honest (same ▸ found)
    have engine := visit_honest feed false honest index
    rw [visitAll]
    rcases result : visit feed false progress index with ⟨after, fault | _⟩
    · rw [result] at done
      cases done
    · rw [result] at engine
      exact ih engine.1 (engine.2.trans same)

/-- A visit to an entry that cannot be judged fails, and leaves the feed as it is. -/
theorem visit_fails {highlightMode : Bool} {progress : Progress State}
    (honest : progress.engine.IsHonest) {index : Index} {fault : Fault}
    (failed : Engine.decision progress.engine.settings (feed.view progress.state index)
      = .error fault) :
    visit feed highlightMode progress index = (progress.asked feed index, .error fault) := by
  have asked : (visitOf feed highlightMode progress index).decision = .error fault :=
    (honest.decide_eq _).trans failed
  have visited := visit_visited feed highlightMode progress index
  rw [asked] at visited
  generalize visit feed highlightMode progress index = result at visited ⊢
  cases visited with
  | failed => rfl

end Processor

namespace Html.Page

open Processor

variable {page : Page} {settings : Settings} {gone : Nat → Bool} {site : Site}

/-! ### Entries that are removed with others -/

/-- Whether one of the entries around an element is decided to be hidden. -/
def isBuried (page : Page) (settings : Settings) (site : Site) : Bool :=
  site.above.any fun outer => outer.isListed && page.hides settings outer.key

/-- **An entry comes before those inside it.** -/
theorem listed_ordered (distinct : page.IsDistinct) :
    page.listed.Pairwise (fun earlier later => later.tag ∉ earlier.above)
      ∧ ∀ site ∈ page.listed, site.tag ∉ site.above := by
  rw [IsDistinct, allSites, List.map_append] at distinct
  obtain ⟨ordered, own⟩ := Node.sitesOf_ordered [] page.nodes (List.nodup_append.mp distinct).1
  exact ⟨ordered.sublist List.filter_sublist, fun site member => own site (mem_listed.mp member).1⟩

/-- A buried entry comes after one that is hidden and that it is inside of. -/
theorem exists_hidden_before (distinct : page.IsDistinct) {before after : List Site}
    (split : page.listed = before ++ site :: after)
    (buried : page.isBuried settings site = true) :
    ∃ outer ∈ before, outer.tag ∈ site.above ∧ page.hides settings outer.key = true := by
  obtain ⟨ordered, own⟩ := listed_ordered distinct
  have member : site ∈ page.listed := by simp [split]
  obtain ⟨tag, around, found⟩ := List.any_eq_true.mp buried
  obtain ⟨entry, hides⟩ := Bool.and_eq_true_iff.mp found
  obtain ⟨outer, there, rfl, -⟩ := Node.exists_outer (mem_listed.mp member).1 around
  have listed : outer ∈ page.listed := mem_listed.mpr ⟨there, entry⟩
  rw [split, List.pairwise_append] at ordered
  rw [split] at listed
  rcases List.mem_append.mp listed with first | later
  · exact ⟨outer, first, around, hides⟩
  · rcases List.mem_cons.mp later with rfl | last
    · exact absurd around (own outer member)
    · exact absurd around ((List.pairwise_cons.mp ordered.2.1).1 outer last)

/-- If some entry is buried, one of them is the first. -/
theorem exists_first_buried
    (nested : ¬ ∀ site ∈ page.listed, page.isBuried settings site = false) :
    ∃ before site after, page.listed = before ++ site :: after
      ∧ page.isBuried settings site = true
      ∧ ∀ other ∈ before, page.isBuried settings other = false := by
  cases found : page.listed.find? (page.isBuried settings) with
  | none =>
    refine absurd (fun site member => ?_) nested
    exact Bool.not_eq_true _ ▸ List.find?_eq_none.mp found site member
  | some site =>
    obtain ⟨buried, before, after, split, first⟩ := List.find?_eq_some_iff_append.mp found
    refine ⟨before, site, after, split, buried, fun other member => ?_⟩
    exact Bool.not_eq_true' _ ▸ first other member

/-- **Entries that are not buried spare each other**: none of them is inside one that is hidden, and
those inside them come later. -/
theorem pairwise_spared (distinct : page.IsDistinct) {sites : List Site}
    (sublist : sites.Sublist page.listed)
    (unburied : ∀ site ∈ sites, page.isBuried settings site = false) :
    (sites.map Site.key).Pairwise fun earlier later => page.hides settings earlier = true →
      ∀ site ∈ page.listed, site.key = later → IsSpared (fun key => key = earlier) site := by
  have same : ∀ one ∈ page.listed, ∀ other ∈ page.listed, one.key = other.key → one = other := by
    intro one here other there
    exact Site.eq_of_key_eq distinct (List.mem_append_left _ (mem_listed.mp here).1)
      (List.mem_append_left _ (mem_listed.mp there).1)
  have different : sites.Pairwise fun earlier later => earlier.key ≠ later.key :=
    List.pairwise_map.mp ((entries_nodup distinct).sublist (sublist.map Site.key))
  refine List.pairwise_map.mpr (List.Pairwise.imp_of_mem ?_
    (((listed_ordered distinct).1.sublist sublist).and different))
  rintro earlier later first second ⟨order, another⟩ hides site listed key
  obtain rfl : site = later := same site listed later (sublist.subset second) key
  refine ⟨decide_eq_false another.symm, fun outer above entry => decide_eq_false fun equal => ?_,
    fun inner inside entry => decide_eq_false fun equal => ?_⟩
  · -- An entry around this one that is hidden would bury it.
    have buried : page.isBuried settings site = true :=
      List.any_eq_true.mpr ⟨outer, above, by rw [entry, equal, hides]; rfl⟩
    rw [unburied site second] at buried
    cases buried
  · have there := Node.inside_subset_sitesOf [] page.nodes site (mem_listed.mp listed).1 inside
    obtain rfl : inner = earlier :=
      same inner (mem_listed.mpr ⟨there, entry⟩) earlier (sublist.subset first) equal
    exact order (Site.tag_mem_above inside)

/-- **An entry is gone with one around it.** -/
theorem find?_of_buried (distinct : page.IsDistinct) (member : site ∈ page.listed) {outer : Site}
    (listed : outer ∈ page.listed) (around : outer.tag ∈ site.above)
    (removed : gone outer.key = true) : (page.withoutEntries gone).find? site.key = none := by
  have here : site ∈ page.sites := (mem_listed.mp member).1
  have dropped : (outer.tag.isListed && gone outer.tag.key) = true :=
    Bool.and_eq_true_iff.mpr ⟨(mem_listed.mp listed).2, removed⟩
  refine List.find?_eq_none.mpr fun other found => ?_
  rw [decide_eq_true_eq]
  intro same
  rcases List.mem_append.mp found with left | loose
  · rw [sites_withoutEntries] at left
    obtain ⟨kept, inside, rfl⟩ := List.mem_map.mp left
    obtain ⟨there, stays⟩ := List.mem_filter.mp inside
    obtain rfl : kept = site := Site.eq_of_key_eq distinct (List.mem_append_left _ there)
      (List.mem_append_left _ here) same
    rw [Site.isLeft_of_mem_above around dropped] at stays
    cases stays
  · rw [IsDistinct, allSites, List.map_append] at distinct
    exact (List.nodup_append.mp distinct).2.2 _ (List.mem_map_of_mem here) _
      (List.mem_map_of_mem loose) same.symm

/-! ### How a pass ends -/

/-- Visits to the first entries of a page, none of which is buried. -/
theorem visitAll_unburied (distinct : page.IsDistinct)
    (free : Document.breakdown? settings.filterPatterns = none) {engine : Engine}
    (honest : engine.IsHonest) (same : engine.settings = settings) {sites : List Site}
    (sublist : sites.Sublist page.listed)
    (unburied : ∀ site ∈ sites, page.isBuried settings site = false) :
    let start : Progress Page := ⟨engine, page, [], {}⟩
    let keys := sites.map Site.key
    (visitAll Page.feed false keys start).2 = .ok ()
      ∧ (visitAll Page.feed false keys start).1.state
        = page.withoutEntries (fun key => keys.contains key && page.hides settings key)
      ∧ ((visitsFrom Page.feed false keys start).map fun visit => (visit.index, visit.decision))
        = keys.map fun key => (key, page.decided settings key) := by
  intro start keys
  obtain ⟨done, left, decisions⟩ := @visitAll_spared page settings distinct free keys
    (fun key member => (sublist.map Site.key).subset member)
    (pairwise_spared distinct sublist unburied) start honest same _
    page.withoutEntries_nothing.symm fun site _ _ => isSpared_nothing site
  refine ⟨done, ?_, decisions⟩
  simpa only [Bool.false_or] using left

variable {processor : Processor}

/-- A pass over entries none of which is buried decides each as on the page before the pass, and
removes the hidden ones. -/
theorem run_unburied (honest : processor.engine.IsHonest) (mode : processor.highlightMode = false)
    (distinct : page.IsDistinct)
    (free : Document.breakdown? processor.engine.settings.filterPatterns = none)
    (unburied : ∀ site ∈ page.listed, page.isBuried processor.engine.settings site = false) :
    let settings := processor.engine.settings
    let outcome := processor.run Page.feed page.entries page
    (∃ summary, outcome.summary = .ok summary)
      ∧ outcome.state = page.withoutEntries (page.hides settings)
      ∧ ((processor.visits Page.feed page.entries page).map fun visit =>
          (visit.index, visit.decision))
        = page.entries.map fun key => (key, page.decided settings key) := by
  intro settings outcome
  obtain ⟨done, left, decisions⟩ :=
    visitAll_unburied distinct free honest rfl (.refl page.listed) unburied
  rw [← entries_eq] at done left decisions
  refine ⟨run_ends (by rwa [mode]), ?_, ?_⟩
  · show (processor.run Page.feed page.entries page).state = _
    rw [run_state, mode, left]
    refine withoutEntries_congr fun key member => ?_
    rw [List.contains_iff_mem.mpr member, Bool.true_and]
  · rw [visits, mode]
    exact decisions

/-- **A pass with directives fails at the first entry that is buried**, once it has removed the
hidden ones before it. -/
theorem run_buried (honest : processor.engine.IsHonest) (mode : processor.highlightMode = false)
    (distinct : page.IsDistinct)
    (free : Document.breakdown? processor.engine.settings.filterPatterns = none)
    (directed : Document.directives processor.engine.settings.filterPatterns ≠ [])
    {before after : List Site} (split : page.listed = before ++ site :: after)
    (unburied : ∀ other ∈ before, page.isBuried processor.engine.settings other = false)
    (buried : page.isBuried processor.engine.settings site = true) :
    let settings := processor.engine.settings
    let outcome := processor.run Page.feed page.entries page
    outcome.summary = .error .gone
      ∧ outcome.state = page.withoutEntries fun key =>
        (before.map Site.key).contains key && page.hides settings key := by
  intro settings outcome
  have member : site ∈ page.listed := by simp [split]
  have prefixed : before.Sublist page.listed := split ▸ List.sublist_append_left _ _
  obtain ⟨done, left, -⟩ := visitAll_unburied distinct free honest rfl prefixed unburied
  have entries : page.entries = before.map Site.key ++ site.key :: after.map Site.key := by
    rw [entries_eq, split, List.map_append, List.map_cons]
  obtain ⟨kept, same⟩ := @visitAll_engine _ _ Page.feed false (before.map Site.key)
    ⟨processor.engine, page, [], {}⟩ honest
  rcases result : visitAll Page.feed false (before.map Site.key) ⟨processor.engine, page, [], {}⟩
    with ⟨middle, fault | _⟩
  · rw [result] at done
    cases done
  rw [result] at left kept same
  -- What hides the entry has been visited before it.
  obtain ⟨outer, first, around, hides⟩ := exists_hidden_before distinct split buried
  have missing : middle.state.find? site.key = none := by
    rw [show middle.state = _ from left]
    refine find?_of_buried distinct member (prefixed.subset first) around ?_
    rw [List.contains_iff_mem.mpr (List.mem_map_of_mem first), hides]
    rfl
  have failed : Engine.decision middle.engine.settings (Page.feed.view middle.state site.key)
      = .error .gone := by
    have seen : Page.feed.view middle.state site.key
        = ⟨.error .gone, .error .gone, false, false⟩ := by
      show view middle.state site.key = _
      rw [view, missing]
    rw [seen, show middle.engine.settings = _ from same, Engine.decision_of_gone free,
      List.isEmpty_eq_false_iff.mpr directed]
    rfl
  have whole : visitAll Page.feed processor.highlightMode page.entries
      ⟨processor.engine, page, [], {}⟩ = (middle.asked Page.feed site.key, .error .gone) := by
    rw [mode, entries, visitAll_append, result]
    dsimp only
    rw [visitAll, visit_fails kept failed]
  obtain ⟨state, summary⟩ := run_of_error whole
  exact ⟨summary, state.trans left⟩

/-- A pass without directives comes to its end. -/
theorem run_withoutDirectives (honest : processor.engine.IsHonest)
    (mode : processor.highlightMode = false)
    (free : Document.breakdown? processor.engine.settings.filterPatterns = none)
    (undirected : Document.directives processor.engine.settings.filterPatterns = []) :
    ∃ summary, (processor.run Page.feed page.entries page).summary = .ok summary := by
  have done := @visitAll_ends _ _ Page.feed _
    (Engine.decision_withoutDirectives free undirected) page.entries
    ⟨processor.engine, page, [], {}⟩ honest rfl
  exact run_ends (by rwa [mode])

/-- Where entries are hidden, the counts of a pass count every entry. -/
theorem total_of_hides (mode : processor.highlightMode = false) {summary : Summary}
    (done : (processor.run Page.feed page.entries page).summary = .ok summary) :
    summary.hidden + summary.highlighted + summary.shown + summary.untouched
      = page.entries.length := by
  have total := (counts_of_ok done).total
  have skipped : (processor.visits Page.feed page.entries page).countP
      (Visit.skips Page.feed processor.highlightMode) = 0 := by
    rw [mode]
    exact List.countP_eq_zero.mpr fun _ _ => Bool.false_ne_true
  rwa [skipped] at total

/-- **When a pass that hides comes to its end**, whatever is inside what. Unless the patterns break
down:

* it does exactly if there are no directives, or if no entry is inside one that is decided to be
  hidden on the page before the pass;
* then every entry is counted;
* otherwise it fails at the first entry that is inside a hidden one and gone with it, and the page
  has lost the hidden entries before that one;
* if no entry is inside one that is hidden, each is decided as on the page before the pass, and what
  is left is the page without the hidden ones. -/
theorem run_completes_iff (honest : processor.engine.IsHonest)
    (mode : processor.highlightMode = false) (distinct : page.IsDistinct)
    (free : Document.breakdown? processor.engine.settings.filterPatterns = none) :
    let settings := processor.engine.settings
    let outcome := processor.run Page.feed page.entries page
    ((∃ summary, outcome.summary = .ok summary)
        ↔ Document.directives settings.filterPatterns = []
          ∨ ∀ site ∈ page.listed, page.isBuried settings site = false)
      ∧ (∀ summary, outcome.summary = .ok summary →
        summary.hidden + summary.highlighted + summary.shown + summary.untouched
          = page.entries.length)
      ∧ (∀ fault, outcome.summary = .error fault → fault = .gone
        ∧ ∃ before site after, page.listed = before ++ site :: after
          ∧ page.isBuried settings site = true
          ∧ (∀ other ∈ before, page.isBuried settings other = false)
          ∧ outcome.state = page.withoutEntries fun key =>
            (before.map Site.key).contains key && page.hides settings key)
      ∧ ((∀ site ∈ page.listed, page.isBuried settings site = false) →
        outcome.state = page.withoutEntries (page.hides settings)
          ∧ ((processor.visits Page.feed page.entries page).map fun visit =>
              (visit.index, visit.decision))
            = page.entries.map fun key => (key, page.decided settings key)) := by
  intro settings outcome
  by_cases ending : Document.directives settings.filterPatterns = []
      ∨ ∀ site ∈ page.listed, page.isBuried settings site = false
  · have ends : ∃ summary, outcome.summary = .ok summary := by
      rcases ending with undirected | unburied
      · exact run_withoutDirectives honest mode free undirected
      · exact (run_unburied honest mode distinct free unburied).1
    refine ⟨iff_of_true ends ending, fun summary done => total_of_hides mode done,
      fun fault failed => ?_, fun unburied => (run_unburied honest mode distinct free unburied).2⟩
    obtain ⟨summary, done⟩ := ends
    rw [done] at failed
    cases failed
  · obtain ⟨directed, nested⟩ := not_or.mp ending
    obtain ⟨before, site, after, split, buried, unburied⟩ := exists_first_buried nested
    obtain ⟨fails, left⟩ := run_buried honest mode distinct free directed split unburied buried
    have endless : ¬ ∃ summary, outcome.summary = .ok summary := by
      rintro ⟨summary, done⟩
      rw [fails] at done
      cases done
    refine ⟨iff_of_false endless ending, fun summary done => total_of_hides mode done,
      fun fault failed => ?_, fun every => absurd every nested⟩
    rw [fails] at failed
    exact ⟨(Except.error.inj failed).symm, before, site, after, split, buried, unburied, left⟩

/-- A post with a news item in it. -/
def newsInPost : Page where
  nodes :=
    [.element ⟨0, "div".toList, [("role".toList, "article".toList)]⟩
      [.element ⟨1, "p".toList, [("class".toList, "break-words".toList)]⟩
        [.text .plain "spam".toList],
      .element ⟨2, "div".toList, [("class".toList, "news-module__storyline".toList)]⟩
        [.text .plain "news".toList]]]
  loose := []
  nextKey := 3

theorem newsInPost_isDistinct : newsInPost.IsDistinct := by
  unfold IsDistinct
  decide

/-- Where only the news item is hidden, the pass comes to its end. -/
theorem run_completes_iff_newsInPost :
    let processor := Processor.new (.new { filterPatterns := "/news/".toList }) (some false)
    let outcome := processor.run Page.feed newsInPost.entries newsInPost
    processor.engine.IsHonest ∧ processor.highlightMode = false ∧ newsInPost.IsDistinct
      ∧ Document.breakdown? processor.engine.settings.filterPatterns = none
      ∧ (∃ summary, outcome.summary = .ok summary
        ∧ summary.hidden + summary.highlighted + summary.shown + summary.untouched = 2)
      ∧ outcome.state.listed.map Site.key = [0] := by
  intro processor outcome
  have honest := Engine.new_isHonest { filterPatterns := "/news/".toList }
  have free : Document.breakdown? processor.engine.settings.filterPatterns = none := by
    decide +kernel
  have unburied : ∀ site ∈ newsInPost.listed,
      newsInPost.isBuried processor.engine.settings site = false := by
    decide +kernel
  obtain ⟨ends, counted, -, left⟩ :=
    @run_completes_iff newsInPost processor honest rfl newsInPost_isDistinct free
  obtain ⟨summary, done⟩ := ends.mpr (.inr unburied)
  refine ⟨honest, rfl, newsInPost_isDistinct, free, ⟨summary, done, counted summary done⟩, ?_⟩
  rw [(left unburied).1]
  decide +kernel

/-- Where the post is hidden, the pass fails at the news item, which is gone with it. -/
theorem run_stops_buried :
    let processor := Processor.new (.new { filterPatterns := "/spam/".toList }) (some false)
    newsInPost.IsDistinct ∧ Document.breakdown? processor.engine.settings.filterPatterns = none
      ∧ (processor.run Page.feed newsInPost.entries newsInPost).summary = .error .gone := by
  intro processor
  refine ⟨newsInPost_isDistinct, ?_, ?_⟩
  · decide +kernel
  · decide +kernel

end Html.Page

end FeedFilter
