/-
**A page whose hidden entries are removed.**

Where no entry contains another, an entry that stays keeps all that a filter reads of it: nothing in
it is removed, and what is around it stays. So each entry is decided as if nothing had been removed
before, and a pass removes those that are decided to be hidden, with all that is in them, and
nothing else.

* `Page.EntriesApart`, `Page.withoutEntries`: entries that do not contain each other, and a page
  without some of them.
* `Page.IsSpared`: an element that the removal of some entries leaves as it is.
* `listed_withoutEntries`, `view_withoutEntries`: the entries that stay are the same.
* `destroy_withoutEntries`: one more entry is removed.
* `visit_withoutEntries`, `visitAll_spared`: visits to entries that were spared so far.
* `run_hides`: what a pass decides, removes and counts.
* `run_stops_bothVersions`: a pass that is stopped by patterns that break down.
-/

import FeedFilter.FeedPage
import FeedFilter.Proofs.Html.Keys
import FeedFilter.Proofs.Pass.Order

namespace FeedFilter

/-! ### A pass that hides -/

variable {State Index : Type}

/-- Whether an outcome is a decision of some kind. -/
def Decision.isDecided (kind : Decision → Bool) : Except Fault Decision → Bool
  | .ok decision => kind decision
  | .error _ => false

namespace Processor

variable {feed : Feed State Index}

/-- Where entries are hidden, a visit to an entry that is decided succeeds, and hides the entry if
this is the decision. -/
theorem visit_hides {progress : Progress State} (honest : progress.engine.IsHonest) {index : Index}
    {decision : Decision}
    (decided : Engine.decision progress.engine.settings (feed.view progress.state index)
      = .ok decision) :
    (visit feed false progress index).2 = .ok ()
      ∧ (visit feed false progress index).1.state
        = if decision.isHidden then feed.hide progress.state index else progress.state := by
  have visited := visit_visited feed false progress index
  have asked : (visitOf feed false progress index).decision = .ok decision :=
    (honest.decide_eq _).trans decided
  have state : (progress.asked feed index).state = progress.state := rfl
  rw [asked] at visited
  generalize visit feed false progress index = result at visited ⊢
  cases visited with
  | kept reason => exact ⟨rfl, rfl⟩
  | untouched => exact ⟨rfl, rfl⟩
  | hidden reason => exact ⟨rfl, congrArg (feed.hide · index) state⟩
  | marked reason mode => cases mode
  | refused reason fault mode => cases mode
  | highlighted reason mode => cases mode

/-- The counts of a pass that hides, by the decisions of its visits. -/
theorem summary_of_hides {processor : Processor} (honest : processor.engine.IsHonest)
    (mode : processor.highlightMode = false) {indices : List Index} {state : State}
    {summary : Summary} (done : (processor.run feed indices state).summary = .ok summary)
    {decided : Index → Except Fault Decision}
    (visits : ((processor.visits feed indices state).map fun visit => (visit.index, visit.decision))
      = indices.map fun index => (index, decided index)) :
    summary = ⟨indices.countP fun index => Decision.isDecided Decision.isHidden (decided index), 0,
      indices.countP fun index => Decision.isDecided Decision.isShown (decided index),
      indices.countP fun index => Decision.isDecided (· == .nothing) (decided index)⟩ := by
  have account := pass_accounted honest feed indices state
  have counts := account.counts summary done
  have calls := account.hides mode
  have counted (kind : Decision → Bool) :
      (processor.visits feed indices state).countP (Visit.decides · kind)
        = indices.countP fun index => Decision.isDecided kind (decided index) := by
    have same := congrArg (List.countP fun pair => Decision.isDecided kind pair.2) visits
    rw [List.countP_map, List.countP_map] at same
    exact same
  have hidden : (processor.calls feed indices state).countP Call.hides
      = (processor.visits feed indices state).countP (Visit.decides · Decision.isHidden) := by
    rw [calls, List.countP_map]
    exact (List.countP_eq_length.mpr fun _ _ => rfl).trans List.countP_eq_length_filter.symm
  have highlighted : (processor.calls feed indices state).countP Call.highlights = 0 := by
    rw [calls, List.countP_map]
    exact List.countP_eq_zero.mpr fun _ _ => Bool.false_ne_true
  cases summary
  exact Summary.mk.injEq .. ▸ ⟨counts.hidden.trans (hidden.trans (counted Decision.isHidden)),
    counts.highlighted.trans highlighted, counts.shown.trans (counted Decision.isShown),
    counts.untouched.trans (counted (· == .nothing))⟩

end Processor

namespace Html.Page

open Processor

/-! ### Entries that stay -/

/-- The elements that are looked at as entries. -/
def listed (page : Page) : List Site := page.sites.filter fun site => site.tag.isListed

theorem entries_eq (page : Page) : page.entries = page.listed.map Site.key := rfl

/-- No entry is inside another. -/
def EntriesApart (page : Page) : Prop :=
  ∀ site ∈ page.listed, ∀ outer ∈ site.above, outer.isListed = false

/-- A page without the entries of some keys. -/
def withoutEntries (page : Page) (gone : Nat → Bool) : Page :=
  { page with nodes := Node.withoutOf (fun tag => tag.isListed && gone tag.key) page.nodes }

variable {page : Page} {settings : Settings} {gone hidden : Nat → Bool} {site : Site}

theorem mem_listed : site ∈ page.listed ↔ site ∈ page.sites ∧ site.tag.isListed = true :=
  List.mem_filter

theorem mem_entries {key : Nat} : key ∈ page.entries ↔ ∃ site ∈ page.listed, site.key = key :=
  List.mem_map

theorem find?_of_listed (distinct : page.IsDistinct) (member : site ∈ page.listed) :
    page.find? site.key = some site :=
  distinct.find?_of_mem (List.mem_append_left _ (mem_listed.mp member).1)

/-- An entry that is there answers. -/
theorem view_answers (distinct : page.IsDistinct) (member : site ∈ page.listed) :
    (page.view site.key).Answers := by
  rw [view, find?_of_listed distinct member]
  exact ⟨_, _, _, _, rfl⟩

theorem entries_nodup (distinct : page.IsDistinct) : page.entries.Nodup := by
  rw [IsDistinct, allSites, List.map_append] at distinct
  exact (List.nodup_append.mp distinct).1.sublist (List.filter_sublist.map Site.key)

/-- Whether the removal of the entries of some keys leaves an element as it is: none of them is this
element, stands around it or is inside it. -/
structure IsSpared (gone : Nat → Bool) (site : Site) : Prop where
  own : gone site.key = false
  around : ∀ outer ∈ site.above, outer.isListed = true → gone outer.key = false
  within : ∀ inner ∈ site.inside, inner.tag.isListed = true → gone inner.key = false

/-- What is spared by a removal is spared by the removal of less. -/
theorem IsSpared.mono (spared : IsSpared gone site)
    (less : ∀ key, hidden key = true → gone key = true) : IsSpared hidden site := by
  have stays : ∀ key, gone key = false → hidden key = false := by
    intro key kept
    rw [← Bool.not_eq_true] at kept ⊢
    exact fun removed => kept (less key removed)
  exact ⟨stays _ spared.own, fun outer above entry => stays _ (spared.around outer above entry),
    fun inner inside entry => stays _ (spared.within inner inside entry)⟩

/-- What is spared by two removals is spared by both together. -/
theorem IsSpared.or (first : IsSpared gone site) (second : IsSpared hidden site) :
    IsSpared (fun key => gone key || hidden key) site where
  own := by simp only [first.own, second.own, Bool.or_self]
  around outer above entry := by
    simp only [first.around outer above entry, second.around outer above entry, Bool.or_self]
  within inner inside entry := by
    simp only [first.within inner inside entry, second.within inner inside entry, Bool.or_self]

theorem isSpared_nothing (site : Site) : IsSpared (fun _ => false) site :=
  ⟨rfl, fun _ _ _ => rfl, fun _ _ _ => rfl⟩

/-- Where entries do not contain each other, an entry is spared unless it is removed itself. -/
theorem EntriesApart.isSpared (apart : page.EntriesApart) (member : site ∈ page.listed)
    (stays : gone site.key = false) : IsSpared gone site where
  own := stays
  around outer above entry := by
    rw [apart site member outer above] at entry
    cases entry
  within inner inside entry := by
    have there := Node.inside_subset_sitesOf [] page.nodes site (mem_listed.mp member).1 inside
    have outer := apart inner (mem_listed.mpr ⟨there, entry⟩) site.tag (Site.tag_mem_above inside)
    rw [(mem_listed.mp member).2] at outer
    cases outer

/-- An entry stays unless it is removed itself or with one around it. -/
theorem isLeft_of_listed (entry : site.tag.isListed = true)
    (around : ∀ outer ∈ site.above, outer.isListed = true → gone outer.key = false) :
    site.isLeft (fun tag => tag.isListed && gone tag.key) = !gone site.tag.key := by
  have above : (site.above.all fun tag => !(tag.isListed && gone tag.key)) = true := by
    refine List.all_eq_true.mpr fun tag member => ?_
    cases listed : tag.isListed with
    | false => rfl
    | true => rw [around tag member listed]; rfl
  rw [Site.isLeft, List.all_cons, above, entry, Bool.and_true, Bool.true_and]

/-- An element keeps what is in it unless entries inside it are removed. -/
theorem without_of_within
    (within : ∀ inner ∈ site.inside, inner.tag.isListed = true → gone inner.key = false) :
    site.without (fun tag => tag.isListed && gone tag.key) = site := by
  have kept : ∀ inner ∈ site.inside, (inner.tag.isListed && gone inner.tag.key) = false := by
    intro inner inside
    cases entry : inner.tag.isListed with
    | false => rfl
    | true => exact within inner inside entry
  have children : Node.withoutOf (fun tag => tag.isListed && gone tag.key) site.children
      = site.children := Node.withoutOf_eq_self (site.tag :: site.above) kept
  rw [Site.without, children]

theorem sites_withoutEntries (page : Page) (gone : Nat → Bool) :
    (page.withoutEntries gone).sites
      = (page.sites.filter (Site.isLeft fun tag => tag.isListed && gone tag.key)).map
        (Site.without fun tag => tag.isListed && gone tag.key) :=
  Node.sitesOf_withoutOf [] (fun _ member => nomatch member) page.nodes

/-- **The entries that stay are the same, in the same order.** -/
theorem listed_withoutEntries (apart : page.EntriesApart) (gone : Nat → Bool) :
    (page.withoutEntries gone).listed = page.listed.filter fun site => !gone site.key := by
  have same : ∀ site ∈ page.listed.filter fun site => !gone site.key,
      site.without (fun tag => tag.isListed && gone tag.key) = site := by
    intro site member
    obtain ⟨listed, stays⟩ := List.mem_filter.mp member
    exact without_of_within (apart.isSpared listed (by simpa using stays)).within
  -- Among entries, to be left is not to be removed oneself.
  have left : (page.sites.filter (Site.isLeft fun tag => tag.isListed && gone tag.key)).filter
      (fun site => site.tag.isListed) = page.listed.filter fun site => !gone site.key := by
    rw [listed, List.filter_filter, List.filter_filter]
    refine List.filter_congr fun site member => ?_
    cases entry : site.tag.isListed with
    | false => rw [Bool.false_and, Bool.and_false]
    | true =>
      have around : ∀ outer ∈ site.above, outer.isListed = true → gone outer.key = false := by
        intro outer above listed
        rw [apart site (mem_listed.mpr ⟨member, entry⟩) outer above] at listed
        cases listed
      rw [isLeft_of_listed entry around, Bool.true_and, Bool.and_true]
      rfl
  rw [listed, sites_withoutEntries, List.filter_map]
  exact (congrArg (List.map _) left).trans (List.map_congr_left same |>.trans (List.map_id _))

/-- A spared entry is still there. -/
theorem mem_withoutEntries (member : site ∈ page.listed) (spared : IsSpared gone site) :
    site ∈ (page.withoutEntries gone).listed := by
  obtain ⟨here, entry⟩ := mem_listed.mp member
  have left : site.isLeft (fun tag => tag.isListed && gone tag.key) = true := by
    have own : gone site.tag.key = false := spared.own
    rw [isLeft_of_listed entry spared.around, own]
    rfl
  refine mem_listed.mpr ⟨?_, entry⟩
  rw [sites_withoutEntries]
  exact List.mem_map.mpr
    ⟨site, List.mem_filter.mpr ⟨here, left⟩, without_of_within spared.within⟩

theorem isDistinct_withoutEntries (distinct : page.IsDistinct) (gone : Nat → Bool) :
    (page.withoutEntries gone).IsDistinct := by
  have keys : ((page.withoutEntries gone).sites.map Site.key).Sublist
      (page.sites.map Site.key) := by
    rw [sites_withoutEntries, List.map_map]
    exact List.filter_sublist.map Site.key
  refine distinct.sublist ?_
  rw [allSites, allSites, List.map_append, List.map_append]
  exact keys.append_right _

/-- What is seen of a spared entry is what was seen of it before. -/
theorem view_withoutEntries (distinct : page.IsDistinct) (member : site ∈ page.listed)
    (spared : IsSpared gone site) :
    (page.withoutEntries gone).view site.key = page.view site.key := by
  rw [view, view, find?_of_listed distinct member,
    find?_of_listed (isDistinct_withoutEntries distinct gone) (mem_withoutEntries member spared)]

/-- An entry that is destroyed is removed from the page. -/
theorem destroy_withoutEntries (distinct : page.IsDistinct) (member : site ∈ page.listed)
    (gone : Nat → Bool) :
    (page.withoutEntries gone).destroy site.key
      = page.withoutEntries fun key => gone key || key = site.key := by
  obtain ⟨here, entry⟩ := mem_listed.mp member
  have nodes : Node.withoutOf (fun tag => tag.key = site.key)
        (Node.withoutOf (fun tag => tag.isListed && gone tag.key) page.nodes)
      = Node.withoutOf (fun tag => tag.isListed && (gone tag.key || tag.key = site.key))
        page.nodes := by
    rw [Node.withoutOf_withoutOf]
    refine Node.withoutOf_congr [] page.nodes fun other there => ?_
    by_cases same : other.tag.key = site.key
    · have equal : other = site := Site.eq_of_key_eq distinct (List.mem_append_left _ there)
        (List.mem_append_left _ here) same
      rw [equal, entry]
      rfl
    · rw [decide_eq_false same, Bool.or_false, Bool.or_false]
  have loose : Node.withoutOf (fun tag => tag.key = site.key) page.loose = page.loose := by
    refine Node.withoutOf_eq_self [] fun other there => decide_eq_false fun same => ?_
    rw [IsDistinct, allSites, List.map_append] at distinct
    have apart := (List.nodup_append.mp distinct).2.2
    exact apart _ (List.mem_map_of_mem here) _ (List.mem_map_of_mem there) same.symm
  rw [destroy, replace, withoutEntries, withoutEntries, Node.replaceIn_nothing,
    Node.replaceIn_nothing, nodes, loose]

/-- Only the keys of entries matter for what is removed. -/
theorem withoutEntries_congr (same : ∀ key ∈ page.entries, gone key = hidden key) :
    page.withoutEntries gone = page.withoutEntries hidden := by
  have nodes : Node.withoutOf (fun tag => tag.isListed && gone tag.key) page.nodes
      = Node.withoutOf (fun tag => tag.isListed && hidden tag.key) page.nodes := by
    refine Node.withoutOf_congr [] page.nodes fun site member => ?_
    cases entry : site.tag.isListed with
    | false => rfl
    | true => exact same _ (List.mem_map_of_mem (mem_listed.mpr ⟨member, entry⟩))
  rw [withoutEntries, withoutEntries, nodes]

theorem withoutEntries_nothing (page : Page) : page.withoutEntries (fun _ => false) = page := by
  rw [withoutEntries, Node.withoutOf_eq_self [] fun _ _ => Bool.and_false _]

/-- One key more if it is a hidden one, and otherwise none. -/
theorem or_hidden (gone hidden : Nat → Bool) (one : Nat) :
    (fun key => gone key || key = one && hidden key)
      = if hidden one then fun key => gone key || key = one else gone := by
  funext key
  by_cases same : key = one
  · subst same
    cases hidden key <;> simp
  · cases hidden one <;> simp [same]

/-! ### The pass over a page -/

/-- The decision on an entry of a page under settings. -/
def decided (page : Page) (settings : Settings) (key : Nat) : Except Fault Decision :=
  Engine.decision settings (page.view key)

/-- Whether an entry of a page is decided to be hidden. -/
def hides (page : Page) (settings : Settings) (key : Nat) : Bool :=
  Decision.isDecided Decision.isHidden (page.decided settings key)

/-- **A visit to an entry that was spared so far**: the entry is decided as on the whole page, and
it is removed as well if it is decided to be hidden. -/
theorem visit_withoutEntries (distinct : page.IsDistinct)
    (free : Document.breakdown? settings.filterPatterns = none) {progress : Progress Page}
    (honest : progress.engine.IsHonest) (same : progress.engine.settings = settings)
    {gone : Nat → Bool} (state : progress.state = page.withoutEntries gone) {site : Site}
    (listed : site ∈ page.listed) (spared : IsSpared gone site) :
    (visitOf Page.feed false progress site.key).decision = page.decided settings site.key
      ∧ (visit Page.feed false progress site.key).2 = .ok ()
      ∧ (visit Page.feed false progress site.key).1.state
        = page.withoutEntries fun key => gone key || key = site.key && page.hides settings key := by
  have seen : Page.feed.view progress.state site.key = page.view site.key := by
    rw [state]
    exact view_withoutEntries distinct listed spared
  obtain ⟨decision, decided⟩ := Engine.decision_succeeds free (view_answers distinct listed)
  have here : Engine.decision progress.engine.settings
      (Page.feed.view progress.state site.key) = .ok decision := by
    rw [same, seen, decided]
  have own : page.hides settings site.key = decision.isHidden :=
    congrArg (Decision.isDecided Decision.isHidden) decided
  obtain ⟨done, left⟩ := visit_hides honest here
  refine ⟨(honest.decide_eq _).trans (here.trans decided.symm), done, ?_⟩
  rw [left, state, or_hidden, own]
  cases decision.isHidden with
  | true => exact destroy_withoutEntries distinct listed gone
  | false => rfl

/-- **Visits to entries that were spared so far** and that spare each other: each of them is decided
as on the whole page, and the hidden ones among them are removed. -/
theorem visitAll_spared (distinct : page.IsDistinct)
    (free : Document.breakdown? settings.filterPatterns = none) {keys : List Nat}
    (entries : ∀ key ∈ keys, key ∈ page.entries)
    (order : keys.Pairwise fun earlier later => page.hides settings earlier = true →
      ∀ site ∈ page.listed, site.key = later → IsSpared (fun key => key = earlier) site)
    {progress : Progress Page} (honest : progress.engine.IsHonest)
    (same : progress.engine.settings = settings) {gone : Nat → Bool}
    (state : progress.state = page.withoutEntries gone)
    (spared : ∀ site ∈ page.listed, site.key ∈ keys → IsSpared gone site) :
    (visitAll Page.feed false keys progress).2 = .ok ()
      ∧ (visitAll Page.feed false keys progress).1.state
        = page.withoutEntries (fun key => gone key || keys.contains key && page.hides settings key)
      ∧ ((visitsFrom Page.feed false keys progress).map fun visit => (visit.index, visit.decision))
        = keys.map fun key => (key, page.decided settings key) := by
  -- The induction is on the entries still to come; whatever was removed has spared them.
  induction keys generalizing progress gone with
  | nil => exact ⟨rfl, by simpa [visitAll] using state, rfl⟩
  | cons key rest ih =>
    obtain ⟨site, listed, rfl⟩ := mem_entries.mp (entries key List.mem_cons_self)
    obtain ⟨next, later⟩ := List.pairwise_cons.mp order
    obtain ⟨decision, done, left⟩ := visit_withoutEntries distinct free honest same state listed
      (spared site listed List.mem_cons_self)
    have engine := visit_honest Page.feed false honest site.key
    rw [visitAll, visitsFrom]
    rcases result : visit Page.feed false progress site.key with ⟨after, fault | _⟩
    · rw [result] at done
      cases done
    · rw [result] at left engine
      dsimp only at left engine ⊢
      have still : ∀ other ∈ page.listed, other.key ∈ rest →
          IsSpared (fun key => gone key || key = site.key && page.hides settings key) other := by
        intro other there member
        refine (spared other there (List.mem_cons_of_mem _ member)).or ?_
        by_cases hides : page.hides settings site.key = true
        · exact (next other.key member hides other there rfl).mono fun key gone =>
            (Bool.and_eq_true_iff.mp gone).1
        · refine (isSpared_nothing other).mono fun key gone => ?_
          obtain ⟨equal, hidden⟩ := Bool.and_eq_true_iff.mp gone
          rw [of_decide_eq_true equal] at hidden
          exact absurd hidden hides
      obtain ⟨ended, last, decisions⟩ := ih
        (fun other member => entries other (List.mem_cons_of_mem _ member)) later engine.1
        (engine.2.trans same) left still
      refine ⟨ended, ?_, ?_⟩
      · rw [last]
        refine congrArg page.withoutEntries (funext fun key => ?_)
        rw [List.contains_cons, Bool.or_assoc, ← Bool.and_or_distrib_right]
        rfl
      · rw [List.map_cons, List.map_cons, decisions, decision]
        rfl

/-- Visits to entries that do not contain each other, after some others were removed. -/
theorem visitAll_withoutEntries (distinct : page.IsDistinct) (apart : page.EntriesApart)
    (free : Document.breakdown? settings.filterPatterns = none) {keys : List Nat}
    (different : keys.Nodup) (entries : ∀ key ∈ keys, key ∈ page.entries)
    {progress : Progress Page} (honest : progress.engine.IsHonest)
    (same : progress.engine.settings = settings) {gone : Nat → Bool}
    (state : progress.state = page.withoutEntries gone) (stay : ∀ key ∈ keys, gone key = false) :
    (visitAll Page.feed false keys progress).2 = .ok ()
      ∧ (visitAll Page.feed false keys progress).1.state
        = page.withoutEntries (fun key => gone key || keys.contains key && page.hides settings key)
      ∧ ((visitsFrom Page.feed false keys progress).map fun visit => (visit.index, visit.decision))
        = keys.map fun key => (key, page.decided settings key) := by
  have order : keys.Pairwise fun earlier later => page.hides settings earlier = true →
      ∀ site ∈ page.listed, site.key = later → IsSpared (fun key => key = earlier) site := by
    refine List.Pairwise.imp ?_ different
    rintro earlier later another - site listed rfl
    exact apart.isSpared listed (decide_eq_false (Ne.symm another))
  exact visitAll_spared distinct free entries order honest same state fun site listed member =>
    apart.isSpared listed (stay site.key member)

/-- **A pass that hides removes the hidden entries of a page and nothing else.** Where no entry
contains another, and no two elements have the same key:

* unless the patterns break down, each entry is visited and decided as on the page before the
  pass; what is left is the page without the entries that are decided to be hidden, with the others
  as they were and in their order; and the counts are the numbers of the decisions;
* if they do, the page stays as it is, and the pass fails at its first entry. -/
theorem run_hides {processor : Processor} (honest : processor.engine.IsHonest)
    (mode : processor.highlightMode = false) (distinct : page.IsDistinct)
    (apart : page.EntriesApart) :
    let settings := processor.engine.settings
    let outcome := processor.run Page.feed page.entries page
    (Document.breakdown? settings.filterPatterns = none →
        ((processor.visits Page.feed page.entries page).map fun visit =>
            (visit.index, visit.decision))
          = page.entries.map (fun key => (key, page.decided settings key))
        ∧ outcome.state = page.withoutEntries (page.hides settings)
        ∧ outcome.state.listed = page.listed.filter (fun site => !page.hides settings site.key)
        ∧ outcome.summary = .ok ⟨page.entries.countP (page.hides settings), 0,
          page.entries.countP fun key =>
            Decision.isDecided Decision.isShown (page.decided settings key),
          page.entries.countP fun key =>
            Decision.isDecided (· == .nothing) (page.decided settings key)⟩)
      ∧ ∀ breakdown, Document.breakdown? settings.filterPatterns = some breakdown →
        outcome.state = page
          ∧ outcome.summary
            = if page.entries.isEmpty then .ok {} else .error (.breakdown breakdown) := by
  intro settings outcome
  constructor
  · intro free
    obtain ⟨done, left, decisions⟩ := @visitAll_withoutEntries page settings distinct apart free _
      (entries_nodup distinct) (fun _ member => member) ⟨processor.engine, page, [], {}⟩ honest rfl
      _ page.withoutEntries_nothing.symm fun _ _ => rfl
    rcases result : visitAll Page.feed false page.entries ⟨processor.engine, page, [], {}⟩
      with ⟨last, fault | _⟩
    · rw [result] at done
      cases done
    · rw [result] at left
      rw [← mode] at result
      obtain ⟨-, state, counted⟩ := run_of_ok result
      have visited : ((processor.visits Page.feed page.entries page).map fun visit =>
          (visit.index, visit.decision))
          = page.entries.map fun key => (key, page.decided settings key) := by
        rw [visits, mode]
        exact decisions
      have removed : outcome.state = page.withoutEntries (page.hides settings) := by
        refine state.trans (left.trans (withoutEntries_congr fun key member => ?_))
        rw [Bool.false_or, List.contains_iff_mem.mpr member, Bool.true_and]
      refine ⟨visited, removed, ?_, ?_⟩
      · rw [removed]
        exact listed_withoutEntries apart (page.hides settings)
      · exact counted.trans (congrArg Except.ok (summary_of_hides honest mode counted visited))
  · intro breakdown found
    obtain ⟨left, failed, -⟩ := run_of_breakdown honest found Page.feed page.entries page
    exact ⟨left, failed⟩

/-- A suggested post and one that is not. -/
def twoPosts : Page where
  nodes :=
    [.element ⟨0, "div".toList, [("role".toList, "article".toList)]⟩
      [.element ⟨1, "b".toList, [("class".toList, "update-components-header".toList)]⟩
        [.text .plain "Suggested".toList]],
      .element ⟨2, "div".toList, [("role".toList, "article".toList)]⟩
        [.element ⟨3, "p".toList, [("class".toList, "break-words".toList)]⟩
          [.text .plain "a".toList]]]
  loose := []
  nextKey := 4

theorem twoPosts_isDistinct : twoPosts.IsDistinct := by
  unfold IsDistinct
  decide

theorem twoPosts_entriesApart : twoPosts.EntriesApart := by
  unfold EntriesApart
  decide +kernel

/-- The suggested post is removed. -/
theorem run_hides_twoPosts :
    let processor := Processor.new (.new { hideSuggested := true }) (some false)
    let outcome := processor.run Page.feed twoPosts.entries twoPosts
    processor.engine.IsHonest ∧ processor.highlightMode = false ∧ twoPosts.IsDistinct
      ∧ twoPosts.EntriesApart ∧ outcome.state.listed.map Site.key = [2]
      ∧ outcome.summary = .ok ⟨1, 0, 0, 1⟩ := by
  intro processor outcome
  have honest := Engine.new_isHonest { hideSuggested := true }
  obtain ⟨-, removed, left, counted⟩ :=
    (@run_hides twoPosts processor honest rfl twoPosts_isDistinct twoPosts_entriesApart).1
      (by decide +kernel)
  refine ⟨honest, rfl, twoPosts_isDistinct, twoPosts_entriesApart, ?_, ?_⟩
  · rw [left]
    decide +kernel
  · rw [counted]
    decide +kernel

/-- An expression that asks for both versions stops the pass, where it should be ignored. -/
theorem run_stops_bothVersions :
    let settings : Settings := { filterPatterns := Document.bothVersions }
    let processor := Processor.new (.new settings) (some false)
    twoPosts.IsDistinct ∧ twoPosts.EntriesApart
      ∧ (processor.run Page.feed twoPosts.entries twoPosts).summary
        = .error (.breakdown (.conflict .versions)) := by
  intro settings processor
  have honest := Engine.new_isHonest settings
  have found : Document.breakdown? processor.engine.settings.filterPatterns
      = some (.conflict .versions) := by decide +kernel
  obtain ⟨-, failed, -⟩ := run_of_breakdown honest found Page.feed twoPosts.entries twoPosts
  exact ⟨twoPosts_isDistinct, twoPosts_entriesApart, failed⟩

end Html.Page

end FeedFilter
