/-
**A page in which an entry is highlighted.**

To highlight an entry writes two attributes of it, neither of which makes an element an entry, and
puts a banner in front of what is in it. The banner is no entry. So the page has the same entries as
before, and one that does not contain the highlighted entry, and is not in it, stays as it is.

* `lookup_putAttribute_self`, `lookup_putAttribute_other`: the attributes after one was written.
* `Tag.isListed_marked`, `Tag.isMarked_marked`: a marked entry is still one, and is marked.
* `Node.replaceIn_of_absent`: what has no element of a key stays as it is.
* `Site.highlighted`, `Node.sitesOf_highlightIn`: the elements after one of them was highlighted.
* `Page.highlight_isKeyed`, `listed_highlight`, `highlight_entriesApart`: the page after that.
* `Page.view_highlight`, `Page.isMarked_highlight`: what is seen of the other entries.
-/

import FeedFilter.Proofs.Html.Hiding

namespace FeedFilter.Html

/-! ### Attributes -/

namespace Tag

variable {name other value : Text} {tag : Tag}

theorem lookup_putAttribute_self (attributes : List Attribute) :
    (putAttribute name value attributes).lookup name = some value := by
  induction attributes with
  | nil => rw [putAttribute, List.lookup_cons_self]
  | cons first rest ih =>
    obtain ⟨own, old⟩ := first
    rw [putAttribute]
    by_cases same : own = name
    · rw [if_pos same, same, List.lookup_cons_self]
    · rw [if_neg same, List.lookup_cons, beq_false_of_ne (Ne.symm same)]
      exact ih

theorem lookup_putAttribute_other (different : other ≠ name) (attributes : List Attribute) :
    (putAttribute name value attributes).lookup other = attributes.lookup other := by
  induction attributes with
  | nil =>
    rw [putAttribute, List.lookup_cons, beq_false_of_ne different]
  | cons first rest ih =>
    obtain ⟨own, old⟩ := first
    rw [putAttribute]
    by_cases same : own = name
    · rw [if_pos same, same, List.lookup_cons, List.lookup_cons, beq_false_of_ne different]
    · rw [if_neg same, List.lookup_cons, List.lookup_cons, ih]

/-- A marked tag has all attributes but two as they were. -/
theorem attribute?_marked {name : String} (style : name.toList ≠ "style".toList)
    (mark : name.toList ≠ "data-filtered".toList) :
    tag.marked.attribute? name = tag.attribute? name :=
  (lookup_putAttribute_other mark _).trans (lookup_putAttribute_other style _)

@[simp] theorem key_marked : tag.marked.key = tag.key := rfl

/-- **A marked tag is marked.** -/
theorem isMarked_marked : tag.marked.isMarked = true :=
  decide_eq_true (lookup_putAttribute_self _)

theorem hasClass_marked (name : String) : tag.marked.hasClass name = tag.hasClass name := by
  rw [hasClass, hasClass, classes, classes, attribute?_marked (by decide) (by decide)]

theorem isPost_marked : tag.marked.isPost = tag.isPost := by
  rw [isPost, isPost, attribute?_marked (by decide) (by decide)]

/-- A tag is an entry whether it is marked or not. -/
theorem isListed_marked : tag.marked.isListed = tag.isListed := by
  have role : tag.marked.attribute? "role" = tag.attribute? "role" :=
    attribute?_marked (by decide) (by decide)
  rw [isListed, isListed, isEntry, isEntry, isPost_marked, isNews, isNews, hasClass_marked, role]

/-- A tag, marked if it has a key. -/
def markedAt (key : Nat) (tag : Tag) : Tag := if tag.key = key then tag.marked else tag

@[simp] theorem key_markedAt (key : Nat) : (tag.markedAt key).key = tag.key := by
  unfold markedAt
  split
  · exact key_marked
  · rfl

@[simp] theorem isListed_markedAt (key : Nat) : (tag.markedAt key).isListed = tag.isListed := by
  unfold markedAt
  split
  · exact isListed_marked
  · rfl

theorem markedAt_of_ne {key : Nat} (different : tag.key ≠ key) : tag.markedAt key = tag :=
  if_neg different

end Tag

/-! ### Elements after one of them was highlighted -/

namespace Node

mutual

theorem replace_of_absent {key : Nat} {change : Tag → List Node → List Node} :
    ∀ node : Node, key ∉ keysOf [node] → replace key change node = [node]
  | text role content, _ => by rw [replace]
  | element tag children, absent => by
    rw [keysOf_element, List.mem_cons, not_or] at absent
    rw [replace, if_neg (Ne.symm absent.1), replaceIn_of_absent children absent.2]

/-- Nodes without an element of a key stay as they are where it is replaced. -/
theorem replaceIn_of_absent {key : Nat} {change : Tag → List Node → List Node} :
    ∀ nodes : List Node, key ∉ keysOf nodes → replaceIn key change nodes = nodes
  | [], _ => by rw [replaceIn]
  | node :: rest, absent => by
    rw [keysOf_cons, List.mem_append, not_or] at absent
    rw [replaceIn, replace_of_absent node absent.1, replaceIn_of_absent rest absent.2]
    rfl

end

/-- Nodes in which the element of a key is marked and has a label in front of what is in it. -/
def highlightIn (key : Nat) (label : Node) (nodes : List Node) : List Node :=
  replaceIn key (fun tag children => [.element tag.marked (label :: children)]) nodes

end Node

namespace Site

variable {key : Nat} {label : Node} {site : Site}

/-- What becomes of an element when the one of a key is highlighted. -/
def highlighted (key : Nat) (label : Node) (site : Site) : Site where
  above := site.above.map (Tag.markedAt key)
  tag := site.tag.markedAt key
  children :=
    if site.tag.key = key then label :: site.children else Node.highlightIn key label site.children

/-- What becomes of an element, with the elements of the label if it is the highlighted one. -/
def afterHighlight (key : Nat) (label : Node) (site : Site) : List Site :=
  site.highlighted key label ::
    if site.tag.key = key then
      Node.sites (site.tag.marked :: site.above.map (Tag.markedAt key)) label
    else []

@[simp] theorem key_highlighted : (site.highlighted key label).key = site.key :=
  Tag.key_markedAt key

@[simp] theorem isListed_highlighted :
    (site.highlighted key label).tag.isListed = site.tag.isListed := Tag.isListed_markedAt key

/-- An element that neither is the highlighted one nor is around it or inside it stays. -/
theorem highlighted_eq_self (own : site.key ≠ key) (around : ∀ tag ∈ site.above, tag.key ≠ key)
    (within : ∀ inner ∈ site.inside, inner.key ≠ key) : site.highlighted key label = site := by
  have above : site.above.map (Tag.markedAt key) = site.above :=
    (List.map_congr_left fun tag member => Tag.markedAt_of_ne (around tag member)).trans
      (List.map_id _)
  have absent : key ∉ Node.keysOf site.children := by
    rw [← Node.map_key_sitesOf (site.tag :: site.above)]
    intro member
    obtain ⟨inner, inside, same⟩ := List.mem_map.mp member
    exact within inner inside same
  have children : Node.highlightIn key label site.children = site.children :=
    Node.replaceIn_of_absent _ absent
  rw [highlighted, above, Tag.markedAt_of_ne own, children,
    if_neg (show site.tag.key ≠ key from own)]

end Site

namespace Node

variable {key : Nat} {label : Node}

mutual

theorem sites_highlightIn (above : List Tag) :
    ∀ node : Node, (keysOf [node]).Nodup →
      sitesOf (above.map (Tag.markedAt key)) (highlightIn key label [node])
        = (sites above node).flatMap (Site.afterHighlight key label)
  | text role content, _ => by
    rw [highlightIn, replaceIn, replaceIn, replace, sites]
    rfl
  | element tag children, distinct => by
    rw [keysOf_element] at distinct
    obtain ⟨absent, rest⟩ := List.nodup_cons.mp distinct
    have inside := sitesOf_highlightIn (tag :: above) children rest
    rw [highlightIn, replaceIn, replaceIn, replace, List.append_nil, sites, List.flatMap_cons,
      ← inside, Site.afterHighlight, Site.highlighted]
    by_cases same : tag.key = key
    · -- The highlighted element is not inside itself, so what is in it stays.
      have kept : highlightIn key label children = children :=
        replaceIn_of_absent children (same ▸ absent)
      simp only [if_pos same, kept, List.map_cons, Tag.markedAt, sitesOf, sites, List.append_nil,
        List.cons_append]
    · simp only [if_neg same, List.map_cons, Tag.markedAt, sitesOf, sites, List.append_nil,
        List.cons_append, List.nil_append]
      rfl

/-- **The elements after one of them was highlighted**: each of them in its place, and the label
inside the highlighted one. -/
theorem sitesOf_highlightIn (above : List Tag) :
    ∀ nodes : List Node, (keysOf nodes).Nodup →
      sitesOf (above.map (Tag.markedAt key)) (highlightIn key label nodes)
        = (sitesOf above nodes).flatMap (Site.afterHighlight key label)
  | [], _ => by
    rw [highlightIn, replaceIn, sitesOf, sitesOf]
    rfl
  | node :: rest, distinct => by
    rw [keysOf_cons] at distinct
    obtain ⟨first, others, -⟩ := List.nodup_append.mp distinct
    have here := sites_highlightIn above node first
    have later := sitesOf_highlightIn above rest others
    rw [highlightIn, replaceIn, replaceIn, List.append_nil] at here
    rw [highlightIn, replaceIn, sitesOf_append, here, ← highlightIn, later, sitesOf,
      List.flatMap_append]

end

end Node

/-! ### The page after an entry was highlighted -/

namespace Page

variable {page : Page} {site one : Site} {key : Nat} {reason : Option String}

theorem sites_highlight (distinct : page.IsDistinct) (key : Nat) (reason : Option String) :
    (page.highlight key reason).sites
      = page.sites.flatMap (Site.afterHighlight key (banner page.nextKey reason)) := by
  rw [IsDistinct, allSites, List.map_append] at distinct
  exact Node.sitesOf_highlightIn [] page.nodes (List.nodup_append.mp distinct).1

theorem allSites_highlight (distinct : page.IsDistinct) (key : Nat) (reason : Option String) :
    (page.highlight key reason).allSites
      = page.allSites.flatMap (Site.afterHighlight key (banner page.nextKey reason)) := by
  have nodes := sites_highlight distinct key reason
  rw [IsDistinct, allSites, List.map_append] at distinct
  have loose := @Node.sitesOf_highlightIn key (banner page.nextKey reason) [] page.loose
    (List.nodup_append.mp distinct).2.1
  rw [allSites, nodes, allSites, List.flatMap_append, ← loose]
  rfl

/-- The keys of what becomes of an element. -/
def keysAfter (key next : Nat) (site : Site) : List Nat :=
  site.key :: if site.key = key then [next] else []

theorem mem_keysAfter {key next found : Nat} :
    found ∈ keysAfter key next site ↔ found = site.key ∨ site.key = key ∧ found = next := by
  unfold keysAfter
  split
  · next same => simp [same]
  · next other => simp [other]

theorem keys_afterHighlight (key next : Nat) (reason : Option String) (site : Site) :
    (site.afterHighlight key (banner next reason)).map Site.key = keysAfter key next site := by
  rw [Site.afterHighlight, List.map_cons, Site.key_highlighted, keysAfter]
  by_cases same : site.key = key
  · rw [if_pos same, if_pos (show site.tag.key = key from same), banner, Node.sites, Node.sitesOf,
      Node.sites, Node.sitesOf]
    rfl
  · rw [if_neg same, if_neg (show site.tag.key ≠ key from same)]
    rfl

/-- **A banner takes the next key**, and all elements keep theirs. -/
theorem highlight_isKeyed (keyed : page.IsKeyed) (key : Nat) (reason : Option String) :
    (page.highlight key reason).IsKeyed := by
  have keys : (page.highlight key reason).allSites.map Site.key
      = page.allSites.flatMap (keysAfter key page.nextKey) := by
    rw [allSites_highlight keyed.distinct, List.map_flatMap]
    simp only [keys_afterHighlight]
  have old : ∀ site ∈ page.allSites, site.key ≠ page.nextKey :=
    fun site member => Nat.ne_of_lt (keyed.fresh site member)
  have different : page.allSites.Pairwise fun first second => first.key ≠ second.key :=
    List.pairwise_map.mp keyed.distinct
  constructor
  · rw [IsDistinct, keys, List.nodup_flatMap]
    refine ⟨fun site member => ?_, different.imp_of_mem fun here there other shared => ?_⟩
    · rw [keysAfter]
      split
      · simpa using old site member
      · exact List.nodup_singleton _
    · -- At most one of two elements is the highlighted one.
      intro first second
      rcases mem_keysAfter.mp first with rfl | ⟨one, rfl⟩
      · rcases mem_keysAfter.mp second with same | ⟨-, same⟩
        · exact other same
        · exact old _ here same
      · rcases mem_keysAfter.mp second with same | ⟨two, -⟩
        · exact old _ there same.symm
        · exact other (one.trans two.symm)
  · intro site member
    have found := List.mem_map_of_mem (f := Site.key) member
    rw [keys] at found
    obtain ⟨before, inside, after⟩ := List.mem_flatMap.mp found
    show site.key < page.nextKey + 1
    rcases mem_keysAfter.mp after with same | ⟨-, same⟩
    · rw [same]
      exact Nat.lt_succ_of_lt (keyed.fresh before inside)
    · rw [same]
      exact Nat.lt_succ_self _

/-- **The entries after one of them was highlighted**: the banner is none of them. -/
theorem listed_highlight (distinct : page.IsDistinct) (key : Nat) (reason : Option String) :
    (page.highlight key reason).listed
      = page.listed.map (Site.highlighted key (banner page.nextKey reason)) := by
  have quiet : ∀ above next, (Node.sites above (banner next reason)).filter
      (fun site => site.tag.isListed) = [] := by
    intro above next
    rw [banner, Node.sites, Node.sitesOf, Node.sites, Node.sitesOf]
    rfl
  rw [listed, sites_highlight distinct, listed]
  induction page.sites with
  | nil => rfl
  | cons site rest ih =>
    have banners : (if site.tag.key = key then Node.sites
          (site.tag.marked :: site.above.map (Tag.markedAt key)) (banner page.nextKey reason)
        else []).filter (fun site => site.tag.isListed) = [] := by
      split
      · exact quiet _ _
      · rfl
    rw [List.flatMap_cons, List.filter_append, ih, Site.afterHighlight, List.filter_cons,
      List.filter_cons, banners, Site.isListed_highlighted]
    split <;> rfl

/-- The entries are the same, in the same order. -/
theorem entries_highlight (distinct : page.IsDistinct) (key : Nat) (reason : Option String) :
    (page.highlight key reason).entries = page.entries := by
  rw [entries_eq, listed_highlight distinct, entries_eq, List.map_map]
  exact List.map_congr_left fun site _ => Site.key_highlighted

/-- Entries that do not contain each other still do not. -/
theorem highlight_entriesApart (distinct : page.IsDistinct) (apart : page.EntriesApart)
    (key : Nat) (reason : Option String) : (page.highlight key reason).EntriesApart := by
  intro site member outer around
  rw [listed_highlight distinct] at member
  obtain ⟨before, listed, rfl⟩ := List.mem_map.mp member
  obtain ⟨tag, above, rfl⟩ := List.mem_map.mp around
  rw [Tag.isListed_markedAt]
  exact apart before listed tag above

/-! ### What is seen of the entries -/

/-- **An entry stays as it is when another one is highlighted**, where entries do not contain each
other. -/
theorem highlighted_of_apart (distinct : page.IsDistinct) (apart : page.EntriesApart)
    (listed : one ∈ page.listed) (member : site ∈ page.listed) (other : site.key ≠ one.key)
    (label : Node) : site.highlighted one.key label = site := by
  have same : ∀ found ∈ page.sites, found.key = one.key → found = one := by
    intro found there
    exact Site.eq_of_key_eq distinct (List.mem_append_left _ there)
      (List.mem_append_left _ (mem_listed.mp listed).1)
  refine Site.highlighted_eq_self other (fun tag around equal => ?_) fun inner inside equal => ?_
  · obtain ⟨outer, there, rfl, -⟩ := Node.exists_outer (mem_listed.mp member).1 around
    have entry := apart site member outer.tag around
    rw [same outer there equal, (mem_listed.mp listed).2] at entry
    cases entry
  · have there := Node.inside_subset_sitesOf [] page.nodes site (mem_listed.mp member).1 inside
    obtain rfl := same inner there equal
    have entry := apart inner listed site.tag (Site.tag_mem_above inside)
    rw [(mem_listed.mp member).2] at entry
    cases entry

/-- An entry that another one is highlighted beside is still there. -/
theorem mem_highlight (distinct : page.IsDistinct) (apart : page.EntriesApart)
    (listed : one ∈ page.listed) (member : site ∈ page.listed) (other : site.key ≠ one.key)
    (reason : Option String) : site ∈ (page.highlight one.key reason).listed := by
  rw [listed_highlight distinct]
  exact List.mem_map.mpr ⟨site, member, highlighted_of_apart distinct apart listed member other _⟩

theorem isMarked_of_listed (distinct : page.IsDistinct) (member : site ∈ page.listed) :
    Page.feed.isMarked page site.key = site.tag.isMarked := by
  show ((page.find? site.key).map fun site => site.tag.isMarked).getD false = _
  rw [find?_of_listed distinct member]
  rfl

/-- Highlighting an entry succeeds. -/
theorem highlight_succeeds (distinct : page.IsDistinct) (member : site ∈ page.listed)
    (reason : Option String) :
    Page.feed.highlight page site.key reason = (page.highlight site.key reason, .ok ()) := by
  have found := find?_of_listed distinct member
  simp only [feed, found]

/-- What is seen of an entry stays when another one is highlighted. -/
theorem view_highlight (keyed : page.IsKeyed) (apart : page.EntriesApart)
    (listed : one ∈ page.listed) (member : site ∈ page.listed) (other : site.key ≠ one.key)
    (reason : Option String) :
    (page.highlight one.key reason).view site.key = page.view site.key := by
  have there := mem_highlight keyed.distinct apart listed member other reason
  rw [view, view, find?_of_listed keyed.distinct member,
    find?_of_listed (highlight_isKeyed keyed one.key reason).distinct there]

/-- **Highlighting an entry marks it and no other.** -/
theorem isMarked_highlight (keyed : page.IsKeyed) (apart : page.EntriesApart)
    (listed : one ∈ page.listed) (member : site ∈ page.listed) (reason : Option String) :
    Page.feed.isMarked (page.highlight one.key reason) site.key
      = (Page.feed.isMarked page site.key || site.key = one.key) := by
  have distinct := (highlight_isKeyed keyed one.key reason).distinct
  by_cases same : site.key = one.key
  · have there : site.highlighted one.key (banner page.nextKey reason)
        ∈ (page.highlight one.key reason).listed := by
      rw [listed_highlight keyed.distinct]
      exact List.mem_map_of_mem member
    have marked := isMarked_of_listed distinct there
    rw [Site.key_highlighted] at marked
    rw [marked, decide_eq_true same, Bool.or_true, Site.highlighted, Tag.markedAt,
      if_pos (show site.tag.key = one.key from same)]
    exact Tag.isMarked_marked
  · have there := mem_highlight keyed.distinct apart listed member same reason
    rw [isMarked_of_listed distinct there, isMarked_of_listed keyed.distinct member,
      decide_eq_false same, Bool.or_false]

end Page

end FeedFilter.Html
