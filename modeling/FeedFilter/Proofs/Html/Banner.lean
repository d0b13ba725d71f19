/-
**An entry that has been highlighted.**

The banner stands outside all that a filter looks for in a post, and the two attributes that are
written are none that a selector reads. So the parts of a post that are selected are the same ones
as before, and all that is read of them is the same. Only a news item is read as a whole, with its
banner. Apart from the banner and the two attributes the page stays as it was.

* `declarations`: what a style says; `declarations_withBorder`: a border is added at its end.
* `Tag.IsBordered`: a tag that differs from another one in its border and its mark only.
* `passInOrder_congr`, `Node.sitesOf_append_above`: what is around elements matters to tests alone.
* `Selector.IsBlind`, `Site.select_bannered`: the parts of an entry with a banner.
* `Site.bannered_looksAlike`, `Site.entryText_bannered_news`: what is read of these parts.
* `Node.IsAmended`, `Node.highlightIn_isAmended`: nodes that differ in one place.
* `Page.highlighted_of_mem`: what becomes of the entry itself.
* `Page.highlight_looksAlike`: what is seen of it, and the rest of the page.
-/

import FeedFilter.Proofs.Html.Marking
import FeedFilter.Proofs.Text.Lines

namespace FeedFilter.Html

/-! ### Styles -/

/-- The declarations of a style: what stands between its semicolons, trimmed, unless this is
blank. -/
def declarations (style : Text) : List Text :=
  ((style.splitOn ';').map Text.trim).filter fun declaration => !declaration.isEmpty

theorem declarations_append (first second : Text) :
    declarations (first ++ ';' :: second) = declarations first ++ declarations second := by
  rw [declarations, List.splitOn_append_cons_self, List.map_append, List.filter_append]
  rfl

/-- A text without semicolons is one declaration at most. -/
theorem declarations_of_single {style : Text} (single : ';' ∉ style) :
    declarations style = [style.trim].filter fun declaration => !declaration.isEmpty := by
  rw [declarations, List.splitOn_eq_singleton single, List.map_singleton]

/-- Semicolons at the end declare nothing. -/
theorem declarations_append_replicate (style : Text) (count : Nat) :
    declarations (style ++ List.replicate count ';') = declarations style := by
  induction count with
  | zero => rw [List.replicate_zero, List.append_nil]
  | succ count ih =>
    have nothing : declarations [] = [] := rfl
    rw [List.replicate_succ', ← List.append_assoc, declarations_append, nothing, List.append_nil,
      ih]

variable {blanks : Text}

theorem semicolon_notMem (blank : blanks.AllBlank) : ';' ∉ blanks := by
  intro member
  have visible : Text.isBlank ';' = false := by decide
  rw [blank _ member] at visible
  cases visible

/-- Blanks in front of a style do not matter. -/
theorem declarations_blanks_append (blank : blanks.AllBlank) (style : Text) :
    declarations (blanks ++ style) = declarations style := by
  have alone : ∀ first : Text, ';' ∉ first →
      declarations (blanks ++ first) = declarations first := by
    intro first single
    have both : ';' ∉ blanks ++ first :=
      List.mem_append.not.mpr (not_or.mpr ⟨semicolon_notMem blank, single⟩)
    rw [declarations_of_single both, declarations_of_single single, blank.trim_append]
  by_cases several : ';' ∈ style
  · obtain ⟨first, rest, rfl, single⟩ := List.eq_append_cons_of_mem several
    rw [← List.append_assoc, declarations_append, declarations_append, alone first single]
  · exact alone style several

/-- Nor do blanks at its end. -/
theorem declarations_append_blanks (blank : blanks.AllBlank) (style : Text) :
    declarations (style ++ blanks) = declarations style := by
  have alone : ∀ last : Text, ';' ∉ last → declarations (last ++ blanks) = declarations last := by
    intro last single
    have both : ';' ∉ last ++ blanks :=
      List.mem_append.not.mpr (not_or.mpr ⟨single, semicolon_notMem blank⟩)
    rw [declarations_of_single both, declarations_of_single single, blank.append_trim]
  by_cases several : ';' ∈ style
  · -- Turned around, the first semicolon is the last one.
    obtain ⟨last, front, turned, single⟩ :=
      List.eq_append_cons_of_mem (List.mem_reverse.mpr several)
    have split : style = front.reverse ++ ';' :: last.reverse := by
      rw [← List.reverse_reverse style, turned, List.reverse_append, List.reverse_cons,
        List.append_assoc, List.singleton_append]
    rw [split, List.append_assoc, List.cons_append, declarations_append, declarations_append,
      alone _ (List.mem_reverse.not.mpr single)]
  · exact alone style several

theorem declarations_trim (style : Text) : declarations style.trim = declarations style := by
  obtain ⟨front, back, blank, others, split⟩ := Text.exists_trim_eq style
  conv_rhs => rw [split]
  rw [declarations_blanks_append blank, declarations_append_blanks others]

/-- A text is what is left of it without the semicolons at its end, and these. -/
theorem exists_semicolons (text : Text) :
    ∃ count, text = (text.reverse.dropWhile (· = ';')).reverse ++ List.replicate count ';' := by
  have turned := congrArg List.reverse
    (List.takeWhile_append_dropWhile (p := fun c : Char => c = ';') (l := text.reverse))
  rw [List.reverse_append, List.reverse_reverse] at turned
  have only : ∀ c ∈ (text.reverse.takeWhile (· = ';')).reverse, c = ';' := fun c member =>
    of_decide_eq_true (List.all_eq_true.mp List.all_takeWhile c (List.mem_reverse.mp member))
  rw [List.eq_replicate_of_mem only] at turned
  exact ⟨_, turned.symm⟩

/-- **A border is added after what a style declares.** -/
theorem declarations_withBorder (style : Text) :
    declarations (withBorder style) = declarations style ++ [border] := by
  obtain ⟨count, split⟩ := exists_semicolons style.trim
  have own : declarations (' ' :: border) = [border] := by decide
  have between : "; ".toList = [';', ' '] := by decide
  rw [← declarations_trim style, split, declarations_append_replicate, withBorder]
  cases (style.trim.reverse.dropWhile (· = ';')).reverse with
  | nil => decide
  | cons c rest =>
    dsimp only
    rw [between, List.append_assoc]
    exact (declarations_append (c :: rest) (' ' :: border)).trans (by rw [own])

/-! ### Marked tags -/

namespace Tag

variable {tag : Tag}

/-- Whether an attribute is none of those that are written when an entry is highlighted. -/
def isOther : Attribute → Bool
  | (name, _) => name ≠ "style".toList && name ≠ "data-filtered".toList

/-- Whether a tag is another one with a border: its style declares the border after all that it
declared before, and the attributes that are not written are the same, in their order. -/
structure IsBordered (tag marked : Tag) : Prop where
  key : marked.key = tag.key
  name : marked.name = tag.name
  others : marked.attributes.filter isOther = tag.attributes.filter isOther
  style : ∃ style, marked.attribute? "style" = some style
    ∧ declarations style = declarations ((tag.attribute? "style").getD []) ++ [border]

/-- Where an attribute is written the others stay. -/
theorem filter_putAttribute {keeps : Attribute → Bool} {name value : Text}
    (written : ∀ value, keeps (name, value) = false) (attributes : List Attribute) :
    (putAttribute name value attributes).filter keeps = attributes.filter keeps := by
  have drops (value : Text) (rest : List Attribute) :
      ((name, value) :: rest).filter keeps = rest.filter keeps :=
    List.filter_cons_of_neg (Bool.not_eq_true _ ▸ written value)
  induction attributes with
  | nil =>
    rw [putAttribute]
    exact drops value []
  | cons first rest ih =>
    obtain ⟨own, old⟩ := first
    rw [putAttribute]
    split
    · next same =>
      subst same
      rw [drops, drops]
    · rw [List.filter_cons, List.filter_cons, ih]

theorem marked_isBordered (tag : Tag) : tag.IsBordered tag.marked where
  key := rfl
  name := rfl
  others := by
    have style (value : Text) : isOther ("style".toList, value) = false := rfl
    have mark (value : Text) : isOther ("data-filtered".toList, value) = false := rfl
    rw [marked, withAttribute, filter_putAttribute mark, withAttribute, filter_putAttribute style]
  style := by
    have different : "style".toList ≠ "data-filtered".toList := by decide
    refine ⟨_, ?_, declarations_withBorder _⟩
    exact (lookup_putAttribute_other different _).trans (lookup_putAttribute_self _)

end Tag

/-! ### Elements below a tag that is replaced -/

/-- Tests that do not tell two tags apart do not tell which of them is around an element. -/
theorem passInOrder_congr {tests : List (Tag → Bool)} {first second : Tag}
    (same : ∀ test ∈ tests, test first = test second) (inner outer : List Tag) :
    passInOrder tests (inner ++ first :: outer) = passInOrder tests (inner ++ second :: outer) := by
  induction inner generalizing tests with
  | nil =>
    cases tests with
    | nil => rfl
    | cons test rest =>
      rw [List.nil_append, List.nil_append, passInOrder, passInOrder, same test List.mem_cons_self]
  | cons tag inner ih =>
    cases tests with
    | nil => rfl
    | cons test rest =>
      rw [List.cons_append, List.cons_append, passInOrder, passInOrder, ih same,
        ih fun other member => same other (List.mem_cons_of_mem _ member)]

/-- An element with more elements around it. -/
def Site.below (outer : List Tag) (site : Site) : Site :=
  { site with above := site.above ++ outer }

namespace Node

mutual

theorem sites_append_above (inner outer : List Tag) :
    ∀ node : Node, sites (inner ++ outer) node = (sites inner node).map (Site.below outer)
  | text role content => by
    rw [sites, sites]
    rfl
  | element tag children => by
    have inside := sitesOf_append_above (tag :: inner) outer children
    rw [List.cons_append] at inside
    rw [sites, sites, inside]
    rfl

/-- What is around some nodes is around each element in them. -/
theorem sitesOf_append_above (inner outer : List Tag) :
    ∀ nodes : List Node,
      sitesOf (inner ++ outer) nodes = (sitesOf inner nodes).map (Site.below outer)
  | [] => by
    rw [sitesOf, sitesOf]
    rfl
  | node :: rest => by
    rw [sitesOf, sitesOf, sites_append_above inner outer node,
      sitesOf_append_above inner outer rest, List.map_append]

end

end Node

/-- No element is inside itself. -/
theorem Site.notMem_inside (site : Site) : site ∉ site.inside := by
  intro member
  have below := Node.sitesOf_append_above [] (site.tag :: site.above) site.children
  rw [List.nil_append] at below
  rw [Site.inside, below] at member
  obtain ⟨part, -, same⟩ := List.mem_map.mp member
  have longer := congrArg (fun site : Site => site.above.length) same
  simp only [Site.below, List.length_append, List.length_cons] at longer
  omega

/-! ### What is selected in an entry with a banner -/

/-- The tag of a banner. -/
def bannerTag (key : Nat) : Tag := ⟨key, "div".toList, [("style".toList, bannerStyle)]⟩

/-- Whether a selector selects the same with a banner and a mark as without. -/
structure Selector.IsBlind (selector : Selector) : Prop where
  around : ∀ test ∈ selector.around, ∀ tag : Tag, test tag.marked = test tag
  banner : ∀ key, selector.target (bannerTag key) = false

theorem wordParts_isBlind : wordParts.IsBlind := ⟨nofun, fun _ => rfl⟩

theorem headers_isBlind : headers.IsBlind := ⟨nofun, fun _ => rfl⟩

theorem credentialsMark_isBlind : credentialsMark.IsBlind := ⟨nofun, fun _ => rfl⟩

theorem headerLinks_isBlind : headerLinks.IsBlind where
  around test member tag := by
    rw [List.mem_singleton.mp member]
    exact Tag.hasClass_marked _
  banner _ := rfl

theorem authorName_isBlind : authorName.IsBlind where
  around test member tag := by
    rcases List.mem_cons.mp member with rfl | outer
    · exact Tag.hasClass_marked _
    · rw [List.mem_singleton.mp outer]
      exact Tag.hasClass_marked _
  banner _ := rfl

namespace Site

/-- An entry that is marked, with a banner in front of what is in it. -/
def bannered (key : Nat) (reason : Option String) (site : Site) : Site :=
  ⟨site.above, site.tag.marked, banner key reason :: site.children⟩

variable {site : Site} {key : Nat} {reason : Option String}

/-- **The parts of an entry with a banner** are those that were selected before; only the entry
around them is marked. -/
theorem select_bannered {selector : Selector} (blind : selector.IsBlind) :
    ∃ parts : List Site,
      site.select selector = parts.map (below (site.tag :: site.above))
        ∧ (site.bannered key reason).select selector
          = parts.map (below (site.tag.marked :: site.above)) := by
  have inside (tag : Tag) : Node.sitesOf (tag :: site.above) site.children
      = (Node.sitesOf [] site.children).map (below (tag :: site.above)) :=
    Node.sitesOf_append_above [] _ _
  have same : selector.accepts ∘ below (site.tag.marked :: site.above)
      = selector.accepts ∘ below (site.tag :: site.above) := by
    funext part
    exact congrArg (selector.target part.tag && ·)
      (passInOrder_congr (fun test member => blind.around test member _) part.above site.above)
  have front : (Node.sites (site.tag.marked :: site.above) (banner key reason)).filter
      selector.accepts = [] := by
    refine List.filter_eq_nil_iff.mpr fun part member accepted => ?_
    obtain rfl := List.mem_singleton.mp member
    have selected := (Bool.and_eq_true_iff.mp accepted).1
    exact Bool.false_ne_true ((blind.banner key).symm.trans selected)
  refine ⟨(Node.sitesOf [] site.children).filter
    (selector.accepts ∘ below (site.tag :: site.above)), ?_, ?_⟩
  · rw [select, Site.inside, inside, List.filter_map]
  · rw [select, Site.inside, bannered, Node.sitesOf, List.filter_append, front, List.nil_append,
      inside, List.filter_map, same]

/-- Whether two elements are the same to a filter, their words apart. -/
structure LooksAlike (after before : Site) : Prop where
  reactor : after.reactor? = before.reactor?
  suggested : after.isSuggested = before.isSuggested
  credentials : after.hasCredentials = before.hasCredentials
  author : after.author? = before.author?
  reason : after.updateReason? = before.updateReason?

/-- **An entry with a banner looks as before.** -/
theorem bannered_looksAlike (site : Site) (key : Nat) (reason : Option String) :
    (site.bannered key reason).LooksAlike site := by
  have post : (site.bannered key reason).tag.isPost = site.tag.isPost := Tag.isPost_marked
  constructor
  · obtain ⟨links, before, after⟩ :=
      @select_bannered site key reason headerLinks headerLinks_isBlind
    rw [reactor?, reactor?, post, before, after, List.findSome?_map, List.findSome?_map]
    rfl
  · obtain ⟨heads, before, after⟩ := @select_bannered site key reason headers headers_isBlind
    rw [isSuggested, isSuggested, before, after, List.any_map, List.any_map]
    rfl
  · obtain ⟨marks, before, after⟩ :=
      @select_bannered site key reason credentialsMark credentialsMark_isBlind
    rw [hasCredentials, hasCredentials, before, after, List.isEmpty_map, List.isEmpty_map]
  · obtain ⟨names, before, after⟩ :=
      @select_bannered site key reason authorName authorName_isBlind
    rw [author?, author?, post, before, after, List.head?_map, List.head?_map, Option.map_map,
      Option.map_map]
    rfl
  · obtain ⟨heads, before, after⟩ := @select_bannered site key reason headers headers_isBlind
    rw [updateReason?, updateReason?, post, before, after, List.flatMap_map, List.flatMap_map]
    rfl

/-- The words of a post do not contain its banner. -/
theorem entryText_bannered_post (other : site.tag.isNews = false) :
    (site.bannered key reason).entryText = site.entryText := by
  have post : (site.bannered key reason).tag.isPost = site.tag.isPost := Tag.isPost_marked
  have news : (site.bannered key reason).tag.isNews = site.tag.isNews :=
    Tag.hasClass_marked newsClass
  obtain ⟨parts, before, after⟩ := @select_bannered site key reason wordParts wordParts_isBlind
  rw [entryText, entryText, news, post, other, before, after, List.flatMap_map, List.flatMap_map]
  rfl

/-- The words of a news item begin with its banner, if plain text is text of the item. -/
theorem entryText_bannered_news (news : site.tag.isNews = true) :
    (site.bannered key reason).entryText
      = (if TextRole.ofName site.tag.name = .plain then bannerText reason else [])
        ++ site.entryText := by
  have still : (site.bannered key reason).tag.isNews = true :=
    (Tag.hasClass_marked newsClass).trans news
  have front : Node.strings (TextRole.ofName site.tag.name) (banner key reason)
      = if TextRole.ofName site.tag.name = .plain then [bannerText reason] else [] := by
    rw [banner, Node.strings, Node.stringsOf, Node.strings, Node.stringsOf, List.append_nil]
    simp only [TextRole.counts_plain, decide_eq_true_eq]
  rw [entryText, if_pos still, entryText, if_pos news, text, text, strings, strings]
  show (Node.stringsOf (TextRole.ofName site.tag.name) (banner key reason :: site.children)).flatten
    = _
  rw [Node.stringsOf, List.flatten_append, front]
  split
  · rw [List.flatten_singleton]
  · rfl

end Site

/-! ### Pages that differ in one place -/

namespace Node

/-- Whether nodes are the same as others but for one node, which is among them or inside them. -/
inductive IsAmended (old new : Node) : List Node → List Node → Prop
  | here (rest : List Node) : IsAmended old new (old :: rest) (new :: rest)
  | later (node : Node) {rest others : List Node} (amended : IsAmended old new rest others) :
    IsAmended old new (node :: rest) (node :: others)
  | inside (tag : Tag) (rest : List Node) {children others : List Node}
      (amended : IsAmended old new children others) :
    IsAmended old new (.element tag children :: rest) (.element tag others :: rest)

theorem key_mem_keysOf {site : Site} {above : List Tag} {nodes : List Node}
    (member : site ∈ sitesOf above nodes) : site.key ∈ keysOf nodes :=
  map_key_sitesOf above nodes ▸ List.mem_map_of_mem member

/-- **Where an element is highlighted, nodes differ in one place.** -/
theorem highlightIn_isAmended {label : Node} {site : Site} (above : List Tag) :
    ∀ nodes : List Node, (keysOf nodes).Nodup → site ∈ sitesOf above nodes →
      IsAmended (.element site.tag site.children)
        (.element site.tag.marked (label :: site.children)) nodes (highlightIn site.key label nodes)
  | [], _, member => by
    rw [sitesOf] at member
    cases member
  | .text role content :: rest, distinct, member => by
    rw [keysOf_cons, keysOf_text, List.nil_append] at distinct
    rw [sitesOf, sites, List.nil_append] at member
    rw [highlightIn, replaceIn, replace]
    exact .later _ (highlightIn_isAmended above rest distinct member)
  | .element tag children :: rest, distinct, member => by
    rw [keysOf_cons, keysOf_element, List.nodup_append] at distinct
    obtain ⟨first, others, apart⟩ := distinct
    obtain ⟨own, inner⟩ := List.nodup_cons.mp first
    rw [sitesOf, sites, List.cons_append, List.mem_cons, List.mem_append] at member
    rw [highlightIn, replaceIn]
    rcases member with rfl | inside | later
    · have absent : Site.key ⟨above, tag, children⟩ ∉ keysOf rest :=
        fun there => apart _ List.mem_cons_self _ there rfl
      rw [replace, if_pos (show tag.key = Site.key ⟨above, tag, children⟩ from rfl),
        replaceIn_of_absent rest absent]
      exact .here rest
    · have here := key_mem_keysOf inside
      have another : tag.key ≠ site.key := fun same => own (same ▸ here)
      have absent : site.key ∉ keysOf rest :=
        fun there => apart _ (List.mem_cons_of_mem _ here) _ there rfl
      rw [replace, if_neg another, replaceIn_of_absent rest absent]
      exact .inside tag rest (highlightIn_isAmended (tag :: above) children inner inside)
    · have there := key_mem_keysOf later
      have absent : site.key ∉ keysOf [.element tag children] := by
        rw [keysOf_element]
        exact fun here => apart _ here _ there rfl
      rw [replace_of_absent _ absent]
      exact .later _ (highlightIn_isAmended above rest others later)

end Node

namespace Page

variable {page : Page} {site : Site}

/-- Whether a page is the same as another one but for one node, in the page or beside it. -/
inductive IsAmended (old new : Node) (page now : Page) : Prop
  | within (nodes : Node.IsAmended old new page.nodes now.nodes) (loose : now.loose = page.loose)
  | beside (nodes : now.nodes = page.nodes) (loose : Node.IsAmended old new page.loose now.loose)

theorem highlight_isAmended (distinct : page.IsDistinct) (member : site ∈ page.allSites)
    (reason : Option String) :
    IsAmended (.element site.tag site.children)
      (.element site.tag.marked (banner page.nextKey reason :: site.children)) page
      (page.highlight site.key reason) := by
  have keys : (Node.keysOf page.nodes ++ Node.keysOf page.loose).Nodup := by
    rw [IsDistinct, allSites, List.map_append] at distinct
    exact distinct
  obtain ⟨first, second, apart⟩ := List.nodup_append.mp keys
  rcases List.mem_append.mp member with within | beside
  · refine .within (Node.highlightIn_isAmended [] page.nodes first within) ?_
    exact Node.replaceIn_of_absent page.loose fun there =>
      apart _ (Node.key_mem_keysOf within) _ there rfl
  · refine .beside ?_ (Node.highlightIn_isAmended [] page.loose second beside)
    exact Node.replaceIn_of_absent page.nodes fun there =>
      apart _ there _ (Node.key_mem_keysOf beside) rfl

/-- What is around an element of a page is an element of the page. -/
theorem exists_outer (member : site ∈ page.allSites) {tag : Tag} (around : tag ∈ site.above) :
    ∃ outer ∈ page.allSites, outer.tag = tag ∧ site ∈ outer.inside := by
  rcases List.mem_append.mp member with within | beside
  · obtain ⟨outer, there, found⟩ := Node.exists_outer within around
    exact ⟨outer, List.mem_append_left _ there, found⟩
  · obtain ⟨outer, there, found⟩ := Node.exists_outer beside around
    exact ⟨outer, List.mem_append_right _ there, found⟩

/-- **To the highlighted entry itself nothing else happens**: it is neither around nor inside
itself. -/
theorem highlighted_of_mem (distinct : page.IsDistinct) (member : site ∈ page.allSites)
    (next : Nat) (reason : Option String) :
    site.highlighted site.key (banner next reason) = site.bannered next reason := by
  have around : ∀ tag ∈ site.above, tag.key ≠ site.key := by
    intro tag above same
    obtain ⟨outer, there, rfl, inside⟩ := exists_outer member above
    obtain rfl := Site.eq_of_key_eq distinct there member same
    exact outer.notMem_inside inside
  have above : site.above.map (Tag.markedAt site.key) = site.above :=
    (List.map_congr_left fun tag outer => Tag.markedAt_of_ne (around tag outer)).trans
      (List.map_id _)
  rw [Site.highlighted, above, Tag.markedAt, if_pos (show site.tag.key = site.key from rfl),
    if_pos (show site.tag.key = site.key from rfl)]
  rfl

theorem find?_highlight (keyed : page.IsKeyed) (member : site ∈ page.allSites)
    (reason : Option String) :
    (page.highlight site.key reason).find? site.key = some (site.bannered page.nextKey reason) := by
  have there : site.bannered page.nextKey reason ∈ (page.highlight site.key reason).allSites := by
    rw [allSites_highlight keyed.distinct, List.mem_flatMap]
    refine ⟨site, member, ?_⟩
    rw [Site.afterHighlight, highlighted_of_mem keyed.distinct member]
    exact List.mem_cons_self
  exact (highlight_isKeyed keyed site.key reason).distinct.find?_of_mem there

/-- **To highlight an entry does not change what is seen of it.** Of any element of a page, whatever
is in it and around it, and for any reason:

* it is highlighted and then marked, with a border after all that its style declared before, a
  banner in front of what is in it, and otherwise as it was;
* its reactor, its flags, its author and the reason why it is shown are the same, and so are its
  words unless it is a news item;
* the words of a news item begin with those of the banner, unless the item has only text of a kind
  of its own;
* the page is the same in all other places. -/
theorem highlight_looksAlike (keyed : page.IsKeyed) (member : site ∈ page.allSites)
    (reason : Option String) :
    let now := page.highlight site.key reason
    let after := site.bannered page.nextKey reason
    Page.feed.highlight page site.key reason = (now, .ok ())
      ∧ page.find? site.key = some site ∧ now.find? site.key = some after
      ∧ Page.feed.isMarked now site.key = true
      ∧ site.tag.IsBordered after.tag
      ∧ after.LooksAlike site
      ∧ (site.tag.isNews = false → after.entryText = site.entryText)
      ∧ (site.tag.isNews = true → after.entryText
        = (if TextRole.ofName site.tag.name = .plain then bannerText reason else [])
          ++ site.entryText)
      ∧ IsAmended (.element site.tag site.children)
        (.element after.tag (banner page.nextKey reason :: site.children)) page now := by
  intro now after
  have found : page.find? site.key = some site := keyed.distinct.find?_of_mem member
  have there : now.find? site.key = some after := find?_highlight keyed member reason
  refine ⟨?_, found, there, ?_, Tag.marked_isBordered site.tag,
    site.bannered_looksAlike page.nextKey reason, Site.entryText_bannered_post,
    Site.entryText_bannered_news, highlight_isAmended keyed.distinct member reason⟩
  · simp only [feed, found]
    rfl
  · show ((now.find? site.key).map fun site => site.tag.isMarked).getD false = true
    rw [there]
    exact Tag.isMarked_marked

/-- A post that is suggested, with a style. -/
def suggestedPost : Page where
  nodes :=
    [.element ⟨0, "div".toList, [("style".toList, " color: red; ".toList),
        ("role".toList, "article".toList)]⟩
      [.element ⟨1, "b".toList, [("class".toList, "update-components-header".toList)]⟩
        [.text .plain "Suggested".toList],
      .element ⟨2, "p".toList, [("class".toList, "break-words".toList)]⟩
        [.text .plain "spam".toList]]]
  loose := []
  nextKey := 3

/-- The post is still suggested, and its words are those that it had. -/
theorem highlight_looksAlike_suggestedPost :
    let now := suggestedPost.highlight 0 (some "spam")
    suggestedPost.IsKeyed ∧ Page.feed.isMarked now 0 = true
      ∧ ∃ after ∈ now.find? 0, after.tag.isNews = false ∧ after.isSuggested = true
        ∧ after.entryText = "\nspam".toList
        ∧ after.tag.attribute? "style"
          = some "color: red; border: #f0f 5px solid !important".toList := by
  intro now
  have keyed : suggestedPost.IsKeyed := by
    constructor
    · unfold IsDistinct
      decide
    · decide
  have member : ∃ site ∈ suggestedPost.allSites, site.key = 0 ∧ site.tag.isNews = false
      ∧ site.isSuggested = true ∧ site.entryText = "\nspam".toList
      ∧ (site.bannered 3 (some "spam")).tag.isNews = false
      ∧ (site.bannered 3 (some "spam")).tag.attribute? "style"
        = some "color: red; border: #f0f 5px solid !important".toList :=
    ⟨_, List.mem_cons_self, by decide +kernel⟩
  obtain ⟨site, there, key, post, suggested, words, still, style⟩ := member
  obtain ⟨-, -, found, marked, -, alike, kept, -, -⟩ :=
    highlight_looksAlike keyed there (some "spam")
  rw [key] at found marked
  exact ⟨keyed, marked, _, found, still, alike.suggested.trans suggested, (kept post).trans words,
    style⟩

/-- A news item that is a template: plain text is no text of it. -/
def newsTemplate : Page where
  nodes :=
    [.element ⟨0, "template".toList, [("class".toList, "news-module__storyline".toList)]⟩
      [.text .template "news".toList]]
  loose := []
  nextKey := 1

/-- The words of such an item do not begin with those of its banner. -/
theorem entryText_newsTemplate :
    let now := newsTemplate.highlight 0 (some "spam")
    newsTemplate.IsKeyed
      ∧ (newsTemplate.find? 0).map (fun site => site.tag.isNews) = some true
      ∧ (newsTemplate.find? 0).map Site.entryText = some "news".toList
      ∧ (now.find? 0).map Site.entryText = some "news".toList
      ∧ (now.find? 0).map Site.entryText
        ≠ (newsTemplate.find? 0).map fun site => bannerText (some "spam") ++ site.entryText := by
  intro now
  refine ⟨⟨?_, by decide⟩, by decide +kernel, by decide +kernel, by decide +kernel,
    by decide +kernel⟩
  unfold IsDistinct
  decide

end Page

end FeedFilter.Html
