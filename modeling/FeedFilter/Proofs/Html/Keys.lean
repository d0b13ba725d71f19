/-
**Keys tell elements apart.**

A page that has been read gives every element a key of its own: a start tag takes the next one, and
all that happens to the element afterwards leaves it where it is among the others.

* `Page.IsDistinct`: no two elements of a page have the same key; `find?_of_mem`: an element is
  found by its key.
* `Nesting.keys`: the keys given so far; `Nesting.IsKeyed`: they differ, and the next one is new.
* `Nesting.IsKeyed.take`: every token keeps this.
* `Page.ofText_isKeyed`, `Page.ofText_isDistinct`: a page that has been read, and its next key.
-/

import FeedFilter.Html.Page
import FeedFilter.Proofs.Html.Tree
import Mathlib.Data.List.Nodup

namespace FeedFilter.Html

/-! ### Elements found by their keys -/

/-- The key of an element. -/
def Site.key (site : Site) : Nat := site.tag.key

namespace Site

variable {sites : List Site} {site other : Site}

/-- Of elements with keys of their own, those of one key are the same. -/
theorem eq_of_key_eq (distinct : (sites.map key).Nodup) (first : site ∈ sites)
    (second : other ∈ sites) (same : site.key = other.key) : site = other :=
  List.inj_on_of_nodup_map distinct first second same

theorem find?_of_mem (distinct : (sites.map key).Nodup) (member : site ∈ sites) :
    (sites.find? fun other => other.tag.key = site.tag.key) = some site := by
  cases found : sites.find? fun other => other.tag.key = site.tag.key with
  | none =>
    have different := List.find?_eq_none.mp found site member
    simp at different
  | some other =>
    have same : other.tag.key = site.tag.key := by simpa using List.find?_some found
    rw [eq_of_key_eq distinct (List.mem_of_find?_eq_some found) member same]

end Site

namespace Node

/-- The keys of the elements in some nodes. -/
def keysOf (nodes : List Node) : List Nat := (sitesOf [] nodes).map Site.key

theorem map_key_sitesOf (above : List Tag) (nodes : List Node) :
    (sitesOf above nodes).map Site.key = keysOf nodes := by
  have same := congrArg (List.map Tag.key) (sitesOf_tags above [] nodes)
  rwa [List.map_map, List.map_map] at same

theorem keysOf_append (first second : List Node) :
    keysOf (first ++ second) = keysOf first ++ keysOf second := by
  rw [keysOf, sitesOf_append, List.map_append]
  rfl

theorem keysOf_cons (node : Node) (rest : List Node) :
    keysOf (node :: rest) = keysOf [node] ++ keysOf rest :=
  keysOf_append [node] rest

theorem keysOf_element (tag : Tag) (children : List Node) :
    keysOf [element tag children] = tag.key :: keysOf children := by
  rw [keysOf, sitesOf, sites, sitesOf, List.append_nil, List.map_cons, map_key_sitesOf]
  rfl

theorem keysOf_text (role : TextRole) (content : Text) : keysOf [text role content] = [] := by
  rw [keysOf, sitesOf, sites, sitesOf]
  rfl

theorem keysOf_reverse (nodes : List Node) : (keysOf nodes.reverse).Perm (keysOf nodes) := by
  induction nodes with
  | nil => exact .refl _
  | cons node rest ih =>
    rw [List.reverse_cons, keysOf_append, keysOf_cons node rest]
    exact (ih.append_right _).trans List.perm_append_comm

end Node

/-! ### The order of elements -/

namespace Node

mutual

theorem sites_ordered (above : List Tag) :
    ∀ node : Node, (above.map Tag.key ++ (sites above node).map Site.key).Nodup →
      (sites above node).Pairwise (fun earlier later => later.tag ∉ earlier.above)
        ∧ ∀ site ∈ sites above node, site.tag ∉ site.above
  | text role content, _ => by
    rw [sites]
    exact ⟨.nil, fun _ member => nomatch member⟩
  | element tag children, distinct => by
    rw [sites] at distinct ⊢
    have outside : ∀ site ∈ (⟨above, tag, children⟩ :: sitesOf (tag :: above) children : List Site),
        site.tag ∉ above := by
      intro site member around
      exact (List.nodup_append.mp distinct).2.2 _ (List.mem_map_of_mem around) _
        (List.mem_map_of_mem member) rfl
    obtain ⟨ordered, own⟩ := sitesOf_ordered (tag :: above) children
      (List.perm_middle.nodup_iff.mp distinct)
    exact ⟨List.pairwise_cons.mpr ⟨fun later member => outside later
      (List.mem_cons_of_mem _ member), ordered⟩,
      List.forall_mem_cons.mpr ⟨outside _ List.mem_cons_self, own⟩⟩

/-- **An element comes before what is inside it**, where keys tell elements apart. -/
theorem sitesOf_ordered (above : List Tag) :
    ∀ nodes : List Node, (above.map Tag.key ++ (sitesOf above nodes).map Site.key).Nodup →
      (sitesOf above nodes).Pairwise (fun earlier later => later.tag ∉ earlier.above)
        ∧ ∀ site ∈ sitesOf above nodes, site.tag ∉ site.above
  | [], _ => by
    rw [sitesOf]
    exact ⟨.nil, fun _ member => nomatch member⟩
  | node :: rest, distinct => by
    rw [sitesOf, List.map_append] at distinct
    rw [sitesOf]
    obtain ⟨outer, inner, apart⟩ := List.nodup_append.mp distinct
    obtain ⟨first, second, between⟩ := List.nodup_append.mp inner
    obtain ⟨ordered, own⟩ := sites_ordered above node
      (distinct.sublist ((List.sublist_append_left _ _).append_left _))
    obtain ⟨orderedRest, ownRest⟩ := sitesOf_ordered above rest
      (distinct.sublist ((List.sublist_append_right _ _).append_left _))
    refine ⟨List.pairwise_append.mpr ⟨ordered, orderedRest, ?_⟩,
      List.forall_mem_append.mpr ⟨own, ownRest⟩⟩
    intro earlier here later there around
    rcases exists_outer_sites above node earlier here later.tag around with
      further | ⟨site, found, same, -⟩
    · exact apart _ (List.mem_map_of_mem further) _
        (List.mem_append_right _ (List.mem_map_of_mem there)) rfl
    · exact between _ (List.mem_map_of_mem found) _ (List.mem_map_of_mem there)
        (congrArg Tag.key same)

end

end Node

/-! ### Keys of a page in the making -/

/-- The keys of an open element and of what is in it. -/
def OpenElement.keys (element : OpenElement) : List Nat :=
  element.tag.key :: Node.keysOf element.content

namespace Nesting

/-- The keys that have been given. -/
def keys (nesting : Nesting) : List Nat :=
  nesting.opened.flatMap OpenElement.keys ++ Node.keysOf nesting.done

/-- All keys differ, and the next one is new. -/
structure IsKeyed (nesting : Nesting) : Prop where
  distinct : nesting.keys.Nodup
  next : ∀ key ∈ nesting.keys, key < nesting.nextKey

/-- The keys are the same, in another order maybe. -/
structure SameKeys (before after : Nesting) : Prop where
  keys : after.keys.Perm before.keys
  nextKey : after.nextKey = before.nextKey

theorem SameKeys.refl (nesting : Nesting) : nesting.SameKeys nesting := ⟨.refl _, rfl⟩

theorem SameKeys.trans {first second third : Nesting} (one : first.SameKeys second)
    (two : second.SameKeys third) : first.SameKeys third :=
  ⟨two.keys.trans one.keys, two.nextKey.trans one.nextKey⟩

theorem SameKeys.isKeyed {before after : Nesting} (same : before.SameKeys after)
    (keyed : before.IsKeyed) : after.IsKeyed where
  distinct := same.keys.nodup_iff.mpr keyed.distinct
  next key member := same.nextKey ▸ keyed.next key (same.keys.mem_iff.mp member)

variable (nesting : Nesting)

theorem keys_add (node : Node) :
    (nesting.add node).keys.Perm (Node.keysOf [node] ++ nesting.keys) := by
  unfold add keys
  split
  · next closed =>
    rw [closed, List.flatMap_nil, List.nil_append, List.nil_append, Node.keysOf_cons]
  · next inner outer opened =>
    rw [opened, List.flatMap_cons, List.flatMap_cons, OpenElement.keys, OpenElement.keys,
      Node.keysOf_cons]
    simp only [List.cons_append, List.append_assoc]
    exact List.perm_middle.symm

theorem nextKey_add (node : Node) : (nesting.add node).nextKey = nesting.nextKey := by
  unfold add
  split <;> rfl

theorem addText_sameKeys (role : TextRole) (content : Text) :
    nesting.SameKeys (nesting.addText role content) where
  keys := by
    have added := nesting.keys_add (.text role
      (if nesting.names.any fun name => preformattedNames.contains name then content
        else squeeze content))
    rwa [Node.keysOf_text, List.nil_append] at added
  nextKey := nextKey_add nesting _

theorem flush_sameKeys : nesting.SameKeys nesting.flush := by
  unfold flush
  split
  · exact .refl nesting
  · have same := nesting.addText_sameKeys nesting.role nesting.pending
    exact ⟨same.keys, same.nextKey⟩

theorem close_sameKeys : nesting.SameKeys nesting.close := by
  unfold close
  split
  · exact .refl nesting
  · next inner outer opened =>
    refine ⟨(keys_add _ _).trans ?_, nextKey_add _ _⟩
    rw [Node.keysOf_element, keys, keys, opened, List.flatMap_cons, OpenElement.keys,
      List.append_assoc]
    exact ((Node.keysOf_reverse inner.content).cons _).append_right _

theorem closeSome_sameKeys (count : Nat) : nesting.SameKeys (nesting.closeSome count) := by
  unfold closeSome
  induction count with
  | zero => exact .refl nesting
  | succ count ih => exact ih.trans (close_sameKeys _)

theorem closeTo_sameKeys (name : Text) : nesting.SameKeys (nesting.closeTo name) := by
  unfold closeTo
  dsimp only
  split
  · exact closeSome_sameKeys nesting _
  · exact .refl nesting

theorem finish_sameKeys (name : Text) : nesting.SameKeys (nesting.finish name) := by
  unfold finish
  split
  · exact ⟨.refl _, rfl⟩
  · exact nesting.flush_sameKeys.trans (closeTo_sameKeys _ name)

variable {nesting}

/-- A start tag takes the next key. -/
theorem IsKeyed.start (keyed : nesting.IsKeyed) (name : Text) (attributes : List Attribute) :
    (nesting.start name attributes).IsKeyed := by
  obtain ⟨distinct, next⟩ := nesting.flush_sameKeys.isKeyed keyed
  have keys : (nesting.start name attributes).keys
      = nesting.flush.nextKey :: nesting.flush.keys := rfl
  refine ⟨?_, fun key member => ?_⟩
  · rw [keys]
    exact List.nodup_cons.mpr ⟨fun member => Nat.lt_irrefl _ (next _ member), distinct⟩
  · rw [keys] at member
    show key < nesting.flush.nextKey + 1
    rcases List.mem_cons.mp member with rfl | old
    · exact Nat.lt_succ_self _
    · exact Nat.lt_succ_of_lt (next key old)

/-- **Every token keeps keys apart.** -/
theorem IsKeyed.take (keyed : nesting.IsKeyed) (token : Token) : (nesting.take token).IsKeyed := by
  cases token with
  | start name attributes closed =>
    have begun := keyed.start name attributes
    unfold Nesting.take
    dsimp only
    split
    · exact (finish_sameKeys _ name).isKeyed begun
    · split
      · obtain ⟨distinct, next⟩ := (closeTo_sameKeys _ name).isKeyed begun
        exact ⟨distinct, next⟩
      · exact begun
  | finish name => exact (finish_sameKeys nesting name).isKeyed keyed
  | text content => exact ⟨keyed.distinct, keyed.next⟩
  | remark kind content =>
    exact (nesting.flush_sameKeys.trans (addText_sameKeys _ _ _)).isKeyed keyed

theorem ofTokens_isKeyed (tokens : List Token) : (ofTokens tokens).IsKeyed := by
  have read : ∀ start : Nesting, start.IsKeyed → (tokens.foldl Nesting.take start).IsKeyed := by
    induction tokens with
    | nil => exact fun _ keyed => keyed
    | cons token rest ih => exact fun start keyed => ih _ (keyed.take token)
  unfold ofTokens complete
  exact ((flush_sameKeys _).trans (closeSome_sameKeys _ _)).isKeyed (read {} ⟨.nil, nofun⟩)

end Nesting

/-! ### Pages -/

namespace Page

/-- No two elements of a page, or beside it, have the same key. -/
def IsDistinct (page : Page) : Prop := (page.allSites.map Site.key).Nodup

/-- An element is found by its key. -/
theorem IsDistinct.find?_of_mem {page : Page} (distinct : page.IsDistinct) {site : Site}
    (member : site ∈ page.allSites) : page.find? site.tag.key = some site :=
  Site.find?_of_mem distinct member

/-- No two elements of a page have the same key, and the next key is new. -/
structure IsKeyed (page : Page) : Prop where
  distinct : page.IsDistinct
  fresh : ∀ site ∈ page.allSites, site.key < page.nextKey

/-- **A page that has been read is keyed.** -/
theorem ofText_isKeyed {markup : Text} {page : Page} (read : ofText markup = .ok page) :
    page.IsKeyed := by
  unfold ofText at read
  cases scanned : Token.ofText markup with
  | error rejection =>
    rw [scanned] at read
    cases read
  | ok tokens =>
    rw [scanned] at read
    cases read
    obtain ⟨distinct, next⟩ := Nesting.ofTokens_isKeyed tokens
    have same := Node.keysOf_reverse (Nesting.ofTokens tokens).done
    refine ⟨?_, fun site member => ?_⟩
    · show ((Node.sitesOf [] (Nesting.ofTokens tokens).done.reverse
        ++ Node.sitesOf [] []).map Site.key).Nodup
      rw [Node.sitesOf, List.append_nil]
      exact same.nodup_iff.mpr (List.nodup_append.mp distinct).2.1
    · have here : site ∈ Node.sitesOf [] (Nesting.ofTokens tokens).done.reverse
          ++ Node.sitesOf [] [] := member
      rw [Node.sitesOf, List.append_nil] at here
      exact next _ (List.mem_append_right _ (same.mem_iff.mp (List.mem_map_of_mem here)))

/-- What has been read is distinct. -/
theorem ofText_isDistinct {markup : Text} {page : Page} (read : ofText markup = .ok page) :
    page.IsDistinct := (ofText_isKeyed read).distinct

end Page

end FeedFilter.Html
