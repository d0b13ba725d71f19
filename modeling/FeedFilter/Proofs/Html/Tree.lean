/-
**Trees without some of their elements.**

An element that is dropped takes all that is in it along. What is left of the elements of a tree are
those that neither are dropped nor stand in one that is dropped, in the same order; each of them has
lost what was dropped in it and nothing else.

* `inside_subset_sitesOf`, `exists_outer`, `Site.tag_mem_above`: elements inside elements.
* `Node.withoutOf`: a forest without some elements; `withoutOf_withoutOf`: dropping more of them.
* `sitesOf_withoutOf`: the elements that are left.
* `replaceIn_nothing`: the element of a key is dropped where it is replaced by nothing.
-/

import FeedFilter.Html.Node

namespace FeedFilter.Html

/-! ### Elements inside elements -/

namespace Node

theorem sitesOf_append (above : List Tag) (first second : List Node) :
    sitesOf above (first ++ second) = sitesOf above first ++ sitesOf above second := by
  induction first with
  | nil => rw [sitesOf, List.nil_append, List.nil_append]
  | cons node rest ih => rw [List.cons_append, sitesOf, sitesOf, ih, List.append_assoc]

mutual

theorem sites_tags (above other : List Tag) :
    ∀ node : Node, (sites above node).map Site.tag = (sites other node).map Site.tag
  | text role content => by rw [sites, sites]
  | element tag children => by
    rw [sites, sites, List.map_cons, List.map_cons,
      sitesOf_tags (tag :: above) (tag :: other) children]

/-- The tags of elements do not depend on what is around them. -/
theorem sitesOf_tags (above other : List Tag) :
    ∀ nodes : List Node, (sitesOf above nodes).map Site.tag = (sitesOf other nodes).map Site.tag
  | [] => by rw [sitesOf, sitesOf]
  | node :: rest => by
    rw [sitesOf, sitesOf, List.map_append, List.map_append, sites_tags above other node,
      sitesOf_tags above other rest]

end

mutual

theorem subset_above_sites (above : List Tag) :
    ∀ node : Node, ∀ site ∈ sites above node, above ⊆ site.above
  | text role content, site, member => by
    rw [sites] at member
    cases member
  | element tag children, site, member => by
    rw [sites, List.mem_cons] at member
    rcases member with rfl | inside
    · exact List.Subset.refl above
    · exact List.Subset.trans (List.subset_cons_self tag above)
        (subset_above_sitesOf (tag :: above) children site inside)

/-- What is around some nodes is around every element in them. -/
theorem subset_above_sitesOf (above : List Tag) :
    ∀ nodes : List Node, ∀ site ∈ sitesOf above nodes, above ⊆ site.above
  | [], site, member => by
    rw [sitesOf] at member
    cases member
  | node :: rest, site, member => by
    rw [sitesOf, List.mem_append] at member
    rcases member with here | later
    · exact subset_above_sites above node site here
    · exact subset_above_sitesOf above rest site later

end

mutual

theorem inside_subset_sites (above : List Tag) :
    ∀ node : Node, ∀ site ∈ sites above node, site.inside ⊆ sites above node
  | text role content, site, member => by
    rw [sites] at member
    cases member
  | element own children, site, member => by
    rw [sites] at member ⊢
    rcases List.mem_cons.mp member with rfl | inside
    · exact List.subset_cons_self _ _
    · exact List.Subset.trans (inside_subset_sitesOf (own :: above) children site inside)
        (List.subset_cons_self _ _)

/-- What is inside an element of some nodes is an element of them. -/
theorem inside_subset_sitesOf (above : List Tag) :
    ∀ nodes : List Node, ∀ site ∈ sitesOf above nodes, site.inside ⊆ sitesOf above nodes
  | [], site, member => by
    rw [sitesOf] at member
    cases member
  | node :: rest, site, member => by
    rw [sitesOf] at member ⊢
    rcases List.mem_append.mp member with here | later
    · exact List.Subset.trans (inside_subset_sites above node site here)
        (List.subset_append_left _ _)
    · exact List.Subset.trans (inside_subset_sitesOf above rest site later)
        (List.subset_append_right _ _)

end

mutual

theorem exists_outer_sites (above : List Tag) :
    ∀ node : Node, ∀ site ∈ sites above node, ∀ tag ∈ site.above,
      tag ∈ above ∨ ∃ outer ∈ sites above node, outer.tag = tag ∧ site ∈ outer.inside
  | text role content, site, member, _, _ => by
    rw [sites] at member
    cases member
  | element own children, site, member, tag, around => by
    rw [sites] at member ⊢
    rcases List.mem_cons.mp member with rfl | inside
    · exact .inl around
    rcases exists_outer_sitesOf (own :: above) children site inside tag around with
      here | ⟨outer, there, same, within⟩
    · rcases List.mem_cons.mp here with rfl | further
      · exact .inr ⟨_, List.mem_cons_self, rfl, inside⟩
      · exact .inl further
    · exact .inr ⟨outer, List.mem_cons_of_mem _ there, same, within⟩

/-- What is around an element of some nodes is around all of them, or is an element of them that the
first one is inside of. -/
theorem exists_outer_sitesOf (above : List Tag) :
    ∀ nodes : List Node, ∀ site ∈ sitesOf above nodes, ∀ tag ∈ site.above,
      tag ∈ above ∨ ∃ outer ∈ sitesOf above nodes, outer.tag = tag ∧ site ∈ outer.inside
  | [], site, member, _, _ => by
    rw [sitesOf] at member
    cases member
  | node :: rest, site, member, tag, around => by
    rw [sitesOf] at member ⊢
    rcases List.mem_append.mp member with here | later
    · refine (exists_outer_sites above node site here tag around).imp_right ?_
      rintro ⟨outer, there, found⟩
      exact ⟨outer, List.mem_append_left _ there, found⟩
    · refine (exists_outer_sitesOf above rest site later tag around).imp_right ?_
      rintro ⟨outer, there, found⟩
      exact ⟨outer, List.mem_append_right _ there, found⟩

end

/-- What is around an element of a whole forest is an element of it. -/
theorem exists_outer {nodes : List Node} {site : Site} (member : site ∈ sitesOf [] nodes)
    {tag : Tag} (around : tag ∈ site.above) :
    ∃ outer ∈ sitesOf [] nodes, outer.tag = tag ∧ site ∈ outer.inside :=
  (exists_outer_sitesOf [] nodes site member tag around).resolve_left List.not_mem_nil

end Node

/-- An element is around those inside it. -/
theorem Site.tag_mem_above {site inner : Site} (inside : inner ∈ site.inside) :
    site.tag ∈ inner.above :=
  Node.subset_above_sitesOf (site.tag :: site.above) site.children inner inside List.mem_cons_self

/-! ### Dropping elements -/

namespace Node

mutual

/-- What is left of a node: nothing of an element that is dropped. -/
def without (drops : Tag → Bool) : Node → List Node
  | text role content => [text role content]
  | element tag children => if drops tag then [] else [element tag (withoutOf drops children)]

/-- What is left of some nodes. -/
def withoutOf (drops : Tag → Bool) : List Node → List Node
  | [] => []
  | node :: rest => without drops node ++ withoutOf drops rest

end

end Node

namespace Site

/-- What is left of an element that is not dropped. -/
def without (drops : Tag → Bool) (site : Site) : Site :=
  { site with children := Node.withoutOf drops site.children }

/-- Whether an element is left: neither it nor one around it is dropped. -/
def isLeft (drops : Tag → Bool) (site : Site) : Bool :=
  (site.tag :: site.above).all fun tag => !drops tag

/-- Inside an element that is dropped nothing is left. -/
theorem isLeft_of_mem_above {drops : Tag → Bool} {site : Site} {tag : Tag}
    (around : tag ∈ site.above) (dropped : drops tag = true) : site.isLeft drops = false := by
  rw [isLeft, List.all_eq_false]
  exact ⟨tag, List.mem_cons_of_mem _ around, by simp [dropped]⟩

end Site

namespace Node

variable {drops also : Tag → Bool}

theorem withoutOf_append (first second : List Node) :
    withoutOf drops (first ++ second) = withoutOf drops first ++ withoutOf drops second := by
  induction first with
  | nil => rw [withoutOf, List.nil_append, List.nil_append]
  | cons node rest ih => rw [List.cons_append, withoutOf, withoutOf, ih, List.append_assoc]

theorem withoutOf_singleton (node : Node) : withoutOf drops [node] = without drops node := by
  rw [withoutOf, withoutOf, List.append_nil]

mutual

theorem sites_without (above : List Tag) (left : ∀ tag ∈ above, drops tag = false) :
    ∀ node : Node, sitesOf above (without drops node)
      = ((sites above node).filter (Site.isLeft drops)).map (Site.without drops)
  | text role content => by
    rw [without, sites, sitesOf, sites, sitesOf]
    rfl
  | element tag children => by
    rw [without, sites]
    cases dropped : drops tag with
    | true =>
      -- Whatever is inside has this element around it, so none of it is left either.
      have none : ((⟨above, tag, children⟩ : Site) :: sitesOf (tag :: above) children).filter
          (Site.isLeft drops) = [] := by
        refine List.filter_eq_nil_iff.mpr fun site member => ?_
        rcases List.mem_cons.mp member with rfl | inside
        · simp [Site.isLeft, dropped]
        · rw [Site.isLeft_of_mem_above
            (subset_above_sitesOf (tag :: above) children site inside List.mem_cons_self) dropped]
          exact Bool.false_ne_true
      rw [none, if_pos rfl, sitesOf]
      rfl
    | false =>
      have around : ∀ other ∈ tag :: above, drops other = false :=
        List.forall_mem_cons.mpr ⟨dropped, left⟩
      have own : Site.isLeft drops ⟨above, tag, children⟩ = true := by
        rw [Site.isLeft, List.all_eq_true]
        exact fun other member => by rw [around other member]; rfl
      rw [if_neg Bool.false_ne_true, sitesOf, sites, sitesOf, List.append_nil,
        List.filter_cons_of_pos own, List.map_cons,
        sitesOf_withoutOf (tag :: above) around children]
      rfl

/-- **The elements that are left**, in their order. -/
theorem sitesOf_withoutOf (above : List Tag) (left : ∀ tag ∈ above, drops tag = false) :
    ∀ nodes : List Node, sitesOf above (withoutOf drops nodes)
      = ((sitesOf above nodes).filter (Site.isLeft drops)).map (Site.without drops)
  | [] => by
    rw [withoutOf, sitesOf]
    rfl
  | node :: rest => by
    rw [withoutOf, sitesOf_append, sites_without above left node,
      sitesOf_withoutOf above left rest, sitesOf, List.filter_append, List.map_append]

end

mutual

theorem withoutOf_without :
    ∀ node : Node, withoutOf also (without drops node)
      = without (fun tag => drops tag || also tag) node
  | text role content => by
    rw [without, withoutOf_singleton, without, without]
  | element tag children => by
    rw [without, without]
    cases dropped : drops tag with
    | true => rw [if_pos rfl, withoutOf, Bool.true_or, if_pos rfl]
    | false =>
      rw [if_neg Bool.false_ne_true, withoutOf_singleton, without, withoutOf_withoutOf children,
        Bool.false_or]

/-- To drop elements and then more of them is to drop all of them at once. -/
theorem withoutOf_withoutOf :
    ∀ nodes : List Node, withoutOf also (withoutOf drops nodes)
      = withoutOf (fun tag => drops tag || also tag) nodes
  | [] => by rw [withoutOf, withoutOf, withoutOf]
  | node :: rest => by
    rw [withoutOf, withoutOf_append, withoutOf_without node, withoutOf_withoutOf rest, withoutOf]

end

mutual

theorem without_congr (above : List Tag) :
    ∀ node : Node, (∀ site ∈ sites above node, drops site.tag = also site.tag) →
      without drops node = without also node
  | text role content, _ => by rw [without, without]
  | element tag children, same => by
    rw [sites] at same
    obtain ⟨own, inside⟩ := List.forall_mem_cons.mp same
    rw [without, without, own, withoutOf_congr (tag :: above) children inside]

/-- Only the elements of some nodes matter for what is left of them. -/
theorem withoutOf_congr (above : List Tag) :
    ∀ nodes : List Node, (∀ site ∈ sitesOf above nodes, drops site.tag = also site.tag) →
      withoutOf drops nodes = withoutOf also nodes
  | [], _ => by rw [withoutOf, withoutOf]
  | node :: rest, same => by
    rw [sitesOf] at same
    obtain ⟨here, later⟩ := List.forall_mem_append.mp same
    rw [withoutOf, withoutOf, without_congr above node here, withoutOf_congr above rest later]

end

mutual

theorem without_nothing : ∀ node : Node, without (fun _ => false) node = [node]
  | text role content => by rw [without]
  | element tag children => by
    rw [without, if_neg Bool.false_ne_true, withoutOf_nothing children]

theorem withoutOf_nothing : ∀ nodes : List Node, withoutOf (fun _ => false) nodes = nodes
  | [] => by rw [withoutOf]
  | node :: rest => by
    rw [withoutOf, without_nothing node, withoutOf_nothing rest]
    rfl

end

/-- Nodes without an element that is dropped stay as they are. -/
theorem withoutOf_eq_self (above : List Tag) {nodes : List Node}
    (none : ∀ site ∈ sitesOf above nodes, drops site.tag = false) :
    withoutOf drops nodes = nodes :=
  (withoutOf_congr above nodes none).trans (withoutOf_nothing nodes)

mutual

theorem replace_nothing (key : Nat) :
    ∀ node : Node, replace key (fun _ _ => []) node = without (fun tag => tag.key = key) node
  | text role content => by rw [replace, without]
  | element tag children => by
    rw [replace, without, replaceIn_nothing key children]
    simp only [decide_eq_true_eq]

/-- To replace an element by nothing is to drop it. -/
theorem replaceIn_nothing (key : Nat) :
    ∀ nodes : List Node, replaceIn key (fun _ _ => []) nodes
      = withoutOf (fun tag => tag.key = key) nodes
  | [] => by rw [replaceIn, withoutOf]
  | node :: rest => by
    rw [replaceIn, withoutOf, replace_nothing key node, replaceIn_nothing key rest]

end

end Node

end FeedFilter.Html
