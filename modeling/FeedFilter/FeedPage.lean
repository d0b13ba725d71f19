/-
**Feeds in pages.**

The entries of a feed page are its posts and its news items. Their words, their authors and the
reason why they are shown are found in the parts of the markup that are set apart for them.

* `Site.entryText`, `Site.reactor?`, `Site.isSuggested`, `Site.hasCredentials`: what a filter reads.
* `Page.entries`: the keys of the entries, in the order of the page.
* `Page.highlight`: marks an entry with a banner and a border.
* `Page.feed`: the feed of a page.
-/

import FeedFilter.Html.Page
import FeedFilter.Pass

namespace FeedFilter.Html

/-- The part of a page that a role is given to. -/
def articleRole : Text := "article".toList

/-- The class of news items. -/
def newsClass : String := "news-module__storyline"

/-- The parts that hold the words of a post. -/
def wordParts : Selector := .ofClass "break-words"

/-- The heads of posts, which say why these are shown. -/
def headers : Selector := .ofClass "update-components-header"

/-- The links in the heads of posts. -/
def headerLinks : Selector := headers.within fun tag => tag.name = "a".toList

/-- The name of the author of a post. -/
def authorName : Selector :=
  ((Selector.ofClass "update-components-actor__meta").within
      fun tag => tag.hasClass "update-components-actor__title").within
    fun tag => tag.name = "span".toList && tag.hasClass "visually-hidden"

/-- The mark of content credentials. -/
def credentialsMark : Selector := .ofId "content-credentials"

/-- What is in the address of a profile. -/
def profileFragment : Text := "/in/".toList

/-- What the head of a suggested post says. -/
def suggestedMark : Text := "Suggested".toList

namespace Tag

/-- Whether an element is a post. -/
def isPost (tag : Tag) : Bool := tag.attribute? "role" = some articleRole

/-- Whether an element is a news item. -/
def isNews (tag : Tag) : Bool := tag.hasClass newsClass

/-- Whether an element is an entry. -/
def isEntry (tag : Tag) : Bool := tag.isPost || tag.isNews

/-- Whether an element is looked at as an entry: the role may be followed by the end of a line. -/
def isListed (tag : Tag) : Bool :=
  tag.isEntry || tag.attribute? "role" = some (articleRole ++ ['\n'])

/-- Whether an entry is marked. -/
def isMarked (tag : Tag) : Bool := tag.attribute? "data-filtered" = some "true".toList

end Tag

namespace Site

/-- The words of an entry: those of its parts, each in a line of its own, or all of a news item. -/
def entryText (site : Site) : Text :=
  if site.tag.isNews then site.text
  else if site.tag.isPost then
    (site.select wordParts).flatMap fun part => '\n' :: part.spacedText
  else []

/-- The name of the author of a post. -/
def author? (site : Site) : Option Text :=
  if site.tag.isPost then (site.select authorName).head?.map fun name => name.text.trim else none

/-- The reason why a post is shown. -/
def updateReason? (site : Site) : Option Text :=
  let reason := (site.select headers).flatMap fun header => header.text.trim
  if site.tag.isPost && !reason.isEmpty then some reason else none

/-- The name in a link to a profile. -/
def profileName? (link : Site) : Option Text :=
  let name := link.text.trim
  if !name.isEmpty && ((link.tag.attribute? "href").getD []).containsText profileFragment then
    some name
  else none

/-- The name of whoever reacted to a post: that of the first profile in its head. -/
def reactor? (site : Site) : Option Text :=
  if site.tag.isPost then (site.select headerLinks).findSome? profileName? else none

/-- Whether the head of an entry says that it is suggested. -/
def isSuggested (site : Site) : Bool :=
  (site.select headers).any fun header => header.text.containsText suggestedMark

/-- Whether an entry has content credentials. -/
def hasCredentials (site : Site) : Bool := !(site.select credentialsMark).isEmpty

/-- An entry, as a filter sees it. -/
def entry (site : Site) : Entry :=
  .ofValues site.entryText site.reactor? site.isSuggested site.hasCredentials

end Site

/-- The colour of a banner and the place of its words. -/
def bannerStyle : Text := "background-color: #ff00ff; text-align: center".toList

/-- The border around a marked entry. -/
def border : Text := "border: #f0f 5px solid !important".toList

/-- The words on a banner. -/
def bannerText (reason : Option String) : Text :=
  match reason.filter fun reason => !reason.isEmpty with
  | some reason => "Matched: ".toList ++ reason.toList
  | none => "Matched".toList

/-- The banner of an entry. -/
def banner (key : Nat) (reason : Option String) : Node :=
  .element ⟨key, "div".toList, [("style".toList, bannerStyle)]⟩ [.text .plain (bannerText reason)]

/-- A style with the border of marked entries after what it says already. -/
def withBorder (style : Text) : Text :=
  match (style.trim.reverse.dropWhile (· = ';')).reverse with
  | [] => border
  | kept => kept ++ "; ".toList ++ border

/-- The tag of a marked entry. -/
def Tag.marked (tag : Tag) : Tag :=
  (tag.withAttribute "style" (withBorder ((tag.attribute? "style").getD []))).withAttribute
    "data-filtered" "true".toList

namespace Page

/-- The keys of the entries. -/
def entries (page : Page) : List Nat :=
  (page.sites.filter fun site => site.tag.isListed).map fun site => site.tag.key

/-- Marks an entry for a reason. -/
def highlight (page : Page) (key : Nat) (reason : Option String) : Page :=
  let marked := page.change key fun tag children =>
    .element tag.marked (banner page.nextKey reason :: children)
  { marked with nextKey := page.nextKey + 1 }

/-- An entry of a page. What is gone has neither words nor flags. -/
def view (page : Page) (key : Nat) : Entry :=
  match page.find? key with
  | some site => site.entry
  | none => ⟨.error .gone, .error .gone, false, false⟩

/-- The feed of a page; its entries are known by their keys. -/
def feed : Feed Page Nat where
  view := view
  isMarked page key := ((page.find? key).map fun site => site.tag.isMarked).getD false
  hide := destroy
  highlight page key reason :=
    match page.find? key with
    | some _ => (page.highlight key reason, .ok ())
    | none => (page, .error .gone)

end Page

end FeedFilter.Html
