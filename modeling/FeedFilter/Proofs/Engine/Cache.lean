/-
**What a cache of compiled patterns holds.**

A cache keeps the pattern compiled last. Whatever it was asked for before, asking it for a text
gives what compiling the text gives, up to the number of the compilation.

* `Cache.Tracks`: a cache that belongs to the text compiled last.
* `get_of_held`, `get_of_compiled`, `get_of_breakdown`: the three things that asking a cache can do.
* `Tracks.get_held`: asking a cache gives what compiling gives.
* `Tracks.get_cache`: a cache that was asked for a text belongs to what was compiled last now.
-/

import FeedFilter.Engine

namespace FeedFilter

namespace Document

/-- Whether a text can be compiled. -/
def compiles (text : Text) : Bool := (compile text).isOk

theorem compiles_of_ok {text : Text} {outline : Outline} (compiled : compile text = .ok outline) :
    compiles text = true := by
  unfold compiles
  rw [compiled]
  rfl

theorem compiles_of_error {text : Text} {breakdown : Regex.Breakdown}
    (failed : compile text = .error breakdown) : compiles text = false := by
  unfold compiles
  rw [failed]
  rfl

end Document

/-- A compiled pattern without the number of its compilation. -/
def Held.unstamped (held : Held) : Held := { held with stamp := 0 }

namespace Cache

/-- The text that is compiled last once a text has been asked for. -/
def lastAfter (last : Option Text) (source : Text) : Option Text :=
  if Document.compiles source then some source else last

/-- Whether asking for a text gives a new pattern. -/
def renews (last : Option Text) (source : Text) : Bool :=
  Document.compiles source && last != some source

/-- What is said of a cache in which `last` was compiled last, after a number of compilations. -/
structure Tracks (cache : Cache) (last : Option Text) (count : Nat) : Prop where
  compilations : cache.compilations = count
  source : cache.held.map Held.source = last
  compiled : ∀ held, cache.held = some held →
    ∃ outline, Document.compile held.source = .ok outline ∧ held.root = outline.root
  stamp : ∀ held, cache.held = some held → held.stamp + 1 = count

theorem empty_tracks : empty.Tracks none 0 where
  compilations := rfl
  source := rfl
  compiled := fun _ found => nomatch found
  stamp := fun _ found => nomatch found

/-! ### Asking a cache -/

variable {cache : Cache} {source : Text}

theorem find?_of_ne (other : cache.held.map Held.source ≠ some source) :
    cache.find? source = none := by
  unfold find?
  cases kept : cache.held with
  | none => rfl
  | some held =>
    rw [kept, Option.map_some] at other
    rw [Option.filter_some, if_neg]
    intro same
    exact other (congrArg some (of_decide_eq_true same))

/-- The text that is kept is not compiled again. -/
theorem get_of_held {held : Held} (kept : cache.held = some held) (same : held.source = source) :
    cache.get source = ⟨cache, [], .ok held⟩ := by
  have found : cache.find? source = some held := by
    unfold find?
    rw [kept, Option.filter_some, if_pos (decide_eq_true same)]
  unfold get
  rw [found]

/-- Another text is compiled and kept. -/
theorem get_of_compiled {outline : Outline} (other : cache.held.map Held.source ≠ some source)
    (compiled : Document.compile source = .ok outline) :
    cache.get source
      = ⟨⟨some ⟨source, outline.root, cache.compilations⟩, cache.compilations + 1⟩,
          record source :: outline.ignored.map Ignored.record,
          .ok ⟨source, outline.root, cache.compilations⟩⟩ := by
  unfold get
  rw [find?_of_ne other, compiled]

/-- A text that cannot be compiled leaves the cache as it was. -/
theorem get_of_breakdown {breakdown : Regex.Breakdown}
    (other : cache.held.map Held.source ≠ some source)
    (failed : Document.compile source = .error breakdown) :
    cache.get source
      = ⟨cache, record source
            :: (Document.ignoredOf (Document.directiveLines source)).map Ignored.record,
          .error breakdown⟩ := by
  unfold get
  rw [find?_of_ne other, failed]

variable {last : Option Text} {count : Nat}

/-- What asking a cache can do: the text is kept already, or it is compiled, or it cannot be. -/
theorem Tracks.get_cases (tracks : cache.Tracks last count) (source : Text) :
    (∃ held outline, cache.held = some held ∧ last = some source
        ∧ Document.compile source = .ok outline ∧ held.unstamped = ⟨source, outline.root, 0⟩
        ∧ cache.get source = ⟨cache, [], .ok held⟩)
      ∨ (∃ outline, last ≠ some source ∧ Document.compile source = .ok outline
        ∧ cache.get source
          = ⟨⟨some ⟨source, outline.root, count⟩, count + 1⟩,
              record source :: outline.ignored.map Ignored.record,
              .ok ⟨source, outline.root, count⟩⟩)
      ∨ ∃ breakdown, last ≠ some source ∧ Document.compile source = .error breakdown
        ∧ cache.get source
          = ⟨cache, record source
                :: (Document.ignoredOf (Document.directiveLines source)).map Ignored.record,
              .error breakdown⟩ := by
  obtain ⟨rfl, rfl, compiled, _⟩ := tracks
  by_cases same : cache.held.map Held.source = some source
  · left
    obtain ⟨held, kept, rfl⟩ := Option.map_eq_some_iff.mp same
    obtain ⟨outline, ok, root⟩ := compiled held kept
    refine ⟨held, outline, kept, same, ok, ?_, get_of_held kept rfl⟩
    unfold Held.unstamped
    rw [root]
  · right
    cases outcome : Document.compile source with
    | ok outline => exact .inl ⟨outline, same, rfl, get_of_compiled same outcome⟩
    | error breakdown => exact .inr ⟨breakdown, same, rfl, get_of_breakdown same outcome⟩

/-- **Asking a cache gives what compiling gives**, whatever the cache was asked for before. -/
theorem Tracks.get_held (tracks : cache.Tracks last count) (source : Text) :
    (cache.get source).held.map Held.unstamped
      = (Document.compile source).map fun outline => ⟨source, outline.root, 0⟩ := by
  obtain ⟨held, outline, -, -, compiled, unstamped, asked⟩ | ⟨outline, -, compiled, asked⟩
    | ⟨breakdown, -, failed, asked⟩ := tracks.get_cases source
  · rw [asked, compiled]
    exact congrArg Except.ok unstamped
  · rw [asked, compiled]
    rfl
  · rw [asked, failed]
    rfl

/-- **A cache keeps up with what was compiled last.** -/
theorem Tracks.get_cache (tracks : cache.Tracks last count) (source : Text) :
    (cache.get source).cache.Tracks (lastAfter last source)
      (count + (renews last source).toNat) := by
  unfold lastAfter renews
  obtain ⟨held, outline, -, same, compiled, -, asked⟩ | ⟨outline, other, compiled, asked⟩
    | ⟨breakdown, other, failed, asked⟩ := tracks.get_cases source
  · rw [asked, Document.compiles_of_ok compiled, same, bne_self_eq_false, if_pos rfl, ← same]
    exact tracks
  · rw [asked, Document.compiles_of_ok compiled, bne_iff_ne.mpr other, if_pos rfl]
    refine ⟨rfl, rfl, ?_, ?_⟩
    · rintro held ⟨⟩
      exact ⟨outline, compiled, rfl⟩
    · rintro held ⟨⟩
      rfl
  · rw [asked, Document.compiles_of_error failed, Bool.false_and, if_neg Bool.false_ne_true]
    exact tracks

/-- A text that cannot be compiled leaves the cache as it was. -/
theorem Tracks.get_cache_of_not_compiles (tracks : cache.Tracks last count)
    (failing : Document.compiles source = false) : (cache.get source).cache = cache := by
  obtain ⟨held, outline, -, -, -, -, asked⟩ | ⟨outline, -, compiled, asked⟩
    | ⟨breakdown, -, -, asked⟩ := tracks.get_cases source
  · rw [asked]
  · rw [Document.compiles_of_ok compiled] at failing
    cases failing
  · rw [asked]

/-- **A new pattern has a new number**, and the cache holds it. -/
theorem Tracks.get_held_of_renews (tracks : cache.Tracks last count)
    (renewed : renews last source = true) :
    ∃ outline, Document.compile source = .ok outline
      ∧ (cache.get source).held = .ok ⟨source, outline.root, count⟩
      ∧ (cache.get source).cache.held = some ⟨source, outline.root, count⟩ := by
  rw [renews, Bool.and_eq_true, bne_iff_ne] at renewed
  obtain ⟨held, outline, -, same, -, -, -⟩ | ⟨outline, -, compiled, asked⟩
    | ⟨breakdown, -, failed, -⟩ := tracks.get_cases source
  · exact absurd same renewed.2
  · exact ⟨outline, compiled, by rw [asked], by rw [asked]⟩
  · rw [Document.compiles_of_error failed] at renewed
    cases renewed.1

/-- A pattern that was asked for is held afterwards. -/
theorem Tracks.get_cache_held (tracks : cache.Tracks last count) {held : Held}
    (found : (cache.get source).held = .ok held) : (cache.get source).cache.held = some held := by
  obtain ⟨kept, outline, inside, -, -, -, asked⟩ | ⟨outline, -, compiled, asked⟩
    | ⟨breakdown, -, -, asked⟩ := tracks.get_cases source
  · rw [asked] at found ⊢
    cases found
    exact inside
  · rw [asked] at found ⊢
    cases found
    rfl
  · rw [asked] at found
    cases found

/-- Of the records about a compilation only the first one is written by the cache itself. -/
theorem filter_record (source : Text) (ignored : List Ignored) :
    ((record source :: ignored.map Ignored.record).filter fun entry => entry.origin = .engine)
      = [record source] := by
  have others : ((ignored.map Ignored.record).filter fun entry => entry.origin = .engine) = [] := by
    rw [List.filter_eq_nil_iff]
    intro entry member
    obtain ⟨one, _, rfl⟩ := List.mem_map.mp member
    exact Bool.false_ne_true
  have own : decide ((record source).origin = .engine) = true := rfl
  rw [List.filter_cons, if_pos own, others]

/-- A cache tells that it compiles, just where the text is not the one compiled last. -/
theorem Tracks.get_log (tracks : cache.Tracks last count) (source : Text) :
    ((cache.get source).log.filter fun entry => entry.origin = .engine)
      = if last = some source then [] else [record source] := by
  obtain ⟨held, outline, -, same, -, -, asked⟩ | ⟨outline, other, -, asked⟩
    | ⟨breakdown, other, -, asked⟩ := tracks.get_cases source
  · rw [asked, if_pos same]
    rfl
  · rw [asked, if_neg other]
    exact filter_record source outline.ignored
  · rw [asked, if_neg other]
    exact filter_record source _

end Cache

end FeedFilter
