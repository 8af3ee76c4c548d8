/-
# Addresses on a site

A site is a server that is named by its host and its port alone. Every path that is
asked for there begins with a slash, so the path cannot reach into the host: the
address is on the site, and what stands behind the slash is cleaned and cut into
segments apart from the rest.

Key definitions: `Site`, `Site.address`, `Site.below`, `Setup.site?`.
Key theorems: `Setup.parse_address`, `UrlPath.segments_join`,
`UrlPath.not_slash_of_mem_segments`.
-/
import Mathlib.Data.List.TakeWhile
import ProxyConsole.Proofs.Percent
import ProxyConsole.Proofs.Plain

namespace ProxyConsole

/-- A server without encryption that is named by a host and a port. -/
structure Site where
  host : Host
  port : Option Nat
  deriving DecidableEq, Repr

/-! ### Hosts and ports -/

/-- A host of the web is not empty. -/
theorem Host.parse_ne_empty (cs : List Char) : Host.parse true cs ≠ some (.name []) := by
  have hwords : ∀ ds, wide? ds ≠ some (.name []) := by
    intro ds h
    unfold wide? at h
    split at h
    · simp only [bind, Option.bind_eq_some_iff] at h
      obtain ⟨ws, -, h⟩ := h
      split at h <;> cases h
    · simp only [bind] at h
      split at h
      · cases h
      · obtain ⟨ls, -, h⟩ := Option.bind_eq_some_iff.mp h
        obtain ⟨rs, -, h⟩ := Option.bind_eq_some_iff.mp h
        split at h <;> cases h
  intro h
  unfold parse at h
  split at h
  · split at h
    · exact hwords _ h
    · cases h
  · simp only [↓reduceIte, ofName?, bind, Option.bind_eq_some_iff] at h
    obtain ⟨decoded, -, name, -, h⟩ := h
    split at h
    · cases h
    · next hn =>
      split at h
      · unfold bytes? at h
        obtain ⟨n, -, h⟩ := Option.map_eq_some_iff.mp h
        cases h
      · cases h
        exact hn (Or.inl rfl)

namespace Url

/-- A character that may stand in a host with a port. -/
def inPlace (c : Char) : Bool :=
  !isSlash true c && c != '?' && c != '#' && c != '@'

/-- The host and the port that a text names; the usual port is none. -/
def place? (scheme cs : List Char) : Option (Host × Option Nat) := do
  let (hostText, portText) := cutPort false cs
  if hostText.isEmpty then none
  else
    let host ← Host.parse true hostText
    let port ← port? (portText.getD [])
    return (host, if port = usualPort scheme then none else port)

theorem host_of_place? {scheme cs : List Char} {host : Host} {port : Option Nat}
    (h : place? scheme cs = some (host, port)) : host ≠ .name [] := by
  unfold place? at h
  dsimp only at h
  split at h
  · cases h
  · simp only [bind, Option.bind_eq_some_iff, pure, Option.some.injEq, Prod.mk.injEq] at h
    obtain ⟨_, hhost, _, -, rfl, -⟩ := h
    rintro rfl
    exact Host.parse_ne_empty _ hhost

theorem mem_of_mem_cutPort {x : Char} : ∀ {cs : List Char} {inside : Bool} {digits : List Char},
    (cutPort inside cs).2 = some digits → x ∈ digits → x ∈ cs
  | [], _, _, h, _ => by cases h
  | c :: cs, inside, digits, h, hx => by
    unfold cutPort at h
    split at h
    · cases h
      exact List.mem_cons_of_mem c hx
    · exact List.mem_cons_of_mem c (mem_of_mem_cutPort h hx)

theorem cutUser_of_not_mem {cs : List Char} (h : '@' ∉ cs) : cutUser cs = (none, cs) := by
  have hd : cs.reverse.dropWhile (fun c : Char => decide (c ≠ '@')) = [] := by
    rw [List.dropWhile_eq_nil_iff]
    intro x hx
    have hne : x ≠ '@' := fun he => h (he ▸ List.mem_reverse.mp hx)
    exact decide_eq_true hne
  unfold cutUser
  rw [hd]

/-- A host and a port end where the path begins. -/
theorem withHost_slash {scheme place : List Char} (h : ∀ c ∈ place, inPlace c = true)
    (tail : List Char) : withHost true scheme (place ++ '/' :: tail) =
      (place? scheme place).map fun p => assemble true scheme none (some p.1) p.2 ('/' :: tail) := by
  have hend : ∀ c ∈ place, (!(isSlash true c || c == '?' || c == '#')) = true := by
    intro c hc
    have hi := h c hc
    simp only [inPlace, Bool.and_eq_true, Bool.not_eq_true', bne_iff_ne, ne_eq] at hi
    simp only [hi.1.1.1, Bool.false_or, Bool.not_eq_true', Bool.or_eq_false_iff, beq_eq_false_iff_ne,
      ne_eq]
    exact ⟨hi.1.1.2, hi.1.2⟩
  have hat : '@' ∉ place := fun hm => absurd (h _ hm) (by decide)
  have hback : '\\' ∉ place := fun hm => absurd (h _ hm) (by decide)
  have htake : (place ++ '/' :: tail).takeWhile
      (fun c : Char => !(isSlash true c || c == '?' || c == '#')) = place := by
    rw [List.takeWhile_append_of_pos hend, List.takeWhile_cons_of_neg (by decide), List.append_nil]
  have hdrop : (place ++ '/' :: tail).dropWhile
      (fun c : Char => !(isSlash true c || c == '?' || c == '#')) = '/' :: tail := by
    rw [List.dropWhile_append_of_pos hend, List.dropWhile_cons_of_neg (by decide)]
  have hdigits : ∀ c ∈ (cutPort false place).2.getD [], decide (c ≠ '\\') = true := by
    intro c hc
    cases hp : (cutPort false place).2 with
    | none =>
      rw [hp] at hc
      cases hc
    | some digits =>
      rw [hp] at hc
      have hm : c ∈ place := mem_of_mem_cutPort hp hc
      exact decide_eq_true fun he => hback (he ▸ hm)
  unfold withHost place?
  simp only [htake, hdrop, cutUser_of_not_mem hat, Option.bind_none]
  simp only [List.takeWhile_eq_self_iff.mpr hdigits, List.dropWhile_eq_nil_iff.mpr hdigits,
    List.nil_append]
  by_cases he : (cutPort false place).1.isEmpty = true
  · rw [if_pos ⟨he, Or.inl trivial⟩, if_pos he]
    rfl
  · rw [if_neg fun hc => he hc.1, if_neg he]
    cases Host.parse true (cutPort false place).1 with
    | none => rfl
    | some host =>
      cases port? ((cutPort false place).2.getD []) with
      | none => rfl
      | some port => rfl

/-- The scheme in front of an address is followed by what follows it on the site. -/
theorem scheme?_slash {front rest scheme : List Char} (h : scheme? front = some (scheme, rest))
    (tail : List Char) : scheme? (front ++ '/' :: tail) = some (scheme, rest ++ '/' :: tail) := by
  have hc : isSchemePart '/' = false := by decide
  rw [scheme?_def] at h ⊢
  rw [Text.takeWhile_stop isSchemePart '/' hc, Text.dropWhile_stop isSchemePart '/' hc]
  split at h
  · next a s r ht hd =>
    rw [ht, hd]
    simp only [List.cons_append]
    split at h
    · next ha =>
      cases h
      rw [if_pos ha]
    · cases h
  · cases h

theorem place?_nil (scheme : List Char) : place? scheme [] = none := rfl

/-- What stands in front of a slash and behind it is cleaned apart from each other. -/
theorem cleanBack_slash (front back : List Char) :
    cleanBack (front ++ '/' :: back) = front.filter isKept ++ '/' :: cleanBack back := by
  unfold cleanBack
  rw [Text.reverse_dropWhile_stop isEdge '/' (by decide), List.filter_append,
    List.filter_cons_of_pos (by decide)]

/-- Where no blanks and control characters stand, nothing is cleaned away. -/
theorem cleanBack_eq_self {cs : List Char} (h : ∀ x ∈ cs, isEdge x = false) : cleanBack cs = cs := by
  have hd : cs.reverse.dropWhile isEdge = cs.reverse := by
    cases hr : cs.reverse with
    | nil => rfl
    | cons x xs =>
      have hx : x ∈ cs := List.mem_reverse.mp (hr ▸ List.mem_cons_self)
      exact List.dropWhile_cons_of_neg (by simp [h x hx])
  rw [cleanBack, hd, List.reverse_reverse, List.filter_eq_self]
  intro x hx
  have hne : ∀ y, isEdge y = true → x ≠ y := by
    rintro y hy rfl
    rw [h x hx] at hy
    cases hy
  exact decide_eq_true ⟨hne _ (by decide), hne _ (by decide), hne _ (by decide)⟩

theorem cleanBack_sublist (cs : List Char) : (cleanBack cs).Sublist cs := by
  have hd := (List.dropWhile_suffix (l := cs.reverse) isEdge).sublist.reverse
  rw [List.reverse_reverse] at hd
  exact List.filter_sublist.trans hd

end Url

/-- The site that the server is, if it is named by a host and a port alone. -/
def Setup.site? (c : Setup) : Option Site := do
  let (scheme, rest) ← Url.scheme? (Url.cleanFront c.base.toList)
  let place := rest.dropWhile (Url.isSlash true)
  if scheme = "http".toList ∧ place.all Url.inPlace then
    (Url.place? scheme place).map fun p => ⟨p.1, p.2⟩
  else none

namespace Site

/-- The address on a site with what stands behind the host and the port. -/
def address (site : Site) (tail : List Char) : Url :=
  Url.assemble true "http".toList none (some site.host) site.port tail

/-- The address of a path on a site, without a query and a fragment. -/
def below (site : Site) (segments : List (List Char)) : Url where
  scheme := "http".toList
  user := none
  host := some site.host
  port := site.port
  path := .rooted segments
  query := none
  fragment := none

/-- The text of a site. -/
def text (site : Site) : String :=
  String.ofList ("http://".toList ++ site.host.text ++ match site.port with
    | some n => ':' :: Decimal.text n
    | none => [])

end Site

namespace Setup

theorem site?_eq_some {c : Setup} {site : Site} (h : c.site? = some site) :
    ∃ rest, Url.scheme? (Url.cleanFront c.base.toList) = some ("http".toList, rest) ∧
      (∀ x ∈ rest.dropWhile (Url.isSlash true), Url.inPlace x = true) ∧
      Url.place? "http".toList (rest.dropWhile (Url.isSlash true)) = some (site.host, site.port) := by
  unfold site? at h
  simp only [bind, Option.bind_eq_some_iff, Prod.exists] at h
  obtain ⟨scheme, rest, hs, h⟩ := h
  split at h
  · next hp =>
    obtain ⟨he, hp⟩ := hp
    subst he
    simp only [Option.map_eq_some_iff, Prod.exists] at h
    obtain ⟨host, port, hm, hsite⟩ := h
    subst hsite
    exact ⟨rest, hs, List.all_eq_true.mp hp, hm⟩
  · cases h

theorem host_of_site? {c : Setup} {site : Site} (h : c.site? = some site) :
    site.host ≠ .name [] := by
  obtain ⟨rest, -, -, hp⟩ := site?_eq_some h
  exact Url.host_of_place? hp

/-- **A path that is asked for on a site stays on the site.** -/
theorem parse_address {c : Setup} {site : Site} (h : c.site? = some site) {path : String}
    {rest : List Char} (hp : path.toList = '/' :: rest) :
    Url.parse (c.address path) = some (site.address ('/' :: Url.cleanBack rest)) := by
  obtain ⟨back, hs, hplace, hm⟩ := site?_eq_some h
  have hne : back.dropWhile (Url.isSlash true) ≠ [] := by
    intro he
    rw [he, Url.place?_nil] at hm
    cases hm
  have hclean : Url.clean (c.address path).toList =
      Url.cleanFront c.base.toList ++ '/' :: Url.cleanBack rest := by
    rw [address, String.toList_append, hp, Url.clean_append (by decide) (by decide)]
  have hdrop : (back ++ '/' :: Url.cleanBack rest).dropWhile (Url.isSlash true) =
      back.dropWhile (Url.isSlash true) ++ '/' :: Url.cleanBack rest := by
    rw [List.dropWhile_append, if_neg (by simpa using hne)]
  have hport : (Url.usualPort "http".toList).isSome = true := by decide
  unfold Url.parse
  simp only [hclean, Url.scheme?_slash hs, bind, Option.bind_some, hport, ↓reduceIte, hdrop,
    Url.withHost_slash hplace, hm, Option.map_some]
  rfl

end Setup

/-! ### Paths on a site -/

namespace Text

theorem join_concat (sep : Char) : ∀ {ps : List (List Char)}, ps ≠ [] → ∀ p,
    join sep (ps ++ [p]) = join sep ps ++ sep :: p
  | [], h, _ => absurd rfl h
  | [_], _, _ => rfl
  | q :: r :: ps, _, p => by
    have ih : join sep (r :: (ps ++ [p])) = join sep (r :: ps) ++ sep :: p :=
      join_concat sep (List.cons_ne_nil r ps) p
    show q ++ sep :: join sep (r :: (ps ++ [p])) = (q ++ sep :: join sep (r :: ps)) ++ sep :: p
    rw [ih, List.append_assoc, List.cons_append]

/-- A joined text holds but the character between the pieces and those of the pieces. -/
theorem mem_of_mem_join {sep x : Char} : ∀ {ps : List (List Char)}, x ∈ join sep ps →
    x = sep ∨ ∃ p ∈ ps, x ∈ p
  | [p], h => Or.inr ⟨p, List.mem_singleton_self p, h⟩
  | p :: q :: ps, h => by
    rw [join, List.mem_append, List.mem_cons] at h
    rcases h with h | h | h
    · exact Or.inr ⟨p, List.mem_cons_self, h⟩
    · exact Or.inl h
    · rcases mem_of_mem_join h with he | ⟨r, hr, hx⟩
      · exact Or.inl he
      · exact Or.inr ⟨r, List.mem_cons_of_mem p hr, hx⟩
    · simp

end Text

namespace UrlPath

/-- A segment that stands for a place of its own is gone into. -/
theorem walk_cons {s : List Char} (hu : isUp s = false) (hh : isHere s = false)
    (done ss : List (List Char)) : walk done (s :: ss) = walk (s :: done) ss := by
  rw [walk]
  simp only [hu, hh, Bool.false_eq_true, ↓reduceIte, Bool.or_false, Bool.and_false]

theorem walk_append : ∀ {ss : List (List Char)}, (∀ s ∈ ss, isUp s = false ∧ isHere s = false) →
    ∀ done more, walk done (ss ++ more) = walk (ss.reverse ++ done) more
  | [], _, _, _ => rfl
  | s :: ss, h, done, more => by
    have hs := h s List.mem_cons_self
    have ih := walk_append (fun t ht => h t (List.mem_cons_of_mem s ht)) (s :: done) more
    rw [List.cons_append, walk_cons hs.1 hs.2, ih, List.reverse_cons, List.append_assoc,
      List.singleton_append]

/-- Segments without slashes of their own are found between slashes. -/
theorem segments_join {ps : List (List Char)} (hne : ps ≠ [])
    (h : ∀ p ∈ ps, '/' ∉ p ∧ '\\' ∉ p) :
    segments true ('/' :: Text.join '/' ps) = walk [] (ps.map (Percent.encode Percent.inPath)) := by
  have hsplit : Text.split '/' (Text.join '/' ps) = ps :=
    Text.split_join '/' ps hne fun p hp => (h p hp).1
  have hback : '\\' ∉ Text.join '/' ps := by
    intro hm
    rcases Text.mem_of_mem_join hm with he | ⟨p, hp, hm⟩
    · exact absurd he (by decide)
    · exact (h p hp).2 hm
  have hmap : ('/' :: Text.join '/' ps).map (fun c => if c = '\\' then '/' else c) =
      '/' :: Text.join '/' ps := by
    have hid : ∀ c ∈ '/' :: Text.join '/' ps, (if c = '\\' then '/' else c) = c := by
      intro c hc
      have hne : c ≠ '\\' := by
        rintro rfl
        rcases List.mem_cons.mp hc with he | hm
        · exact absurd he (by decide)
        · exact hback hm
      exact if_neg hne
    rw [List.map_congr_left hid, List.map_id']
  unfold segments
  simp only [↓reduceIte, hmap, hsplit]

theorem mem_above {t : List Char} : ∀ {done : List (List Char)}, t ∈ above done → t ∈ done
  | s :: done, h => by
    rw [above] at h
    split at h
    · exact h
    · exact List.mem_cons_of_mem s h

/-- Following segments finds but segments, those of the place where it began, and an
empty one. -/
theorem mem_walk {t : List Char} : ∀ {ss done : List (List Char)}, t ∈ walk done ss →
    t ∈ done ∨ t ∈ ss ∨ t = []
  | [], _, h => Or.inl (List.mem_reverse.mp h)
  | s :: ss, done, h => by
    have hdone : t ∈ (if isUp s then above done else if isHere s then done else s :: done) →
        t ∈ done ∨ t = s := by
      intro h
      split at h
      · exact Or.inl (mem_above h)
      · split at h
        · exact Or.inl h
        · exact (List.mem_cons.mp h).symm
    rw [walk] at h
    split at h
    · rcases List.mem_cons.mp (List.mem_reverse.mp h) with he | h
      · exact Or.inr (Or.inr he)
      · rcases hdone h with h | he
        · exact Or.inl h
        · exact Or.inr (Or.inl (he ▸ List.mem_cons_self))
    · rcases mem_walk h with h | h | he
      · rcases hdone h with h | he
        · exact Or.inl h
        · exact Or.inr (Or.inl (he ▸ List.mem_cons_self))
      · exact Or.inr (Or.inl (List.mem_cons_of_mem s h))
      · exact Or.inr (Or.inr he)

theorem not_slash_of_mem_walk {cs t : List Char} (hb : '\\' ∉ cs)
    (h : t ∈ walk [] ((Text.split '/' cs).map (Percent.encode Percent.inPath))) :
    '/' ∉ t ∧ '\\' ∉ t := by
  rcases mem_walk h with h | h | he
  · cases h
  · obtain ⟨p, hp, he⟩ := List.mem_map.mp h
    have hslash : '/' ∉ p := Text.not_mem_of_mem_split '/' cs p hp
    have hback : '\\' ∉ p := fun hm => hb (Text.mem_of_mem_split hp hm)
    rw [← he]
    exact ⟨Percent.not_mem_encode (by decide) (by decide) hslash,
      Percent.not_mem_encode (by decide) (by decide) hback⟩
  · subst he
    exact ⟨List.not_mem_nil, List.not_mem_nil⟩

/-- No segment of a path on the web holds a slash. -/
theorem not_slash_of_mem_segments {cs t : List Char} (h : t ∈ segments true cs) :
    '/' ∉ t ∧ '\\' ∉ t := by
  have hback : '\\' ∉ cs.map fun c => if c = '\\' then '/' else c := by
    intro hm
    obtain ⟨c, -, he⟩ := List.mem_map.mp hm
    split at he
    · exact absurd he (by decide)
    · next hne => exact hne he
  unfold segments at h
  simp only [↓reduceIte] at h
  split at h
  · next r hr =>
    rw [hr] at hback
    exact not_slash_of_mem_walk (fun hm => hback (List.mem_cons_of_mem _ hm)) h
  · exact not_slash_of_mem_walk hback h

end UrlPath

/-! ### Queries and fragments -/

namespace Url

theorem sections_of_not_mem {cs : List Char} (hh : '#' ∉ cs) (hq : '?' ∉ cs) :
    sections cs = (cs, none, none) := by
  have hash : ∀ c ∈ cs, decide (c ≠ '#') = true := fun c hc => decide_eq_true fun he => hh (he ▸ hc)
  have mark : ∀ c ∈ cs, decide (c ≠ '?') = true := fun c hc => decide_eq_true fun he => hq (he ▸ hc)
  unfold sections
  simp only [List.takeWhile_eq_self_iff.mpr hash, List.dropWhile_eq_nil_iff.mpr hash,
    List.takeWhile_eq_self_iff.mpr mark, List.dropWhile_eq_nil_iff.mpr mark]

/-- Without a query and a fragment nothing was cut off. -/
theorem not_mem_of_sections {cs : List Char} (hq : (sections cs).2.1 = none)
    (hf : (sections cs).2.2 = none) : '#' ∉ cs ∧ '?' ∉ cs := by
  have hash : cs.dropWhile (fun c => decide (c ≠ '#')) = [] := by
    unfold sections at hf
    dsimp only at hf
    split at hf
    · assumption
    · cases hf
  have hhead : cs.takeWhile (fun c => decide (c ≠ '#')) = cs :=
    List.takeWhile_eq_self_iff.mpr (List.dropWhile_eq_nil_iff.mp hash)
  have mark : cs.dropWhile (fun c => decide (c ≠ '?')) = [] := by
    unfold sections at hq
    dsimp only at hq
    rw [hhead] at hq
    split at hq
    · assumption
    · cases hq
  refine ⟨fun hm => ?_, fun hm => ?_⟩
  · exact of_decide_eq_true (List.dropWhile_eq_nil_iff.mp hash _ hm) rfl
  · exact of_decide_eq_true (List.dropWhile_eq_nil_iff.mp mark _ hm) rfl

end Url

namespace Site

/-- An address on a site is one of a path alone when nothing begins a query or a
fragment. -/
theorem address_eq_below {site : Site} {tail : List Char} {ss : List (List Char)} :
    site.address tail = site.below ss ↔
      '#' ∉ tail ∧ '?' ∉ tail ∧ UrlPath.segments true tail = ss := by
  unfold address Url.assemble below
  simp only [Bool.not_true, Bool.false_and, Bool.false_eq_true, ↓reduceIte, Url.mk.injEq,
    UrlPath.rooted.injEq, Option.map_eq_none_iff, true_and]
  refine ⟨fun ⟨hp, hq, hf⟩ => ?_, fun ⟨hh, hq, hs⟩ => ?_⟩
  · obtain ⟨hash, mark⟩ := Url.not_mem_of_sections hq hf
    rw [Url.sections_of_not_mem hash mark] at hp
    exact ⟨hash, mark, hp⟩
  · rw [Url.sections_of_not_mem hh hq]
    exact ⟨hs, rfl, rfl⟩

theorem text_below (site : Site) (ss : List (List Char)) :
    (site.below ss).text = site.text ++ String.ofList (UrlPath.text (.rooted ss)) := by
  have hfront : String.ofList (site.below ss).frontText = site.text := rfl
  have htext : (site.below ss).text =
      String.ofList ((site.below ss).frontText ++ UrlPath.text (.rooted ss) ++ [] ++ []) := rfl
  rw [htext, List.append_nil, List.append_nil, String.ofList_append, hfront]

end Site

end ProxyConsole
