/-
# Ids and the addresses of their entities

On a site every id has an address of its own below its collection. What is asked for
goes there exactly when the id is a segment: when it holds no slash, question mark or
hash, when nothing is cleaned away from it, and when it is none of dots. Any other id
leads to another place: `r-1#x` to the entity `r-1`, `..` out of the collection.

Key definitions: `Entity.IsSegment`, `Site.item`, `Collection.Use.id?`,
`Collection.ItemsApart`.
Key theorems: `Setup.parse_itemPath_iff`, `Collection.arrivals_use`,
`Collection.items_apart`.
-/
import ProxyConsole.Proofs.Bearer
import ProxyConsole.Proofs.Site

namespace ProxyConsole

/-! ### Collections in the path of an address -/

/-- A character of a name, which stands in a path as it is and makes no dots. -/
def UrlPath.isPart (x : Char) : Bool :=
  Percent.inPath x && !"%./\\".toList.contains x

namespace Entity

variable (E : Type) [Entity E]

/-- The names in the path of the collection. -/
def names : List (List Char) :=
  (Text.split '/' (collection E).toList).drop 1

/-- The path of the collection is names of plain characters behind slashes. -/
structure IsNamed : Prop where
  path : (collection E).toList = '/' :: Text.join '/' (names E)
  names_ne : names E ≠ []
  plain : ∀ n ∈ names E, n.all UrlPath.isPart = true

theorem isNamed_record : IsNamed Record := ⟨by decide, by decide, by decide⟩

theorem isNamed_user : IsNamed User := ⟨by decide, by decide, by decide⟩

/-- An id is a segment of a path: it is not empty, nothing in it ends a segment, nothing
is cleaned away from it, and it stands for no other place. -/
structure IsSegment (cs : List Char) : Prop where
  ne_nil : cs ≠ []
  not_mem : ∀ x ∈ ['/', '\\', '?', '#'], x ∉ cs
  clean : Url.cleanBack cs = cs
  not_up : UrlPath.isUp cs = false
  not_here : UrlPath.isHere cs = false

end Entity

/-- The address of the entity with an id. -/
def Site.item (E : Type) [Entity E] (site : Site) (id : String) : Url :=
  site.below (Entity.names E ++ [Percent.encode Percent.inPath id.toList])

/-! ### Names -/

namespace UrlPath

theorem dots_of_not_mem : ∀ {cs : List Char}, '%' ∉ cs → dots cs = cs
  | [], _ => rfl
  | c :: cs, h => by
    rw [List.mem_cons, not_or] at h
    rw [dots_cons_of_ne (Ne.symm h.1), dots_of_not_mem h.2]

/-- A name stands in a path as it is. -/
structure IsName (n : List Char) : Prop where
  encode : Percent.encode Percent.inPath n = n
  not_up : isUp n = false
  not_here : isHere n = false
  not_mem : ∀ x ∈ ['/', '\\', '?', '#'], x ∉ n
  kept : ∀ x ∈ n, Url.isKept x = true

theorem isName_of_isPart {n : List Char} (hn : n.all isPart = true) : IsName n := by
  have h : ∀ x ∈ n, isPart x = true := List.all_eq_true.mp hn
  have hne : ∀ x, isPart x = false → x ∉ n := by
    intro x hx hm
    rw [h x hm] at hx
    cases hx
  have hd : dots n = n := dots_of_not_mem (hne '%' (by decide))
  refine ⟨Percent.encode_eq_self fun x hx => (Bool.and_eq_true_iff.mp (h x hx)).1, ?_, ?_, ?_, ?_⟩
  · rw [isUp, hd, beq_eq_false_iff_ne]
    rintro rfl
    exact hne '.' (by decide) List.mem_cons_self
  · rw [isHere, hd, beq_eq_false_iff_ne]
    rintro rfl
    exact hne '.' (by decide) List.mem_cons_self
  · intro x hx
    have hnone : (['/', '\\', '?', '#'].all fun y => !isPart y) = true := by decide
    exact hne x (by simpa using List.all_eq_true.mp hnone x hx)
  · intro x hx
    have hblank : ∀ y, isPart y = false → x ≠ y := by
      rintro y hy rfl
      exact hne x hy hx
    exact decide_eq_true ⟨hblank _ (by decide), hblank _ (by decide), hblank _ (by decide)⟩

end UrlPath

theorem Entity.IsNamed.isName {E : Type} [Entity E] (hE : IsNamed E) :
    ∀ n ∈ names E, UrlPath.IsName n :=
  fun n hn => UrlPath.isName_of_isPart (hE.plain n hn)

/-! ### Where an id leads -/

namespace UrlPath

theorem walk_singleton (s : List Char) (done : List (List Char)) :
    walk done [s] = if isUp s then ([] :: above done).reverse
      else if isHere s then ([] :: done).reverse else (s :: done).reverse := by
  rw [walk]
  by_cases hu : isUp s = true
  · simp only [hu, ↓reduceIte, List.isEmpty_nil, Bool.true_or, Bool.and_true]
  · by_cases hh : isHere s = true
    · simp only [hu, hh, ↓reduceIte, List.isEmpty_nil, Bool.or_true, Bool.and_true,
        Bool.false_eq_true]
    · simp only [hu, hh, ↓reduceIte, List.isEmpty_nil, Bool.or_self, Bool.and_false,
        Bool.false_eq_true, walk]

/-- Behind names a last segment without slashes is followed as it is. -/
theorem segments_item {names : List (List Char)} {cs : List Char}
    (hn : ∀ n ∈ names, IsName n) (hs : '/' ∉ cs) (hb : '\\' ∉ cs) :
    segments true ('/' :: Text.join '/' (names ++ [cs])) =
      walk names.reverse [Percent.encode Percent.inPath cs] := by
  have hslash : ∀ p ∈ names ++ [cs], '/' ∉ p ∧ '\\' ∉ p := by
    intro p hp
    rcases List.mem_append.mp hp with hp | hp
    · exact ⟨(hn p hp).not_mem _ (by decide), (hn p hp).not_mem _ (by decide)⟩
    · rw [List.mem_singleton] at hp
      exact hp ▸ ⟨hs, hb⟩
  have hself : names.map (Percent.encode Percent.inPath) = names := by
    rw [List.map_congr_left fun n h => (hn n h).encode, List.map_id']
  rw [segments_join (by simp) hslash, List.map_append, hself, walk_append, List.append_nil]
  · rfl
  · exact fun n h => ⟨(hn n h).not_up, (hn n h).not_here⟩

/-- What begins a query or a fragment stands in the path only where it stands in the last
segment. -/
theorem mem_item_iff {names : List (List Char)} {cs : List Char} (hn : ∀ n ∈ names, IsName n)
    {x : Char} (hx : x ∈ ['?', '#']) : x ∈ '/' :: Text.join '/' (names ++ [cs]) ↔ x ∈ cs := by
  have hall : x ∈ ['/', '\\', '?', '#'] := List.mem_cons_of_mem _ (List.mem_cons_of_mem _ hx)
  have hslash : x ≠ '/' := by
    rintro rfl
    revert hx
    decide
  refine ⟨fun hm => ?_, fun hm => ?_⟩
  · rcases List.mem_cons.mp hm with he | hm
    · exact absurd he hslash
    · rcases Text.mem_of_mem_join hm with he | ⟨p, hp, hxp⟩
      · exact absurd he hslash
      · rcases List.mem_append.mp hp with hp | hp
        · exact absurd hxp ((hn p hp).not_mem x hall)
        · exact List.mem_singleton.mp hp ▸ hxp
  · exact List.mem_cons_of_mem _ (Text.mem_join_of_mem '/' _ (by simp) hm)

/-- An id is followed to its own segment exactly when it is one. -/
theorem walk_item_iff {names : List (List Char)} {cs ds : List Char} (hsub : ds.Sublist cs)
    (hne : cs ≠ []) :
    walk names.reverse [Percent.encode Percent.inPath ds] =
        names ++ [Percent.encode Percent.inPath cs] ↔
      ds = cs ∧ isUp cs = false ∧ isHere cs = false := by
  have hempty : Percent.encode Percent.inPath cs ≠ [] := by
    intro he
    exact hne (Percent.eq_of_encode List.not_mem_nil he)
  have hlast : ∀ done : List (List Char),
      ([] :: done).reverse ≠ names ++ [Percent.encode Percent.inPath cs] := by
    intro done he
    rw [List.reverse_cons] at he
    have hl := List.append_inj_right' he rfl
    exact hempty (List.singleton_inj.mp hl).symm
  rw [walk_singleton, isUp_encode, isHere_encode]
  refine ⟨fun hw => ?_, fun ⟨he, hu, hh⟩ => ?_⟩
  · split at hw
    · exact absurd hw (hlast _)
    · next hu =>
      split at hw
      · exact absurd hw (hlast _)
      · next hh =>
        rw [List.reverse_cons, List.reverse_reverse] at hw
        have he := List.singleton_inj.mp (List.append_inj_right' hw rfl)
        have hd : ds = cs := Percent.eq_of_sublist_of_encode hsub he
        subst hd
        exact ⟨rfl, by simpa using hu, by simpa using hh⟩
  · subst he
    rw [if_neg (by simp [hu]), if_neg (by simp [hh]), List.reverse_cons, List.reverse_reverse]

end UrlPath

/-- **When an id has an address of its own.** -/
theorem Site.address_item_iff (site : Site) {names : List (List Char)} {cs : List Char}
    (hn : ∀ n ∈ names, UrlPath.IsName n) (hne : cs ≠ []) :
    site.address ('/' :: Text.join '/' (names ++ [Url.cleanBack cs])) =
        site.below (names ++ [Percent.encode Percent.inPath cs]) ↔ Entity.IsSegment cs := by
  have hsub : (Url.cleanBack cs).Sublist cs := Url.cleanBack_sublist cs
  rw [address_eq_below, UrlPath.mem_item_iff hn (by decide), UrlPath.mem_item_iff hn (by decide)]
  refine ⟨fun ⟨hhash, hmark, hp⟩ => ?_, fun hseg => ?_⟩
  · -- no segment of the address holds a slash, so there is none in the id
    have hmem : Percent.encode Percent.inPath cs ∈
        UrlPath.segments true ('/' :: Text.join '/' (names ++ [Url.cleanBack cs])) := by
      rw [hp]
      simp
    obtain ⟨hs, hb⟩ := UrlPath.not_slash_of_mem_segments hmem
    have hs : '/' ∉ cs := fun h => hs (Percent.mem_encode_of_keep h (by decide))
    have hb : '\\' ∉ cs := fun h => hb (Percent.mem_encode_of_keep h (by decide))
    rw [UrlPath.segments_item hn (fun h => hs (hsub.subset h)) (fun h => hb (hsub.subset h)),
      UrlPath.walk_item_iff hsub hne] at hp
    obtain ⟨hclean, hup, hhere⟩ := hp
    rw [hclean] at hhash hmark
    refine ⟨hne, ?_, hclean, hup, hhere⟩
    intro x hx
    simp only [List.mem_cons, List.not_mem_nil, or_false] at hx
    rcases hx with rfl | rfl | rfl | rfl
    · exact hs
    · exact hb
    · exact hmark
    · exact hhash
  · obtain ⟨-, hx, hclean, hup, hhere⟩ := hseg
    rw [hclean]
    refine ⟨hx _ (by decide), hx _ (by decide), ?_⟩
    rw [UrlPath.segments_item hn (hx _ (by decide)) (hx _ (by decide))]
    exact (UrlPath.walk_item_iff (List.Sublist.refl cs) hne).mpr ⟨rfl, hup, hhere⟩

namespace Setup

variable {c : Setup} {site : Site} (h : c.site? = some site) {E : Type} [Entity E]
  (hE : Entity.IsNamed E)
include h hE

/-- What is asked for under an id goes to the path of the collection with the cleaned id
behind it. -/
theorem parse_itemPath (id : String) : Url.parse (c.address (Entity.itemPath E id)) =
    some (site.address ('/' :: Text.join '/' (Entity.names E ++ [Url.cleanBack id.toList]))) := by
  have hpath : (Entity.itemPath E id).toList =
      '/' :: (Text.join '/' (Entity.names E) ++ '/' :: id.toList) := by
    rw [Entity.itemPath, String.toList_append, String.toList_append, hE.path]
    simp
  have hkept : (Text.join '/' (Entity.names E)).filter Url.isKept =
      Text.join '/' (Entity.names E) := by
    rw [List.filter_eq_self]
    intro x hx
    rcases Text.mem_of_mem_join hx with rfl | ⟨n, hn, hx⟩
    · decide
    · exact (hE.isName n hn).kept x hx
  rw [parse_address h hpath, Url.cleanBack_slash, hkept, Text.join_concat '/' hE.names_ne]

theorem parse_itemPath_iff {id : String} (hid : id ≠ "") :
    Url.parse (c.address (Entity.itemPath E id)) = some (site.item E id) ↔
      Entity.IsSegment id.toList := by
  have hne : id.toList ≠ [] := fun he => hid (String.toList_inj.mp he)
  rw [parse_itemPath h hE, Option.some_inj]
  exact site.address_item_iff hE.isName hne

end Setup

/-! ### What arrives of an entity -/

namespace Collection

variable {E : Type} [Entity E]

/-- The id in the path of a use, if it is one of a single entity. -/
def Use.id? : Use E → Option String
  | .get id => some id
  | .query _ => none
  | .create _ => none
  | .update d => some (Entity.id d.entity)
  | .updateWith change e => some (Entity.id ((Edit.begin e).apply change).entity)
  | .remove e => some (Entity.id e)
  | .removeFrom _ id => some id

theorem Use.ask_of_id? {u : Use E} {id : String} (h : u.id? = some id) :
    u.ask.path = Entity.itemPath E id ∧ (u.ask.pairs = none ∨ u.ask.pairs = some []) := by
  cases u with
  | get id => cases h; exact ⟨rfl, Or.inr rfl⟩
  | query filter => cases h
  | create draft => cases h
  | update d => cases h; exact ⟨rfl, Or.inl rfl⟩
  | updateWith change e => cases h; exact ⟨rfl, Or.inl rfl⟩
  | remove e => cases h; exact ⟨rfl, Or.inl rfl⟩
  | removeFrom kept id => cases h; exact ⟨rfl, Or.inl rfl⟩

theorem server_handle (h : Handler) (f : Failure) (s : Session) :
    (h.handle f s).server = s.server := by
  cases h with
  | banner =>
    unfold Handler.handle
    dsimp only
    split
    · rfl
    · exact Session.server_fail f.payload s
  | collector => rfl

/-- A use of a collection sends its call and nothing else. -/
theorem arrivals_use (c : Setup) (h : Handler) (s : Session) (u : Use E) :
    (use c h s u).server.arrivals = s.server.arrivals ++ s.server.arrives (s.request c u.ask) := by
  have hcall : (s.after c [.call u.ask]).server.arrivals =
      s.server.arrivals ++ s.server.arrives (s.request c u.ask) :=
    Session.arrivals_does c s (.call u.ask)
  rw [use_eq_after, Use.deeds, Session.after_append, ← hcall]
  cases u.failure? c h s with
  | none => rfl
  | some f =>
    show ((s.after c [.call u.ask]).after c (h.deeds f)).server.arrivals = _
    rw [← Handler.handle_eq_after, server_handle]

end Collection

namespace Site

/-- A request for a path on a site is sent when its token may stand in a header and
the address can be reached. -/
theorem call_below {site : Site} (hs : site.host ≠ .name []) {ss : List (List Char)} {r : Request}
    (hu : Url.parse r.address = some (site.below ss)) (hp : r.pairs = none ∨ r.pairs = some []) :
    r.call =
      if (r.bearer.map Request.isHeaderText).getD true then
        if Request.canReach (site.below ss) then
          .ok ⟨r.method, site.below ss, none, r.bearer, r.body⟩
        else .error (.badAddress (site.below ss).text)
      else .error .unsendable := by
  have hhost : (site.below ss).hasHost = true := by
    unfold Url.hasHost below
    cases hh : site.host with
    | name cs =>
      cases cs with
      | nil => exact absurd hh hs
      | cons c cs => rfl
    | bytes n => rfl
    | words ws => rfl
  have hurl : r.extended (site.below ss).anonymous = site.below ss := by
    have ha : (site.below ss).anonymous = site.below ss := rfl
    unfold Request.extended
    rw [ha]
    rcases hp with hp | hp
    · rw [hp]
    · rw [hp]
      exact Url.extend_nil _ (by simp [below])
  have hbasic : (site.below ss).basic? = none := rfl
  unfold Request.call
  simp only [hu, hhost, hurl, hbasic, Bool.not_true, Bool.false_eq_true, ↓reduceIte]
  by_cases hb : (r.bearer.map Request.isHeaderText).getD true = true
  · simp only [hb, Bool.not_true, Bool.false_eq_true, ↓reduceIte]
  · simp only [hb, Bool.not_false, ↓reduceIte, Bool.false_eq_true]

end Site

/-- What arrives of such a request. -/
theorem Server.arrives_below {site : Site} (hs : site.host ≠ .name []) {ss : List (List Char)}
    {r : Request} (hu : Url.parse r.address = some (site.below ss))
    (hp : r.pairs = none ∨ r.pairs = some []) (v : Server) :
    v.arrives r =
      if v.listening && (r.bearer.map Request.isHeaderText).getD true &&
          Request.canReach (site.below ss) then
        [⟨r.method, (site.below ss).text, none, r.bearer.map ("Bearer " ++ ·), r.body⟩]
      else [] := by
  have harrival : (Call.mk r.method (site.below ss) none r.bearer r.body).arrival =
      ⟨r.method, (site.below ss).text, none, r.bearer.map ("Bearer " ++ ·), r.body⟩ := rfl
  unfold arrives
  rw [Site.call_below hs hu hp]
  by_cases hb : (r.bearer.map Request.isHeaderText).getD true = true
  · by_cases hc : Request.canReach (site.below ss) = true
    · simp only [hb, hc, ↓reduceIte, Bool.and_true, harrival]
    · simp only [hb, hc, ↓reduceIte, Bool.and_false, Bool.false_eq_true]
  · simp only [hb, ↓reduceIte, Bool.and_false, Bool.false_and, Bool.false_eq_true]

/-- Whether the token of the session, if it is good, may stand in a header. -/
def Session.canSend (c : Setup) (s : Session) : Bool :=
  ((s.current c).map fun t => Request.isHeaderText t.text).getD true

/-! ### The places of entities -/

/-- A segment is one when it is encoded, too. -/
theorem Entity.IsSegment.encode {cs : List Char} (h : IsSegment cs) :
    IsSegment (Percent.encode Percent.inPath cs) := by
  obtain ⟨hne, hx, -, hup, hhere⟩ := h
  have hedge : ∀ x ∈ Percent.encode Percent.inPath cs, Url.isEdge x = false := by
    intro x hx
    have hdigit : ∀ n < 16, Url.isEdge (Hex.upper n) = false := by decide
    rcases Percent.mem_encode hx with ⟨-, hk⟩ | rfl | ⟨n, hn, rfl⟩
    · have hspace : x ≠ ' ' := by
        rintro rfl
        revert hk
        decide
      have hne : x.toNat ≠ 0x20 := fun he => hspace (Char.toNat_inj.mp he)
      simp only [Percent.inPath, Percent.isPlain, Bool.and_eq_true, decide_eq_true_eq] at hk
      exact decide_eq_false (by omega)
    · decide
    · exact hdigit n hn
  refine ⟨fun he => hne (Percent.eq_of_encode List.not_mem_nil he), ?_,
    Url.cleanBack_eq_self hedge, ?_, ?_⟩
  · intro x hm
    simp only [List.mem_cons, List.not_mem_nil, or_false] at hm
    rcases hm with rfl | rfl | rfl | rfl
    all_goals exact Percent.not_mem_encode (by decide) (by decide) (hx _ (by decide))
  · rw [UrlPath.isUp_encode, hup]
  · rw [UrlPath.isHere_encode, hhere]

theorem UrlPath.text_rooted : ∀ {ss : List (List Char)}, ss ≠ [] →
    UrlPath.text (.rooted ss) = '/' :: Text.join '/' ss
  | [], h => absurd rfl h
  | [s], _ => by
    show '/' :: (s ++ []) = '/' :: s
    rw [List.append_nil]
  | s :: t :: ss, _ => by
    have ih := UrlPath.text_rooted (List.cons_ne_nil t ss)
    show '/' :: (s ++ UrlPath.text (.rooted (t :: ss))) = '/' :: (s ++ '/' :: Text.join '/' (t :: ss))
    rw [ih]

namespace Site

variable {E : Type} [Entity E] (hE : Entity.IsNamed E) (site : Site)
include hE

/-- The address of an entity is that of its collection with the encoded id behind it. -/
theorem text_item (id : String) : (site.item E id).text =
    site.text ++ Entity.collection E ++ "/" ++
      String.ofList (Percent.encode Percent.inPath id.toList) := by
  have hpath : Entity.collection E = String.ofList ('/' :: Text.join '/' (Entity.names E)) := by
    rw [← hE.path, String.ofList_toList]
  have hslash : ("/" : String) = String.ofList ['/'] := rfl
  rw [item, text_below, UrlPath.text_rooted (by simp), Text.join_concat '/' hE.names_ne, hpath,
    hslash, String.append_assoc, String.append_assoc, ← String.ofList_append,
    ← String.ofList_append]
  simp

/-- Different ids without percent signs have different addresses. -/
theorem text_item_ne {a b : String} (h : a ≠ b) (ha : '%' ∉ a.toList) (hb : '%' ∉ b.toList) :
    (site.item E a).text ≠ (site.item E b).text := by
  rw [text_item hE, text_item hE]
  intro he
  have hcs := String.ofList_injective ((String.append_right_inj _).mp he)
  exact h (String.toList_inj.mp (Percent.encode_injective UrlPath.inPath_ascii ha hb hcs))

end Site

/-! ### One address for each entity -/

namespace Collection

/-- How the entities of a collection are told apart on a site. -/
structure ItemsApart (E : Type) [Entity E] (c : Setup) (site : Site) : Prop where
  /-- What is asked for under an id goes to the address of its entity exactly when the id
  is a segment. -/
  address : ∀ id, id ≠ "" →
    (Url.parse (c.address (Entity.itemPath E id)) = some (site.item E id) ↔
      Entity.IsSegment id.toList)
  /-- Every use of an entity whose id is a segment arrives once, at that address. -/
  arrives : ∀ (h : Handler) (s : Session) (u : Use E) (id : String), u.id? = some id →
    Entity.IsSegment id.toList →
    (use c h s u).server.arrivals = s.server.arrivals ++
      if s.server.listening && s.canSend c && Request.canReach (site.item E id) then
        [⟨u.ask.method, (site.item E id).text, none,
          (s.current c).map fun t => "Bearer " ++ t.text, u.ask.body⟩]
      else []
  /-- The address is a single segment below the collection, with nothing behind it. -/
  below : ∀ id, Entity.IsSegment id.toList → ∃ segment : String,
    Entity.IsSegment segment.toList ∧
      (site.item E id).text = site.text ++ Entity.collection E ++ "/" ++ segment
  /-- Different ids without percent signs have different addresses. -/
  apart : ∀ a b : String, a ≠ b → '%' ∉ a.toList → '%' ∉ b.toList →
    (site.item E a).text ≠ (site.item E b).text

theorem ItemsApart.of_isNamed {c : Setup} {site : Site} (h : c.site? = some site) {E : Type} [Entity E]
    (hE : Entity.IsNamed E) : ItemsApart E c site where
  address _ hid := Setup.parse_itemPath_iff h hE hid
  arrives hd s u id hu hid := by
    have hne : id ≠ "" := by
      rintro rfl
      exact hid.ne_nil rfl
    obtain ⟨hpath, hpairs⟩ := Use.ask_of_id? hu
    have hparse : Url.parse (s.request c u.ask).address = some (site.item E id) := by
      show Url.parse (c.address u.ask.path) = some (site.item E id)
      rw [hpath]
      exact (Setup.parse_itemPath_iff h hE hne).mpr hid
    rw [arrivals_use, Server.arrives_below (Setup.host_of_site? h) hparse hpairs]
    simp only [Session.request, Session.canSend, Site.item, Option.map_map, Function.comp_def]
    rfl
  below id hid := ⟨String.ofList (Percent.encode Percent.inPath id.toList),
    by rw [String.toList_ofList]; exact hid.encode, site.text_item hE id⟩
  apart _ _ hab ha hb := site.text_item_ne hE hab ha hb

/-- **Ids that are segments address one entity each.** -/
theorem items_apart {c : Setup} {site : Site} (h : c.site? = some site) :
    ItemsApart Record c site ∧ ItemsApart User c site :=
  ⟨.of_isNamed h Entity.isNamed_record, .of_isNamed h Entity.isNamed_user⟩

theorem items_apart_loopback :
    Setup.loopback.site? = some ⟨.bytes 0x7F000001, some 4443⟩ ∧
    ItemsApart Record .loopback ⟨.bytes 0x7F000001, some 4443⟩ ∧
    ItemsApart User .loopback ⟨.bytes 0x7F000001, some 4443⟩ :=
  ⟨by decide +kernel, items_apart (by decide +kernel)⟩

/-- A session with a token, at a server that listens. -/
def served : Session := .start (.memory (some "a.e30.c")) ⟨true, [], []⟩

/-- Under an id that is no segment another entity is deleted, or something that is none. -/
theorem removeFrom_astray :
    let urls := fun id : String =>
      (removeFrom .loopback .collector ([] : List Record) id served).2.2.server.arrivals.map (·.url)
    urls "r-1" = ["http://127.0.0.1:4443/api/records/r-1"] ∧
    urls "r-1#x" = ["http://127.0.0.1:4443/api/records/r-1"] ∧
    urls "r-1?x" = ["http://127.0.0.1:4443/api/records/r-1?x"] ∧
    urls ".." = ["http://127.0.0.1:4443/api/"] ∧
    urls "é" = urls "%C3%A9" := by
  decide +kernel

end Collection

end ProxyConsole
