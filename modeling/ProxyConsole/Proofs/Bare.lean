/-
# Servers without a name and a password

A name and a password may stand in the address of the server, in front of its host. They
are sent with every request, in a header of the kind that tokens are sent in. A server is
bare when there are none. The host of an address ends where a path begins, and a path that
is asked for begins with a slash and a name; so no path puts a name or a password in front
of the host, and at a bare server none is ever sent.

Key definitions: `Url.authority`, `Setup.isBare`.
Key theorems: `Setup.user_of_isBare`, `Request.basic?_of_isBare`.
-/
import ProxyConsole.Proofs.Calls
import ProxyConsole.Proofs.Site

namespace ProxyConsole

namespace Url

/-- A character that ends the host of an address of the web. -/
def isEnd (c : Char) : Bool :=
  isSlash true c || c == '?' || c == '#'

/-- What stands in an address of the web between its scheme and its path. -/
def authority (rest : List Char) : List Char :=
  (rest.dropWhile (isSlash true)).takeWhile (!isEnd ·)

/-- What stands in front of a text is still in front of it when more follows. -/
theorem mem_authority_append {x : Char} {cs : List Char} (h : x ∈ authority cs)
    (more : List Char) : x ∈ authority (cs ++ more) := by
  have hne : (cs.dropWhile (isSlash true)).isEmpty = false := by
    rw [List.isEmpty_eq_false_iff]
    intro he
    rw [authority, he] at h
    cases h
  rw [authority, List.dropWhile_append, if_neg (by simp [hne]), List.takeWhile_append]
  split
  · exact List.mem_append_left _ ((List.takeWhile_prefix _).subset h)
  · exact h

/-- What stands in front of a text does not come from behind it. -/
theorem mem_authority_of_append {x : Char} {cs more : List Char} (h : x ∈ authority (cs ++ more))
    (hx : x ∉ more) : x ∈ authority cs := by
  have hmore : ∀ ds : List Char, ds <:+ more → x ∉ ds.takeWhile (!isEnd ·) :=
    fun ds hd hm => hx (hd.subset ((List.takeWhile_prefix _).subset hm))
  rw [authority, List.dropWhile_append] at h
  split at h
  · exact absurd h (hmore _ (List.dropWhile_suffix _))
  · rw [List.takeWhile_append] at h
    split at h
    · next hlen =>
      rcases List.mem_append.mp h with h | h
      · have he := (List.takeWhile_prefix (!isEnd ·)).eq_of_length hlen
        rw [authority, he]
        exact h
      · exact absurd h (hmore _ List.suffix_rfl)
    · exact h

/-- A path that begins with a name puts nothing in front of the host but that name. -/
theorem mem_authority_of_path {x : Char} {cs name rest : List Char}
    (h : x ∈ authority (cs ++ '/' :: (name ++ '/' :: rest))) (hname : name.all inPlace = true)
    (hne : name ≠ []) (hx : x ∉ name) : x ∈ authority cs := by
  have hend : ∀ ds ds' : List Char,
      (ds ++ '/' :: ds').takeWhile (!isEnd ·) = ds.takeWhile (!isEnd ·) :=
    Text.takeWhile_stop _ '/' (by decide)
  rw [authority, List.dropWhile_append] at h
  split at h
  · refine absurd ?_ hx
    obtain ⟨c, name, rfl⟩ := List.exists_cons_of_ne_nil hne
    have hc : isSlash true c = false := by
      have hi := List.all_eq_true.mp hname c List.mem_cons_self
      simp only [inPlace, Bool.and_eq_true, Bool.not_eq_true'] at hi
      exact hi.1.1.1
    rw [List.dropWhile_cons_of_pos (by decide), List.cons_append,
      List.dropWhile_cons_of_neg (by simp [hc]), ← List.cons_append, hend] at h
    exact (List.takeWhile_prefix _).subset h
  · rw [hend] at h
    exact h

/-- Where no at sign stands in front of the path there is no user. -/
theorem user_withHost {scheme cs : List Char} {u : Url} (h : withHost true scheme cs = some u)
    (hat : '@' ∉ cs.takeWhile (!isEnd ·)) : u.user = none := by
  have hcut : cutUser (cs.takeWhile fun c => !(isSlash true c || c == '?' || c == '#')) =
      (none, _) := cutUser_of_not_mem hat
  unfold withHost at h
  simp only [hcut, Option.bind_none] at h
  split at h
  · cases h
  · simp only [bind, Option.bind_eq_some_iff, pure, Option.some.injEq] at h
    obtain ⟨host, -, port, -, hu⟩ := h
    rw [← hu]
    rfl

end Url

/-- Whether a plain server has neither a name nor a password in its address. -/
def Setup.isBare (c : Setup) : Bool :=
  c.isPlain && match Url.scheme? (Url.clean c.server.toList) with
    | some (_, rest) => !(Url.authority rest).contains '@'
    | none => true

namespace Setup

theorem isPlain_of_isBare {c : Setup} (h : c.isBare = true) : c.isPlain = true :=
  (Bool.and_eq_true_iff.mp h).1

/-- What is cleaned away from an address is no at sign. -/
theorem mem_authority_cleanBack {back : List Char}
    (h : '@' ∈ Url.authority ((back.reverse.dropWhile (· == '/')).reverse.filter Url.isKept)) :
    '@' ∈ Url.authority (Url.cleanBack back) := by
  have hsplit : ∀ p : Char → Bool, back =
      (back.reverse.dropWhile p).reverse ++ (back.reverse.takeWhile p).reverse := by
    intro p
    rw [← List.reverse_append, List.takeWhile_append_dropWhile, List.reverse_reverse]
  -- the slashes that the address of the server ends with are put back, and then the blanks
  have hall : '@' ∈ Url.authority (back.filter Url.isKept) := by
    rw [hsplit (· == '/'), List.filter_append]
    exact Url.mem_authority_append h _
  have hblank : back.filter Url.isKept = Url.cleanBack back ++
      (back.reverse.takeWhile Url.isEdge).reverse.filter Url.isKept := by
    rw [Url.cleanBack, ← List.filter_append, ← hsplit Url.isEdge]
  rw [hblank] at hall
  refine Url.mem_authority_of_append hall fun hm => ?_
  have hedge := List.mem_takeWhile_imp (List.mem_reverse.mp (List.mem_filter.mp hm).1)
  exact absurd hedge (by decide)

/-- **At a bare server no address has a name or a password in front of its host.** -/
theorem user_of_isBare {c : Setup} (h : c.isBare = true) {path : String} (hp : IsServed path)
    {u : Url} (hu : Url.parse (c.address path) = some u) : u.user = none := by
  obtain ⟨back, hs, ha⟩ := parse_of_isPlain (isPlain_of_isBare h)
  have hno : '@' ∉ Url.authority (Url.cleanBack back) := by
    have hb := (Bool.and_eq_true_iff.mp h).2
    rw [hs] at hb
    simpa using hb
  obtain ⟨rest, hpath⟩ := hp
  rw [ha] at hu
  refine Url.user_withHost hu fun hm => hno (mem_authority_cleanBack ?_)
  have hclean : Url.cleanBack ((back.reverse.dropWhile (· == '/')).reverse ++ path.toList) =
      (back.reverse.dropWhile (· == '/')).reverse.filter Url.isKept ++
        '/' :: ("api".toList ++ '/' :: Url.cleanBack rest) := by
    rw [← hpath]
    show Url.cleanBack (_ ++ '/' :: ("api".toList ++ '/' :: rest)) = _
    rw [Url.cleanBack_slash, Url.cleanBack_slash]
    rfl
  rw [hclean] at hm
  exact Url.mem_authority_of_path hm (by decide) (by decide) (by decide)

end Setup

/-- At a bare server a request carries neither a name nor a password. -/
theorem Request.basic?_of_isBare {c : Setup} (h : c.isBare = true) {r : Request} {path : String}
    (ha : r.address = c.address path) (hp : IsServed path) : r.basic? = none := by
  rw [basic?, ha]
  cases hu : Url.parse (c.address path) with
  | none => rfl
  | some u => rw [Option.bind_some, Url.basic?, Setup.user_of_isBare h hp hu]; rfl

end ProxyConsole
