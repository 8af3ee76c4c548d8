/-
# Which places are found again by their own path

A place without an id is found by its path. A place with an id is found by its path
exactly when the id is not empty, holds no slash, is not the word for a new entity, and
does not end in a blank character: such a character stands at the end of the path, where
it is trimmed.

Reading a path trims its ends before the slashes at the end are dropped, and so may leave
an id with a blank character at its end, whose place has a path that leads elsewhere. The
place where that path leads is found by its own path.

Key definitions: `Route.pieces`, `Route.Names`, `Route.Lasts`.
Key theorems: `Route.segments_below`, `Route.parse_path_of_id?`, `Route.parse_path`,
`Route.reread`.
-/
import ProxyConsole.Proofs.Trim
import ProxyConsole.Route

namespace ProxyConsole
namespace Route

open Text (trim trimEnd split isBlank EndsBlank)

/-! ### Paths below a word -/

/-- The pieces of a text between slashes, but for empty ones. -/
def pieces (cs : List Char) : List String :=
  ((split '/' cs).filter fun s => !s.isEmpty).map String.ofList

/-- A path below a word has the word and the pieces of what stands below it, which is
trimmed at its end alone. -/
theorem segments_below (word : String) (hw : '/' ∉ word.toList) (hne : word ≠ "")
    (id : String) :
    segments ("/" ++ word ++ "/" ++ id) = word :: pieces (trimEnd id.toList) := by
  have hslash : isBlank '/' = false := rfl
  have hlist : ("/" ++ word ++ "/" ++ id).toList = '/' :: (word.toList ++ '/' :: id.toList) := by
    simp
  have htrim : trim ('/' :: (word.toList ++ '/' :: id.toList)) =
      '/' :: (word.toList ++ '/' :: trimEnd id.toList) := by
    rw [trim, List.dropWhile_cons_of_neg (by decide)]
    exact Text.trimEnd_append_cons hslash ('/' :: word.toList) id.toList
  have hsplit : split '/' ('/' :: (word.toList ++ '/' :: trimEnd id.toList)) =
      [] :: word.toList :: split '/' (trimEnd id.toList) := by
    rw [split, if_pos rfl, Text.split_append _ hw]
  have hword : word.toList.isEmpty = false := by simpa using hne
  rw [segments, hlist, htrim, hsplit, pieces, List.filter_cons_of_neg (by simp),
    List.filter_cons_of_pos (by simp [hword]), List.map_cons, String.ofList_toList]

/-- A text without a slash is its own only piece, unless it is empty. -/
theorem pieces_of_not_slash {cs : List Char} (h : '/' ∉ cs) :
    pieces cs = if cs.isEmpty then [] else [String.ofList cs] := by
  rw [pieces, Text.split_of_not_mem h]
  cases cs with
  | nil => rfl
  | cons c cs => rfl

theorem mem_pieces {cs : List Char} {s : String} (h : s ∈ pieces cs) :
    s ≠ "" ∧ '/' ∉ s.toList ∧ s.toList.Sublist cs := by
  rw [pieces, List.mem_map] at h
  obtain ⟨p, hp, rfl⟩ := h
  obtain ⟨hmem, hne⟩ := List.mem_filter.mp hp
  rw [String.toList_ofList]
  refine ⟨?_, Text.not_mem_of_mem_split '/' cs p hmem, Text.sublist_of_mem_split hmem⟩
  intro he
  have hnil := congrArg String.toList he
  rw [String.toList_ofList] at hnil
  subst hnil
  cases hne

/-- The place of the entity with an id, and the word in front of the id in its path. -/
inductive Names : String → (String → Route) → Prop where
  | records : Names "records" record
  | users : Names "users" user

theorem names_of_id? {r : Route} {id : String} (h : r.id? = some id) :
    ∃ word make, Names word make ∧ r = make id := by
  cases r with
  | record i =>
    cases h
    exact ⟨"records", record, .records, rfl⟩
  | user i =>
    cases h
    exact ⟨"users", user, .users, rfl⟩
  | help | records | newRecord | users | newUser | login | logout => cases h

variable {word : String} {make : String → Route}

theorem Names.segments_path (hn : Names word make) (id : String) :
    segments (make id).path = word :: pieces (trimEnd id.toList) := by
  cases hn with
  | records => exact segments_below "records" (by decide) (by decide) id
  | users => exact segments_below "users" (by decide) (by decide) id

theorem Names.ofSegments (hn : Names word make) {ps : List String} {id : String} :
    ofSegments (word :: ps) = make id ↔ ps = [id] ∧ id ≠ "new" := by
  unfold Route.ofSegments
  cases hn with
  | records =>
    split <;> simp_all
    rintro rfl
    assumption
  | users =>
    split <;> simp_all
    rintro rfl
    assumption

/-! ### Ids -/

/-- An id that is found again where it stands at the end of a path. -/
structure Lasts (id : String) : Prop where
  ne_empty : id ≠ ""
  not_slash : '/' ∉ id.toList
  ne_new : id ≠ "new"
  not_blank : ¬ EndsBlank id.toList

/-- The one piece that is found below a word is the id exactly when nothing of the id is
trimmed and no slash cuts it. -/
theorem pieces_trimEnd_eq {id : String} : pieces (trimEnd id.toList) = [id] ↔
    id ≠ "" ∧ '/' ∉ id.toList ∧ ¬ EndsBlank id.toList := by
  constructor
  · intro h
    obtain ⟨hne, hslash, hsub⟩ := mem_pieces (s := id) (by rw [h]; exact List.mem_singleton_self id)
    refine ⟨hne, hslash, Text.trimEnd_eq_self.mp ?_⟩
    exact (Text.trimEnd_sublist id.toList).eq_of_length_le hsub.length_le
  · rintro ⟨hne, hslash, hblank⟩
    have hempty : id.toList.isEmpty = false := by simpa using hne
    rw [Text.trimEnd_eq_self.mpr hblank, pieces_of_not_slash hslash, hempty]
    simp

theorem lasts_iff {id : String} :
    Lasts id ↔ pieces (trimEnd id.toList) = [id] ∧ id ≠ "new" := by
  rw [pieces_trimEnd_eq]
  exact ⟨fun ⟨ne, slash, new, blank⟩ => ⟨⟨ne, slash, blank⟩, new⟩,
    fun ⟨⟨ne, slash, blank⟩, new⟩ => ⟨ne, slash, new, blank⟩⟩

theorem parse_path_of_id? {r : Route} {id : String} (h : r.id? = some id) :
    parse r.path = r ↔ Lasts id := by
  obtain ⟨word, make, hn, rfl⟩ := names_of_id? h
  rw [parse, hn.segments_path, hn.ofSegments, lasts_iff]

/-- A place without an id is found by its path. -/
theorem parse_path_of_none {r : Route} (h : r.id? = none) : parse r.path = r := by
  cases r with
  | record | user => cases h
  | help | records | newRecord | users | newUser | login | logout => decide

/-- **A place is found by its own path** exactly when it has no id, or one that is not empty,
holds no slash, is not the word for a new entity and does not end in a blank character. -/
theorem parse_path (r : Route) : parse r.path = r ↔ ∀ id, r.id? = some id → Lasts id := by
  cases h : r.id? with
  | none => exact iff_of_true (parse_path_of_none h) nofun
  | some id =>
    rw [parse_path_of_id? h]
    exact ⟨fun hl _ he => Option.some.inj he ▸ hl, fun hl => hl id rfl⟩

/-- An id with a slash behind it leads elsewhere, and so does one of a blank character. -/
example : parse (record "a/").path = record "a" ∧ parse (user " ").path = users := by
  decide +kernel

/-! ### Paths that were read -/

theorem ofSegments_id? {ss : List String} {id : String} (h : (ofSegments ss).id? = some id) :
    ∃ word, ss = [word, id] ∧ id ≠ "new" := by
  unfold ofSegments at h
  split at h <;> simp only [id?, reduceCtorEq, Option.some.injEq] at h
  · next hnew =>
    subst h
    exact ⟨"records", rfl, hnew⟩
  · next hnew =>
    subst h
    exact ⟨"users", rfl, hnew⟩

theorem id?_parse {p id : String} (h : (parse p).id? = some id) :
    id ≠ "" ∧ '/' ∉ id.toList ∧ id ≠ "new" := by
  obtain ⟨word, hs, hnew⟩ := ofSegments_id? h
  have hmem : id ∈ pieces (trim p.toList) := by
    have hp : pieces (trim p.toList) = [word, id] := hs
    simp [hp]
  obtain ⟨hne, hslash, -⟩ := mem_pieces hmem
  exact ⟨hne, hslash, hnew⟩

/-- Of an id that was read only its end can keep it from being found again. -/
theorem lasts_of_id?_parse {p id : String} (h : (parse p).id? = some id) :
    Lasts id ↔ ¬ EndsBlank id.toList := by
  obtain ⟨hne, hslash, hnew⟩ := id?_parse h
  exact ⟨Lasts.not_blank, fun hb => ⟨hne, hslash, hnew, hb⟩⟩

/-- An id that is read from the path of a place that was read has lost its blank end. -/
theorem not_endsBlank_of_reread {p id : String} (h : (parse (parse p).path).id? = some id) :
    ¬ EndsBlank id.toList := by
  cases hr : (parse p).id? with
  | none =>
    rw [parse_path_of_none hr, hr] at h
    cases h
  | some i =>
    obtain ⟨word, make, hn, hmake⟩ := names_of_id? hr
    obtain ⟨word', hs', -⟩ := ofSegments_id? h
    rw [hmake, hn.segments_path] at hs'
    obtain ⟨-, hpieces⟩ := List.cons.inj hs'
    -- no slash cuts what is left of the id that was read first
    have hslash : '/' ∉ trimEnd i.toList :=
      fun hm => (id?_parse hr).2.1 (Text.mem_of_mem_trimEnd hm)
    rw [pieces_of_not_slash hslash] at hpieces
    split at hpieces
    · cases hpieces
    · cases hpieces
      rw [String.toList_ofList]
      exact Text.not_endsBlank_trimEnd i.toList

/-- A place that was read is found again exactly when no blank character ends its id. -/
theorem parse_path_parse (p : String) : parse (parse p).path = parse p ↔
    ∀ id, (parse p).id? = some id → ¬ EndsBlank id.toList := by
  rw [parse_path]
  exact forall₂_congr fun _ h => lasts_of_id?_parse h

/-- **A path that was read leads to the same place again** exactly when the id that was read
does not end in a blank character. Where it leads otherwise, it leads for good. -/
theorem reread (p : String) :
    (parse (parse p).path = parse p ↔
      ∀ id, (parse p).id? = some id → ¬ EndsBlank id.toList) ∧
    parse (parse (parse p).path).path = parse (parse p).path :=
  ⟨parse_path_parse p, (parse_path_parse _).mpr fun _ h => not_endsBlank_of_reread h⟩

/-- Behind a blank character the slash at the end keeps it from being trimmed. -/
theorem reread_blank : parse "/records/x /" = record "x " ∧
    parse (parse "/records/x /").path = record "x" ∧
    ¬ ∀ p, parse (parse p).path = parse p := by
  have hp : parse "/records/x /" = record "x " := by decide +kernel
  have hr : parse (record "x ").path = record "x" := by decide +kernel
  have hne : record "x" ≠ record "x " := by decide
  refine ⟨hp, by rw [hp, hr], fun h => hne ?_⟩
  have hx := h "/records/x /"
  rwa [hp, hr] at hx

end Route
end ProxyConsole
