/-
# Where files can be read and written

A file can be written wherever one can be read, and what was written can be read.
Making folders takes nothing away from a disk. It does nothing where a file can be
written already; and where the folders around a path cannot be made nothing can be
read, whatever was made of them.

Key definitions: `Disk.IsOpen`, `Disk.Grows`.
Key theorems: `Path.names_parent?`, `Disk.read_of_write`, `Disk.grows_tryFolders`,
`Disk.tryFolders_of_isOpen`, `Disk.not_isOpen_of_tryFolders`.
-/
import ProxyConsole.Disk

namespace ProxyConsole

/-! ### The folder around a path -/

namespace Text

theorem join_append (sep : Char) : ∀ {ps qs : List (List Char)}, ps ≠ [] → qs ≠ [] →
    join sep (ps ++ qs) = join sep ps ++ sep :: join sep qs
  | [], _, h, _ => absurd rfl h
  | [p], q :: qs, _, _ => rfl
  | p :: p' :: ps, qs, _, h => by
    have ih := join_append sep (List.cons_ne_nil p' ps) h
    show p ++ sep :: join sep (p' :: ps ++ qs) = p ++ sep :: join sep (p' :: ps) ++ _
    rw [ih, List.append_assoc, List.cons_append]

end Text

namespace Path

/-- The names in a path. -/
def names (path : String) : List String :=
  ((Text.split '/' path.toList).map String.ofList).filter (· ≠ "")

theorem named_append (pieces : List (List Char)) : ∃ rest, pieces = named pieces ++ rest := by
  have h := List.dropWhile_suffix (fun s : List Char => s.isEmpty || s == ['.'])
    (l := pieces.reverse)
  rw [← List.reverse_prefix, List.reverse_reverse] at h
  obtain ⟨rest, hr⟩ := h
  exact ⟨rest, hr.symm⟩

/-- The last piece that names something is not empty. -/
theorem ne_nil_of_named {pieces above : List (List Char)} {s : List Char}
    (h : (named pieces).reverse = s :: above) : s ≠ [] := by
  rintro rfl
  rw [named, List.reverse_reverse] at h
  have hhead := List.head?_dropWhile_not (fun s : List Char => s.isEmpty || s == ['.'])
    pieces.reverse
  rw [h] at hhead
  simp at hhead

/-- What a path is cut into, and what is left of it in the path around it. -/
theorem pieces_parent? {p q : String} (h : parent? p = some q) : q = "" ∨
    ∃ front back, Text.split '/' p.toList = front ++ back ∧ (∃ s ∈ back, s ≠ []) ∧
      (q = "/" ∧ isAbsolute p = true ∨ q = String.ofList (Text.join '/' front)) := by
  unfold parent? at h
  dsimp only at h
  generalize Text.split '/' p.toList = pieces at h ⊢
  generalize (if isAbsolute p = true ∨ pieces.head? = some ['.'] then 1 else 0) = n at h
  split at h
  · split at h
    · exact .inl (Option.some.inj h).symm
    · cases h
  · next s above hs =>
    -- the pieces before the last name, and from it on
    obtain ⟨junk, hjunk⟩ := named_append (pieces.drop n)
    obtain ⟨junk', hjunk'⟩ := named_append above.reverse
    have hlast : named (pieces.drop n) = above.reverse ++ [s] := by
      rw [← List.reverse_reverse (named _), hs, List.reverse_cons]
    have hsplit : pieces = (pieces.take n ++ named above.reverse) ++ (junk' ++ s :: junk) := by
      calc pieces = pieces.take n ++ pieces.drop n := (List.take_append_drop n pieces).symm
        _ = pieces.take n ++ ((named above.reverse ++ junk') ++ [s] ++ junk) := by
          rw [hjunk, hlast, ← hjunk']
        _ = _ := by simp
    refine .inr ⟨_, _, hsplit, ⟨s, by simp, ne_nil_of_named hs⟩, ?_⟩
    split at h
    · next hroot => exact .inl ⟨(Option.some.inj h).symm, hroot.1⟩
    · exact .inr (Option.some.inj h).symm

/-- **The path around a path begins like it, and leaves at least one name out.** -/
theorem names_parent? {p q : String} (h : parent? p = some q) (hq : q ≠ "") :
    q.toList <+: p.toList ∧ ∃ s ss, names p = names q ++ s :: ss := by
  obtain rfl | ⟨front, back, hp, ⟨s, hs, hne⟩, h⟩ := pieces_parent? h
  · exact absurd rfl hq
  have hnames : names p = (front.map String.ofList).filter (· ≠ "") ++
      (back.map String.ofList).filter (· ≠ "") := by
    rw [names, hp, List.map_append, List.filter_append]
  have hback : String.ofList s ∈ (back.map String.ofList).filter (· ≠ "") :=
    List.mem_filter.mpr ⟨List.mem_map_of_mem hs, by simpa using hne⟩
  obtain ⟨rfl, habs⟩ | rfl := h
  · have hroot : names "/" = [] := by decide
    simp only [hroot, List.nil_append]
    refine ⟨?_, List.exists_cons_of_ne_nil ?_⟩
    · cases hl : p.toList with
      | nil => simp [isAbsolute, hl] at habs
      | cons c cs =>
        have hc : c = '/' := by simpa [isAbsolute, hl] using habs
        exact ⟨cs, by rw [hc]; rfl⟩
    · rw [hnames]
      exact List.append_ne_nil_of_right_ne_nil _ (List.ne_nil_of_mem hback)
  · have hfront : front ≠ [] := by
      rintro rfl
      exact hq rfl
    have hslash : ∀ t ∈ front, '/' ∉ t := fun t ht =>
      Text.not_mem_of_mem_split '/' p.toList t (hp ▸ List.mem_append_left back ht)
    have hq' : names (String.ofList (Text.join '/' front)) =
        (front.map String.ofList).filter (· ≠ "") := by
      rw [names, String.toList_ofList, Text.split_join '/' front hfront hslash]
    rw [hq', hnames]
    refine ⟨⟨'/' :: Text.join '/' back, ?_⟩, ?_⟩
    · rw [String.toList_ofList, ← Text.join_append _ hfront (List.ne_nil_of_mem hs), ← hp,
        Text.join_split]
    · obtain ⟨t, ts, ht⟩ := List.exists_cons_of_ne_nil (List.ne_nil_of_mem hback)
      exact ⟨t, ts, by rw [ht]⟩

end Path

/-! ### Steps along a path -/

namespace Trail

theorem stepsFrom_append : ∀ (p : Place) (xs ys : List String),
    stepsFrom p (xs ++ ys) = stepsFrom p xs ++ stepsFrom (xs.foldl Place.step p) ys
  | _, [], _ => rfl
  | p, x :: xs, ys => by
    rw [List.cons_append, stepsFrom, stepsFrom_append, stepsFrom, List.foldl_cons,
      List.cons_append]

/-- Where a step leads to another is made from, as long as names follow. -/
theorem exists_step_from : ∀ {p : Place} {xs : List String} {y : String} {ys : List String},
    ∀ s ∈ stepsFrom p xs, ∃ s' ∈ stepsFrom p (xs ++ y :: ys), s'.1 = s.1.step s.2
  | p, x :: xs, y, ys, s, hs => by
    rcases List.mem_cons.mp hs with rfl | hs
    · cases xs with
      | nil => exact ⟨(p.step x, y), by simp [stepsFrom], rfl⟩
      | cons x' xs => exact ⟨(p.step x, x'), by simp [stepsFrom], rfl⟩
    · obtain ⟨s', hm, he⟩ := exists_step_from s hs
      exact ⟨s', List.mem_cons_of_mem _ hm, he⟩

end Trail

namespace Disk

/-- A path that begins another one can be a path as well. -/
theorem trail_of_prefix {p q : String} (h : q.toList <+: p.toList) (hq : q ≠ "") {t : Trail}
    (ht : trail p = .ok t) : trail q = .ok (Trail.ofText q) := by
  obtain ⟨r, hr⟩ := h
  have hp : p = q ++ String.ofList r := by
    rw [← String.toList_inj, String.toList_append, String.toList_ofList, hr]
  have hsize : q.utf8ByteSize ≤ p.utf8ByteSize := by
    rw [hp, String.utf8ByteSize_append]
    omega
  have hnul : q.toList.contains '\x00' = true → p.toList.contains '\x00' = true := by
    rw [List.contains_iff_mem, List.contains_iff_mem, ← hr]
    exact fun h => List.mem_append_left r h
  unfold trail at ht ⊢
  split at ht
  · cases ht
  · next hn =>
    split at ht
    · cases ht
    · split at ht
      · cases ht
      · next hlen =>
        rw [if_neg fun h => hn (hnul h), if_neg (by simpa using hq), if_neg (by omega)]

theorem ofText_of_trail {p : String} {t : Trail} (h : trail p = .ok t) : t = Trail.ofText p := by
  unfold trail at h
  split at h
  · cases h
  · split at h
    · cases h
    · split at h
      · cases h
      · exact (Except.ok.inj h).symm

/-- The steps to the folder around a path are steps of that path, and each of them leads to
where another one is made from. -/
theorem steps_parent {p q : String} (h : Path.parent? p = some q) (hq : q ≠ "") {t : Trail}
    (ht : trail p = .ok t) : ∃ u, trail q = .ok u ∧
      ∀ s ∈ u.steps, s ∈ t.steps ∧ ∃ s' ∈ t.steps, s'.1 = s.1.step s.2 := by
  obtain ⟨hpre, y, ys, hnames⟩ := Path.names_parent? h hq
  have habs : Path.isAbsolute q = Path.isAbsolute p := by
    obtain ⟨r, hr⟩ := hpre
    cases hl : q.toList with
    | nil => exact absurd (by simpa using hl) hq
    | cons c cs => simp [Path.isAbsolute, ← hr, hl]
  refine ⟨_, trail_of_prefix hpre hq ht, fun s hs => ?_⟩
  rw [ofText_of_trail ht]
  have hsteps : (Trail.ofText p).steps =
      Trail.stepsFrom ⟨Path.isAbsolute p, []⟩ (Path.names q ++ y :: ys) := by
    rw [← hnames]
    rfl
  have hs' : s ∈ Trail.stepsFrom ⟨Path.isAbsolute p, []⟩ (Path.names q) := by
    rw [← habs]
    exact hs
  rw [hsteps]
  refine ⟨?_, Trail.exists_step_from s hs'⟩
  rw [Trail.stepsFrom_append]
  exact List.mem_append_left _ hs'

/-! ### Reading and writing along a trail -/

theorem obstacle?_eq_none {d : Disk} {s : Place × String} :
    d.obstacle? s = none ↔ d.stands? s.1 = some .folder ∧ s.2.utf8ByteSize ≤ maxName := by
  unfold obstacle?
  cases hs : d.stands? s.1 with
  | none => simp
  | some x =>
    cases x with
    | folder => simp
    | file bs => simp

theorem walk_eq_ok {d : Disk} {t : Trail} :
    d.walk t = .ok () ↔ ∀ s ∈ t.steps, d.obstacle? s = none := by
  unfold walk
  cases h : t.steps.findSome? d.obstacle? with
  | none => simpa using h
  | some e =>
    obtain ⟨s, hs, he⟩ := List.exists_of_findSome?_eq_some h
    simp only [reduceCtorEq, false_iff]
    intro hn
    rw [hn s hs] at he
    cases he

theorem read_eq_ok {d : Disk} {path : String} {bs : List UInt8} :
    d.read path = .ok bs ↔ ∃ t, trail path = .ok t ∧ d.walk t = .ok () ∧
      d.stands? t.goal = some (.file bs) ∧ t.ending = .name := by
  simp only [read, find, bind, Except.bind]
  cases ht : trail path with
  | error e => simp
  | ok t =>
    simp only [Except.ok.injEq, exists_eq_left']
    cases hw : d.walk t with
    | error e => simp
    | ok u =>
      cases hs : d.stands? t.goal with
      | none => simp
      | some x =>
        cases x with
        | folder => simp
        | file cs =>
          by_cases hn : t.ending = .name
          · simp [hn]
          · simp [hn]

theorem write_eq_ok {d e : Disk} {path : String} {bs : List UInt8} :
    d.write path bs = .ok e ↔ ∃ t, trail path = .ok t ∧ d.walk t = .ok () ∧
      t.ending = .name ∧ d.stands? t.goal ≠ some .folder ∧ e = d.put t.goal (.file bs) := by
  simp only [write, bind, Except.bind]
  cases ht : trail path with
  | error e => simp
  | ok t =>
    simp only [Except.ok.injEq, exists_eq_left']
    cases hw : d.walk t with
    | error e => simp
    | ok u =>
      by_cases hc : t.ending = .name ∧ d.stands? t.goal ≠ some .folder
      · simp only [hc, ne_eq, not_false_eq_true, and_self, ↓reduceIte, Except.ok.injEq, true_and]
        exact eq_comm
      · simp only [hc, ↓reduceIte, reduceCtorEq, true_and, false_iff]
        exact fun h => hc ⟨h.1, h.2.1⟩

/-- What was written can be read. -/
theorem read_of_write {d e : Disk} {path : String} {bs : List UInt8}
    (h : d.write path bs = .ok e) : e.read path = .ok bs := by
  obtain ⟨t, ht, hw, hn, hf, rfl⟩ := write_eq_ok.mp h
  have start : t.goal.isStart = false := by
    cases hg : t.goal.isStart with
    | false => rfl
    | true => exact absurd (by simp [stands?, hg]) hf
  refine read_eq_ok.mpr ⟨t, ht, walk_eq_ok.mpr fun s hs => ?_, by simp [stands?_put start], hn⟩
  obtain ⟨folder, short⟩ := obstacle?_eq_none.mp (walk_eq_ok.mp hw s hs)
  -- the file is not put on the way to itself: every step starts at a folder
  have apart : s.1 ≠ t.goal := fun he => hf (he ▸ folder)
  exact obstacle?_eq_none.mpr ⟨by rw [stands?_put start, if_neg apart, folder], short⟩

/-! ### Making folders -/

/-- Whatever stands on the one disk stands on the other. -/
def Grows (d e : Disk) : Prop :=
  ∀ p x, d.stands? p = some x → e.stands? p = some x

theorem Grows.refl (d : Disk) : Grows d d := fun _ _ h => h

theorem Grows.trans {d e f : Disk} (h : Grows d e) (h' : Grows e f) : Grows d f :=
  fun p x hp => h' p x (h p x hp)

theorem grows_put {d : Disk} {p : Place} (h : d.stands? p = none) (x : Entry) :
    Grows d (d.put p x) := by
  intro q y hq
  have start : p.isStart = false := by
    cases hp : p.isStart with
    | false => rfl
    | true => simp [stands?, hp] at h
  have apart : q ≠ p := fun he => by rw [he, h] at hq; cases hq
  rw [stands?_put start, if_neg apart, hq]

/-- Making folders takes nothing away, however far it goes. -/
theorem grows_makeSteps : ∀ {steps : List (Place × String)} (made : Bool) (d : Disk),
    Grows d (d.makeSteps made steps).2
  | [], _, d => Grows.refl d
  | s :: steps, made, d => by
    unfold makeSteps
    split
    · exact Grows.refl d
    · split
      · exact grows_makeSteps made d
      · exact Grows.refl d
      · next hn => exact (grows_put hn .folder).trans (grows_makeSteps true _)

@[inherit_doc grows_makeSteps]
theorem grows_tryFolders (path : String) (d : Disk) : Grows d (d.tryFolders path).2 := by
  unfold tryFolders
  split
  · exact Grows.refl d
  · split
    · exact Grows.refl d
    · exact grows_makeSteps false d

/-- What can be read can be read on a disk that has grown. -/
theorem Grows.read {d e : Disk} (h : Grows d e) {path : String} {bs : List UInt8}
    (hr : d.read path = .ok bs) : e.read path = .ok bs := by
  obtain ⟨t, ht, hw, hs, hn⟩ := read_eq_ok.mp hr
  refine read_eq_ok.mpr ⟨t, ht, walk_eq_ok.mpr fun s hm => ?_, h _ _ hs, hn⟩
  obtain ⟨folder, short⟩ := obstacle?_eq_none.mp (walk_eq_ok.mp hw s hm)
  exact obstacle?_eq_none.mpr ⟨h _ _ folder, short⟩

/-- Every step of a trail leads to a folder. -/
def IsMade (d : Disk) (steps : List (Place × String)) : Prop :=
  ∀ s ∈ steps, d.obstacle? s = none ∧ d.stands? (s.1.step s.2) = some .folder

/-- Where every step leads to a folder, nothing is made. -/
theorem makeSteps_of_isMade {d : Disk} : ∀ {steps : List (Place × String)} (made : Bool),
    d.IsMade steps → d.makeSteps made steps = (.ok (), d)
  | [], _, _ => rfl
  | s :: steps, made, h => by
    obtain ⟨ho, hs⟩ := h s (by simp)
    unfold makeSteps
    rw [ho]
    simp only [hs]
    exact makeSteps_of_isMade made fun s' hs' => h s' (by simp [hs'])

/-- Where not every folder could be made, some step still leads to no folder. -/
theorem not_isMade_of_makeSteps {e : DiskError} : ∀ {steps : List (Place × String)} (made : Bool)
    (d : Disk), (d.makeSteps made steps).1 = .error e → ¬ (d.makeSteps made steps).2.IsMade steps
  | [], _, _, h => by cases h
  | s :: steps, made, d, h => by
    unfold makeSteps at h ⊢
    intro hall
    have hrest {d' : Disk} (ha : d'.IsMade (s :: steps)) : d'.IsMade steps :=
      fun s' hs' => ha s' (List.mem_cons_of_mem s hs')
    cases ho : d.obstacle? s with
    | some e' =>
      simp only [ho] at hall
      rw [(hall s (by simp)).1] at ho
      cases ho
    | none =>
      cases hs : d.stands? (s.1.step s.2) with
      | none =>
        simp only [ho, hs] at h hall
        exact not_isMade_of_makeSteps true _ h (hrest hall)
      | some x =>
        cases x with
        | folder =>
          simp only [ho, hs] at h hall
          exact not_isMade_of_makeSteps made d h (hrest hall)
        | file bs =>
          simp only [ho, hs] at hall
          rw [(hall s (by simp)).2] at hs
          cases hs

/-! ### Open paths -/

/-- A file can be written at the end of the path. -/
def IsOpen (d : Disk) (path : String) : Prop :=
  ∃ t, trail path = .ok t ∧ d.walk t = .ok () ∧ t.ending = .name ∧ d.stands? t.goal ≠ some .folder

theorem isOpen_iff {d : Disk} {path : String} {t : Trail} (ht : trail path = .ok t) :
    d.IsOpen path ↔ (∀ s ∈ t.steps, d.obstacle? s = none) ∧ t.ending = .name ∧
      d.stands? t.goal ≠ some .folder := by
  rw [IsOpen, ht]
  simp only [Except.ok.injEq, exists_eq_left', walk_eq_ok]

instance (d : Disk) (path : String) : Decidable (d.IsOpen path) :=
  match ht : trail path with
  | .error _ => .isFalse fun ⟨_, h, _⟩ => nomatch ht.symm.trans h
  | .ok _ => decidable_of_iff _ (isOpen_iff ht).symm

theorem IsOpen.write {d : Disk} {path : String} (h : d.IsOpen path) (bs : List UInt8) :
    ∃ e, d.write path bs = .ok e := by
  obtain ⟨t, ht, hw, hn, hf⟩ := h
  exact ⟨_, write_eq_ok.mpr ⟨t, ht, hw, hn, hf, rfl⟩⟩

theorem isOpen_of_write {d e : Disk} {path : String} {bs : List UInt8}
    (h : d.write path bs = .ok e) : d.IsOpen path := by
  obtain ⟨t, ht, hw, hn, hf, -⟩ := write_eq_ok.mp h
  exact ⟨t, ht, hw, hn, hf⟩

theorem isOpen_of_read {d : Disk} {path : String} {bs : List UInt8} (h : d.read path = .ok bs) :
    d.IsOpen path := by
  obtain ⟨t, ht, hw, hs, hn⟩ := read_eq_ok.mp h
  exact ⟨t, ht, hw, hn, by simp [hs]⟩

/-- Only what can be read is removed. -/
theorem read_of_remove {d e : Disk} {path : String} (h : d.remove path = .ok e) :
    ∃ bs, d.read path = .ok bs := by
  simp only [remove, read, bind, Except.bind] at h ⊢
  split at h
  · cases h
  · next t ht =>
    split at h
    · cases h
    · next bs hf => exact ⟨bs, hf⟩

/-- Where a file can be written there is one to be removed, or nothing. -/
theorem remove_of_isOpen {d : Disk} {path : String} (h : d.IsOpen path) :
    (∃ e, d.remove path = .ok e) ∨ d.remove path = .error .missing := by
  obtain ⟨t, ht, hw, hn, hf⟩ := h
  simp only [remove, find, ht, hw, bind, Except.bind]
  cases hs : d.stands? t.goal with
  | none => exact .inr rfl
  | some x =>
    cases x with
    | folder => exact absurd hs hf
    | file bs => exact .inl ⟨d.erase t.goal, by simp [hn]⟩

/-- A file can be written where one was removed. -/
theorem isOpen_of_remove {d e : Disk} {path : String} (h : d.remove path = .ok e) :
    e.IsOpen path := by
  obtain ⟨bs, hr⟩ := read_of_remove h
  obtain ⟨t, ht, hw, hs, hn⟩ := read_eq_ok.mp hr
  have he : e = d.erase t.goal := by
    simp only [remove, find, ht, hw, hs, hn, bind, Except.bind, if_true] at h
    exact (Except.ok.inj h).symm
  have start : t.goal.isStart = false := by
    cases hg : t.goal.isStart with
    | false => rfl
    | true => simp [stands?, hg] at hs
  subst he
  refine ⟨t, ht, walk_eq_ok.mpr fun s hm => ?_, hn, by simp [stands?_erase start]⟩
  obtain ⟨folder, short⟩ := obstacle?_eq_none.mp (walk_eq_ok.mp hw s hm)
  -- no step starts at the file that is removed
  have apart : s.1 ≠ t.goal := fun he => by rw [he, hs] at folder; cases folder
  exact obstacle?_eq_none.mpr ⟨by rw [stands?_erase start, if_neg apart, folder], short⟩

/-- What was removed is missing. -/
theorem remove_of_remove {d e : Disk} {path : String} (h : d.remove path = .ok e) :
    e.remove path = .error .missing := by
  obtain ⟨e', he⟩ | hm := remove_of_isOpen (isOpen_of_remove h)
  · obtain ⟨bs, hr⟩ := read_of_remove he
    exact absurd hr (read_remove h bs)
  · exact hm

/-- The folders around a path that can be walked are there. -/
theorem isMade_of_walk {d : Disk} {t u : Trail} (hw : d.walk t = .ok ())
    (h : ∀ s ∈ u.steps, s ∈ t.steps ∧ ∃ s' ∈ t.steps, s'.1 = s.1.step s.2) :
    d.IsMade u.steps := by
  intro s hs
  obtain ⟨hm, s', hm', he⟩ := h s hs
  have hs' := (obstacle?_eq_none.mp (walk_eq_ok.mp hw s' hm')).1
  exact ⟨walk_eq_ok.mp hw s hm, he ▸ hs'⟩

/-- No folder has to be made where a file can be written. -/
theorem tryFolders_of_isOpen {d : Disk} {path : String} (h : d.IsOpen path) :
    d.tryFolders (Path.folder path) = (.ok (), d) := by
  obtain ⟨t, ht, hw, -, -⟩ := h
  unfold tryFolders Path.folder
  split
  · rfl
  · next hne =>
    cases hq : Path.parent? path with
    | none => simp [hq] at hne
    | some q =>
      simp only [hq, Option.getD_some] at hne ⊢
      obtain ⟨u, hu, hsteps⟩ := steps_parent hq (by simpa using hne) ht
      rw [hu]
      exact makeSteps_of_isMade false (isMade_of_walk hw hsteps)

/-- **Where the folders around a path could not be made, no file can be written or read at
its end, whatever was made of them.** -/
theorem not_isOpen_of_tryFolders {d : Disk} {path : String} {e : DiskError}
    (h : (d.tryFolders (Path.folder path)).1 = .error e) :
    ¬ (d.tryFolders (Path.folder path)).2.IsOpen path := by
  rintro ⟨t, ht, hw, -, -⟩
  unfold tryFolders Path.folder at h hw
  split at h
  · cases h
  · next hne =>
    rw [if_neg hne] at hw
    cases hq : Path.parent? path with
    | none => simp [hq] at hne
    | some q =>
      simp only [hq, Option.getD_some] at hne h hw
      obtain ⟨u, hu, hsteps⟩ := steps_parent hq (by simpa using hne) ht
      simp only [hu] at h hw
      exact not_isMade_of_makeSteps false d h (isMade_of_walk hw hsteps)

end Disk
end ProxyConsole
