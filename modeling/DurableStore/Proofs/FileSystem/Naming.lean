import DurableStore.Proofs.FileSystem.Destination
import Mathlib.Tactic.ByContra

/-!
What creating and removing names does to the others.

A new name is given where nothing stood (`create_eq_ok`, `makeDirectory_eq_ok`), so all that stood
somewhere stays there.  Making a directory ready adds directories and nothing else (`Grows`), does
nothing the second time (`makeDirectories_of_isDirectory`), and removing a file takes away no
directory (`keeps_remove`).
-/

namespace DurableStore

namespace FileSystem

/-! ## New names -/

/-- With one more name, in front of the others. -/
def named (disk : FileSystem) (location : Location) (entry : Entry) : FileSystem :=
  { disk with entries := (location, entry) :: disk.entries }

theorem find?_named (disk : FileSystem) (location other : Location) (entry : Entry) :
    (disk.named location entry).find? other =
      if other = location then some entry else disk.find? other := by
  unfold named find?
  rw [List.lookup_cons]
  by_cases same : other = location
  · simp [same]
  · have differs : (other == location) = false := beq_eq_false_iff_ne.2 same
    rw [differs, if_neg same]

theorem keeps_named {disk : FileSystem} {location : Location} (vacant : disk.find? location = none)
    (entry : Entry) : KeepsDirectories disk (disk.named location entry) := by
  intro other directory
  rw [find?_named, if_neg]
  · exact directory
  · rintro rfl
    rw [vacant] at directory
    cases directory

theorem foldl_goOn_blanks (location : Location) {blanks : List String}
    (blank : ∀ name ∈ blanks, name = "") : blanks.foldl Path.goOn location = location := by
  induction blanks with
  | nil => rfl
  | cons name rest ih =>
    obtain rfl := blank name List.mem_cons_self
    exact ih fun other member => blank other (List.mem_cons_of_mem _ member)

theorem foldlM_follow_blanks {disk : FileSystem} {location : Location}
    (directory : disk.find? location = some .directory) {blanks : List String}
    (blank : ∀ name ∈ blanks, name = "") : blanks.foldlM disk.follow location = .ok location := by
  induction blanks with
  | nil => rfl
  | cons name rest ih =>
    obtain rfl := blank name List.mem_cons_self
    have stays : disk.follow location "" = .ok location := by
      unfold follow
      rw [directory]
      rfl
    rw [List.foldlM_cons, stays]
    exact ih fun other member => blank other (List.mem_cons_of_mem _ member)

theorem dropWhile_eq_cons {p : String → Bool} {names rest : List String} {name : String}
    (h : names.dropWhile p = name :: rest) :
    ∃ front, names = front ++ name :: rest ∧ ∀ other ∈ front, p other = true := by
  induction names with
  | nil => cases h
  | cons first later ih =>
    cases drops : p first with
    | false =>
      rw [List.dropWhile_cons_of_neg (by simp [drops])] at h
      cases h
      exact ⟨[], rfl, by simp⟩
    | true =>
      rw [List.dropWhile_cons_of_pos drops] at h
      obtain ⟨front, rfl, all⟩ := ih h
      exact ⟨first :: front, rfl, by simpa [drops] using all⟩

theorem birthplace_eq_ok {disk : FileSystem} {path : Path} {directory : Location} {name : String}
    (h : disk.birthplace path = .ok (directory, name)) :
    refusal? path = none ∧ ∃ front blanks, path.names = front ++ name :: blanks ∧
      (∀ blank ∈ blanks, blank = "") ∧ disk.walk front = .ok directory := by
  unfold birthplace at h
  split at h
  next => cases h
  next => cases h
  next last before followed dropped =>
    cases walked : disk.walk (before.reverse ++ ["."]) with
    | error kind => rw [walked] at h; cases h
    | ok there =>
      rw [walked] at h
      cases h
      -- The walk ends with a step to `.`, which stays where the directory is.
      obtain ⟨there, front, stays⟩ := walk_append_eq_ok.1 walked
      obtain ⟨_, dot, same⟩ := bind_eq_ok.1 stays
      cases same
      obtain ⟨-, rfl⟩ := follow_eq_ok dot
      obtain ⟨blanks, names, blank⟩ := dropWhile_eq_cons dropped
      refine ⟨followed, before.reverse, blanks.reverse, ?_, ?_, front⟩
      · have := congrArg List.reverse names
        simpa using this
      · intro other member
        simpa using blank other (List.mem_reverse.1 member)

theorem vacancy_eq_ok {disk : FileSystem} {directory location : Location} {name : String}
    (h : disk.vacancy directory name = .ok location) :
    disk.follow directory name = .ok location ∧ disk.find? location = none := by
  obtain ⟨there, followed, rest⟩ := bind_eq_ok.1 h
  cases found : disk.find? there with
  | some entry =>
    rw [found] at rest
    cases rest
  | none =>
    rw [found] at rest
    cases rest
    exact ⟨followed, found⟩

theorem blanks_eq_nil {path : Path} {front blanks : List String} {name : String}
    (names : path.names = front ++ name :: blanks)
    (blank : ∀ other ∈ blanks, other = "") (noSlash : path.endsWithSlash = false) :
    blanks = [] := by
  -- A blank at the end would make the path end with a slash.
  by_contra left
  have last : path.names.getLast? = some "" := by
    rw [names, List.getLast?_append, List.getLast?_cons, List.getLast?_eq_some_getLast left,
      blank _ (List.getLast_mem left)]
    rfl
  have several : path.names ≠ [""] := by
    intro same
    have total := congrArg List.length (names.symm.trans same)
    have := List.length_pos_iff.2 left
    simp only [List.length_append, List.length_cons, List.length_nil] at total
    omega
  simp [Path.endsWithSlash, last, several] at noSlash

/-- Something new stands where its path leads, and can be found there. -/
theorem resolve_born {disk : FileSystem} {path : Path} {directory location : Location}
    {name : String} (born : disk.birthplace path = .ok (directory, name))
    (vacant : disk.vacancy directory name = .ok location) (entry : Entry)
    (fits : entry = .directory ∨ path.endsWithSlash = false) :
    location = path.destination ∧ disk.find? path.destination = none ∧
      (disk.named location entry).resolve path = .ok entry := by
  obtain ⟨followed, front, blanks, names, blank, walked⟩ := birthplace_eq_ok born
  obtain ⟨step, none⟩ := vacancy_eq_ok vacant
  have there : location = path.destination := by
    have destination : path.destination = (front ++ name :: blanks).foldl Path.goOn [] := by
      rw [← names]
      rfl
    rw [destination, List.foldl_append, List.foldl_cons, foldl_goOn_blanks _ blank,
      ← foldlM_follow_eq_ok walked, ← (follow_eq_ok step).2]
  refine ⟨there, there ▸ none, ?_⟩
  have keeps : KeepsDirectories disk (disk.named location entry) := keeps_named none entry
  have found : (disk.named location entry).find? location = some entry := by
    rw [find?_named, if_pos rfl]
  -- Only a directory can be followed by the blanks that slashes leave behind its name.
  have rest : blanks.foldlM (disk.named location entry).follow location = .ok location := by
    rcases fits with rfl | noSlash
    · exact foldlM_follow_blanks found blank
    · obtain rfl := blanks_eq_nil names blank noSlash
      rfl
  refine resolve_eq_ok_iff.2 ⟨?_, there ▸ found⟩
  rw [locate, followed]
  rw [← there]
  simp only
  rw [names]
  exact walk_append_eq_ok.2 ⟨directory, foldlM_follow_of_keeps keeps walked,
    bind_eq_ok.2 ⟨location, follow_of_keeps keeps step, rest⟩⟩

theorem create_eq_ok {disk after : FileSystem} {path : Path} {id : FileId}
    (h : disk.create path = .ok (id, after)) :
    disk.find? path.destination = none ∧ id = disk.contents.size ∧
      after = { disk.named path.destination (.file id) with
        contents := disk.contents.push .empty } ∧
      after.resolve path = .ok (.file id) := by
  obtain ⟨⟨directory, name⟩, born, rest⟩ := bind_eq_ok.1 h
  cases slash : path.endsWithSlash with
  | true => simp only [slash, if_true] at rest; cases rest
  | false =>
    simp only [slash, Bool.false_eq_true, if_false] at rest
    obtain ⟨location, vacant, made⟩ := bind_eq_ok.1 rest
    cases made
    obtain ⟨rfl, none, resolved⟩ :=
      resolve_born born vacant (.file disk.contents.size) (.inr slash)
    exact ⟨none, rfl, rfl, resolved⟩

theorem makeDirectory_eq_ok {disk after : FileSystem} {path : Path}
    (h : disk.makeDirectory path = .ok after) :
    disk.find? path.destination = none ∧ after = disk.named path.destination .directory ∧
      after.resolve path = .ok .directory := by
  obtain ⟨⟨directory, name⟩, born, rest⟩ := bind_eq_ok.1 h
  obtain ⟨location, vacant, made⟩ := bind_eq_ok.1 rest
  cases made
  obtain ⟨rfl, none, resolved⟩ := resolve_born born vacant .directory (.inl rfl)
  exact ⟨none, rfl, resolved⟩

/-! ## Making a directory ready -/

/-- The second disk has more directories than the first, and differs in nothing else. -/
structure Grows (before after : FileSystem) : Prop where
  stays : ∀ location entry, before.find? location = some entry →
    after.find? location = some entry
  onlyDirectories : ∀ location, after.find? location = before.find? location ∨
    before.find? location = none ∧ after.find? location = some .directory
  contents : after.contents = before.contents
  memory : after.memory = before.memory

theorem Grows.refl (disk : FileSystem) : Grows disk disk :=
  ⟨fun _ _ h => h, fun _ => .inl rfl, rfl, rfl⟩

theorem Grows.trans {first second third : FileSystem} (h : Grows first second)
    (h' : Grows second third) : Grows first third := by
  refine ⟨fun location entry found => h'.stays _ _ (h.stays _ _ found), ?_,
    h'.contents.trans h.contents, h'.memory.trans h.memory⟩
  intro location
  rcases h.onlyDirectories location with same | ⟨none, made⟩
  · rw [← same]
    exact h'.onlyDirectories location
  · exact .inr ⟨none, h'.stays _ _ made⟩

theorem Grows.keeps {before after : FileSystem} (h : Grows before after) :
    KeepsDirectories before after :=
  fun location => h.stays location .directory

theorem grows_named {disk : FileSystem} {location : Location}
    (vacant : disk.find? location = none) : Grows disk (disk.named location .directory) := by
  refine ⟨?_, ?_, rfl, rfl⟩
  · intro other entry found
    rw [find?_named, if_neg]
    · exact found
    · rintro rfl
      rw [vacant] at found
      cases found
  · intro other
    rw [find?_named]
    split
    next same => exact .inr ⟨same ▸ vacant, rfl⟩
    next => exact .inl rfl

theorem ensureDirectory_grows (disk : FileSystem) (path : Path) :
    Grows disk (disk.ensureDirectory path).2 := by
  unfold ensureDirectory
  split
  next after made =>
    obtain ⟨vacant, rfl, -⟩ := makeDirectory_eq_ok made
    exact grows_named vacant
  next => exact .refl disk

theorem ensureDirectory_eq_ok {disk after : FileSystem} {path : Path}
    (h : disk.ensureDirectory path = (.ok (), after)) : after.isDirectory path = true := by
  unfold ensureDirectory at h
  split at h
  next made =>
    cases h
    exact isDirectory_iff.2 (makeDirectory_eq_ok made).2.2
  next =>
    split at h
    next there => cases h; exact there
    next => cases h

theorem makeDirectories_grows (disk : FileSystem) (path : Path) :
    Grows disk (disk.makeDirectories path).2 := by
  fun_induction makeDirectories disk path with
  | case1 disk path first parent _ failed second made ih =>
    have start := ensureDirectory_grows disk path
    rw [failed] at start
    rw [made] at ih
    exact (start.trans ih).trans (ensureDirectory_grows second path)
  | case2 disk path first parent _ failed kind second made ih =>
    have start := ensureDirectory_grows disk path
    rw [failed] at start
    rw [made] at ih
    exact start.trans ih
  | case3 disk path _ => exact ensureDirectory_grows disk path

theorem makeDirectories_eq_ok {disk after : FileSystem} {path : Path}
    (h : disk.makeDirectories path = (.ok (), after)) : after.isDirectory path = true := by
  unfold makeDirectories at h
  split at h
  next =>
    split at h
    next => exact ensureDirectory_eq_ok h
    next => cases h
  next => exact ensureDirectory_eq_ok h

/-- A directory that is there is not made again. -/
theorem makeDirectory_of_isDirectory {disk : FileSystem} {path : Path}
    (there : disk.isDirectory path = true) : ∃ kind, disk.makeDirectory path = .error kind := by
  obtain ⟨-, found⟩ := resolve_eq_ok_iff.1 (isDirectory_iff.1 there)
  cases made : disk.makeDirectory path with
  | error kind => exact ⟨kind, rfl⟩
  | ok after =>
    rw [(makeDirectory_eq_ok made).1] at found
    cases found

theorem makeDirectories_of_isDirectory {disk : FileSystem} {path : Path}
    (there : disk.isDirectory path = true) : disk.makeDirectories path = (.ok (), disk) := by
  obtain ⟨kind, refused⟩ := makeDirectory_of_isDirectory there
  have ensured : disk.ensureDirectory path = (.ok (), disk) := by
    unfold ensureDirectory
    rw [refused]
    simp only [there, if_true]
  unfold makeDirectories
  rw [ensured]

/-! ## Removing files -/

theorem lookup_filter_ne (entries : List (Location × Entry)) (location other : Location) :
    (entries.filter (·.1 ≠ location)).lookup other =
      if other = location then none else entries.lookup other := by
  induction entries with
  | nil => simp
  | cons head rest ih =>
    obtain ⟨there, entry⟩ := head
    rw [List.filter_cons]
    by_cases gone : there = location
    · subst gone
      simp only [ne_eq, not_true_eq_false, decide_false, Bool.false_eq_true, if_false, ih,
        List.lookup_cons]
      split
      next => rfl
      next differs => rw [beq_eq_false_iff_ne.2 differs]
    · simp only [ne_eq, gone, not_false_eq_true, decide_true, if_true, List.lookup_cons, ih]
      by_cases here : other = there
      · subst here
        simp [gone]
      · rw [beq_eq_false_iff_ne.2 here]

/-- Removing takes the name of a file away and leaves every other name and all bytes. -/
theorem remove_eq_ok {disk after : FileSystem} {path : Path} (h : disk.remove path = .ok after) :
    (∃ id, disk.find? path.destination = some (.file id)) ∧ after.contents = disk.contents ∧
      ∀ location, after.find? location =
        if location = path.destination then none else disk.find? location := by
  obtain ⟨location, located, rest⟩ := bind_eq_ok.1 h
  obtain rfl := (locate_eq_ok located).2.2
  split at rest
  next id found =>
    cases rest
    exact ⟨⟨id, found⟩, rfl, fun location => lookup_filter_ne ..⟩
  next => cases rest
  next => cases rest

theorem memory_remove {disk after : FileSystem} {path : Path}
    (h : disk.remove path = .ok after) : after.memory = disk.memory := by
  obtain ⟨location, -, rest⟩ := bind_eq_ok.1 h
  split at rest
  next =>
    cases rest
    rfl
  next => cases rest
  next => cases rest

theorem keeps_remove {disk after : FileSystem} {path : Path} (h : disk.remove path = .ok after) :
    KeepsDirectories disk after := by
  obtain ⟨⟨id, file⟩, -, names⟩ := remove_eq_ok h
  intro location directory
  rw [names, if_neg]
  · exact directory
  · rintro rfl
    rw [file] at directory
    cases directory

end FileSystem

end DurableStore
