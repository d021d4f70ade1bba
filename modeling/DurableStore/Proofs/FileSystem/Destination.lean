import DurableStore.FileSystem

/-!
Where paths lead.

Following a path depends on the disk only in whether it succeeds: the location it leads to is read
off its names (`Path.destination`, `locate_eq_ok`).  So what stands at a path stays there as long
as the directories on the way and the entry at its destination do (`resolve_of_keeps`), and that
is all that creating directories and removing files elsewhere can touch.
-/

namespace DurableStore

/-! ## The destination of a path -/

/-- Where one more name leads from a location. -/
def Path.goOn (location : Location) (name : String) : Location :=
  if staysPut name then location
  else if name = ".." then location.dropLast
  else location ++ [name]

/-- Where a path leads, if it leads anywhere. -/
def Path.destination (path : Path) : Location :=
  path.names.foldl goOn []

@[simp] theorem Path.goOn_empty (location : Location) : goOn location "" = location := rfl

theorem Path.destination_child (path : Path) (name : String) :
    (path.child name).destination = goOn path.destination name := by
  obtain ⟨names⟩ := path
  have relative : (⟨[name]⟩ : Path).isAbsolute = false := by
    by_cases empty : name = "" <;> simp [isAbsolute, empty]
  unfold child join
  simp only [relative, Bool.false_eq_true, if_false]
  split
  next slash =>
    obtain ⟨front, rfl⟩ : ∃ front, names = front ++ [""] := by
      have nonempty : names ≠ [] := by
        rintro rfl
        simp at slash
      obtain ⟨front, last, rfl⟩ := (List.eq_nil_or_concat names).resolve_left nonempty
      exact ⟨front, by simpa using slash⟩
    simp [destination]
  next => simp [destination]

theorem bind_eq_ok {ε α β : Type} {first : Except ε α} {next : α → Except ε β} {result : β} :
    first >>= next = .ok result ↔ ∃ value, first = .ok value ∧ next value = .ok result := by
  cases first with
  | error fault =>
    constructor
    · intro h
      cases h
    · rintro ⟨_, same, _⟩
      cases same
  | ok value =>
    constructor
    · intro h
      exact ⟨value, rfl, h⟩
    · rintro ⟨_, same, h⟩
      cases same
      exact h

theorem toOption_eq_some {ε α : Type} {result : Except ε α} {value : α} :
    result.toOption = some value ↔ result = .ok value := by
  cases result with
  | error fault => simp [Except.toOption]
  | ok other => simp [Except.toOption]

namespace FileSystem

theorem find?_empty_ne_file (location : Location) (id : FileId) :
    empty.find? location ≠ some (.file id) := by
  unfold find? empty
  rw [List.lookup_cons]
  split
  next => simp
  next => simp

/-! ## Following paths succeeds only towards the destination -/

theorem follow_eq_ok {disk : FileSystem} {location there : Location} {name : String}
    (h : disk.follow location name = .ok there) :
    disk.find? location = some .directory ∧ there = Path.goOn location name := by
  unfold follow at h
  split at h
  next => cases h
  next => cases h
  next directory =>
    -- The tests on the name are the same ones in the same order.
    refine ⟨directory, ?_⟩
    unfold Path.goOn
    split at h
    next stays => cases h; rw [if_pos stays]
    next moves =>
      rw [if_neg moves]
      split at h
      next up => cases h; rw [if_pos up]
      next down =>
        rw [if_neg down]
        split at h
        next => cases h
        next => cases h; rfl

theorem foldlM_follow_eq_ok {disk : FileSystem} {names : List String} {location there : Location}
    (h : names.foldlM disk.follow location = .ok there) :
    there = names.foldl Path.goOn location := by
  induction names generalizing location with
  | nil => cases h; rfl
  | cons name rest ih =>
    rw [List.foldlM_cons] at h
    obtain ⟨next, step, later⟩ := bind_eq_ok.1 h
    rw [List.foldl_cons, ← (follow_eq_ok step).2]
    exact ih later

theorem walk_append_eq_ok {disk : FileSystem} {front back : List String} {there : Location} :
    disk.walk (front ++ back) = .ok there ↔
      ∃ location, disk.walk front = .ok location ∧
        back.foldlM disk.follow location = .ok there := by
  unfold walk
  rw [List.foldlM_append]
  exact bind_eq_ok

theorem locate_eq_ok {disk : FileSystem} {path : Path} {location : Location}
    (h : disk.locate path = .ok location) :
    refusal? path = none ∧ disk.walk path.names = .ok location ∧ location = path.destination := by
  unfold locate at h
  split at h
  next => cases h
  next followed => exact ⟨followed, h, foldlM_follow_eq_ok h⟩

theorem resolve_eq_ok_iff {disk : FileSystem} {path : Path} {entry : Entry} :
    disk.resolve path = .ok entry ↔
      disk.locate path = .ok path.destination ∧ disk.find? path.destination = some entry := by
  unfold resolve
  constructor
  · intro h
    split at h
    next => cases h
    next location located =>
      obtain rfl := (locate_eq_ok located).2.2
      split at h
      next found => cases h; exact ⟨located, found⟩
      next => cases h
  · rintro ⟨located, found⟩
    rw [located]
    simp only [found]

/-! ## What stays when directories do -/

/-- Every directory of the first disk is a directory of the second. -/
def KeepsDirectories (before after : FileSystem) : Prop :=
  ∀ location, before.find? location = some .directory → after.find? location = some .directory

theorem follow_of_keeps {before after : FileSystem} (keeps : KeepsDirectories before after)
    {location there : Location} {name : String} (h : before.follow location name = .ok there) :
    after.follow location name = .ok there := by
  have directory := (follow_eq_ok h).1
  unfold follow at h ⊢
  rw [directory] at h
  rw [keeps location directory]
  exact h

theorem foldlM_follow_of_keeps {before after : FileSystem} (keeps : KeepsDirectories before after)
    {names : List String} {location there : Location}
    (h : names.foldlM before.follow location = .ok there) :
    names.foldlM after.follow location = .ok there := by
  induction names generalizing location with
  | nil => exact h
  | cons name rest ih =>
    rw [List.foldlM_cons] at h ⊢
    obtain ⟨next, step, later⟩ := bind_eq_ok.1 h
    exact bind_eq_ok.2 ⟨next, follow_of_keeps keeps step, ih later⟩

theorem locate_of_keeps {before after : FileSystem} (keeps : KeepsDirectories before after)
    {path : Path} {location : Location} (h : before.locate path = .ok location) :
    after.locate path = .ok location := by
  obtain ⟨followed, walked, -⟩ := locate_eq_ok h
  unfold locate
  rw [followed]
  exact foldlM_follow_of_keeps keeps walked

/-- What stands at a path stays there if the directories do and the entry itself does. -/
theorem resolve_of_keeps {before after : FileSystem} (keeps : KeepsDirectories before after)
    {path : Path} {entry : Entry} (h : before.resolve path = .ok entry)
    (same : after.find? path.destination = before.find? path.destination) :
    after.resolve path = .ok entry := by
  obtain ⟨located, found⟩ := resolve_eq_ok_iff.1 h
  exact resolve_eq_ok_iff.2 ⟨locate_of_keeps keeps located, same.trans found⟩

theorem isDirectory_iff {disk : FileSystem} {path : Path} :
    disk.isDirectory path = true ↔ disk.resolve path = .ok .directory := by
  unfold isDirectory
  split
  next h => simp [h]
  next h => simp [h]
  next h => simp [h]

end FileSystem

end DurableStore
