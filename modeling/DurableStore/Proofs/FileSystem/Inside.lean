import DurableStore.Proofs.FileSystem.Naming

/-!
What can be created directly inside a directory.

The path of a name inside a directory leads through that directory (`walk_child`), so nothing on
the way is missing: a directory made there is the only one made (`makeDirectories_child`), and a
file is created unless something stands there or the path is too long (`create_child`).
-/

namespace DurableStore

/-- A name that leads into a directory: it goes neither back nor nowhere, and is not too long. -/
structure Path.Inward (name : String) : Prop where
  goesOn : staysPut name = false
  down : name ≠ ".."
  short : name.utf8ByteSize ≤ FileSystem.longestName

namespace Path.Inward

variable {name : String}

theorem goOn (h : Inward name) (location : Location) :
    Path.goOn location name = location ++ [name] := by
  unfold Path.goOn
  rw [h.goesOn, if_neg Bool.false_ne_true, if_neg h.down]

theorem destination (h : Inward name) (path : Path) :
    (path.child name).destination = path.destination ++ [name] := by
  rw [destination_child, h.goOn]

theorem ne_empty (h : Inward name) : name ≠ "" := by
  rintro rfl
  cases h.goesOn

end Path.Inward

theorem Path.names_child (path : Path) :
    ∃ front blanks, path.names = front ++ blanks ∧ (∀ blank ∈ blanks, blank = "") ∧
      ∀ name, (path.child name).names = front ++ [name] := by
  obtain ⟨names⟩ := path
  have relative (name : String) : (⟨[name]⟩ : Path).isAbsolute = false := by
    by_cases empty : name = "" <;> simp [isAbsolute, empty]
  unfold child join
  simp only [relative, Bool.false_eq_true, if_false]
  by_cases slash : names.getLast? = some ""
  · obtain ⟨front, rfl⟩ := List.getLast?_eq_some_iff.1 slash
    exact ⟨front, [""], rfl, by simp, by simp⟩
  · exact ⟨names, [], by simp, by simp, by simp [slash]⟩

namespace FileSystem

variable {disk : FileSystem} {path : Path} {name : String}

/-- The names before the last one lead to the directory. -/
theorem walk_child (there : disk.isDirectory path = true) (name : String) :
    ∃ front, (path.child name).names = front ++ [name] ∧
      disk.walk front = .ok path.destination := by
  obtain ⟨located, found⟩ := resolve_eq_ok_iff.1 (isDirectory_iff.1 there)
  obtain ⟨-, walked, -⟩ := locate_eq_ok located
  obtain ⟨front, blanks, names, blank, child⟩ := path.names_child
  refine ⟨front, child name, ?_⟩
  rw [names] at walked
  obtain ⟨location, first, rest⟩ := walk_append_eq_ok.1 walked
  -- A slash at the end of the path leads nowhere else.
  obtain rfl : location = path.destination := by
    have stays := foldlM_follow_eq_ok rest
    rw [foldl_goOn_blanks location blank] at stays
    exact stays.symm
  exact first

theorem follow_dot {location : Location} (directory : disk.find? location = some .directory) :
    disk.follow location "." = .ok location := by
  unfold follow
  rw [directory]
  rfl

theorem follow_inward (inward : Path.Inward name) {location : Location}
    (directory : disk.find? location = some .directory) :
    disk.follow location name = .ok (location ++ [name]) := by
  unfold follow
  rw [directory]
  simp only [inward.goesOn, Bool.false_eq_true, if_false, inward.down,
    Nat.not_lt.2 inward.short]

theorem birthplace_child (there : disk.isDirectory path = true) (inward : Path.Inward name) :
    disk.birthplace (path.child name) =
      match refusal? (path.child name) with
      | some kind => .error kind
      | none => .ok (path.destination, name) := by
  have found := (resolve_eq_ok_iff.1 (isDirectory_iff.1 there)).2
  obtain ⟨front, names, walked⟩ := walk_child there name
  have last : (path.child name).names.reverse.dropWhile (·.isEmpty) = name :: front.reverse := by
    rw [names, List.reverse_concat, List.dropWhile_cons_of_neg]
    simpa using inward.ne_empty
  have arrives : disk.walk (front ++ ["."]) = .ok path.destination :=
    walk_append_eq_ok.2 ⟨_, walked, bind_eq_ok.2 ⟨_, follow_dot found, rfl⟩⟩
  unfold birthplace
  rw [last]
  cases refusal? (path.child name) with
  | some kind => rfl
  | none =>
    simp only [List.reverse_reverse, arrives]
    rfl

theorem vacancy_inward (inward : Path.Inward name) {location : Location}
    (directory : disk.find? location = some .directory) :
    disk.vacancy location name =
      if (disk.find? (location ++ [name])).isSome then .error .alreadyExists
      else .ok (location ++ [name]) := by
  unfold vacancy
  rw [follow_inward inward directory]
  show (if _ then _ else _) = _
  split
  next => rfl
  next => rfl

theorem refusal?_ne_notFound (path : Path) : refusal? path ≠ some .notFound := by
  unfold refusal?
  split
  next => simp
  next =>
    split
    next => simp
    next => simp

/-- Nothing is missing on the way to a name inside a directory. -/
theorem makeDirectory_child_ne (there : disk.isDirectory path = true)
    (inward : Path.Inward name) : disk.makeDirectory (path.child name) ≠ .error .notFound := by
  have found := (resolve_eq_ok_iff.1 (isDirectory_iff.1 there)).2
  have allowed := refusal?_ne_notFound (path.child name)
  unfold makeDirectory
  rw [birthplace_child there inward]
  cases refused : refusal? (path.child name) with
  | some kind =>
    intro missing
    cases missing
    exact allowed refused
  | none =>
    show (disk.vacancy path.destination name >>= _) ≠ _
    rw [vacancy_inward inward found]
    split
    next => nofun
    next => nofun

theorem makeDirectories_eq_ensureDirectory
    (present : (disk.ensureDirectory path).1 ≠ .error .notFound) :
    disk.makeDirectories path = disk.ensureDirectory path := by
  unfold makeDirectories
  split
  next missing _ => exact absurd (congrArg Prod.fst missing) present
  next => rfl

/-- Making a directory inside another makes no other one. -/
theorem makeDirectories_child (there : disk.isDirectory path = true)
    (inward : Path.Inward name) :
    (disk.makeDirectories (path.child name)).2 = disk ∨
      disk.find? (path.child name).destination = none ∧
        (disk.makeDirectories (path.child name)).2 =
          disk.named (path.child name).destination .directory := by
  cases made : disk.makeDirectory (path.child name) with
  | ok after =>
    obtain ⟨vacant, same, -⟩ := makeDirectory_eq_ok made
    have ensured : disk.ensureDirectory (path.child name) = (.ok (), after) := by
      unfold ensureDirectory
      rw [made]
    rw [makeDirectories_eq_ensureDirectory (by rw [ensured]; nofun), ensured]
    exact .inr ⟨vacant, same⟩
  | error kind =>
    have ensured : disk.ensureDirectory (path.child name) =
        (if disk.isDirectory (path.child name) then .ok () else .error kind, disk) := by
      unfold ensureDirectory
      rw [made]
    have present : (disk.ensureDirectory (path.child name)).1 ≠ .error .notFound := by
      rw [ensured]
      split
      next => nofun
      next =>
        intro missing
        cases missing
        exact makeDirectory_child_ne there inward made
    rw [makeDirectories_eq_ensureDirectory present, ensured]
    exact .inl rfl

/-! ## What stands inside a directory -/

theorem locate_child (there : disk.isDirectory path = true) (inward : Path.Inward name)
    (allowed : refusal? (path.child name) = none) :
    disk.locate (path.child name) = .ok (path.child name).destination := by
  have found := (resolve_eq_ok_iff.1 (isDirectory_iff.1 there)).2
  obtain ⟨front, names, walked⟩ := walk_child there name
  unfold locate
  rw [allowed, inward.destination, names]
  exact walk_append_eq_ok.2 ⟨_, walked, bind_eq_ok.2 ⟨_, follow_inward inward found, rfl⟩⟩

/-- What cannot be found inside a directory is not there. -/
theorem find?_child_of_error (there : disk.isDirectory path = true) (inward : Path.Inward name)
    (allowed : refusal? (path.child name) = none) {kind : IoKind}
    (missing : disk.resolve (path.child name) = .error kind) :
    disk.find? (path.child name).destination = none := by
  cases found : disk.find? (path.child name).destination with
  | none => rfl
  | some entry =>
    rw [resolve_eq_ok_iff.2 ⟨locate_child there inward allowed, found⟩] at missing
    cases missing

/-- A path is allowed if that of a longer name in the same directory is. -/
theorem refusal?_child {other : String} (allowed : refusal? (path.child other) = none)
    (plain : name.toList.contains '\x00' = false)
    (shorter : name.utf8ByteSize ≤ other.utf8ByteSize) : refusal? (path.child name) = none := by
  obtain ⟨front, _, -, -, child⟩ := path.names_child
  unfold refusal? Path.text at allowed ⊢
  rw [child] at allowed ⊢
  have plainFront : front.any (·.toList.contains '\x00') = false := by
    by_contra marked
    rw [if_pos (by simp_all)] at allowed
    cases allowed
  have longOther : ¬longestPath < ("/".intercalate (front ++ [other])).utf8ByteSize := by
    intro long
    rw [if_pos long] at allowed
    split at allowed
    next => cases allowed
    next => cases allowed
  have sizes : ("/".intercalate (front ++ [name])).utf8ByteSize ≤
      ("/".intercalate (front ++ [other])).utf8ByteSize := by
    by_cases empty : front = []
    · simpa [empty] using shorter
    · rw [String.intercalate_append_of_ne_nil empty (by simp),
        String.intercalate_append_of_ne_nil empty (by simp)]
      simpa using shorter
  rw [if_neg (by simp_all), if_neg (by omega)]

/-- A file can be created inside a directory where nothing stands. -/
theorem create_child (there : disk.isDirectory path = true) (inward : Path.Inward name)
    (allowed : refusal? (path.child name) = none)
    (vacant : disk.find? (path.child name).destination = none) :
    ∃ after, disk.create (path.child name) = .ok (disk.contents.size, after) := by
  have found := (resolve_eq_ok_iff.1 (isDirectory_iff.1 there)).2
  obtain ⟨front, names, -⟩ := walk_child there name
  have noSlash : (path.child name).endsWithSlash = false := by
    simp [Path.endsWithSlash, names, inward.ne_empty]
  have born : disk.birthplace (path.child name) = .ok (path.destination, name) := by
    rw [birthplace_child there inward, allowed]
  have free : disk.vacancy path.destination name = .ok (path.destination ++ [name]) := by
    rw [vacancy_inward inward found, ← inward.destination, vacant]
    rfl
  simp only [create, bind, Except.bind, born, noSlash, free]
  exact ⟨_, rfl⟩

end FileSystem

end DurableStore
