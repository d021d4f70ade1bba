import DurableStore.Proofs.FileSystem.Naming
import Mathlib.Data.List.TakeWhile

/-!
What stands at a path before a file is created there and before it is removed.

* That something is there already is said only of a path where something stands
  (`find?_of_alreadyExists`).
* A file is `Removable` if the way to it is there and no directory stands at its end: then whether
  it exists, how long it is and whether it can be removed is read off its destination alone.
* Removing files takes their names away and nothing else (`Erases`), so what is elsewhere is found
  as before (`existing_of_erases`, `total_of_erases`).
-/

namespace DurableStore

namespace FileSystem

/-! ## Names that are in use -/

variable {disk before after : FileSystem} {path file other : Path}

theorem follow_ne_alreadyExists (disk : FileSystem) (location : Location) (name : String) :
    disk.follow location name ≠ .error .alreadyExists := by
  unfold follow
  split
  next => nofun
  next => nofun
  next =>
    split
    next => nofun
    next =>
      split
      next => nofun
      next =>
        split
        next => nofun
        next => nofun

theorem foldlM_follow_ne_alreadyExists (disk : FileSystem) (location : Location)
    (names : List String) : names.foldlM disk.follow location ≠ .error .alreadyExists := by
  induction names generalizing location with
  | nil => nofun
  | cons name rest ih =>
    rw [List.foldlM_cons]
    cases step : disk.follow location name with
    | error kind =>
      intro failed
      cases failed
      exact follow_ne_alreadyExists disk location name step
    | ok next => exact ih next

theorem refusal?_ne_alreadyExists (path : Path) : refusal? path ≠ some .alreadyExists := by
  unfold refusal?
  split
  next => nofun
  next =>
    split
    next => nofun
    next => nofun

theorem birthplace_ne_alreadyExists (visible : ∃ name ∈ path.names, name ≠ "") :
    disk.birthplace path ≠ .error .alreadyExists := by
  unfold birthplace
  split
  next kind refused =>
    intro failed
    cases failed
    exact refusal?_ne_alreadyExists path refused
  next blank =>
    obtain ⟨name, member, visible⟩ := visible
    have empty := List.dropWhile_eq_nil_iff.1 blank name (List.mem_reverse.2 member)
    exact absurd (by simpa using empty) visible
  next name before _ _ =>
    intro failed
    cases walked : disk.walk (before.reverse ++ ["."]) with
    | ok there =>
      rw [walked] at failed
      cases failed
    | error kind =>
      rw [walked] at failed
      cases failed
      exact foldlM_follow_ne_alreadyExists disk [] _ walked

/-- A file cannot be created because something is there: so it is, at the destination. -/
theorem find?_of_alreadyExists (visible : ∃ name ∈ path.names, name ≠ "")
    (taken : disk.create path = .error .alreadyExists) :
    ∃ entry, disk.find? path.destination = some entry := by
  unfold create at taken
  cases born : disk.birthplace path with
  | error kind =>
    rw [born] at taken
    cases taken
    exact absurd born (birthplace_ne_alreadyExists visible)
  | ok place =>
    obtain ⟨directory, name⟩ := place
    rw [born] at taken
    obtain ⟨-, front, blanks, names, blank, walked⟩ := birthplace_eq_ok born
    cases slash : path.endsWithSlash with
    | true =>
      simp only [slash, if_true] at taken
      cases taken
    | false =>
      simp only [slash, Bool.false_eq_true, if_false, bind, Except.bind, vacancy] at taken
      cases step : disk.follow directory name with
      | error kind =>
        rw [step] at taken
        cases taken
        exact absurd step (follow_ne_alreadyExists disk directory name)
      | ok location =>
        have there : path.destination = location := by
          rw [Path.destination, names, List.foldl_append, List.foldl_cons,
            foldl_goOn_blanks _ blank, ← foldlM_follow_eq_ok walked, (follow_eq_ok step).2]
        simp only [step] at taken
        rw [there]
        cases found : disk.find? location with
        | some entry => exact ⟨entry, rfl⟩
        | none =>
          simp only [found] at taken
          cases taken

theorem mem_of_find? {location : Location} {entry : Entry}
    (found : disk.find? location = some entry) : location ∈ disk.entries.map Prod.fst := by
  obtain ⟨front, back, split, -⟩ := List.lookup_eq_some_iff.1 found
  rw [split]
  simp

/-! ## Files that can be removed -/

/-- The way to the file is there, and the file stands at its end or nothing does. -/
structure Removable (disk : FileSystem) (file : Path) : Prop where
  located : disk.locate file = .ok file.destination
  noDirectory : disk.find? file.destination ≠ some .directory

namespace Removable

theorem resolve_eq (h : disk.Removable file) :
    disk.resolve file =
      match disk.find? file.destination with
      | some entry => .ok entry
      | none => .error .notFound := by
  cases found : disk.find? file.destination with
  | none => simp only [resolve, h.located, found]
  | some entry => simp only [resolve, h.located, found]

theorem exists?_eq (h : disk.Removable file) :
    disk.exists? file = (disk.find? file.destination).isSome := by
  unfold exists?
  rw [h.resolve_eq]
  cases disk.find? file.destination with
  | none => rfl
  | some entry => rfl

theorem lengthAt?_eq (h : disk.Removable file) :
    disk.lengthAt? file =
      match disk.find? file.destination with
      | some (.file id) => some (disk.length id)
      | some .directory | none => none := by
  unfold lengthAt?
  rw [h.resolve_eq]
  cases disk.find? file.destination with
  | none => rfl
  | some entry => cases entry <;> rfl

/-- A file that exists can be removed. -/
theorem remove (h : disk.Removable file) (there : disk.exists? file = true) :
    ∃ after, disk.remove file = .ok after := by
  rw [h.exists?_eq] at there
  obtain ⟨entry, found⟩ := Option.isSome_iff_exists.1 there
  cases entry with
  | directory => exact absurd found h.noDirectory
  | file id =>
    refine ⟨{ disk with entries := disk.entries.filter (·.1 ≠ file.destination) }, ?_⟩
    unfold FileSystem.remove
    rw [h.located]
    simp only [bind, Except.bind, found]
    rfl

/-- That stays so as long as no directory is lost and the name is given to nothing else. -/
theorem of_keeps (h : before.Removable file) (keeps : KeepsDirectories before after)
    (same : after.find? file.destination = before.find? file.destination ∨
      after.find? file.destination = none) : after.Removable file := by
  refine ⟨locate_of_keeps keeps h.located, ?_⟩
  rcases same with same | none
  · rw [same]
    exact h.noDirectory
  · rw [none]
    nofun

end Removable

/-! ## Creating a file -/

section Creating

variable {id : FileId} (created : before.create file = .ok (id, after))

include created

theorem removable_of_create : after.Removable file ∧ after.exists? file = true := by
  obtain ⟨-, -, -, resolved⟩ := create_eq_ok created
  obtain ⟨located, found⟩ := resolve_eq_ok_iff.1 resolved
  refine ⟨⟨located, ?_⟩, ?_⟩
  · rw [found]
    nofun
  · unfold exists?
    rw [resolved]
    rfl

theorem find?_create (location : Location) :
    after.find? location =
      if location = file.destination then some (.file id) else before.find? location := by
  obtain ⟨-, -, rfl, -⟩ := create_eq_ok created
  exact find?_named before file.destination location (.file id)

theorem keeps_create : KeepsDirectories before after := by
  obtain ⟨vacant, -, rfl, -⟩ := create_eq_ok created
  exact keeps_named vacant (.file id)

/-- What is elsewhere stays there. -/
theorem Removable.create (h : before.Removable other)
    (elsewhere : other.destination ≠ file.destination) :
    after.Removable other ∧ after.exists? other = before.exists? other := by
  have same : after.find? other.destination = before.find? other.destination := by
    rw [find?_create created, if_neg elsewhere]
  have removable := h.of_keeps (keeps_create created) (.inl same)
  exact ⟨removable, by rw [removable.exists?_eq, h.exists?_eq, same]⟩

end Creating

/-! ## Removing files -/

theorem exists?_of_remove (removed : disk.remove file = .ok after) :
    disk.exists? file = true := by
  obtain ⟨location, located, -⟩ := bind_eq_ok.1 removed
  obtain rfl := (locate_eq_ok located).2.2
  obtain ⟨⟨id, found⟩, -, -⟩ := remove_eq_ok removed
  unfold exists?
  rw [resolve_eq_ok_iff.2 ⟨located, found⟩]
  rfl

/-- The second disk lacks the names at `gone`, and differs from the first in nothing else. -/
structure Erases (gone : List Location) (before after : FileSystem) : Prop where
  names : ∀ location, after.find? location =
    if location ∈ gone then none else before.find? location
  contents : after.contents = before.contents
  keeps : KeepsDirectories before after

namespace Erases

variable {gone gone' : List Location} {first second third : FileSystem}

theorem refl (disk : FileSystem) : Erases [] disk disk :=
  ⟨fun _ => by simp, rfl, fun _ h => h⟩

theorem trans (h : Erases gone first second) (h' : Erases gone' second third) :
    Erases (gone ++ gone') first third := by
  refine ⟨?_, h'.contents.trans h.contents, fun location found => h'.keeps _ (h.keeps _ found)⟩
  intro location
  rw [h'.names, h.names]
  by_cases late : location ∈ gone'
  · simp [late]
  · simp [late]

theorem of_remove (removed : before.remove file = .ok after) :
    Erases [file.destination] before after := by
  obtain ⟨-, contents, names⟩ := remove_eq_ok removed
  refine ⟨?_, contents, keeps_remove removed⟩
  intro location
  rw [names]
  simp only [List.mem_singleton]

theorem removable (h : Erases gone before after) (removable : before.Removable file) :
    after.Removable file := by
  refine removable.of_keeps h.keeps ?_
  rw [h.names]
  split
  next => exact .inr rfl
  next => exact .inl rfl

/-- What exists afterwards existed before, and was not removed. -/
theorem exists?_iff (h : Erases gone before after) (removable : before.Removable file) :
    after.exists? file = true ↔ before.exists? file = true ∧ file.destination ∉ gone := by
  rw [(h.removable removable).exists?_eq, removable.exists?_eq, h.names]
  by_cases erased : file.destination ∈ gone
  · simp [erased]
  · simp [erased]

theorem lengthAt?_eq (h : Erases gone before after) (removable : before.Removable file)
    (kept : file.destination ∉ gone) : after.lengthAt? file = before.lengthAt? file := by
  rw [(h.removable removable).lengthAt?_eq, removable.lengthAt?_eq, h.names, if_neg kept]
  unfold length stored
  rw [h.contents]

end Erases

/-! ## The files of a list -/

/-- Those of the files that exist. -/
def existing (disk : FileSystem) (files : List Path) : List Path :=
  files.filter (disk.exists? ·)

/-- How many bytes files have together; one that does not exist has none. -/
def total (disk : FileSystem) : List Path → Nat
  | [] => 0
  | file :: rest => (disk.lengthAt? file).getD 0 + disk.total rest

variable {files : List Path}

theorem mem_existing : file ∈ disk.existing files ↔ file ∈ files ∧ disk.exists? file = true :=
  List.mem_filter

theorem existing_cons (disk : FileSystem) (file : Path) (files : List Path) :
    disk.existing (file :: files) = disk.existing [file] ++ disk.existing files :=
  List.filter_append [file] files

theorem existing_append (disk : FileSystem) (files others : List Path) :
    disk.existing (files ++ others) = disk.existing files ++ disk.existing others :=
  List.filter_append files others

theorem total_cons (disk : FileSystem) (file : Path) (files : List Path) :
    disk.total (file :: files) = disk.total [file] + disk.total files := by
  simp [total]

theorem total_append (disk : FileSystem) (files others : List Path) :
    disk.total (files ++ others) = disk.total files + disk.total others := by
  induction files with
  | nil => exact (Nat.zero_add _).symm
  | cons file rest ih =>
    rw [List.cons_append, total_cons, ih, total_cons disk file rest, Nat.add_assoc]

/-- Only those that exist count. -/
theorem total_existing (removable : ∀ file ∈ files, disk.Removable file) :
    disk.total (disk.existing files) = disk.total files := by
  induction files with
  | nil => rfl
  | cons file rest ih =>
    have later := ih fun other member => removable other (List.mem_cons_of_mem _ member)
    rw [existing_cons, total_cons, ← later]
    cases there : disk.exists? file with
    | true => simp [existing, total, there]
    | false =>
      -- A file that does not exist has no length.
      have nothing := removable file List.mem_cons_self
      have absent : disk.find? file.destination = none := by
        rwa [nothing.exists?_eq, Option.isSome_eq_false_iff, Option.isNone_iff_eq_none] at there
      have lengthless : disk.lengthAt? file = none := by
        rw [nothing.lengthAt?_eq, absent]
      simp [existing, total, there, lengthless]

section Erased

variable {gone : List Location} (erases : Erases gone before after)
  (removable : ∀ file ∈ files, before.Removable file)
  (kept : ∀ file ∈ files, file.destination ∉ gone)

include erases removable kept

theorem existing_of_erases : after.existing files = before.existing files := by
  refine List.filter_congr fun file member => Bool.eq_iff_iff.2 ?_
  rw [erases.exists?_iff (removable file member)]
  exact and_iff_left (kept file member)

theorem total_of_erases : after.total files = before.total files := by
  induction files with
  | nil => rfl
  | cons file rest ih =>
    simp only [total, erases.lengthAt?_eq (removable file List.mem_cons_self)
      (kept file List.mem_cons_self)]
    rw [ih (fun other member => removable other (List.mem_cons_of_mem _ member))
      fun other member => kept other (List.mem_cons_of_mem _ member)]

end Erased

end FileSystem

end DurableStore
