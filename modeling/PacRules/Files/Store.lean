import PacRules.Files.Path

/-!
# A store of files

Files and directories in and around a directory of their own. A path is followed one step after
the other, and each step but the last has to lead to a directory that is there. The directories
above the store's own are there, and nothing is known to be in them. The main statement says that
what is written is read back under the same path.
-/

namespace PacRules.Files

open PacRules.Text

/-- A directory from which places are told. -/
inductive Origin where
  /-- so many levels above the store's own directory -/
  | above (levels : Nat)
  /-- the directory above all -/
  | root
  deriving DecidableEq

/-- A place: the names that lead to it from an origin. -/
structure Place where
  origin : Origin := .above 0
  names : List Text := []
  deriving DecidableEq

namespace Place

def child (place : Place) (name : Text) : Place := { place with names := place.names ++ [name] }

/-- The directory above a place. There is none above the one above all, which leads to itself. -/
def up (place : Place) : Place :=
  match place.names, place.origin with
  | [], .above levels => { origin := .above (levels + 1) }
  | [], .root => place
  | _ :: _, _ => { place with names := place.names.dropLast }

def start (path : Text) : Place := if isAbsolute path then { origin := .root } else {}

end Place

/-- Files with their octets, and directories. -/
structure Store where
  files : List (Place × List UInt8) := []
  directories : List Place := []

namespace Store

def file? (store : Store) (place : Place) : Option (List UInt8) :=
  (store.files.find? fun entry => entry.1 = place).map (·.2)

def isDirectory (store : Store) (place : Place) : Bool :=
  place.names.isEmpty || store.directories.contains place

/-- The store with a file's octets replaced, or with a file that was not there before. -/
def put (store : Store) (place : Place) (octets : List UInt8) : Store :=
  if (store.file? place).isSome then
    { store with
      files := store.files.map fun entry => if entry.1 = place then (place, octets) else entry }
  else { store with files := store.files ++ [(place, octets)] }

/-- A file that is there is found with the octets that replace its own. -/
theorem find?_replaced_self {files : List (Place × List UInt8)} {place : Place}
    {octets : List UInt8} (h : (files.find? fun entry => entry.1 = place).isSome) :
    (files.map fun entry => if entry.1 = place then (place, octets) else entry).find?
      (fun entry => entry.1 = place) = some (place, octets) := by
  induction files with
  | nil => simp at h
  | cons entry files ih =>
    by_cases hentry : entry.1 = place
    · simp [hentry]
    · simp only [List.map_cons, List.find?_cons, hentry, if_false, decide_false] at h ⊢
      exact ih h

/-- Replacing the octets of one file leaves the others as they are. -/
theorem find?_replaced_of_ne {files : List (Place × List UInt8)} {place other : Place}
    {octets : List UInt8} (h : other ≠ place) :
    (files.map fun entry => if entry.1 = place then (place, octets) else entry).find?
      (fun entry => entry.1 = other) = files.find? fun entry => entry.1 = other := by
  induction files with
  | nil => rfl
  | cons entry files ih =>
    by_cases hentry : entry.1 = place
    · have hother : ¬entry.1 = other := fun he => h (he.symm.trans hentry)
      simp [hentry, ih, Ne.symm h]
    · simp [hentry, ih, List.find?_cons]

theorem file?_put_self (store : Store) (place : Place) (octets : List UInt8) :
    (store.put place octets).file? place = some octets := by
  unfold put
  split
  · next h =>
    rw [file?, Option.isSome_map] at h
    rw [file?, find?_replaced_self h]
    rfl
  · next h =>
    rw [file?, Option.isSome_map, Option.not_isSome_iff_eq_none] at h
    rw [file?, List.find?_append, h]
    simp

theorem file?_put_of_ne (store : Store) {place other : Place} (octets : List UInt8)
    (h : other ≠ place) : (store.put place octets).file? other = store.file? other := by
  unfold put
  split
  · rw [file?, find?_replaced_of_ne h, file?]
  · simp [file?, List.find?_append, Ne.symm h]

/-- Putting a file makes no directory and takes none away. -/
@[simp] theorem isDirectory_put (store : Store) (place other : Place) (octets : List UInt8) :
    (store.put place octets).isDirectory other = store.isDirectory other := by
  unfold put
  split <;> rfl

/-- The directory to which a step leads from a directory. -/
def follow (store : Store) (here : Place) : PathStep → Except FileError Place
  | .stay => .ok here
  | .up => .ok here.up
  | .into name =>
    if isOverlong name then .error .nameTooLong
    else if store.isDirectory (here.child name) then .ok (here.child name)
    else if (store.file? (here.child name)).isSome then .error .notDirectory
    else .error .notFound

/-- The directory to which steps lead from a directory. -/
def walk (store : Store) (here : Place) : List PathStep → Except FileError Place
  | [] => .ok here
  | step :: steps => do store.walk (← store.follow here step) steps

/-- What a path leads to: a name in a directory, whether or not something has it there, or a
directory where the last step has no name. -/
def reach (store : Store) (path : Text) : Except FileError (Place × Option Text) :=
  match pathFault? path, (stepsOf path).getLast? with
  | some fault, _ => .error fault
  | none, none => if isAbsolute path then .ok (Place.start path, none) else .error .notFound
  | none, some (.into name) =>
    (store.walk (Place.start path) (stepsOf path).dropLast).map fun here => (here, some name)
  | none, some _ => (store.walk (Place.start path) (stepsOf path)).map fun here => (here, none)

def read (store : Store) (path : Text) : Except FileError (List UInt8) :=
  (store.reach path).bind fun
    | (_, none) => .error .isDirectory
    | (here, some name) =>
      if isOverlong name then .error .nameTooLong
      else if store.isDirectory (here.child name) then .error .isDirectory
      else match store.file? (here.child name) with
        | some octets => if endsInSlash path then .error .notDirectory else .ok octets
        | none => .error .notFound

/-- The place of the file that a path names, if it may be written. -/
def writable (store : Store) (path : Text) : Except FileError Place :=
  (store.reach path).bind fun
    | (_, none) => .error .isDirectory
    | (here, some name) =>
      if endsInSlash path then .error .isDirectory
      else if isOverlong name then .error .nameTooLong
      else if store.isDirectory (here.child name) then .error .isDirectory
      else .ok (here.child name)

/-- The store with given octets in the file that a path names. -/
def write (store : Store) (path : Text) (octets : List UInt8) : Except FileError Store :=
  (store.writable path).map fun place => store.put place octets

/-- The store with the directories through which steps lead from a directory, as far as they can be
made. A file in the way is told as one that is there if it is where the last directory should be,
or if another directory had to be `made` first; and else as no directory. -/
def makeDirectories (store : Store) (here : Place) (made : Bool) :
    List PathStep → Store × Except FileError Unit
  | [] => (store, .ok ())
  | .stay :: steps => store.makeDirectories here made steps
  | .up :: steps => store.makeDirectories here.up made steps
  | .into name :: steps =>
    if isOverlong name then (store, .error .nameTooLong)
    else if store.isDirectory (here.child name) then
      store.makeDirectories (here.child name) made steps
    else if (store.file? (here.child name)).isSome then
      (store, .error (if steps.isEmpty || made then .exists else .notDirectory))
    else
      ({ store with directories := store.directories ++ [here.child name] } : Store).makeDirectories
        (here.child name) true steps

/-- The store with the directories above a path, as far as they can be made. -/
def makeParents (store : Store) (path : Text) : Store × Except FileError Unit :=
  match pathFault? (parentOf path) with
  | some fault => (store, .error fault)
  | none => store.makeDirectories (Place.start path) false (stepsOf (parentOf path))

/-- A store of given files, with the directories above them. -/
def ofFiles (files : List (Text × List UInt8)) : Store :=
  files.foldl
    (fun store (path, octets) =>
      let store := (store.makeParents path).1
      match store.write path octets with
      | .ok store => store
      | .error _ => store)
    {}

/-- The files in the store's own directory, with the names that lead to them. -/
def ownFiles (store : Store) : List (List Text × List UInt8) :=
  store.files.filterMap fun (place, octets) =>
    if place.origin = .above 0 then some (place.names, octets) else none

/-- A directory that is reached is reached as well where another file has been put. -/
theorem follow_put {store : Store} {here there : Place} {step : PathStep}
    (h : store.follow here step = .ok there) (place : Place) (octets : List UInt8) :
    (store.put place octets).follow here step = .ok there := by
  cases step with
  | stay => exact h
  | up => exact h
  | into name =>
    simp only [follow, isDirectory_put] at h ⊢
    split at h
    · simp at h
    · next hlong =>
      split at h
      · next hdir => simpa [hlong, hdir] using h
      · split at h <;> simp at h

/-- Steps that lead to a directory lead there as well where another file has been put. -/
theorem walk_put {store : Store} {here there : Place} {steps : List PathStep}
    (h : store.walk here steps = .ok there) (place : Place) (octets : List UInt8) :
    (store.put place octets).walk here steps = .ok there := by
  induction steps generalizing here with
  | nil => exact h
  | cons step steps ih =>
    rw [walk] at h ⊢
    cases hstep : store.follow here step with
    | error e => rw [hstep] at h; cases h
    | ok next =>
      rw [hstep] at h
      rw [follow_put hstep place octets]
      exact ih h

/-- A path leads to the same where another file has been put. -/
theorem reach_put {store : Store} {path : Text} {reached : Place × Option Text}
    (h : store.reach path = .ok reached) (place : Place) (octets : List UInt8) :
    (store.put place octets).reach path = .ok reached := by
  unfold reach at h ⊢
  split at h
  · cases h
  · exact h
  · next hfault hlast =>
    cases hwalk : store.walk (Place.start path) (stepsOf path).dropLast with
    | error e => rw [hwalk] at h; cases h
    | ok here =>
      rw [hwalk] at h
      rw [walk_put hwalk place octets]
      exact h
  · next hfault hlast =>
    cases hwalk : store.walk (Place.start path) (stepsOf path) with
    | error e => rw [hwalk] at h; cases h
    | ok here =>
      rw [hwalk] at h
      rw [walk_put hwalk place octets]
      exact h

/-- A path names a file that may be written if its last step is a name that is not overlong, the
path does not end in a slash, and no directory has the name. -/
theorem writable_eq_ok_iff {store : Store} {path : Text} {place : Place} :
    store.writable path = .ok place ↔
      ∃ here name, store.reach path = .ok (here, some name) ∧ endsInSlash path = false ∧
        isOverlong name = false ∧ store.isDirectory place = false ∧ here.child name = place := by
  unfold writable
  rcases store.reach path with e | ⟨here, _ | name⟩ <;> simp only [Except.bind]
  · simp
  · simp
  · constructor
    · grind
    · rintro ⟨_, _, heq, hslash, hlong, hdir, rfl⟩
      cases heq
      simp [hslash, hlong, hdir]

theorem read_of_write {store written : Store} {path : Text} {octets : List UInt8}
    (h : store.write path octets = .ok written) : written.read path = .ok octets := by
  unfold write at h
  cases hplace : store.writable path with
  | error e => rw [hplace] at h; cases h
  | ok place =>
    rw [hplace] at h
    cases h
    obtain ⟨here, name, hreach, hslash, hlong, hdir, rfl⟩ := writable_eq_ok_iff.1 hplace
    simp [read, reach_put hreach, Except.bind, hslash, hlong, hdir, file?_put_self]

/-- An operation that changes the store unless it fails. -/
def update (change : Store → Except FileError Store) : StateM Store (Except FileError Unit) := do
  match change (← get) with
  | .ok store => do
    set store
    return .ok ()
  | .error e => return .error e

def access : FileAccess (StateM Store) where
  read path := do return (← get).read path
  write path octets := update fun store => store.write path octets
  makeParents path := modifyGet fun store => ((store.makeParents path).2, (store.makeParents path).1)

end Store

end PacRules.Files
