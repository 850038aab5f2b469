import PacRules.Files.Store

/-!
# What operations do to the files of a store

Reading changes nothing, making directories changes no file, and writing changes one file at most:
the one that the path leads to. Where this is, the path alone tells, whatever else there is.
-/

namespace PacRules.Files

open PacRules.Text

/-- The place to which a step leads from a directory, whatever is there. -/
def PathStep.placeFrom (here : Place) : PathStep → Place
  | .stay => here
  | .up => here.up
  | .into name => here.child name

/-- The place to which a path leads, whatever is there. -/
def Place.ofPath (path : Text) : Place :=
  (stepsOf path).foldl PathStep.placeFrom (Place.start path)

namespace Store

theorem placeFrom_of_follow {store : Store} {here there : Place} {step : PathStep}
    (h : store.follow here step = .ok there) : PathStep.placeFrom here step = there := by
  cases step with
  | stay => exact Except.ok.inj h
  | up => exact Except.ok.inj h
  | into name =>
      simp only [follow] at h
      split at h
      · cases h
      · split at h
        · exact Except.ok.inj h
        · split at h <;> cases h

theorem foldl_placeFrom_of_walk {store : Store} {here there : Place} {steps : List PathStep}
    (h : store.walk here steps = .ok there) : steps.foldl PathStep.placeFrom here = there := by
  induction steps generalizing here with
  | nil => exact Except.ok.inj h
  | cons step steps ih =>
      rw [walk] at h
      cases hstep : store.follow here step with
      | error e => rw [hstep] at h; cases h
      | ok next =>
          rw [hstep] at h
          rw [List.foldl_cons, placeFrom_of_follow hstep]
          exact ih h

/-- A file is written where its path leads to. -/
theorem ofPath_of_writable {store : Store} {path : Text} {place : Place}
    (h : store.writable path = .ok place) : Place.ofPath path = place := by
  obtain ⟨here, name, hreach, -, -, -, rfl⟩ := writable_eq_ok_iff.1 h
  unfold reach at hreach
  split at hreach
  · cases hreach
  · split at hreach <;> cases hreach
  · next name' hfault hlast =>
      cases hwalk : store.walk (Place.start path) (stepsOf path).dropLast with
      | error e => rw [hwalk] at hreach; cases hreach
      | ok there =>
          rw [hwalk] at hreach
          obtain ⟨rfl, hname⟩ := Prod.mk.inj (Except.ok.inj hreach)
          obtain rfl := Option.some.inj hname
          obtain ⟨front, hsteps⟩ := List.getLast?_eq_some_iff.1 hlast
          rw [hsteps, List.dropLast_concat] at hwalk
          rw [Place.ofPath, hsteps, List.foldl_append, foldl_placeFrom_of_walk hwalk]
          rfl
  · next hfault hlast =>
      cases hwalk : store.walk (Place.start path) (stepsOf path) with
      | error e => rw [hwalk] at hreach; cases hreach
      | ok there => rw [hwalk] at hreach; cases hreach

@[simp] theorem file?_makeDirectories (store : Store) (here : Place) (made : Bool)
    (steps : List PathStep) (place : Place) :
    (store.makeDirectories here made steps).1.file? place = store.file? place := by
  fun_induction makeDirectories store here made steps with
  | case1 | case4 | case6 => rfl
  | case2 store here made steps ih => exact ih
  | case3 store here made steps ih => exact ih
  | case5 store here made name steps _ _ ih => exact ih
  | case7 store here made name steps _ _ _ ih => exact ih

/-- Directories are made without a change to any file. -/
@[simp] theorem file?_makeParents (store : Store) (path : Text) (place : Place) :
    (store.makeParents path).1.file? place = store.file? place := by
  unfold makeParents
  split
  · rfl
  · exact file?_makeDirectories _ _ _ _ _

theorem write_eq_ok_iff {store written : Store} {path : Text} {octets : List UInt8} :
    store.write path octets = .ok written ↔
      ∃ place, store.writable path = .ok place ∧ store.put place octets = written := by
  unfold write
  cases store.writable path with
  | error e => simp [Except.map]
  | ok place => simp [Except.map]

/-- A file keeps its octets when another one is written. -/
theorem file?_of_write {store written : Store} {path : Text} {octets : List UInt8}
    (h : store.write path octets = .ok written) (place : Place) :
    written.file? place = store.file? place ∨
      store.writable path = .ok place ∧ written.file? place = some octets := by
  obtain ⟨there, hthere, rfl⟩ := write_eq_ok_iff.1 h
  by_cases hplace : place = there
  · subst hplace
    exact .inr ⟨hthere, file?_put_self store place octets⟩
  · exact .inl (file?_put_of_ne store octets hplace)

/-! ### Computations on a store -/

variable {α β : Type} {store between : Store}

/-- A second step goes on from where the first one leaves. -/
theorem run_bind {x : StateM Store α} {a : α} (h : x.run store = (a, between))
    (f : α → StateM Store β) : (x >>= f).run store = (f a).run between := by
  change (f (x.run store).1).run (x.run store).2 = _
  rw [h]

theorem run_makeParents (store : Store) (path : Text) :
    (access.makeParents path).run store =
      ((store.makeParents path).2, (store.makeParents path).1) := rfl

theorem run_write {written : Store} {path : Text} {octets : List UInt8}
    (h : store.write path octets = .ok written) :
    (access.write path octets).run store = (.ok (), written) := by
  change (update _).run store = _
  rw [update, run_bind (x := get) rfl, h]
  rfl

/-- What cannot be written stays as it is. -/
theorem run_write_error {path : Text} {octets : List UInt8} {e : FileError}
    (h : store.write path octets = .error e) :
    (access.write path octets).run store = (.error e, store) := by
  change (update _).run store = _
  rw [update, run_bind (x := get) rfl, h]
  rfl

/-- A computation that leaves every store as it is. -/
def IsReading (x : StateM Store α) : Prop := ∀ store, (x.run store).2 = store

namespace IsReading

theorem exists_run_eq {x : StateM Store α} (hx : IsReading x) (store : Store) :
    ∃ a, x.run store = (a, store) :=
  ⟨(x.run store).1, Prod.ext rfl (hx store)⟩

theorem eq_of_run {x : StateM Store α} (hx : IsReading x) {a : α} {after : Store}
    (h : x.run store = (a, after)) : after = store := by
  have hstore := hx store
  rwa [h] at hstore

theorem pure (a : α) : IsReading (Pure.pure a : StateM Store α) := fun _ => rfl

theorem bind {x : StateM Store α} {f : α → StateM Store β} (hx : IsReading x)
    (hf : ∀ a, IsReading (f a)) : IsReading (x >>= f) := by
  intro store
  obtain ⟨a, ha⟩ := hx.exists_run_eq store
  rw [run_bind ha]
  exact hf a store

theorem mapM {f : α → StateM Store β} (hf : ∀ a, IsReading (f a)) (items : List α) :
    IsReading (items.mapM f) := by
  induction items with
  | nil => exact pure []
  | cons a items ih =>
      rw [List.mapM_cons]
      exact bind (hf a) fun b => bind ih fun bs => pure (b :: bs)

/-- Files are read without a change to the store. -/
theorem read (path : Text) : IsReading (access.read path) := fun _ => rfl

end IsReading

end Store

end PacRules.Files
