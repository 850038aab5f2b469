import PacRules.Proofs.Program.Failure

/-!
# What a run does to files, and what it prints

Two paths name all the files that a run can change. The local copy of the feed is replaced by a
download, whatever becomes of the run behind it. The output holds the script at the end of a run
that succeeds, and is as it was behind one that fails. Where both paths lead to one file the script
is written over the download.
-/

namespace PacRules.Program

open PacRules.Text PacRules.Files PacRules.Files.Store PacRules.Settings PacRules.Feed

/-- Whether nothing but the help or the version is asked for. -/
def Outcome.isInformation : Outcome → Bool
  | .usage .displayHelp | .usage .displayVersion => true
  | .usage _ | .failed _ | .done _ => false

/-- A run makes settings, and the script that they ask for. -/
structure Scripts (around : Surroundings) (words : List Text) (store : Store) (settings : Settings)
    (text : Text) : Prop where
  configured : Configures around words store settings
  rendered : ∃ between, (script around.environment settings).run.run store = (.ok text, between)

/-- The output holds the script, and nothing is printed; or the script is printed with a line end,
where there is no output. -/
def Delivers (around : Surroundings) (words : List Text) (store : Store) (outcome : Outcome)
    (after : Store) : Prop :=
  ∃ settings text, Scripts around words store settings text ∧
    (settings.output = none → outcome.printed = text ++ ['\n']) ∧
    ∀ path, settings.output = some path →
      outcome.printed = [] ∧ after.read path = .ok (utf8 text)

/-- What a run with an outcome does to files, and what it prints. -/
structure HasEffects (around : Surroundings) (words : List Text) (store : Store)
    (outcome : Outcome) (after : Store) : Prop where
  /-- a command line that is not carried out changes nothing -/
  rejected : ∀ fault, outcome = .usage fault → after = store
  /-- a failure in the config file or the settings, or while the feed is fetched, changes nothing -/
  unfetched : ∀ e, outcome = .failed e → e.isAfterFetch = false → after = store
  /-- a file that changes is the output of a run that succeeds, which then holds the script, or it
  is the local copy, which then holds the download that was to replace it -/
  changed : ∀ place, after.file? place ≠ store.file? place → ∃ settings,
    Configures around words store settings ∧
      ((∃ path text, settings.output = some path ∧ Place.ofPath path = place ∧
          outcome.exit = 0 ∧ Scripts around words store settings text ∧
          after.file? place = some (utf8 text)) ∨
        ∃ path content, Refreshes around.answers settings path content ∧
          Place.ofPath path = place ∧ after.file? place = some (utf8 content))
  /-- a run that succeeds delivers the script that it is to make -/
  delivered : outcome.exit = 0 → outcome.isInformation = false →
    Delivers around words store outcome after

variable {around : Surroundings} {words : List Text} {settings : Settings}
  {store between after : Store} {text printed : Text}

theorem exists_of_replaces {answers : Answers} {place : Place}
    (h : Replaces answers settings store after place) :
    ∃ path content, Refreshes answers settings path content ∧ Place.ofPath path = place ∧
      after.file? place = some (utf8 content) := by
  obtain ⟨path, content, hrefreshes, hplace, hcontent⟩ := h
  exact ⟨path, content, hrefreshes, ofPath_of_writable hplace, hcontent⟩

/-- A command line that is not carried out has no effects. -/
theorem hasEffects_usage (fault : Arguments.UsageError) :
    HasEffects around words store (.usage fault) store where
  rejected _ _ := rfl
  unfetched _ _ _ := rfl
  changed _ hchanged := absurd rfl hchanged
  delivered hexit hinformation := by
    cases fault with
    | displayHelp | displayVersion => cases hinformation
    | invalidValue | unknownArgument | argumentConflict | tooManyValues => cases hexit

/-- A run that fails can change the local copy only, and that not before the feed is fetched. -/
theorem hasEffects_failed {args : Arguments} {e : RunError}
    (hargs : Arguments.ofWords words = .ok args)
    (h : (carryOut around.environment args).run.run store = (.error e, after)) :
    HasEffects around words store (.failed e) after where
  rejected _ hoff := by cases hoff
  unfetched := by
    rintro _ ⟨⟩ hearly
    rcases run_carryOut_cases hargs h with ⟨_, -, -, hsame⟩ | ⟨settings, -, hscript | hdeliver⟩
    · exact hsame
    · obtain ⟨_, hscript, he⟩ := hscript
      rcases run_script_cases hscript with ⟨_, -, hsame⟩ | ⟨-, hlate⟩
      · exact hsame
      · rw [hlate e he.symm] at hearly
        cases hearly
    · obtain ⟨text, between, -, hdeliver⟩ := hdeliver
      rw [(file?_deliver_error hdeliver).1] at hearly
      cases hearly
  changed place hchanged := by
    rcases file?_carryOut_error hargs h place with hsame | ⟨-, settings, hconfigures, hreplaces⟩
    · exact absurd hsame hchanged
    · exact ⟨settings, hconfigures, .inr (exists_of_replaces hreplaces)⟩
  delivered hexit := by cases hexit

/-- A script that is printed changes no file. -/
theorem hasEffects_printed (hscripts : Scripts around words store settings text)
    (hscript : (script around.environment settings).run.run store = (.ok text, after))
    (houtput : settings.output = none) :
    HasEffects around words store (.done (text ++ ['\n'])) after where
  rejected _ hoff := by cases hoff
  unfetched _ hoff := by cases hoff
  changed place hchanged := by
    rcases file?_script hscript place with hsame | ⟨-, hreplaces⟩
    · exact absurd hsame hchanged
    · exact ⟨settings, hscripts.configured, .inr (exists_of_replaces hreplaces)⟩
  delivered _ _ := by
    refine ⟨settings, text, hscripts, fun _ => rfl, ?_⟩
    intro path hpath
    rw [houtput] at hpath
    cases hpath

/-- A script that is put into the output changes this file, and no other behind the fetching. -/
theorem hasEffects_written {path : Text} (hscripts : Scripts around words store settings text)
    (hscript : (script around.environment settings).run.run store = (.ok text, between))
    (houtput : settings.output = some path)
    (hwrite : (between.makeParents path).1.write path (utf8 text) = .ok after) :
    HasEffects around words store (.done []) after where
  rejected _ hoff := by cases hoff
  unfetched _ hoff := by cases hoff
  changed place hchanged := by
    refine ⟨settings, hscripts.configured, ?_⟩
    rcases file?_of_write hwrite place with hkept | ⟨hplace, hcontent⟩
    · rw [file?_makeParents] at hkept
      rcases file?_script hscript place with hsame | ⟨-, hreplaces⟩
      · exact absurd (hkept.trans hsame) hchanged
      · obtain ⟨copy, content, hrefreshes, hplace, hcontent⟩ := exists_of_replaces hreplaces
        exact .inr ⟨copy, content, hrefreshes, hplace, hkept.trans hcontent⟩
    · exact .inl ⟨path, text, houtput, ofPath_of_writable hplace, rfl, hscripts, hcontent⟩
  delivered _ _ := by
    refine ⟨settings, text, hscripts, ?_, ?_⟩
    · intro hnone
      rw [houtput] at hnone
      cases hnone
    · intro path' hpath
      obtain rfl : path = path' := Option.some.inj (houtput.symm.trans hpath)
      exact ⟨rfl, read_of_write hwrite⟩

/-- What any run does to files, and what it prints. -/
theorem hasEffects_run (around : Surroundings) (words : List Text) (store : Store) :
    ∃ outcome after, (run around.environment words).run store = (outcome, after) ∧
      HasEffects around words store outcome after := by
  obtain ⟨outcome, after, hrun⟩ : ∃ outcome after,
      (run around.environment words).run store = (outcome, after) := ⟨_, _, rfl⟩
  refine ⟨outcome, after, hrun, ?_⟩
  rcases run_cases hrun with
    ⟨fault, -, rfl, rfl⟩ | ⟨args, hargs, ⟨e, hcarry, rfl⟩ | ⟨printed, -, rfl⟩⟩
  · exact hasEffects_usage fault
  · exact hasEffects_failed hargs hcarry
  · obtain ⟨settings, text, between, hconfigures, hscript, hdeliver⟩ := run_eq_done_iff.1 hrun
    have hscripts : Scripts around words store settings text := ⟨hconfigures, between, hscript⟩
    rcases run_deliver_ok hdeliver with ⟨houtput, rfl, rfl⟩ | ⟨path, houtput, rfl, hwrite⟩
    · exact hasEffects_printed hscripts hscript houtput
    · exact hasEffects_written hscripts hscript houtput hwrite

/-- A command line that names a local copy of a feed, but asks for the version. -/
def versionWords : List Text :=
  ["--gfwlist-url".toList, [], "--gfwlist-local".toList, "list.txt".toList, "-V".toList]

/-- A run that is asked for the version succeeds without a script. -/
theorem not_delivers_version :
    (run badSurroundings.environment versionWords).run storeWithCopy =
        (.usage .displayVersion, storeWithCopy) ∧
      Outcome.exit (.usage .displayVersion) = 0 ∧
      Outcome.printed (.usage .displayVersion) = "genpac 0.3.0\n".toList ∧
      ¬∀ (around : Surroundings) (words : List Text) (store after : Store) (outcome : Outcome),
        (run around.environment words).run store = (outcome, after) →
          outcome.exit = 0 → Delivers around words store outcome after := by
  have hwords : Arguments.ofWords versionWords = .error .displayVersion := by rfl
  have hrun : (run badSurroundings.environment versionWords).run storeWithCopy =
      (.usage .displayVersion, storeWithCopy) := by
    rw [run, hwords]
    rfl
  refine ⟨hrun, rfl, rfl, ?_⟩
  intro hall
  obtain ⟨settings, text, hscripts, -⟩ :=
    hall badSurroundings versionWords storeWithCopy storeWithCopy _ hrun rfl
  obtain ⟨args, config, hargs, -⟩ := hscripts.configured
  rw [hwords] at hargs
  cases hargs

end PacRules.Program
