import PacRules.Program.Run
import PacRules.Proofs.Files.Keeping

/-!
# What a failed run leaves behind

A run writes two files at most, the local copy of the feed and the output. The output is the last
thing that it does, and what cannot be written stays as it was. So of the files that a failed run
finds only the local copy can be another one afterwards, and only if a download succeeded that was
to replace it. That the run fails behind this, say because the download is no Base64, does not
bring the old copy back.
-/

namespace PacRules.Program

open PacRules.Text PacRules.Files PacRules.Files.Store PacRules.Settings PacRules.Feed
  PacRules.Script

/-- What a network answers, whenever it is asked. -/
structure Answers where
  download : (url : Text) → (proxy : Option Text) → Option Text
  lookUp : (name : Text) → Option LookupFault

def Answers.network (answers : Answers) : Network (StateM Store) where
  download url proxy := return answers.download url proxy
  lookUp name := return answers.lookUp name

/-- What is around a run on a store of files, and stays as it is while the run goes on. -/
structure Surroundings where
  home : Option Text
  now : Text
  builtin? : (host : Text) → Option Text
  answers : Answers

/-- What is wrong with a proxy, as the network answers. -/
def Answers.proxyFault? (answers : Answers) (proxy : Text) : Option ProxyFault :=
  match nameOfProxy? proxy with
  | .error fault => some fault
  | .ok name => (name.bind answers.lookUp).map .noAddress

def Surroundings.environment (around : Surroundings) : Environment (StateM Store) :=
  { around with files := access, network := around.answers.network }

/-- A download answers the content that is to replace the local copy under a path. -/
structure Refreshes (answers : Answers) (settings : Settings) (path content : Text) : Prop where
  wanted : settings.refreshLocalCopy = true
  kept : settings.localCopy = some path
  addressed : trimBlanks settings.feedUrl ≠ []
  answered : answers.download (trimBlanks settings.feedUrl) settings.feedProxy = some content

/-- A download is what the file at a place holds afterwards, which is where the path of the local
copy leads to once the directories above it are made. -/
def Replaces (answers : Answers) (settings : Settings) (store after : Store) (place : Place) :
    Prop :=
  ∃ path content, Refreshes answers settings path content ∧
    (store.makeParents path).1.writable path = .ok place ∧ after.file? place = some (utf8 content)

/-- Whether a failure comes behind the fetching of the feed. -/
def RunError.isAfterFetch : RunError → Bool
  | .feed _ | .suffixes _ | .output _ _ => true
  | .configUnreadable _ _ | .configInvalid _ | .feedProxy _ | .fetch _ => false

/-- What a script is made from besides its header: the rules, and when the feed says that it was
changed. -/
def gather {m : Type → Type} [Monad m] (env : Environment m) (settings : Settings)
    (content : Text) : ExceptT RunError m (ScriptRules × Text) := do
  let decoded ← orFail .feed (return Feed.decode content)
  let user ← userRules (m := m) env.files settings.userRules settings.userRuleFiles
  let resolve ← resolver env settings
  return (ScriptRules.ofLines settings.mode resolve user decoded.lines,
    decoded.modified.getD ['-'])

/-- The script from what is gathered, made at a time from a feed of some source. -/
def rendered (now : Text) (settings : Settings) (source : Source)
    (gathered : ScriptRules × Text) : Text :=
  render gathered.1
    { version, generated := now, modified := gathered.2, source := source.label,
      proxy := settings.proxy }
    { compress := settings.compress, envelope := settings.base64 }

/-- A script is brought about by fetching, gathering and rendering. -/
theorem script_eq (around : Surroundings) (settings : Settings) :
    script around.environment settings = do
      let fetched ← orFail .fetch (Feed.fetch access around.answers.network settings)
      let gathered ← gather around.environment settings fetched.content
      return rendered around.now settings fetched.source gathered := by
  simp only [script, gather, rendered, bind_assoc, pure_bind]
  rfl

variable {α β ε : Type} {answers : Answers} {around : Surroundings} {settings : Settings}
  {store after : Store}

/-! ### Steps that only read -/

/-- A step that leaves every store as it is, and fails before the fetching of the feed or behind it
only. -/
def Reads (late : Bool) (x : ExceptT RunError (StateM Store) α) : Prop :=
  ∀ ⦃store after : Store⦄ ⦃answer : Except RunError α⦄, x.run.run store = (answer, after) →
    after = store ∧ ∀ e, answer = .error e → e.isAfterFetch = late

/-- A run of two steps fails in the first, or goes on from where the first one leaves. -/
theorem run_bind_cases {x : ExceptT ε (StateM Store) α} {f : α → ExceptT ε (StateM Store) β}
    {answer : Except ε β} (h : (x >>= f).run.run store = (answer, after)) :
    (∃ e, x.run.run store = (.error e, after) ∧ answer = .error e) ∨
      ∃ a between, x.run.run store = (.ok a, between) ∧
        (f a).run.run between = (answer, after) := by
  obtain ⟨first, between, hfirst⟩ : ∃ first between, x.run.run store = (first, between) :=
    ⟨_, _, rfl⟩
  rw [ExceptT.run_bind, run_bind hfirst] at h
  cases first with
  | error e =>
      obtain ⟨rfl, rfl⟩ := Prod.mk.inj h
      exact .inl ⟨e, hfirst, rfl⟩
  | ok a => exact .inr ⟨a, between, hfirst, h⟩

theorem run_bind_of_ok {x : ExceptT ε (StateM Store) α} {a : α}
    (h : x.run.run store = (.ok a, after)) (f : α → ExceptT ε (StateM Store) β) :
    (x >>= f).run.run store = (f a).run.run after := by
  rw [ExceptT.run_bind, run_bind h]

theorem run_bind_of_error {x : ExceptT ε (StateM Store) α} {e : ε}
    (h : x.run.run store = (.error e, after)) (f : α → ExceptT ε (StateM Store) β) :
    (x >>= f).run.run store = (.error e, after) := by
  rw [ExceptT.run_bind, run_bind h]
  rfl

theorem run_orFail_eq (cause : ε → RunError) {x : StateM Store (Except ε α)} {a : Except ε α}
    (h : x.run store = (a, after)) :
    (orFail cause x).run.run store = (a.mapError cause, after) := run_bind h _

theorem exists_of_run_orFail_error {cause : ε → RunError} {x : StateM Store (Except ε α)}
    {e : RunError} (h : (orFail cause x).run.run store = (.error e, after)) :
    ∃ e', x.run store = (.error e', after) ∧ cause e' = e := by
  obtain ⟨a, between, hx⟩ : ∃ a between, x.run store = (a, between) := ⟨_, _, rfl⟩
  rw [run_orFail_eq cause hx] at h
  cases a with
  | error e' =>
      obtain ⟨he, rfl⟩ := Prod.mk.inj h
      exact ⟨e', hx, Except.error.inj he⟩
  | ok a => cases h

theorem run_of_run_orFail_ok {cause : ε → RunError} {x : StateM Store (Except ε α)} {a : α}
    (h : (orFail cause x).run.run store = (.ok a, after)) : x.run store = (.ok a, after) := by
  obtain ⟨a', between, hx⟩ : ∃ a' between, x.run store = (a', between) := ⟨_, _, rfl⟩
  rw [run_orFail_eq cause hx] at h
  cases a' with
  | error e => cases h
  | ok a' =>
      obtain ⟨ha, rfl⟩ := Prod.mk.inj h
      rw [hx, Except.ok.inj ha]

namespace Reads

variable {late : Bool}

theorem pure (a : α) : Reads late (Pure.pure a) := by
  intro store after answer h
  obtain ⟨rfl, rfl⟩ := Prod.mk.inj h
  exact ⟨rfl, nofun⟩

theorem bind {x : ExceptT RunError (StateM Store) α} {f : α → ExceptT RunError (StateM Store) β}
    (hx : Reads late x) (hf : ∀ a, Reads late (f a)) : Reads late (x >>= f) := by
  intro store after answer h
  rcases run_bind_cases h with ⟨e, hfirst, rfl⟩ | ⟨a, between, hfirst, hrest⟩
  · obtain ⟨rfl, hlate⟩ := hx hfirst
    refine ⟨rfl, ?_⟩
    rintro _ ⟨⟩
    exact hlate e rfl
  · obtain ⟨rfl, -⟩ := hx hfirst
    exact hf a hrest

theorem lift {x : StateM Store α} (hx : IsReading x) : Reads late (liftM x) := by
  intro store after answer h
  obtain ⟨a, ha⟩ := hx.exists_run_eq store
  have hrun : (liftM x : ExceptT RunError (StateM Store) α).run.run store = (.ok a, store) :=
    congrArg (fun p : α × Store => ((.ok p.1 : Except RunError α), p.2)) ha
  obtain ⟨rfl, rfl⟩ := Prod.mk.inj (hrun.symm.trans h)
  exact ⟨rfl, nofun⟩

theorem orFail {cause : ε → RunError} {x : StateM Store (Except ε α)} (hx : IsReading x)
    (hcause : ∀ e, (cause e).isAfterFetch = late) : Reads late (orFail cause x) := by
  intro store after answer h
  obtain ⟨a, ha⟩ := hx.exists_run_eq store
  obtain ⟨rfl, rfl⟩ := Prod.mk.inj ((run_orFail_eq cause ha).symm.trans h)
  refine ⟨rfl, ?_⟩
  cases a with
  | error e =>
      rintro _ ⟨⟩
      exact hcause e
  | ok a => exact nofun

end Reads

theorem reads_loadConfig (around : Surroundings) (args : Arguments) :
    Reads false (loadConfig around.environment args) := by
  unfold loadConfig
  split
  · exact .pure _
  · exact .bind (.lift (.read _)) fun octets =>
      .bind (.orFail (.pure _) fun _ => rfl) fun text => .orFail (.pure _) fun _ => rfl

theorem isReading_userRules (inline paths : List Text) :
    IsReading (userRules access inline paths) :=
  .bind (.mapM (fun path => .bind (.read path) fun _ => .pure _) paths) fun _ => .pure _

theorem reads_resolver (around : Surroundings) (settings : Settings) :
    Reads true (resolver around.environment settings) := by
  unfold resolver
  split
  · exact .bind (.lift (.read _)) fun octets =>
      .bind (.orFail (.pure _) fun _ => rfl) fun rules => .pure _
  · exact .pure _

theorem reads_gather (around : Surroundings) (settings : Settings) (content : Text) :
    Reads true (gather around.environment settings content) := by
  refine .bind (.orFail (.pure _) fun _ => rfl) fun decoded => ?_
  exact .bind (.lift (isReading_userRules _ _)) fun user =>
    .bind (reads_resolver around settings) fun resolve => .pure _

theorem run_proxyFault? (proxy : Text) (store : Store) :
    (proxyFault? answers.network proxy).run store = (answers.proxyFault? proxy, store) := by
  unfold proxyFault? Answers.proxyFault?
  cases nameOfProxy? proxy with
  | error fault => rfl
  | ok name =>
      cases name with
      | none => rfl
      | some name => rfl

theorem run_downloadFault? (settings : Settings) (url : Text) (store : Store) :
    (downloadFault? answers.network settings url).run store =
      (if url.isEmpty then none else settings.feedProxy.bind answers.proxyFault?, store) := by
  unfold downloadFault?
  cases settings.feedProxy with
  | none =>
      rw [Option.bind_none, ite_self]
      rfl
  | some proxy =>
      simp only [Option.bind_some]
      split
      · rfl
      · exact run_proxyFault? proxy store

theorem run_downloaded? (settings : Settings) (url : Text) (store : Store) :
    (downloaded? answers.network settings url).run store =
      (if url.isEmpty then none else answers.download url settings.feedProxy, store) := by
  unfold downloaded?
  split <;> rfl

theorem isReading_readLocal? (path : Text) : IsReading (readLocal? access path) :=
  .bind (.read path) fun _ => .pure _

/-! ### Steps that write -/

/-- A local copy that is replaced is the file that its path leads to once the directories above it
are made. -/
theorem file?_refresh {path content : Text}
    (h : (refresh access path content).run store = ((), after)) (place : Place) :
    after.file? place = store.file? place ∨
      (store.makeParents path).1.writable path = .ok place ∧
        after.file? place = some (utf8 content) := by
  have hparents := file?_makeParents store path place
  rw [refresh, run_bind (run_makeParents store path)] at h
  generalize (store.makeParents path).1 = made at h hparents ⊢
  cases houtcome : (store.makeParents path).2 with
  | error e =>
      rw [houtcome] at h
      obtain ⟨-, rfl⟩ := Prod.mk.inj h
      exact .inl hparents
  | ok _ =>
      rw [houtcome] at h
      simp only at h
      cases hwrite : made.write path (utf8 content) with
      | error e =>
          rw [run_bind (run_write_error hwrite)] at h
          obtain ⟨-, rfl⟩ := Prod.mk.inj h
          exact .inl hparents
      | ok written =>
          rw [run_bind (run_write hwrite)] at h
          obtain ⟨-, rfl⟩ := Prod.mk.inj h
          rw [← hparents]
          exact file?_of_write hwrite place

/-- Fetching a feed leaves the store as it is, or a download has succeeded and the local copy is
replaced. -/
theorem run_fetch {answer : Except FetchError Fetched}
    (h : (fetch access answers.network settings).run store = (answer, after)) :
    after = store ∨ (∃ fetched, answer = .ok fetched) ∧ ∃ path content,
      Refreshes answers settings path content ∧
        (refresh access path content).run store = ((), after) := by
  rw [fetch] at h
  simp only at h
  rw [run_bind (run_downloadFault? settings _ store)] at h
  generalize (if (trimBlanks settings.feedUrl).isEmpty then none
    else settings.feedProxy.bind answers.proxyFault?) = fault at h
  cases fault with
  | some fault =>
      obtain ⟨-, rfl⟩ := Prod.mk.inj h
      exact .inl rfl
  | none =>
      simp only at h
      rw [run_bind (run_downloaded? settings _ store)] at h
      split at h
      · next content hcontent =>
          obtain ⟨haddressed, hanswered⟩ := Option.ite_none_left_eq_some.1 hcontent
          split at h
          · next path hkept =>
              split at h
              · next hwanted =>
                  obtain ⟨between, hrefresh⟩ : ∃ between,
                      (refresh access path content).run store = ((), between) := ⟨_, rfl⟩
                  rw [run_bind hrefresh] at h
                  obtain ⟨rfl, rfl⟩ := Prod.mk.inj h
                  exact .inr ⟨⟨_, rfl⟩, path, content,
                    ⟨hwanted, hkept, by simpa using haddressed, hanswered⟩, hrefresh⟩
              · exact .inl ((IsReading.pure _).eq_of_run h)
          · exact .inl ((IsReading.pure _).eq_of_run h)
      · -- the local copy is only read
        refine .inl (IsReading.eq_of_run ?_ h)
        split
        · exact .pure _
        · refine (isReading_readLocal? _).bind ?_
          rintro (_ | content) <;> exact .pure _

/-- A script that cannot be delivered changes no file. -/
theorem file?_deliver_error {output : Option Text} {text : Text} {e : RunError}
    (h : (deliver access output text).run.run store = (.error e, after)) :
    e.isAfterFetch = true ∧ ∀ place, after.file? place = store.file? place := by
  unfold deliver at h
  split at h
  · cases h
  · next path =>
      have hsame := file?_makeParents store path
      rcases run_bind_cases h with ⟨_, hparents, he⟩ | ⟨_, made, hparents, h⟩
      · -- the directories above the output cannot be made
        obtain ⟨_, hmake, rfl⟩ := exists_of_run_orFail_error hparents
        obtain ⟨-, rfl⟩ := Prod.mk.inj hmake
        obtain rfl := Except.error.inj he
        exact ⟨rfl, hsame⟩
      · have hmake := run_of_run_orFail_ok hparents
        obtain ⟨-, rfl⟩ := Prod.mk.inj hmake
        rcases run_bind_cases h with ⟨_, hwrite, he⟩ | ⟨_, written, -, h⟩
        · obtain ⟨e', hfailed, rfl⟩ := exists_of_run_orFail_error hwrite
          obtain rfl := Except.error.inj he
          refine ⟨rfl, ?_⟩
          cases hput : (store.makeParents path).1.write path (utf8 text) with
          | error _ =>
              rw [run_write_error hput] at hfailed
              obtain ⟨-, rfl⟩ := Prod.mk.inj hfailed
              exact hsame
          | ok written => rw [run_write hput] at hfailed; cases hfailed
        · cases h

/-- A script is delivered by printing it, or it is what the file for it holds. -/
theorem run_deliver_ok {output : Option Text} {text printed : Text}
    (h : (deliver access output text).run.run store = (.ok printed, after)) :
    output = none ∧ printed = text ++ ['\n'] ∧ after = store ∨
      ∃ path, output = some path ∧ printed = [] ∧
        (store.makeParents path).1.write path (utf8 text) = .ok after := by
  unfold deliver at h
  split at h
  · obtain ⟨hprinted, rfl⟩ := Prod.mk.inj h
    exact .inl ⟨rfl, (Except.ok.inj hprinted).symm, rfl⟩
  · next path =>
      refine .inr ⟨path, rfl, ?_⟩
      rcases run_bind_cases h with ⟨_, -, hfailed⟩ | ⟨_, made, hparents, hrest⟩
      · cases hfailed
      have hmake := run_of_run_orFail_ok hparents
      obtain ⟨-, rfl⟩ := Prod.mk.inj hmake
      rcases run_bind_cases hrest with ⟨_, -, hfailed⟩ | ⟨_, written, hwrite, hend⟩
      · cases hfailed
      obtain ⟨hprinted, rfl⟩ := Prod.mk.inj hend
      refine ⟨(Except.ok.inj hprinted).symm, ?_⟩
      have hput := run_of_run_orFail_ok hwrite
      cases hcontent : (store.makeParents path).1.write path (utf8 text) with
      | error e => rw [run_write_error hcontent] at hput; cases hput
      | ok put =>
          rw [run_write hcontent] at hput
          rw [(Prod.mk.inj hput).2]

/-! ### A run -/

/-- Bringing a script about fails while the feed is fetched, which changes nothing, or what follows
the fetching only reads. -/
theorem run_script_cases {answer : Except RunError Text}
    (h : (script around.environment settings).run.run store = (answer, after)) :
    (∃ e, answer = .error (.fetch e) ∧ after = store) ∨
      (∃ fetched, (fetch access around.answers.network settings).run store = (.ok fetched, after)) ∧
        ∀ e, answer = .error e → e.isAfterFetch = true := by
  rw [script_eq] at h
  rcases run_bind_cases h with ⟨_, hfailed, rfl⟩ | ⟨fetched, between, hfetched, hrest⟩
  · obtain ⟨e, hfetch, rfl⟩ := exists_of_run_orFail_error hfailed
    rcases run_fetch hfetch with rfl | ⟨⟨_, heq⟩, -⟩
    · exact .inl ⟨e, rfl, rfl⟩
    · cases heq
  · obtain ⟨rfl, hlate⟩ :=
      ((reads_gather around settings fetched.content).bind fun _ => .pure _) hrest
    exact .inr ⟨⟨fetched, run_of_run_orFail_ok hfetched⟩, hlate⟩

/-- Bringing a script about changes a file only if it is the local copy and a download replaces
it. -/
theorem file?_script {answer : Except RunError Text}
    (h : (script around.environment settings).run.run store = (answer, after)) (place : Place) :
    after.file? place = store.file? place ∨
      (∀ e, answer = .error e → e.isAfterFetch = true) ∧
        Replaces around.answers settings store after place := by
  rcases run_script_cases h with ⟨_, -, rfl⟩ | ⟨⟨fetched, hfetched⟩, hlate⟩
  · exact .inl rfl
  rcases run_fetch hfetched with rfl | ⟨-, path, content, hrefreshes, hrefresh⟩
  · exact .inl rfl
  rcases file?_refresh hrefresh place with hsame | ⟨hplace, hcontent⟩
  · exact .inl hsame
  · exact .inr ⟨hlate, path, content, hrefreshes, hplace, hcontent⟩

/-- The settings that the words of a command line and the files around a run make. -/
def Configures (around : Surroundings) (words : List Text) (store : Store) (settings : Settings) :
    Prop :=
  ∃ args config, Arguments.ofWords words = .ok args ∧
    (loadConfig around.environment args).run.run store = (.ok config, store) ∧
    Settings.overlay around.home args config = .ok settings

/-- A command line fails while it is turned into settings, which changes nothing, or a script is
brought about with these and delivered. -/
theorem run_carryOut_cases {words : List Text} {args : Arguments} {answer : Except RunError Text}
    (hargs : Arguments.ofWords words = .ok args)
    (h : (carryOut around.environment args).run.run store = (answer, after)) :
    (∃ e, answer = .error e ∧ e.isAfterFetch = false ∧ after = store) ∨
      ∃ settings, Configures around words store settings ∧
        ((∃ e, (script around.environment settings).run.run store = (.error e, after) ∧
            answer = .error e) ∨
          ∃ text between, (script around.environment settings).run.run store = (.ok text, between) ∧
            (deliver access settings.output text).run.run between = (answer, after)) := by
  have hload := reads_loadConfig around args
  rw [carryOut] at h
  rcases run_bind_cases h with ⟨e, hconfig, rfl⟩ | ⟨config, between, hconfig, hrest⟩
  · obtain ⟨rfl, hearly⟩ := hload hconfig
    exact .inl ⟨e, rfl, hearly e rfl, rfl⟩
  obtain ⟨rfl, -⟩ := hload hconfig
  rcases run_bind_cases hrest with ⟨e, hfaulty, rfl⟩ | ⟨settings, between', hsettings, hrest'⟩
  · obtain ⟨_, hoverlay, rfl⟩ := exists_of_run_orFail_error hfaulty
    obtain ⟨-, rfl⟩ := Prod.mk.inj hoverlay
    exact .inl ⟨_, rfl, rfl, rfl⟩
  obtain ⟨hoverlay, rfl⟩ := Prod.mk.inj (run_of_run_orFail_ok hsettings)
  exact .inr ⟨settings, ⟨args, config, hargs, hconfig, hoverlay⟩, run_bind_cases hrest'⟩

/-- Behind its settings a run is the bringing about of a script and its delivery. -/
theorem run_carryOut_eq {args : Arguments} {config : ConfigFile}
    (hload : (loadConfig around.environment args).run.run store = (.ok config, store))
    (hoverlay : Settings.overlay around.home args config = .ok settings) :
    (carryOut around.environment args).run.run store =
      (script around.environment settings >>= deliver access settings.output).run.run store := by
  have hmade : Settings.overlay around.environment.home args config = .ok settings := hoverlay
  have hsettings : (orFail RunError.feedProxy (return Except.ok settings) :
      ExceptT RunError (StateM Store) Settings).run.run store = (.ok settings, store) := rfl
  rw [carryOut, run_bind_of_ok hload, hmade, run_bind_of_ok hsettings]
  rfl

theorem run_eq_failed {words : List Text} {args : Arguments} {e : RunError}
    (hargs : Arguments.ofWords words = .ok args)
    (hcarry : (carryOut around.environment args).run.run store = (.error e, after)) :
    (run around.environment words).run store = (.failed e, after) := by
  rw [run, hargs]
  exact run_bind hcarry _

theorem run_eq_done {words : List Text} {args : Arguments} {printed : Text}
    (hargs : Arguments.ofWords words = .ok args)
    (hcarry : (carryOut around.environment args).run.run store = (.ok printed, after)) :
    (run around.environment words).run store = (.done printed, after) := by
  rw [run, hargs]
  exact run_bind hcarry _

/-- A run ends at its command line, which changes nothing, or as the carrying out of this ends. -/
theorem run_cases {words : List Text} {outcome : Outcome}
    (h : (run around.environment words).run store = (outcome, after)) :
    (∃ fault, Arguments.ofWords words = .error fault ∧ outcome = .usage fault ∧ after = store) ∨
      ∃ args, Arguments.ofWords words = .ok args ∧
        ((∃ e, (carryOut around.environment args).run.run store = (.error e, after) ∧
            outcome = .failed e) ∨
          ∃ printed, (carryOut around.environment args).run.run store = (.ok printed, after) ∧
            outcome = .done printed) := by
  cases hwords : Arguments.ofWords words with
  | error fault =>
      rw [run, hwords] at h
      obtain ⟨rfl, rfl⟩ := Prod.mk.inj h
      exact .inl ⟨fault, rfl, rfl, rfl⟩
  | ok args =>
      obtain ⟨answer, between, hcarry⟩ : ∃ answer between,
          (carryOut around.environment args).run.run store = (answer, between) := ⟨_, _, rfl⟩
      refine .inr ⟨args, rfl, ?_⟩
      cases answer with
      | error e =>
          obtain ⟨rfl, rfl⟩ := Prod.mk.inj ((run_eq_failed hwords hcarry).symm.trans h)
          exact .inl ⟨e, hcarry, rfl⟩
      | ok printed =>
          obtain ⟨rfl, rfl⟩ := Prod.mk.inj ((run_eq_done hwords hcarry).symm.trans h)
          exact .inr ⟨printed, hcarry, rfl⟩

/-- A run ends with a script exactly where its settings can be made, and the script be brought about
and delivered with them. -/
theorem run_eq_done_iff {words : List Text} {printed : Text} :
    (run around.environment words).run store = (.done printed, after) ↔
      ∃ settings text between, Configures around words store settings ∧
        (script around.environment settings).run.run store = (.ok text, between) ∧
        (deliver access settings.output text).run.run between = (.ok printed, after) := by
  constructor
  · intro h
    rcases run_cases h with ⟨_, -, hoff, -⟩ | ⟨args, hargs, ⟨_, -, hoff⟩ | ⟨_, hcarry, hdone⟩⟩
    · cases hoff
    · cases hoff
    obtain rfl := Outcome.done.inj hdone
    rcases run_carryOut_cases hargs hcarry with
      ⟨_, hoff, -⟩ | ⟨settings, hconfigures, ⟨_, -, hoff⟩ | ⟨text, between, hscript, hdeliver⟩⟩
    · cases hoff
    · cases hoff
    · exact ⟨settings, text, between, hconfigures, hscript, hdeliver⟩
  · rintro ⟨settings, text, between, ⟨args, config, hargs, hload, hoverlay⟩, hscript, hdeliver⟩
    have hcarry : (carryOut around.environment args).run.run store = (.ok printed, after) := by
      rw [run_carryOut_eq hload hoverlay, run_bind_of_ok hscript, hdeliver]
    exact run_eq_done hargs hcarry

/-- Where a command line cannot be carried out, a file has changed only if it is the local copy and
a download replaces it. -/
theorem file?_carryOut_error {words : List Text} {args : Arguments} {e : RunError}
    (hargs : Arguments.ofWords words = .ok args)
    (h : (carryOut around.environment args).run.run store = (.error e, after)) (place : Place) :
    after.file? place = store.file? place ∨ e.isAfterFetch = true ∧
      ∃ settings, Configures around words store settings ∧
        Replaces around.answers settings store after place := by
  rcases run_carryOut_cases hargs h with ⟨_, -, -, rfl⟩ | ⟨settings, hconfigures, hsteps⟩
  · exact .inl rfl
  rcases hsteps with ⟨_, hscript, he⟩ | ⟨text, written, hscript, hdeliver⟩
  · rcases file?_script hscript place with hsame | ⟨hlate, hreplaces⟩
    · exact .inl hsame
    · exact .inr ⟨hlate e he.symm, settings, hconfigures, hreplaces⟩
  · obtain ⟨hlate, hkept⟩ := file?_deliver_error hdeliver
    rcases file?_script hscript place with hsame | ⟨-, path, content, hrefreshes, hplace, hcontent⟩
    · exact .inl ((hkept place).trans hsame)
    · exact .inr ⟨hlate, settings, hconfigures, path, content, hrefreshes, hplace,
        (hkept place).trans hcontent⟩

/-- A run that fails leaves every file as it was, unless it fails behind the fetching of the feed
and the file is the local copy. This then holds what a download answered that was to replace it. -/
theorem file?_of_failed_run (around : Surroundings) (words : List Text) (store : Store)
    (h : ((run around.environment words).run store).1.exit = 1) (place : Place) :
    ((run around.environment words).run store).2.file? place = store.file? place ∨
      ∃ e settings, ((run around.environment words).run store).1 = .failed e ∧
        e.isAfterFetch = true ∧ Configures around words store settings ∧
        Replaces around.answers settings store ((run around.environment words).run store).2
          place := by
  obtain ⟨outcome, after, hrun⟩ : ∃ outcome after,
      (run around.environment words).run store = (outcome, after) := ⟨_, _, rfl⟩
  rw [hrun] at h ⊢
  rcases run_cases hrun with ⟨_, -, -, rfl⟩ | ⟨args, hargs, ⟨e, hcarry, rfl⟩ | ⟨_, -, rfl⟩⟩
  · exact .inl rfl
  · rcases file?_carryOut_error hargs hcarry place with hsame | ⟨hlate, settings, hreplaced⟩
    · exact .inl hsame
    · exact .inr ⟨e, settings, rfl, hlate, hreplaced⟩
  · cases h

/-- A store with a local copy of a feed. -/
def storeWithCopy : Store := Store.ofFiles [("list.txt".toList, utf8 "W0F1dG9Qcm94eV0=".toList)]

def copyPlace : Place := { names := ["list.txt".toList] }

/-- The words that name a feed and its local copy. -/
def copyWords : List Text :=
  ["--gfwlist-url".toList, "http://feed.test/".toList, "--gfwlist-local".toList,
    "list.txt".toList]

/-- Every download is answered with what is no Base64. In the standard mode no host is looked
up. -/
def badSurroundings : Surroundings where
  home := none
  now := []
  builtin? _ := none
  answers := { download := fun _ _ => some "bad!".toList, lookUp := fun _ => none }

/-- A run whose download cannot be decoded. -/
def badRun : Outcome × Store := (run badSurroundings.environment copyWords).run storeWithCopy

/-- A download that cannot be decoded fails a run. -/
theorem file?_of_failed_run_undecodable :
    badRun.1.exit = 1 ∧
      (badRun.2.file? copyPlace = storeWithCopy.file? copyPlace ∨
        ∃ e settings, badRun.1 = .failed e ∧ e.isAfterFetch = true ∧
          Configures badSurroundings copyWords storeWithCopy settings ∧
          Replaces badSurroundings.answers settings storeWithCopy badRun.2 copyPlace) := by
  have hexit : badRun.1.exit = 1 := by decide +kernel
  exact ⟨hexit, file?_of_failed_run badSurroundings copyWords storeWithCopy hexit copyPlace⟩

/-- A download that cannot be decoded replaces a good local copy. -/
theorem not_file?_of_failed_run :
    badRun.1 = .failed (.feed (.invalidSymbol 33 3)) ∧
      storeWithCopy.file? copyPlace = some (utf8 "W0F1dG9Qcm94eV0=".toList) ∧
      badRun.2.file? copyPlace = some (utf8 "bad!".toList) ∧
      ¬∀ (around : Surroundings) (words : List Text) (store : Store),
        ((run around.environment words).run store).1.exit = 1 → ∀ place,
          ((run around.environment words).run store).2.file? place = store.file? place := by
  have hfailed : badRun.1 = .failed (.feed (.invalidSymbol 33 3)) := by decide +kernel
  have hbefore : storeWithCopy.file? copyPlace = some (utf8 "W0F1dG9Qcm94eV0=".toList) := by
    decide +kernel
  have hafter : badRun.2.file? copyPlace = some (utf8 "bad!".toList) := by decide +kernel
  refine ⟨hfailed, hbefore, hafter, ?_⟩
  intro hall
  have hexit : badRun.1.exit = 1 := by
    rw [hfailed]
    rfl
  have hsame : badRun.2.file? copyPlace = storeWithCopy.file? copyPlace :=
    hall badSurroundings copyWords storeWithCopy hexit copyPlace
  rw [hafter, hbefore] at hsame
  exact absurd hsame (by decide +kernel)

end PacRules.Program
