import PacRules.Proofs.Program.Failure
import PacRules.Proofs.Script.Header
import PacRules.Proofs.Text.Utf8

/-!
# A run that is repeated without a download

A download that has become the local copy stands in for itself: if the run is repeated on the files
that it left and nothing is downloaded, the feed is read from the copy, with the same content.
Whatever else makes the rules is read from the same files as before, since in both runs it is read
when the copy is in place. So only those two lines of the script differ that tell when it was made
and where its feed came from.

The copy is not reached if the download is to go through a proxy whose host has a name, and this
name has no address any more. What is wrong with a proxy ends a run before the copy is looked for,
and a name that cannot be looked up is taken for such a fault. Nothing else about the network has
a say: a proxy that a download went through has no other fault.
-/

namespace PacRules.Program

open PacRules.Text PacRules.Files PacRules.Files.Store PacRules.Settings PacRules.Feed
  PacRules.Script PacRules.Suffix

/-- A run with the same home and the same suffixes at another time, when the network answers
otherwise. -/
def Surroundings.later (around : Surroundings) (now : Text) (answers : Answers) : Surroundings :=
  { around with now, answers }

variable {around : Surroundings} {later : Answers} {words : List Text} {settings : Settings}
  {store after : Store} {path content text printed now : Text}

/-! ### The name of a proxy's host -/

/-- The host of the proxy for the download has a name, which has to be looked up. -/
def LooksUp (settings : Settings) (name : Text) : Prop :=
  ∃ proxy, settings.feedProxy = some proxy ∧ nameOfProxy? proxy = .ok (some name)

theorem proxyFault?_of_looksUp {name : Text} (h : LooksUp settings name) (answers : Answers) :
    settings.feedProxy.bind answers.proxyFault? = (answers.lookUp name).map .noAddress := by
  obtain ⟨proxy, hproxy, hname⟩ := h
  rw [hproxy, Option.bind_some, Answers.proxyFault?, hname]
  rfl

/-- Where no name is looked up the network has no say in what is wrong with a proxy. -/
theorem proxyFault?_of_not_looksUp (h : ∀ name, ¬LooksUp settings name)
    (answers answers' : Answers) :
    settings.feedProxy.bind answers.proxyFault? = settings.feedProxy.bind answers'.proxyFault? := by
  cases hproxy : settings.feedProxy with
  | none => rfl
  | some proxy =>
      rw [Option.bind_some, Option.bind_some, Answers.proxyFault?, Answers.proxyFault?]
      cases hname : nameOfProxy? proxy with
      | error fault => rfl
      | ok name =>
          cases name with
          | none => rfl
          | some name => exact absurd ⟨proxy, hproxy, hname⟩ (h name)

/-- A proxy without a fault stays so as long as its host has an address. -/
theorem proxyFault?_eq_none_iff {answers : Answers}
    (h : settings.feedProxy.bind answers.proxyFault? = none) :
    settings.feedProxy.bind later.proxyFault? = none ↔
      ∀ name, LooksUp settings name → later.lookUp name = none := by
  constructor
  · intro hnone name hname
    rw [proxyFault?_of_looksUp hname] at hnone
    exact Option.map_eq_none_iff.1 hnone
  · intro hfound
    by_cases hlooks : ∃ name, LooksUp settings name
    · obtain ⟨name, hname⟩ := hlooks
      rw [proxyFault?_of_looksUp hname, hfound name hname, Option.map_none]
    · rw [proxyFault?_of_not_looksUp (not_exists.1 hlooks) later answers, h]

/-! ### Fetching -/

theorem textOf_utf8 (t : Text) : textOf (.ok (utf8 t)) = .ok t := by
  simp only [textOf, bind, Except.bind, ofUtf8?_utf8]
  rfl

theorem run_downloadFault?_addressed {answers : Answers}
    (haddressed : trimBlanks settings.feedUrl ≠ []) (store : Store) :
    (downloadFault? answers.network settings (trimBlanks settings.feedUrl)).run store =
      (settings.feedProxy.bind answers.proxyFault?, store) := by
  rw [run_downloadFault?, if_neg (by simpa using haddressed)]

/-- The feed is what the download answers, whatever becomes of the local copy. There was nothing
wrong with the proxy. -/
theorem of_run_fetch_eq_ok {answers : Answers} {fetched : Fetched}
    (h : Refreshes answers settings path content)
    (hfetch : (fetch access answers.network settings).run store = (.ok fetched, after)) :
    settings.feedProxy.bind answers.proxyFault? = none ∧ fetched.content = content := by
  rw [fetch] at hfetch
  simp only at hfetch
  rw [run_bind (run_downloadFault?_addressed h.addressed store)] at hfetch
  cases hfault : settings.feedProxy.bind answers.proxyFault? with
  | some fault =>
      rw [hfault] at hfetch
      cases hfetch
  | none =>
      refine ⟨rfl, ?_⟩
      have haddressed : (trimBlanks settings.feedUrl).isEmpty = false := by
        simpa using h.addressed
      rw [hfault] at hfetch
      simp only at hfetch
      rw [run_bind (run_downloaded? settings _ store), haddressed, if_neg Bool.false_ne_true,
        h.answered, h.kept] at hfetch
      simp only [h.wanted, if_true] at hfetch
      obtain ⟨between, hrefresh⟩ : ∃ between,
          (refresh access path content).run store = ((), between) := ⟨_, rfl⟩
      rw [run_bind hrefresh] at hfetch
      obtain ⟨hfetched, -⟩ := Prod.mk.inj hfetch
      rw [← Except.ok.inj hfetched]

/-- What is wrong with the proxy is told before a local copy is looked for. -/
theorem run_fetch_badProxy {fault : ProxyFault} (haddressed : trimBlanks settings.feedUrl ≠ [])
    (hfault : settings.feedProxy.bind later.proxyFault? = some fault) :
    (fetch access later.network settings).run store = (.error (.badProxy fault), store) := by
  rw [fetch]
  simp only
  rw [run_bind (run_downloadFault?_addressed haddressed store), hfault]
  rfl

/-- Where there is nothing wrong with the proxy and a download fails, the feed is the text of the
local copy. -/
theorem run_fetch_kept (haddressed : trimBlanks settings.feedUrl ≠ [])
    (hfault : settings.feedProxy.bind later.proxyFault? = none)
    (hfails : later.download (trimBlanks settings.feedUrl) settings.feedProxy = none)
    (hcopy : settings.localCopy = some path) (hread : store.read path = .ok (utf8 content)) :
    (fetch access later.network settings).run store =
      (.ok { content, source := .localCopy path }, store) := by
  have hdownload : (downloaded? later.network settings (trimBlanks settings.feedUrl)).run store =
      (none, store) := by
    rw [run_downloaded?, hfails, ite_self]
  have hlocal : (readLocal? access path).run store = (some content, store) := by
    change ((textOf (store.read path)).toOption, store) = _
    rw [hread, textOf_utf8]
    rfl
  rw [fetch]
  simp only
  rw [run_bind (run_downloadFault?_addressed haddressed store), hfault]
  simp only
  rw [run_bind hdownload]
  simp only [hcopy]
  rw [run_bind hlocal]
  rfl

/-! ### Scripts -/

/-- A script is brought about exactly where a feed is fetched and the rules are gathered. -/
theorem run_script_eq_ok_iff :
    (script around.environment settings).run.run store = (.ok text, after) ↔
      ∃ fetched gathered,
        (fetch access around.answers.network settings).run store = (.ok fetched, after) ∧
        (gather around.environment settings fetched.content).run.run after =
          (.ok gathered, after) ∧
        rendered around.now settings fetched.source gathered = text := by
  rw [script_eq]
  constructor
  · intro h
    rcases run_bind_cases h with ⟨_, -, hoff⟩ | ⟨fetched, between, hfetched, hrest⟩
    · cases hoff
    rcases run_bind_cases hrest with ⟨_, -, hoff⟩ | ⟨gathered, between', hgathered, hend⟩
    · cases hoff
    obtain ⟨rfl, -⟩ := reads_gather around settings fetched.content hgathered
    obtain ⟨htext, rfl⟩ := Prod.mk.inj hend
    exact ⟨fetched, gathered, run_of_run_orFail_ok hfetched, hgathered, Except.ok.inj htext⟩
  · rintro ⟨fetched, gathered, hfetched, hgathered, rfl⟩
    rw [run_bind_of_ok (run_orFail_eq .fetch hfetched), run_bind_of_ok hgathered]
    rfl

/-- What is gathered depends on the files and the suffixes alone. -/
theorem run_gather_later (now : Text) (later : Answers) (content : Text) (store : Store) :
    (gather (around.later now later).environment settings content).run.run store =
      (gather around.environment settings content).run.run store := rfl

/-- Two scripts have the same lines but for what the third and the fifth of them tell: when the
script was made, and where its feed came from. -/
def SameButForOrigin (script script' : Text) : Prop :=
  ∃ opening title changed behind generated generated' source source',
    List.splitOn '\n' script = opening :: title :: (" * Generated: ".toList ++ generated) ::
      changed :: (" * GFWList From: ".toList ++ source) :: behind ∧
    List.splitOn '\n' script' = opening :: title :: (" * Generated: ".toList ++ generated') ::
      changed :: (" * GFWList From: ".toList ++ source') :: behind

theorem exists_splitOn_title (mode : Mode) :
    ∃ opening title, List.splitOn '\n' ("/**\n * genpac ".toList ++ (version ++
      if mode = .precise then " (precise)".toList else [])) = [opening, title] := by
  cases mode with
  | standard => exact ⟨_, _, rfl⟩
  | precise => exact ⟨_, _, rfl⟩

/-- What is gathered makes the same script whenever it is made and wherever its feed comes from. -/
theorem sameButForOrigin_rendered (hbare : settings.base64 = false) (now now' : Text)
    (source source' : Source) (gathered : ScriptRules × Text) :
    SameButForOrigin (rendered now settings source gathered ++ ['\n'])
      (rendered now' settings source' gathered ++ ['\n']) := by
  obtain ⟨opening, title, htitle⟩ := exists_splitOn_title gathered.1.mode
  obtain ⟨changed, behind, hlines⟩ := exists_lines_render gathered.1 version gathered.2
    settings.proxy settings.compress
  rw [htitle] at hlines
  refine ⟨opening, title, changed, behind, inComment now, inComment now', inComment source.label,
    inComment source'.label, ?_, ?_⟩
  · rw [rendered, hbare]
    exact hlines now source.label
  · rw [rendered, hbare]
    exact hlines now' source'.label

/-! ### Runs -/

/-- A run without a config file prints a script in no envelope, and the download that it is made
from has become the local copy. -/
structure KeepsDownload (around : Surroundings) (words : List Text) (store : Store)
    (settings : Settings) (path content printed : Text) (after : Store) : Prop where
  configured : ∃ args, Arguments.ofWords words = .ok args ∧ args.configFrom = none ∧
    Settings.overlay around.home args {} = .ok settings
  unput : settings.output = none
  bare : settings.base64 = false
  refreshes : Refreshes around.answers settings path content
  succeeds : (run around.environment words).run store = (.done printed, after)
  kept : after.read path = .ok (utf8 content)

theorem run_loadConfig_of_none {args : Arguments} (hconfig : args.configFrom = none) :
    (loadConfig around.environment args).run.run store = (.ok {}, store) := by
  rw [loadConfig, hconfig]
  rfl

/-- Without a config file the settings do not depend on the files around a run. -/
theorem configures_iff {args : Arguments} (hargs : Arguments.ofWords words = .ok args)
    (hconfig : args.configFrom = none) :
    Configures around words store settings ↔
      Settings.overlay around.home args {} = .ok settings := by
  have hload : (loadConfig around.environment args).run.run store = (.ok {}, store) :=
    run_loadConfig_of_none hconfig
  constructor
  · rintro ⟨args', config, hargs', hload', hoverlay⟩
    obtain rfl : args = args' := Except.ok.inj (hargs.symm.trans hargs')
    obtain ⟨hconfig', -⟩ := Prod.mk.inj (hload.symm.trans hload')
    rwa [← Except.ok.inj hconfig'] at hoverlay
  · intro hoverlay
    exact ⟨args, {}, hargs, hload, hoverlay⟩

/-- A run for which no feed can be fetched fails. -/
theorem run_of_fetch_error {e : FetchError} (hconfigures : Configures around words store settings)
    (hfetch : (fetch access around.answers.network settings).run store = (.error e, after)) :
    (run around.environment words).run store = (.failed (.fetch e), after) := by
  obtain ⟨args, config, hargs, hload, hoverlay⟩ := hconfigures
  have hscript : (script around.environment settings).run.run store =
      (.error (.fetch e), after) := by
    rw [script_eq]
    exact run_bind_of_error (run_orFail_eq .fetch hfetch) _
  have hcarry : (carryOut around.environment args).run.run store = (.error (.fetch e), after) := by
    rw [run_carryOut_eq hload hoverlay, run_bind_of_error hscript]
  exact run_eq_failed hargs hcarry

namespace KeepsDownload

variable (h : KeepsDownload around words store settings path content printed after)

include h

theorem configures_later (now : Text) (later : Answers) :
    Configures (around.later now later) words after settings := by
  obtain ⟨args, hargs, hconfig, hoverlay⟩ := h.configured
  exact (configures_iff hargs hconfig).2 hoverlay

/-- What was printed is made from the download, which came through a proxy without a fault if it
came through one, and from what is gathered where the copy is in place. -/
theorem exists_gathered :
    settings.feedProxy.bind around.answers.proxyFault? = none ∧ ∃ source gathered,
      (gather around.environment settings content).run.run after = (.ok gathered, after) ∧
      printed = rendered around.now settings source gathered ++ ['\n'] := by
  obtain ⟨args, hargs, hconfig, hoverlay⟩ := h.configured
  obtain ⟨settings', text, between, hconfigures, hscript, hdeliver⟩ := run_eq_done_iff.1 h.succeeds
  obtain rfl : settings = settings' := by
    have hoverlay' := (configures_iff hargs hconfig).1 hconfigures
    exact Except.ok.inj (hoverlay.symm.trans hoverlay')
  rw [h.unput] at hdeliver
  obtain ⟨hprinted, rfl⟩ := Prod.mk.inj hdeliver
  obtain ⟨fetched, gathered, hfetch, hgather, rfl⟩ := run_script_eq_ok_iff.1 hscript
  obtain ⟨hfault, hcontent⟩ := of_run_fetch_eq_ok h.refreshes hfetch
  rw [hcontent] at hgather
  exact ⟨hfault, fetched.source, gathered, hgather, (Except.ok.inj hprinted).symm⟩

/-- If there is nothing wrong with the proxy the copy stands in for a download that fails. -/
theorem run_later_of_eq_none (hfault : settings.feedProxy.bind later.proxyFault? = none)
    (hfails : later.download (trimBlanks settings.feedUrl) settings.feedProxy = none)
    (now : Text) :
    ∃ printed', (run (around.later now later).environment words).run after =
        (.done printed', after) ∧ SameButForOrigin printed printed' := by
  obtain ⟨-, source, gathered, hgather, rfl⟩ := h.exists_gathered
  have hfetch := run_fetch_kept h.refreshes.addressed hfault hfails h.refreshes.kept h.kept
  have hscript : (script (around.later now later).environment settings).run.run after =
      (.ok (rendered now settings (.localCopy path) gathered), after) :=
    run_script_eq_ok_iff.2
      ⟨_, gathered, hfetch, (run_gather_later now later content after).trans hgather, rfl⟩
  refine ⟨rendered now settings (.localCopy path) gathered ++ ['\n'], ?_, ?_⟩
  · refine run_eq_done_iff.2 ⟨settings, _, after, h.configures_later now later, hscript, ?_⟩
    rw [h.unput]
    rfl
  · exact sameButForOrigin_rendered h.bare around.now now source (.localCopy path) gathered

/-- If there is something wrong with the proxy the copy is not looked for. -/
theorem run_later_of_eq_some {fault : ProxyFault}
    (hfault : settings.feedProxy.bind later.proxyFault? = some fault) (now : Text) :
    (run (around.later now later).environment words).run after =
      (.failed (.fetch (.badProxy fault)), after) :=
  run_of_fetch_error (h.configures_later now later)
    (run_fetch_badProxy h.refreshes.addressed hfault)

end KeepsDownload

/-- A run whose download has become the local copy can be repeated without the download exactly if
the name of the proxy's host, where there is one to be looked up, still has an address. It then
prints the same script, but for when it was made and where its feed came from, and changes nothing.
Otherwise the run fails although the copy is there, and changes nothing either. -/
theorem run_replayed_iff
    (h : KeepsDownload around words store settings path content printed after)
    (hfails : later.download (trimBlanks settings.feedUrl) settings.feedProxy = none)
    (now : Text) :
    ((∃ printed', (run (around.later now later).environment words).run after =
          (.done printed', after) ∧ SameButForOrigin printed printed') ↔
        ∀ name, LooksUp settings name → later.lookUp name = none) ∧
      ∀ name fault, LooksUp settings name → later.lookUp name = some fault →
        (run (around.later now later).environment words).run after =
          (.failed (.fetch (.badProxy (.noAddress fault))), after) := by
  refine ⟨?_, ?_⟩
  · rw [← proxyFault?_eq_none_iff h.exists_gathered.1]
    constructor
    · rintro ⟨printed', hdone, -⟩
      cases hfault : settings.feedProxy.bind later.proxyFault? with
      | none => rfl
      | some fault =>
          rw [h.run_later_of_eq_some hfault] at hdone
          cases hdone
    · intro hfault
      exact h.run_later_of_eq_none hfault hfails now
  · intro name fault hname hlookUp
    refine h.run_later_of_eq_some ?_ now
    rw [proxyFault?_of_looksUp hname, hlookUp]
    rfl

/-- A command line that can be read is carried out where the run succeeds. -/
theorem exists_done_of_exit {args : Arguments} (hargs : Arguments.ofWords words = .ok args)
    (hexit : ((run around.environment words).run store).1.exit = 0) :
    ∃ printed, (run around.environment words).run store =
      (.done printed, ((run around.environment words).run store).2) := by
  obtain ⟨outcome, after, hrun⟩ : ∃ outcome after,
      (run around.environment words).run store = (outcome, after) := ⟨_, _, rfl⟩
  rw [hrun] at hexit ⊢
  rcases run_cases hrun with ⟨_, hoff, -⟩ | ⟨_, -, ⟨_, -, rfl⟩ | ⟨printed, -, rfl⟩⟩
  · rw [hargs] at hoff
    cases hoff
  · cases hexit
  · exact ⟨printed, rfl⟩

/-- The words that name a feed, its local copy, the copy once more as a file of user rules, and a
proxy by the name of its host. -/
def keptWords : List Text :=
  copyWords ++ ["--user-rule-from", "list.txt", "--gfwlist-proxy", "SOCKS5 proxy.test:1080",
    "--precise"].map String.toList

def keptArguments : Arguments where
  feedUrl := some "http://feed.test/".toList
  localCopy := some "list.txt".toList
  userRuleFrom := ["list.txt".toList]
  feedProxy := some "SOCKS5 proxy.test:1080".toList
  precise := some true

/-- Every download is answered with one rule, in Base64, and every name has an address. Of the
suffixes only the one that the rule asks for is there. -/
def ruleSurroundings : Surroundings where
  home := none
  now := "at ten".toList
  builtin? := SuffixRules.registrable? { exact := ["com".toList] }
  answers := { download := fun _ _ => some "fHxhLmNvbQ==".toList, lookUp := fun _ => none }

/-- No download is answered, and every name has an address. -/
def noDownloads : Answers where
  download _ _ := none
  lookUp _ := none

/-- Nothing is answered. -/
def noAnswers : Answers where
  download _ _ := none
  lookUp _ := some .unanswered

/-- A run whose download becomes the local copy. -/
def keptRun : Outcome × Store := (run ruleSurroundings.environment keptWords).run {}

theorem exists_keepsDownload :
    ∃ settings printed, KeepsDownload ruleSurroundings keptWords {} settings "list.txt".toList
        "fHxhLmNvbQ==".toList printed keptRun.2 ∧ LooksUp settings "proxy.test".toList := by
  have hargs : Arguments.ofWords keptWords = .ok keptArguments := by rfl
  obtain ⟨settings, hoverlay⟩ : ∃ settings, Settings.overlay none keptArguments {} = .ok settings :=
    ⟨_, rfl⟩
  have hevaluated : keptRun.1.exit = 0 ∧ (keptRun.2.read "list.txt".toList).toOption =
      some (utf8 "fHxhLmNvbQ==".toList) := by decide +kernel
  obtain ⟨printed, hsucceeds⟩ := exists_done_of_exit hargs hevaluated.1
  have hok : ∀ {answer : Except FileError (List UInt8)} {octets}, answer.toOption = some octets →
      answer = .ok octets := by
    rintro (e | octets) _ h
    · cases h
    · rw [Option.some.inj h]
  have hkept := hok hevaluated.2
  obtain rfl := Except.ok.inj hoverlay
  exact ⟨_, printed, ⟨⟨_, hargs, rfl, rfl⟩, rfl, rfl, ⟨rfl, rfl, by decide, rfl⟩, hsucceeds, hkept⟩,
    _, rfl, by decide +kernel⟩

/-- A run on no files at all is repeated when its copy is there and its proxy is still found. -/
theorem run_replayed_iff_offline :
    ∃ settings printed printed',
      KeepsDownload ruleSurroundings keptWords {} settings "list.txt".toList
        "fHxhLmNvbQ==".toList printed keptRun.2 ∧
      noDownloads.download (trimBlanks settings.feedUrl) settings.feedProxy = none ∧
      (run (ruleSurroundings.later "at noon".toList noDownloads).environment keptWords).run
        keptRun.2 = (.done printed', keptRun.2) ∧
      SameButForOrigin printed printed' := by
  obtain ⟨settings, printed, hkeeps, -⟩ := exists_keepsDownload
  have hfails : noDownloads.download (trimBlanks settings.feedUrl) settings.feedProxy = none := rfl
  obtain ⟨printed', hrun, hsame⟩ :=
    (run_replayed_iff hkeeps hfails "at noon".toList).1.2 fun _ _ => rfl
  exact ⟨settings, printed, printed', hkeeps, hfails, hrun, hsame⟩

/-- Without a network a run cannot be repeated whose proxy has a name that is looked up, although
the copy of its download is there. -/
theorem not_run_replayed :
    (run (ruleSurroundings.later "at noon".toList noAnswers).environment keptWords).run keptRun.2 =
        (.failed (.fetch (.badProxy (.noAddress .unanswered))), keptRun.2) ∧
      ¬∀ (around : Surroundings) (later : Answers) (words : List Text) (store : Store)
          (settings : Settings) (path content printed : Text) (after : Store) (now : Text),
        KeepsDownload around words store settings path content printed after →
          later.download (trimBlanks settings.feedUrl) settings.feedProxy = none →
          ∃ printed', (run (around.later now later).environment words).run after =
            (.done printed', after) ∧ SameButForOrigin printed printed' := by
  obtain ⟨settings, printed, hkeeps, hname⟩ := exists_keepsDownload
  have hfailed := hkeeps.run_later_of_eq_some (proxyFault?_of_looksUp hname noAnswers)
    "at noon".toList
  refine ⟨hfailed, ?_⟩
  intro hall
  obtain ⟨printed', hdone, -⟩ := hall _ noAnswers _ _ _ _ _ _ _ "at noon".toList hkeeps rfl
  rw [hfailed] at hdone
  cases hdone

end PacRules.Program
