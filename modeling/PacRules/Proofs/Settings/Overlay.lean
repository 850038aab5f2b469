import PacRules.Settings.Basic

/-!
# The command line over the config file

A setting that may stand in a config file has a value there, on the command line, in both or in
neither. The values are looked at setting by setting, whatever their kind, and the command line's
counts first. So a run is set up as it would be if what the file adds were given on the command
line, and what the file says of a setting that the command line gives makes no difference. That
holds of the failure of a run as well.
-/

namespace PacRules.Settings

open PacRules.Text

/-- The value of a setting. -/
inductive Value where
  | text (t : Text)
  | flag (on : Bool)
  | texts (ts : List Text)
  deriving DecidableEq

namespace Value

/-- The value that a list of texts gives to a setting, if the list is not empty. -/
def ofTexts? : List Text → Option Value
  | [] => none
  | t :: ts => some (.texts (t :: ts))

theorem ofTexts?_injective : Function.Injective ofTexts? := by
  intro ts ts' h
  cases ts <;> cases ts' <;> simp_all [ofTexts?]

theorem map_text_injective : Function.Injective (Option.map text) :=
  Option.map_injective fun _ _ => text.inj

theorem map_flag_injective : Function.Injective (Option.map flag) :=
  Option.map_injective fun _ _ => flag.inj

end Value

/-- The value that a config file gives to a setting. -/
def ConfigFile.value? (file : ConfigFile) : ConfigFile.Key → Option Value
  | .proxy => file.proxy.map .text
  | .feedUrl => file.feedUrl.map .text
  | .feedProxy => file.feedProxy.map .text
  | .localCopy => file.localCopy.map .text
  | .refreshLocalCopy => file.refreshLocalCopy.map .flag
  | .userRuleFrom => Value.ofTexts? (file.userRuleFrom.getD [])
  | .output => file.output.map .text
  | .compress => file.compress.map .flag
  | .base64 => file.base64.map .flag
  | .precise => file.precise.map .flag
  | .pslFile => file.pslFile.map .text

namespace Arguments

/-- The value that a command line gives to a setting of config files. -/
def value? (args : Arguments) : ConfigFile.Key → Option Value
  | .proxy => args.proxy.map .text
  | .feedUrl => args.feedUrl.map .text
  | .feedProxy => args.feedProxy.map .text
  | .localCopy => args.localCopy.map .text
  | .refreshLocalCopy => args.refreshLocalCopy.map .flag
  | .userRuleFrom => Value.ofTexts? args.userRuleFrom
  | .output => args.output.map .text
  | .compress => args.compress.map .flag
  | .base64 => args.base64.map .flag
  | .precise => args.precise.map .flag
  | .pslFile => args.pslFile.map .text

/-- A command line to which the values are added that only the config file gives. -/
def filledFrom (args : Arguments) (file : ConfigFile) : Arguments :=
  { args with
    proxy := args.proxy.or file.proxy
    feedUrl := args.feedUrl.or file.feedUrl
    feedProxy := args.feedProxy.or file.feedProxy
    localCopy := args.localCopy.or file.localCopy
    refreshLocalCopy := args.refreshLocalCopy.or file.refreshLocalCopy
    userRuleFrom :=
      if args.userRuleFrom.isEmpty then file.userRuleFrom.getD [] else args.userRuleFrom
    output := args.output.or file.output
    compress := args.compress.or file.compress
    base64 := args.base64.or file.base64
    precise := args.precise.or file.precise
    pslFile := args.pslFile.or file.pslFile }

variable {args args' : Arguments} {file file' : ConfigFile}

/-- The command line's value counts first. -/
theorem value?_filledFrom (args : Arguments) (file : ConfigFile) (key : ConfigFile.Key) :
    (args.filledFrom file).value? key = (args.value? key).or (file.value? key) := by
  cases key with
  | userRuleFrom =>
      rw [value?, value?, ConfigFile.value?, filledFrom]
      cases args.userRuleFrom <;> rfl
  | _ => exact Option.map_or

/-- Beside the settings of config files a command line tells the user's rules, the place of the
config file and whether messages are wanted, and nothing else. -/
theorem eq_of_value?_eq (h : ∀ key, args.value? key = args'.value? key)
    (hrules : args.userRules = args'.userRules) (hconfig : args.configFrom = args'.configFrom)
    (hverbose : args.verbose = args'.verbose) : args = args' := by
  cases args
  cases args'
  simp only [mk.injEq]
  exact ⟨Value.map_text_injective (h .proxy), Value.map_text_injective (h .feedUrl),
    Value.map_text_injective (h .feedProxy), Value.map_text_injective (h .localCopy),
    Value.map_flag_injective (h .refreshLocalCopy), hrules,
    Value.ofTexts?_injective (h .userRuleFrom), hconfig, Value.map_text_injective (h .output),
    Value.map_flag_injective (h .compress), Value.map_flag_injective (h .base64),
    Value.map_flag_injective (h .precise), Value.map_text_injective (h .pslFile), hverbose⟩

/-- What a file says of settings that the command line gives is not added. -/
theorem filledFrom_congr (h : ∀ key, args.value? key = none → file'.value? key = file.value? key) :
    args.filledFrom file' = args.filledFrom file := by
  refine eq_of_value?_eq ?_ rfl rfl rfl
  intro key
  rw [value?_filledFrom, value?_filledFrom]
  cases hvalue : args.value? key with
  | none => rw [h key hvalue]
  | some value => rfl

end Arguments

/-- A command line filled from a file leaves nothing to the file. -/
theorem overlay_filledFrom (home : Option Text) (args : Arguments) (file : ConfigFile) :
    overlay home (args.filledFrom file) {} = overlay home args file := by
  have hpaths : ∀ paths : List Text, (if paths = [] then [] else paths) = paths := by
    intro paths
    split
    · next hnil => exact hnil.symm
    · rfl
  rw [overlay, overlay]
  simp [Arguments.filledFrom, hpaths]

/-- A run is set up, or refused, as by the command line alone to which each setting that it leaves
open is added from the config file. What the file says of the other settings does not count. -/
theorem commandLine_prevails (home : Option Text) (args : Arguments) (file : ConfigFile) :
    overlay home args file = overlay home (args.filledFrom file) {} ∧
    (∀ key, (args.filledFrom file).value? key = (args.value? key).or (file.value? key)) ∧
    ∀ file' : ConfigFile, (∀ key, args.value? key = none → file'.value? key = file.value? key) →
      overlay home args file' = overlay home args file := by
  refine ⟨(overlay_filledFrom home args file).symm, args.value?_filledFrom file, ?_⟩
  intro file' hopen
  calc overlay home args file' = overlay home (args.filledFrom file') {} :=
        (overlay_filledFrom home args file').symm
    _ = overlay home (args.filledFrom file) {} := by rw [Arguments.filledFrom_congr hopen]
    _ = overlay home args file := overlay_filledFrom home args file

/-- A file with a proxy that is none. -/
def faultyFile : ConfigFile :=
  { feedProxy := some "nonsense".toList, compress := some true, output := some "~/o".toList }

/-- A command line with a blank proxy, which stands for none, and a switch turned off. -/
def settledArguments : Arguments := { feedProxy := some " ".toList, compress := some false }

/-- A file that no run can be set up with does no harm behind such a command line. -/
theorem commandLine_prevails_faulty :
    overlay none {} faultyFile = .error (.invalid "nonsense".toList) ∧
    (∀ key, settledArguments.value? key = none →
      faultyFile.value? key = ({ output := some "~/o".toList } : ConfigFile).value? key) ∧
    overlay none settledArguments faultyFile =
      overlay none settledArguments { output := some "~/o".toList } := by
  have hopen : ∀ key, settledArguments.value? key = none →
      faultyFile.value? key = ({ output := some "~/o".toList } : ConfigFile).value? key := by
    intro key hkey
    cases key with
    | feedProxy => cases hkey
    | compress => cases hkey
    | _ => rfl
  exact ⟨rfl, hopen, (commandLine_prevails none settledArguments _).2.2 faultyFile hopen⟩

end PacRules.Settings
