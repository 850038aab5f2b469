import PacRules.Script.Rules
import PacRules.Settings.Arguments
import PacRules.Settings.ConfigFile
import PacRules.Settings.FeedProxy
import PacRules.Settings.Home

/-!
# Settings

What a run is to do: the command line laid over the config file, and defaults under both. A
file's value counts only where the command line has none of its own, even if the latter is
blank or a no. Paths may begin with a tilde.
-/

namespace PacRules

open PacRules.Text PacRules.Script PacRules.Settings

/-- Everything that decides what a run does. -/
structure Settings where
  /-- what a script answers where a request goes through the proxy -/
  proxy : Text
  feedUrl : Text
  /-- the address of the proxy for fetching -/
  feedProxy : Option Text
  localCopy : Option Text
  refreshLocalCopy : Bool
  userRules : List Text
  userRuleFiles : List Text
  output : Option Text
  compress : Bool
  base64 : Bool
  mode : Mode
  pslFile : Option Text
  deriving DecidableEq

namespace Settings

def usualFeed : Text :=
  "https://raw.githubusercontent.com/gfwlist/gfwlist/master/gfwlist.txt".toList

def usualProxy : Text := "DIRECT".toList

/-- The address of the proxy for fetching, where one is given that is not blank. -/
def feedProxyAddress : Option Text → Except ProxyError (Option Text)
  | none => .ok none
  | some raw => if (trimBlanks raw).isEmpty then .ok none else (proxyAddress raw).map some

def overlay (home : Option Text) (args : Arguments) (file : ConfigFile) :
    Except ProxyError Settings := do
  let feedProxy ← feedProxyAddress (args.feedProxy.or file.feedProxy)
  let userRuleFiles :=
    if args.userRuleFrom.isEmpty then file.userRuleFrom.getD [] else args.userRuleFrom
  let precise := (args.precise.or file.precise).getD false
  return {
    proxy := (args.proxy.or file.proxy).getD usualProxy
    feedUrl := (args.feedUrl.or file.feedUrl).getD usualFeed
    feedProxy
    localCopy := (args.localCopy.or file.localCopy).map (resolveTilde home)
    refreshLocalCopy := (args.refreshLocalCopy.or file.refreshLocalCopy).getD true
    userRules := args.userRules
    userRuleFiles := userRuleFiles.map (resolveTilde home)
    output := (args.output.or file.output).map (resolveTilde home)
    compress := (args.compress.or file.compress).getD false
    base64 := (args.base64.or file.base64).getD false
    mode := if precise then .precise else .standard
    pslFile := (args.pslFile.or file.pslFile).map (resolveTilde home) }

end Settings

end PacRules
