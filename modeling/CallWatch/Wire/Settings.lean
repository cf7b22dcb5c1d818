import CallWatch.Chain
import CallWatch.Machine.Config
import CallWatch.Watch.Config
import CallWatch.Wire.Form

/-!
# Wire forms of settings

Settings are records in which every field may be missing; it then has its default value.
-/

namespace CallWatch

/-- The fork heights of a chain as a record. -/
def ChainConfig.form : Form ChainConfig where
  write chain := .object [
    ("chain_id", Form.counter.write chain.chainId),
    ("homestead_block", (Form.optional .counter).write chain.homesteadBlock),
    ("eip158_block", (Form.optional .counter).write chain.eip158Block)]
  read? v := do
    let [chainId, homesteadBlock, eip158Block] ←
      Form.fields? ["chain_id", "homestead_block", "eip158_block"] 3 v | none
    let default : ChainConfig := {}
    return {
      chainId := ← Form.defaulted? .counter default.chainId chainId
      homesteadBlock := ←
        Form.defaulted? (.optional .counter) default.homesteadBlock homesteadBlock
      eip158Block := ← Form.defaulted? (.optional .counter) default.eip158Block eip158Block }

/-- The switches of a machine as a record. -/
def MachineConfig.form : Form MachineConfig where
  write config := .object [
    ("no_recursion", Form.flag.write config.noRecursion),
    ("max_call_depth", Form.counter.write config.maxCallDepth)]
  read? v := do
    let [noRecursion, maxCallDepth] ← Form.fields? ["no_recursion", "max_call_depth"] 2 v | none
    let default : MachineConfig := {}
    return {
      noRecursion := ← Form.defaulted? .flag default.noRecursion noRecursion
      maxCallDepth := ← Form.defaulted? .counter default.maxCallDepth maxCallDepth }

/-- The settings of watchdogs as a record. -/
def WatchConfig.form : Form WatchConfig where
  write config := .object [
    ("enabled", Form.flag.write config.isEnabled),
    ("endpoint", Form.text.write config.endpoint),
    ("timeout_secs", Form.counter.write config.timeoutSecs),
    ("jsonl_path", (Form.optional .text).write config.jsonlPath)]
  read? v := do
    let [isEnabled, endpoint, timeoutSecs, jsonlPath] ←
      Form.fields? ["enabled", "endpoint", "timeout_secs", "jsonl_path"] 4 v | none
    let default : WatchConfig := {}
    return {
      isEnabled := ← Form.defaulted? .flag default.isEnabled isEnabled
      endpoint := ← Form.defaulted? .text default.endpoint endpoint
      timeoutSecs := ← Form.defaulted? .counter default.timeoutSecs timeoutSecs
      jsonlPath := ← Form.defaulted? (.optional .text) default.jsonlPath jsonlPath }

end CallWatch
