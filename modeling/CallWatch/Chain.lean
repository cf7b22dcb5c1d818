/-!
# Fork rules

A `ChainConfig` says from which block on each fork of the chain is active.  `Rules` is what holds
at one block.
-/

namespace CallWatch

/-- The heights from which the forks of a chain are active; a fork without a height never is. -/
structure ChainConfig where
  chainId : UInt64 := 0
  homesteadBlock : Option UInt64 := none
  /-- From here on, empty accounts are not kept and new contracts start with nonce 1. -/
  eip158Block : Option UInt64 := none
  deriving DecidableEq, Repr

/-- The rules in force at one block. -/
structure Rules where
  chainId : UInt64
  isHomestead : Bool
  isEip158 : Bool
  deriving DecidableEq, Repr

namespace ChainConfig

/-- Every fork is active from the first block on. -/
def allForksActive (chainId : UInt64) : ChainConfig where
  chainId
  homesteadBlock := some 0
  eip158Block := some 0

/-- Whether a fork with this height is active at a block. -/
def isActive (height : Option UInt64) (block : UInt64) : Bool :=
  height.any (· ≤ block)

/-- Whether the Homestead fork is active at a block. -/
def isHomestead (chain : ChainConfig) (block : UInt64) : Bool :=
  isActive chain.homesteadBlock block

/-- Whether the state-clearing fork is active at a block. -/
def isEip158 (chain : ChainConfig) (block : UInt64) : Bool :=
  isActive chain.eip158Block block

/-- The rules in force at a block. -/
def rules (chain : ChainConfig) (block : UInt64) : Rules where
  chainId := chain.chainId
  isHomestead := chain.isHomestead block
  isEip158 := chain.isEip158 block

end ChainConfig

end CallWatch
