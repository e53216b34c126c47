/-
Architectures as far as values need them: a name, and register numbers to and from register names.
`Machine` lists the architectures that come with tables, which are those of gimli 0.31.
-/
import ValueLattice.RegisterTable

namespace ValueLattice

/-- A naming of registers. -/
structure Architecture where
  name : String
  registerName : UInt32 → Option String
  registerIndex : String → Option UInt32

/-- The name of a register found by number names that number again. -/
def Architecture.Inverts (arch : Architecture) : Prop :=
  ∀ index name, arch.registerName index = some name → arch.registerIndex name = some index

/-- The architectures with register tables. -/
inductive Machine
  | x86
  | x8664
  | arm
  | aarch64
  | riscv
  deriving DecidableEq, Repr

namespace Machine

def name : Machine → String
  | x86 => "x86"
  | x8664 => "x86_64"
  | arm => "arm"
  | aarch64 => "aarch64"
  | riscv => "riscv"

/-- The names under which a machine can be asked for, in lower case. -/
def spellings : Machine → List String
  | x86 => ["x86", "i386", "i686"]
  | x8664 => ["x86_64", "x86-64", "amd64"]
  | arm => ["arm", "armv7", "thumb2"]
  | aarch64 => ["aarch64", "arm64"]
  | riscv => ["riscv", "riscv64", "rv64gc"]

def all : List Machine :=
  [x86, x8664, arm, aarch64, riscv]

/-- The machine of that name; letters of the Latin alphabet match in either case. -/
def ofName? (name : String) : Option Machine :=
  let lower := String.ofList (name.toList.map Char.toLower)
  all.find? fun m => lower ∈ m.spellings

open RegisterTable

/-- The names of the registers, one a number. -/
def names : Machine → List (UInt32 × String)
  | x86 => x86Names
  | x8664 => x8664Names
  | arm => armNames
  | aarch64 => aarch64Names
  | riscv => riscvNames

/-- Further names that are understood. -/
def aliases : Machine → List (UInt32 × String)
  | x86 => []
  | x8664 => []
  | arm => armAliases
  | aarch64 => []
  | riscv => riscvAliases

def registerName (m : Machine) (index : UInt32) : Option String :=
  (m.names.find? fun row => row.1 = index).map Prod.snd

def registerIndex (m : Machine) (name : String) : Option UInt32 :=
  ((m.names ++ m.aliases).find? fun row => row.2 = name).map Prod.fst

def architecture (m : Machine) : Architecture where
  name := m.name
  registerName := m.registerName
  registerIndex := m.registerIndex

end Machine

end ValueLattice
