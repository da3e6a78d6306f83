import FaultDrill.Settings.Check
import FaultDrill.Value.Members

/-!
How the load is generated.
-/

namespace FaultDrill

structure Load where
  /-- How many requests may be under way at once. -/
  concurrency : UInt64 := 10
  deriving DecidableEq

namespace Load

def sectionName : String := "load"

def greatestConcurrency : UInt64 := 1024

def checkValues (load : Load) : Except Flaw Unit := do
  Check.positive "concurrency" load.concurrency.toNat
  if greatestConcurrency < load.concurrency then
    throw (.tooConcurrent greatestConcurrency load.concurrency)

def check (load : Load) : Except SettingsError Unit := inSection sectionName load.checkValues

def toValue (load : Load) : Value := .ofFields [("concurrency", .natural load.concurrency)]

def ofSource? {data : Type} [Source data] (source : data) : Option Load := do
  let members ← Source.members? ["concurrency"] source
  let standard : Load := {}
  some
    { concurrency := ← Source.optional Source.natural? standard.concurrency "concurrency" members }

end Load

end FaultDrill
