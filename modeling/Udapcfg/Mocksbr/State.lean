import Udapcfg.Udap.GetData

/-!
# The two memories of a device

`mocksbr/state.rs`: working memory is what the device runs, NVRAM what survives a reboot.
-/

namespace Mocksbr

open Infra Udap

/-- `DeviceState`. -/
structure DeviceState where
  working : Params
  nvram : Params
deriving DecidableEq

namespace DeviceState

/-- `factory`: both tiers hold the table's factory defaults. -/
def factory : DeviceState :=
  let defaults : Params :=
    OrdMap.empty.insertAll (parameters.map fun p => (p.name, strBytes p.factoryDefault))
  ⟨defaults, defaults⟩

/-- `factory_with`: the seed goes over the defaults, in both tiers. -/
def factoryWith (seed : Params) : DeviceState :=
  ⟨factory.working.extend seed, factory.nvram.extend seed⟩

/-- `get`: the value the device is running. -/
def get (s : DeviceState) (name : String) : Option Bytes := s.working.get? name

/-- `apply_set`: a write to working memory. -/
def applySet (s : DeviceState) (updates : Params) : DeviceState :=
  { s with working := s.working.extend updates }

/-- `apply_save`: working memory to NVRAM. -/
def applySave (s : DeviceState) : DeviceState := { s with nvram := s.working }

/-- `apply_reset`: working memory from NVRAM. -/
def applyReset (s : DeviceState) : DeviceState := { s with working := s.nvram }

end DeviceState

end Mocksbr
