import MinuteWindow.Telemetry.Counters
/-! The process-wide metrics recorder.

A process has one recorder slot. Installing the exporter claims it; a second installation in the
same process fails and leaves the first one in place. -/
namespace MinuteWindow.Telemetry

/-- The recorder slot of a process. -/
structure Recorder where
  installed : Bool
  deriving DecidableEq, Repr

/-- Why a second installation fails. -/
def alreadyInstalled : String :=
  "prometheus: install recorder: failed to install exporter as global recorder: " ++
  "attempted to set a recorder after the metrics system was already initialized: " ++
  "attempted to set a recorder after the metrics system was already initialized"

/-- Installs the exporter as the process's recorder. -/
def Recorder.install (r : Recorder) : Except String Recorder :=
  if r.installed then .error alreadyInstalled else .ok ⟨true⟩

end MinuteWindow.Telemetry
