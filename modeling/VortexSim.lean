import VortexSim.State.Store
import VortexSim.Isa.Arithmetic
import VortexSim.Isa.Encoding
import VortexSim.Simt.Regions
import VortexSim.State.FrontierRun
import VortexSim.State.JointDelivery
import VortexSim.Core.PhaseRun
import VortexSim.Core.FirstFit
import VortexSim.Device.Resume
import VortexSim.Memsys.ExternalContract
import VortexSim.Timing.Cancel
import VortexSim.Timing.Dependencies
import VortexSim.Warp.MaskedLanes
