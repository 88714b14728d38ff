import DeviceWifi.Lib.Transition
import DeviceWifi.Lib.Program
import DeviceWifi.Lib.BoundedQueue
import DeviceWifi.Lib.SoftTimer
import DeviceWifi.Proofs.Relays
import DeviceWifi.Proofs.FactoryReset
import DeviceWifi.Proofs.Sensors
import DeviceWifi.Proofs.Init
import DeviceWifi.Proofs.Hold
import DeviceWifi.Proofs.FeederShutOff
import DeviceWifi.Proofs.FeederCut
import DeviceWifi.Proofs.FeederArmed
import DeviceWifi.Proofs.Hundredths
import DeviceWifi.Proofs.Routing
import DeviceWifi.Proofs.Exposure
import DeviceWifi.Proofs.Sequential
import DeviceWifi.Proofs.Progress
import DeviceWifi.Proofs.Latency
import DeviceWifi.Proofs.Provenance
import DeviceWifi.Proofs.Sampling
import DeviceWifi.Proofs.ArmedReset
import DeviceWifi.Proofs.Confined
import DeviceWifi.Proofs.Boot
import DeviceWifi.Proofs.Bursts
import DeviceWifi.Proofs.Leds
import DeviceWifi.Proofs.Isolation
import DeviceWifi.Proofs.Commands
import DeviceWifi.Proofs.Configuration
