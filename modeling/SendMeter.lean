import SendMeter.History.Trial
import SendMeter.Log.Desk
import SendMeter.Session.Row
import SendMeter.Proofs.Average.ColdStart
import SendMeter.Proofs.Average.Recency
import SendMeter.Proofs.Average.Forgetting
import SendMeter.Proofs.History.Absorption
import SendMeter.Proofs.Rate.Refinement
import SendMeter.Proofs.Rate.Units
import SendMeter.Proofs.Rate.Steady
import SendMeter.Proofs.Rate.Horizon
import SendMeter.Proofs.Fleet.ExactlyOnce
import SendMeter.Proofs.Fleet.Strays
import SendMeter.Proofs.Session.LifeCycle
import SendMeter.Proofs.Session.CallTree
import SendMeter.Proofs.Session.Nesting
import SendMeter.Proofs.Rescaling.Fleet
import SendMeter.Proofs.Session.Independence
import SendMeter.Proofs.Configuration.Shapes
import SendMeter.Proofs.Configuration.ChannelKeys
import SendMeter.Proofs.Registry.Registration
import SendMeter.Proofs.Session.OrderedRegistry
import SendMeter.Proofs.Fleet.Robustness
import SendMeter.Proofs.Fleet.DurationOrder
import SendMeter.Proofs.Fleet.ErrorRatio
import SendMeter.Proofs.Session.Reads
import SendMeter.Proofs.Session.Shutdown
import SendMeter.Proofs.Log.Routing
