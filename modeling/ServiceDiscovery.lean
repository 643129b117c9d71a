import ServiceDiscovery.Config.File
import ServiceDiscovery.Log.Setup
import ServiceDiscovery.Proofs.Address.Rendering
import ServiceDiscovery.Proofs.Backoff.Doubling
import ServiceDiscovery.Proofs.Balance.Convergence
import ServiceDiscovery.Proofs.Balance.Delivery
import ServiceDiscovery.Proofs.Broadcast.Latest
import ServiceDiscovery.Proofs.Consul.Growth
import ServiceDiscovery.Proofs.Consul.Query
import ServiceDiscovery.Proofs.Consul.Secrecy
import ServiceDiscovery.Proofs.Consul.Waiting
import ServiceDiscovery.Proofs.Json.Records
import ServiceDiscovery.Proofs.Registrar.Discovery
import ServiceDiscovery.Proofs.Registrar.Identity
import ServiceDiscovery.Proofs.Resolver.Launch
import ServiceDiscovery.Proofs.Resolver.Lifecycle
import ServiceDiscovery.Proofs.Target.RoundTrip
import ServiceDiscovery.Proofs.Watcher.Agreement
import ServiceDiscovery.Proofs.Watcher.Chronicle
