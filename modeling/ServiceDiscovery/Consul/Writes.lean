import ServiceDiscovery.Consul
import ServiceDiscovery.Registrar

namespace ServiceDiscovery.Consul.Client

def write (client : Client) (transport : Transport) : Registrar.Write → Outcome Unit
  | .register r => client.register transport r
  | .deregister id => client.deregister transport id

def operate (client : Client) (transport : Transport) (operation : Registrar.Operation) :
    Outcome (Option Registration) :=
  let traced := Registrar.run client.address
    (fun write => (client.write transport write).result) operation
  { request := traced.write.bind fun write => (client.write transport write).request
    result := traced.result
    logs := traced.logs }

end ServiceDiscovery.Consul.Client
