import ServiceDiscovery.Url.Domain
import ServiceDiscovery.Url.Percent

namespace ServiceDiscovery.Url

def host? (s : List Char) : Option String :=
  match s with
  | '[' :: rest =>
    if rest.getLast? = some ']' then
      (ipv6? rest.dropLast).map fun pieces => "[" ++ ipv6Text pieces ++ "]"
    else none
  | _ => do
    let decoded ← decoded? s
    let domain ← Domain.ascii? decoded.toList
    if domain = [] then none
    else if endsInNumber domain then (ipv4? domain).map ipv4Text
    else some (.ofList domain)

end ServiceDiscovery.Url
