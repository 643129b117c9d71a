import ServiceDiscovery.Config
import ServiceDiscovery.Target

namespace ServiceDiscovery

structure ResolverBuilder where
  scheme : String
  options : ClientOptions
  watch : WatchConfig

namespace ResolverBuilder

def default : ResolverBuilder := ⟨"consul", .default, .default⟩

def ofConfig (config : Config) : ResolverBuilder :=
  { default with options := config.client, watch := config.watch }

def parseTarget (builder : ResolverBuilder) (raw : String) : Except Failure Target := do
  Target.parse (← stripScheme raw builder.scheme)

end ResolverBuilder

end ServiceDiscovery
