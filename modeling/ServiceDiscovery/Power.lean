/-!
Powers of numbers are the core library's, also where another library brings its own.
-/
namespace ServiceDiscovery

attribute [instance (high + 1), default_instance (high + 1)] instPowNat

end ServiceDiscovery
