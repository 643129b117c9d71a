import ServiceDiscovery.Resolver
import ServiceDiscovery.Text.Ascii

namespace ServiceDiscovery

open Text

structure Plugin (H : Type) where
  scheme : String
  build : String → Attempt H

def Attempt.map (f : α → β) (attempt : Attempt α) : Attempt β :=
  ⟨attempt.result.map f, attempt.logs⟩

def ResolverBuilder.plugin (builder : ResolverBuilder) (inRuntime : Bool) (handle : Resolver → H) :
    Plugin H :=
  ⟨builder.scheme, fun uri => (builder.build inRuntime uri).map handle⟩

-- The plugins by lower case scheme, in the order of the schemes.
structure SchemeRegistry (H : Type) where
  plugins : List (String × Plugin H)

namespace SchemeRegistry

def empty : SchemeRegistry H := ⟨[]⟩

def put (scheme : String) (plugin : Plugin H) :
    List (String × Plugin H) → List (String × Plugin H)
  | [] => [(scheme, plugin)]
  | (s, p) :: rest =>
    if scheme = s then (scheme, plugin) :: rest
    else if scheme < s then (scheme, plugin) :: (s, p) :: rest
    else (s, p) :: put scheme plugin rest

def get? (registry : SchemeRegistry H) (scheme : String) : Option (Plugin H) :=
  registry.plugins.lookup (lower scheme)

def register (registry : SchemeRegistry H) (plugin : Plugin H) :
    SchemeRegistry H × Option (Plugin H) × List Log.Event :=
  let scheme := lower plugin.scheme
  (⟨put scheme plugin registry.plugins⟩, registry.get? scheme,
    [⟨.info, "Registering resolver plugin", [("scheme", .text scheme)]⟩])

def schemes (registry : SchemeRegistry H) : List String := registry.plugins.map (·.1)

def build (registry : SchemeRegistry H) (uri : String) : Attempt H :=
  match splitScheme? uri.toList with
  | none => ⟨.error (.invalidUri uri), []⟩
  | some (scheme, _) =>
    match registry.get? (.ofList scheme) with
    | none => ⟨.error (.unsupportedScheme (.ofList scheme)), []⟩
    | some plugin => plugin.build uri

end SchemeRegistry

end ServiceDiscovery
