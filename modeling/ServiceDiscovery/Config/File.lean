import ServiceDiscovery.Config

namespace ServiceDiscovery

inductive FileFault where
  | missing | directory | notText
deriving DecidableEq

def FileFault.message : FileFault → String
  | .missing => "No such file or directory (os error 2)"
  | .directory => "Is a directory (os error 21)"
  | .notText => "stream did not contain valid UTF-8"

def fileText (bytes : ByteArray) : Except FileFault String :=
  match String.fromUTF8? bytes with
  | some text => .ok text
  | none => .error .notText

def Config.fileUnreadable : String := "IO 错误"

def Config.ofFile (content : Except FileFault ByteArray) : Except Failure Config :=
  match content.bind fileText with
  | .error fault => .error (.ofCause .internalError fileUnreadable fault.message)
  | .ok text => ofToml text

end ServiceDiscovery
