import Fingerprint.Event
import Fingerprint.MessagePack.Decode
import Fingerprint.Plugin.Document
import Fingerprint.Storage.FileTree

/-!
The catalog cache: one file with the plugins that were read before.
-/

namespace Fingerprint.CatalogCache

/-- The bytes of a cache. -/
def encode (specs : List Plugin.Spec) : List UInt8 :=
  MessagePack.encode (.list (specs.map (·.toData)))

/-- The plugins that bytes denote. -/
def decode (bytes : List UInt8) : Except Failure (List Plugin.Spec) :=
  match (MessagePack.decode? bytes).bind (Data.listOf? Plugin.Spec.ofData?) with
  | some specs => .ok specs
  | none => .error .messagePackMalformed

/-- The plugins of a cache. -/
def load (tree : FileTree) (path : String) : Except Failure (List Plugin.Spec) := do
  decode (← tree.read path)

/-- Writes a cache, or tells that it cannot be written. -/
def save (tree : FileTree) (path : String) (specs : List Plugin.Spec) : Except Failure FileTree :=
  (tree.write path (encode specs)).mapError (.cacheUnwritable path)

/-- Removes a cache if there is one. -/
def clear (tree : FileTree) (path : String) : Except Failure FileTree :=
  match tree.lookup path with
  | .error .missing => .ok tree
  | .ok (_, .file _) => tree.remove path
  | _ => .error .systemRefused

def loadEvents (loaded : Except Failure (List Plugin.Spec)) : List Event :=
  match loaded with
  | .ok specs => [.cacheDecoded specs.length]
  | .error _ => []

def saveEvents (specs : List Plugin.Spec) : List Event := [.cacheEncoded (encode specs).length]

end Fingerprint.CatalogCache
