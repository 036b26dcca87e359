import NestedData.Json.Format
import NestedData.Tree.Text
import NestedData.View.Basic
/-!
Snapshots: a tree, the delimiters and the choice on making what is missing, written as one value. A
snapshot is restored as it stands, its keys uncut; the policy is not part of it.
-/

namespace NestedData

structure Snapshot where
  tree : Tree
  delimiters : List String
  forceCreate : Bool
  deriving Repr

inductive SnapshotError where
  | malformed
  | invalid (e : ConfigError)
  deriving DecidableEq, Repr

def SnapshotError.message : SnapshotError → String
  | .malformed => "container snapshot decoding failed"
  | .invalid e => "container snapshot carries an invalid configuration: " ++ e.message

namespace Snapshot

def ofView (w : View) (t : Tree) : Snapshot := ⟨w.data t, w.config.delimiters, w.config.forceCreate⟩

def value (s : Snapshot) : Value :=
  .array [s.tree.encode, .array (s.delimiters.map .string), .bool s.forceCreate]

def octets (F : Json.Format) (s : Snapshot) : List UInt8 := F.write s.value

def decode? : Json.Literal → Option Snapshot
  | .array [tree, delimiters, forceCreate] => do
    let tree ← Tree.decode? (Json.depthLimit - 1) tree
    let delimiters ← Config.decodeDelimiters? delimiters
    let forceCreate ← Config.decodeBool? forceCreate
    return { tree, delimiters, forceCreate }
  | _ => none

def config (s : Snapshot) : Config := { delimiters := s.delimiters, forceCreate := s.forceCreate }

def ofOctets (F : Json.Format) (octets : List UInt8) : Except SnapshotError Snapshot :=
  match (F.read? octets).bind decode? with
  | none => .error .malformed
  | some s =>
    match s.config.problem? with
    | some e => .error (.invalid e)
    | none => .ok s

end Snapshot
end NestedData
