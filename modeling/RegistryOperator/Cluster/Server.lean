import RegistryOperator.Cluster.Store
import RegistryOperator.Resource.Manifest
import RegistryOperator.Resource.Deployment
import RegistryOperator.Watch.Basic

/-! An API server in memory. It stores documents by collection and name, numbers every change, and
keeps all changes for those who watch. Replies can be laid down for the next requests of a kind, in
place of what the server would do. -/

namespace RegistryOperator

/-- A document as the server stores it. -/
structure StoredDocument where
  collection : String
  name : String
  document : Json

/-- What a change did. -/
inductive ChangeType
  | added
  | modified
  | deleted
deriving DecidableEq, Repr

def ChangeType.word : ChangeType → String
  | .added => "ADDED"
  | .modified => "MODIFIED"
  | .deleted => "DELETED"

/-- A change, and the document after it or, if it is gone, before it. -/
structure ServerChange where
  version : Nat
  type : ChangeType
  stored : StoredDocument

/-- A reply to the next requests of a method to a path. -/
structure LaidDown where
  method : String
  path : String
  times : Nat
  /-- The reply; none if there never is one. -/
  reply : Option Reply

/-- The server. -/
structure Server where
  documents : List StoredDocument := []
  version : Nat := 0
  /-- The changes, the last one first. -/
  changes : List ServerChange := []
  laidDown : List LaidDown := []
  /-- Whether deployments stay when they are deleted. -/
  sticky : Bool := false

namespace Server

def metaMember? (key : String) (document : Json) : Option Json :=
  (document.get? "metadata").bind (·.get? key)

def membersOf : Json → List (String × Json)
  | .obj members => members
  | _ => []

/-- Puts a member into a document, or takes it away. -/
def withMember (key : String) (value : Option Json) (document : Json) : Json :=
  match value with
  | some value => .obj (Json.put key value (membersOf document))
  | none => .obj ((membersOf document).filter (·.1 ≠ key))

/-- Puts a member into a document's metadata, or takes it away. -/
def withMeta (key : String) (value : Option Json) (document : Json) : Json :=
  let metadata := (document.get? "metadata").getD .null
  withMember "metadata" (some (withMember key value metadata)) document

def atGeneration (n : Int) (document : Json) : Json :=
  withMeta "generation" (some (.int n)) document

def generationOf (document : Json) : Int :=
  match metaMember? "generation" document with
  | some (.num (.whole n)) => n
  | _ => 0

/-- A document with another spec, at the next generation. -/
def withSpec (spec : Option Json) (document : Json) : Json :=
  atGeneration (generationOf document + 1) (withMember "spec" spec document)

/-- Whether two optional documents are equal. -/
def sameOption : Option Json → Option Json → Bool
  | some a, some b => a.same b
  | none, none => true
  | _, _ => false

/-- Whether a document is to be deleted and nothing holds it. -/
def isGone (document : Json) : Bool :=
  (metaMember? "deletionTimestamp" document).isSome &&
    match metaMember? "finalizers" document with
    | some (.arr (_ :: _)) => false
    | _ => true

/-- The document of a name in a collection. -/
def find? (s : Server) (collection name : String) : Option Json :=
  (s.documents.find? fun d => d.collection = collection ∧ d.name = name).map (·.document)

def without (s : Server) (collection name : String) : List StoredDocument :=
  s.documents.filter fun d => ¬(d.collection = collection ∧ d.name = name)

def store (s : Server) (collection name : String) (document : Json) : Json × Server :=
  let version := s.version + 1
  let document := withMeta "resourceVersion" (some (.str (toString version))) document
  let type := if (s.find? collection name).isSome then ChangeType.modified else .added
  let stored := ⟨collection, name, document⟩
  (document, { s with
    documents := s.without collection name ++ [stored]
    version
    changes := ⟨version, type, stored⟩ :: s.changes })

def remove (s : Server) (collection name : String) : Server :=
  match s.find? collection name with
  | none => s
  | some document =>
    let version := s.version + 1
    let document := withMeta "resourceVersion" (some (.str (toString version))) document
    { s with
      documents := s.without collection name
      version
      changes := ⟨version, .deleted, ⟨collection, name, document⟩⟩ :: s.changes }

def edit (s : Server) (collection name : String) (f : Json → Json) : Server :=
  match s.find? collection name with
  | none => s
  | some document => (s.store collection name (f document)).2

/-- Puts a document in place of what is stored. It gets the name that it is put under. -/
def put (s : Server) (collection name : String) (document : Json) : Server :=
  (s.store collection name (withMeta "name" (some (.str name)) document)).2

def registries : String := ImageRegistry.kind.path none

/-- Someone edits the spec of the registry. -/
def editSpec (s : Server) (spec : Json) : Server :=
  s.edit registries ImageRegistry.clusterName (withSpec (some spec))

/-- Someone asks for the registry to be deleted. -/
def requestDeletion (s : Server) (time : Timestamp) : Server :=
  s.edit registries ImageRegistry.clusterName
    (withMeta "deletionTimestamp" (some (.str time.textSeconds)))

def setDeploymentStatus (s : Server) (ns : String) (status : Json) : Server :=
  s.edit (Deployment.kind.path (some ns)) registryName (withMember "status" (some status))

def layDown (s : Server) (l : LaidDown) : Server := { s with laidDown := s.laidDown ++ [l] }

/-- A document without its version; null if there is none. -/
def shown (s : Server) (collection name : String) : Json :=
  ((s.find? collection name).map (withMeta "resourceVersion" none)).getD .null

def reply (document : Json) : Reply := .ok ⟨200, .ok document.text⟩

def create (s : Server) (collection name : String) (document : Json) : Reply × Server :=
  if (s.find? collection name).isSome then (Cluster.refusedReply 409 "AlreadyExists", s)
  else
    let (document, s) := s.store collection name (atGeneration 1 document)
    (reply document, s)

/-- Makes a document what it is said to be: new, or with another spec, or as it is. -/
def apply (s : Server) (collection name : String) (document : Json) : Reply × Server :=
  match s.find? collection name with
  | none => s.create collection name document
  | some stored =>
    if sameOption (stored.get? "spec") (document.get? "spec") then (reply stored, s)
    else
      let (stored, s) := s.store collection name (withSpec (document.get? "spec") stored)
      (reply stored, s)

/-- Writes a document that is based on the stored version. -/
def replace (s : Server) (collection name : String) (document : Json) (f : Json → Json) :
    Reply × Server :=
  match s.find? collection name with
  | none => (Cluster.refusedReply 404 "NotFound", s)
  | some stored =>
    if metaMember? "resourceVersion" stored = metaMember? "resourceVersion" document then
      let (stored, s) := s.store collection name (f stored)
      (reply stored, if isGone stored then s.remove collection name else s)
    else (Cluster.refusedReply 409 "Conflict", s)

/-- The stored document with the spec and the finalizers of another. -/
def merged (document stored : Json) : Json :=
  let stored :=
    if sameOption (stored.get? "spec") (document.get? "spec") then stored
    else withSpec (document.get? "spec") stored
  withMeta "finalizers" (metaMember? "finalizers" document) stored

def delete (s : Server) (collection name : String) : Reply × Server :=
  match s.find? collection name with
  | none => (Cluster.refusedReply 404 "NotFound", s)
  | some stored =>
    let stays := s.sticky && collection.endsWith ("/" ++ Deployment.kind.plural)
    (reply stored, if stays then s else s.remove collection name)

/-- The document of a list of all documents of a collection. -/
def listing (s : Server) (collection : String) : Json :=
  .obj [("metadata", .obj [("resourceVersion", .str (toString s.version))]),
    ("items", .arr ((s.documents.filter (·.collection = collection)).map (·.document)))]

/-- The part of a path before its last stroke, and the part after it. -/
def splitPath (path : String) : String × String :=
  let reversed := path.toList.reverse
  (String.ofList (reversed.dropWhile (· ≠ '/')).tail.reverse,
    String.ofList (reversed.takeWhile (· ≠ '/')).reverse)

/-- What the server does with a request about one document. A new one is sent to its collection. -/
def perform (s : Server) (r : Request) : Reply × Server :=
  let (collection, name) := splitPath r.path
  let body := r.body.getD .null
  match r.method with
  | .post =>
    match metaMember? "name" body with
    | some (.str name) => s.create r.path name body
    | _ => (Cluster.refusedReply 422 "Invalid", s)
  | .patch => s.apply collection name body
  | .put =>
    if name = "status" then
      let (collection, name) := splitPath collection
      s.replace collection name body (withMember "status" (body.get? "status"))
    else s.replace collection name body (merged body)
  | .delete => s.delete collection name
  | .get =>
    (match s.find? collection name with
      | some stored => reply stored
      | none => Cluster.refusedReply 404 "NotFound", s)

/-- The reply that is laid down for a request, if there is one, and what is laid down after it. -/
def takeLaidDown (method path : String) : List LaidDown → Option (Option Reply) × List LaidDown
  | [] => (none, [])
  | l :: rest =>
    if l.method = method ∧ l.path = path ∧ l.times ≠ 0 then
      (some l.reply, { l with times := l.times - 1 } :: rest)
    else
      let (found, rest) := takeLaidDown method path rest
      (found, l :: rest)

/-- The server's answer to a request of a method, which `act` gives unless a reply is laid down. -/
def answer (s : Server) (method path : String) (act : Server → Reply × Server) :
    Option Reply × Server :=
  match takeLaidDown method path s.laidDown with
  | (some r, laidDown) => (r, { s with laidDown })
  | (none, _) =>
    let (r, s) := act s
    (some r, s)

/-- The answer to a request about one document; none if it never comes. -/
def send (r : Request) (s : Server) : Option Reply × Server :=
  s.answer r.method.name r.path (·.perform r)

def list (s : Server) (path : String) : Option Reply × Server :=
  s.answer "LIST" path fun s => (reply (s.listing path), s)

/-- The first change of a collection after a version. -/
def changeAfter (s : Server) (collection : String) (version : Nat) : Option ServerChange :=
  (s.changes.reverse.find? fun c => version < c.version ∧ c.stored.collection = collection)

/-- The line of a stream that tells a change. -/
def lineOf (c : ServerChange) : String :=
  (Json.obj [("type", .str c.type.word), ("object", c.stored.document)]).text

end Server
end RegistryOperator
