import Kufi.NodeManager.Types
import Kufi.Shared.Dict
import Kufi.Shared.Path

set_option autoImplicit false

/-!
# The node's files

Everything lives under one directory: the node's configuration, its peers and a
file for each join request. The name of a request's file is made from an id
that comes with the request.
-/

namespace Kufi.NodeManager

open Shared

inductive FileContent where
  | config (config : NodeConfig)
  | peers (peers : List PeerInfo)
  | request (req : JoinRequest)
  -- what an interrupted write leaves; no JSON
  | torn
  deriving DecidableEq

inductive WriteOutcome where
  | written
  | failed
  | torn
  deriving DecidableEq

namespace FileContent

-- Members that a structure does not have are ignored and missing ones are zero.
def asRequest : FileContent → Option JoinRequest
  | .request req => some req
  | .config stored => some
      { id := ""
        orgName := stored.orgName
        mspID := stored.mspID
        domain := stored.domain
        mgmtAddr := ""
        orgDefinition := ""
        orgMSPBundle := ""
        status := .empty
        votes := []
        totalPeers := 0
        createdAt := Time.zero
        resolvedAt := none }
  | .peers _ | .torn => none

def asConfig : FileContent → Option NodeConfig
  | .config stored => some stored
  | .request req => some
      { role := .other ""
        orgName := req.orgName
        mspID := req.mspID
        domain := req.domain
        ordererMgmtAddr := "" }
  | .peers _ | .torn => none

def asPeers : FileContent → Option (List PeerInfo)
  | .peers stored => some stored
  | .config _ | .request _ | .torn => none

end FileContent

structure Store where
  baseDir : Path
  files : Dict Path FileContent

namespace Store

variable (s : Store)

def nodeConfigPath : Path := s.baseDir ++ ["node.json"]
def peersPath : Path := s.baseDir ++ ["peers.json"]
def requestPath (id : String) : Path := Path.join (s.baseDir ++ ["requests"]) (id ++ ".json")

def writeJSON (path : Path) (content : FileContent) : WriteOutcome → Bool × Store
  | .written => (true, { s with files := s.files.set path content })
  | .failed => (false, s)
  | .torn => (false, { s with files := s.files.set path .torn })

def loadNodeConfig : Option NodeConfig :=
  (s.files.get s.nodeConfigPath).bind FileContent.asConfig

-- Without a readable list of peers there are none: callers drop the error.
def loadPeers : List PeerInfo :=
  ((s.files.get s.peersPath).bind FileContent.asPeers).getD []

-- A known peer is updated in its place.
def peersWith (peer : PeerInfo) : List PeerInfo :=
  if s.loadPeers.any fun p => p.mspID == peer.mspID then
    s.loadPeers.replaceF fun p => if p.mspID == peer.mspID then some peer else none
  else s.loadPeers ++ [peer]

def addPeer (peer : PeerInfo) (outcome : WriteOutcome) : Store :=
  (s.writeJSON s.peersPath (.peers (s.peersWith peer)) outcome).2

def saveJoinRequest (req : JoinRequest) (outcome : WriteOutcome) : Bool × Store :=
  s.writeJSON (s.requestPath req.id) (.request req) outcome

def loadJoinRequest (id : String) : Option JoinRequest :=
  (s.files.get (s.requestPath id)).bind FileContent.asRequest

end Store

end Kufi.NodeManager
