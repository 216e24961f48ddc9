import Mill.Lib.Group
import Mill.Node.Join

/-! What a daemon knows of the other members of its cluster: the peer map of its Raft transport,
the peers of its WireGuard interface, and the copy of both that `node.json` keeps for the next
start. -/

namespace Mill

def parseDecimal (digits : List Char) : Option Nat :=
  if digits.isEmpty || !digits.all Char.isDigit then none
  else some (digits.foldl (fun n c => n * 10 + (c.toNat - '0'.toNat)) 0)

/-- `text.parse::<u8>()`, which allows for a plus sign and leading zeros. -/
def parseU8 (text : List Char) : Option Nat :=
  let digits :=
    match text with
    | '+' :: rest => rest
    | _ => text
  (parseDecimal digits).filter fun n => n < 256

def parseOctet (text : List Char) : Option (BitVec 8) :=
  if 3 < text.length || (1 < text.length && text.head? == some '0') then none
  else ((parseDecimal text).filter fun n => n < 256).map (BitVec.ofNat 8)

/-- `text.parse::<Ipv4Addr>()`. -/
def parseIpv4 (text : List Char) : Option (BitVec 32) :=
  match (text.splitOn '.').map parseOctet with
  | [some a, some b, some c, some d] => some (a ++ b ++ c ++ d)
  | _ => none

/-- The first address of a subnet such as `10.99.0.0/16`, and the length of its mask. -/
def parseSubnetFirstIp (subnet : String) : Option (IpAddr × Nat) :=
  match subnet.toList.splitOn '/' with
  | [base, mask] => do
    let baseIp ← parseIpv4 base
    let prefixLen ← parseU8 mask
    some (.v4 (baseIp + 1), prefixLen)
  | _ => none

def apiPort : Nat := 4400

def wireguardSubnet : String := "10.99.0.0/16"

def firstTunnelIp : IpAddr := .v4 0x0A630001

lemma parseSubnetFirstIp_wireguardSubnet :
    parseSubnetFirstIp wireguardSubnet = some (firstTunnelIp, 16) := by decide +kernel

structure PeerEntry where
  raftId : Nat
  advertiseAddr : Endpoint
  tunnelIp : IpAddr
  publicKey : String
deriving DecidableEq

/-- `node.json`, as far as a restart reads it for the network. -/
structure NodeIdentity where
  raftId : Nat
  wireguardSubnet : String
  peers : List PeerEntry
deriving DecidableEq

abbrev HttpNetwork := Finmap fun _ : Nat => SocketAddr

def HttpNetwork.setPeer (network : HttpNetwork) (id : Nat) (address : SocketAddr) : HttpNetwork :=
  network.insert id address

structure WireGuard where
  tunnelIp : IpAddr
  peers : Finmap fun _ : String => PeerInfo
deriving DecidableEq

def WireGuard.addPeer (wg : WireGuard) (peer : PeerInfo) : WireGuard :=
  { wg with peers := wg.peers.insert peer.publicKey peer }

structure MeshDaemon where
  identity : NodeIdentity
  network : HttpNetwork
  wireguard : WireGuard
deriving DecidableEq

variable (parseIp : String → Option IpAddr)

def Endpoint.parse : Endpoint → Option SocketAddr
  | .advertised host port =>
    match parseIp host with
    | some (.v4 bits) => some ⟨.v4 bits, port⟩
    | _ => none
  | .address a => some a

def PeerEntry.peerInfo (p : PeerEntry) : PeerInfo :=
  ⟨⟨""⟩, p.publicKey, p.advertiseAddr.parse parseIp, p.tunnelIp⟩

def JoinPeerInfo.entry (p : JoinPeerInfo) : PeerEntry :=
  ⟨p.raftId, p.endpoint, p.tunnelIp, p.publicKey⟩

namespace MeshDaemon

/-- A daemon that has set up its interface and knows the peers in its `node.json`. -/
def withPeers (identity : NodeIdentity) (tunnelIp : IpAddr) (raftPort : Nat) : MeshDaemon where
  identity := identity
  network := identity.peers.foldl (fun net p => net.setPeer p.raftId ⟨p.tunnelIp, raftPort⟩) ∅
  wireguard := identity.peers.foldl (fun wg p => wg.addPeer (p.peerInfo parseIp)) ⟨tunnelIp, ∅⟩

lemma wireguard_withPeers (identity : NodeIdentity) (tunnelIp : IpAddr) (raftPort : Nat) :
    (withPeers parseIp identity tunnelIp raftPort).wireguard = ⟨tunnelIp,
      identity.peers.foldl (fun m p => m.insert p.publicKey (p.peerInfo parseIp)) ∅⟩ := by
  have hfold (ps : List PeerEntry) (wg : WireGuard) :
      ps.foldl (fun wg p => wg.addPeer (p.peerInfo parseIp)) wg = ⟨wg.tunnelIp,
        ps.foldl (fun m p => m.insert p.publicKey (p.peerInfo parseIp)) wg.peers⟩ := by
    induction ps generalizing wg with
    | nil => rfl
    | cons p ps ih =>
      rw [List.foldl_cons, List.foldl_cons, ih]
      rfl
  exact hfold identity.peers ⟨tunnelIp, ∅⟩

section

variable {identity : NodeIdentity} (tunnelIp : IpAddr) (raftPort : Nat) {k : Nat}

lemma mem_network_withPeers : k ∈ (withPeers parseIp identity tunnelIp raftPort).network ↔
    k ∈ identity.peers.map fun p => p.raftId := by
  refine (Finmap.mem_foldl_insert ∅).trans ?_
  rw [or_iff_left (Finmap.notMem_empty)]

lemma exists_network_withPeers (hk : k ∈ identity.peers.map fun p => p.raftId) :
    ∃ p ∈ identity.peers, p.raftId = k ∧
      (withPeers parseIp identity tunnelIp raftPort).network.lookup k =
        some ⟨p.tunnelIp, raftPort⟩ :=
  Finmap.exists_lookup_foldl_insert hk ∅

lemma exists_peer_withPeers {key : String} (hkey : key ∈ identity.peers.map fun p => p.publicKey) :
    ∃ p ∈ identity.peers, p.publicKey = key ∧
      (withPeers parseIp identity tunnelIp raftPort).wireguard.peers.lookup key =
        some (p.peerInfo parseIp) := by
  rw [wireguard_withPeers]
  exact Finmap.exists_lookup_foldl_insert hkey ∅

end

def init : Option MeshDaemon :=
  (parseSubnetFirstIp Mill.wireguardSubnet).map fun (tunnelIp, _) =>
    withPeers parseIp ⟨1, Mill.wireguardSubnet, []⟩ tunnelIp (apiPort + 1)

def join (info : JoinInfoResponse) : MeshDaemon :=
  withPeers parseIp ⟨info.nextRaftId, info.subnet, info.peers.map JoinPeerInfo.entry⟩ info.tunnelIp
    (info.apiPort + 1)

/-- The daemon starts again from its `node.json`: the interface gets the first address of the
subnet, and the peers are those that were written when the node joined. -/
def startFromExisting (identity : NodeIdentity) : Option MeshDaemon :=
  (parseSubnetFirstIp identity.wireguardSubnet).map fun (tunnelIp, _) =>
    withPeers parseIp identity tunnelIp (apiPort + 1)

def addPeer (d : MeshDaemon) (peer : PeerInfo) : MeshDaemon :=
  { d with wireguard := d.wireguard.addPeer peer }

def setPeer (d : MeshDaemon) (id : Nat) (address : SocketAddr) : MeshDaemon :=
  { d with network := d.network.setPeer id address }

end MeshDaemon

end Mill
